import BlobFs.Credential.Basic
import BlobFs.Proofs.Outcome
import BlobFs.Proofs.Text.Cut
import Mathlib.Data.List.Forall2

/-!
# What a description of a secret shows

Secrets hold values that prove an identity: client secrets, passwords, and inside connection strings
the keys of accounts and signatures.  Two secrets that differ in nothing else look alike
(`Secret.LooksLike`), and this file shows that they do: they have one description
(`Secret.LooksLike.debug_eq`), they can be read or not for the same reason, and what is read from
them has one description too (`AzureSecret.ofSecret_alike`, `AzureSecret.LooksLike.debug_eq`).

For connection strings this goes by parts.  `ConnectionString.SameText` compares two texts part by
part, so parts may be repeated, be blank or say nothing, and keys may be in any letter case.  What
is read from such texts has the same keys in the same order, and the same value for every key that
is not hidden (`ConnectionString.LooksLike.get?_eq`).

Secrets and settings are maps in which some names stand for hidden values and one stands for a
connection string.  `Masking` says which, for either of them, and two maps that differ in nothing
else have values for the same names (`Masking.SameEntries.rel_filter`).
-/

set_option autoImplicit false

namespace BlobFs

/-! ## Connection strings -/

namespace ConnectionString

/-- The keys whose values prove an identity, in any letter case. -/
def IsHidden (key : String) : Prop :=
  Text.eqIgnoringCase key "AccountKey" = true ∨
    Text.eqIgnoringCase key "SharedAccessSignature" = true

instance : DecidablePred IsHidden :=
  fun _ ↦ inferInstanceAs (Decidable (_ ∨ _))

/-- Two parts of a connection string that differ at most in the value of a hidden key. -/
inductive SamePart : String → String → Prop
  | same (part : String) : SamePart part part
  | hidden {key : String} (value value' : String) (first : '=' ∉ key.toList)
      (hidden : IsHidden (Text.trim key)) : SamePart (key ++ "=" ++ value) (key ++ "=" ++ value')

/-- Two texts of connection strings that differ at most in the values of hidden keys. -/
def SameText (raw raw' : String) : Prop :=
  List.Forall₂ SamePart (Text.pieces ';' raw) (Text.pieces ';' raw')

/-- Two pairs that differ at most in the value of a hidden key. -/
inductive SamePair : String × String → String × String → Prop
  | same (pair : String × String) : SamePair pair pair
  | hidden {key : String} (value value' : String) (hidden : IsHidden key) :
      SamePair (key, value) (key, value')

/-- Two connection strings that differ at most in the values of hidden keys. -/
def LooksLike (cs cs' : ConnectionString) : Prop :=
  List.Forall₂ SamePair cs.pairs cs'.pairs

theorem LooksLike.refl (cs : ConnectionString) : cs.LooksLike cs :=
  List.forall₂_same.2 fun pair _ ↦ .same pair

/-! ### As texts -/

/-- Texts that differ at all have a part with a value. -/
theorem SameText.eq_or_mem {raw raw' : String} (h : SameText raw raw') :
    raw = raw' ∨ '=' ∈ raw.toList ∧ '=' ∈ raw'.toList := by
  have hparts (parts parts' : List String) (hsame : List.Forall₂ SamePart parts parts') :
      parts = parts' ∨ ∃ part ∈ parts, ∃ part' ∈ parts', '=' ∈ part.toList ∧ '=' ∈ part'.toList := by
    induction hsame with
    | nil => exact .inl rfl
    | cons hpart _ ih =>
      cases hpart with
      | hidden value value' =>
        exact .inr ⟨_, List.mem_cons_self, _, List.mem_cons_self, by simp, by simp⟩
      | same part =>
        rcases ih with rfl | ⟨p, hp, q, hq, hvalues⟩
        · exact .inl rfl
        · exact .inr ⟨p, List.mem_cons_of_mem _ hp, q, List.mem_cons_of_mem _ hq, hvalues⟩
  rcases hparts _ _ h with heq | ⟨p, hp, q, hq, hvalue, hvalue'⟩
  · exact .inl (Text.eq_of_pieces_eq heq)
  · exact .inr ⟨Text.mem_of_mem_pieces hp hvalue, Text.mem_of_mem_pieces hq hvalue'⟩

theorem SameText.isEmpty_eq {raw raw' : String} (h : SameText raw raw') :
    raw.isEmpty = raw'.isEmpty := by
  have hfilled (text : String) (hvalue : '=' ∈ text.toList) : text.isEmpty = false := by
    rw [String.isEmpty_eq_false_iff]
    rintro rfl
    cases hvalue
  rcases h.eq_or_mem with rfl | ⟨hvalue, hvalue'⟩
  · rfl
  · rw [hfilled raw hvalue, hfilled raw' hvalue']

theorem SameText.isBlankText_eq {raw raw' : String} (h : SameText raw raw') :
    Text.isBlankText raw = Text.isBlankText raw' := by
  have hfilled (text : String) (hvalue : '=' ∈ text.toList) : Text.isBlankText text = false :=
    List.all_eq_false.2 ⟨'=', hvalue, by decide⟩
  rcases h.eq_or_mem with rfl | ⟨hvalue, hvalue'⟩
  · rfl
  · rw [hfilled raw hvalue, hfilled raw' hvalue']

/-! ### As pairs -/

theorem parsePart_rel {part part' : String} (h : SamePart part part') :
    Option.Rel SamePair (parsePart part) (parsePart part') := by
  cases h with
  | same =>
    cases parsePart part with
    | none => exact .none
    | some pair => exact .some (.same pair)
  | @hidden key value value' first hidden =>
    have hcut (value : String) : Text.cut? '=' (key ++ "=" ++ value) = some (key, value) :=
      Text.cut?_eq_some_iff.2 ⟨by simp, first⟩
    simp only [parsePart, hcut]
    split
    · exact .none
    · exact .some (.hidden _ _ hidden)

/-- Texts that differ at most in the values of hidden keys are read alike. -/
theorem SameText.looksLike {raw raw' : String} (h : SameText raw raw') :
    (parse raw).LooksLike (parse raw') :=
  List.rel_filterMap (fun _ _ hpart ↦ parsePart_rel hpart) h

theorem IsHidden.of_eqIgnoringCase {key key' : String} (h : IsHidden key)
    (hkeys : Text.eqIgnoringCase key key' = true) : IsHidden key' := by
  simp only [IsHidden, Text.eqIgnoringCase, beq_iff_eq] at h hkeys ⊢
  rwa [← hkeys]

/-- A search for a key that is not hidden passes over hidden values, and so ends at the same pair. -/
theorem find?_map_eq {pairs pairs' : List (String × String)} {key : String}
    (h : List.Forall₂ SamePair pairs pairs') (hkey : ¬ IsHidden key) :
    (pairs.find? fun pair ↦ Text.eqIgnoringCase pair.1 key).map Prod.snd =
      (pairs'.find? fun pair ↦ Text.eqIgnoringCase pair.1 key).map Prod.snd := by
  induction h with
  | nil => rfl
  | cons hpair _ ih =>
    cases hpair with
    | same pair =>
      rw [List.find?_cons, List.find?_cons]
      split
      · rfl
      · exact ih
    | @hidden other value value' hidden =>
      have hother : Text.eqIgnoringCase other key = false :=
        Bool.eq_false_iff.2 fun hkeys ↦ hkey (hidden.of_eqIgnoringCase hkeys)
      simp only [List.find?_cons, hother]
      exact ih

/-- **Every value but the hidden ones is the same.** -/
theorem LooksLike.get?_eq {cs cs' : ConnectionString} (h : cs.LooksLike cs') {key : String}
    (hkey : ¬ IsHidden key) : cs.get? key = cs'.get? key := by
  rw [get?, get?, find?_map_eq h hkey]

section

variable {cs cs' : ConnectionString}

theorem LooksLike.accountName_eq (h : cs.LooksLike cs') : cs.accountName = cs'.accountName :=
  h.get?_eq (by decide)

theorem LooksLike.usesDevelopmentStorage_eq (h : cs.LooksLike cs') :
    cs.usesDevelopmentStorage = cs'.usesDevelopmentStorage := by
  have hvalue : cs.get? "UseDevelopmentStorage" = _ := h.get?_eq (by decide)
  rw [usesDevelopmentStorage, usesDevelopmentStorage, hvalue]

theorem LooksLike.blobEndpoint_eq (h : cs.LooksLike cs') : cs.blobEndpoint = cs'.blobEndpoint := by
  have hendpoint : cs.get? "BlobEndpoint" = _ := h.get?_eq (by decide)
  have hprotocol : cs.get? "DefaultEndpointsProtocol" = _ := h.get?_eq (by decide)
  have hsuffix : cs.get? "EndpointSuffix" = _ := h.get?_eq (by decide)
  rw [blobEndpoint, blobEndpoint, hendpoint, hprotocol, hsuffix, h.usesDevelopmentStorage_eq,
    h.accountName_eq]

theorem LooksLike.matchesAccount_eq (h : cs.LooksLike cs') (account : String) :
    cs.matchesAccount account = cs'.matchesAccount account := by
  rw [matchesAccount, matchesAccount, h.accountName_eq]

theorem LooksLike.debug_eq (h : cs.LooksLike cs') : cs.debug = cs'.debug := by
  rw [debug, debug, h.accountName_eq, h.blobEndpoint_eq]

end

end ConnectionString

/-! ## Maps of values -/

/-- What the values of a map show: all of them but the ones that are hidden, and of a connection
string what is not hidden in it. -/
structure Masking where
  /-- The names of the values that are hidden as a whole. -/
  hidden : List String
  /-- The name of the connection string. -/
  connectionString : String
  /-- Whether a value counts as set. -/
  isSet : String → Bool
  /-- What is hidden in a connection string does not decide whether it is set. -/
  isSet_eq {raw raw' : String} (h : ConnectionString.SameText raw raw') : isSet raw = isSet raw'

namespace Masking

/-- Two values of a name that differ at most in what is hidden. -/
inductive SameValue (mask : Masking) (key : String) : String → String → Prop
  | same (value : String) : SameValue mask key value value
  | hidden {value value' : String} (named : key ∈ mask.hidden) (isSet : mask.isSet value = true)
      (isSet' : mask.isSet value' = true) : SameValue mask key value value'
  | connectionString {raw raw' : String} (named : key = mask.connectionString)
      (text : ConnectionString.SameText raw raw') : SameValue mask key raw raw'

/-- Two maps that differ at most in what is hidden. -/
def SameEntries (mask : Masking) (m m' : Entries) : Prop :=
  ∀ key, Option.Rel (mask.SameValue key) (m.get? key) (m'.get? key)

variable {mask : Masking} {m m' : Entries} {key : String}

theorem SameValue.isSet_eq {value value' : String} (h : mask.SameValue key value value') :
    mask.isSet value = mask.isSet value' := by
  cases h with
  | same => rfl
  | hidden _ isSet isSet' => rw [isSet, isSet']
  | connectionString _ text => exact mask.isSet_eq text

/-- A connection string that is hidden only in part is read alike. -/
theorem SameValue.parse_looksLike {raw raw' : String} (h : mask.SameValue key raw raw')
    (hkey : key ∉ mask.hidden) :
    (ConnectionString.parse raw).LooksLike (ConnectionString.parse raw') := by
  cases h with
  | same => exact .refl _
  | hidden named => exact absurd named hkey
  | connectionString _ text => exact text.looksLike

/-- The same names are set, to values that differ at most in what is hidden. -/
theorem SameEntries.rel_filter (h : mask.SameEntries m m') (key : String) :
    Option.Rel (mask.SameValue key) ((m.get? key).filter mask.isSet)
      ((m'.get? key).filter mask.isSet) :=
  BlobFs.rel_filter (h key) fun _ _ hvalue ↦ hvalue.isSet_eq

/-- A name of a value that is shown has the same value. -/
theorem SameEntries.get?_eq (h : mask.SameEntries m m')
    (hkey : key ∉ mask.connectionString :: mask.hidden) : m.get? key = m'.get? key := by
  obtain ⟨hstring, hhidden⟩ := not_or.1 (List.mem_cons.not.1 hkey)
  refine eq_of_rel_eq (rel_imp (h key) fun value value' hvalue ↦ ?_)
  cases hvalue with
  | same => rfl
  | hidden named => exact absurd named hhidden
  | connectionString named => exact absurd named hstring

end Masking

/-! ## Secrets -/

namespace Secret

/-- What the values of a secret show. -/
def masking : Masking :=
  { hidden := ["client_secret", "proxy_password"]
    connectionString := "connection_string"
    isSet := fun value ↦ !value.isEmpty
    isSet_eq := fun h ↦ by rw [h.isEmpty_eq] }

/-- Two secrets that differ at most in what is hidden. -/
structure LooksLike (s t : Secret) : Prop where
  name : s.name = t.name
  type : s.type = t.type
  provider : s.provider = t.provider
  scope : s.scope = t.scope
  values : masking.SameEntries s.values t.values

namespace LooksLike

variable {s t : Secret}

theorem get?_rel (h : s.LooksLike t) (key : String) :
    Option.Rel (masking.SameValue key) (s.get? key) (t.get? key) :=
  h.values.rel_filter key

theorem get?_eq (h : s.LooksLike t) {key : String}
    (hkey : key ∉ masking.connectionString :: masking.hidden) : s.get? key = t.get? key := by
  rw [get?, get?, h.values.get?_eq hkey]

/-- What a secret must have it lacks alike. -/
theorem require_eq (h : s.LooksLike t) {key : String}
    (hkey : key ∉ masking.connectionString :: masking.hidden) : s.require key = t.require key := by
  rw [require, require, h.get?_eq hkey, h.name]

/-- **A description of a secret does not show what is hidden.** -/
theorem debug_eq (h : s.LooksLike t) : s.debug = t.debug :=
  debug_congr h.name h.type h.provider h.scope fun key ↦ isSome_eq_of_rel (h.values key)

end LooksLike

end Secret

/-! ## What is read from a secret -/

/-- Two proofs of a service principal that differ at most in a client secret. -/
inductive ClientAuth.LooksLike : ClientAuth → ClientAuth → Prop
  | secret (value value' : String) : LooksLike (.secret value) (.secret value')
  | certificate (path : String) : LooksLike (.certificate path) (.certificate path)

theorem ClientAuth.LooksLike.debug_eq {auth auth' : ClientAuth} (h : auth.LooksLike auth') :
    auth.debug = auth'.debug := by
  cases h <;> rfl

namespace AzureSecret

/-- Two meanings of secrets that differ at most in what is hidden. -/
inductive LooksLike : AzureSecret → AzureSecret → Prop
  | config {cs cs' : Option ConnectionString} (h : Option.Rel ConnectionString.LooksLike cs cs') :
      LooksLike (.config cs) (.config cs')
  | credentialChain (chain : List ChainSource) :
      LooksLike (.credentialChain chain) (.credentialChain chain)
  | servicePrincipal (tenant client : String) {auth auth' : ClientAuth}
      (h : auth.LooksLike auth') :
      LooksLike (.servicePrincipal tenant client auth) (.servicePrincipal tenant client auth')

/-- **A description of what a secret means does not show what is hidden.** -/
theorem LooksLike.debug_eq {meaning meaning' : AzureSecret} (h : meaning.LooksLike meaning') :
    meaning.debug = meaning'.debug := by
  cases h with
  | config h => rw [debug, debug, Text.describeOption_congr (rel_imp h fun _ _ h ↦ h.debug_eq)]
  | credentialChain => rfl
  | servicePrincipal tenant client h => rw [debug, debug, h.debug_eq]

variable {s t : Secret}

theorem clientAuth_alike (h : s.LooksLike t) :
    Alike ClientAuth.LooksLike (clientAuth s) (clientAuth t) := by
  have hsecret := h.get?_rel "client_secret"
  have hpath : s.get? "client_certificate_path" = t.get? "client_certificate_path" :=
    h.get?_eq (by decide)
  rw [clientAuth, clientAuth, hpath, h.name]
  generalize s.get? "client_secret" = secret at hsecret ⊢
  generalize t.get? "client_secret" = secret' at hsecret ⊢
  cases hsecret with
  | some => exact .ok (.secret _ _)
  | none =>
    cases t.get? "client_certificate_path" with
    | some path => exact .ok (.certificate path)
    | none => exact .error _

theorem principal_alike (h : s.LooksLike t) : Alike LooksLike (principal s) (principal t) := by
  refine .bind_of_eq (h.require_eq (by decide)) fun tenant ↦ ?_
  refine .bind_of_eq (h.require_eq (by decide)) fun client ↦ ?_
  exact (clientAuth_alike h).bind fun auth auth' hauth ↦ .ok (.servicePrincipal tenant client hauth)

/-- **What is hidden in a secret decides nothing.**  Secrets that look alike cannot be read for the
same reason, or have meanings that look alike. -/
theorem ofSecret_alike (h : s.LooksLike t) : Alike LooksLike (ofSecret s) (ofSecret t) := by
  have hchain : s.get? "chain" = t.get? "chain" := h.get?_eq (by decide)
  rw [ofSecret, ofSecret, h.provider, hchain]
  split
  · exact .ok (.config (rel_map (h.get?_rel "connection_string") fun _ _ hraw ↦
      hraw.parse_looksLike (by decide)))
  · cases ChainSource.parseChain ((t.get? "chain").getD "default") with
    | ok chain => exact .ok (.credentialChain chain)
    | error e => exact .error e
  · exact principal_alike h
  · exact .error _

end AzureSecret

end BlobFs
