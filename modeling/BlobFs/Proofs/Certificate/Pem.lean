import BlobFs.Certificate.Pem
import BlobFs.Proofs.Codec.Base64
import BlobFs.Proofs.Text.Search
import BlobFs.Proofs.Text.Trim
import BlobFs.Proofs.Text.Cut

/-!
# Sections and the text around them

`Pem.section?` searches the whole text for the markers of one label.  What it finds is known once it
is known where markers stand, and every marker has five dashes at both its ends and nowhere else
(`not_infix_inner`).  So a text that begins and ends with five dashes, as sections do, has at most
those in common with a marker that reaches over its end (`Free.surrounded`).

* `section?_of_first` — the section at the first BEGIN marker is found.
* `section?_surrounded` — text without markers around a section makes no difference.

The second half is about one kind of section.  An `Armour` of some bytes is their base64 between the
markers of a certificate, in lines and with blanks wherever they may be, and
`Armour.looseContents_text` gives back the base64.
-/

set_option autoImplicit false

namespace BlobFs.Pem

open Text (Blanks isBlank)

/-! ## Markers -/

/-- The labels of private keys, in the order in which they are looked for. -/
def keyLabels : List String :=
  ["PRIVATE KEY", "RSA PRIVATE KEY"]

/-- The labels of all sections that are looked for. -/
def labels : List String :=
  "CERTIFICATE" :: keyLabels

/-- Both markers of each of some labels. -/
def markers (among : List String) : List (List Char) :=
  among.flatMap fun label ↦ [beginMarker label, endMarker label]

/-- Whether no marker with one of these labels stands in a text. -/
def Free (among : List String) (text : List Char) : Prop :=
  ∀ marker ∈ markers among, ¬marker <:+: text

instance (among : List String) (text : List Char) : Decidable (Free among text) :=
  List.decidableBAll (fun marker ↦ ¬marker <:+: text) (markers among)

theorem beginMarker_mem {among : List String} {label : String} (h : label ∈ among) :
    beginMarker label ∈ markers among :=
  List.mem_flatMap.2 ⟨label, h, List.mem_cons_self⟩

theorem endMarker_mem {among : List String} {label : String} (h : label ∈ among) :
    endMarker label ∈ markers among :=
  List.mem_flatMap.2 ⟨label, h, List.mem_cons_of_mem _ List.mem_cons_self⟩

theorem markers_subset {few among : List String} (h : few ⊆ among) :
    markers few ⊆ markers among := by
  intro marker hmarker
  obtain ⟨label, hlabel, hmarker⟩ := List.mem_flatMap.1 hmarker
  exact List.mem_flatMap.2 ⟨label, h hlabel, hmarker⟩

theorem keyLabels_subset : keyLabels ⊆ labels :=
  List.subset_cons_self _ _

theorem Free.mono {few among : List String} {text : List Char} (h : Free among text)
    (hfew : few ⊆ among) : Free few text :=
  fun marker hmarker ↦ h marker (markers_subset hfew hmarker)

/-- A section, from marker to marker. -/
def framed (label : String) (body : List Char) : List Char :=
  beginMarker label ++ body ++ endMarker label

theorem dashes_prefix_beginMarker (label : String) : dashes <+: beginMarker label := by
  rw [beginMarker, List.append_assoc, List.append_assoc]
  exact List.prefix_append _ _

theorem dashes_prefix_endMarker (label : String) : dashes <+: endMarker label := by
  rw [endMarker, List.append_assoc, List.append_assoc]
  exact List.prefix_append _ _

theorem dashes_prefix_framed (label : String) (body : List Char) : dashes <+: framed label body := by
  rw [framed, List.append_assoc]
  exact (dashes_prefix_beginMarker label).trans (List.prefix_append _ _)

theorem dashes_suffix_framed (label : String) (body : List Char) : dashes <:+ framed label body :=
  (List.suffix_append _ dashes).trans (List.suffix_append _ (endMarker label))

/-- What a search relies on: a marker has dashes at both ends, five together only there, and is
part of one line. -/
structure IsMarker (marker : List Char) : Prop where
  head? : marker.head? = some '-'
  getLast? : marker.getLast? = some '-'
  not_infix_inner : ¬dashes <:+: marker.tail.dropLast
  not_mem_newline : '\n' ∉ marker

theorem IsMarker.ne_nil {marker : List Char} (h : IsMarker marker) : marker ≠ [] := by
  rintro rfl
  exact absurd h.head? (by simp)

theorem isMarker_of_mem {marker : List Char} (h : marker ∈ markers labels) : IsMarker marker := by
  have all : ∀ marker ∈ markers labels, marker.head? = some '-' ∧ marker.getLast? = some '-' ∧
      ¬dashes <:+: marker.tail.dropLast ∧ '\n' ∉ marker := by
    decide +kernel
  obtain ⟨hhead, hlast, hinner, hnewline⟩ := all marker h
  exact ⟨hhead, hlast, hinner, hnewline⟩

theorem isMarker_beginMarker {label : String} (h : label ∈ labels) : IsMarker (beginMarker label) :=
  isMarker_of_mem (beginMarker_mem h)

theorem isMarker_endMarker {label : String} (h : label ∈ labels) : IsMarker (endMarker label) :=
  isMarker_of_mem (endMarker_mem h)

/-! ## Text around a section -/

section Around

variable {label : String} {marker front text back : List Char}

/-- A marker that stands in a text with some text around it, stands in one of the three, or shares
the dashes at one end of the middle one. -/
theorem IsMarker.not_infix_surrounded (h : IsMarker marker) (hfirst : dashes <+: text)
    (hlast : dashes <:+ text) (hfront : ¬marker <:+: front ++ dashes) (htext : ¬marker <:+: text)
    (hback : ¬marker <:+: dashes ++ back) : ¬marker <:+: front ++ text ++ back := by
  intro hin
  rw [List.append_assoc] at hin
  rcases Text.infix_of_edge (hfirst.trans (List.prefix_append text back)) h.not_infix_inner hin with
    hin | hin
  · exact hfront hin
  · rcases Text.infix_of_last_edge hlast h.not_infix_inner hin with hin | hin
    · exact htext hin
    · exact hback hin

/-- Texts that meet at dashes are free of markers together if each of them is, dashes included. -/
theorem Free.surrounded {among : List String} (hamong : among ⊆ labels) (htext : Free among text)
    (hfirst : dashes <+: text) (hlast : dashes <:+ text) (hfront : Free among (front ++ dashes))
    (hback : Free among (dashes ++ back)) : Free among (front ++ text ++ back) :=
  fun marker hmarker ↦ (isMarker_of_mem (markers_subset hamong hmarker)).not_infix_surrounded hfirst
    hlast (hfront marker hmarker) (htext marker hmarker) (hback marker hmarker)

/-- The section at the first BEGIN marker is found, up to the first END marker. -/
theorem section?_of_first {body : List Char} (hlabel : label ∈ labels)
    (hbegin : ¬beginMarker label <:+: front ++ dashes)
    (hend : ¬endMarker label <:+: beginMarker label ++ body ++ dashes) :
    Pem.section? label (front ++ framed label body ++ back) = some (framed label body) := by
  have hfirst : dashes <+: framed label body ++ back :=
    (dashes_prefix_framed label body).trans (List.prefix_append _ _)
  have hlast : dashes <+: endMarker label ++ back :=
    (dashes_prefix_endMarker label).trans (List.prefix_append _ _)
  have hbody : framed label body ++ back =
      beginMarker label ++ (body ++ (endMarker label ++ back)) := by
    rw [framed, List.append_assoc, List.append_assoc]
  have hcut : Text.cutAt (beginMarker label) (front ++ framed label body ++ back) =
      some (front, body ++ (endMarker label ++ back)) := by
    rw [List.append_assoc, Text.cutAt_of_edge hfirst (isMarker_beginMarker hlabel).not_infix_inner
      hbegin, hbody, Text.cutAt_append_self, Option.map_some]
    dsimp only
    rw [List.append_nil]
  rw [section?, hcut]
  dsimp only
  rw [← List.append_assoc, Text.cutAt_of_edge hlast (isMarker_endMarker hlabel).not_infix_inner hend,
    Text.cutAt_append_self, Option.map_some, Option.map_some]
  dsimp only
  rw [List.append_nil, framed]

/-- In a text with some text around it, the same section is found as in the text alone. -/
theorem section?_surrounded (hlabel : label ∈ labels) (hfirst : dashes <+: text)
    (hlast : dashes <:+ text) (hfront : ¬beginMarker label <:+: front ++ dashes)
    (hbegin : ¬beginMarker label <:+: dashes ++ back)
    (hend : ¬endMarker label <:+: dashes ++ back) :
    Pem.section? label (front ++ text ++ back) = section? label text := by
  have hmarker := isMarker_beginMarker hlabel
  have hmarker' := isMarker_endMarker hlabel
  rw [section?, section?, List.append_assoc, Text.cutAt_of_edge (hfirst.trans (List.prefix_append text back))
    hmarker.not_infix_inner hfront, Text.cutAt_of_last_edge hmarker.ne_nil hlast
    hmarker.not_infix_inner hbegin]
  cases hcut : Text.cutAt (beginMarker label) text with
  | none => rfl
  | some cut =>
    obtain ⟨before, after⟩ := cut
    have htext := Text.eq_append_of_cutAt hcut
    -- the END marker is looked for in what is left of the text, which ends like the text
    have hrest : dashes <:+ beginMarker label ++ after := by
      refine List.suffix_of_suffix_length_le hlast ⟨before, htext.symm⟩ ?_
      rw [List.length_append]
      exact ((dashes_prefix_beginMarker label).length_le).trans (Nat.le_add_right _ _)
    simp only [Option.map_some]
    rw [← List.append_assoc, Text.cutAt_of_last_edge hmarker'.ne_nil hrest hmarker'.not_infix_inner
      hend, Option.map_map]
    rfl

end Around

/-! ## Armour -/

/-- A layout of the base64 of some bytes between the markers of a certificate. -/
structure Armour (der : Bytes) where
  /-- What stands behind the first marker on its line. -/
  padding : List Char
  /-- The lines between the markers; a line may end with a carriage return. -/
  lines : List (List Char)
  padding_blanks : Blanks padding
  padding_newline : '\n' ∉ padding
  lines_newline : ∀ line ∈ lines, '\n' ∉ line
  /-- Without the blanks the lines are the base64. -/
  symbols : lines.flatten.filter (fun c ↦ !isBlank c) = Base64.encode der

namespace Armour

variable {der : Bytes}

/-- What stands between the markers. -/
def body (armour : Armour der) : List Char :=
  armour.padding ++ '\n' :: armour.lines.flatMap fun line ↦ line ++ ['\n']

/-- The section, which begins and ends with a marker at the start of a line. -/
def text (armour : Armour der) : List Char :=
  framed "CERTIFICATE" armour.body

theorem hyphen_not_mem_encode (der : Bytes) : '-' ∉ Base64.encode der :=
  Base64.not_mem_encode (by decide) (by decide) der

theorem hyphen_not_mem_lines (armour : Armour der) {line : List Char} (h : line ∈ armour.lines) :
    '-' ∉ line := by
  intro hin
  refine hyphen_not_mem_encode der ?_
  rw [← armour.symbols, List.mem_filter]
  exact ⟨List.mem_flatten_of_mem h hin, by decide⟩

theorem hyphen_not_mem_padding (armour : Armour der) : '-' ∉ armour.padding :=
  fun hin ↦ absurd (armour.padding_blanks '-' hin) (by decide)

theorem hyphen_not_mem_ended_lines (armour : Armour der) :
    '-' ∉ armour.lines.flatMap fun line ↦ line ++ ['\n'] := by
  intro hin
  obtain ⟨line, hline, hin⟩ := List.mem_flatMap.1 hin
  rcases List.mem_append.1 hin with hin | hin
  · exact armour.hyphen_not_mem_lines hline hin
  · exact absurd (List.mem_singleton.1 hin) (by decide)

/-- Between its two ends the armour has room for no marker. -/
theorem infix_or_infix (armour : Armour der) {marker back : List Char} (h : IsMarker marker)
    (hin : marker <:+: beginMarker "CERTIFICATE" ++ armour.body ++ back) :
    marker <:+: beginMarker "CERTIFICATE" ∨ marker <:+: back := by
  rw [body, ← List.append_assoc, List.append_assoc, List.cons_append] at hin
  rcases Text.infix_append_cons h.not_mem_newline hin with hin | hin
  · exact .inl (Text.infix_of_getLast h.getLast? armour.hyphen_not_mem_padding hin)
  · exact .inr (Text.infix_of_head h.head? armour.hyphen_not_mem_ended_lines hin)

/-- The END marker comes last. -/
theorem endMarker_not_infix (armour : Armour der) :
    ¬endMarker "CERTIFICATE" <:+: beginMarker "CERTIFICATE" ++ armour.body ++ dashes := by
  intro hin
  rcases armour.infix_or_infix (isMarker_endMarker (by decide)) hin with hin | hin
  · exact absurd hin (by decide +kernel)
  · exact absurd hin (by decide +kernel)

/-- There is no marker of a key in it. -/
theorem free_keyLabels (armour : Armour der) : Free keyLabels armour.text := by
  have hends : ∀ marker ∈ markers keyLabels,
      ¬marker <:+: beginMarker "CERTIFICATE" ∧ ¬marker <:+: endMarker "CERTIFICATE" := by
    decide +kernel
  intro marker hmem hin
  have hmarker := isMarker_of_mem (markers_subset keyLabels_subset hmem)
  exact (armour.infix_or_infix hmarker hin).elim (hends marker hmem).1 (hends marker hmem).2

/-- It is found as the first section of a certificate. -/
theorem section?_eq_some (armour : Armour der) {front back : List Char}
    (hfront : ¬beginMarker "CERTIFICATE" <:+: front ++ dashes) :
    Pem.section? "CERTIFICATE" (front ++ armour.text ++ back) = some armour.text :=
  Pem.section?_of_first (by decide) hfront armour.endMarker_not_infix

end Armour

/-! ## Contents of an armour -/

/-- A first line that is no marker is part of the contents, without its blanks. -/
theorem looseContents_append_cons {line : List Char} (h : '\n' ∉ line) (rest : List Char) :
    looseContents (line ++ '\n' :: rest) =
      (if dashes <+: line then [] else line.filter fun c ↦ !isBlank c) ++ looseContents rest := by
  rw [looseContents, Text.splitOn_append_cons, Text.splitOn_of_not_mem h, List.singleton_append]
  by_cases hdashes : dashes <+: line
  · rw [List.filter_cons_of_neg (by simpa using List.isPrefixOf_iff_prefix.2 hdashes),
      if_pos hdashes]
    rfl
  · have hno : dashes.isPrefixOf line = false := by
      rw [← Bool.not_eq_true, List.isPrefixOf_iff_prefix]
      exact hdashes
    rw [List.filter_cons_of_pos (by simp [hno]), if_neg hdashes]
    rfl

theorem looseContents_endMarker : looseContents (endMarker "CERTIFICATE") = [] := by
  decide +kernel

/-- Lines without markers are the contents, up to their blanks. -/
theorem looseContents_lines {lines : List (List Char)} (hnewline : ∀ line ∈ lines, '\n' ∉ line)
    (hdashes : ∀ line ∈ lines, ¬dashes <+: line) (rest : List Char) :
    looseContents ((lines.flatMap fun line ↦ line ++ ['\n']) ++ rest) =
      (lines.flatten.filter fun c ↦ !isBlank c) ++ looseContents rest := by
  induction lines with
  | nil => rfl
  | cons line lines ih =>
    obtain ⟨hline, hnewline⟩ := List.forall_mem_cons.1 hnewline
    obtain ⟨hmarker, hdashes⟩ := List.forall_mem_cons.1 hdashes
    rw [List.flatMap_cons, List.append_assoc, List.append_assoc, List.singleton_append,
      looseContents_append_cons hline, if_neg hmarker, ih hnewline hdashes, List.flatten_cons,
      List.filter_append, List.append_assoc]

/-- **Whatever its layout**, the contents of an armour are the base64 of its bytes. -/
theorem Armour.looseContents_text {der : Bytes} (armour : Armour der) :
    looseContents armour.text = Base64.encode der := by
  have hnewline : '\n' ∉ beginMarker "CERTIFICATE" ++ armour.padding := by
    rw [List.mem_append, not_or]
    exact ⟨(isMarker_beginMarker (by decide)).not_mem_newline, armour.padding_newline⟩
  have hfirst : dashes <+: beginMarker "CERTIFICATE" ++ armour.padding :=
    (dashes_prefix_beginMarker _).trans (List.prefix_append _ _)
  have hdashes : ∀ line ∈ armour.lines, ¬dashes <+: line :=
    fun line hline hstarts ↦ armour.hyphen_not_mem_lines hline (hstarts.subset (by decide))
  rw [text, framed, body, ← List.append_assoc, List.append_assoc, List.cons_append,
    looseContents_append_cons hnewline, if_pos hfirst, List.nil_append,
    looseContents_lines armour.lines_newline hdashes, looseContents_endMarker, List.append_nil,
    armour.symbols]

end BlobFs.Pem
