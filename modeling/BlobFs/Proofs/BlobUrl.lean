import BlobFs.BlobUrl
import BlobFs.Proofs.Store.Containers

/-!
# URLs of blobs in one container

A URL that was taken apart has parts that can be put together again (`BlobUrl.Shaped`): the text up
to the path has its separators where they were found and no others in front of them.  The path is
free, so the URL of any blob in the same container is taken apart into the same parts and the blob's
name (`parse_urlFor`), whatever characters the name has.

Putting the parts together again gives the text that was taken apart (`render_of_parse`), so reading
and writing are inverse to each other between the texts of the two shapes (`IsUrl`) and the shaped
parts: `parse_render_inverse`.
-/

set_option autoImplicit false

namespace BlobFs.BlobUrl

/-- Whether the parts before the path are found again where they meet: the container is one segment,
and there is a `.` before the first `/` exactly if an account is named. -/
structure Shaped (u : BlobUrl) : Prop where
  container : IsSegment u.container
  plain : u.authority = none → '.' ∉ u.container.toList
  named : ∀ authority, u.authority = some authority →
    '.' ∉ authority.account.toList ∧ '/' ∉ authority.account.toList ∧
      '/' ∉ authority.endpoint.toList

/-- A URL that is taken apart has such parts. -/
theorem shaped_of_parse {text : String} {u : BlobUrl} (h : parse text = .ok u) : u.Shaped := by
  have hcontainer := container_of_parse h
  rw [parse] at h
  split at h
  · cases h
  rw [parseAfterScheme] at h
  split at h
  · cases h
  next host after hhost =>
  obtain ⟨-, hslash⟩ := Text.cut?_eq_some_iff.1 hhost
  split at h
  · next hdot =>
    obtain ⟨-, rfl⟩ := eq_of_withContainer h
    exact ⟨hcontainer, fun _ ↦ Text.cut?_eq_none_iff.1 hdot, fun _ hsome ↦ by cases hsome⟩
  · next account endpoint hdot =>
    obtain ⟨hhost, hdot⟩ := Text.cut?_eq_some_iff.1 hdot
    rw [hhost, List.mem_append, not_or, List.mem_cons, not_or] at hslash
    split at h
    · cases h
    · obtain ⟨-, rfl⟩ := eq_of_withContainer h
      refine ⟨hcontainer, (fun hnone ↦ by cases hnone), ?_⟩
      rintro authority ⟨⟩
      exact ⟨hdot, hslash.1, hslash.2.2⟩

/-- The scheme is found in front of whatever follows it. -/
theorem splitScheme?_text (scheme : Scheme) (rest : String) :
    splitScheme? (scheme.text ++ rest) = some (scheme, rest) := by
  cases scheme with
  | azure =>
    rw [splitScheme?, Text.dropStart?_eq_some_iff.2 rfl]
  | az =>
    have hother : Text.dropStart? (Scheme.az.text ++ rest) Scheme.azure.text = none := by
      refine if_neg fun hstart ↦ ?_
      rw [Text.startsWith, String.toList_append] at hstart
      cases hstart
    rw [splitScheme?, hother, Text.dropStart?_eq_some_iff.2 rfl]
    rfl

/-- A scheme that is found stands in front of what follows it. -/
theorem eq_append_of_splitScheme? {url rest : String} {scheme : Scheme}
    (h : splitScheme? url = some (scheme, rest)) : url = scheme.text ++ rest := by
  rw [splitScheme?] at h
  split at h
  · next hazure =>
    obtain ⟨rfl, rfl⟩ := Prod.mk.inj (Option.some.inj h)
    exact Text.dropStart?_eq_some_iff.1 hazure
  · obtain ⟨rest, haz, he⟩ := Option.map_eq_some_iff.1 h
    obtain ⟨rfl, rfl⟩ := Prod.mk.inj he
    exact Text.dropStart?_eq_some_iff.1 haz

/-- **The URL of any blob in the container of a URL has the same parts, and the blob's name.** -/
theorem parse_urlFor {u : BlobUrl} (h : u.Shaped) (name : String) :
    parse (u.urlFor name) = .ok { u with path := name } := by
  obtain ⟨scheme, authority, container, path⟩ := u
  have hslash : "/".toList = ['/'] := rfl
  have hdot : ".".toList = ['.'] := rfl
  have hne : container.isEmpty = false := by simpa using h.container.1
  cases authority with
  | none =>
    have hhost : Text.cut? '/' (container ++ "/" ++ name) = some (container, name) :=
      Text.cut?_eq_some_iff.2 ⟨by simp [hslash], h.container.2⟩
    have hnone : Text.cut? '.' container = none := Text.cut?_eq_none_iff.2 (h.plain rfl)
    have hurl : urlFor ⟨scheme, none, container, path⟩ name =
        scheme.text ++ (container ++ "/" ++ name) := by
      simp only [urlFor, containerUrl, String.append_assoc]
    rw [hurl, parse, splitScheme?_text]
    simp only [parseAfterScheme, hhost, hnone, withContainer, hne]
    rfl
  | some authority =>
    obtain ⟨account, endpoint⟩ := authority
    obtain ⟨hadot, haslash, heslash⟩ := h.named _ rfl
    have hhost : Text.cut? '/' (account ++ "." ++ endpoint ++ "/" ++ (container ++ "/" ++ name)) =
        some (account ++ "." ++ endpoint, container ++ "/" ++ name) := by
      refine Text.cut?_eq_some_iff.2 ⟨by simp [hslash, hdot], ?_⟩
      simp [hdot, haslash, heslash]
    have hauthority : Text.cut? '.' (account ++ "." ++ endpoint) = some (account, endpoint) :=
      Text.cut?_eq_some_iff.2 ⟨by simp [hdot], hadot⟩
    have hafter : Text.cut? '/' (container ++ "/" ++ name) = some (container, name) :=
      Text.cut?_eq_some_iff.2 ⟨by simp [hslash], h.container.2⟩
    have hurl : urlFor ⟨scheme, some ⟨account, endpoint⟩, container, path⟩ name =
        scheme.text ++ (account ++ "." ++ endpoint ++ "/" ++ (container ++ "/" ++ name)) := by
      simp only [urlFor, containerUrl, String.append_assoc]
    rw [hurl, parse, splitScheme?_text]
    simp only [parseAfterScheme, hhost, hauthority, hafter, withContainer, hne]
    rfl

/-! ## Back to the text -/

/-- Parts that a text was taken apart into make up that text. -/
theorem render_of_parse {text : String} {u : BlobUrl} (h : parse text = .ok u) :
    u.render = text := by
  have hslash : "/".toList = ['/'] := rfl
  have hdot : ".".toList = ['.'] := rfl
  rw [parse] at h
  split at h
  · cases h
  next scheme rest hscheme =>
  rw [eq_append_of_splitScheme? hscheme, ← String.toList_inj]
  rw [parseAfterScheme] at h
  split at h
  · cases h
  next host after hhost =>
  obtain ⟨hrest, -⟩ := Text.cut?_eq_some_iff.1 hhost
  split at h
  · obtain ⟨-, rfl⟩ := eq_of_withContainer h
    simp [render, urlFor, containerUrl, hrest, hslash]
  · next account endpoint hauthority =>
    obtain ⟨hparts, -⟩ := Text.cut?_eq_some_iff.1 hauthority
    split at h
    · cases h
    · next container path hcontainer =>
      obtain ⟨hafter, -⟩ := Text.cut?_eq_some_iff.1 hcontainer
      obtain ⟨-, rfl⟩ := eq_of_withContainer h
      simp [render, urlFor, containerUrl, hrest, hparts, hafter, hslash, hdot]

/-- Shaped parts are those that their own URL is taken apart into, and no other text is. -/
theorem parse_eq_ok_iff {text : String} {u : BlobUrl} :
    parse text = .ok u ↔ u.Shaped ∧ u.render = text := by
  refine ⟨fun h ↦ ⟨shaped_of_parse h, render_of_parse h⟩, ?_⟩
  rintro ⟨hshaped, rfl⟩
  exact parse_urlFor hshaped u.path

/-- Shaped parts with the same URL are the same. -/
theorem render_injective_of_shaped {u v : BlobUrl} (hu : u.Shaped) (hv : v.Shaped)
    (h : u.render = v.render) : u = v := by
  have hread := parse_eq_ok_iff.2 ⟨hu, h⟩
  rw [parse_eq_ok_iff.2 ⟨hv, rfl⟩] at hread
  exact (Except.ok.inj hread).symm

/-! ## The texts of the two shapes -/

/-- The texts that are blob URLs: after the scheme a container and a path, or an account, an
endpoint, a container and a path. -/
inductive IsUrl : String → Prop where
  | plain (scheme : Scheme) {container : String} (path : String) (hcontainer : container ≠ "")
      (hslash : '/' ∉ container.toList) (hdot : '.' ∉ container.toList) :
      IsUrl (scheme.text ++ container ++ "/" ++ path)
  | named (scheme : Scheme) {account endpoint container : String} (path : String)
      (hdot : '.' ∉ account.toList) (haccount : '/' ∉ account.toList)
      (hendpoint : '/' ∉ endpoint.toList) (hcontainer : container ≠ "")
      (hslash : '/' ∉ container.toList) :
      IsUrl (scheme.text ++ account ++ "." ++ endpoint ++ "/" ++ container ++ "/" ++ path)

/-- The URLs of shaped parts are the texts of the two shapes. -/
theorem isUrl_iff_exists_shaped {text : String} :
    IsUrl text ↔ ∃ u : BlobUrl, u.Shaped ∧ u.render = text := by
  constructor
  · rintro (⟨scheme, path, hne, hslash, hdot⟩ | ⟨scheme, path, hdot, haccount, hendpoint, hne, hslash⟩)
    · next container =>
      exact ⟨{ scheme, authority := none, container, path },
        ⟨⟨hne, hslash⟩, fun _ ↦ hdot, nofun⟩, rfl⟩
    · next account endpoint container =>
      refine ⟨{ scheme, authority := some { account, endpoint }, container, path },
        ⟨⟨hne, hslash⟩, nofun, ?_⟩, rfl⟩
      rintro authority ⟨⟩
      exact ⟨hdot, haccount, hendpoint⟩
  · rintro ⟨⟨scheme, authority, container, path⟩, hshaped, rfl⟩
    obtain ⟨hne, hslash⟩ := hshaped.container
    cases authority with
    | none => exact .plain scheme path hne hslash (hshaped.plain rfl)
    | some authority =>
      obtain ⟨hdot, haccount, hendpoint⟩ := hshaped.named authority rfl
      exact .named scheme path hdot haccount hendpoint hne hslash

/-- **Reading and writing are inverse to each other.**  The texts that can be read are those of the
two shapes.  What is read is shaped and is written as the text it was read from; shaped parts are
read from their URL, and with another name in place of the path from the URL of that name.  So
different parts have different URLs. -/
theorem parse_render_inverse :
    (∀ text, (∃ u, parse text = .ok u) ↔ IsUrl text) ∧
    (∀ text u, parse text = .ok u ↔ u.Shaped ∧ u.render = text) ∧
    (∀ u : BlobUrl, u.Shaped → ∀ name, parse (u.urlFor name) = .ok { u with path := name }) ∧
    (∀ u v : BlobUrl, u.Shaped → v.Shaped → u.render = v.render → u = v) := by
  refine ⟨fun text ↦ ?_, fun text u ↦ parse_eq_ok_iff, fun u hu name ↦ parse_urlFor hu name,
    fun u v hu hv h ↦ render_injective_of_shaped hu hv h⟩
  simp only [parse_eq_ok_iff]
  exact isUrl_iff_exists_shaped.symm

-- Account and endpoint may be empty, and the path may begin with a separator.
example : parse "az://./c//x.y" =
    .ok { scheme := .az, authority := some { account := "", endpoint := "" }
          container := "c", path := "/x.y" } := rfl

end BlobFs.BlobUrl
