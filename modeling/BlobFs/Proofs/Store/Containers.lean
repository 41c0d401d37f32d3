import BlobFs.BlobUrl
import BlobFs.Proofs.Store.Path
import BlobFs.Proofs.Text.Percent

/-!
# Containers in one store

All containers share one store, each below a path of its own.  A URL names a container by one
segment (`BlobUrl.container_of_parse`), and the paths of two such containers are different segments
(`encodeSegment_injective`), so that no object lies in both (`append_encode_ne`).
-/

set_option autoImplicit false

namespace BlobFs

/-- Whether a name is one segment: some text without a `/`. -/
def IsSegment (name : String) : Prop :=
  name ≠ "" ∧ '/' ∉ name.toList

namespace BlobUrl

theorem eq_of_withContainer {scheme : Scheme} {authority : Option Authority}
    {container path : String} {url : BlobUrl}
    (h : withContainer scheme authority container path = .ok url) :
    container ≠ "" ∧ url = { scheme, authority, container, path } := by
  rw [withContainer] at h
  split at h
  · cases h
  · next hempty =>
    cases h
    exact ⟨mt String.isEmpty_iff.2 hempty, rfl⟩

/-- A URL names its container by one segment. -/
theorem container_of_parse {text : String} {url : BlobUrl} (h : parse text = .ok url) :
    IsSegment url.container := by
  rw [parse] at h
  split at h
  · cases h
  rw [parseAfterScheme] at h
  split at h
  · cases h
  next hhost =>
  split at h
  · obtain ⟨hne, rfl⟩ := eq_of_withContainer h
    exact ⟨hne, (Text.cut?_eq_some_iff.1 hhost).2⟩
  · split at h
    · cases h
    next hafter =>
    obtain ⟨hne, rfl⟩ := eq_of_withContainer h
    exact ⟨hne, (Text.cut?_eq_some_iff.1 hafter).2⟩

end BlobUrl

namespace ObjectPath

/-! ## The segment that stands for a container -/

/-- The bytes of a segment are found again in what stands for it. -/
theorem percentDecode_encodeSegment (segment : List Char) :
    Text.percentDecode (encodeSegment segment) = Bytes.ofText (String.ofList segment) := by
  rw [encodeSegment]
  split
  · next h =>
    rw [h]
    decide +kernel
  · split
    · next h =>
      rw [h]
      decide +kernel
    · exact Text.percentDecode_percentEncode (by decide) segment

theorem encodeSegment_injective {s t : List Char} (h : encodeSegment s = encodeSegment t) :
    s = t := by
  have hbytes := congrArg Text.percentDecode h
  rw [percentDecode_encodeSegment, percentDecode_encodeSegment] at hbytes
  exact String.ofList_inj.1 (Bytes.ofText_injective hbytes)

theorem slash_not_mem_encodeSegment {segment : List Char} (h : '/' ∉ segment) :
    '/' ∉ encodeSegment segment := by
  rw [encodeSegment]
  split
  · decide
  · split
    · decide
    · exact Text.slash_not_mem_percentEncode h

/-- A container named by one segment lies at the segment that stands for it. -/
theorem toList_text_encode {container : String} (h : IsSegment container) :
    (encode container).text.toList = encodeSegment container.toList := by
  have hne : container.toList ≠ [] := by simpa using h.1
  rw [encode, Text.splitOn_of_not_mem h.2, List.filter_cons_of_pos (by simpa using hne)]
  rw [List.filter_nil, List.map_singleton, Text.joinWith, String.toList_ofList]

/-- Such a container does not lie at the root. -/
theorem encode_ne_root {container : String} (h : IsSegment container) :
    encode container ≠ root := by
  intro he
  have hnil : encodeSegment container.toList = encodeSegment [] := by
    rw [← toList_text_encode h, he]
    rfl
  exact h.1 (String.toList_eq_nil_iff.1 (encodeSegment_injective hnil))

/-- **No object lies in two containers.** -/
theorem append_encode_ne {container other : String} (hc : IsSegment container)
    (ho : IsSegment other) (hne : container ≠ other) {j k : ObjectPath} (hj : j ≠ root)
    (hk : k ≠ root) : (encode container).append j ≠ (encode other).append k := by
  intro h
  have htext := congrArg (fun p ↦ Text.cutFirst '/' p.text.toList) h
  rw [toList_text_append (encode_ne_root hc) hj, toList_text_append (encode_ne_root ho) hk,
    toList_text_encode hc, toList_text_encode ho,
    Text.cutFirst_eq_some_iff.2 ⟨rfl, slash_not_mem_encodeSegment hc.2⟩,
    Text.cutFirst_eq_some_iff.2 ⟨rfl, slash_not_mem_encodeSegment ho.2⟩] at htext
  have hsegment := congrArg Prod.fst (Option.some.inj htext)
  exact hne (String.toList_inj.1 (encodeSegment_injective hsegment))

end ObjectPath

end BlobFs
