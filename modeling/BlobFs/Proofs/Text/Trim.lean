import BlobFs.Text.Blank
import Mathlib.Data.List.Basic
import Mathlib.Data.List.TakeWhile

/-!
# Texts without the blanks around them

`trimBlanks_eq_iff` says what trimming gives: what is left when blanks are taken off both ends, if
there is no blank at either end any more.
-/

set_option autoImplicit false

namespace BlobFs.Text

/-- Whether a text has no blank at either end. -/
structure Trimmed (s : List Char) : Prop where
  head : ∀ c, s.head? = some c → isBlank c = false
  last : ∀ c, s.getLast? = some c → isBlank c = false

/-- Whether a text has nothing but blanks. -/
def Blanks (s : List Char) : Prop :=
  ∀ c ∈ s, isBlank c = true

-- the instance is named, because one that tries all characters is also there
instance : DecidablePred Blanks :=
  fun s ↦ List.decidableBAll (fun c ↦ isBlank c = true) s

theorem trimmed_iff {s : List Char} :
    Trimmed s ↔ s.head?.all (!isBlank ·) = true ∧ s.getLast?.all (!isBlank ·) = true := by
  simp only [Option.all_eq_true, Bool.not_eq_true']
  exact ⟨fun h ↦ ⟨h.head, h.last⟩, fun h ↦ ⟨h.1, h.2⟩⟩

instance : DecidablePred Trimmed :=
  fun _ ↦ decidable_of_iff _ trimmed_iff.symm

theorem Trimmed.nil : Trimmed [] :=
  ⟨nofun, nofun⟩

theorem Blanks.reverse {s : List Char} (h : Blanks s) : Blanks s.reverse :=
  fun c hc ↦ h c (List.mem_reverse.1 hc)

theorem Blanks.dropWhile_append {front : List Char} (h : Blanks front) (s : List Char) :
    (front ++ s).dropWhile isBlank = s.dropWhile isBlank :=
  List.dropWhile_append_of_pos h

theorem isBlank_head_dropWhile {s : List Char} {c : Char}
    (h : (s.dropWhile isBlank).head? = some c) : isBlank c = false := by
  have hnot := List.head?_dropWhile_not isBlank s
  rwa [h] at hnot

/-- Blanks are taken off both ends. -/
theorem trimBlanks_append {front s back : List Char} (hfront : Blanks front) (hback : Blanks back)
    (hs : Trimmed s) : trimBlanks (front ++ s ++ back) = s := by
  rw [trimBlanks, List.append_assoc, hfront.dropWhile_append]
  by_cases hnil : s = []
  · have hall := hback.dropWhile_append []
    rw [List.append_nil] at hall
    rw [hnil, List.nil_append, hall]
    rfl
  · have hhead : ∀ c, (s ++ back).head? = some c → isBlank c = false := by
      rw [List.head?_append_of_ne_nil s hnil]
      exact hs.head
    rw [dropWhile_eq_self_of_head hhead, List.reverse_append, hback.reverse.dropWhile_append,
      dropWhile_eq_self_of_head (by simpa using hs.last), List.reverse_reverse]

/-- Every text is what trimming gives with blanks around it. -/
theorem exists_blanks_trimBlanks (s : List Char) :
    ∃ front back, Blanks front ∧ Blanks back ∧ s = front ++ trimBlanks s ++ back := by
  refine ⟨s.takeWhile isBlank, ((s.dropWhile isBlank).reverse.takeWhile isBlank).reverse,
    fun c hc ↦ List.mem_takeWhile_imp hc, fun c hc ↦ ?_, ?_⟩
  · exact List.mem_takeWhile_imp (List.mem_reverse.1 hc)
  · rw [trimBlanks, List.append_assoc, ← List.reverse_append, List.takeWhile_append_dropWhile,
      List.reverse_reverse, List.takeWhile_append_dropWhile]

theorem trimmed_trimBlanks (s : List Char) : Trimmed (trimBlanks s) where
  head c hc := by
    -- what is left begins like the text without the blanks in front of it
    obtain ⟨rest, hrest⟩ := List.reverse_prefix.2
      (List.dropWhile_suffix (l := (s.dropWhile isBlank).reverse) isBlank)
    rw [List.reverse_reverse] at hrest
    refine isBlank_head_dropWhile (s := s) ?_
    rw [← hrest, List.head?_append]
    exact Option.or_eq_some_iff.2 (.inl hc)
  last c hc := by
    rw [trimBlanks, List.getLast?_reverse] at hc
    exact isBlank_head_dropWhile hc

/-- **Trimming takes off the blanks at both ends**, and nothing else. -/
theorem trimBlanks_eq_iff {s t : List Char} :
    trimBlanks s = t ↔
      Trimmed t ∧ ∃ front back, Blanks front ∧ Blanks back ∧ s = front ++ t ++ back := by
  constructor
  · rintro rfl
    exact ⟨trimmed_trimBlanks s, exists_blanks_trimBlanks s⟩
  · rintro ⟨ht, front, back, hfront, hback, rfl⟩
    exact trimBlanks_append hfront hback ht

/-! ## On strings -/

theorem isBlankText_iff {s : String} : isBlankText s = true ↔ Blanks s.toList :=
  List.all_eq_true

/-- Only blanks are trimmed to nothing. -/
theorem trim_eq_empty_iff {s : String} : trim s = "" ↔ isBlankText s = true := by
  rw [trim, ← String.toList_inj, String.toList_ofList, isBlankText_iff, String.toList_empty,
    trimBlanks_eq_iff]
  constructor
  · rintro ⟨-, front, back, hfront, hback, hs⟩
    intro c hc
    rw [hs, List.append_nil] at hc
    exact (List.mem_append.1 hc).elim (hfront c) (hback c)
  · intro hs
    exact ⟨.nil, s.toList, [], hs, nofun, by simp⟩

/-- Blanks around a text are taken off. -/
theorem trim_append {front s back : String} (hfront : Blanks front.toList)
    (hback : Blanks back.toList) (hs : Trimmed s.toList) : trim (front ++ s ++ back) = s := by
  rw [trim, String.toList_append, String.toList_append, trimBlanks_append hfront hback hs,
    String.ofList_toList]

theorem trimmed_trim (s : String) : Trimmed (trim s).toList := by
  rw [trim, String.toList_ofList]
  exact trimmed_trimBlanks s.toList

/-- A text is what trimming gives with blanks around it. -/
theorem exists_blanks_trim (s : String) :
    ∃ front back : String, Blanks front.toList ∧ Blanks back.toList ∧ s = front ++ trim s ++ back := by
  obtain ⟨front, back, hfront, hback, hs⟩ := exists_blanks_trimBlanks s.toList
  refine ⟨String.ofList front, String.ofList back, ?_, ?_, ?_⟩
  · rwa [String.toList_ofList]
  · rwa [String.toList_ofList]
  · rw [← String.toList_inj, trim]
    simpa using hs

end BlobFs.Text
