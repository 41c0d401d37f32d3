import BlobFs.Proofs.Session.Contexts

/-!
# Retired contexts

What happens to contexts once they are made.  They are only ever added and retired: a number stands
for one connection for good, and a retired context stays retired (`ContextCache.Extends`).

* `context?_retireAll`, `lookup_retireAll` — retiring all contexts retires those that are kept for
  some account, and no other; none is found afterwards.
* `Distinct.mem_keep_or` — as no account has two entries, a context for which there is an entry
  keeps it until it is retired.
-/

set_option autoImplicit false

namespace BlobFs.ContextCache

variable {α : Type}

/-! ## Retiring all contexts -/

theorem context?_retire (c : ContextCache α) (id other : Nat) :
    (c.retire id).context? other = (c.context? other).map fun context ↦
      if id = other then { context with retired := true } else context := by
  rw [context?, retire, List.getElem?_modify]
  rfl

private theorem context?_foldl_retire (entries : List (String × Nat)) (c : ContextCache α)
    (id : Nat) :
    (entries.foldl (fun c entry ↦ c.retire entry.2) c).context? id =
      (c.context? id).map fun context ↦
        if id ∈ entries.map Prod.snd then { context with retired := true } else context := by
  induction entries generalizing c with
  | nil => simp
  | cons entry entries ih =>
    rw [List.foldl_cons, ih, context?_retire, Option.map_map]
    congr 1
    funext context
    rw [Function.comp_apply, List.map_cons]
    by_cases he : entry.2 = id
    · simp [he]
    · rw [if_neg he]
      simp only [List.mem_cons, Ne.symm he, false_or]

private theorem entries_foldl_retire (entries : List (String × Nat)) (c : ContextCache α) :
    (entries.foldl (fun c entry ↦ c.retire entry.2) c).entries = c.entries := by
  induction entries generalizing c with
  | nil => rfl
  | cons entry entries ih => exact ih (c.retire entry.2)

/-- The contexts that are kept for some account are retired, and the others stay as they are. -/
theorem context?_retireAll (c : ContextCache α) (id : Nat) :
    c.retireAll.context? id = (c.context? id).map fun context ↦
      if id ∈ c.entries.map Prod.snd then { context with retired := true } else context :=
  context?_foldl_retire c.entries c id

theorem entries_retireAll (c : ContextCache α) : c.retireAll.entries = c.entries :=
  entries_foldl_retire c.entries c

/-- No context is found any more for any account. -/
theorem lookup_retireAll (c : ContextCache α) (account : String) :
    c.retireAll.lookup account = none := by
  rw [lookup, entries_retireAll, Option.filter_eq_none_iff]
  intro id hid hactive
  obtain ⟨before, after, hsplit, -⟩ := List.lookup_eq_some_iff.1 hid
  have hin : id ∈ c.entries.map Prod.snd := by simp [hsplit]
  rw [isActive, context?_retireAll] at hactive
  cases hcontext : c.context? id <;> simp [hcontext, hin] at hactive

/-! ## What stays -/

/-- Whether every context of a cache is still there, with its connection, and retired if it was. -/
def Extends (c later : ContextCache α) : Prop :=
  ∀ id context, c.context? id = some context → ∃ context', later.context? id = some context' ∧
    context'.connection = context.connection ∧
    (context.retired = true → context'.retired = true)

theorem Extends.refl (c : ContextCache α) : c.Extends c :=
  fun _ context h ↦ ⟨context, h, rfl, id⟩

theorem Extends.trans {c later latest : ContextCache α} (h : c.Extends later)
    (h' : later.Extends latest) : c.Extends latest := by
  intro id context hid
  obtain ⟨context₁, hid₁, hconnection₁, hretired₁⟩ := h id context hid
  obtain ⟨context₂, hid₂, hconnection₂, hretired₂⟩ := h' id context₁ hid₁
  exact ⟨context₂, hid₂, hconnection₂.trans hconnection₁, hretired₂ ∘ hretired₁⟩

/-- Making a context changes no other. -/
theorem context?_make (c : ContextCache α) (connection : α) {id : Nat} {context : Context α}
    (h : c.context? id = some context) : (c.make connection).2.context? id = some context := by
  obtain ⟨hlt, -⟩ := List.getElem?_eq_some_iff.1 h
  rw [← h]
  exact List.getElem?_append_left hlt

theorem extends_make (c : ContextCache α) (connection : α) :
    c.Extends (c.make connection).2 :=
  fun _ context h ↦ ⟨context, c.context?_make connection h, rfl, id⟩

theorem extends_retireAll (c : ContextCache α) : c.Extends c.retireAll := by
  intro id context h
  rw [context?_retireAll, h, Option.map_some]
  by_cases hin : id ∈ c.entries.map Prod.snd
  · exact ⟨_, rfl, by rw [if_pos hin], fun _ ↦ by rw [if_pos hin]⟩
  · exact ⟨_, rfl, by rw [if_neg hin], fun hretired ↦ by rwa [if_neg hin]⟩

/-- Whether the context with this number is there and retired. -/
def Retired (c : ContextCache α) (id : Nat) : Prop :=
  ∃ context, c.context? id = some context ∧ context.retired = true

theorem Retired.of_extends {c later : ContextCache α} {id : Nat} (hid : c.Retired id)
    (h : c.Extends later) : later.Retired id := by
  obtain ⟨context, hcontext, hretired⟩ := hid
  obtain ⟨context', hcontext', -, hkeeps⟩ := h id context hcontext
  exact ⟨context', hcontext', hkeeps hretired⟩

theorem Retired.not_isActive {c : ContextCache α} {id : Nat} (hid : c.Retired id) :
    c.isActive id = false := by
  obtain ⟨context, hcontext, hretired⟩ := hid
  simp [isActive, hcontext, hretired]

/-- A number that some account has is that of a context, active or retired. -/
theorem WellNumbered.retired_of_not_isActive {c : ContextCache α} (h : c.WellNumbered)
    {entry : String × Nat} (he : entry ∈ c.entries) (hactive : ¬c.isActive entry.2 = true) :
    c.Retired entry.2 := by
  have hcontext : c.context? entry.2 = some _ := List.getElem?_eq_getElem (h entry he)
  refine ⟨_, hcontext, ?_⟩
  simpa [isActive, hcontext] using hactive

/-- Whatever was kept is retired afterwards. -/
theorem WellNumbered.retired_retireAll {c : ContextCache α} (h : c.WellNumbered)
    {entry : String × Nat} (he : entry ∈ c.entries) : c.retireAll.Retired entry.2 := by
  have hcontext : c.context? entry.2 = some _ := List.getElem?_eq_getElem (h entry he)
  rw [Retired, context?_retireAll, hcontext, Option.map_some, if_pos (List.mem_map_of_mem he)]
  exact ⟨_, rfl, rfl⟩

/-- Whether no account has two entries: each entry is the one that is found. -/
def Distinct (c : ContextCache α) : Prop :=
  ∀ entry ∈ c.entries, c.entries.lookup entry.1 = some entry.2

theorem Distinct.keep {c : ContextCache α} (h : c.Distinct) (account : String) (connection : α) :
    (c.keep account connection).Distinct := by
  intro entry he
  rcases List.mem_cons.1 he with rfl | hin
  · exact List.lookup_cons_self
  · obtain ⟨hin, hne⟩ := List.mem_filter.1 hin
    rw [lookup_entries_keep c connection (by simpa using hne)]
    exact h entry hin

/-- Keeping a context for an account for which none is found leaves every entry in place, or the
context that it stands for is retired. -/
theorem Distinct.mem_keep_or {c : ContextCache α} (h : c.Distinct) (hnumbers : c.WellNumbered)
    {account : String} (hnone : c.lookup account = none) (connection : α) {entry : String × Nat}
    (he : entry ∈ c.entries) : entry ∈ (c.keep account connection).entries ∨ c.Retired entry.2 := by
  by_cases ha : entry.1 = account
  · rw [lookup, ← ha, h entry he, Option.filter_eq_none_iff] at hnone
    exact .inr (hnumbers.retired_of_not_isActive he (hnone entry.2 rfl))
  · exact .inl (List.mem_cons_of_mem _ (List.mem_filter.2 ⟨he, by simpa using ha⟩))

theorem WellNumbered.make {c : ContextCache α} (h : c.WellNumbered) (connection : α) :
    (c.make connection).2.WellNumbered := by
  intro entry he
  have hlength : (c.make connection).2.contexts.length = c.contexts.length + 1 :=
    List.length_append
  rw [hlength]
  exact Nat.lt_succ_of_lt (h entry he)

theorem WellNumbered.retireAll {c : ContextCache α} (h : c.WellNumbered) :
    c.retireAll.WellNumbered := by
  intro entry he
  rw [entries_retireAll] at he
  obtain ⟨context, hcontext, -⟩ :=
    extends_retireAll c entry.2 _ (List.getElem?_eq_getElem (h entry he))
  exact (List.getElem?_eq_some_iff.1 hcontext).1

end BlobFs.ContextCache
