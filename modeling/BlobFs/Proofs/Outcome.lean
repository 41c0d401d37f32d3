/-!
# Results that may fail or be missing

A computation that may fail ends with a result or with a failure.  What it says of its parts that it
succeeded is `exists_of_bind_eq_ok`.  Two computations of the same shape are compared by `Alike`:
they fail alike, or both succeed with related results, and that is kept from one part to the next
(`Alike.bind`).

Two values that may be missing are compared by `Option.Rel`: both are missing, or they are related.
Two steps on states are compared by `Paired`: they answer the same and leave related states.  What a
step was asked, and what it answered, can be read off a run of the step that takes notes (`noted`).
-/

set_option autoImplicit false

namespace BlobFs

variable {ε α β γ δ : Type}

/-- If one computation after another succeeds, both do. -/
theorem exists_of_bind_eq_ok {first : Except ε α} {next : α → Except ε β} {b : β}
    (h : first >>= next = .ok b) : ∃ a, first = .ok a ∧ next a = .ok b := by
  cases first with
  | error e => cases h
  | ok a => exact ⟨a, rfl, h⟩

/-- Two computations that fail alike, or both succeed with related results. -/
inductive Alike (related : α → β → Prop) : Except ε α → Except ε β → Prop
  | ok {a : α} {b : β} (h : related a b) : Alike related (.ok a) (.ok b)
  | error (e : ε) : Alike related (.error e) (.error e)

namespace Alike

variable {related : α → β → Prop} {further : γ → δ → Prop}

theorem imp {weaker : α → β → Prop} {first : Except ε α} {second : Except ε β}
    (h : Alike related first second) (himp : ∀ a b, related a b → weaker a b) :
    Alike weaker first second := by
  cases h with
  | ok hab => exact .ok (himp _ _ hab)
  | error e => exact .error e

/-- What goes on alike from related results is alike from the start. -/
theorem bind {first : Except ε α} {second : Except ε β} {next : α → Except ε γ}
    {next' : β → Except ε δ} (h : Alike related first second)
    (hnext : ∀ a b, related a b → Alike further (next a) (next' b)) :
    Alike further (first >>= next) (second >>= next') := by
  cases h with
  | ok hab => exact hnext _ _ hab
  | error e => exact .error e

/-- What goes on alike after one and the same computation is alike. -/
theorem bind_of_eq {first second : Except ε α} {next : α → Except ε γ} {next' : α → Except ε δ}
    (h : first = second) (hnext : ∀ a, Alike further (next a) (next' a)) :
    Alike further (first >>= next) (second >>= next') := by
  subst h
  cases first with
  | ok a => exact hnext a
  | error e => exact .error e

end Alike

/-! ## Values that may be missing -/

theorem eq_of_rel_eq {first second : Option α} (h : Option.Rel Eq first second) :
    first = second := by
  cases h with
  | some hab => rw [hab]
  | none => rfl

theorem isSome_eq_of_rel {related : α → β → Prop} {first : Option α} {second : Option β}
    (h : Option.Rel related first second) : first.isSome = second.isSome := by
  cases h <;> rfl

theorem rel_imp {related weaker : α → β → Prop} {first : Option α} {second : Option β}
    (h : Option.Rel related first second) (himp : ∀ a b, related a b → weaker a b) :
    Option.Rel weaker first second := by
  cases h with
  | some hab => exact .some (himp _ _ hab)
  | none => exact .none

theorem rel_map {related : α → β → Prop} {further : γ → δ → Prop} {first : Option α}
    {second : Option β} {f : α → γ} {g : β → δ} (h : Option.Rel related first second)
    (hmap : ∀ a b, related a b → further (f a) (g b)) :
    Option.Rel further (first.map f) (second.map g) := by
  cases h with
  | some hab => exact .some (hmap _ _ hab)
  | none => exact .none

/-- A test that related values pass or fail together keeps them related. -/
theorem rel_filter {related : α → β → Prop} {first : Option α} {second : Option β}
    {p : α → Bool} {q : β → Bool} (h : Option.Rel related first second)
    (htest : ∀ a b, related a b → p a = q b) :
    Option.Rel related (first.filter p) (second.filter q) := by
  cases h with
  | none => exact .none
  | @some a b hab =>
    rw [Option.filter_some, Option.filter_some, htest a b hab]
    split
    · exact .some hab
    · exact .none

/-! ## Steps on states -/

/-- Two pairs with the same first part and related second parts: what two steps answer and the
states that they leave. -/
structure Paired (related : β → γ → Prop) (x : α × β) (y : α × γ) : Prop where
  fst_eq : x.1 = y.1
  snd : related x.2 y.2

theorem Paired.exists_eq {related : β → γ → Prop} {x : α × β} {y : α × γ}
    (h : Paired related x y) : ∃ a b c, x = (a, b) ∧ y = (a, c) ∧ related b c :=
  ⟨x.1, x.2, y.2, rfl, Prod.ext h.fst_eq.symm rfl, h.snd⟩

/-- The step with a note of what it was asked and what it answered, behind the notes so far. -/
def noted {ι τ : Type} (step : ι → τ → α × τ) (input : ι) (state : List (ι × α) × τ) :
    α × List (ι × α) × τ :=
  let (answer, after) := step input state.2
  (answer, state.1 ++ [(input, answer)], after)

theorem noted_of_eq {ι τ : Type} {step : ι → τ → α × τ} {input : ι} {state after : τ} {answer : α}
    (h : step input state = (answer, after)) (notes : List (ι × α)) :
    noted step input (notes, state) = (answer, notes ++ [(input, answer)], after) := by
  rw [noted, h]

end BlobFs
