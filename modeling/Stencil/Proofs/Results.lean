/-
Results that may be errors.

* **`except_bind_eq_ok`** — what has gone well step by step;
* **`Gives`** — what holds of a result, if there is one, and how it is carried through
  the steps of a computation.
-/

namespace Stencil

section Except

variable {ε α β : Type}

theorem except_map_eq_ok {f : α → β} {x : Except ε α} {b : β} (h : x.map f = .ok b) :
    ∃ a, x = .ok a ∧ b = f a := by
  cases x with
  | error error => cases h
  | ok a => exact ⟨a, rfl, (Except.ok.inj h).symm⟩

theorem except_map_eq_error {f : α → β} {x : Except ε α} {error : ε}
    (h : x.map f = .error error) : x = .error error := by
  cases x with
  | error error' => exact congrArg Except.error (Except.error.inj h)
  | ok a => cases h

theorem except_bind_eq_ok {f : α → Except ε β} {x : Except ε α} {b : β} (h : x >>= f = .ok b) :
    ∃ a, x = .ok a ∧ f a = .ok b := by
  cases x with
  | error error => cases h
  | ok a => exact ⟨a, rfl, h⟩

/-- What follows a result has to agree for the result only. -/
theorem except_bind_congr {x : Except ε α} {f g : α → Except ε β}
    (h : ∀ a, x = .ok a → f a = g a) : x >>= f = x >>= g := by
  cases x with
  | error error => rfl
  | ok a => exact h a rfl

end Except

/-- What is given is good, if anything is given. -/
def Gives {ε α : Type} (good : α → Prop) (result : Except ε α) : Prop :=
  ∀ value, result = .ok value → good value

section Gives

variable {ε α β : Type} {good : α → Prop} {good' : β → Prop}

theorem gives_ok {value : α} (h : good value) : Gives good (.ok value : Except ε α) := by
  rintro _ ⟨⟩
  exact h

theorem gives_error (error : ε) : Gives good (.error error) := by
  rintro _ ⟨⟩

theorem Gives.bind {result : Except ε α} {next : α → Except ε β} (h : Gives good result)
    (hnext : ∀ value, good value → Gives good' (next value)) : Gives good' (result >>= next) := by
  cases result with
  | error error => exact gives_error error
  | ok value => exact hnext value (h value rfl)

end Gives

end Stencil
