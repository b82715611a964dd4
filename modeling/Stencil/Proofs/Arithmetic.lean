/-
Integer arithmetic is exact or fails.

A `Calculation` is an expression of integers: operands that stand for integers of 64 bits,
signs, and the five operators of arithmetic.

* **`Calculation.value?`** — its value over all the integers, where a division by zero has
  none;
* **`Calculation.steps`** — the parts of it that apply an operator, in the order in which
  they do;
* **`applyInt_outcome`** — one operator gives the exact result, or says what is wrong;
* **`evaluate_calculation`** — so does a calculation, and what is wrong is blamed on the
  first step that fails.

## Design notes

Whether a step fails is said of the exact values of its operands, without a look at what
operators do to integers of 64 bits.  A remainder is computed along with its quotient and
fails if that does not fit.  This makes a difference for one division alone, that of the
smallest integer by -1: the remainder is 0, but the quotient is too large.
-/
import Stencil.Render
import Stencil.Tag.Builtin

namespace Stencil

/-! ### One operator -/

/-- An integer has 64 bits. -/
def FitsWord (n : Int) : Prop := Int64.minValue.toInt ≤ n ∧ n ≤ Int64.maxValue.toInt

instance (n : Int) : Decidable (FitsWord n) := inferInstanceAs (Decidable (_ ∧ _))

/-- An integer that fits is kept, and any other one is an overflow. -/
theorem fit_outcome (n : Int) :
    (∃ r : Int64, fit n = .ok r ∧ r.toInt = n) ∨ (fit n = .error .overflow ∧ ¬ FitsWord n) := by
  by_cases hfits : FitsWord n
  · refine .inl ⟨Int64.ofInt n, if_pos hfits, Int64.toInt_ofInt_of_le hfits.1 ?_⟩
    have hle := hfits.2
    rw [Int64.toInt_maxValue] at hle
    omega
  · exact .inr ⟨if_neg hfits, hfits⟩

theorem fitsWord_toInt (n : Int64) : FitsWord n.toInt :=
  ⟨Int64.le_iff_toInt_le.1 n.minValue_le, Int64.le_iff_toInt_le.1 n.le_maxValue⟩

/-- The infix operators of arithmetic. -/
inductive Arithmetic where
  | plus
  | minus
  | multiply
  | divide
  | modulo
deriving DecidableEq

namespace Arithmetic

/-- The operator of an expression. -/
def operator : Arithmetic → Operator
  | plus => .plus
  | minus => .minus
  | multiply => .multiply
  | divide => .divide
  | modulo => .modulo

/-- Whether the right operand is a divisor. -/
def divides : Arithmetic → Bool
  | divide | modulo => true
  | plus | minus | multiply => false

/-- The result over all the integers.  A quotient is truncated towards zero, and a remainder
has the sign of the dividend. -/
def result? (op : Arithmetic) (a b : Int) : Option Int :=
  if op.divides ∧ b = 0 then none
  else
    match op with
    | plus => some (a + b)
    | minus => some (a - b)
    | multiply => some (a * b)
    | divide => some (a.tdiv b)
    | modulo => some (a.tmod b)

/-- The integers that are computed from two operands. -/
inductive Computes (op : Arithmetic) (a b : Int) : Int → Prop
  | result {n : Int} : op.result? a b = some n → Computes op a b n
  | quotient : op = modulo → b ≠ 0 → Computes op a b (a.tdiv b)

/-- What may come of an operator and two integers. -/
inductive Outcome (op : Arithmetic) (a b : Int64) : Except Mismatch Int64 → Prop
  | exact {r : Int64} : op.result? a.toInt b.toInt = some r.toInt →
      (∀ n, op.Computes a.toInt b.toInt n → FitsWord n) → Outcome op a b (.ok r)
  | divisionByZero : op.divides → b.toInt = 0 → Outcome op a b (.error .divisionByZero)
  | overflow {n : Int} : op.Computes a.toInt b.toInt n → ¬ FitsWord n →
      Outcome op a b (.error .overflow)

variable {op : Arithmetic} {a b : Int64} {n : Int}

/-- An operator that computes nothing but its result. -/
theorem outcome_fit (hexact : op.result? a.toInt b.toInt = some n)
    (hquotient : op = modulo → FitsWord (a.toInt.tdiv b.toInt)) : op.Outcome a b (fit n) := by
  obtain ⟨r, hr, rfl⟩ | ⟨herror, hlarge⟩ := fit_outcome n
  · rw [hr]
    refine .exact hexact fun m hm => ?_
    cases hm with
    | result hm =>
      cases hexact.symm.trans hm
      exact fitsWord_toInt r
    | quotient hop => exact hquotient hop
  · rw [herror]
    exact .overflow (.result hexact) hlarge

end Arithmetic

/-- **An operator on integers gives the exact result, or says what is wrong.** -/
theorem applyInt_outcome (op : Arithmetic) (a b : Int64) :
    op.Outcome a b (applyInt op.operator a b) := by
  have hdivisor : b = 0 ↔ b.toInt = 0 := by
    rw [← Int64.toInt_zero, Int64.toInt_inj]
  cases op with
  | plus | minus | multiply => exact Arithmetic.outcome_fit rfl nofun
  | divide =>
    by_cases hb : b = 0
    · rw [Arithmetic.operator, applyInt, if_pos hb]
      exact .divisionByZero rfl (hdivisor.1 hb)
    · have hb' : ¬ (Arithmetic.divide.divides ∧ b.toInt = 0) := fun h => hb (hdivisor.2 h.2)
      rw [Arithmetic.operator, applyInt, if_neg hb]
      exact Arithmetic.outcome_fit (if_neg hb') nofun
  | modulo =>
    by_cases hb : b = 0
    · rw [Arithmetic.operator, applyInt, if_pos hb]
      exact .divisionByZero rfl (hdivisor.1 hb)
    · have hb' : ¬ (Arithmetic.modulo.divides ∧ b.toInt = 0) := fun h => hb (hdivisor.2 h.2)
      rw [Arithmetic.operator, applyInt, if_neg hb]
      obtain ⟨quotient, hquotient, heq⟩ | ⟨herror, hlarge⟩ := fit_outcome (a.toInt.tdiv b.toInt)
      · rw [hquotient]
        exact Arithmetic.outcome_fit (if_neg hb') fun _ => heq ▸ fitsWord_toInt quotient
      · rw [herror]
        exact .overflow (.quotient rfl fun h => hb (hdivisor.2 h)) hlarge

/-! ### Calculations -/

/-- An expression of integers.  An operand is any node, along with the integer it stands
for. -/
inductive Calculation where
  | operand (node : Node) (value : Int64)
  | negated (span : Span) (right : Calculation)
  | applied (span : Span) (op : Arithmetic) (left right : Calculation)

namespace Calculation

/-- The expression itself. -/
def node : Calculation → Node
  | operand node _ => node
  | negated span right => .signed span .minus right.node
  | applied span op left right => .binary span op.operator left.node right.node

/-- The place of the expression. -/
def span (part : Calculation) : Span := part.node.span

/-- The operands stand for their integers. -/
def Given (setting : Setting) (stored : Stores) (scopes : Scopes) : Calculation → Prop
  | operand node value => rendition setting stored scopes node = .ok (.value (.int value))
  | negated _ right => right.Given setting stored scopes
  | applied _ _ left right =>
    left.Given setting stored scopes ∧ right.Given setting stored scopes

/-- The value over all the integers. -/
def value? : Calculation → Option Int
  | operand _ value => some value.toInt
  | negated _ right => right.value?.map fun n => -n
  | applied _ op left right => do op.result? (← left.value?) (← right.value?)

/-- The parts that apply an operator, from left to right and from the inside out. -/
def steps : Calculation → List Calculation
  | operand _ _ => []
  | negated span right => right.steps ++ [.negated span right]
  | applied span op left right => left.steps ++ right.steps ++ [.applied span op left right]

/-- A step has the divisor zero. -/
inductive DividesByZero : Calculation → Prop
  | applied {span : Span} {op : Arithmetic} {left right : Calculation} :
      op.divides → right.value? = some 0 → DividesByZero (.applied span op left right)

/-- An integer is computed in a step: the result, or the quotient that belongs to a
remainder. -/
inductive Computes : Calculation → Int → Prop
  | result {part : Calculation} {n : Int} : part.value? = some n → Computes part n
  | quotient {span : Span} {left right : Calculation} {a b : Int} : left.value? = some a →
      right.value? = some b → b ≠ 0 → Computes (.applied span .modulo left right) (a.tdiv b)

/-- A step goes well. -/
structure Fits (step : Calculation) : Prop where
  divisor : ¬ step.DividesByZero
  word : ∀ n, step.Computes n → FitsWord n

/-- What is wrong with a step. -/
inductive Fails (step : Calculation) : Mismatch → Prop
  | divisionByZero : step.DividesByZero → Fails step .divisionByZero
  | overflow {n : Int} : step.Computes n → ¬ FitsWord n → Fails step .overflow

/-- The first of some steps that fails. -/
inductive FirstFailure (steps : List Calculation) (step : Calculation) (cause : Mismatch) : Prop
  | intro (before after : List Calculation) : steps = before ++ step :: after →
      (∀ earlier ∈ before, earlier.Fits) → step.Fails cause → FirstFailure steps step cause

variable {steps steps' : List Calculation} {step : Calculation} {cause : Mismatch}

/-- A step with the divisor zero has no value. -/
theorem not_dividesByZero {n : Int} (h : step.value? = some n) : ¬ step.DividesByZero := by
  rintro ⟨hop, hzero⟩
  rw [value?, hzero] at h
  obtain ⟨a, -, h⟩ := Option.bind_eq_some_iff.1 h
  exact Option.some_ne_none n (h.symm.trans (if_pos ⟨hop, rfl⟩))

theorem FirstFailure.append_right (h : FirstFailure steps step cause)
    (steps' : List Calculation) : FirstFailure (steps ++ steps') step cause := by
  obtain ⟨before, after, rfl, hbefore, hfails⟩ := h
  exact .intro before (after ++ steps') (List.append_assoc ..) hbefore hfails

theorem FirstFailure.append_left (hfits : ∀ earlier ∈ steps, earlier.Fits)
    (h : FirstFailure steps' step cause) : FirstFailure (steps ++ steps') step cause := by
  obtain ⟨before, after, rfl, hbefore, hfails⟩ := h
  refine .intro (steps ++ before) after (List.append_assoc ..).symm ?_ hfails
  intro earlier hearlier
  rcases List.mem_append.1 hearlier with hearlier | hearlier
  · exact hfits earlier hearlier
  · exact hbefore earlier hearlier

theorem firstFailure_last (hfits : ∀ earlier ∈ steps, earlier.Fits) (h : step.Fails cause) :
    FirstFailure (steps ++ [step]) step cause :=
  .append_left hfits (.intro [] [] rfl nofun h)

/-- What may come of a calculation. -/
inductive Outcome (part : Calculation) : Except RenderFault Rendition → Prop
  | exact {r : Int64} : part.value? = some r.toInt → (∀ step ∈ part.steps, step.Fits) →
      Outcome part (.ok (.value (.int r)))
  | fails {step : Calculation} {cause : Mismatch} : FirstFailure part.steps step cause →
      Outcome part (.error (.mismatch cause step.span))

theorem fits_append (h : ∀ step ∈ steps, step.Fits) (h' : ∀ step ∈ steps', step.Fits) :
    ∀ step ∈ steps ++ steps', step.Fits := fun step hstep =>
  (List.mem_append.1 hstep).elim (h step) (h' step)

/-- A sign behind an operand that is computed. -/
theorem outcome_negated {span : Span} {right : Calculation} {n : Int64}
    (hvalue : right.value? = some n.toInt) (hfits : ∀ step ∈ right.steps, step.Fits) :
    (negated span right).Outcome
      (blame span (applySign .minus (.int n)) >>= fun value => .ok (.value value)) := by
  have hresult : (negated span right).value? = some (-n.toInt) := by rw [value?, hvalue]; rfl
  show (negated span right).Outcome
    (blame span ((fit (-n.toInt)).map .int) >>= fun value => .ok (.value value))
  obtain ⟨r, hr, heq⟩ | ⟨herror, hlarge⟩ := fit_outcome (-n.toInt)
  · rw [hr]
    refine .exact (by rw [hresult, heq]) (fits_append hfits fun step hstep => ?_)
    obtain rfl := List.mem_singleton.1 hstep
    refine ⟨nofun, fun m hm => ?_⟩
    cases hm with
    | result hm =>
      cases hresult.symm.trans hm
      exact heq ▸ fitsWord_toInt r
  · have hfails : FirstFailure (negated span right).steps (negated span right) .overflow :=
      firstFailure_last hfits (.overflow (.result hresult) hlarge)
    rw [herror]
    exact .fails hfails

/-- An operator between operands that are computed. -/
theorem outcome_applied {span : Span} {op : Arithmetic} {left right : Calculation} {a b : Int64}
    (hleft : left.value? = some a.toInt) (hright : right.value? = some b.toInt)
    (hfits : ∀ step ∈ left.steps ++ right.steps, step.Fits) :
    (applied span op left right).Outcome
      (blame span (applyBinary op.operator (.int a) (.int b)) >>=
        fun value => .ok (.value value)) := by
  have hresult : (applied span op left right).value? = op.result? a.toInt b.toInt := by
    rw [value?, hleft, hright]
    rfl
  have hcomputes {n : Int} (h : (applied span op left right).Computes n) :
      op.Computes a.toInt b.toInt n := by
    cases h with
    | result h => exact .result (hresult.symm.trans h)
    | quotient ha hb hzero =>
      cases hleft.symm.trans ha
      cases hright.symm.trans hb
      exact .quotient rfl hzero
  have hcomputed {n : Int} (h : op.Computes a.toInt b.toInt n) :
      (applied span op left right).Computes n := by
    cases h with
    | result h => exact .result (hresult.trans h)
    | quotient hop hzero =>
      subst hop
      exact .quotient hleft hright hzero
  have happly :
      applyBinary op.operator (.int a) (.int b) = (applyInt op.operator a b).map .int := by
    cases op <;> rfl
  have houtcome := applyInt_outcome op a b
  rw [happly]
  generalize applyInt op.operator a b = result at houtcome
  cases houtcome with
  | exact hexact hword =>
    have hvalue := hresult.trans hexact
    refine .exact hvalue (fits_append hfits fun step hstep => ?_)
    obtain rfl := List.mem_singleton.1 hstep
    exact ⟨not_dividesByZero hvalue, fun n hn => hword n (hcomputes hn)⟩
  | divisionByZero hop hzero =>
    have hfails : FirstFailure (applied span op left right).steps (applied span op left right)
        .divisionByZero :=
      firstFailure_last hfits (.divisionByZero (.applied hop (hzero ▸ hright)))
    exact .fails hfails
  | overflow hn hlarge =>
    have hfails : FirstFailure (applied span op left right).steps (applied span op left right)
        .overflow :=
      firstFailure_last hfits (.overflow (hcomputed hn) hlarge)
    exact .fails hfails

variable {setting : Setting} {stored : Stores} {scopes : Scopes}

/-- **A calculation gives its exact value, or fails at its first step that does.** -/
theorem outcome {part : Calculation} (h : part.Given setting stored scopes) :
    part.Outcome (rendition setting stored scopes part.node) := by
  -- The steps of an operand are the first ones of the expression, so a failure among them is
  -- the first one there as well.
  induction part with
  | operand node value =>
    rw [Given] at h
    rw [Calculation.node, h]
    exact .exact rfl nofun
  | negated span right ih =>
    have hright := ih h
    rw [Calculation.node, rendition]
    generalize rendition setting stored scopes right.node = result at hright
    cases hright with
    | exact hvalue hfits => exact outcome_negated hvalue hfits
    | fails hfails => exact .fails (hfails.append_right _)
  | applied span op left right ihleft ihright =>
    have hleft := ihleft h.1
    have hright := ihright h.2
    have hand : (op.operator = .and) = False := by cases op <;> simp [Arithmetic.operator]
    have hor : (op.operator = .or) = False := by cases op <;> simp [Arithmetic.operator]
    rw [Calculation.node, rendition]
    simp only [hand, hor]
    generalize rendition setting stored scopes left.node = result at hleft
    cases hleft with
    | fails hfails => exact .fails ((hfails.append_right _).append_right _)
    | exact hvalue hfits =>
      generalize rendition setting stored scopes right.node = result' at hright
      cases hright with
      | fails hfails => exact .fails ((FirstFailure.append_left hfits hfails).append_right _)
      | exact hvalue' hfits' =>
        exact outcome_applied hvalue hvalue' (fits_append hfits hfits')

theorem FirstFailure.not_fits (h : FirstFailure steps step cause) :
    ¬ ∀ step ∈ steps, step.Fits := by
  obtain ⟨before, after, rfl, -, hfails⟩ := h
  intro hfits
  have hstep : step.Fits := hfits step (List.mem_append_right _ (List.mem_cons_self ..))
  cases hfails with
  | divisionByZero hzero => exact hstep.divisor hzero
  | overflow hn hlarge => exact hlarge (hstep.word _ hn)

theorem FirstFailure.message_mem (h : FirstFailure steps step cause) :
    cause.message ∈ ["division by zero", "integer overflow"] := by
  obtain ⟨-, -, -, -, hfails⟩ := h
  cases hfails with
  | divisionByZero => exact List.mem_cons_self ..
  | overflow => exact List.mem_cons_of_mem _ (List.mem_cons_self ..)

end Calculation

/-- **Integer arithmetic is exact or fails.**  A calculation gives an integer if and only if no
step of it divides by zero and all the integers that it computes have 64 bits, and the integer is
its exact value.  Otherwise the first step that does not go well is blamed. -/
theorem evaluate_calculation {setting : Setting} {stored : Stores} {scopes : Scopes}
    {calculation : Calculation} (h : calculation.Given setting stored scopes) :
    let result := rendition setting stored scopes calculation.node
    ((∃ r, result = .ok (.value (.int r))) ↔ ∀ step ∈ calculation.steps, step.Fits) ∧
      (∀ r, result = .ok (.value (.int r)) → calculation.value? = some r.toInt) ∧
      ((¬ ∃ r, result = .ok (.value (.int r))) → ∃ step cause,
        Calculation.FirstFailure calculation.steps step cause ∧
          result = .error (.mismatch cause step.span) ∧
          cause.message ∈ ["division by zero", "integer overflow"]) := by
  intro result
  have houtcome : calculation.Outcome result := Calculation.outcome h
  clear_value result
  cases houtcome with
  | exact hvalue hfits =>
    refine ⟨⟨fun _ => hfits, fun _ => ⟨_, rfl⟩⟩, ?_, fun hnone => absurd ⟨_, rfl⟩ hnone⟩
    rintro _ ⟨⟩
    exact hvalue
  | fails hfailure =>
    refine ⟨⟨nofun, fun hfits => absurd hfits hfailure.not_fits⟩, nofun, fun _ => ?_⟩
    exact ⟨_, _, hfailure, rfl, hfailure.message_mem⟩

/-- A remainder, which has the sign of the dividend: `-7 % 2`. -/
theorem evaluate_calculation_remainder :
    let setting : Setting := ⟨Builtin.registry, fun _ _ => .ok "", .dictionary [], .empty⟩
    let stored := renderWithin setting 0
    let number (n : Int64) : Calculation := .operand (.literal default (.int n)) n
    let calculation := Calculation.applied default .modulo (.negated default (number 7)) (number 2)
    calculation.Given setting stored [] ∧
      rendition setting stored [] calculation.node = .ok (.value (.int (-1))) ∧
      ∀ step ∈ calculation.steps, step.Fits := by
  intro setting stored number calculation
  have hgiven : calculation.Given setting stored [] := ⟨rfl, rfl⟩
  exact ⟨hgiven, rfl, (evaluate_calculation hgiven).1.1 ⟨-1, rfl⟩⟩

/-- The remainder of the smallest integer by -1 is 0, and is not computed:
`(-9223372036854775807 - 1) % -1`. -/
theorem smallest_remainder_fails :
    let setting : Setting := ⟨Builtin.registry, fun _ _ => .ok "", .dictionary [], .empty⟩
    let stored := renderWithin setting 0
    let number (n : Int64) : Calculation := .operand (.literal default (.int n)) n
    let smallest := Calculation.applied default .minus
      (.negated default (number Int64.maxValue)) (number 1)
    let calculation := Calculation.applied default .modulo smallest (.negated default (number 1))
    calculation.Given setting stored [] ∧
      (∀ step ∈ calculation.steps, ¬ step.DividesByZero ∧ ∃ n, step.value? = some n ∧ FitsWord n) ∧
      calculation.value? = some 0 ∧
      rendition setting stored [] calculation.node = .error (.mismatch .overflow default) := by
  intro setting stored number smallest calculation
  have hsteps : calculation.steps =
      [.negated default (number Int64.maxValue), smallest, .negated default (number 1),
        calculation] := rfl
  refine ⟨⟨⟨rfl, rfl⟩, rfl⟩, ?_, rfl, rfl⟩
  intro step hstep
  obtain ⟨n, hvalue, hword⟩ : ∃ n, step.value? = some n ∧ FitsWord n := by
    rw [hsteps] at hstep
    simp only [List.mem_cons, List.not_mem_nil, or_false] at hstep
    obtain rfl | rfl | rfl | rfl := hstep
    · exact ⟨_, rfl, by decide⟩
    · exact ⟨_, rfl, by decide⟩
    · exact ⟨_, rfl, by decide⟩
    · exact ⟨_, rfl, by decide⟩
  exact ⟨Calculation.not_dividesByZero hvalue, n, hvalue, hword⟩

end Stencil
