import CyclesAP2.Constants
import CyclesAP2.Exceptions

/-!
# Shared validators
-/

namespace CyclesAP2

/-- `raise AP2MandateError(f"...{value}...")`.  The message is formatted first,
    and formatting may raise on its own (an integer with too many digits, an
    object with a failing `__repr__`). -/
def raiseMandateError {α : Type} (py : Python) (value : PyValue) (message : String → String) :
    Except PyExc α :=
  match py.repr value with
  | .ok shown => .error (.mandateError (message shown))
  | .error exc => .error (.foreign exc)

/-- Validate that `amount` is a non-negative plain `int` within the int64
    ceiling. -/
def validateMicros (py : Python) (amount : PyValue) (field : String) : Except PyExc Int :=
  match amount with
  | .int n =>
    if n < 0 then
      raiseMandateError py amount fun shown => s!"{field} must be non-negative, got {shown}"
    else if n > MAX_USD_MICROS then
      raiseMandateError py amount fun shown =>
        s!"{field} {shown} exceeds int64 USD micro-cent max ({MAX_USD_MICROS})"
    else .ok n
  | _ =>
    raiseMandateError py amount fun shown =>
      s!"{field} must be an int, got {amount.typeName}: {shown}"

/-- The amount a value stands for, if it is a plain integer in range. -/
def acceptedMicros : PyValue → Option Int
  | .int n => if 0 ≤ n ∧ n ≤ MAX_USD_MICROS then some n else none
  | _ => none

theorem acceptedMicros_eq_some_iff {amount : PyValue} {n : Int} :
    acceptedMicros amount = some n ↔ amount = .int n ∧ 0 ≤ n ∧ n ≤ MAX_USD_MICROS := by
  cases amount with
  | int m =>
    simp only [acceptedMicros, Option.ite_none_right_eq_some, Option.some.injEq, PyValue.int.injEq]
    constructor
    · rintro ⟨hbounds, rfl⟩
      exact ⟨rfl, hbounds⟩
    · rintro ⟨rfl, hbounds⟩
      exact ⟨hbounds, rfl⟩
  | _ => simp [acceptedMicros]

theorem raiseMandateError_ne_ok {α : Type} (py : Python) (value : PyValue)
    (message : String → String) (result : α) :
    raiseMandateError py value message ≠ .ok result := by
  unfold raiseMandateError
  cases py.repr value <;> simp

/-- **The validator accepts exactly the plain integers in range**, and returns
    them unchanged. -/
theorem validateMicros_eq_ok_iff (py : Python) {amount : PyValue} {field : String} {n : Int} :
    validateMicros py amount field = .ok n ↔ acceptedMicros amount = some n := by
  rw [acceptedMicros_eq_some_iff]
  cases amount with
  | int m =>
    simp only [validateMicros, PyValue.int.injEq]
    by_cases hneg : m < 0
    · simp only [if_pos hneg, raiseMandateError_ne_ok, false_iff]
      omega
    · by_cases hbig : m > MAX_USD_MICROS
      · simp only [if_neg hneg, if_pos hbig, raiseMandateError_ne_ok, false_iff]
        omega
      · simp only [if_neg hneg, if_neg hbig, Except.ok.injEq]
        omega
  | _ => simp [validateMicros, raiseMandateError_ne_ok]

end CyclesAP2
