import CyclesAP2.Python

/-!
# Exceptions of the guard

`PyExc` is every exception object that can leave the guard: the classes of
`exceptions.py` with their attributes, the `AssertionError` of an internal
`assert`, and exceptions raised by the client, by the library or by the
`with` body, which the guard lets through.
-/

namespace CyclesAP2

/-- The classes by their names (`typeName`), each with its message and its attributes;
    `cause` is the chained `__cause__`. -/
inductive PyExc where
  | guardDenied (message : String) (reasonCode requestId : Option String)
  | dryRunResult (message decision : String) (reasonCode : Option String)
      (caps balances : PyValue) (affectedScopes : Option (List String))
  | guardCommitUncertain (message : String) (errorCode requestId reservationId : Option String)
      (cause : Option Raised)
  | guardCommitFailed (message : String) (errorCode requestId reservationId : Option String)
      (released : Bool) (releaseError : Option String)
  | currencyError (message : String)
  | mandateError (message : String)
  | assertionError
  | foreign (exc : Raised)
deriving DecidableEq

/-- `exc_type.__name__` -/
def PyExc.typeName : PyExc → String
  | .guardDenied .. => "AP2GuardDenied"
  | .dryRunResult .. => "AP2DryRunResult"
  | .guardCommitUncertain .. => "AP2GuardCommitUncertain"
  | .guardCommitFailed .. => "AP2GuardCommitFailed"
  | .currencyError _ => "AP2CurrencyError"
  | .mandateError _ => "AP2MandateError"
  | .assertionError => "AssertionError"
  | .foreign exc => exc.typeName

/-- Caught by `except Exception`. -/
def Raised.isException (exc : Raised) : Bool := decide (exc.kind = .exception)

/-- Caught by `except asyncio.CancelledError`. -/
def Raised.isCancelled (exc : Raised) : Bool := decide (exc.kind = .cancelledError)

/-! ### Code that may raise -/

section Except

variable {ε ε' α β : Type}

theorem bind_eq_ok_iff {x : Except ε α} {f : α → Except ε β} {b : β} :
    x >>= f = .ok b ↔ ∃ a, x = .ok a ∧ f a = .ok b := by
  cases x with
  | error e => simp [bind, Except.bind]
  | ok a => simp [bind, Except.bind]

theorem bind_eq_error_iff {x : Except ε α} {f : α → Except ε β} {e : ε} :
    x >>= f = .error e ↔ x = .error e ∨ ∃ a, x = .ok a ∧ f a = .error e := by
  cases x with
  | error e => simp [bind, Except.bind]
  | ok a => simp [bind, Except.bind]

theorem mapError_eq_ok_iff {x : Except ε α} {f : ε → ε'} {a : α} :
    x.mapError f = .ok a ↔ x = .ok a := by
  cases x with
  | error e => simp [Except.mapError]
  | ok a => simp [Except.mapError]

theorem mapError_eq_error_iff {x : Except ε α} {f : ε → ε'} {e : ε'} :
    x.mapError f = .error e ↔ ∃ e', x = .error e' ∧ f e' = e := by
  cases x with
  | error e => simp [Except.mapError]
  | ok a => simp [Except.mapError]

theorem mapError_bind {x : Except ε α} {f : α → Except ε β} {g : ε → ε'} :
    (x >>= f).mapError g = x.mapError g >>= fun a => (f a).mapError g := by
  cases x <;> rfl

theorem mapError_ok_bind {a : α} {f : ε → ε'} {next : α → Except ε' β} :
    (Except.ok a : Except ε α).mapError f >>= next = next a := rfl

theorem mapError_error_bind {e : ε} {f : ε → ε'} {next : α → Except ε' β} :
    (Except.error e : Except ε α).mapError f >>= next = .error (f e) := rfl

end Except

end CyclesAP2
