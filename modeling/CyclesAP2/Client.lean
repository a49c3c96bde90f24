import CyclesAP2.Mapping

/-!
# The Cycles client as the guard sees it

The client library is not part of this repository.  A response is therefore a
record of what the guard reads from it, each field free: the three status
predicates, the status, what `get_error_response()` gives (it may raise), and
what `ReservationCreateResponse.model_validate(response.body)` gives.  A POST
either returns a response or raises.
-/

namespace CyclesAP2

inductive Decision where
  | allow
  | allowWithCaps
  | deny
deriving DecidableEq, Repr

def Decision.value : Decision → String
  | .allow => "ALLOW"
  | .allowWithCaps => "ALLOW_WITH_CAPS"
  | .deny => "DENY"

structure ReservationCreateResponse where
  decision : Decision
  reservationId : Option String
  reasonCode : Option String := none
  caps : PyValue := .none
  balances : PyValue := .none
  affectedScopes : Option (List String) := none
deriving DecidableEq

/-- `is_denied()` is code of the client library.  It is taken to say whether the decision
    is DENY, as `exceptions.py` and the README have it: the guard raises `AP2GuardDenied`
    on `Decision.DENY`. -/
def ReservationCreateResponse.isDenied (result : ReservationCreateResponse) : Bool :=
  decide (result.decision = .deny)

/-- A parsed error body; `errorCode` is the value of the recognised code. -/
structure ErrorResponse where
  error : String
  errorCode : Option String
  requestId : Option String
deriving DecidableEq

/-- What the guard reads from a response: the status, and whether it is 2xx, no
    response at all, or 5xx; `createResult` is what
    `ReservationCreateResponse.model_validate(response.body)` gives. -/
structure CyclesResponse where
  status : Int
  isSuccess : Bool
  isTransportError : Bool
  isServerError : Bool
  getErrorResponse : Except Raised (Option ErrorResponse)
  createResult : Except Raised ReservationCreateResponse

/-- A 200 response; `result` is what its body parses to as a reservation. -/
def CyclesResponse.success (result : Except Raised ReservationCreateResponse) :
    CyclesResponse where
  status := 200
  isSuccess := true
  isTransportError := false
  isServerError := false
  getErrorResponse := .ok none
  createResult := result

/-- A response with an error body, of a status that is not 2xx. -/
def CyclesResponse.failure (status : Int) (error : ErrorResponse) : CyclesResponse where
  status := status
  isSuccess := false
  isTransportError := false
  isServerError := decide (500 ≤ status ∧ status ≤ 599)
  getErrorResponse := .ok (some error)
  createResult := .error ⟨.exception, "ValidationError", "decision: Field required"⟩

def CyclesResponse.lost : CyclesResponse where
  status := -1
  isSuccess := false
  isTransportError := true
  isServerError := false
  getErrorResponse := .ok none
  createResult := .error ⟨.exception, "ValidationError", "decision: Field required"⟩

inductive Outcome where
  | returned (response : CyclesResponse)
  | raised (exc : Raised)

instance : Inhabited Outcome := ⟨.raised ⟨.exception, "Exception", ""⟩⟩

def Outcome.succeeded : Outcome → Bool
  | .returned response => response.isSuccess
  | .raised _ => false

inductive Request where
  | createReservation (body : ReservationBody)
  | commitReservation (reservationId : String) (body : CommitBody)
  | releaseReservation (reservationId : String) (body : ReleaseBody)
deriving DecidableEq

def Request.key : Request → String
  | .createReservation body => body.idempotencyKey
  | .commitReservation _ body => body.idempotencyKey
  | .releaseReservation _ body => body.idempotencyKey

def Request.phase : Request → KeyPhase
  | .createReservation _ => .reserve
  | .commitReservation _ _ => .commit
  | .releaseReservation _ _ => .release

/-- The reservation a request is addressed to. -/
def Request.target : Request → Option String
  | .createReservation _ => none
  | .commitReservation reservationId _ => some reservationId
  | .releaseReservation reservationId _ => some reservationId

/-- `error.error_code.value if (error and error.error_code) else None` -/
def errorCodeOf (error : Option ErrorResponse) : Option String :=
  truthyText (error.bind (·.errorCode))

/-- `error.request_id if error else None` -/
def requestIdOf (error : Option ErrorResponse) : Option String :=
  error.bind (·.requestId)

end CyclesAP2
