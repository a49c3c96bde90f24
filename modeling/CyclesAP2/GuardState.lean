import CyclesAP2.Client
import CyclesAP2.Interaction.Method

/-!
# The state of a guard and the body it guards

`GuardArgs` are the constructor arguments and `GuardState` the attributes that
both guard classes initialise in `__init__`.  A method of a guard is a `Method`
over that state: its requests are the POSTs of the client, and its one visible
action marks the start of the `with` body (where the PSP is called).

`Body` is what the caller does in the `with` block: a sequence of calls on the
guard, then a normal end or an exception.
-/

namespace CyclesAP2

open Interaction

structure GuardArgs where
  mandate : AP2Mandate
  runId : String
  tenant : Option String := none
  workspace : Option String := none
  app : Option String := none
  workflow : Option String := none
  agent : Option String := none
  toolset : Option String := none
  actionKind : String := DEFAULT_ACTION_KIND
  ttlMs : Int := DEFAULT_TTL_MS
  overagePolicy : String := DEFAULT_OVERAGE_POLICY
  dryRun : Bool := false
  emitReceipt : Bool := true
  metadata : Option Fields := none
  extraDimensions : Option TextItems := none

def GuardArgs.sample : GuardArgs where
  mandate := .sample
  runId := "run-1"

structure GuardState where
  args : GuardArgs
  reservationId : Option String
  decision : Option Decision
  actualMicros : Option Int
  commitMetadata : Fields
  receipt : Option RuntimeAuthorityReceipt
  committed : Bool
  abortedReason : Option String

/-- `__init__` -/
def GuardState.init (args : GuardArgs) : GuardState where
  args := args
  reservationId := none
  decision := none
  actualMicros := none
  commitMetadata := ∅
  receipt := none
  committed := false
  abortedReason := none

@[simp] theorem GuardState.init_args (args : GuardArgs) :
    (GuardState.init args).args = args := rfl

def GuardArgs.reservationBody (py : Python) (args : GuardArgs) : Except PyExc ReservationBody :=
  buildReservationBody py args.mandate args.runId args.tenant args.workspace args.app
    args.workflow args.agent args.toolset args.actionKind args.ttlMs args.overagePolicy
    args.dryRun args.metadata args.extraDimensions

/-- The reserve body is built exactly when the amount of the mandate is accepted. -/
theorem GuardArgs.reservationBody_ok_iff {py : Python} {args : GuardArgs}
    {request : ReservationBody} :
    args.reservationBody py = .ok request ↔
      ∃ micros, args.mandate.amountMicros py = .ok micros ∧
        request = {
          idempotencyKey := idempotencyKey py args.mandate .reserve
          subject := buildSubject py args.mandate args.runId args.tenant args.workspace args.app
            args.workflow args.agent args.toolset args.extraDimensions
          action := buildAction args.actionKind
          estimate := { unit := USD_MICROCENTS, amount := micros }
          ttlMs := args.ttlMs
          overagePolicy := args.overagePolicy
          dryRun := if args.dryRun then some true else none
          metadata := truthyFields args.metadata } := by
  unfold GuardArgs.reservationBody buildReservationBody buildEstimate
  simp only [bind_eq_ok_iff]
  constructor
  · rintro ⟨estimate, ⟨micros, hmicros, hestimate⟩, hrequest⟩
    obtain rfl := Except.ok.inj hestimate
    exact ⟨micros, hmicros, (Except.ok.inj hrequest).symm⟩
  · rintro ⟨micros, hmicros, rfl⟩
    exact ⟨_, ⟨micros, hmicros, rfl⟩, rfl⟩

/-- The visible action of a guard: the `with` body starts, under the reservation
    the guard holds. -/
inductive Mark where
  | withBody (reservationId : Option String)
deriving DecidableEq

abbrev GuardM := Method Request Outcome Mark GuardState PyExc

abbrev GuardResult := Except PyExc Unit × GuardState

abbrev GuardProgram := Program Request Outcome Mark GuardResult

abbrev GuardEvent := Event Request Outcome Mark

/-- `mapping.update(fields)` -/
def updateFields (mapping : Fields) : List (Sigma fun _ : String => PyValue) → Fields
  | [] => mapping
  | ⟨key, value⟩ :: rest => updateFields (mapping.insert key value) rest

/-! ### The body of the `with` statement -/

/-- A call the body makes on the guard.  `caught` tells whether the body catches
    the exception of a rejected amount. -/
inductive BodyCall where
  | setActualMicros (amount : PyValue) (caught : Bool)
  | attachReceiptFields (fields : FieldItems)
  | abort (reason : String)

/-- What the body does with its guard.  Only the body calls these methods: no other task
    changes the guard while the body runs, nor between its end and that of the exit. -/
structure Body where
  calls : List BodyCall
  -- The exception that leaves the body after its calls, if any.
  raises : Option PyExc := none

/-- The methods of a guard that its body may call. -/
structure BodyMethods where
  setActualMicros : PyValue → GuardM Unit
  attachReceiptFields : FieldItems → GuardM Unit
  abort : String → GuardM Unit

def BodyCall.run (guard : BodyMethods) : BodyCall → GuardM Unit
  | .setActualMicros amount caught => do
      match ← Method.attempt (guard.setActualMicros amount) with
      | .ok () => pure ()
      | .error e => if caught then pure () else throw e
  | .attachReceiptFields fields => guard.attachReceiptFields fields
  | .abort reason => guard.abort reason

def runCalls (guard : BodyMethods) : List BodyCall → GuardM Unit
  | [] => pure ()
  | call :: calls => do
      call.run guard
      runCalls guard calls

def Body.run (guard : BodyMethods) (body : Body) : GuardM Unit := do
  runCalls guard body.calls
  match body.raises with
  | none => pure ()
  | some e => throw e

/-- The start of the `with` body, as the guard's state stands. -/
def markBody : GuardM Unit := do
  let self ← get
  Method.perform (.withBody self.reservationId)

end CyclesAP2
