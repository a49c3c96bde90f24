import CyclesAP2.Models
import CyclesAP2.Validation

/-!
# From an AP2 mandate to Cycles wire payloads

The functions of `mapping.py`.  A JSON body is a structure with one field per
key; a key that is only sometimes present is an `Option`.  `Subject.dimensions`
and `metadata` are finite maps, so equal bodies are bodies with equal entries.
-/

namespace CyclesAP2

inductive KeyPhase where
  | reserve
  | commit
  | release
deriving DecidableEq, Repr

def KeyPhase.text : KeyPhase → String
  | .reserve => "reserve"
  | .commit => "commit"
  | .release => "release"

/-- The namespace of a consume-once input. -/
inductive Scope where
  | openMandate
  | transaction
deriving DecidableEq, Repr

def Scope.text : Scope → String
  | .openMandate => IDEMPOTENCY_SCOPE_OPEN_MANDATE
  | .transaction => IDEMPOTENCY_SCOPE_TRANSACTION

/-! ### Idempotency keys -/

/-- SHA-256 of the input text, hex-encoded and truncated to 32 characters. -/
def hashInput (py : Python) (value : String) : String :=
  slice (py.sha256Hexdigest value) TRANSACTION_ID_HASH_LEN

/-- Pick the lock scope and the raw input for this mandate. -/
def consumeOnceInput (mandate : AP2Mandate) : Scope × String :=
  match truthyText (mandate.openMandateHash.map (·.val)) with
  | some openMandateHash => (.openMandate, openMandateHash)
  | none => (.transaction, mandate.transactionId.val)

/-- The header-safe characters: ASCII letters and digits, `_`, `-`, `.`. -/
def isSafeChar (c : Char) : Bool :=
  c.isAlphanum || c == '_' || c == '-' || c == '.'

def safeSuffix (suffix : String) : String :=
  String.ofList (suffix.toList.map fun c => if isSafeChar c then c else '_')

/-- `ap2:{scope}:{sha256(input)[:32]}:{phase}[:{suffix}]` -/
def idempotencyKey (py : Python) (mandate : AP2Mandate) (phase : KeyPhase)
    (suffix : Option String := none) : String :=
  let (scope, raw) := consumeOnceInput mandate
  let base := IDEMPOTENCY_PREFIX ++ ":" ++ scope.text ++ ":" ++ hashInput py raw ++ ":" ++ phase.text
  match truthyText suffix with
  | none => base
  | some suffix => base ++ ":" ++ slice (safeSuffix suffix) 64

/-! ### The reservation create body -/

structure Subject where
  tenant : Option String
  workspace : Option String
  app : Option String
  workflow : Option String
  agent : Option String
  toolset : Option String
  dimensions : Texts
deriving DecidableEq

structure Action where
  kind : String
  name : String
deriving DecidableEq

structure Amount where
  unit : String
  amount : Int
deriving DecidableEq

/-- The body of `POST /v1/reservations`; `dryRun` is present on a dry run only. -/
structure ReservationBody where
  idempotencyKey : String
  subject : Subject
  action : Action
  estimate : Amount
  ttlMs : Int
  overagePolicy : String
  dryRun : Option Bool
  metadata : Option Fields
deriving DecidableEq

/-- The loop over `extra_dimensions`: a key that is already present wins over
    the caller-supplied one. -/
def addExtraDimensions (dimensions : Texts) : List (Sigma fun _ : String => String) → Texts
  | [] => dimensions
  | ⟨key, value⟩ :: rest =>
      if key ∈ dimensions then addExtraDimensions dimensions rest
      else addExtraDimensions (dimensions.insert key value) rest

def canonicalDimensions (py : Python) (mandate : AP2Mandate) (runId : String) : Texts :=
  let dimensions : Texts := (∅ : Texts)
    |>.insert DIM_RUN_ID runId
    |>.insert DIM_AP2_TRANSACTION_ID mandate.transactionId.val
    |>.insert DIM_PAYEE_WEBSITE mandate.payeeWebsite.val
    |>.insert DIM_PAYMENT_CURRENCY (py.upper mandate.currency.val)
    |>.insert DIM_PAYMENT_PROTOCOL PAYMENT_PROTOCOL_VALUE
  let dimensions := match truthyText (mandate.checkoutHash.map (·.val)) with
    | some checkoutHash => dimensions.insert DIM_CHECKOUT_HASH checkoutHash
    | none => dimensions
  match truthyText (mandate.openMandateHash.map (·.val)) with
  | some openMandateHash => dimensions.insert DIM_OPEN_MANDATE_HASH openMandateHash
  | none => dimensions

def buildSubject (py : Python) (mandate : AP2Mandate) (runId : String)
    (tenant workspace app workflow agent toolset : Option String)
    (extraDimensions : Option TextItems) : Subject where
  tenant := truthyText tenant
  workspace := truthyText workspace
  app := truthyText app
  workflow := truthyText workflow
  agent := truthyText agent
  toolset := truthyText toolset
  dimensions :=
    match extraDimensions with
    | some extra => addExtraDimensions (canonicalDimensions py mandate runId) extra.entries
    | none => canonicalDimensions py mandate runId

def buildAction (actionKind : String) : Action where
  kind := actionKind
  name := DEFAULT_ACTION_NAME

/-- The routing context kept for the client-side receipt. -/
def buildReceiptPolicyKeys (py : Python) (mandate : AP2Mandate) : PolicyKeys where
  host := mandate.payeeWebsite.val
  paymentProtocol := PAYMENT_PROTOCOL_VALUE
  paymentCurrency := py.upper mandate.currency.val

/-- Construct the `estimate` (USD micro-cents). -/
def buildEstimate (py : Python) (mandate : AP2Mandate) : Except PyExc Amount := do
  return { unit := USD_MICROCENTS, amount := ← mandate.amountMicros py }

def buildReservationBody (py : Python) (mandate : AP2Mandate) (runId : String)
    (tenant workspace app workflow agent toolset : Option String) (actionKind : String)
    (ttlMs : Int) (overagePolicy : String) (dryRun : Bool) (metadata : Option Fields)
    (extraDimensions : Option TextItems) : Except PyExc ReservationBody := do
  let estimate ← buildEstimate py mandate
  return {
    idempotencyKey := idempotencyKey py mandate .reserve
    subject := buildSubject py mandate runId tenant workspace app workflow agent toolset
      extraDimensions
    action := buildAction actionKind
    estimate := estimate
    ttlMs := ttlMs
    overagePolicy := overagePolicy
    dryRun := if dryRun then some true else none
    metadata := truthyFields metadata }

/-! ### The commit and release bodies -/

/-- The body of `POST /v1/reservations/{id}/commit`. -/
structure CommitBody where
  idempotencyKey : String
  actual : Amount
  metadata : Option Fields
deriving DecidableEq

/-- The body of `POST /v1/reservations/{id}/release`. -/
structure ReleaseBody where
  idempotencyKey : String
  reason : String
deriving DecidableEq

/-- Commit body with the deterministic key for this mandate.  A supplied
    `actual_micros` is validated again. -/
def buildCommitBody (py : Python) (mandate : AP2Mandate) (actualMicros : Option Int)
    (metadata : Option Fields) : Except PyExc CommitBody := do
  let amount ← match actualMicros with
    | none => mandate.amountMicros py
    | some actualMicros => validateMicros py (.int actualMicros) "actual_micros"
  return {
    idempotencyKey := idempotencyKey py mandate .commit
    actual := { unit := USD_MICROCENTS, amount := amount }
    metadata := truthyFields metadata }

theorem buildCommitBody_ok_iff {py : Python} {mandate : AP2Mandate} {actualMicros : Option Int}
    {metadata : Option Fields} {body : CommitBody} :
    buildCommitBody py mandate actualMicros metadata = .ok body ↔
      ∃ amount,
        (match actualMicros with
          | none => mandate.amountMicros py
          | some actualMicros => validateMicros py (.int actualMicros) "actual_micros") =
            .ok amount ∧
        body = {
          idempotencyKey := idempotencyKey py mandate .commit
          actual := { unit := USD_MICROCENTS, amount := amount }
          metadata := truthyFields metadata } := by
  have hbind : buildCommitBody py mandate actualMicros metadata =
      (match actualMicros with
        | none => mandate.amountMicros py
        | some actualMicros => validateMicros py (.int actualMicros) "actual_micros") >>=
          fun amount => .ok {
            idempotencyKey := idempotencyKey py mandate .commit
            actual := { unit := USD_MICROCENTS, amount := amount }
            metadata := truthyFields metadata } := by
    cases actualMicros with
    | none => rfl
    | some actualMicros => rfl
  rw [hbind, bind_eq_ok_iff]
  simp only [Except.ok.injEq, eq_comm]

/-- The commit body carries the override, or else the amount of the mandate. -/
theorem buildCommitBody_amount {py : Python} {mandate : AP2Mandate} {actualMicros : Option Int}
    {metadata : Option Fields} {body : CommitBody}
    (h : buildCommitBody py mandate actualMicros metadata = .ok body) :
    actualMicros = some body.actual.amount ∨
      actualMicros = none ∧ mandate.amountMicros py = .ok body.actual.amount := by
  obtain ⟨amount, hamount, rfl⟩ := buildCommitBody_ok_iff.mp h
  cases actualMicros with
  | none => exact Or.inr ⟨rfl, hamount⟩
  | some actualMicros =>
    have haccepted := (validateMicros_eq_ok_iff py).mp hamount
    obtain rfl := PyValue.int.inj (acceptedMicros_eq_some_iff.mp haccepted).1
    exact Or.inl rfl

/-- Release body with a deterministic key per exception type. -/
def buildReleaseBody (py : Python) (mandate : AP2Mandate) (reason : String)
    (exceptionType : Option String) : ReleaseBody where
  idempotencyKey := idempotencyKey py mandate .release exceptionType
  reason := slice reason 256

end CyclesAP2
