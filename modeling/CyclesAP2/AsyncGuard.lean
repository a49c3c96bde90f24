import CyclesAP2.GuardState

/-!
# The asynchronous guard

The methods of `AsyncGuardedPayment`, in the order of the source.  An `await` of
a POST ends like the POST of the synchronous client, or raises the
`CancelledError` that was delivered to it; only the commit POST has a clause of
its own for the latter.
-/

namespace CyclesAP2

open Interaction

namespace AsyncGuardedPayment

variable (py : Python) (clock : Int)

/-- Override the committed amount. -/
def setActualMicros (amount : PyValue) : GuardM Unit := do
  let micros ← Method.ofExcept (validateMicros py amount "actual amount")
  modify fun self => { self with actualMicros := some micros }

def attachReceiptFields (fields : FieldItems) : GuardM Unit :=
  modify fun self => { self with commitMetadata := updateFields self.commitMetadata fields.entries }

def abort (reason : String) : GuardM Unit :=
  modify fun self => { self with abortedReason := some (slice reason 256) }

/-- `__aenter__` -/
def aenter : GuardM Unit := do
  let self ← get
  let transactionId := self.args.mandate.transactionId.val
  let body ← Method.ofExcept (self.args.reservationBody py)
  match ← Method.request (.createReservation body) with
  | .raised exc => throw (.foreign exc)
  | .returned response =>
    if response.isSuccess = false then do
      let error ← Method.ofExcept (response.getErrorResponse.mapError PyExc.foreign)
      throw (.guardDenied s!"AP2 reservation failed for transaction {transactionId}"
        (error.map (·.error)) (requestIdOf error))
    else do
      let result ← Method.ofExcept (response.createResult.mapError PyExc.foreign)
      modify fun self => { self with decision := some result.decision }
      if result.isDenied then
        let shownReason := (truthyText result.reasonCode).getD "no reason"
        throw (.guardDenied
          s!"AP2 reservation denied for transaction {transactionId}: {shownReason}"
          result.reasonCode none)
      else if self.args.dryRun then
        throw (.dryRunResult
          s!"AP2 dry-run decision={result.decision.value} for transaction {transactionId}"
          result.decision.value result.reasonCode result.caps result.balances
          result.affectedScopes)
      else
        match result.reservationId with
        | none =>
          throw (.guardDenied "AP2 reservation allowed but server returned no reservation_id"
            result.reasonCode none)
        | some reservationId =>
          modify fun self => { self with reservationId := some reservationId }

/-- `_handle_release`: whether the release succeeded, and an error description. -/
def handleRelease (reason excName : String) : GuardM (Bool × Option String) := do
  let self ← get
  match self.reservationId with
  | none => throw .assertionError
  | some reservationId =>
    let body := buildReleaseBody py self.args.mandate reason (some excName)
    match ← Method.request (.releaseReservation reservationId body) with
    | .raised exc =>
      -- `except Exception`: any other exception propagates
      if exc.isException then pure (false, some s!"{exc.typeName}: {exc.text}")
      else throw (.foreign exc)
    | .returned response =>
      if response.isSuccess then pure (true, none)
      else do
        let error ← Method.ofExcept (response.getErrorResponse.mapError PyExc.foreign)
        let detail := s!"status={response.status}"
        match errorCodeOf error with
        | some errorCode => pure (false, some s!"{detail}, code={errorCode}")
        | none => pure (false, some detail)

/-- `_build_receipt` -/
def buildReceipt : GuardM Unit := do
  let self ← get
  match self.reservationId, self.decision with
  | some reservationId, some decision => do
    let policyKeys := buildReceiptPolicyKeys py self.args.mandate
    let committedMicros ← match self.actualMicros with
      | some actualMicros => pure actualMicros
      | none => Method.ofExcept (self.args.mandate.amountMicros py)
    let pspRef := match self.commitMetadata.lookup "psp_ref" with
      | some (.str ref) => some ref
      | _ => none
    let extra := truthyFields (some (self.commitMetadata.erase "psp_ref"))
    modify fun self => { self with
      receipt := some (buildRuntimeAuthorityReceipt self.args.mandate decision.value
        reservationId self.args.tenant self.args.agent self.args.actionKind policyKeys
        committedMicros true pspRef extra (some clock) clock) }
  | _, _ => throw .assertionError

/-- `_handle_commit` -/
def handleCommit : GuardM Unit := do
  let self ← get
  let transactionId := self.args.mandate.transactionId.val
  match self.reservationId with
  | none => throw .assertionError
  | some reservationId => do
    let body ← Method.ofExcept (buildCommitBody py self.args.mandate self.actualMicros
      (truthyFields (some self.commitMetadata)))
    match ← Method.request (.commitReservation reservationId body) with
    | .raised exc =>
      if exc.isCancelled then
        throw (.guardCommitUncertain
          (s!"AP2 commit cancelled mid-flight for transaction {transactionId}. " ++
            "Commit may have reached Cycles before cancellation; no release was attempted.")
          (some "COMMIT_CANCELLED") none (some reservationId) (some exc))
      else if exc.isException then
        throw (.guardCommitUncertain
          (s!"AP2 commit raised before a response was received for transaction " ++
            s!"{transactionId}: {exc.typeName}: {exc.text}. " ++
            "Commit outcome is unknown; no release was attempted.")
          (some "COMMIT_RAISED") none (some reservationId) (some exc))
      else throw (.foreign exc)
    | .returned response =>
      if response.isSuccess then do
        modify fun self => { self with committed := true }
        if self.args.emitReceipt then buildReceipt py clock else pure ()
      else do
        let error ← Method.ofExcept (response.getErrorResponse.mapError PyExc.foreign)
        let errorCode := errorCodeOf error
        let requestId := requestIdOf error
        let shownCode := errorCode.getD "None"
        if response.isTransportError || response.isServerError then
          let syntheticCode := errorCode.getD
            (if response.isTransportError then "TRANSPORT_ERROR" else "SERVER_ERROR")
          throw (.guardCommitUncertain
            (s!"AP2 commit failed at the transport/server layer for transaction " ++
              s!"{transactionId} (status={response.status}, code={syntheticCode}). " ++
              "Commit may have reached Cycles before the failure; no release was attempted.")
            (some syntheticCode) requestId (some reservationId) none)
        else if [some "RESERVATION_FINALIZED", some "RESERVATION_EXPIRED",
            some "IDEMPOTENCY_MISMATCH"].contains errorCode then
          throw (.guardCommitUncertain
            (s!"AP2 commit returned {shownCode} for transaction {transactionId}. " ++
              "Reservation is in a terminal state; PSP state may need reconciliation. " ++
              "No release was attempted (a prior commit may already have settled).")
            errorCode requestId (some reservationId) none)
        else do
          let rejectedCode := errorCode.getD "UNKNOWN"
          let (released, releaseError) ← handleRelease py
            s!"ap2_commit_rejected:{rejectedCode}" "CommitRejected"
          let shownError := (truthyText releaseError).getD "unknown"
          let statusPhrase :=
            if released then "reservation released"
            else s!"reservation release FAILED ({shownError}); budget stranded until TTL"
          throw (.guardCommitFailed
            (s!"AP2 commit rejected for transaction {transactionId} " ++
              s!"(code={shownCode}); {statusPhrase}. " ++
              "PSP state may need reconciliation.")
            errorCode requestId (some reservationId) released releaseError)

/-- `__aexit__`, told the exception that left the body. -/
def aexit (exc : Option PyExc) : GuardM Unit := do
  let self ← get
  if self.reservationId.isNone then pure ()
  else
    match exc, self.abortedReason with
    | some e, _ => do
      let _ ← handleRelease py s!"ap2_guard_failed:{e.typeName}" e.typeName
    | none, some reason => do
      let _ ← handleRelease py s!"ap2_guard_aborted:{reason}" "Aborted"
    | none, none => handleCommit py clock

def methods : BodyMethods where
  setActualMicros := setActualMicros py
  attachReceiptFields := attachReceiptFields
  abort := abort

/-- `async with guard: body` -/
def withStatement (body : Body) : GuardM Unit :=
  Method.withBlock (aenter py) markBody (body.run (methods py)) (aexit py clock)

end AsyncGuardedPayment

end CyclesAP2
