import CyclesAP2.Body
import CyclesAP2.AsyncGuard

/-!
# The lifecycle of a guard

The program of a whole `with` statement, computed once for both guard classes.
The decisions the methods take on a reply are functions of that reply alone:
`admission` (what `__enter__` makes of the reserve reply), `commitVerdict` and
`releaseReport`.  `lifecycle` is the tree of POSTs they span, and
`withStatement_eq_lifecycle` says that it is the program of each class; the two
classes differ in nothing but the flavour passed to `commitVerdict`.  Later
modules argue about `lifecycle` and never unfold a method again.
-/

namespace CyclesAP2

open Interaction

inductive Flavour where
  | sync
  | async
deriving DecidableEq, Repr

def withStatement (py : Python) (clock : Int) : Flavour → Body → GuardM Unit
  | .sync, body => GuardedPayment.withStatement py clock body
  | .async, body => AsyncGuardedPayment.withStatement py clock body

def bodyMethods (py : Python) : Flavour → BodyMethods
  | .sync => GuardedPayment.methods py
  | .async => AsyncGuardedPayment.methods py

/-! ### What the methods make of a reply -/

/-- What `__enter__` makes of the reserve reply. -/
inductive Admission where
  | refused (decision : Option Decision) (e : PyExc)
  | admitted (decision : Decision) (reservationId : String)

def admissionOfResult (args : GuardArgs) (result : ReservationCreateResponse) : Admission :=
  let transactionId := args.mandate.transactionId.val
  if result.isDenied then
    let shownReason := (truthyText result.reasonCode).getD "no reason"
    .refused (some result.decision) (.guardDenied
      s!"AP2 reservation denied for transaction {transactionId}: {shownReason}"
      result.reasonCode none)
  else if args.dryRun then
    .refused (some result.decision) (.dryRunResult
      s!"AP2 dry-run decision={result.decision.value} for transaction {transactionId}"
      result.decision.value result.reasonCode result.caps result.balances result.affectedScopes)
  else
    match result.reservationId with
    | none =>
      .refused (some result.decision) (.guardDenied
        "AP2 reservation allowed but server returned no reservation_id" result.reasonCode none)
    | some reservationId => .admitted result.decision reservationId

def admission (args : GuardArgs) : Outcome → Admission
  | .raised exc => .refused none (.foreign exc)
  | .returned response =>
    if response.isSuccess = false then
      match response.getErrorResponse with
      | .error exc => .refused none (.foreign exc)
      | .ok error => .refused none (.guardDenied
          s!"AP2 reservation failed for transaction {args.mandate.transactionId.val}"
          (error.map (·.error)) (requestIdOf error))
    else
      match response.createResult with
      | .error exc => .refused none (.foreign exc)
      | .ok result => admissionOfResult args result

/-- What `_handle_release` makes of the release reply. -/
def releaseReport : Outcome → Except PyExc (Bool × Option String)
  | .raised exc =>
    if exc.isException then .ok (false, some s!"{exc.typeName}: {exc.text}")
    else .error (.foreign exc)
  | .returned response =>
    if response.isSuccess then .ok (true, none)
    else
      match response.getErrorResponse with
      | .error exc => .error (.foreign exc)
      | .ok error =>
        let detail := s!"status={response.status}"
        match errorCodeOf error with
        | some errorCode => .ok (false, some s!"{detail}, code={errorCode}")
        | none => .ok (false, some detail)

/-- The error codes after which the commit outcome is unknown. -/
def terminalCodes : List (Option String) :=
  [some "RESERVATION_FINALIZED", some "RESERVATION_EXPIRED", some "IDEMPOTENCY_MISMATCH"]

/-- What `_handle_commit` makes of the commit reply. -/
inductive CommitVerdict where
  | settled
  | raises (e : PyExc)
  | rejected (errorCode requestId : Option String)

/-- The exception raised when the commit POST itself raised. -/
def commitRaised (flavour : Flavour) (transactionId reservationId : String) (exc : Raised) :
    PyExc :=
  if flavour = .async ∧ exc.isCancelled then
    .guardCommitUncertain
      (s!"AP2 commit cancelled mid-flight for transaction {transactionId}. " ++
        "Commit may have reached Cycles before cancellation; no release was attempted.")
      (some "COMMIT_CANCELLED") none (some reservationId) (some exc)
  else if exc.isException then
    .guardCommitUncertain
      (s!"AP2 commit raised before a response was received for transaction " ++
        s!"{transactionId}: {exc.typeName}: {exc.text}. " ++
        "Commit outcome is unknown; no release was attempted.")
      (some "COMMIT_RAISED") none (some reservationId) (some exc)
  else .foreign exc

def commitVerdict (flavour : Flavour) (transactionId reservationId : String) :
    Outcome → CommitVerdict
  | .raised exc => .raises (commitRaised flavour transactionId reservationId exc)
  | .returned response =>
    if response.isSuccess then .settled
    else
      match response.getErrorResponse with
      | .error exc => .raises (.foreign exc)
      | .ok error =>
        let errorCode := errorCodeOf error
        let shownCode := errorCode.getD "None"
        if response.isTransportError || response.isServerError then
          let syntheticCode := errorCode.getD
            (if response.isTransportError then "TRANSPORT_ERROR" else "SERVER_ERROR")
          .raises (.guardCommitUncertain
            (s!"AP2 commit failed at the transport/server layer for transaction " ++
              s!"{transactionId} (status={response.status}, code={syntheticCode}). " ++
              "Commit may have reached Cycles before the failure; no release was attempted.")
            (some syntheticCode) (requestIdOf error) (some reservationId) none)
        else if terminalCodes.contains errorCode then
          .raises (.guardCommitUncertain
            (s!"AP2 commit returned {shownCode} for transaction {transactionId}. " ++
              "Reservation is in a terminal state; PSP state may need reconciliation. " ++
              "No release was attempted (a prior commit may already have settled).")
            errorCode (requestIdOf error) (some reservationId) none)
        else .rejected errorCode (requestIdOf error)

/-- The exception raised after the release that follows a rejected commit. -/
def commitFailed (transactionId reservationId : String) (errorCode requestId : Option String)
    (released : Bool) (releaseError : Option String) : PyExc :=
  let shownCode := errorCode.getD "None"
  let shownError := (truthyText releaseError).getD "unknown"
  let statusPhrase :=
    if released then "reservation released"
    else s!"reservation release FAILED ({shownError}); budget stranded until TTL"
  .guardCommitFailed
    (s!"AP2 commit rejected for transaction {transactionId} " ++
      s!"(code={shownCode}); {statusPhrase}. " ++ "PSP state may need reconciliation.")
    errorCode requestId (some reservationId) released releaseError

/-! ### The tree of POSTs -/

/-- The guard once `__enter__` has returned. -/
def GuardState.entered (args : GuardArgs) (decision : Decision) (reservationId : String) :
    GuardState :=
  { GuardState.init args with decision := some decision, reservationId := some reservationId }

def receiptFor (py : Python) (clock : Int) (self : GuardState) (decision : Decision)
    (reservationId : String) (amount : Int) : RuntimeAuthorityReceipt :=
  buildRuntimeAuthorityReceipt self.args.mandate decision.value reservationId self.args.tenant
    self.args.agent self.args.actionKind (buildReceiptPolicyKeys py self.args.mandate) amount true
    (match self.commitMetadata.lookup "psp_ref" with
      | some (.str ref) => some ref
      | _ => none)
    (truthyFields (some (self.commitMetadata.erase "psp_ref"))) (some clock) clock

def GuardState.settled (py : Python) (clock : Int) (self : GuardState) (decision : Decision)
    (reservationId : String) (amount : Int) : GuardState :=
  if self.args.emitReceipt then
    { self with
      committed := true
      receipt := some (receiptFor py clock self decision reservationId amount) }
  else { self with committed := true }

def failedReason (e : PyExc) : String := s!"ap2_guard_failed:{e.typeName}"

def abortedReason (reason : String) : String := s!"ap2_guard_aborted:{reason}"

def rejectedReason (errorCode : Option String) : String :=
  let rejectedCode := errorCode.getD "UNKNOWN"
  s!"ap2_commit_rejected:{rejectedCode}"

def releaseRequest (py : Python) (self : GuardState) (reservationId reason excName : String) :
    Request :=
  .releaseReservation reservationId
    (buildReleaseBody py self.args.mandate reason (some excName))

/-- A release of the reservation; `after` makes of its report how the statement
    ends. -/
def releaseProgram (py : Python) (self : GuardState) (reservationId reason excName : String)
    (after : Bool × Option String → Except PyExc Unit) : GuardProgram :=
  .call (releaseRequest py self reservationId reason excName)
    fun outcome => .done (releaseReport outcome >>= after, self)

/-- The commit, and the release that follows a rejected one. -/
def commitProgram (py : Python) (clock : Int) (flavour : Flavour) (self : GuardState)
    (decision : Decision) (reservationId : String) : GuardProgram :=
  let transactionId := self.args.mandate.transactionId.val
  match buildCommitBody py self.args.mandate self.actualMicros
      (truthyFields (some self.commitMetadata)) with
  | .error e => .done (.error e, self)
  | .ok body =>
    .call (.commitReservation reservationId body) fun outcome =>
      match commitVerdict flavour transactionId reservationId outcome with
      | .settled =>
        .done (.ok (), self.settled py clock decision reservationId body.actual.amount)
      | .raises e => .done (.error e, self)
      | .rejected errorCode requestId =>
        releaseProgram py self reservationId (rejectedReason errorCode) "CommitRejected"
          fun (released, releaseError) =>
            .error (commitFailed transactionId reservationId errorCode requestId
              released releaseError)

/-- What follows the body, given how it ended and the guard it left. -/
def exitProgram (py : Python) (clock : Int) (flavour : Flavour) (decision : Decision)
    (reservationId : String) : GuardResult → GuardProgram
  | (.error e, self) =>
    releaseProgram py self reservationId (failedReason e) e.typeName fun _ => .error e
  | (.ok (), self) =>
    match self.abortedReason with
    | some reason =>
      releaseProgram py self reservationId (abortedReason reason) "Aborted" fun _ => .ok ()
    | none => commitProgram py clock flavour self decision reservationId

/-- **The program of a `with` statement** over a guard with these arguments. -/
def lifecycle (py : Python) (clock : Int) (flavour : Flavour) (args : GuardArgs) (body : Body) :
    GuardProgram :=
  match args.reservationBody py with
  | .error e => .done (.error e, GuardState.init args)
  | .ok request =>
    .call (.createReservation request) fun outcome =>
      match admission args outcome with
      | .refused decision e => .done (.error e, { GuardState.init args with decision := decision })
      | .admitted decision reservationId =>
        .act (.withBody (some reservationId))
          (exitProgram py clock flavour decision reservationId
            (body.apply py (GuardState.entered args decision reservationId)))

/-! ### The methods compute it -/

section Methods

variable (py : Python) (clock : Int)

theorem enter_apply (self : GuardState) :
    GuardedPayment.enter py self =
      match self.args.reservationBody py with
      | .error e => .done (.error e, self)
      | .ok request =>
        .call (.createReservation request) fun outcome =>
          match admission self.args outcome with
          | .refused decision e =>
            .done (.error e, { self with decision := decision.or self.decision })
          | .admitted decision reservationId =>
            .done (.ok (), { self with
              decision := some decision, reservationId := some reservationId }) := by
  unfold GuardedPayment.enter
  rw [Method.bind_apply, Method.get_apply, Program.done_bind]
  dsimp only
  rw [Method.bind_apply]
  rcases self.args.reservationBody py with e | request
  · rfl
  · rw [Method.ofExcept_ok_apply, Program.done_bind]
    dsimp only
    rw [Method.bind_apply, Method.request_apply, Program.call_bind]
    congr 1
    funext outcome
    rcases outcome with response | exc
    · rw [Program.done_bind]
      dsimp only [admission]
      by_cases hsuccess : response.isSuccess = false
      · rw [if_pos hsuccess, if_pos hsuccess, Method.bind_apply]
        cases response.getErrorResponse <;> rfl
      · rw [if_neg hsuccess, if_neg hsuccess, Method.bind_apply]
        rcases response.createResult with exc | result
        · rfl
        · dsimp only [Except.mapError, admissionOfResult]
          rw [Method.ofExcept_ok_apply, Program.done_bind]
          dsimp only
          rw [Method.bind_apply, Method.modify_apply, Program.done_bind]
          dsimp only
          by_cases hdenied : result.isDenied = true
          · rw [if_pos hdenied, if_pos hdenied]
            rfl
          · rw [if_neg hdenied, if_neg hdenied]
            by_cases hdry : self.args.dryRun = true
            · rw [if_pos hdry, if_pos hdry]
              rfl
            · rw [if_neg hdry, if_neg hdry]
              cases result.reservationId <;> rfl
    · rfl

theorem handleRelease_apply {self : GuardState} {reservationId : String}
    (hid : self.reservationId = some reservationId) (reason excName : String) :
    GuardedPayment.handleRelease py reason excName self =
      .call (.releaseReservation reservationId
          (buildReleaseBody py self.args.mandate reason (some excName)))
        fun outcome => .done (releaseReport outcome, self) := by
  unfold GuardedPayment.handleRelease
  rw [Method.bind_apply, Method.get_apply, Program.done_bind]
  dsimp only
  rw [hid]
  dsimp only
  rw [Method.bind_apply, Method.request_apply, Program.call_bind]
  congr 1
  funext outcome
  rw [Program.done_bind]
  rcases outcome with response | exc
  · dsimp only [releaseReport]
    by_cases hsuccess : response.isSuccess = true
    · rw [if_pos hsuccess, if_pos hsuccess]
      rfl
    · rw [if_neg hsuccess, if_neg hsuccess, Method.bind_apply]
      rcases response.getErrorResponse with exc | error
      · rfl
      · dsimp only [Except.mapError]
        rw [Method.ofExcept_ok_apply, Program.done_bind]
        dsimp only
        cases errorCodeOf error <;> rfl
  · dsimp only [releaseReport]
    cases exc.isException <;> rfl

theorem buildReceipt_apply {self : GuardState} {decision : Decision} {reservationId : String}
    {metadata : Option Fields} {body : CommitBody} (hdecision : self.decision = some decision)
    (hid : self.reservationId = some reservationId)
    (hbody : buildCommitBody py self.args.mandate self.actualMicros metadata = .ok body) :
    GuardedPayment.buildReceipt py clock self =
      .done (.ok (), { self with
        receipt := some (receiptFor py clock self decision reservationId body.actual.amount) }) := by
  rcases self with ⟨args, _, _, actualMicros, commitMetadata, receipt, committed, abortedReason⟩
  cases hdecision
  cases hid
  unfold GuardedPayment.buildReceipt
  rw [Method.bind_apply, Method.get_apply, Program.done_bind]
  dsimp only
  -- the commit body was built from the same override and mandate just before
  rcases buildCommitBody_amount hbody with hactual | ⟨hactual, hamount⟩ <;> cases hactual
  · rfl
  · dsimp only at hamount ⊢
    rw [hamount]
    rfl

theorem handleCommit_apply {self : GuardState} {decision : Decision} {reservationId : String}
    (hdecision : self.decision = some decision) (hid : self.reservationId = some reservationId) :
    GuardedPayment.handleCommit py clock self =
      commitProgram py clock .sync self decision reservationId := by
  unfold GuardedPayment.handleCommit commitProgram
  rw [Method.bind_apply, Method.get_apply, Program.done_bind]
  dsimp only
  rw [hid]
  dsimp only
  rw [Method.bind_apply]
  rcases hbody : buildCommitBody py self.args.mandate self.actualMicros
    (truthyFields (some self.commitMetadata)) with e | body
  · rfl
  · rw [Method.ofExcept_ok_apply, Program.done_bind]
    dsimp only
    rw [Method.bind_apply, Method.request_apply, Program.call_bind]
    congr 1
    funext outcome
    rw [Program.done_bind]
    rcases outcome with response | exc
    · dsimp only [commitVerdict]
      by_cases hsuccess : response.isSuccess = true
      · rw [if_pos hsuccess, if_pos hsuccess, Method.bind_apply, Method.modify_apply,
          Program.done_bind]
        dsimp only [GuardState.settled]
        by_cases hemit : self.args.emitReceipt = true
        · rw [if_pos hemit, if_pos hemit]
          exact @buildReceipt_apply py clock { self with committed := true } _ _ _ _ hdecision hid
            hbody
        · rw [if_neg hemit, if_neg hemit]
          rfl
      · rw [if_neg hsuccess, if_neg hsuccess, Method.bind_apply]
        rcases response.getErrorResponse with exc | error
        · rfl
        · dsimp only [Except.mapError]
          rw [Method.ofExcept_ok_apply, Program.done_bind]
          dsimp only
          by_cases hlayer : (response.isTransportError || response.isServerError) = true
          · rw [if_pos hlayer, if_pos hlayer]
            rfl
          · rw [if_neg hlayer, if_neg hlayer]
            by_cases hterminal : terminalCodes.contains (errorCodeOf error) = true
            · rw [if_pos hterminal]
              exact congrFun (if_pos hterminal) self
            · rw [if_neg hterminal]
              refine (congrFun (if_neg hterminal) self).trans ?_
              rw [Method.bind_apply, handleRelease_apply py hid, Program.call_bind]
              congr 1
              funext outcome
              cases releaseReport outcome <;> rfl
    · have hsync : ¬(Flavour.sync = .async ∧ exc.isCancelled = true) := by simp
      dsimp only [commitVerdict, commitRaised]
      rw [if_neg hsync]
      cases exc.isException <;> rfl

/-- The verdict on a response is the same for both classes. -/
theorem commitVerdict_returned (flavour : Flavour) (transactionId reservationId : String)
    (response : CyclesResponse) :
    commitVerdict flavour transactionId reservationId (.returned response) =
      commitVerdict .sync transactionId reservationId (.returned response) := rfl

/-- The asynchronous commit differs in its answer to a cancellation only. -/
theorem asyncHandleCommit_apply {self : GuardState} {decision : Decision}
    {reservationId : String} (hdecision : self.decision = some decision)
    (hid : self.reservationId = some reservationId) :
    AsyncGuardedPayment.handleCommit py clock self =
      commitProgram py clock .async self decision reservationId := by
  have hsync := handleCommit_apply py clock hdecision hid
  unfold GuardedPayment.handleCommit commitProgram at hsync
  unfold AsyncGuardedPayment.handleCommit commitProgram
  rw [Method.bind_apply, Method.get_apply, Program.done_bind] at hsync ⊢
  dsimp only at hsync ⊢
  rw [hid] at hsync ⊢
  dsimp only at hsync ⊢
  rw [Method.bind_apply] at hsync ⊢
  rcases hbody : buildCommitBody py self.args.mandate self.actualMicros
    (truthyFields (some self.commitMetadata)) with e | body
  · rfl
  · rw [hbody, Method.ofExcept_ok_apply, Program.done_bind] at hsync
    rw [Method.ofExcept_ok_apply, Program.done_bind]
    dsimp only at hsync ⊢
    rw [Method.bind_apply, Method.request_apply, Program.call_bind] at hsync ⊢
    injection hsync with _ hnext
    congr 1
    funext outcome
    rcases outcome with response | exc
    · have hreturned := congrFun hnext (.returned response)
      rw [Program.done_bind] at hreturned ⊢
      rw [commitVerdict_returned]
      exact hreturned
    · rw [Program.done_bind]
      dsimp only [commitVerdict, commitRaised]
      by_cases hcancelled : exc.isCancelled = true
      · rw [if_pos hcancelled, if_pos ⟨rfl, hcancelled⟩]
        rfl
      · have hasync : ¬(Flavour.async = .async ∧ exc.isCancelled = true) :=
          fun h => hcancelled h.2
        rw [if_neg hcancelled, if_neg hasync]
        cases exc.isException <;> rfl

theorem exit_apply {self : GuardState} {decision : Decision} {reservationId : String}
    (hdecision : self.decision = some decision) (hid : self.reservationId = some reservationId)
    (result : Except PyExc Unit) :
    Method.afterBlock (GuardedPayment.exit py clock) result self =
      exitProgram py clock .sync decision reservationId (result, self) := by
  have hsome : ¬(self.reservationId.isNone = true) := by simp [hid]
  rcases result with e | _
  · dsimp only [exitProgram, releaseProgram, Method.afterBlock]
    unfold GuardedPayment.exit
    rw [Method.bind_apply, Method.bind_apply, Method.get_apply, Program.done_bind]
    dsimp only
    rw [if_neg hsome, Method.bind_apply, handleRelease_apply py hid, Program.call_bind,
      Program.call_bind]
    congr 1
    funext outcome
    cases releaseReport outcome <;> rfl
  · dsimp only [exitProgram, releaseProgram, Method.afterBlock]
    unfold GuardedPayment.exit
    rw [Method.bind_apply, Method.get_apply, Program.done_bind]
    dsimp only
    rw [if_neg hsome]
    rcases self.abortedReason with _ | reason
    · exact handleCommit_apply py clock hdecision hid
    · dsimp only
      rw [Method.bind_apply, handleRelease_apply py hid, Program.call_bind]
      congr 1
      funext outcome
      cases releaseReport outcome <;> rfl

theorem asyncExit_apply {self : GuardState} {decision : Decision} {reservationId : String}
    (hdecision : self.decision = some decision) (hid : self.reservationId = some reservationId)
    (result : Except PyExc Unit) :
    Method.afterBlock (AsyncGuardedPayment.aexit py clock) result self =
      exitProgram py clock .async decision reservationId (result, self) := by
  have hsync := exit_apply py clock hdecision hid result
  rcases result with e | _
  · dsimp only [Method.afterBlock] at hsync ⊢
    rw [Method.bind_apply] at hsync ⊢
    exact hsync
  · have hsome : ¬(self.reservationId.isNone = true) := by simp [hid]
    dsimp only [exitProgram, Method.afterBlock] at hsync ⊢
    unfold GuardedPayment.exit at hsync
    unfold AsyncGuardedPayment.aexit
    rw [Method.bind_apply, Method.get_apply, Program.done_bind] at hsync ⊢
    dsimp only at hsync ⊢
    rw [if_neg hsome] at hsync ⊢
    rcases haborted : self.abortedReason with _ | reason
    · exact asyncHandleCommit_apply py clock hdecision hid
    · rw [haborted] at hsync
      exact hsync

theorem withBlock_apply {exit : Option PyExc → GuardM Unit} {flavour : Flavour}
    (hexit : ∀ {self : GuardState} {decision reservationId}, self.decision = some decision →
      self.reservationId = some reservationId → ∀ result : Except PyExc Unit,
      Method.afterBlock exit result self =
        exitProgram py clock flavour decision reservationId (result, self))
    (args : GuardArgs) (body : Body) :
    Method.withBlock (GuardedPayment.enter py) markBody (body.run (GuardedPayment.methods py)) exit
        (GuardState.init args) =
      lifecycle py clock flavour args body := by
  unfold Method.withBlock lifecycle
  rw [Method.bind_apply, enter_apply]
  dsimp only [GuardState.init_args]
  rcases args.reservationBody py with e | request
  · rfl
  · dsimp only
    rw [Program.call_bind]
    congr 1
    funext outcome
    rcases admission args outcome with ⟨decision, e⟩ | ⟨decision, reservationId⟩
    · dsimp only
      rw [Program.done_bind]
      simp [GuardState.init]
    · dsimp only
      rw [Program.done_bind]
      dsimp only
      unfold markBody
      rw [Method.bind_apply, Method.bind_apply, Method.get_apply, Program.done_bind]
      dsimp only
      rw [Method.perform_apply, Program.act_bind, Program.done_bind]
      dsimp only
      congr 1
      rw [Method.bind_apply, Method.attempt_apply, Body.run_apply, Program.done_bind,
        Program.done_bind]
      have hframe := body.apply_frame py (GuardState.entered args decision reservationId)
      exact hexit hframe.decision hframe.reservationId
        (body.apply py (GuardState.entered args decision reservationId)).1

end Methods

/-- **The program of a `with` statement is the lifecycle of its guard**, for
    either class. -/
theorem withStatement_eq_lifecycle (py : Python) (clock : Int) (flavour : Flavour)
    (args : GuardArgs) (body : Body) :
    withStatement py clock flavour body (GuardState.init args) =
      lifecycle py clock flavour args body := by
  cases flavour with
  | sync => exact withBlock_apply py clock (exit_apply py clock) args body
  | async => exact withBlock_apply py clock (asyncExit_apply py clock) args body

end CyclesAP2
