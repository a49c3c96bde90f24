import CyclesAP2.Discipline

/-!
# The reconciliation signal

Once the body of a guard has run, money may have moved.  If the commit is then
not confirmed, the `with` statement has to end with an exception that names the
reservation (`PyExc.Reconciles`).

The synchronous guard always does, for a client that answers or raises an
`Exception` (`exit_reports`).  The asynchronous guard also has to expect a
`CancelledError` at each `await`; the commit handles it, the release after a
rejected commit does not (`asyncExit_reconciles_iff`).
-/

namespace CyclesAP2

open Interaction

/-- `AP2GuardCommitUncertain` or `AP2GuardCommitFailed`, with this reservation. -/
def PyExc.Reconciles (reservationId : String) : PyExc → Prop
  | .guardCommitUncertain _ _ _ held _ => held = some reservationId
  | .guardCommitFailed _ _ _ held _ _ => held = some reservationId
  | _ => False

/-- The POST answers with a response whose error body can be read, or raises an
    `Exception`. -/
def Outcome.Handled : Outcome → Prop
  | .returned response => response.isSuccess = true ∨ ∃ error, response.getErrorResponse = .ok error
  | .raised exc => exc.isException = true

/-- The `await` of the POST was cancelled. -/
def Outcome.Cancelled : Outcome → Prop
  | .returned _ => False
  | .raised exc => exc.isCancelled = true

theorem Outcome.handled_of_succeeded {commit : Outcome} (h : commit.succeeded = true) :
    commit.Handled := by
  rcases commit with response | exc
  · exact Or.inl h
  · cases h

theorem Outcome.handled_of_rejectsCommit {commit : Outcome} (h : commit.rejectsCommit = true) :
    commit.Handled := by
  rcases commit with response | exc
  · rcases herror : response.getErrorResponse with exc | error
    · simp [Outcome.rejectsCommit, herror] at h
    · exact Or.inr ⟨error, herror⟩
  · cases h

/-! ### What the replies are turned into -/

theorem commitVerdict_settled_iff {flavour : Flavour} {transactionId reservationId : String}
    {commit : Outcome} :
    commitVerdict flavour transactionId reservationId commit = .settled ↔
      commit.succeeded = true := by
  rcases commit with response | exc
  · dsimp only [commitVerdict, Outcome.succeeded]
    rcases response.isSuccess <;> rcases response.isTransportError <;>
      rcases response.isServerError <;> rcases response.getErrorResponse with exc | error <;>
      simp
    split <;> simp
  · simp [commitVerdict, Outcome.succeeded]

theorem succeeded_of_verdict {flavour : Flavour} {transactionId reservationId : String}
    {commit : Outcome} {verdict : CommitVerdict}
    (h : commitVerdict flavour transactionId reservationId commit = verdict)
    (hverdict : verdict ≠ .settled) : commit.succeeded = false := by
  refine Bool.eq_false_iff.mpr ?_
  intro hsucceeded
  exact hverdict (h.symm.trans (commitVerdict_settled_iff.mpr hsucceeded))

/-- The exception after an unsuccessful commit names the reservation when the
    class has a clause for what the commit did. -/
theorem commitVerdict_raises_reconciles_iff {flavour : Flavour}
    {transactionId reservationId : String} {commit : Outcome} {e : PyExc}
    (h : commitVerdict flavour transactionId reservationId commit = .raises e) :
    e.Reconciles reservationId ↔ commit.Handled ∨ flavour = .async ∧ commit.Cancelled := by
  rcases commit with response | exc
  · have hunsuccessful : ¬(response.isSuccess = true) := fun hsuccess => by
      simp [commitVerdict, hsuccess] at h
    dsimp only [commitVerdict] at h
    rw [if_neg hunsuccessful] at h
    rcases herror : response.getErrorResponse with exc | error
    · simp only [herror, CommitVerdict.raises.injEq] at h
      subst h
      simp [PyExc.Reconciles, Outcome.Handled, Outcome.Cancelled, herror, hunsuccessful]
    · have hhandled : Outcome.Handled (.returned response) := Or.inr ⟨error, herror⟩
      simp only [herror] at h
      refine iff_of_true ?_ (Or.inl hhandled)
      split at h
      · cases h
        rfl
      · split at h
        · cases h
          rfl
        · simp at h
  · cases h
    simp only [commitRaised, Outcome.Handled, Outcome.Cancelled]
    by_cases hcancelled : flavour = .async ∧ exc.isCancelled = true
    · rw [if_pos hcancelled]
      exact iff_of_true rfl (Or.inr hcancelled)
    · rw [if_neg hcancelled]
      by_cases hexception : exc.isException = true
      · rw [if_pos hexception]
        exact iff_of_true rfl (Or.inl hexception)
      · rw [if_neg hexception]
        exact iff_of_false id fun h => h.elim hexception hcancelled

/-- A release report never fails on a handled answer, and always does on the
    others. -/
theorem releaseReport_ok_iff {release : Outcome} :
    (∃ report, releaseReport release = .ok report) ↔ release.Handled := by
  rcases release with response | exc
  · dsimp only [releaseReport, Outcome.Handled]
    rcases response.isSuccess <;> rcases response.getErrorResponse with exc | error
    · simp
    · simp
      split <;> simp
    · simp
    · simp
  · dsimp only [releaseReport, Outcome.Handled]
    rcases exc.isException <;> simp

theorem releaseReport_error {release : Outcome} {e : PyExc} (h : releaseReport release = .error e) :
    ∃ exc, e = .foreign exc := by
  rcases release with response | exc
  · dsimp only [releaseReport] at h
    split at h
    · simp at h
    · split at h
      · cases h
        exact ⟨_, rfl⟩
      · split at h <;> cases h
  · dsimp only [releaseReport] at h
    split at h
    · simp at h
    · cases h
      exact ⟨_, rfl⟩

theorem releaseReport_bind {release : Outcome} (h : release.Handled) (result : Except PyExc Unit) :
    (releaseReport release >>= fun _ => result) = result := by
  obtain ⟨report, hreport⟩ := releaseReport_ok_iff.mpr h
  rw [hreport]
  rfl

/-! ### The synchronous guard -/

/-- How a guard that entered its body under `reservationId` is left.  An exception of
    the body leaves the statement unchanged; after an abort the statement ends
    normally, uncommitted.  Otherwise the commit is sent: confirmed, the statement
    ends normally, and the receipt is built; not confirmed, it is reported with the
    reservation. -/
structure ExitReport (py : Python) (args : GuardArgs) (body : Body) (commit : Outcome)
    (reservationId : String) (result : GuardResult) (trail : List GuardEvent) : Prop where
  raised : ∀ e, body.exception py = some e → result.1 = .error e
  aborted : body.exception py = none → (∃ reason, .abort reason ∈ body.calls) →
    result.1 = .ok () ∧ result.2.committed = false
  sent : body.exception py = none → (∀ reason, .abort reason ∉ body.calls) →
    ∃ commitBody, Event.exchange (.commitReservation reservationId commitBody) commit ∈ trail
  normal : body.exception py = none → (∀ reason, .abort reason ∉ body.calls) →
    (result.1 = .ok () ↔ commit.succeeded = true) ∧
      (result.2.committed = true ↔ commit.succeeded = true)
  reported : body.exception py = none → (∀ reason, .abort reason ∉ body.calls) →
    commit.succeeded = false → ∃ e, result.1 = .error e ∧ e.Reconciles reservationId
  receipt : body.exception py = none → (∀ reason, .abort reason ∉ body.calls) →
    commit.succeeded = true → (result.2.receipt.isSome = true ↔ args.emitReceipt = true)

section Exit

variable {py : Python} {clock : Int} {flavour : Flavour} {args : GuardArgs} {body : Body}
  {decision : Decision} {reservationId : String} {result : GuardResult} {trail : List GuardEvent}

theorem commitFailed_reconciles (transactionId : String) (errorCode requestId : Option String)
    (released : Bool) (releaseError : Option String) :
    (commitFailed transactionId reservationId errorCode requestId released
      releaseError).Reconciles reservationId := rfl

theorem GuardState.settled_committed (self : GuardState) (amount : Int) :
    (self.settled py clock decision reservationId amount).committed = true := by
  unfold GuardState.settled
  split <;> rfl

theorem GuardState.settled_receipt (self : GuardState) (amount : Int) :
    (self.settled py clock decision reservationId amount).receipt =
      if self.args.emitReceipt then
        some (receiptFor py clock self decision reservationId amount)
      else self.receipt := by
  unfold GuardState.settled
  split <;> rfl

/-- A commit that was sent and not confirmed. -/
theorem ExitReport.of_failed {commit : Outcome} (hcomplete : body.exception py = none)
    (hnoabort : ∀ reason, .abort reason ∉ body.calls) (hfailed : commit.succeeded = false)
    (hcommitted : result.2.committed = false)
    (hsent : ∃ commitBody,
      Event.exchange (.commitReservation reservationId commitBody) commit ∈ trail)
    (hreported : ∃ e, result.1 = .error e ∧ e.Reconciles reservationId) :
    ExitReport py args body commit reservationId result trail := by
  refine ⟨by simp [hcomplete], ?_, fun _ _ => hsent, ?_, fun _ _ _ => hreported, ?_⟩
  · rintro _ ⟨reason, hmem⟩
    exact absurd hmem (hnoabort reason)
  · intro _ _
    obtain ⟨e, he, _⟩ := hreported
    simp [he, hcommitted, hfailed]
  · intro _ _ hsucceeded
    simp [hfailed] at hsucceeded

/-- A guard that ends with a receipt has sent one commit, and built both from the
    state its body left. -/
theorem ExitCourse.of_receipt
    (h : ExitCourse py clock flavour decision reservationId
      (body.apply py (GuardState.entered args decision reservationId)) result trail)
    {receipt : RuntimeAuthorityReceipt} (hreceipt : result.2.receipt = some receipt) :
    ∃ self commit,
      body.apply py (GuardState.entered args decision reservationId) = (.ok (), self) ∧
      buildCommitBody py self.args.mandate self.actualMicros
        (truthyFields (some self.commitMetadata)) = .ok commit ∧
      requests trail = [.commitReservation reservationId commit] ∧
      receipt = receiptFor py clock self decision reservationId commit.actual.amount := by
  have hframe := body.apply_frame py (GuardState.entered args decision reservationId)
  generalize body.apply py (GuardState.entered args decision reservationId) = left at h hframe ⊢
  have hnone : left.2.receipt = none := hframe.receipt
  have hnew : left.2.receipt ≠ some receipt := by simp [hnone]
  cases h with
  | bodyRaised e self release => exact absurd hreceipt hnew
  | aborted release haborted => exact absurd hreceipt hnew
  | @settled self commitBody commit haborted hbody hverdict =>
    rw [GuardState.settled_receipt, hnone] at hreceipt
    rcases hemit : self.args.emitReceipt with _ | _
    · simp [hemit] at hreceipt
    · simp only [hemit, if_true, Option.some.injEq] at hreceipt
      exact ⟨self, commitBody, rfl, hbody, rfl, hreceipt.symm⟩
  | raised haborted hbody hverdict => exact absurd hreceipt hnew
  | rejected release haborted hbody hverdict => exact absurd hreceipt hnew

theorem ExitCourse.report {answers : Answers}
    (h : ExitCourse py clock flavour decision reservationId
      (body.apply py (GuardState.entered args decision reservationId)) result trail)
    (hreply : ∀ request outcome, Event.exchange request outcome ∈ trail →
      outcome = answers.reply request)
    (hcommit : answers.commit.Handled) (hrelease : answers.release.Handled) :
    ExitReport py args body answers.commit reservationId result trail := by
  have hframe := body.apply_frame py (GuardState.entered args decision reservationId)
  generalize hleft : body.apply py (GuardState.entered args decision reservationId) = left
    at h hframe
  cases h with
  | bodyRaised e self release =>
    obtain rfl : release = answers.release := hreply _ _ (List.mem_cons_self ..)
    have hexception := Body.exception_of_apply hleft
    rw [releaseReport_bind hrelease]
    constructor <;> simp [hexception]
  | @aborted self reason release haborted =>
    obtain rfl : release = answers.release := hreply _ _ (List.mem_cons_self ..)
    obtain ⟨hcomplete, _⟩ := Body.entered_of_complete hleft
    have hcalls : ¬∀ reason, .abort reason ∉ body.calls := by
      rw [Body.noAbort_iff_of_complete hleft, haborted]
      exact Option.some_ne_none reason
    rw [releaseReport_bind hrelease]
    refine ⟨by simp [hcomplete], ?_, ?_, ?_, ?_, ?_⟩
    · intro _ _
      exact ⟨rfl, hframe.committed⟩
    · intro _ hnoabort
      exact absurd hnoabort hcalls
    · intro _ hnoabort
      exact absurd hnoabort hcalls
    · intro _ hnoabort
      exact absurd hnoabort hcalls
    · intro _ hnoabort
      exact absurd hnoabort hcalls
  | @settled self commitBody commit haborted hbody hverdict =>
    obtain rfl : commit = answers.commit := hreply _ _ (List.mem_cons_self ..)
    obtain ⟨hcomplete, hargs, _⟩ := Body.entered_of_complete hleft
    have hnoabort := (Body.noAbort_iff_of_complete hleft).mpr haborted
    have hsucceeded := commitVerdict_settled_iff.mp hverdict
    have hreceipt : self.receipt = none := hframe.receipt
    refine ⟨by simp [hcomplete], ?_, ?_, ?_, ?_, ?_⟩
    · rintro _ ⟨reason, hmem⟩
      exact absurd hmem (hnoabort reason)
    · intro _ _
      exact ⟨commitBody, List.mem_cons_self ..⟩
    · intro _ _
      simp [GuardState.settled_committed, hsucceeded]
    · intro _ _ hfailed
      simp [hsucceeded] at hfailed
    · intro _ _ _
      simp [GuardState.settled_receipt, hreceipt, hargs]
  | @raised self commitBody commit e haborted hbody hverdict =>
    obtain rfl : commit = answers.commit := hreply _ _ (List.mem_cons_self ..)
    obtain ⟨hcomplete, _⟩ := Body.entered_of_complete hleft
    have hnoabort := (Body.noAbort_iff_of_complete hleft).mpr haborted
    have hfailed := succeeded_of_verdict hverdict (by simp)
    exact .of_failed hcomplete hnoabort hfailed hframe.committed
      ⟨commitBody, List.mem_cons_self ..⟩
      ⟨e, rfl, (commitVerdict_raises_reconciles_iff hverdict).mpr (Or.inl hcommit)⟩
  | @rejected self commitBody commit errorCode requestId release haborted hbody hverdict =>
    obtain rfl : commit = answers.commit := hreply _ _ (List.mem_cons_self ..)
    obtain rfl : release = answers.release :=
      hreply _ _ (List.mem_cons_of_mem _ (List.mem_cons_self ..))
    obtain ⟨hcomplete, _⟩ := Body.entered_of_complete hleft
    have hnoabort := (Body.noAbort_iff_of_complete hleft).mpr haborted
    have hfailed := succeeded_of_verdict hverdict (by simp)
    obtain ⟨⟨released, releaseError⟩, hreport⟩ := releaseReport_ok_iff.mpr hrelease
    rw [hreport]
    exact .of_failed hcomplete hnoabort hfailed hframe.committed
      ⟨commitBody, List.mem_cons_self ..⟩ ⟨_, rfl, commitFailed_reconciles _ _ _ _ _⟩

/-- **No silent failure after the body** (synchronous guard).  With a client that
    answers, or raises an `Exception`, a guard that entered its body reports
    every commit that was not confirmed, and nothing else. -/
theorem exit_reports (py : Python) (clock : Int) (args : GuardArgs) (body : Body)
    (answers : Answers) (reservationId : String)
    (hentered : Event.act (.withBody (some reservationId)) ∈
      (guardRun py clock .sync args body answers).2)
    (hcommit : answers.commit.Handled) (hrelease : answers.release.Handled) :
    ExitReport py args body answers.commit reservationId
      (guardRun py clock .sync args body answers).1
      (guardRun py clock .sync args body answers).2 := by
  obtain ⟨_, _, rest, _, _, htrail, hreply, hexit⟩ := guardRun_of_mark hentered
  have hreport := hexit.report hreply hcommit hrelease
  rw [htrail]
  refine { hreport with sent := ?_ }
  intro hcomplete hnoabort
  obtain ⟨commitBody, hmem⟩ := hreport.sent hcomplete hnoabort
  exact ⟨commitBody, List.mem_cons_of_mem _ (List.mem_cons_of_mem _ hmem)⟩

end Exit

theorem exit_reports_redirected :
    ∃ e, (guardRun .sample 0 .sync .sample ⟨[], none⟩ .redirected).1.1 = .error e ∧
      e.Reconciles "res-1" :=
  (exit_reports .sample 0 .sample ⟨[], none⟩ .redirected "res-1" (.tail _ (.head _))
    (Or.inr ⟨_, rfl⟩) (Or.inl rfl)).reported rfl (fun _ => List.not_mem_nil) rfl

/-! ### The asynchronous guard -/

/-- Nothing is sent after a POST that was cancelled. -/
def LastIfCancelled (trail : List GuardEvent) : Prop :=
  ∀ request exc, Event.exchange request (.raised exc) ∈ trail.dropLast → exc.isCancelled = false

section Cancellation

variable {py : Python} {clock : Int} {flavour : Flavour} {args : GuardArgs} {body : Body}
  {decision : Decision} {reservationId : String} {result : GuardResult} {trail : List GuardEvent}

theorem Course.lastIfCancelled (h : Course py clock flavour args body result trail) :
    LastIfCancelled trail := by
  intro request exc hmem
  cases h with
  | unsent hrequest => cases hmem
  | refused hrequest hadmission => cases hmem
  | @entered request' reserve decision reservationId result rest hrequest hadmission hexit =>
    obtain ⟨response, _, rfl, _⟩ := admission_eq_admitted_iff.mp hadmission
    generalize body.apply py (GuardState.entered args decision reservationId) = left at hexit
    cases hexit with
    | bodyRaised e self release => simp at hmem
    | aborted release haborted => simp at hmem
    | settled haborted hbody hverdict => simp at hmem
    | raised haborted hbody hverdict => simp at hmem
    | @rejected self body commit errorCode requestId release haborted hbody hverdict =>
      have hrejects := commitVerdict_rejected_iff.mp ⟨_, _, hverdict⟩
      rcases commit with response | exc
      · simp at hmem
      · cases hrejects

theorem ExitCourse.reconciles_iff {answers : Answers}
    (h : ExitCourse py clock .async decision reservationId
      (body.apply py (GuardState.entered args decision reservationId)) result trail)
    (hreply : ∀ request outcome, Event.exchange request outcome ∈ trail →
      outcome = answers.reply request)
    (hcomplete : body.exception py = none) (hnoabort : ∀ reason, .abort reason ∉ body.calls) :
    (answers.commit.succeeded = false → ∃ e, result.1 = .error e ∧ e.Reconciles reservationId) ↔
      (answers.commit.Handled ∨ answers.commit.Cancelled) ∧
        (answers.commit.rejectsCommit = true → answers.release.Handled) := by
  generalize hleft : body.apply py (GuardState.entered args decision reservationId) = left at h
  cases h with
  | bodyRaised e self release =>
    rw [Body.exception_of_apply hleft] at hcomplete
    simp at hcomplete
  | @aborted self reason release haborted =>
    rw [(Body.noAbort_iff_of_complete hleft).mp hnoabort] at haborted
    simp at haborted
  | @settled self commitBody commit haborted hbody hverdict =>
    obtain rfl : commit = answers.commit := hreply _ _ (List.mem_cons_self ..)
    have hsucceeded := commitVerdict_settled_iff.mp hverdict
    have hrejects := rejectsCommit_of_verdict hverdict (by simp)
    refine iff_of_true ?_ ⟨Or.inl (Outcome.handled_of_succeeded hsucceeded), ?_⟩
    · intro hfailed
      simp [hsucceeded] at hfailed
    · intro hrejected
      simp [hrejects] at hrejected
  | @raised self commitBody commit e haborted hbody hverdict =>
    obtain rfl : commit = answers.commit := hreply _ _ (List.mem_cons_self ..)
    have hfailed := succeeded_of_verdict hverdict (by simp)
    have hreconciles := commitVerdict_raises_reconciles_iff hverdict
    constructor
    · intro h
      obtain ⟨e', he, he'⟩ := h hfailed
      cases he
      refine ⟨(hreconciles.mp he').imp_right And.right, ?_⟩
      intro hrejects
      rw [rejectsCommit_of_verdict hverdict (by simp)] at hrejects
      simp at hrejects
    · rintro ⟨hcommit, _⟩ _
      exact ⟨e, rfl, hreconciles.mpr (hcommit.imp_right fun hcancelled => ⟨rfl, hcancelled⟩)⟩
  | @rejected self commitBody commit errorCode requestId release haborted hbody hverdict =>
    obtain rfl : commit = answers.commit := hreply _ _ (List.mem_cons_self ..)
    obtain rfl : release = answers.release :=
      hreply _ _ (List.mem_cons_of_mem _ (List.mem_cons_self ..))
    have hfailed := succeeded_of_verdict hverdict (by simp)
    have hrejects := commitVerdict_rejected_iff.mp ⟨_, _, hverdict⟩
    constructor
    · intro h
      refine ⟨Or.inl (Outcome.handled_of_rejectsCommit hrejects), ?_⟩
      intro _
      obtain ⟨e, he, hreconciles⟩ := h hfailed
      rcases hreport : releaseReport answers.release with e' | report
      · -- the exception of the release POST hides the one about the commit
        obtain ⟨exc, rfl⟩ := releaseReport_error hreport
        rw [hreport] at he
        cases he
        cases hreconciles
      · exact releaseReport_ok_iff.mp ⟨report, hreport⟩
    · rintro ⟨_, hrelease⟩ _
      obtain ⟨⟨released, releaseError⟩, hreport⟩ := releaseReport_ok_iff.mpr (hrelease hrejects)
      rw [hreport]
      exact ⟨_, rfl, commitFailed_reconciles _ _ _ _ _⟩

end Cancellation

/-- **When a cancellation leaves the reconciliation signal**: exactly when the
    commit POST is answered, raises an `Exception` or is cancelled, and the
    release POST after a rejected commit is answered or raises an `Exception`.
    Nothing is ever sent after a cancelled POST. -/
theorem asyncExit_reconciles_iff (py : Python) (clock : Int) (args : GuardArgs) (body : Body)
    (answers : Answers) (reservationId : String)
    (hentered : Event.act (.withBody (some reservationId)) ∈
      (guardRun py clock .async args body answers).2)
    (hcomplete : body.exception py = none) (hnoabort : ∀ reason, .abort reason ∉ body.calls) :
    ((answers.commit.succeeded = false →
        ∃ e, (guardRun py clock .async args body answers).1.1 = .error e ∧
          e.Reconciles reservationId) ∧
      LastIfCancelled (guardRun py clock .async args body answers).2) ↔
      (answers.commit.Handled ∨ answers.commit.Cancelled) ∧
        (answers.commit.rejectsCommit = true → answers.release.Handled) := by
  rw [and_iff_left (guardRun_course answers).lastIfCancelled]
  obtain ⟨_, _, _, _, _, _, hreply, hexit⟩ := guardRun_of_mark hentered
  exact hexit.reconciles_iff hreply hcomplete hnoabort

def Answers.releaseCancelled : Answers :=
  { Answers.sample with
    commit := .returned (.failure 400 ⟨"INVALID_REQUEST", some "INVALID_REQUEST", none⟩)
    release := .raised ⟨.cancelledError, "CancelledError", ""⟩ }

/-- A `CancelledError` at that release leaves the statement bare. -/
theorem asyncExit_releaseCancelled :
    Event.act (.withBody (some "res-1")) ∈
        (guardRun .sample 0 .async .sample ⟨[], none⟩ .releaseCancelled).2 ∧
      Answers.releaseCancelled.commit.succeeded = false ∧
      ¬∃ e, (guardRun .sample 0 .async .sample ⟨[], none⟩ .releaseCancelled).1.1 = .error e ∧
        e.Reconciles "res-1" := by
  refine ⟨.tail _ (.head _), rfl, ?_⟩
  have hleft : (guardRun .sample 0 .async .sample ⟨[], none⟩ .releaseCancelled).1.1 =
      .error (.foreign ⟨.cancelledError, "CancelledError", ""⟩) := rfl
  rintro ⟨e, he, hreconciles⟩
  rw [hleft] at he
  cases he
  cases hreconciles

theorem asyncExit_reconciles_iff_cancelled :
    ∃ e, (guardRun .sample 0 .async .sample ⟨[], none⟩
        { Answers.sample with commit := .raised ⟨.cancelledError, "CancelledError", ""⟩ }).1.1 =
          .error e ∧ e.Reconciles "res-1" :=
  ((asyncExit_reconciles_iff .sample 0 .sample ⟨[], none⟩
    { Answers.sample with commit := .raised ⟨.cancelledError, "CancelledError", ""⟩ } "res-1"
    (.tail _ (.head _)) rfl (fun _ => List.not_mem_nil)).mpr
      ⟨Or.inr rfl, fun h => nomatch h⟩).1 rfl

end CyclesAP2
