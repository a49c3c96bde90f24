import CyclesAP2.Course

/-!
# Request discipline

What a guard sends, whatever its body does and however its three POSTs end: one
of five sequences, commit and release only after the body was entered and to the
reservation it was entered under, no commit after an exception or an abort.

The last rule, that no release follows a commit the server applied, holds as far
as the release branch is reached by a rejection only.  The branch is the fall
through of the tests on the response (`Outcome.rejectsCommit`), so a redirect
reaches it as well as a 4xx.
-/

namespace CyclesAP2

open Interaction

/-! ### What is admitted, and what counts as a rejected commit -/

theorem admission_eq_admitted_iff {args : GuardArgs} {reserve : Outcome} {decision : Decision}
    {reservationId : String} :
    admission args reserve = .admitted decision reservationId ↔
      ∃ response result, reserve = .returned response ∧ response.isSuccess = true ∧
        response.createResult = .ok result ∧ result.decision = decision ∧ decision ≠ .deny ∧
        args.dryRun = false ∧ result.reservationId = some reservationId := by
  constructor
  · intro h
    rcases reserve with response | exc
    · dsimp only [admission] at h
      by_cases hsuccess : response.isSuccess = false
      · rw [if_pos hsuccess] at h
        cases herror : response.getErrorResponse <;> simp [herror] at h
      rw [if_neg hsuccess] at h
      rcases hresult : response.createResult with exc | result
      · simp [hresult] at h
      simp only [hresult, admissionOfResult] at h
      by_cases hdenied : result.isDenied = true
      · rw [if_pos hdenied] at h
        simp at h
      rw [if_neg hdenied] at h
      by_cases hdry : args.dryRun = true
      · rw [if_pos hdry] at h
        simp at h
      rw [if_neg hdry] at h
      rcases hid : result.reservationId with _ | id
      · simp [hid] at h
      · simp only [hid, Admission.admitted.injEq] at h
        obtain ⟨rfl, rfl⟩ := h
        exact ⟨response, result, rfl, by simpa using hsuccess, hresult, rfl,
          by simpa [ReservationCreateResponse.isDenied] using hdenied, by simpa using hdry, hid⟩
    · cases h
  · rintro ⟨response, result, rfl, hsuccess, hresult, rfl, hdecision, hdry, hid⟩
    simp [admission, admissionOfResult, hsuccess, hresult, hdry, hid,
      ReservationCreateResponse.isDenied, hdecision]

/-- The commit was answered, and the answer is none of 2xx, a transport failure,
    5xx, or one of the terminal codes. -/
def Outcome.rejectsCommit : Outcome → Bool
  | .raised _ => false
  | .returned response =>
    !response.isSuccess && !response.isTransportError && !response.isServerError &&
      match response.getErrorResponse with
      | .ok error => !terminalCodes.contains (errorCodeOf error)
      | .error _ => false

theorem commitVerdict_rejected_iff {flavour : Flavour} {transactionId reservationId : String}
    {commit : Outcome} :
    (∃ errorCode requestId, commitVerdict flavour transactionId reservationId commit =
      .rejected errorCode requestId) ↔ commit.rejectsCommit = true := by
  rcases commit with response | exc
  · dsimp only [commitVerdict, Outcome.rejectsCommit]
    rcases response.isSuccess <;> rcases response.isTransportError <;>
      rcases response.isServerError <;> rcases response.getErrorResponse with exc | error <;>
      simp
    by_cases hterminal : errorCodeOf error ∈ terminalCodes <;> simp [hterminal]
  · simp [commitVerdict, Outcome.rejectsCommit]

theorem rejectsCommit_of_verdict {flavour : Flavour} {transactionId reservationId : String}
    {commit : Outcome} {verdict : CommitVerdict}
    (h : commitVerdict flavour transactionId reservationId commit = verdict)
    (hverdict : ∀ errorCode requestId, verdict ≠ .rejected errorCode requestId) :
    commit.rejectsCommit = false := by
  refine Bool.eq_false_iff.mpr ?_
  intro hrejects
  obtain ⟨errorCode, requestId, hrejected⟩ := commitVerdict_rejected_iff.mpr hrejects
  exact hverdict errorCode requestId (h.symm.trans hrejected)

/-! ### The rules -/

/-- The phases of the POSTs a guard may send, in order. -/
def POST_SEQUENCES : List (List KeyPhase) :=
  [[], [.reserve], [.reserve, .commit], [.reserve, .release], [.reserve, .commit, .release]]

def phases (trail : List GuardEvent) : List KeyPhase :=
  (requests trail).map Request.phase

/-- The rules on what a guard sends, given how its reserve POST ended: one of five
    sequences, and nothing unless the mandate was accepted; the body is entered after
    an admitted reservation only; commit and release follow its start and go to its
    reservation; no commit follows an exception of the body or an abort. -/
structure RequestDiscipline (py : Python) (args : GuardArgs) (body : Body) (reserve : Outcome)
    (trail : List GuardEvent) : Prop where
  shape : phases trail ∈ POST_SEQUENCES
  accepted : requests trail ≠ [] → ∃ micros, args.mandate.amountMicros py = .ok micros
  admitted : ∀ held, Event.act (.withBody held) ∈ trail →
    ∃ response result reservationId, reserve = .returned response ∧ response.isSuccess = true ∧
      response.createResult = .ok result ∧ result.decision ≠ .deny ∧ args.dryRun = false ∧
      result.reservationId = some reservationId ∧ held = some reservationId
  entered : ∀ request ∈ requests trail, ∀ reservationId, request.target = some reservationId →
    ∃ before after, trail = before ++ .act (.withBody (some reservationId)) :: after ∧
      request ∈ requests after
  committed : ∀ reservationId commit, .commitReservation reservationId commit ∈ requests trail →
    body.exception py = none ∧ ∀ reason, .abort reason ∉ body.calls

/-- If the server applied the commit, no release was sent. -/
def NoUndo (applied : Prop) (trail : List GuardEvent) : Prop :=
  applied → KeyPhase.commit ∈ phases trail → KeyPhase.release ∉ phases trail

/-- A commit is sent, and its answer is taken for a rejection. -/
def RejectionSeen (py : Python) (args : GuardArgs) (body : Body) (answers : Answers) : Prop :=
  (∃ micros, args.mandate.amountMicros py = .ok micros) ∧
    (∃ decision reservationId,
      admission args answers.create = .admitted decision reservationId) ∧
    body.exception py = none ∧ (∀ reason, .abort reason ∉ body.calls) ∧
    answers.commit.rejectsCommit = true

section Courses

variable {py : Python} {clock : Int} {flavour : Flavour} {args : GuardArgs} {body : Body}
  {decision : Decision} {reservationId : String} {left result : GuardResult}
  {trail : List GuardEvent}

/-- What is sent after the body goes to its reservation, in one of three shapes. -/
theorem ExitCourse.requests_spec
    (h : ExitCourse py clock flavour decision reservationId left result trail) :
    phases trail ∈ [[KeyPhase.commit], [.release], [.commit, .release]] ∧
      (∀ request ∈ requests trail, request.target = some reservationId) ∧
      ∀ held, Event.act (Mark.withBody held) ∉ trail := by
  cases h <;>
    simp [phases, requests, Event.request?, Request.phase, Request.target, releaseRequest]

theorem ExitCourse.left_of_commit
    (h : ExitCourse py clock flavour decision reservationId left result trail)
    {id : String} {commit : CommitBody}
    (hcommit : Request.commitReservation id commit ∈ requests trail) :
    ∃ self, left = (.ok (), self) ∧ self.abortedReason = none := by
  cases h with
  | bodyRaised e self release => simp [requests, Event.request?, releaseRequest] at hcommit
  | aborted release haborted => simp [requests, Event.request?, releaseRequest] at hcommit
  | settled haborted hbody hverdict => exact ⟨_, rfl, haborted⟩
  | raised haborted hbody hverdict => exact ⟨_, rfl, haborted⟩
  | rejected release haborted hbody hverdict => exact ⟨_, rfl, haborted⟩

theorem Course.discipline (h : Course py clock flavour args body result trail)
    {reserve : Outcome} (hreserve : ∀ request outcome,
      Event.exchange (.createReservation request) outcome ∈ trail → outcome = reserve) :
    RequestDiscipline py args body reserve trail := by
  cases h with
  | unsent hrequest =>
    refine ⟨?_, ?_, ?_, ?_, ?_⟩ <;> simp [phases, requests, POST_SEQUENCES]
  | @refused request reserve' decision e hrequest hadmission =>
    have haccepted := amountMicros_of_reservationBody hrequest
    refine ⟨?_, fun _ => ⟨_, haccepted⟩, ?_, ?_, ?_⟩ <;>
      simp [phases, requests, Event.request?, Request.phase, Request.target, POST_SEQUENCES]
  | @entered request reserve' decision reservationId result rest hrequest hadmission hexit =>
    have haccepted := amountMicros_of_reservationBody hrequest
    obtain ⟨hphases, htarget, hmark⟩ := hexit.requests_spec
    obtain rfl := hreserve request reserve' (List.mem_cons_self ..)
    refine ⟨?_, fun _ => ⟨_, haccepted⟩, ?_, ?_, ?_⟩
    · simp only [List.mem_cons, List.not_mem_nil, or_false] at hphases
      have hcons : phases (Event.exchange (Request.createReservation request) reserve' ::
          .act (.withBody (some reservationId)) :: rest) = .reserve :: phases rest := rfl
      rw [hcons, POST_SEQUENCES]
      rcases hphases with h | h | h <;> rw [h] <;> decide
    · intro held hheld
      obtain ⟨response, result, hresponse, hsuccess, hresult, hdecision, hallowed, hdry, hid⟩ :=
        admission_eq_admitted_iff.mp hadmission
      rcases List.mem_cons.mp hheld with hheld | hheld
      · simp at hheld
      rcases List.mem_cons.mp hheld with hheld | hheld
      · cases hheld
        exact ⟨response, result, reservationId, hresponse, hsuccess, hresult,
          by rw [hdecision]; exact hallowed, hdry, hid, rfl⟩
      · exact absurd hheld (hmark held)
    · intro request' hmem id hid
      rcases List.mem_cons.mp hmem with rfl | hmem
      · cases hid
      · obtain rfl := Option.some.inj ((htarget request' hmem).symm.trans hid)
        exact ⟨[.exchange (.createReservation request) reserve'], rest, rfl, hmem⟩
    · intro id commit hmem
      rcases List.mem_cons.mp hmem with hmem | hmem
      · simp at hmem
      · obtain ⟨self, hleft, haborted⟩ := hexit.left_of_commit hmem
        exact ⟨(Body.entered_of_complete hleft).1,
          (Body.noAbort_iff_of_complete hleft).mpr haborted⟩

theorem ExitCourse.commit_release_iff
    (h : ExitCourse py clock flavour decision reservationId left result trail)
    {answers : Answers} (hreply : ∀ request outcome, Event.exchange request outcome ∈ trail →
      outcome = answers.reply request) :
    (KeyPhase.commit ∈ phases trail ∧ KeyPhase.release ∈ phases trail) ↔
      (∃ self, left = (.ok (), self) ∧ self.abortedReason = none) ∧
        answers.commit.rejectsCommit = true := by
  cases h with
  | bodyRaised e self release =>
    simp [phases, requests, Event.request?, Request.phase, releaseRequest]
  | @aborted self reason release haborted =>
    simp [phases, requests, Event.request?, Request.phase, releaseRequest, haborted]
  | @settled self commitBody commit haborted hbody hverdict =>
    obtain rfl : commit = answers.commit := hreply _ _ (List.mem_cons_self ..)
    have hrejects := rejectsCommit_of_verdict hverdict (by simp)
    simp [phases, requests, Event.request?, Request.phase, hrejects]
  | @raised self commitBody commit e haborted hbody hverdict =>
    obtain rfl : commit = answers.commit := hreply _ _ (List.mem_cons_self ..)
    have hrejects := rejectsCommit_of_verdict hverdict (by simp)
    simp [phases, requests, Event.request?, Request.phase, hrejects]
  | @rejected self commitBody commit errorCode requestId release haborted hbody hverdict =>
    obtain rfl : commit = answers.commit := hreply _ _ (List.mem_cons_self ..)
    have hrejects := commitVerdict_rejected_iff.mp ⟨_, _, hverdict⟩
    simp [phases, requests, Event.request?, Request.phase, releaseRequest, haborted, hrejects]

/-- A commit and a release are both sent exactly when the answer to the commit
    was taken for a rejection. -/
theorem Course.commit_release_iff (h : Course py clock flavour args body result trail)
    {answers : Answers} (hreply : ∀ request outcome, Event.exchange request outcome ∈ trail →
      outcome = answers.reply request) :
    (KeyPhase.commit ∈ phases trail ∧ KeyPhase.release ∈ phases trail) ↔
      RejectionSeen py args body answers := by
  cases h with
  | unsent hrequest =>
    constructor
    · simp [phases, requests]
    · rintro ⟨⟨micros, hmicros⟩, _⟩
      obtain ⟨request, hok⟩ := reservationBody_of_amountMicros hmicros
      rw [hrequest] at hok
      simp at hok
  | @refused request reserve decision e hrequest hadmission =>
    obtain rfl : reserve = answers.create := hreply _ _ (List.mem_cons_self ..)
    constructor
    · simp [phases, requests, Event.request?, Request.phase]
    · rintro ⟨_, ⟨_, _, hadmitted⟩, _⟩
      rw [hadmission] at hadmitted
      simp at hadmitted
  | @entered request reserve decision reservationId result rest hrequest hadmission hexit =>
    obtain rfl : reserve = answers.create := hreply _ _ (List.mem_cons_self ..)
    have hphases : phases (Event.exchange (Request.createReservation request) answers.create ::
        .act (.withBody (some reservationId)) :: rest) = .reserve :: phases rest := rfl
    have hexitReply := hexit.commit_release_iff fun request outcome hmem =>
      hreply request outcome (List.mem_cons_of_mem _ (List.mem_cons_of_mem _ hmem))
    have hmicros := amountMicros_of_reservationBody hrequest
    rw [hphases]
    simp only [List.mem_cons, reduceCtorEq, false_or]
    rw [hexitReply]
    constructor
    · rintro ⟨⟨self, hleft, haborted⟩, hrejects⟩
      exact ⟨⟨_, hmicros⟩, ⟨_, _, hadmission⟩, (Body.entered_of_complete hleft).1,
        (Body.noAbort_iff_of_complete hleft).mpr haborted, hrejects⟩
    · rintro ⟨_, _, hcomplete, hnoabort, hrejects⟩
      have hleft := Body.apply_of_complete hcomplete
        (GuardState.entered args decision reservationId)
      exact ⟨⟨_, hleft, (Body.noAbort_iff_of_complete hleft).mp hnoabort⟩, hrejects⟩

end Courses

/-! ### The discipline of every run -/

/-- **Request discipline**: every run of a guard obeys the rules, and its release
    follows a commit that the server applied exactly when the answer to that
    commit was taken for a rejection. -/
theorem guardRun_discipline (py : Python) (clock : Int) (flavour : Flavour) (args : GuardArgs)
    (body : Body) (answers : Answers) (applied : Prop) :
    RequestDiscipline py args body answers.create
        (guardRun py clock flavour args body answers).2 ∧
      (NoUndo applied (guardRun py clock flavour args body answers).2 ↔
        ¬(applied ∧ RejectionSeen py args body answers)) := by
  have hcourse : Course py clock flavour args body _ _ := guardRun_course answers
  refine ⟨hcourse.discipline fun request outcome hmem => guardRun_reply hmem, ?_⟩
  rw [← hcourse.commit_release_iff fun request outcome hmem => guardRun_reply hmem]
  unfold NoUndo
  tauto

/-- A redirect, answered to a commit that the server has applied. -/
def Answers.redirected : Answers :=
  { Answers.sample with
    commit := .returned { CyclesResponse.failure 302 ⟨"FOUND", none, none⟩ with
      getErrorResponse := .ok none } }

/-- The guard releases after an applied commit that was answered with a redirect. -/
theorem guardRun_redirected :
    ¬ NoUndo True (guardRun .sample 0 .sync .sample ⟨[], none⟩ .redirected).2 := by
  have hphases : phases (guardRun .sample 0 .sync .sample ⟨[], none⟩ .redirected).2 =
      [.reserve, .commit, .release] := by
    decide
  rw [NoUndo, hphases]
  decide

end CyclesAP2
