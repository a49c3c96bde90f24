import CyclesAP2.Reconciliation

/-!
# The release after a commit

A guard is to release after a commit only when the server has turned the commit
down.  In terms of HTTP that is a 4xx response without a terminal code; in the code
it is what is left when a response is no success, no transport failure, no server
error and has no terminal code.  The two differ on the other status classes, such as
a redirect (`guardRun_postCommit_iff`).
-/

namespace CyclesAP2

open Interaction

/-- The status of the response, if there was one. -/
def CyclesResponse.httpStatus (response : CyclesResponse) : Option Int :=
  if response.isTransportError then none else some response.status

/-- The status of the response lies in `first, …, last`. -/
def CyclesResponse.StatusIn (response : CyclesResponse) (first last : Int) : Prop :=
  ∃ status, response.httpStatus = some status ∧ first ≤ status ∧ status ≤ last

/-- The client's predicates on a status are what their names say. -/
structure CyclesResponse.Documented (response : CyclesResponse) : Prop where
  isSuccess : response.isSuccess = true ↔ response.StatusIn 200 299
  isServerError : response.isServerError = true ↔ response.StatusIn 500 599

/-- The recognised error code in the body of the response. -/
def CyclesResponse.errorCode (response : CyclesResponse) : Option String :=
  match response.getErrorResponse with
  | .ok error => errorCodeOf error
  | .error _ => none

/-- The server turned the request down: 4xx, with no terminal code. -/
def CyclesResponse.Rejects (response : CyclesResponse) : Prop :=
  response.StatusIn 400 499 ∧ response.errorCode ∉ terminalCodes

def PyExc.IsCommitFailed : PyExc → Prop
  | .guardCommitFailed .. => True
  | _ => False

/-- `AP2GuardCommitUncertain`, with an error code. -/
def PyExc.IsUncertain : PyExc → Prop
  | .guardCommitUncertain _ errorCode _ _ _ => errorCode ≠ none
  | _ => False

/-- A commit answered by `response` is released, and reported as failed, exactly when
    the server turned it down; otherwise it is confirmed, or reported as uncertain and
    not released. -/
structure ReleasedIffRejected (response : CyclesResponse) (result : GuardResult)
    (trail : List GuardEvent) : Prop where
  rejected : (KeyPhase.release ∈ phases trail ∧ ∃ e, result.1 = .error e ∧ e.IsCommitFailed) ↔
    response.Rejects
  uncertain : ¬response.StatusIn 200 299 → ¬response.Rejects →
    KeyPhase.release ∉ phases trail ∧ ∃ e, result.1 = .error e ∧ e.IsUncertain

/-- The response is of a class that the tests on it tell apart: a success, or one
    with a readable error body that is a transport failure, a server error, of a
    terminal code, or a client error; after the last, the release is answered or
    raises an `Exception`. -/
def CyclesResponse.Classified (response : CyclesResponse) (release : Outcome) : Prop :=
  response.isSuccess = true ∨
    ∃ error, response.getErrorResponse = .ok error ∧
      (response.isTransportError = true ∨ response.isServerError = true ∨
        errorCodeOf error ∈ terminalCodes ∨
        response.StatusIn 400 499 ∧ release.Handled)

/-! ### One verdict a class -/

section Response

variable {response : CyclesResponse}

theorem CyclesResponse.statusIn_unique {first last first' last' : Int}
    (h : response.StatusIn first last) (h' : response.StatusIn first' last') :
    first ≤ last' ∧ first' ≤ last := by
  obtain ⟨status, hstatus, hfirst, hlast⟩ := h
  obtain ⟨status', hstatus', hfirst', hlast'⟩ := h'
  obtain rfl := Option.some.inj (hstatus.symm.trans hstatus')
  exact ⟨hfirst.trans hlast', hfirst'.trans hlast⟩

theorem CyclesResponse.not_statusIn_of_transport (h : response.isTransportError = true)
    (first last : Int) : ¬response.StatusIn first last := by
  rintro ⟨status, hstatus, _⟩
  simp [httpStatus, h] at hstatus

theorem CyclesResponse.errorCode_of_ok {error : Option ErrorResponse}
    (h : response.getErrorResponse = .ok error) : response.errorCode = errorCodeOf error := by
  unfold errorCode
  rw [h]

/-- A terminal code is a code. -/
theorem ne_none_of_mem_terminalCodes {errorCode : Option String} (h : errorCode ∈ terminalCodes) :
    errorCode ≠ none := by
  rintro rfl
  revert h
  decide

variable {flavour : Flavour} {transactionId reservationId : String}

theorem commitVerdict_unreadable (hsuccess : response.isSuccess = false) {exc : Raised}
    (herror : response.getErrorResponse = .error exc) :
    commitVerdict flavour transactionId reservationId (.returned response) =
      .raises (.foreign exc) := by
  simp [commitVerdict, hsuccess, herror]

/-- Where the outcome is unknown, the guard says so, and names a code. -/
theorem commitVerdict_uncertain (hsuccess : response.isSuccess = false)
    {error : Option ErrorResponse} (herror : response.getErrorResponse = .ok error)
    (h : response.isTransportError = true ∨ response.isServerError = true ∨
      errorCodeOf error ∈ terminalCodes) :
    ∃ e, commitVerdict flavour transactionId reservationId (.returned response) = .raises e ∧
      e.IsUncertain := by
  dsimp only [commitVerdict]
  rw [if_neg (by simp [hsuccess]), herror]
  dsimp only
  by_cases hlayer : (response.isTransportError || response.isServerError) = true
  · rw [if_pos hlayer]
    exact ⟨_, rfl, Option.some_ne_none _⟩
  · rw [if_neg hlayer]
    have hterminal : errorCodeOf error ∈ terminalCodes := by
      rw [Bool.or_eq_true, not_or] at hlayer
      exact (h.resolve_left hlayer.1).resolve_left hlayer.2
    rw [if_pos (List.contains_iff_mem.mpr hterminal)]
    exact ⟨_, rfl, ne_none_of_mem_terminalCodes hterminal⟩

theorem commitVerdict_rejects (hsuccess : response.isSuccess = false)
    {error : Option ErrorResponse} (herror : response.getErrorResponse = .ok error)
    (htransport : response.isTransportError = false) (hserver : response.isServerError = false)
    (hterminal : errorCodeOf error ∉ terminalCodes) :
    commitVerdict flavour transactionId reservationId (.returned response) =
      .rejected (errorCodeOf error) (requestIdOf error) := by
  simp [commitVerdict, hsuccess, herror, htransport, hserver, hterminal]

/-- After a release that is not answered and raises no `Exception`, what it raised
    leaves the statement instead. -/
theorem commitFailed_of_report_iff {release : Outcome} {errorCode requestId : Option String} :
    (∃ e, (releaseReport release >>= fun (released, releaseError) =>
        (.error (commitFailed transactionId reservationId errorCode requestId released releaseError) :
          Except PyExc Unit)) = .error e ∧ e.IsCommitFailed) ↔ release.Handled := by
  rw [← releaseReport_ok_iff]
  rcases hreport : releaseReport release with e | ⟨released, releaseError⟩
  · obtain ⟨exc, rfl⟩ := releaseReport_error hreport
    constructor
    · rintro ⟨e, he, hfailed⟩
      obtain rfl := Except.error.inj he
      exact hfailed.elim
    · rintro ⟨report, hok⟩
      simp at hok
  · exact iff_of_true ⟨_, rfl, trivial⟩ ⟨_, rfl⟩

end Response

/-! ### The release after a commit -/

section Exit

variable {py : Python} {clock : Int} {flavour : Flavour} {decision : Decision}
  {reservationId : String} {left result : GuardResult} {trail : List GuardEvent}

/-- How a guard goes on once its commit was answered: the verdict on the answer
    decides. -/
theorem ExitCourse.of_commit
    (h : ExitCourse py clock flavour decision reservationId left result trail)
    {id : String} {commit : CommitBody} {outcome : Outcome}
    (hsent : Event.exchange (.commitReservation id commit) outcome ∈ trail) :
    ∃ transactionId,
      match commitVerdict flavour transactionId reservationId outcome with
      | .settled => result.1 = .ok () ∧ phases trail = [.commit]
      | .raises e => result.1 = .error e ∧ phases trail = [.commit]
      | .rejected errorCode requestId =>
        phases trail = [.commit, .release] ∧
          ∃ id body release, Event.exchange (.releaseReservation id body) release ∈ trail ∧
            result.1 = releaseReport release >>= fun (released, releaseError) =>
              .error (commitFailed transactionId reservationId errorCode requestId released
                releaseError) := by
  cases h with
  | bodyRaised e self release => simp [releaseRequest] at hsent
  | aborted release haborted => simp [releaseRequest] at hsent
  | @settled self body commit haborted hbody hverdict =>
    cases List.mem_singleton.mp hsent
    refine ⟨self.args.mandate.transactionId.val, ?_⟩
    rw [hverdict]
    exact ⟨rfl, rfl⟩
  | @raised self body commit e haborted hbody hverdict =>
    cases List.mem_singleton.mp hsent
    refine ⟨self.args.mandate.transactionId.val, ?_⟩
    rw [hverdict]
    exact ⟨rfl, rfl⟩
  | @rejected self body commit errorCode requestId release haborted hbody hverdict =>
    rcases List.mem_cons.mp hsent with hsent | hsent
    · cases hsent
      refine ⟨self.args.mandate.transactionId.val, ?_⟩
      rw [hverdict]
      exact ⟨rfl, _, _, release, List.mem_cons_of_mem _ (List.mem_cons_self ..), rfl⟩
    · simp [releaseRequest] at hsent

/-- No response is a rejection outside the class 4xx. -/
theorem CyclesResponse.Documented.not_rejects {response : CyclesResponse}
    (hdocumented : response.Documented)
    (h : response.isSuccess = true ∨ response.isTransportError = true ∨
      response.isServerError = true ∨ response.errorCode ∈ terminalCodes) :
    ¬response.Rejects := by
  rintro ⟨hclient, hcode⟩
  rcases h with h | h | h | h
  · have hbounds := statusIn_unique (hdocumented.isSuccess.mp h) hclient
    omega
  · exact not_statusIn_of_transport h _ _ hclient
  · have hbounds := statusIn_unique (hdocumented.isServerError.mp h) hclient
    omega
  · exact hcode h

/-- With a release sent, only a rejection reported as failed is in order. -/
theorem releasedIffRejected_of_release {response : CyclesResponse}
    (hrelease : KeyPhase.release ∈ phases trail) (hstatus : ¬response.StatusIn 200 299) :
    ReleasedIffRejected response result trail ↔
      response.Rejects ∧ ∃ e, result.1 = .error e ∧ e.IsCommitFailed := by
  constructor
  · rintro ⟨hrejected, huncertain⟩
    have hrejects : response.Rejects := by
      by_contra hnot
      exact (huncertain hstatus hnot).1 hrelease
    exact ⟨hrejects, (hrejected.mpr hrejects).2⟩
  · rintro ⟨hrejects, hfailed⟩
    refine ⟨iff_of_true ⟨hrelease, hfailed⟩ hrejects, ?_⟩
    intro _ hnot
    exact absurd hrejects hnot

theorem releasedIffRejected_of_noRelease {response : CyclesResponse}
    (hrelease : KeyPhase.release ∉ phases trail) :
    ReleasedIffRejected response result trail ↔ ¬response.Rejects ∧
      (¬response.StatusIn 200 299 → ∃ e, result.1 = .error e ∧ e.IsUncertain) := by
  constructor
  · rintro ⟨hrejected, huncertain⟩
    have hnot : ¬response.Rejects := fun hrejects => hrelease (hrejected.mpr hrejects).1
    exact ⟨hnot, fun hstatus => (huncertain hstatus hnot).2⟩
  · rintro ⟨hnot, huncertain⟩
    refine ⟨iff_of_false (fun h => hrelease h.1) hnot, ?_⟩
    intro hstatus _
    exact ⟨hrelease, huncertain hstatus⟩

theorem ExitCourse.releasedIffRejected_iff
    (h : ExitCourse py clock flavour decision reservationId left result trail)
    {answers : Answers} (hreply : ∀ request outcome, Event.exchange request outcome ∈ trail →
      outcome = answers.reply request)
    {id : String} {commit : CommitBody} {response : CyclesResponse}
    (hsent : Event.exchange (.commitReservation id commit) (.returned response) ∈ trail)
    (hdocumented : response.Documented) :
    ReleasedIffRejected response result trail ↔ response.Classified answers.release := by
  obtain ⟨transactionId, hcourse⟩ := h.of_commit hsent
  by_cases hsuccess : response.isSuccess = true
  · have hsettled : commitVerdict flavour transactionId reservationId (.returned response) =
        .settled := commitVerdict_settled_iff.mpr hsuccess
    rw [hsettled] at hcourse
    rw [releasedIffRejected_of_noRelease (by simp [hcourse.2])]
    refine iff_of_true ⟨hdocumented.not_rejects (Or.inl hsuccess), ?_⟩ (Or.inl hsuccess)
    intro hstatus
    exact absurd (hdocumented.isSuccess.mp hsuccess) hstatus
  have hstatus : ¬response.StatusIn 200 299 := fun hstatus =>
    hsuccess (hdocumented.isSuccess.mpr hstatus)
  have hfailed := Bool.eq_false_iff.mpr hsuccess
  rcases herror : response.getErrorResponse with exc | error
  · -- what `get_error_response` raised leaves the statement
    rw [commitVerdict_unreadable hfailed herror] at hcourse
    obtain ⟨hresult, hphases⟩ := hcourse
    rw [releasedIffRejected_of_noRelease (by simp [hphases])]
    refine iff_of_false ?_ (by simp [CyclesResponse.Classified, hfailed, herror])
    rintro ⟨_, huncertain⟩
    obtain ⟨e, he, hcode⟩ := huncertain hstatus
    obtain rfl := Except.error.inj (hresult.symm.trans he)
    exact hcode
  have hcode := CyclesResponse.errorCode_of_ok herror
  by_cases hunknown : response.isTransportError = true ∨ response.isServerError = true ∨
      errorCodeOf error ∈ terminalCodes
  · obtain ⟨e, hverdict, huncertain⟩ :
        ∃ e, commitVerdict flavour transactionId reservationId (.returned response) = .raises e ∧
          e.IsUncertain := commitVerdict_uncertain hfailed herror hunknown
    rw [hverdict] at hcourse
    obtain ⟨hresult, hphases⟩ := hcourse
    rw [releasedIffRejected_of_noRelease (by simp [hphases])]
    refine iff_of_true ⟨hdocumented.not_rejects (Or.inr (hcode ▸ hunknown)), ?_⟩
      (Or.inr ⟨error, herror, ?_⟩)
    · intro _
      exact ⟨e, hresult, huncertain⟩
    · tauto
  · obtain ⟨htransport, hserver, hterminal⟩ : response.isTransportError = false ∧
        response.isServerError = false ∧ errorCodeOf error ∉ terminalCodes := by
      simpa using hunknown
    rw [commitVerdict_rejects hfailed herror htransport hserver hterminal] at hcourse
    obtain ⟨hphases, _, _, release, hmem, hresult⟩ := hcourse
    obtain rfl : release = answers.release := hreply _ _ hmem
    have hrejects : response.Rejects ↔ response.StatusIn 400 499 :=
      and_iff_left (hcode ▸ hterminal)
    rw [releasedIffRejected_of_release (by simp [hphases]) hstatus, hresult,
      commitFailed_of_report_iff, hrejects]
    simp [CyclesResponse.Classified, hfailed, herror, htransport, hserver, hterminal]

/-- What precedes the exit sends no release. -/
theorem ReleasedIffRejected.entered_iff {response : CyclesResponse} {request : ReservationBody}
    {reserve : Outcome} {held : Option String} :
    ReleasedIffRejected response result
        (.exchange (.createReservation request) reserve :: .act (.withBody held) :: trail) ↔
      ReleasedIffRejected response result trail := by
  have hphases : KeyPhase.release ∈ phases (.exchange (.createReservation request) reserve ::
      .act (.withBody held) :: trail) ↔ KeyPhase.release ∈ phases trail := by
    simp [phases, requests, Event.request?, Request.phase]
  constructor
  · rintro ⟨hrejected, huncertain⟩
    rw [hphases] at hrejected huncertain
    exact ⟨hrejected, huncertain⟩
  · rintro ⟨hrejected, huncertain⟩
    rw [← hphases] at hrejected huncertain
    exact ⟨hrejected, huncertain⟩

end Exit

theorem Course.releasedIffRejected_iff {py : Python} {clock : Int} {flavour : Flavour}
    {args : GuardArgs} {body : Body} {result : GuardResult} {trail : List GuardEvent}
    (h : Course py clock flavour args body result trail) {answers : Answers}
    (hreply : ∀ request outcome, Event.exchange request outcome ∈ trail →
      outcome = answers.reply request)
    {id : String} {commit : CommitBody} {response : CyclesResponse}
    (hsent : Event.exchange (.commitReservation id commit) (.returned response) ∈ trail)
    (hdocumented : response.Documented) :
    ReleasedIffRejected response result trail ↔ response.Classified answers.release := by
  obtain ⟨request, reserve, decision, reservationId, rest, rfl, hsent, hexit⟩ :=
    h.of_target hsent rfl
  rw [ReleasedIffRejected.entered_iff]
  refine hexit.releasedIffRejected_iff ?_ hsent hdocumented
  intro request outcome hmem
  exact hreply request outcome (List.mem_cons_of_mem _ (List.mem_cons_of_mem _ hmem))

/-- **When a release follows a rejection only**: exactly when the answer to the
    commit is of a class that the guard tells apart.  A redirect, or any other
    response without a terminal code and outside 2xx, 4xx and 5xx, is taken for a
    rejection. -/
theorem guardRun_postCommit_iff (py : Python) (clock : Int) (flavour : Flavour) (args : GuardArgs)
    (body : Body) (answers : Answers) (id : String) (commit : CommitBody)
    (response : CyclesResponse)
    (hsent : Event.exchange (.commitReservation id commit) (.returned response) ∈
      (guardRun py clock flavour args body answers).2)
    (hdocumented : response.Documented) :
    ReleasedIffRejected response (guardRun py clock flavour args body answers).1
        (guardRun py clock flavour args body answers).2 ↔
      response.Classified answers.release :=
  (guardRun_course answers).releasedIffRejected_iff (fun _ _ => guardRun_reply) hsent hdocumented

def Answers.forbidden : Answers :=
  { Answers.sample with
    commit := .returned (.failure 403 ⟨"FORBIDDEN", some "FORBIDDEN", none⟩) }

theorem guardRun_postCommit_iff_forbidden :
    ∃ commit response, Answers.forbidden.commit = .returned response ∧
      Event.exchange (.commitReservation "res-1" commit) (.returned response) ∈
        (guardRun .sample 0 .sync .sample ⟨[], none⟩ .forbidden).2 ∧
      ReleasedIffRejected response (guardRun .sample 0 .sync .sample ⟨[], none⟩ .forbidden).1
        (guardRun .sample 0 .sync .sample ⟨[], none⟩ .forbidden).2 := by
  refine ⟨_, _, rfl, .tail _ (.tail _ (.head _)), ?_⟩
  refine (guardRun_postCommit_iff .sample 0 .sync .sample ⟨[], none⟩ .forbidden "res-1" _ _
    (.tail _ (.tail _ (.head _))) ?_).mpr ?_
  · constructor
    · simp [CyclesResponse.failure, CyclesResponse.StatusIn, CyclesResponse.httpStatus]
    · simp [CyclesResponse.failure, CyclesResponse.StatusIn, CyclesResponse.httpStatus]
  · refine Or.inr ⟨_, rfl, Or.inr (Or.inr (Or.inr ⟨⟨403, rfl, by decide, by decide⟩, ?_⟩))⟩
    exact Or.inl rfl

/-- A redirect is no 4xx, and the guard releases. -/
theorem guardRun_postCommit_redirected :
    ∃ commit response,
      Event.exchange (.commitReservation "res-1" commit) (.returned response) ∈
        (guardRun .sample 0 .sync .sample ⟨[], none⟩ .redirected).2 ∧
      response.Documented ∧ response.httpStatus = some 302 ∧
      ¬ReleasedIffRejected response (guardRun .sample 0 .sync .sample ⟨[], none⟩ .redirected).1
        (guardRun .sample 0 .sync .sample ⟨[], none⟩ .redirected).2 := by
  refine ⟨_, _, .tail _ (.tail _ (.head _)), ?_, rfl, ?_⟩
  · constructor
    · simp [CyclesResponse.failure, CyclesResponse.StatusIn, CyclesResponse.httpStatus]
    · simp [CyclesResponse.failure, CyclesResponse.StatusIn, CyclesResponse.httpStatus]
  · intro hreleased
    have hphases : KeyPhase.release ∈
        phases (guardRun .sample 0 .sync .sample ⟨[], none⟩ .redirected).2 := by
      decide
    refine (hreleased.uncertain ?_ ?_).1 hphases
    · simp [CyclesResponse.failure, CyclesResponse.StatusIn, CyclesResponse.httpStatus]
    · simp [CyclesResponse.Rejects, CyclesResponse.failure, CyclesResponse.StatusIn,
        CyclesResponse.httpStatus]

end CyclesAP2
