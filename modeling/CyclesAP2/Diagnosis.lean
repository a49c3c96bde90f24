import CyclesAP2.Amounts
import CyclesAP2.Reconciliation

/-!
# What the class of an exception tells

A caller that catches an exception of a `with` statement has to know how far the
payment came.  Unless the exception is one that the body itself raised, its class tells
(`exception_tells`): what was sent, whether the body started, and how the commit and the
release ended.  Every exception is accounted for; an `AssertionError` is none of the
guard's.
-/

namespace CyclesAP2

open Interaction

/-- In this phase the client raised: in the POST, in `get_error_response()`, or when the
    body of a reserve response was validated. -/
def Outcome.Raises (phase : KeyPhase) (outcome : Outcome) (exc : Raised) : Prop :=
  match outcome with
  | .raised exc' => exc' = exc
  | .returned response =>
    response.getErrorResponse = .error exc ∨
      phase = .reserve ∧ response.createResult = .error exc

/-- How far a guard came that is left by an exception of this class. -/
def PyExc.Tells (trail : List GuardEvent) : PyExc → Prop
  | .currencyError _ | .mandateError _ => trail = []
  | .guardDenied .. | .dryRunResult .. => phases trail = [.reserve] ∧ actions trail = []
  | .guardCommitUncertain _ _ _ held _ =>
    phases trail = [.reserve, .commit] ∧ ∃ id body commit, held = some id ∧
      actions trail = [.withBody (some id)] ∧
      Event.exchange (.commitReservation id body) commit ∈ trail ∧ commit.succeeded = false
  | .guardCommitFailed _ _ _ held released _ =>
    phases trail = [.reserve, .commit, .release] ∧ ∃ id body commit releaseBody release,
      held = some id ∧ actions trail = [.withBody (some id)] ∧
      Event.exchange (.commitReservation id body) commit ∈ trail ∧ commit.rejectsCommit = true ∧
      Event.exchange (.releaseReservation id releaseBody) release ∈ trail ∧
      release.succeeded = released
  | .assertionError => False
  | .foreign exc => ∃ request outcome, Event.exchange request outcome ∈ trail ∧
      outcome.Raises request.phase exc

/-! ### The exceptions of each step -/

section Steps

variable {py : Python} {args : GuardArgs}

theorem AP2Mandate.amountMicros_class {self : AP2Mandate} {e : PyExc}
    (h : self.amountMicros py = .error e) :
    ∃ message, e = .currencyError message ∨ e = .mandateError message := by
  by_cases hcurrency : py.upper self.currency.val = "USD"
  · obtain ⟨message, rfl⟩ := amountMicros_error hcurrency h
    exact ⟨message, Or.inr rfl⟩
  · simp only [AP2Mandate.amountMicros, ne_eq, hcurrency, not_false_eq_true, if_true,
      Except.error.injEq] at h
    exact ⟨_, Or.inl h.symm⟩

/-- A reserve body is refused for its mandate only. -/
theorem GuardArgs.reservationBody_class {e : PyExc} (h : args.reservationBody py = .error e) :
    ∃ message, e = .currencyError message ∨ e = .mandateError message := by
  rcases hmicros : args.mandate.amountMicros py with e' | micros
  · unfold GuardArgs.reservationBody buildReservationBody buildEstimate at h
    rw [hmicros] at h
    cases h
    exact AP2Mandate.amountMicros_class hmicros
  · obtain ⟨request, hrequest⟩ := reservationBody_of_amountMicros hmicros
    cases h.symm.trans hrequest

/-- A reserve that is not admitted is reported by one of two classes, or the client
    raised. -/
theorem admission_class {reserve : Outcome} {decision : Option Decision} {e : PyExc}
    (h : admission args reserve = .refused decision e) :
    (∃ message reasonCode requestId, e = .guardDenied message reasonCode requestId) ∨
      (∃ message shown reasonCode caps balances scopes,
        e = .dryRunResult message shown reasonCode caps balances scopes) ∨
      ∃ exc, e = .foreign exc ∧ reserve.Raises .reserve exc := by
  rcases reserve with response | exc
  · dsimp only [admission] at h
    split at h
    · split at h
      · obtain ⟨_, rfl⟩ := Admission.refused.inj h
        exact Or.inr (Or.inr ⟨_, rfl, Or.inl ‹_›⟩)
      · obtain ⟨_, rfl⟩ := Admission.refused.inj h
        exact Or.inl ⟨_, _, _, rfl⟩
    · split at h
      · obtain ⟨_, rfl⟩ := Admission.refused.inj h
        exact Or.inr (Or.inr ⟨_, rfl, Or.inr ⟨rfl, ‹_›⟩⟩)
      · dsimp only [admissionOfResult] at h
        split at h
        · obtain ⟨_, rfl⟩ := Admission.refused.inj h
          exact Or.inl ⟨_, _, _, rfl⟩
        · split at h
          · obtain ⟨_, rfl⟩ := Admission.refused.inj h
            exact Or.inr (Or.inl ⟨_, _, _, _, _, _, rfl⟩)
          · split at h
            · obtain ⟨_, rfl⟩ := Admission.refused.inj h
              exact Or.inl ⟨_, _, _, rfl⟩
            · cases h
  · obtain ⟨_, rfl⟩ := Admission.refused.inj h
    exact Or.inr (Or.inr ⟨exc, rfl, rfl⟩)

/-- A commit that is not settled is uncertain, or the client raised, or it is
    rejected. -/
theorem commitVerdict_class {flavour : Flavour} {transactionId reservationId : String}
    {commit : Outcome} {e : PyExc}
    (h : commitVerdict flavour transactionId reservationId commit = .raises e) :
    (∃ message errorCode requestId cause,
        e = .guardCommitUncertain message errorCode requestId (some reservationId) cause) ∨
      ∃ exc, e = .foreign exc ∧ commit.Raises .commit exc := by
  rcases commit with response | exc
  · dsimp only [commitVerdict] at h
    split at h
    · cases h
    · split at h
      · obtain rfl := CommitVerdict.raises.inj h
        exact Or.inr ⟨_, rfl, Or.inl ‹_›⟩
      · split at h
        · obtain rfl := CommitVerdict.raises.inj h
          exact Or.inl ⟨_, _, _, _, rfl⟩
        · split at h
          · obtain rfl := CommitVerdict.raises.inj h
            exact Or.inl ⟨_, _, _, _, rfl⟩
          · cases h
  · obtain rfl := CommitVerdict.raises.inj h
    unfold commitRaised
    split
    · exact Or.inl ⟨_, _, _, _, rfl⟩
    · split
      · exact Or.inl ⟨_, _, _, _, rfl⟩
      · exact Or.inr ⟨exc, rfl, rfl⟩

theorem releaseReport_class {release : Outcome} {e : PyExc} (h : releaseReport release = .error e) :
    ∃ exc, e = .foreign exc ∧ release.Raises .release exc := by
  rcases release with response | exc
  · dsimp only [releaseReport] at h
    split at h
    · cases h
    · split at h
      · cases h
        exact ⟨_, rfl, Or.inl ‹_›⟩
      · split at h <;> cases h
  · dsimp only [releaseReport] at h
    split at h
    · cases h
    · cases h
      exact ⟨exc, rfl, rfl⟩

/-- The flag in a release report says whether the release was a 2xx. -/
theorem releaseReport_flag {release : Outcome} {released : Bool} {releaseError : Option String}
    (h : releaseReport release = .ok (released, releaseError)) : release.succeeded = released := by
  rcases release with response | exc
  · dsimp only [releaseReport] at h
    dsimp only [Outcome.succeeded]
    rcases hsuccess : response.isSuccess with _ | _
    · rw [hsuccess, if_neg Bool.false_ne_true] at h
      split at h
      · cases h
      · split at h <;> exact (Prod.mk.inj (Except.ok.inj h)).1
    · rw [hsuccess, if_pos rfl] at h
      exact (Prod.mk.inj (Except.ok.inj h)).1
  · dsimp only [releaseReport] at h
    split at h
    · exact (Prod.mk.inj (Except.ok.inj h)).1
    · cases h

end Steps

/-! ### The exceptions of a run -/

section Courses

variable {py : Python} {clock : Int} {flavour : Flavour} {args : GuardArgs} {body : Body}
  {result : GuardResult} {trail : List GuardEvent}

/-- An exception the client raised in this exchange. -/
theorem PyExc.Tells.of_raises {request : Request} {outcome : Outcome} {exc : Raised}
    (hseen : Event.exchange request outcome ∈ trail) (hraises : outcome.Raises request.phase exc) :
    (PyExc.foreign exc).Tells trail :=
  ⟨request, outcome, hseen, hraises⟩

theorem ExitCourse.tells {decision : Decision} {reservationId : String}
    {rest : List GuardEvent} {request : ReservationBody} {reserve : Outcome} {e : PyExc}
    (h : ExitCourse py clock flavour decision reservationId
      (body.apply py (GuardState.entered args decision reservationId)) result rest)
    (hleft : result.1 = .error e) :
    body.exception py = some e ∨
      e.Tells (.exchange (.createReservation request) reserve ::
        .act (.withBody (some reservationId)) :: rest) := by
  generalize hbody : body.apply py (GuardState.entered args decision reservationId) = left at h
  have hlater : ∀ {event : GuardEvent}, event ∈ rest →
      event ∈ Event.exchange (Request.createReservation request) reserve ::
        Event.act (Mark.withBody (some reservationId)) :: rest :=
    fun hmem => List.mem_cons_of_mem _ (List.mem_cons_of_mem _ hmem)
  cases h with
  | bodyRaised e' self release =>
    rcases bind_eq_error_iff.mp hleft with hreport | ⟨_, _, hown⟩
    · obtain ⟨exc, rfl, hraises⟩ := releaseReport_class hreport
      exact Or.inr (.of_raises (hlater (.head _)) hraises)
    · cases hown
      exact Or.inl (Body.exception_of_apply hbody)
  | aborted release haborted =>
    rcases bind_eq_error_iff.mp hleft with hreport | ⟨_, _, hown⟩
    · obtain ⟨exc, rfl, hraises⟩ := releaseReport_class hreport
      exact Or.inr (.of_raises (hlater (.head _)) hraises)
    · cases hown
  | settled haborted hcommit hverdict => cases hleft
  | raised haborted hcommit hverdict =>
    obtain rfl := Except.error.inj hleft
    have hfailed := succeeded_of_verdict hverdict (by simp)
    rcases commitVerdict_class hverdict with ⟨_, _, _, _, rfl⟩ | ⟨exc, rfl, hraises⟩
    · exact Or.inr ⟨rfl, _, _, _, rfl, rfl, hlater (.head _), hfailed⟩
    · exact Or.inr (.of_raises (hlater (.head _)) hraises)
  | rejected release haborted hcommit hverdict =>
    have hrejects := commitVerdict_rejected_iff.mp ⟨_, _, hverdict⟩
    rcases bind_eq_error_iff.mp hleft with hreport | ⟨⟨released, releaseError⟩, hreport, hown⟩
    · obtain ⟨exc, rfl, hraises⟩ := releaseReport_class hreport
      exact Or.inr (.of_raises (hlater (.tail _ (.head _))) hraises)
    · obtain rfl := Except.error.inj hown
      exact Or.inr ⟨rfl, _, _, _, _, _, rfl, rfl, hlater (.head _), hrejects,
        hlater (.tail _ (.head _)), releaseReport_flag hreport⟩

/-- An exception leaves a guard that is one of its body, or its class tells how far the
    guard came. -/
theorem Course.tells (h : Course py clock flavour args body result trail) {e : PyExc}
    (hleft : result.1 = .error e) : body.exception py = some e ∨ e.Tells trail := by
  cases h with
  | unsent hrequest =>
    obtain rfl := Except.error.inj hleft
    obtain ⟨message, rfl | rfl⟩ := GuardArgs.reservationBody_class hrequest
    · exact Or.inr rfl
    · exact Or.inr rfl
  | refused hrequest hadmission =>
    obtain rfl := Except.error.inj hleft
    rcases admission_class hadmission with ⟨_, _, _, rfl⟩ | ⟨_, _, _, _, _, _, rfl⟩ |
      ⟨exc, rfl, hraises⟩
    · exact Or.inr ⟨rfl, rfl⟩
    · exact Or.inr ⟨rfl, rfl⟩
    · exact Or.inr (.of_raises (.head _) hraises)
  | entered hrequest hadmission hexit => exact hexit.tells hleft

end Courses

/-- **The class of an exception tells how far the payment came**, for either class of
    guard, any body and whatever the client does, unless the body itself raised that
    exception. -/
theorem exception_tells (py : Python) (clock : Int) (flavour : Flavour) (args : GuardArgs)
    (body : Body) (answers : Answers) {e : PyExc}
    (hleft : (guardRun py clock flavour args body answers).1.1 = .error e) :
    body.exception py = some e ∨ e.Tells (guardRun py clock flavour args body answers).2 :=
  (guardRun_course answers).tells hleft

/-- A commit is turned down with a 403, and the release is not. -/
theorem exception_tells_forbidden :
    let answers := { Answers.sample with
      commit := .returned (.failure 403 ⟨"FORBIDDEN", some "FORBIDDEN", none⟩) }
    ∃ e, (guardRun .sample 0 .sync .sample ⟨[], none⟩ answers).1.1 = .error e ∧
      e.Tells (guardRun .sample 0 .sync .sample ⟨[], none⟩ answers).2 := by
  intro answers
  exact ⟨_, rfl, (exception_tells .sample 0 .sync .sample ⟨[], none⟩ answers rfl).resolve_left
    nofun⟩

end CyclesAP2
