import CyclesAP2.Lifecycle

/-!
# The course of one guard

A guard sends at most three POSTs, so its complete runs can be listed.  `Course`
lists them, whatever the replies: nothing sent, refused at the reserve, or the
body entered and one of the five ways to leave it (`ExitCourse`).  No course ends
in a failure to build the commit body: the amounts it is built from were
validated before (`exists_commitBody`).  `path_iff_course` says that the list is
exact.

`guardRun` is the run of one guard whose three POSTs end in given outcomes.
Since each POST is sent at most once, these runs are all complete runs
(`exists_answers`), also against a client that remembers earlier calls.
-/

namespace CyclesAP2

open Interaction

/-- From the end of the body on: how the guard is left, given how the body left
    it, and the POSTs sent. -/
inductive ExitCourse (py : Python) (clock : Int) (flavour : Flavour) (decision : Decision)
    (reservationId : String) : GuardResult → GuardResult → List GuardEvent → Prop where
  | bodyRaised (e : PyExc) (self : GuardState) (release : Outcome) :
      ExitCourse py clock flavour decision reservationId (.error e, self)
        (releaseReport release >>= fun _ => .error e, self)
        [.exchange (releaseRequest py self reservationId (failedReason e) e.typeName) release]
  | aborted {self : GuardState} {reason : String} (release : Outcome)
      (haborted : self.abortedReason = some reason) :
      ExitCourse py clock flavour decision reservationId (.ok (), self)
        (releaseReport release >>= fun _ => .ok (), self)
        [.exchange (releaseRequest py self reservationId (abortedReason reason) "Aborted") release]
  | settled {self : GuardState} {body : CommitBody} {commit : Outcome}
      (haborted : self.abortedReason = none)
      (hbody : buildCommitBody py self.args.mandate self.actualMicros
        (truthyFields (some self.commitMetadata)) = .ok body)
      (hverdict : commitVerdict flavour self.args.mandate.transactionId.val reservationId commit =
        .settled) :
      ExitCourse py clock flavour decision reservationId (.ok (), self)
        (.ok (), self.settled py clock decision reservationId body.actual.amount)
        [.exchange (.commitReservation reservationId body) commit]
  | raised {self : GuardState} {body : CommitBody} {commit : Outcome} {e : PyExc}
      (haborted : self.abortedReason = none)
      (hbody : buildCommitBody py self.args.mandate self.actualMicros
        (truthyFields (some self.commitMetadata)) = .ok body)
      (hverdict : commitVerdict flavour self.args.mandate.transactionId.val reservationId commit =
        .raises e) :
      ExitCourse py clock flavour decision reservationId (.ok (), self) (.error e, self)
        [.exchange (.commitReservation reservationId body) commit]
  | rejected {self : GuardState} {body : CommitBody} {commit : Outcome}
      {errorCode requestId : Option String} (release : Outcome)
      (haborted : self.abortedReason = none)
      (hbody : buildCommitBody py self.args.mandate self.actualMicros
        (truthyFields (some self.commitMetadata)) = .ok body)
      (hverdict : commitVerdict flavour self.args.mandate.transactionId.val reservationId commit =
        .rejected errorCode requestId) :
      ExitCourse py clock flavour decision reservationId (.ok (), self)
        (releaseReport release >>= fun (released, releaseError) =>
          .error (commitFailed self.args.mandate.transactionId.val reservationId errorCode
            requestId released releaseError), self)
        [.exchange (.commitReservation reservationId body) commit,
          .exchange (releaseRequest py self reservationId (rejectedReason errorCode)
            "CommitRejected") release]

/-- The complete runs of a guard: how it is left, and what was observed. -/
inductive Course (py : Python) (clock : Int) (flavour : Flavour) (args : GuardArgs)
    (body : Body) : GuardResult → List GuardEvent → Prop where
  | unsent {e : PyExc} (hrequest : args.reservationBody py = .error e) :
      Course py clock flavour args body (.error e, GuardState.init args) []
  | refused {request : ReservationBody} {reserve : Outcome} {decision : Option Decision}
      {e : PyExc} (hrequest : args.reservationBody py = .ok request)
      (hadmission : admission args reserve = .refused decision e) :
      Course py clock flavour args body
        (.error e, { GuardState.init args with decision := decision })
        [.exchange (.createReservation request) reserve]
  | entered {request : ReservationBody} {reserve : Outcome} {decision : Decision}
      {reservationId : String} {result : GuardResult} {rest : List GuardEvent}
      (hrequest : args.reservationBody py = .ok request)
      (hadmission : admission args reserve = .admitted decision reservationId)
      (hexit : ExitCourse py clock flavour decision reservationId
        (body.apply py (GuardState.entered args decision reservationId)) result rest) :
      Course py clock flavour args body result
        (.exchange (.createReservation request) reserve ::
          .act (.withBody (some reservationId)) :: rest)

/-! ### The commit body is always built -/

theorem amountMicros_of_reservationBody {py : Python} {args : GuardArgs}
    {request : ReservationBody} (h : args.reservationBody py = .ok request) :
    args.mandate.amountMicros py = .ok request.estimate.amount := by
  obtain ⟨micros, hmicros, rfl⟩ := GuardArgs.reservationBody_ok_iff.mp h
  exact hmicros

theorem reservationBody_of_amountMicros {py : Python} {args : GuardArgs} {micros : Int}
    (h : args.mandate.amountMicros py = .ok micros) :
    ∃ request, args.reservationBody py = .ok request :=
  ⟨_, GuardArgs.reservationBody_ok_iff.mpr ⟨micros, h, rfl⟩⟩

theorem Body.entered_of_complete {py : Python} {args : GuardArgs} {body : Body}
    {decision : Decision} {reservationId : String} {self : GuardState}
    (h : body.apply py (GuardState.entered args decision reservationId) = (.ok (), self)) :
    body.exception py = none ∧ self.args = args ∧ self.actualMicros = body.lastAccepted ∧
      self.abortedReason = body.lastAborting := by
  have hframe := body.apply_frame py (GuardState.entered args decision reservationId)
  rw [h] at hframe
  obtain ⟨hcomplete, rfl⟩ := Body.complete_of_apply h
  refine ⟨hcomplete, hframe.args, ?_, ?_⟩
  · rw [foldl_apply_actualMicros]
    exact Option.or_none
  · rw [foldl_apply_abortedReason]
    exact Option.or_none

theorem Body.noAbort_iff_of_complete {py : Python} {args : GuardArgs} {body : Body}
    {decision : Decision} {reservationId : String} {self : GuardState}
    (h : body.apply py (GuardState.entered args decision reservationId) = (.ok (), self)) :
    (∀ reason, .abort reason ∉ body.calls) ↔ self.abortedReason = none := by
  obtain ⟨_, _, _, haborting⟩ := Body.entered_of_complete h
  rw [haborting]
  exact Body.lastAborting_eq_none_iff.symm

/-- **After the reserve and a completed body the commit body is built**: the
    amount of the mandate was computed for the reserve, and an override was
    checked when it was set. -/
theorem exists_commitBody {py : Python} {args : GuardArgs} {request : ReservationBody}
    {body : Body} {self : GuardState} (hrequest : args.reservationBody py = .ok request)
    (decision : Decision) (reservationId : String)
    (hbody : body.apply py (GuardState.entered args decision reservationId) = (.ok (), self))
    (metadata : Option Fields) :
    ∃ commitBody,
      buildCommitBody py self.args.mandate self.actualMicros metadata = .ok commitBody := by
  obtain ⟨_, hargs, hactual, _⟩ := Body.entered_of_complete hbody
  rw [hactual, hargs]
  rcases haccepted : body.lastAccepted with _ | micros
  · exact ⟨_, buildCommitBody_ok_iff.mpr
      ⟨_, amountMicros_of_reservationBody hrequest, rfl⟩⟩
  · have hvalid := acceptedMicros_eq_some_iff.mpr ⟨rfl, Body.lastAccepted_bounds haccepted⟩
    exact ⟨_, buildCommitBody_ok_iff.mpr ⟨_, (validateMicros_eq_ok_iff py).mpr hvalid, rfl⟩⟩

/-! ### Courses and complete runs -/

section Paths

variable {py : Python} {clock : Int} {flavour : Flavour} {args : GuardArgs} {body : Body}

theorem path_releaseProgram {self : GuardState} {reservationId reason excName : String}
    {after : Bool × Option String → Except PyExc Unit} {trail : List GuardEvent}
    {result : GuardResult}
    (h : Program.Path (releaseProgram py self reservationId reason excName after) trail
      (.done result)) :
    ∃ release, result = (releaseReport release >>= after, self) ∧
      trail = [.exchange (releaseRequest py self reservationId reason excName) release] := by
  rcases Program.path_call_iff.mp h with ⟨_, hdone⟩ | ⟨release, rest, rfl, hrest⟩
  · simp at hdone
  · obtain ⟨rfl, hdone⟩ := Program.path_done_iff.mp hrest
    cases hdone
    exact ⟨release, rfl, rfl⟩

theorem exitCourse_of_path {decision : Decision} {reservationId : String} {left : GuardResult}
    (hbuilt : ∀ self, left = (.ok (), self) → ∃ commitBody,
      buildCommitBody py self.args.mandate self.actualMicros
        (truthyFields (some self.commitMetadata)) = .ok commitBody)
    {trail : List GuardEvent} {result : GuardResult}
    (h : Program.Path (exitProgram py clock flavour decision reservationId left) trail
      (.done result)) :
    ExitCourse py clock flavour decision reservationId left result trail := by
  rcases left with ⟨e | _, self⟩
  · obtain ⟨release, rfl, rfl⟩ := path_releaseProgram h
    exact .bodyRaised e self release
  · dsimp only [exitProgram] at h
    rcases haborted : self.abortedReason with _ | reason
    · obtain ⟨commitBody, hbody⟩ := hbuilt self rfl
      rw [haborted] at h
      dsimp only [commitProgram] at h
      rw [hbody] at h
      rcases Program.path_call_iff.mp h with ⟨_, hdone⟩ | ⟨commit, rest, rfl, hrest⟩
      · simp at hdone
      · rcases hverdict : commitVerdict flavour self.args.mandate.transactionId.val reservationId
          commit with _ | e | ⟨errorCode, requestId⟩
        · rw [hverdict] at hrest
          obtain ⟨rfl, hdone⟩ := Program.path_done_iff.mp hrest
          cases hdone
          exact .settled haborted hbody hverdict
        · rw [hverdict] at hrest
          obtain ⟨rfl, hdone⟩ := Program.path_done_iff.mp hrest
          cases hdone
          exact .raised haborted hbody hverdict
        · rw [hverdict] at hrest
          obtain ⟨release, rfl, rfl⟩ := path_releaseProgram hrest
          exact .rejected release haborted hbody hverdict
    · rw [haborted] at h
      obtain ⟨release, rfl, rfl⟩ := path_releaseProgram h
      exact .aborted release haborted

theorem path_of_exitCourse {decision : Decision} {reservationId : String}
    {left result : GuardResult} {trail : List GuardEvent}
    (h : ExitCourse py clock flavour decision reservationId left result trail) :
    Program.Path (exitProgram py clock flavour decision reservationId left) trail
      (.done result) := by
  cases h with
  | bodyRaised e self release => exact .exchange release (.here _)
  | @aborted self reason release haborted =>
    dsimp only [exitProgram]
    rw [haborted]
    exact .exchange release (.here _)
  | @settled self body commit haborted hbody hverdict =>
    dsimp only [exitProgram, commitProgram]
    rw [haborted, hbody]
    refine .exchange commit ?_
    rw [hverdict]
    exact .here _
  | @raised self body commit e haborted hbody hverdict =>
    dsimp only [exitProgram, commitProgram]
    rw [haborted, hbody]
    refine .exchange commit ?_
    rw [hverdict]
    exact .here _
  | @rejected self body commit errorCode requestId release haborted hbody hverdict =>
    dsimp only [exitProgram, commitProgram]
    rw [haborted, hbody]
    refine .exchange commit ?_
    rw [hverdict]
    exact .exchange release (.here _)

theorem course_of_path {trail : List GuardEvent} {result : GuardResult}
    (h : Program.Path (lifecycle py clock flavour args body) trail (.done result)) :
    Course py clock flavour args body result trail := by
  unfold lifecycle at h
  rcases hrequest : args.reservationBody py with e | request
  · rw [hrequest] at h
    obtain ⟨rfl, hdone⟩ := Program.path_done_iff.mp h
    cases hdone
    exact .unsent hrequest
  · rw [hrequest] at h
    rcases Program.path_call_iff.mp h with ⟨_, hdone⟩ | ⟨reserve, rest, rfl, hrest⟩
    · simp at hdone
    · rcases hadmission : admission args reserve with ⟨decision, e⟩ | ⟨decision, reservationId⟩
      · rw [hadmission] at hrest
        obtain ⟨rfl, hdone⟩ := Program.path_done_iff.mp hrest
        cases hdone
        exact .refused hrequest hadmission
      · rw [hadmission] at hrest
        rcases Program.path_act_iff.mp hrest with ⟨_, hdone⟩ | ⟨rest, rfl, hexit⟩
        · simp at hdone
        · refine .entered hrequest hadmission (exitCourse_of_path ?_ hexit)
          intro self hself
          exact exists_commitBody hrequest decision reservationId hself _

/-- **The courses are exactly the complete runs of a guard.** -/
theorem path_iff_course {trail : List GuardEvent} {result : GuardResult} :
    Program.Path (withStatement py clock flavour body (GuardState.init args)) trail
        (.done result) ↔ Course py clock flavour args body result trail := by
  rw [withStatement_eq_lifecycle]
  refine ⟨course_of_path, ?_⟩
  intro h
  cases h with
  | unsent hrequest =>
    unfold lifecycle
    rw [hrequest]
    exact .here _
  | @refused request reserve decision e hrequest hadmission =>
    unfold lifecycle
    rw [hrequest]
    refine .exchange reserve ?_
    rw [hadmission]
    exact .here _
  | @entered request reserve decision reservationId result rest hrequest hadmission hexit =>
    unfold lifecycle
    rw [hrequest]
    refine .exchange reserve ?_
    rw [hadmission]
    exact .act (path_of_exitCourse hexit)

end Paths

theorem Course.of_mark {py : Python} {clock : Int} {flavour : Flavour} {args : GuardArgs}
    {body : Body} {result : GuardResult} {trail : List GuardEvent} {held : Option String}
    (h : Course py clock flavour args body result trail)
    (hmark : Event.act (.withBody held) ∈ trail) :
    ∃ request reserve decision reservationId rest, held = some reservationId ∧
      args.reservationBody py = .ok request ∧
      admission args reserve = .admitted decision reservationId ∧
      trail = .exchange (.createReservation request) reserve ::
        .act (.withBody (some reservationId)) :: rest ∧
      ExitCourse py clock flavour decision reservationId
        (body.apply py (GuardState.entered args decision reservationId)) result rest := by
  cases h with
  | unsent hrequest => cases hmark
  | refused hrequest hadmission => simp at hmark
  | @entered request reserve decision reservationId result rest hrequest hadmission hexit =>
    have hrest : Event.act (Mark.withBody held) ∉ rest := by
      intro hmem
      generalize body.apply py (GuardState.entered args decision reservationId) = left at hexit
      cases hexit <;> simp at hmem
    have hheld : held = some reservationId := by simpa [hrest] using hmark
    exact ⟨request, reserve, decision, reservationId, rest, hheld, hrequest, hadmission, rfl, hexit⟩

/-- A commit or a release belongs to an exit. -/
theorem Course.of_target {py : Python} {clock : Int} {flavour : Flavour} {args : GuardArgs}
    {body : Body} {result : GuardResult} {trail : List GuardEvent} {q : Request}
    {outcome : Outcome} {id : String} (h : Course py clock flavour args body result trail)
    (hsent : Event.exchange q outcome ∈ trail) (htarget : q.target = some id) :
    ∃ request reserve decision reservationId rest,
      trail = .exchange (.createReservation request) reserve ::
        .act (.withBody (some reservationId)) :: rest ∧
      Event.exchange q outcome ∈ rest ∧
      ExitCourse py clock flavour decision reservationId
        (body.apply py (GuardState.entered args decision reservationId)) result rest := by
  have hreserve : ∀ request, q ≠ .createReservation request := by
    rintro request rfl
    simp [Request.target] at htarget
  cases h with
  | unsent hrequest => cases hsent
  | refused hrequest hadmission => simp [hreserve] at hsent
  | @entered request reserve decision reservationId result rest hrequest hadmission hexit =>
    exact ⟨request, reserve, decision, reservationId, rest, rfl, by simpa [hreserve] using hsent,
      hexit⟩

/-! ### A guard on its way -/

/-- How far a guard has come: nothing sent, only the reserve sent, or the body
    started; in the last case what followed the start belongs to an exit. -/
theorem trail_cases {py : Python} {clock : Int} {flavour : Flavour} {args : GuardArgs}
    {body : Body} {trail : List GuardEvent} {p : GuardProgram}
    (h : Program.Path (withStatement py clock flavour body (GuardState.init args)) trail p) :
    trail = [] ∨
      (∃ request reserve, args.reservationBody py = .ok request ∧
        trail = [.exchange (.createReservation request) reserve]) ∨
      ∃ request reserve decision reservationId result rest exit,
        args.reservationBody py = .ok request ∧
        admission args reserve = .admitted decision reservationId ∧
        trail = .exchange (.createReservation request) reserve ::
          .act (.withBody (some reservationId)) :: rest ∧
        rest <+: exit ∧
        ExitCourse py clock flavour decision reservationId
          (body.apply py (GuardState.entered args decision reservationId)) result exit := by
  obtain ⟨more, result, hcomplete⟩ := h.complete
  have hcourse := path_iff_course.mp hcomplete
  have hbefore : trail <+: trail ++ more := List.prefix_append ..
  generalize trail ++ more = whole at hcourse hbefore
  cases hcourse with
  | unsent hrequest => exact Or.inl (List.prefix_nil.mp hbefore)
  | @refused request reserve decision e hrequest hadmission =>
    rcases List.prefix_cons_iff.mp hbefore with rfl | ⟨rest, rfl, hrest⟩
    · exact Or.inl rfl
    · obtain rfl := List.prefix_nil.mp hrest
      exact Or.inr (Or.inl ⟨request, reserve, hrequest, rfl⟩)
  | @entered request reserve decision reservationId result exit hrequest hadmission hexit =>
    rcases List.prefix_cons_iff.mp hbefore with rfl | ⟨rest, rfl, hrest⟩
    · exact Or.inl rfl
    · rcases List.prefix_cons_iff.mp hrest with rfl | ⟨sent, rfl, hsent⟩
      · exact Or.inr (Or.inl ⟨request, reserve, hrequest, rfl⟩)
      · exact Or.inr (Or.inr ⟨request, reserve, decision, reservationId, result, sent, _,
          hrequest, hadmission, rfl, hsent, hexit⟩)

/-! ### The run of one guard -/

structure Answers where
  create : Outcome
  commit : Outcome
  release : Outcome

def Answers.reply (answers : Answers) : Request → Outcome
  | .createReservation _ => answers.create
  | .commitReservation _ _ => answers.commit
  | .releaseReservation _ _ => answers.release

/-- A server that allows the reservation and applies what follows. -/
def Answers.sample : Answers where
  create := .returned (.success (.ok { decision := .allow, reservationId := some "res-1" }))
  commit := .returned (.success (.error ⟨.exception, "ValidationError", ""⟩))
  release := .returned (.success (.error ⟨.exception, "ValidationError", ""⟩))

/-- The run of a guard used in one `with` statement. -/
def guardRun (py : Python) (clock : Int) (flavour : Flavour) (args : GuardArgs) (body : Body)
    (answers : Answers) : GuardResult × List GuardEvent :=
  (withStatement py clock flavour body (GuardState.init args)).run answers.reply

section Runs

variable {py : Python} {clock : Int} {flavour : Flavour} {args : GuardArgs} {body : Body}

theorem guardRun_course (answers : Answers) :
    Course py clock flavour args body (guardRun py clock flavour args body answers).1
      (guardRun py clock flavour args body answers).2 :=
  path_iff_course.mp (Program.path_run _ _)

theorem guardRun_reply {answers : Answers} {request : Request} {outcome : Outcome}
    (h : Event.exchange request outcome ∈ (guardRun py clock flavour args body answers).2) :
    outcome = answers.reply request :=
  Program.reply_of_mem_run h

theorem answers_of_exitCourse {decision : Decision} {reservationId : String}
    {left result : GuardResult} {trail : List GuardEvent}
    (h : ExitCourse py clock flavour decision reservationId left result trail)
    (create unsent : Outcome) :
    ∃ commit release, ∀ request outcome, Event.exchange request outcome ∈ trail →
      (Answers.mk create commit release).reply request = outcome := by
  cases h with
  | bodyRaised e self release =>
    refine ⟨unsent, release, ?_⟩
    intro request outcome hmem
    cases List.mem_singleton.mp hmem
    rfl
  | aborted release haborted =>
    refine ⟨unsent, release, ?_⟩
    intro request outcome hmem
    cases List.mem_singleton.mp hmem
    rfl
  | @settled self body commit haborted hbody hverdict =>
    refine ⟨commit, unsent, ?_⟩
    intro request outcome hmem
    cases List.mem_singleton.mp hmem
    rfl
  | @raised self body commit e haborted hbody hverdict =>
    refine ⟨commit, unsent, ?_⟩
    intro request outcome hmem
    cases List.mem_singleton.mp hmem
    rfl
  | @rejected self body commit errorCode requestId release haborted hbody hverdict =>
    refine ⟨commit, release, ?_⟩
    intro request outcome hmem
    rcases List.mem_cons.mp hmem with hmem | hmem
    · cases hmem
      rfl
    · cases List.mem_singleton.mp hmem
      rfl

/-- The answers a complete run got, and arbitrary ones for the POSTs it did not
    send. -/
theorem answers_of_course {result : GuardResult} {trail : List GuardEvent}
    (h : Course py clock flavour args body result trail) (unsent : Outcome) :
    ∃ answers : Answers, ∀ request outcome, Event.exchange request outcome ∈ trail →
      answers.reply request = outcome := by
  cases h with
  | unsent hrequest => exact ⟨⟨unsent, unsent, unsent⟩, fun _ _ hmem => nomatch hmem⟩
  | @refused request reserve decision e hrequest hadmission =>
    refine ⟨⟨reserve, unsent, unsent⟩, ?_⟩
    intro request outcome hmem
    cases List.mem_singleton.mp hmem
    rfl
  | @entered request reserve decision reservationId result rest hrequest hadmission hexit =>
    obtain ⟨commit, release, hreply⟩ := answers_of_exitCourse hexit reserve unsent
    refine ⟨⟨reserve, commit, release⟩, ?_⟩
    intro request outcome hmem
    rcases List.mem_cons.mp hmem with hmem | hmem
    · cases hmem
      rfl
    · rcases List.mem_cons.mp hmem with hmem | hmem
      · simp at hmem
      · exact hreply request outcome hmem

theorem guardRun_of_mark {answers : Answers} {reservationId : String}
    (hmark : Event.act (.withBody (some reservationId)) ∈
      (guardRun py clock flavour args body answers).2) :
    ∃ request decision rest, args.reservationBody py = .ok request ∧
      admission args answers.create = .admitted decision reservationId ∧
      (guardRun py clock flavour args body answers).2 =
        .exchange (.createReservation request) answers.create ::
          .act (.withBody (some reservationId)) :: rest ∧
      (∀ q outcome, Event.exchange q outcome ∈ rest → outcome = answers.reply q) ∧
      ExitCourse py clock flavour decision reservationId
        (body.apply py (GuardState.entered args decision reservationId))
        (guardRun py clock flavour args body answers).1 rest := by
  obtain ⟨request, reserve, decision, _, rest, hheld, hrequest, hadmission, htrail, hexit⟩ :=
    (guardRun_course answers).of_mark hmark
  cases hheld
  have hreply : ∀ q outcome, Event.exchange q outcome ∈
      (guardRun py clock flavour args body answers).2 → outcome = answers.reply q :=
    fun _ _ => guardRun_reply
  rw [htrail] at hreply ⊢
  obtain rfl : reserve = answers.create := hreply _ _ (List.mem_cons_self ..)
  refine ⟨request, decision, rest, hrequest, hadmission, rfl, ?_, hexit⟩
  intro q outcome hmem
  exact hreply q outcome (List.mem_cons_of_mem _ (List.mem_cons_of_mem _ hmem))

/-- **Three answers are all a client can do to a guard**: every complete run,
    against whatever client, is the run against some `Answers`. -/
theorem exists_answers {result : GuardResult} {trail : List GuardEvent}
    (h : Program.Path (withStatement py clock flavour body (GuardState.init args)) trail
      (.done result)) :
    ∃ answers, guardRun py clock flavour args body answers = (result, trail) := by
  obtain ⟨answers, hreply⟩ := answers_of_course (path_iff_course.mp h)
    (.raised ⟨.exception, "", ""⟩)
  exact ⟨answers, Program.run_of_path h hreply⟩

end Runs

end CyclesAP2
