import CyclesAP2.Course

/-!
# The asynchronous guard refines the synchronous one

The two classes are written separately; their programs are compared course by
course.  A verdict depends on the flavour for a cancelled commit only, so a
course without a cancellation is a course of both.
-/

namespace CyclesAP2

open Interaction

theorem commitVerdict_flavour {flavour flavour' : Flavour}
    {transactionId reservationId : String} {commit : Outcome}
    (h : ∀ exc, commit = .raised exc → exc.isCancelled = false) :
    commitVerdict flavour transactionId reservationId commit =
      commitVerdict flavour' transactionId reservationId commit := by
  cases commit with
  | returned response =>
    exact (commitVerdict_returned flavour _ _ _).trans (commitVerdict_returned flavour' _ _ _).symm
  | raised exc =>
    have hcancelled := h exc rfl
    simp [commitVerdict, commitRaised, hcancelled]

section Flavours

variable {py : Python} {clock : Int} {flavour flavour' : Flavour} {args : GuardArgs} {body : Body}
  {result : GuardResult} {trail : List GuardEvent}

theorem ExitCourse.ofFlavour {decision : Decision} {reservationId : String} {left : GuardResult}
    (h : ExitCourse py clock flavour decision reservationId left result trail)
    (hcancel : ∀ request exc, Event.exchange request (Outcome.raised exc) ∈ trail →
      exc.isCancelled = false) :
    ExitCourse py clock flavour' decision reservationId left result trail := by
  cases h with
  | bodyRaised e self release => exact .bodyRaised e self release
  | aborted release haborted => exact .aborted release haborted
  | @settled self body commit haborted hbody hverdict =>
    refine .settled haborted hbody (Eq.trans (commitVerdict_flavour ?_) hverdict)
    intro exc hexc
    subst hexc
    exact hcancel _ _ (List.mem_cons_self ..)
  | @raised self body commit e haborted hbody hverdict =>
    refine .raised haborted hbody (Eq.trans (commitVerdict_flavour ?_) hverdict)
    intro exc hexc
    subst hexc
    exact hcancel _ _ (List.mem_cons_self ..)
  | @rejected self body commit errorCode requestId release haborted hbody hverdict =>
    refine .rejected release haborted hbody
      (Eq.trans (commitVerdict_flavour ?_) hverdict)
    intro exc hexc
    subst hexc
    exact hcancel _ _ (List.mem_cons_self ..)

theorem Course.ofFlavour (h : Course py clock flavour args body result trail)
    (hcancel : ∀ request exc, Event.exchange request (Outcome.raised exc) ∈ trail →
      exc.isCancelled = false) :
    Course py clock flavour' args body result trail := by
  cases h with
  | unsent hrequest => exact .unsent hrequest
  | refused hrequest hadmission => exact .refused hrequest hadmission
  | entered hrequest hadmission hexit =>
    refine .entered hrequest hadmission (hexit.ofFlavour ?_)
    intro request exc hmem
    exact hcancel request exc (List.mem_cons_of_mem _ (List.mem_cons_of_mem _ hmem))

end Flavours

/-- **The async guard refines the sync guard.**  Without a cancellation the two
    classes have the same complete runs: the same POSTs with the same bodies to
    the same reservations in the same order, the same start of the body, the same
    ending with the same exception object, and the same attributes at the end. -/
theorem async_refines_sync (py : Python) (clock : Int) (args : GuardArgs) (body : Body)
    (trail : List GuardEvent) (result : GuardResult)
    (hcancel : ∀ request exc, Event.exchange request (Outcome.raised exc) ∈ trail →
      exc.isCancelled = false) :
    Program.Path (AsyncGuardedPayment.withStatement py clock body (GuardState.init args)) trail
        (.done result) ↔
      Program.Path (GuardedPayment.withStatement py clock body (GuardState.init args)) trail
        (.done result) := by
  have hasync : Program.Path (withStatement py clock .async body (GuardState.init args)) trail
      (.done result) ↔ Course py clock .async args body result trail := path_iff_course
  have hsync : Program.Path (withStatement py clock .sync body (GuardState.init args)) trail
      (.done result) ↔ Course py clock .sync args body result trail := path_iff_course
  constructor
  · intro h
    exact hsync.mpr ((hasync.mp h).ofFlavour hcancel)
  · intro h
    exact hasync.mpr ((hsync.mp h).ofFlavour hcancel)

theorem async_refines_sync_sample :
    Program.Path
      (AsyncGuardedPayment.withStatement .sample 0 ⟨[], none⟩ (GuardState.init .sample))
      (guardRun .sample 0 .sync .sample ⟨[], none⟩ .sample).2
      (.done (guardRun .sample 0 .sync .sample ⟨[], none⟩ .sample).1) := by
  refine (async_refines_sync _ _ _ _ _ _ ?_).mpr (Program.path_run _ _)
  intro request exc hmem
  have hreply := guardRun_reply hmem
  cases request <;> cases hreply

end CyclesAP2
