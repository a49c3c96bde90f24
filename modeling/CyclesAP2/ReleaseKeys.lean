import CyclesAP2.PostCommit
import CyclesAP2.Keys

/-!
# Release keys

The key of a release ends in a marker of what caused it: the name of the exception
class, or one of the two names set aside for an abort and for a rejected commit.
The marker is made header-safe and cut, so two causes have one key exactly when
they agree in what is left of their markers; the reason of the release takes no
part in the key.
-/

namespace CyclesAP2

open Interaction

inductive ReleaseCause where
  | bodyRaised (className : String)
  | aborted (reason : String)
  | commitRejected (errorCode : Option String)
deriving DecidableEq

/-- What distinguishes the release keys of one mandate. -/
def ReleaseCause.marker : ReleaseCause → String
  | .bodyRaised className => className
  | .aborted _ => "Aborted"
  | .commitRejected _ => "CommitRejected"

def ReleaseCause.reason : ReleaseCause → String
  | .bodyRaised className => s!"ap2_guard_failed:{className}"
  | .aborted reason => CyclesAP2.abortedReason reason
  | .commitRejected errorCode => rejectedReason errorCode

def ReleaseCause.releaseBody (py : Python) (mandate : AP2Mandate) (cause : ReleaseCause) :
    ReleaseBody :=
  buildReleaseBody py mandate cause.reason (some cause.marker)

/-- Why a guard with this body and this reply to its commit releases. -/
inductive Body.ReleasedFor (py : Python) (body : Body) (commit : Outcome) : ReleaseCause → Prop where
  | bodyRaised {e : PyExc} (hexception : body.exception py = some e) :
      ReleasedFor py body commit (.bodyRaised e.typeName)
  | aborted {reason : String} (hcomplete : body.exception py = none)
      (haborting : body.lastAborting = some reason) :
      ReleasedFor py body commit (.aborted reason)
  | commitRejected {response : CyclesResponse} (hcomplete : body.exception py = none)
      (hnoabort : body.lastAborting = none) (hcommit : commit = .returned response)
      (hrejects : commit.rejectsCommit = true) :
      ReleasedFor py body commit (.commitRejected response.errorCode)

/-! ### The cause of a release -/

section Runs

variable {py : Python} {clock : Int} {flavour : Flavour} {args : GuardArgs} {body : Body}
  {decision : Decision} {reservationId : String} {result : GuardResult} {trail : List GuardEvent}

theorem commitVerdict_rejected_errorCode {transactionId : String} {commit : Outcome}
    {errorCode requestId : Option String}
    (h : commitVerdict flavour transactionId reservationId commit = .rejected errorCode requestId) :
    ∃ response, commit = .returned response ∧ response.errorCode = errorCode := by
  rcases commit with response | exc
  · refine ⟨response, rfl, ?_⟩
    dsimp only [commitVerdict] at h
    split at h
    · simp at h
    · rcases herror : response.getErrorResponse with exc | error
      · simp [herror] at h
      · simp only [herror] at h
        rw [CyclesResponse.errorCode_of_ok herror]
        split at h
        · simp at h
        · split at h
          · simp at h
          · cases h
            rfl
  · cases h

theorem ExitCourse.release_cause {answers : Answers}
    (h : ExitCourse py clock flavour decision reservationId
      (body.apply py (GuardState.entered args decision reservationId)) result trail)
    (hreply : ∀ request outcome, Event.exchange request outcome ∈ trail →
      outcome = answers.reply request)
    {id : String} {release : ReleaseBody} {outcome : Outcome}
    (hsent : Event.exchange (.releaseReservation id release) outcome ∈ trail) :
    ∃ cause, body.ReleasedFor py answers.commit cause ∧
      release = cause.releaseBody py args.mandate := by
  have hframe := body.apply_frame py (GuardState.entered args decision reservationId)
  generalize hleft : body.apply py (GuardState.entered args decision reservationId) = left
    at h hframe
  cases h with
  | bodyRaised e self release =>
    cases List.mem_singleton.mp hsent
    have hargs : self.args = args := hframe.args
    exact ⟨_, .bodyRaised (Body.exception_of_apply hleft), by rw [← hargs]; rfl⟩
  | @aborted self reason release haborted =>
    cases List.mem_singleton.mp hsent
    obtain ⟨hcomplete, hargs, _, haborting⟩ := Body.entered_of_complete hleft
    exact ⟨_, .aborted hcomplete (haborting.symm.trans haborted), by rw [← hargs]; rfl⟩
  | settled haborted hbody hverdict => simp at hsent
  | raised haborted hbody hverdict => simp at hsent
  | @rejected self commitBody commit errorCode requestId release haborted hbody hverdict =>
    obtain rfl : commit = answers.commit := hreply _ _ (List.mem_cons_self ..)
    have hrejects := commitVerdict_rejected_iff.mp ⟨_, _, hverdict⟩
    obtain ⟨response, hresponse, rfl⟩ := commitVerdict_rejected_errorCode hverdict
    obtain ⟨hcomplete, hargs, _, haborting⟩ := Body.entered_of_complete hleft
    simp only [List.mem_cons, List.not_mem_nil, or_false] at hsent
    rcases hsent with hsent | hsent
    · simp at hsent
    · cases hsent
      exact ⟨_, .commitRejected hcomplete (haborting.symm.trans haborted) hresponse hrejects,
        by rw [← hargs]; rfl⟩

/-- **Every release has a cause**, and its body is made from it. -/
theorem Course.release_cause {answers : Answers}
    (h : Course py clock flavour args body result trail)
    (hreply : ∀ request outcome, Event.exchange request outcome ∈ trail →
      outcome = answers.reply request)
    {id : String} {release : ReleaseBody} {outcome : Outcome}
    (hsent : Event.exchange (.releaseReservation id release) outcome ∈ trail) :
    ∃ cause, body.ReleasedFor py answers.commit cause ∧
      release = cause.releaseBody py args.mandate := by
  obtain ⟨request, reserve, decision, reservationId, rest, rfl, hsent, hexit⟩ :=
    h.of_target hsent rfl
  refine hexit.release_cause ?_ hsent
  intro request outcome hmem
  exact hreply request outcome (List.mem_cons_of_mem _ (List.mem_cons_of_mem _ hmem))

end Runs

/-! ### Markers in keys -/

/-- A name that stands in a key as it is: not empty, of at most 64 characters, and
    header-safe. -/
def HeaderSafe (name : String) : Prop :=
  name ≠ "" ∧ name.length ≤ 64 ∧ ∀ c ∈ name.toList, isSafeChar c = true

instance (name : String) : Decidable (HeaderSafe name) :=
  decidable_of_iff (name ≠ "" ∧ name.length ≤ 64 ∧ name.toList.all isSafeChar = true)
    (and_congr_right' (and_congr_right' List.all_eq_true))

theorem safeSuffix_of_safe {name : String} (h : ∀ c ∈ name.toList, isSafeChar c = true) :
    safeSuffix name = name := by
  have hmap : name.toList.map (fun c => if isSafeChar c then c else '_') = name.toList.map id :=
    List.map_congr_left fun c hc => if_pos (h c hc)
  unfold safeSuffix
  rw [hmap, List.map_id, String.ofList_toList]

theorem keySuffix_of_headerSafe {name : String} (h : HeaderSafe name) :
    keySuffix (some name) = some name := by
  obtain ⟨hne, hlength, hsafe⟩ := h
  have htruthy : truthyText (some name) = some name := by
    simp [truthyText, hne]
  have hslice : slice name 64 = name := by
    rw [← String.toList_inj, toList_slice, List.take_of_length_le]
    rwa [String.length_toList]
  rw [keySuffix, htruthy, Option.map_some, safeSuffix_of_safe hsafe, hslice]

/-! ### Causes that keys tell apart -/

/-- The class name of an exception stands in the key as it is, and is none of the
    names set aside. -/
def ReleaseCause.Plain : ReleaseCause → Prop
  | .bodyRaised className =>
    HeaderSafe className ∧ className ≠ "Aborted" ∧ className ≠ "CommitRejected"
  | .aborted _ => True
  | .commitRejected _ => True

/-- The same kind of cause, and for an exception the same class name. -/
def ReleaseCause.SameKind : ReleaseCause → ReleaseCause → Prop
  | .bodyRaised className, .bodyRaised className' => className = className'
  | .aborted _, .aborted _ => True
  | .commitRejected _, .commitRejected _ => True
  | _, _ => False

theorem ReleaseCause.Plain.keySuffix {cause : ReleaseCause} (h : cause.Plain) :
    keySuffix (some cause.marker) = some cause.marker := by
  cases cause with
  | bodyRaised className => exact keySuffix_of_headerSafe h.1
  | aborted reason =>
    have hsafe : HeaderSafe "Aborted" := by decide
    exact keySuffix_of_headerSafe hsafe
  | commitRejected errorCode =>
    have hsafe : HeaderSafe "CommitRejected" := by decide
    exact keySuffix_of_headerSafe hsafe

theorem ReleaseCause.Plain.sameKind_of_marker {cause cause' : ReleaseCause} (h : cause.Plain)
    (h' : cause'.Plain) (hmarker : cause.marker = cause'.marker) : cause.SameKind cause' := by
  have hne : "Aborted" ≠ "CommitRejected" := by decide
  cases cause with
  | bodyRaised className =>
    cases cause' with
    | bodyRaised className' => exact hmarker
    | aborted reason => exact h.2.1 hmarker
    | commitRejected errorCode => exact h.2.2 hmarker
  | aborted reason =>
    cases cause' with
    | bodyRaised className' => exact h'.2.1 hmarker.symm
    | aborted reason' => trivial
    | commitRejected errorCode => exact hne hmarker
  | commitRejected errorCode =>
    cases cause' with
    | bodyRaised className' => exact h'.2.2 hmarker.symm
    | aborted reason => exact hne hmarker.symm
    | commitRejected errorCode' => trivial

/-- Two releases under one consume-once input.  Their keys agree when their markers
    do, as far as a key shows them, and the releases when moreover the reasons do, up
    to their first 256 characters.  So where class names are plain, causes of
    different kinds or classes have different keys, and two exceptions with one key
    send one release. -/
structure ReleasesApart (cause cause' : ReleaseCause) (release release' : ReleaseBody) : Prop where
  keys : release.idempotencyKey = release'.idempotencyKey ↔
    keySuffix (some cause.marker) = keySuffix (some cause'.marker)
  bodies : release = release' ↔ release.idempotencyKey = release'.idempotencyKey ∧
    slice cause.reason 256 = slice cause'.reason 256
  apart : cause.Plain → cause'.Plain → ¬cause.SameKind cause' →
    release.idempotencyKey ≠ release'.idempotencyKey
  replayed : ∀ className className', cause = .bodyRaised className →
    cause' = .bodyRaised className' → cause.Plain → cause'.Plain →
      release.idempotencyKey = release'.idempotencyKey → release = release'

theorem ReleaseBody.ext_iff {release release' : ReleaseBody} :
    release = release' ↔ release.idempotencyKey = release'.idempotencyKey ∧
      release.reason = release'.reason := by
  cases release
  cases release'
  simp

theorem releasesApart_of_same {py : Python} {m m' : AP2Mandate} (hsame : SameConsumeOnce m m')
    (cause cause' : ReleaseCause) :
    ReleasesApart cause cause' (cause.releaseBody py m) (cause'.releaseBody py m') := by
  have hkeys : (cause.releaseBody py m).idempotencyKey =
      (cause'.releaseBody py m').idempotencyKey ↔
        keySuffix (some cause.marker) = keySuffix (some cause'.marker) :=
    idempotencyKey_eq_iff_keySuffix hsame .release _ _
  have hsameKind : cause.Plain → cause'.Plain →
      (cause.releaseBody py m).idempotencyKey = (cause'.releaseBody py m').idempotencyKey →
        cause.SameKind cause' := by
    intro hplain hplain' hkey
    have hsuffix := hkeys.mp hkey
    rw [hplain.keySuffix, hplain'.keySuffix] at hsuffix
    exact hplain.sameKind_of_marker hplain' (Option.some.inj hsuffix)
  refine ⟨hkeys, ReleaseBody.ext_iff, ?_, ?_⟩
  · intro hplain hplain' hdifferent hkey
    exact hdifferent (hsameKind hplain hplain' hkey)
  · rintro className className' rfl rfl hplain hplain' hkey
    obtain rfl : className = className' := hsameKind hplain hplain' hkey
    exact ReleaseBody.ext_iff.mpr ⟨hkey, rfl⟩

/-- **Release keys tell causes apart by their markers**: in any two runs of guards over
    mandates with one consume-once input. -/
theorem guardRun_releases_apart (py : Python) (clock clock' : Int) (flavour flavour' : Flavour)
    (args args' : GuardArgs) (body body' : Body) (answers answers' : Answers)
    (hsame : SameConsumeOnce args.mandate args'.mandate)
    (id id' : String) (release release' : ReleaseBody) (outcome outcome' : Outcome)
    (hsent : Event.exchange (.releaseReservation id release) outcome ∈
      (guardRun py clock flavour args body answers).2)
    (hsent' : Event.exchange (.releaseReservation id' release') outcome' ∈
      (guardRun py clock' flavour' args' body' answers').2) :
    ∃ cause cause', body.ReleasedFor py answers.commit cause ∧
      body'.ReleasedFor py answers'.commit cause' ∧
      release = cause.releaseBody py args.mandate ∧
      release' = cause'.releaseBody py args'.mandate ∧
      ReleasesApart cause cause' release release' := by
  obtain ⟨cause, hcause, rfl⟩ :=
    (guardRun_course answers).release_cause (fun _ _ => guardRun_reply) hsent
  obtain ⟨cause', hcause', rfl⟩ :=
    (guardRun_course answers').release_cause (fun _ _ => guardRun_reply) hsent'
  exact ⟨cause, cause', hcause, hcause', rfl, rfl, releasesApart_of_same hsame cause cause'⟩

/-- A body left by an exception of this class. -/
def Body.raising (className : String) : Body :=
  ⟨[], some (.foreign ⟨.exception, className, ""⟩)⟩

theorem guardRun_releases_apart_sample :
    ∃ release release' cause cause',
      Body.ReleasedFor .sample (.raising "ValueError") Answers.sample.commit cause ∧
      Body.ReleasedFor .sample ⟨[.abort "price changed"], none⟩ Answers.sample.commit cause' ∧
      release = cause.releaseBody .sample .sample ∧ release' = cause'.releaseBody .sample .sample ∧
      ReleasesApart cause cause' release release' := by
  have h := guardRun_releases_apart .sample 0 0 .sync .async .sample .sample (.raising "ValueError")
    ⟨[.abort "price changed"], none⟩ .sample .sample (Or.inr ⟨rfl, rfl, rfl⟩) "res-1" "res-1" _ _
    _ _ (.tail _ (.tail _ (.head _))) (.tail _ (.tail _ (.head _)))
  exact ⟨_, _, h⟩

/-- A name is made header-safe, so two classes share a key; and two aborts share one
    whatever their reasons, with different releases. -/
theorem guardRun_releases_collide :
    (∃ release release' outcome outcome',
      Event.exchange (.releaseReservation "res-1" release) outcome ∈
        (guardRun .sample 0 .sync .sample (.raising "Échec") .sample).2 ∧
      Event.exchange (.releaseReservation "res-1" release') outcome' ∈
        (guardRun .sample 0 .sync .sample (.raising "_chec") .sample).2 ∧
      release.idempotencyKey = release'.idempotencyKey ∧ release ≠ release') ∧
    ∃ release release' outcome outcome',
      Event.exchange (.releaseReservation "res-1" release) outcome ∈
        (guardRun .sample 0 .sync .sample ⟨[.abort "price changed"], none⟩ .sample).2 ∧
      Event.exchange (.releaseReservation "res-1" release') outcome' ∈
        (guardRun .sample 0 .sync .sample ⟨[.abort "out of stock"], none⟩ .sample).2 ∧
      release.idempotencyKey = release'.idempotencyKey ∧ release ≠ release' := by
  constructor
  · exact ⟨_, _, _, _, .tail _ (.tail _ (.head _)), .tail _ (.tail _ (.head _)), by decide,
      by decide⟩
  · exact ⟨_, _, _, _, .tail _ (.tail _ (.head _)), .tail _ (.tail _ (.head _)), by decide,
      by decide⟩

end CyclesAP2
