import CyclesAP2.Agreement
import CyclesAP2.Probes

/-!
# Recovering from a lost reply

A guard whose reserve or commit was applied, but whose reply was lost, leaves behind
a record.  Once messages arrive again, a retry picks it up: it starts its body under
the reservation on record exactly if it says the same as the first attempt
(`retry_enters_iff`), and if it settles the same it ends committed, with a receipt,
although the server charges nothing again (`retry_recovers`).
-/

namespace CyclesAP2

open Interaction

variable {ι σ : Type} [DecidableEq ι]

/-! ### What a first attempt leaves behind -/

/-- A grant is an admission, unless the guard only probes. -/
theorem admission_of_granted {args : GuardArgs} {reserve : Outcome} {reservationId : String}
    (h : reserve.granted = some reservationId) (hdry : args.dryRun = false) :
    ∃ decision, admission args reserve = .admitted decision reservationId := by
  rcases reserve with response | exc
  · dsimp only [Outcome.granted] at h
    rcases hsuccess : response.isSuccess with _ | _
    · simp [hsuccess] at h
    rcases hresult : response.createResult with exc | result
    · simp [hsuccess, hresult] at h
    rcases hdenied : result.isDenied with _ | _
    · simp only [hsuccess, hresult, hdenied, if_true, Bool.false_eq_true, if_false] at h
      exact ⟨result.decision, by simp [admission, admissionOfResult, hsuccess, hresult, hdenied,
        hdry, h]⟩
    · simp [hsuccess, hresult, hdenied] at h
  · cases h

theorem idempotencyKey_of_sameLock {py : Python} {m m' : AP2Mandate} (h : SameLock py m m')
    (phase : KeyPhase) (suffix : Option String) :
    idempotencyKey py m phase suffix = idempotencyKey py m' phase suffix := by
  rw [idempotencyKey_eq_keyBase, idempotencyKey_eq_keyBase, keyBase, keyBase, h.1, h.2]

theorem SamePayload.sameLock {py : Python} {args args' : GuardArgs}
    (h : SamePayload py args args') : SameLock py args.mandate args'.mandate :=
  reserveBucket_eq_iff.mp (congrArg (Prod.mk KeyPhase.reserve) h.key)

/-- A guard that says the same builds an equal reserve. -/
theorem SamePayload.reservationBody {py : Python} {args args' : GuardArgs}
    {request : ReservationBody} (h : SamePayload py args args')
    (hrequest : args.reservationBody py = .ok request) :
    args'.reservationBody py = .ok request := by
  have hmicros := amountMicros_of_reservationBody hrequest
  rw [h.amount] at hmicros
  obtain ⟨request', hrequest'⟩ := reservationBody_of_amountMicros hmicros
  rw [hrequest', (reservationBody_eq_iff hrequest hrequest').mpr h]

/-- How a guard came to send its commit. -/
theorem Party.commit_cases {py : Python} {party : Party} {trail : List GuardEvent}
    {p : GuardProgram} (h : Program.Path (party.program py) trail p) {id : String}
    {commitBody : CommitBody}
    (hcommit : Request.commitReservation id commitBody ∈ requests trail) :
    ∃ request reserve decision self, party.args.reservationBody py = .ok request ∧
      admission party.args reserve = .admitted decision id ∧
      Event.exchange (.createReservation request) reserve ∈ trail ∧
      Event.act (.withBody (some id)) ∈ trail ∧
      party.body.apply py (GuardState.entered party.args decision id) = (.ok (), self) ∧
      self.abortedReason = none ∧
      buildCommitBody py self.args.mandate self.actualMicros
        (truthyFields (some self.commitMetadata)) = .ok commitBody := by
  rcases trail_cases h with rfl | ⟨request, reserve, _, rfl⟩ |
    ⟨request, reserve, decision, reservationId, result, rest, exit, hrequest, hadmission, rfl,
      hbefore, hexit⟩
  · cases hcommit
  · simp [requests, Event.request?] at hcommit
  · have hlater : Request.commitReservation id commitBody ∈ requests exit := by
      rcases List.mem_cons.mp hcommit with heq | hlater
      · cases heq
      · exact (hbefore.filterMap Event.request?).subset hlater
    obtain rfl : reservationId = id :=
      Option.some.inj (hexit.requests_spec.2.1 _ hlater).symm
    have hsent := List.mem_cons_self (a := Event.exchange (.createReservation request) reserve)
      (l := Event.act (Mark.withBody (some reservationId)) :: rest)
    generalize hleft : party.body.apply py (GuardState.entered party.args decision reservationId) =
      left at hexit
    refine ⟨request, reserve, decision, left.2, hrequest, hadmission, hsent, .tail _ (.head _), ?_⟩
    rcases hexit with ⟨e, self, release⟩ | ⟨release, haborted⟩ | ⟨haborted, hbody, hverdict⟩ |
      ⟨haborted, hbody, hverdict⟩ | ⟨release, haborted, hbody, hverdict⟩
    · simp [requests, Event.request?, releaseRequest] at hlater
    · simp [requests, Event.request?, releaseRequest] at hlater
    · obtain ⟨_, rfl⟩ := Request.commitReservation.inj (List.mem_singleton.mp hlater)
      exact ⟨hleft, haborted, hbody⟩
    · obtain ⟨_, rfl⟩ := Request.commitReservation.inj (List.mem_singleton.mp hlater)
      exact ⟨hleft, haborted, hbody⟩
    · rcases List.mem_pair.mp hlater with heq | heq
      · obtain ⟨_, rfl⟩ := Request.commitReservation.inj heq
        exact ⟨hleft, haborted, hbody⟩
      · cases heq

/-! ### The retry -/

theorem Policy.serves (policy : Policy σ) (l : ServerState σ) (request : Request) :
    (cyclesServer σ).Serves l request (policy.handle l request).1 (policy.handle l request).2 :=
  Protocol.handle_serves policy.applies policy.mismatch

theorem Policy.loseReply (policy : Policy σ) {lost : Outcome} (hlost : Unheard lost)
    (s : GuardNetwork ι σ) (i : ι) : Onward s (s.loseReplyAt policy.handle lost i) :=
  Network.loseReplyAt_reachable policy.serves hlost s i

theorem Policy.lossless (policy : Policy σ) (s : GuardNetwork ι σ) (schedule : List ι) :
    Network.Lossless (cyclesServer σ) s (s.play policy.handle schedule) :=
  Network.play_reachable policy.serves schedule s

section Retry

variable {py : Python} {parties : ι → Party} {balances : σ} {s s' : GuardNetwork ι σ}

/-- A retry whose reserve is on record with a grant starts its body under it. -/
theorem Running.retry_entered (h : Running py parties balances s)
    (honward : Network.Lossless (cyclesServer σ) s s') {j : ι} {request : ReservationBody}
    {reserve : Outcome} {reservationId : String}
    (hrequest : (parties j).args.reservationBody py = .ok request)
    (hrecorded : s.server.recorded (Request.createReservation request).bucket =
      some (.createReservation request, reserve))
    (hgranted : reserve.granted = some reservationId) (hdry : (parties j).args.dryRun = false)
    (hfresh : s.trails j = []) {result : GuardResult} (hdone : s'.procs j = .done result) :
    ∃ decision rest, admission (parties j).args reserve = .admitted decision reservationId ∧
      s'.trails j = .exchange (.createReservation request) reserve ::
        .act (.withBody (some reservationId)) :: rest ∧
      ExitCourse py (parties j).clock (parties j).flavour decision reservationId
        ((parties j).body.apply py (GuardState.entered (parties j).args decision reservationId))
        result rest := by
  have hrunning := h.onward (honward.onward Unheard)
  have htold : ∀ reserve', Event.exchange (.createReservation request) reserve' ∈ s'.trails j →
      reserve' = reserve := by
    intro reserve' hseen
    rcases honward.answered hrecorded hseen with hold | heq
    · rw [hfresh] at hold
      cases hold
    · exact heq
  obtain ⟨decision, hadmission⟩ := admission_of_granted hgranted hdry
  have hcourse := hrunning.course hdone
  generalize s'.trails j = trail at hcourse htold
  rcases hcourse with ⟨hfailed⟩ | ⟨hsent, hrefused⟩ | ⟨hsent, hadmitted, hexit⟩
  · cases hfailed.symm.trans hrequest
  · cases hsent.symm.trans hrequest
    obtain rfl := htold _ (.head _)
    cases hrefused.symm.trans hadmission
  · cases hsent.symm.trans hrequest
    obtain rfl := htold _ (.head _)
    obtain ⟨rfl, rfl⟩ := admission_unique hadmission hadmitted
    exact ⟨_, _, hadmitted, rfl, hexit⟩

/-- **Which retries run**: once nothing gets lost any more, exactly those that say the
    same in their reserve as the attempt whose reservation is on record, and they run
    under that reservation. -/
theorem retry_enters_iff (h : Running py parties balances s)
    (honward : Network.Lossless (cyclesServer σ) s s') {i j : ι}
    (hsame : SameConsumeOnce (parties i).args.mandate (parties j).args.mandate)
    {request : ReservationBody} {reserve : Outcome} {reservationId : String}
    (hrequest : (parties i).args.reservationBody py = .ok request)
    (hrecorded : s.server.recorded (Request.createReservation request).bucket =
      some (.createReservation request, reserve))
    (hgranted : reserve.granted = some reservationId) (hdry : (parties j).args.dryRun = false)
    (hfresh : s.trails j = []) {result : GuardResult} (hdone : s'.procs j = .done result) :
    (∀ held, Event.act (.withBody held) ∈ s'.trails j → held = some reservationId) ∧
      (Event.act (.withBody (some reservationId)) ∈ s'.trails j ↔
        SamePayload py (parties i).args (parties j).args) := by
  have hrunning := h.onward (honward.onward Unheard)
  have hconsistent := hrunning.invariant.1
  have hheld : (⟨reservationId, request⟩ : Reservation) ∈ s'.server.world.reservations :=
    hconsistent.granted request reserve reservationId
      (Network.recorded_mono honward hrecorded) hgranted
  have hentered : ∀ held, Event.act (.withBody held) ∈ s'.trails j →
      held = some reservationId ∧ (parties j).args.reservationBody py = .ok request := by
    intro held hmark
    obtain ⟨reservation, hmem, rfl, hbody, _⟩ := hrunning.entered hmark
    obtain rfl := hconsistent.eq_of_key hheld hmem (by
      rw [key_of_reservationBody hrequest, key_of_reservationBody hbody,
        idempotencyKey_congr py hsame])
    exact ⟨rfl, hbody⟩
  refine ⟨fun held hmark => (hentered held hmark).1, ?_⟩
  constructor
  · intro hmark
    exact (reservationBody_eq_iff hrequest (hentered _ hmark).2).mp rfl
  · intro hpayload
    obtain ⟨decision, rest, _, htrail, _⟩ := h.retry_entered honward
      (hpayload.reservationBody hrequest) hrecorded hgranted hdry hfresh hdone
    rw [htrail]
    exact .tail _ (.head _)

/-! ### The settlement of a retry -/

/-- A guard sends its reserve, which is answered; from then on it is on record. -/
theorem retry_enters_iff_sample :
    let s := Policy.sample.play .sample retries (.empty ()) [false]
    let s' := s.play Policy.sample.handle [true, true, true]
    (∀ held, Event.act (.withBody held) ∈ s'.trails true → held = some "res") ∧
      (Event.act (.withBody (some "res")) ∈ s'.trails true ↔
        SamePayload .sample (retries false).args (retries true).args) := by
  intro s s'
  have hrunning : Running .sample retries () s := Policy.sample.running ..
  exact retry_enters_iff (i := false) (j := true) hrunning (Policy.sample.lossless s _)
    (Or.inr ⟨rfl, rfl, rfl⟩) rfl rfl rfl rfl rfl rfl

/-- The body of a retry completes without an abort, and settles what the body of the
    first attempt would have settled. -/
structure SettlesAlike (py : Python) (body retried : Body) : Prop where
  complete : retried.exception py = none
  noAbort : retried.lastAborting = none
  accepted : retried.lastAccepted = body.lastAccepted
  attached : ∀ key, retried.lastAttached key = body.lastAttached key

/-- Two guards that say the same, and whose bodies settle the same, build equal
    commits. -/
theorem SettlesAlike.commitBody {args args' : GuardArgs} {body retried : Body}
    (h : SettlesAlike py body retried) (hpayload : SamePayload py args args')
    {decision : Decision} {reservationId : String} {self : GuardState} {commitBody : CommitBody}
    (hleft : body.apply py (GuardState.entered args decision reservationId) = (.ok (), self))
    (hcommitBody : buildCommitBody py self.args.mandate self.actualMicros
      (truthyFields (some self.commitMetadata)) = .ok commitBody) :
    ∃ self', retried.apply py (GuardState.entered args' decision reservationId) = (.ok (), self') ∧
      self'.abortedReason = none ∧
      buildCommitBody py self'.args.mandate self'.actualMicros
        (truthyFields (some self'.commitMetadata)) = .ok commitBody := by
  have hleft' := Body.apply_of_complete h.complete (GuardState.entered args' decision reservationId)
  refine ⟨_, hleft', ?_⟩
  generalize retried.calls.foldl BodyCall.apply (GuardState.entered args' decision reservationId) =
    self' at hleft' ⊢
  obtain ⟨_, hargs, hactual, _⟩ := Body.entered_of_complete hleft
  obtain ⟨_, hargs', hactual', haborted'⟩ := Body.entered_of_complete hleft'
  have hmetadata : self'.commitMetadata = self.commitMetadata := by
    refine Finmap.ext_lookup ?_
    intro key
    rw [Body.commitMetadata_of_complete hleft', h.attached, Body.commitMetadata_of_complete hleft]
  refine ⟨haborted'.trans h.noAbort, ?_⟩
  obtain ⟨amount, hamount, hcommit⟩ := buildCommitBody_ok_iff.mp hcommitBody
  refine buildCommitBody_ok_iff.mpr ⟨amount, ?_, ?_⟩
  · rw [hargs', hactual', h.accepted, ← hactual, ← hpayload.amount, ← hargs]
    exact hamount
  · rw [hcommit, hmetadata, hargs, hargs', idempotencyKey_of_sameLock hpayload.sameLock]

/-- **A retry recovers a settlement whose reply was lost**: it ends committed, under
    the reservation and with the commit that are on record. -/
theorem retry_recovers (h : Running py parties balances s)
    (honward : Network.Lossless (cyclesServer σ) s s') {i j : ι}
    (hpayload : SamePayload py (parties i).args (parties j).args)
    (halike : SettlesAlike py (parties i).body (parties j).body)
    {reservationId : String} {commitBody : CommitBody} {commit : Outcome}
    (hsent : Request.commitReservation reservationId commitBody ∈ requests (s.trails i))
    (hrecorded : s.server.recorded (Request.commitReservation reservationId commitBody).bucket =
      some (.commitReservation reservationId commitBody, commit))
    (hsucceeded : commit.succeeded = true) (hfresh : s.trails j = []) {result : GuardResult}
    (hdone : s'.procs j = .done result) :
    ∃ run : SettledRun py (parties j).args (parties j).body,
      s'.trails j = run.trail ∧ result = (.ok (), run.final (parties j).clock) ∧
        run.reservationId = reservationId ∧ run.commitBody = commitBody ∧ run.commit = commit := by
  obtain ⟨request, reserve, decision, self, hrequest, hadmission, hreserved, _, hleft, _,
    hcommitBody⟩ := Party.commit_cases (h.path i) hsent
  obtain ⟨hreserveSucceeded, hgranted⟩ := granted_of_admission hadmission
  have hdry : (parties j).args.dryRun = false := by
    obtain ⟨_, _, _, _, _, _, _, hdry, _⟩ := admission_eq_admitted_iff.mp hadmission
    exact hpayload.dryRun.symm.trans hdry
  have hreserveRecorded : s.server.recorded (Request.createReservation request).bucket =
      some (.createReservation request, reserve) :=
    (h.invariant.2 i _ _ hreserved rfl).resolve_left (by simp [hreserveSucceeded])
  have hrequest' := hpayload.reservationBody hrequest
  obtain ⟨decision', rest, hadmission', htrail, hexit⟩ :=
    h.retry_entered honward hrequest' hreserveRecorded hgranted hdry hfresh hdone
  obtain ⟨rfl, _⟩ := admission_unique hadmission hadmission'
  obtain ⟨self', hleft', haborted', hcommitBody'⟩ := halike.commitBody hpayload hleft hcommitBody
  have htold : ∀ commit', Event.exchange (.commitReservation reservationId commitBody) commit' ∈
      rest → commit' = commit := by
    intro commit' hseen
    have hseen' := List.mem_cons_of_mem (Event.exchange (.createReservation request) reserve)
      (List.mem_cons_of_mem (Event.act (Mark.withBody (some reservationId))) hseen)
    rw [← htrail] at hseen'
    rcases honward.answered hrecorded hseen' with hold | heq
    · rw [hfresh] at hold
      cases hold
    · exact heq
  have hsettled : ∀ outcome, commitVerdict (parties j).flavour
      self'.args.mandate.transactionId.val reservationId outcome ≠ .settled → outcome ≠ commit := by
    rintro outcome hverdict rfl
    exact hverdict (commitVerdict_settled_iff.mpr hsucceeded)
  rw [hleft'] at hexit
  rcases hexit with _ | ⟨release, haborted⟩ | ⟨haborted, hbody, hverdict⟩ |
    ⟨haborted, hbody, hverdict⟩ | ⟨release, haborted, hbody, hverdict⟩
  · cases haborted'.symm.trans haborted
  · cases hbody.symm.trans hcommitBody'
    obtain rfl := htold _ (.head _)
    exact ⟨⟨request, reserve, decision, reservationId, self', commitBody, _, hrequest',
      hadmission', hleft', haborted, hbody, hsucceeded⟩, htrail, rfl, rfl, rfl, rfl⟩
  · cases hbody.symm.trans hcommitBody'
    exact absurd (htold _ (.head _)) (hsettled _ (by simp [hverdict]))
  · cases hbody.symm.trans hcommitBody'
    exact absurd (htold _ (.head _)) (hsettled _ (by simp [hverdict]))

end Retry

/-- The commit of a first attempt is applied, and its reply lost; the retry ends
    committed. -/
theorem retry_recovers_lostCommit :
    let sent := Policy.sample.play .sample retries (.empty ()) [false, false]
    let s := sent.loseReplyAt Policy.sample.handle (.returned .lost) false
    let s' := s.play Policy.sample.handle [true, true, true]
    ∃ result, s'.procs true = .done result ∧
      ∃ run : SettledRun .sample (retries true).args (retries true).body,
        s'.trails true = run.trail ∧ result = (.ok (), run.final (retries true).clock) ∧
          run.reservationId = "res" := by
  intro sent s s'
  have hsent : Running .sample retries () sent := Policy.sample.running ..
  have hlost : Unheard (.returned .lost) := rfl
  have hrunning : Running .sample retries () s :=
    hsent.onward (Policy.sample.loseReply hlost sent false)
  have honward : Network.Lossless (cyclesServer Unit) s s' := Policy.sample.lossless s _
  obtain ⟨run, htrail, hresult, hid, _⟩ :=
    retry_recovers (i := false) (j := true) hrunning honward (.refl ..)
      ⟨rfl, rfl, rfl, fun _ => rfl⟩ (mem_requests_iff.mpr ⟨_, .tail _ (.tail _ (.head _))⟩)
      rfl rfl rfl rfl
  exact ⟨_, rfl, run, htrail, hresult, hid⟩

end CyclesAP2
