import CyclesAP2.Register

/-!
# Stranded budget

A reservation that nobody commits or releases holds its budget until it expires.  This
module says what a guard that is done has told its caller, when a reservation that it
asked for is still active (`stranded`).  An exception of the guard's own that leaves the
statement says that the body was not started, or names the reservation and does not call
it released.  A statement that ends normally leaves a reservation behind only if its body
asked for an abort: the reply to the release is then not looked at.
-/

namespace CyclesAP2

open Interaction

/-- An exception that leaves a guard while the reservation is active. -/
def PyExc.Strands (trail : List GuardEvent) (id : String) : PyExc → Prop
  | .guardDenied .. => actions trail = []
  | .guardCommitUncertain _ _ _ held _ => held = some id
  | .guardCommitFailed _ _ _ held released _ => held = some id ∧ released = false
  | .foreign exc => ∃ request outcome, Event.exchange request outcome ∈ trail ∧
      outcome.Raises request.phase exc
  | _ => False

/-- What a guard that is done has seen and said of a reservation that is still active. -/
structure Strands (py : Python) (party : Party) (result : GuardResult) (trail : List GuardEvent)
    (id : String) : Prop where
  unconfirmed : ∀ request outcome, Event.exchange request outcome ∈ trail →
    request.phase ≠ .reserve → request.target = some id ∧ outcome.succeeded = false
  silent : result.1 = .ok () →
    party.body.exception py = none ∧ ∃ reason, party.body.lastAborting = some reason
  told : ∀ e, result.1 = .error e → party.body.exception py = some e ∨ e.Strands trail id

/-! ### The guard -/

section Courses

variable {py : Python} {clock : Int} {flavour : Flavour} {args : GuardArgs} {body : Body}
  {result : GuardResult} {trail : List GuardEvent}

/-- Only a dry run ends with the result of one. -/
theorem dryRun_of_admission {reserve : Outcome} {decision : Option Decision}
    {message shown : String} {reasonCode : Option String} {caps balances : PyValue}
    {scopes : Option (List String)}
    (h : admission args reserve =
      .refused decision (.dryRunResult message shown reasonCode caps balances scopes)) :
    args.dryRun = true := by
  rcases reserve with response | exc
  · dsimp only [admission] at h
    split at h
    · split at h <;> cases h
    · split at h
      · cases h
      · dsimp only [admissionOfResult] at h
        split at h
        · cases h
        · split at h
          · assumption
          · split at h <;> cases h
  · cases h

theorem Course.dryRun_of_result (h : Course py clock flavour args body result trail)
    {message shown : String} {reasonCode : Option String} {caps balances : PyValue}
    {scopes : Option (List String)}
    (hleft : result.1 = .error (.dryRunResult message shown reasonCode caps balances scopes)) :
    body.exception py = some (.dryRunResult message shown reasonCode caps balances scopes) ∨
      args.dryRun = true := by
  have htells := h.tells hleft
  cases h with
  | unsent hrequest =>
    cases hleft
    obtain ⟨_, heq | heq⟩ := GuardArgs.reservationBody_class hrequest <;> cases heq
  | refused hrequest hadmission =>
    cases hleft
    exact Or.inr (dryRun_of_admission hadmission)
  | entered hrequest hadmission hexit =>
    rcases htells with hown | ⟨_, hunstarted⟩
    · exact Or.inl hown
    · cases hunstarted

/-- A statement that ends normally has confirmed its commit, or its body asked for an
    abort. -/
theorem Course.of_ok (h : Course py clock flavour args body result trail)
    (hleft : result.1 = .ok ()) :
    body.exception py = none ∧
      ((∃ reason, body.lastAborting = some reason) ∨ result.2.committed = true) := by
  cases h with
  | unsent hrequest => cases hleft
  | refused hrequest hadmission => cases hleft
  | @entered request reserve decision reservationId result rest hrequest hadmission hexit =>
    generalize hbody : body.apply py (GuardState.entered args decision reservationId) = left
      at hexit
    cases hexit with
    | bodyRaised e self release =>
      obtain ⟨_, _, hraises⟩ := bind_eq_ok_iff.mp hleft
      cases hraises
    | aborted release haborted =>
      obtain ⟨hcomplete, _, _, haborting⟩ := Body.entered_of_complete hbody
      exact ⟨hcomplete, Or.inl ⟨_, haborting.symm.trans haborted⟩⟩
    | settled haborted hcommit hverdict =>
      exact ⟨(Body.entered_of_complete hbody).1, Or.inr (GuardState.settled_committed ..)⟩
    | raised haborted hcommit hverdict => cases hleft
    | rejected release haborted hcommit hverdict =>
      obtain ⟨_, _, hraises⟩ := bind_eq_ok_iff.mp hleft
      cases hraises

end Courses

/-! ### The network -/

section Running

variable {ι τ : Type} [DecidableEq ι] {py : Python} {parties : ι → Party} {rest : τ}
  {s : GuardNetwork ι (Accounts τ)} {i : ι} {held : Reservation}

/-- A dry run makes no reservation. -/
theorem RunningSettling.reserved_real (h : RunningSettling py parties rest s)
    (hmem : held ∈ s.server.world.reservations)
    (hbody : (parties i).args.reservationBody py = .ok held.body) :
    (parties i).args.dryRun = false := by
  have hclaimed : (paymentOf s held.body.idempotencyKey).claim = some held.body := by
    unfold paymentOf Books.payment
    rw [h.running.invariant.1.claimed_eq_some_iff.mpr ⟨hmem, rfl⟩]
    exact Standing.payment_claim _ _
  have hlicensed : (paymentOf s held.body.idempotencyKey).Licensed (Claims py parties)
      (Consents py parties) := OneShot.Run.licensed (RunningSettling.run .refl h _)
  have hreal := (hlicensed.claimed _ hclaimed).1
  obtain ⟨_, _, heq⟩ := GuardArgs.reservationBody_ok_iff.mp hbody
  rw [heq] at hreal
  dsimp only at hreal
  split at hreal
  · cases hreal
  · exact Bool.eq_false_iff.mpr ‹_›

/-- The reserve body of a guard is that of the reservation it asked for. -/
theorem RunningSettling.own_body (h : RunningSettling py parties rest s)
    (hsent : Request.createReservation held.body ∈ requests (s.trails i)) :
    (parties i).args.reservationBody py = .ok held.body := by
  rcases Party.request_cases (h.running.path i) hsent with ⟨body, heq, hbody⟩ | ⟨_, _, hnot, _⟩
  · cases heq
    exact hbody
  · exact absurd rfl hnot

/-- A guard that asked for a reservation addresses no other one. -/
theorem RunningSettling.target_eq (h : RunningSettling py parties rest s)
    (hmem : held ∈ s.server.world.reservations)
    (hsent : Request.createReservation held.body ∈ requests (s.trails i)) {request : Request}
    (hrequest : request ∈ requests (s.trails i)) (hphase : request.phase ≠ .reserve) :
    request.target = some held.id := by
  have hown := h.own_body hsent
  rcases Party.request_cases (h.running.path i) hrequest with ⟨body, rfl, _⟩ |
    ⟨id, _, _, htarget, _, hmark⟩
  · exact absurd rfl hphase
  · obtain ⟨held', hmem', hid, hbody, _⟩ := h.running.entered hmark
    have hsame : held.body = held'.body := Except.ok.inj (hown.symm.trans hbody)
    obtain rfl := h.running.invariant.1.eq_of_key hmem hmem' (congrArg _ hsame)
    rw [htarget, hid]

/-- **What a guard leaves behind, it tells of**, unless its body asked for an abort or
    raised an exception of its own. -/
theorem stranded (h : RunningSettling py parties rest s)
    (hmem : held ∈ s.server.world.reservations) (hactive : standingOf s held.id = .active)
    {result : GuardResult} (hdone : s.procs i = .done result)
    (hsent : Request.createReservation held.body ∈ requests (s.trails i)) :
    Strands py (parties i) result (s.trails i) held.id := by
  have hcourse := h.running.course hdone
  have hunconfirmed : ∀ request outcome, Event.exchange request outcome ∈ s.trails i →
      request.phase ≠ .reserve →
      request.target = some held.id ∧ outcome.succeeded = false := by
    intro request outcome hseen hphase
    have htarget := h.target_eq hmem hsent (mem_requests_iff.mpr ⟨outcome, hseen⟩) hphase
    refine ⟨htarget, Bool.eq_false_iff.mpr ?_⟩
    intro hsucceeded
    have hstands := h.told hseen hsucceeded
    rcases request with body | ⟨id, body⟩ | ⟨id, body⟩
    · exact hphase rfl
    · cases htarget
      cases hactive.symm.trans (hstands hsucceeded)
    · cases htarget
      cases hactive.symm.trans (hstands hsucceeded)
  refine ⟨hunconfirmed, ?_, ?_⟩
  · intro hleft
    obtain ⟨hcomplete, habort | hcommitted⟩ := hcourse.of_ok hleft
    · exact ⟨hcomplete, habort⟩
    · obtain ⟨run, htrail, _⟩ := h.running.settledRun hdone hcommitted
      have hfailed := (hunconfirmed _ _ (htrail ▸ run.commit_mem) KeyPhase.noConfusion).2
      cases hfailed.symm.trans run.commit_succeeded
  · intro e hleft
    by_cases hforeign : (parties i).body.exception py = some e
    · exact Or.inl hforeign
    · refine Or.inr ?_
      have htells := (hcourse.tells hleft).resolve_left hforeign
      cases e with
      | guardDenied message reasonCode requestId => exact htells.2
      | dryRunResult message decision reasonCode caps balances scopes =>
        -- the server holds nothing for a dry run
        have hreal := h.reserved_real hmem (h.own_body hsent)
        have hdry := (hcourse.dryRun_of_result hleft).resolve_left hforeign
        cases hdry.symm.trans hreal
      | guardCommitUncertain message errorCode requestId reservationId cause =>
        obtain ⟨_, id, body, commit, rfl, _, hseen, _⟩ := htells
        exact (hunconfirmed _ _ hseen KeyPhase.noConfusion).1
      | guardCommitFailed message errorCode requestId reservationId released releaseError =>
        obtain ⟨_, id, body, commit, releaseBody, release, rfl, _, _, _, hseen, hreleased⟩ :=
          htells
        obtain ⟨htarget, hfailed⟩ := hunconfirmed _ _ hseen KeyPhase.noConfusion
        exact ⟨htarget, hreleased.symm.trans hfailed⟩
      | currencyError message =>
        rw [show s.trails i = [] from htells] at hsent
        cases hsent
      | mandateError message =>
        rw [show s.trails i = [] from htells] at hsent
        cases hsent
      | assertionError => exact htells
      | foreign exc => exact htells

end Running

/-- A guard whose body asks for an abort, after it has reserved and entered its body. -/
def aborting (_ : Unit) : Party where
  args := .sample
  body := { calls := [.abort "no stock"] }

def aborting.entered : GuardNetwork Unit (Accounts Unit) :=
  (Network.start (ServerState.empty ⟨fun _ => .active, ()⟩)
    fun i => (aborting i).program .sample).play settlingHandle [(), ()]

/-- The release of an aborted guard is lost, and the statement ends normally. -/
theorem stranded_aborted :
    ∃ (s : GuardNetwork Unit (Accounts Unit)) (held : Reservation) (result : GuardResult),
      s.procs () = .done result ∧ result.1 = .ok () ∧ standingOf s held.id = .active ∧
      Strands .sample (aborting ()) result (s.trails ()) held.id := by
  have hrunning : RunningSettling .sample aborting () aborting.entered :=
    Network.play_reachable settlingHandle_serves _ _
  have hunheard : Unheard (.raised ⟨.exception, "ConnectionError", ""⟩) := rfl
  have hlost : Network.Step (settlingServer Unit).Serves Unheard aborting.entered _ :=
    .lostRequest (i := ()) rfl hunheard
  exact ⟨_, _, _, rfl, rfl, rfl, stranded (hrunning.tail hlost) (.head _) rfl rfl (.head _)⟩

end CyclesAP2
