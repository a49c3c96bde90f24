import CyclesAP2.Diagnosis
import CyclesAP2.Money
import CyclesAP2.Recovery

/-!
# What becomes of a reservation

The server settles a reservation, releases it, or lets it expire, and then it is done
with it.  This module adds to the documented server how each reservation stands.
What a finished guard tells its caller is then how its reservation stands, whether its
commit or release was applied for it or replayed from the record of another guard
(`reports_true`); and whatever the server has charged was asked for by a guard with a
completed body, which knows of it or says that it does not (`charges_backed`).
-/

namespace CyclesAP2

open Interaction

inductive Standing where
  | active
  | settled (amount : Int)
  | released
  | expired
deriving DecidableEq

/-- Beside its records, the server keeps how each reservation stands. -/
structure Accounts (τ : Type) where
  standing : String → Standing
  rest : τ

variable {ι τ : Type} [DecidableEq ι]

/-- What the server does when it answers an unseen request.  A reservation that is no
    longer active stays as it is; a 2xx says that the commit or the release took
    effect; and only a commit charges anything.  Reservations may expire on the way.

    That it stays as it is (`final`) is assumed of the server.  `exceptions.py` has the
    terminal statuses `RESERVATION_FINALIZED` and `RESERVATION_EXPIRED`, but it also warns
    that a release could undo a settle; nothing is said here of a server that lets it. -/
structure Settles (books : Books (Accounts τ)) (request : Request) (outcome : Outcome)
    (books' : Books (Accounts τ)) : Prop where
  applies : Applies books.reservations request outcome books'.reservations
  final : ∀ id, books.balances.standing id ≠ .active →
    books'.balances.standing id = books.balances.standing id
  settled : ∀ id body, request = .commitReservation id body → outcome.succeeded = true →
    books'.balances.standing id = .settled body.actual.amount
  released : ∀ id body, request = .releaseReservation id body → outcome.succeeded = true →
    books'.balances.standing id = .released
  charges : ∀ id amount, books'.balances.standing id = .settled amount →
    books.balances.standing id = .settled amount ∨
      ∃ body, request = .commitReservation id body ∧ body.actual.amount = amount

def settlingServer (τ : Type) :
    Protocol (KeyPhase × String) Request Outcome (Books (Accounts τ)) where
  key := Request.bucket
  applies := Settles
  refuses _ outcome := outcome.succeeded = false
  mismatch outcome := outcome.HasError "IDEMPOTENCY_MISMATCH"

theorem settlingServer_refines : (settlingServer τ).Refines (cyclesServer (Accounts τ)) where
  key := rfl
  applies := Settles.applies
  refuses := id
  mismatch := id

/-- The networks that these guards and such a server can come to, from a server that
    has no record and has done nothing to any reservation. -/
def RunningSettling (py : Python) (parties : ι → Party) (rest : τ)
    (s : GuardNetwork ι (Accounts τ)) : Prop :=
  Network.Reachable (settlingServer τ).Serves Unheard (ServerState.empty ⟨fun _ => .active, rest⟩)
    (fun i => (parties i).program py) s

/-- How a reservation stands with the server of a network. -/
def standingOf (s : GuardNetwork ι (Accounts τ)) : String → Standing :=
  s.server.world.balances.standing

section Running

variable {py : Python} {parties : ι → Party} {rest : τ} {s s' : GuardNetwork ι (Accounts τ)}

theorem RunningSettling.running (h : RunningSettling py parties rest s) :
    Running py parties ⟨fun _ => .active, rest⟩ s :=
  Network.Reachable.mono settlingServer_refines.serves id h

/-! ### Records and standings -/

/-- What a 2xx answer says about the reservation that the request is addressed to. -/
def StandsFor (standing : String → Standing) : Request → Outcome → Prop
  | .createReservation _, _ => True
  | .commitReservation id body, outcome =>
    outcome.succeeded = true → standing id = .settled body.actual.amount
  | .releaseReservation id _, outcome => outcome.succeeded = true → standing id = .released

theorem settlingServer_establishes : (settlingServer τ).Establishes fun books request outcome =>
    StandsFor books.balances.standing request outcome where
  made := by
    intro books request outcome books' happlies
    rcases request with body | ⟨id, body⟩ | ⟨id, body⟩
    · trivial
    · exact happlies.settled id body rfl
    · exact happlies.released id body rfl
  kept := by
    intro books request outcome books' request' outcome' happlies hstands
    rcases request' with body | ⟨id, body⟩ | ⟨id, body⟩
    · trivial
    · intro hsucceeded
      have hbefore := hstands hsucceeded
      exact (happlies.final id (by simp [hbefore])).trans hbefore
    · intro hsucceeded
      have hbefore := hstands hsucceeded
      exact (happlies.final id (by simp [hbefore])).trans hbefore

/-- A 2xx that a program saw is true, whether it was applied or replayed. -/
theorem told_true {α : Type} {programs : ι → Program Request Outcome Mark α}
    {s : Network ι (ServerState (Accounts τ)) Request Outcome Mark α}
    (h : Network.Reachable (settlingServer τ).Serves Unheard
      (ServerState.empty ⟨fun _ => .active, rest⟩) programs s) {i : ι} {request : Request}
    {outcome : Outcome} (hseen : Event.exchange request outcome ∈ s.trails i)
    (hsucceeded : outcome.succeeded = true) :
    StandsFor s.server.world.balances.standing request outcome := by
  have hmute := Network.Reachable.mono settlingServer_refines.serves id h
  have hrecorded : s.server.recorded request.bucket = some (request, outcome) :=
    Network.Reachable.recorded_of_telling cyclesServer_mute hmute hseen (by simp [hsucceeded])
  exact Network.Reachable.established settlingServer_establishes (fun _ => rfl) h hrecorded

theorem RunningSettling.told (h : RunningSettling py parties rest s) {i : ι} {request : Request}
    {outcome : Outcome} (hseen : Event.exchange request outcome ∈ s.trails i)
    (hsucceeded : outcome.succeeded = true) : StandsFor (standingOf s) request outcome :=
  told_true h hseen hsucceeded

/-- Every charge has a record of the commit that made it. -/
def ChargesRecorded (l : ServerState (Accounts τ)) : Prop :=
  ∀ id amount, l.world.balances.standing id = .settled amount →
    ∃ bucket body outcome, l.recorded bucket = some (.commitReservation id body, outcome) ∧
      body.actual.amount = amount

theorem ChargesRecorded.serves {l l' : ServerState (Accounts τ)} {request : Request}
    {outcome : Outcome} (h : ChargesRecorded l)
    (hserves : (settlingServer τ).Serves l request outcome l') : ChargesRecorded l' := by
  intro id amount hcharged
  have hold : l.world.balances.standing id = .settled amount →
      ∃ bucket body outcome, l'.recorded bucket = some (.commitReservation id body, outcome) ∧
        body.actual.amount = amount := by
    intro hbefore
    obtain ⟨bucket, body, outcome, hrecorded, hamount⟩ := h id amount hbefore
    exact ⟨bucket, body, outcome, hserves.recorded_mono hrecorded, hamount⟩
  cases hserves with
  | first hunseen happlies =>
    rcases happlies.charges id amount hcharged with hbefore | ⟨body, rfl, hamount⟩
    · exact hold hbefore
    · exact ⟨_, body, outcome, Protocol.record_self .., hamount⟩
  | refused hunseen hrefuses => exact hold hcharged
  | replay hseen => exact hold hcharged
  | mismatch hseen hne hmismatch => exact hold hcharged

/-- **Whatever was charged, somebody has asked for**: some program sent the commit. -/
theorem charge_sent {α : Type} {programs : ι → Program Request Outcome Mark α}
    {s : Network ι (ServerState (Accounts τ)) Request Outcome Mark α}
    (h : Network.Reachable (settlingServer τ).Serves Unheard
      (ServerState.empty ⟨fun _ => .active, rest⟩) programs s) {id : String} {amount : Int}
    (hcharged : s.server.world.balances.standing id = .settled amount) :
    ∃ i body, Request.commitReservation id body ∈ requests (s.trails i) ∧
      body.actual.amount = amount := by
  have hkeeps : Network.Keeps (settlingServer τ).Serves (fun _ => True) ChargesRecorded
      (fun _ _ _ => True) := {
    inv := fun hrecorded _ hserves => hrecorded.serves hserves
    seen := fun _ _ _ => trivial
    stable := fun _ _ _ _ => trivial }
  have hcharges := (Network.Reachable.invariant hkeeps (fun _ => trivial)
    (fun _ _ _ _ _ => trivial) (by intro id amount hnone; cases hnone) h).1
  obtain ⟨bucket, body, outcome, hrecorded, hamount⟩ := hcharges id amount hcharged
  obtain ⟨_, i, hsent⟩ := Network.Reachable.recordsSent (fun _ => rfl) h _ _ _ hrecorded
  exact ⟨i, body, hsent, hamount⟩

end Running

/-! ### What a finished guard says -/

/-- What a finished guard tells its caller about a reservation: by its attributes, by
    its receipt, or by the exception that the guard itself left the statement with. -/
inductive Reports (py : Python) (body : Body) : GuardResult → String → Standing → Prop where
  | committed {result : GuardResult} {id : String} {amount : Int}
      (hcommitted : result.2.committed = true) (hid : result.2.reservationId = some id)
      (hamount : result.2.actualMicros = some amount ∨ result.2.actualMicros = none ∧
        result.2.args.mandate.amountMicros py = .ok amount) :
      Reports py body result id (.settled amount)
  | receipt {result : GuardResult} {receipt : RuntimeAuthorityReceipt}
      (hreceipt : result.2.receipt = some receipt) :
      Reports py body result receipt.reservationId (.settled receipt.amountMicros)
  | released {result : GuardResult} {message id : String}
      {errorCode requestId releaseError : Option String} (hcomplete : body.exception py = none)
      (hleft : result.1 =
        .error (.guardCommitFailed message errorCode requestId (some id) true releaseError)) :
      Reports py body result id .released

section Reports

variable {py : Python} {clock : Int} {flavour : Flavour} {args : GuardArgs} {body : Body}
  {result : GuardResult} {trail : List GuardEvent}

theorem SettledRun.final_frame (run : SettledRun py args body) (clock : Int) :
    (run.final clock).args = run.self.args ∧
      (run.final clock).reservationId = some run.reservationId ∧
      (run.final clock).actualMicros = run.self.actualMicros := by
  have hframe := body.apply_frame py (GuardState.entered args run.decision run.reservationId)
  rw [run.left_body] at hframe
  rw [SettledRun.final, GuardState.settled]
  split <;> exact ⟨rfl, hframe.reservationId, rfl⟩

/-- What a guard reports, it has seen a 2xx for. -/
theorem Course.report_seen (h : Course py clock flavour args body result trail) {id : String}
    {standing : Standing} (hreports : Reports py body result id standing) :
    ∃ request outcome, Event.exchange request outcome ∈ trail ∧ outcome.succeeded = true ∧
      ∀ standings, StandsFor standings request outcome → standings id = standing := by
  cases hreports with
  | committed hcommitted hid hamount =>
    obtain ⟨run, rfl, rfl⟩ := h.of_committed hcommitted
    obtain ⟨hargs, hheld, hactual⟩ := run.final_frame clock
    refine ⟨_, _, run.commit_mem, run.commit_succeeded, ?_⟩
    intro standings hstands
    rw [hheld] at hid
    rw [hactual, hargs] at hamount
    rw [← Option.some.inj hid, hstands run.commit_succeeded]
    refine congrArg Standing.settled ?_
    rcases buildCommitBody_amount run.commit_built with hoverride | ⟨hnone, hmandate⟩
    · rcases hamount with hsome | ⟨hnone, _⟩
      · exact Option.some.inj (hoverride.symm.trans hsome)
      · cases hoverride.symm.trans hnone
    · rcases hamount with hsome | ⟨_, hok⟩
      · cases hsome.symm.trans hnone
      · exact Except.ok.inj (hmandate.symm.trans hok)
  | receipt hreceipt =>
    obtain ⟨run, rfl, rfl⟩ := h.of_committed (h.committed_of_receipt hreceipt)
    obtain rfl := run.receipt_of_final hreceipt
    exact ⟨_, _, run.commit_mem, run.commit_succeeded,
      fun standings hstands => hstands run.commit_succeeded⟩
  | released hcomplete hleft =>
    rcases h.tells hleft with hown | ⟨_, id, body, commit, releaseBody, release, hheld,
      _, _, _, hseen, hsucceeded⟩
    · cases hcomplete.symm.trans hown
    · cases hheld
      exact ⟨_, _, hseen, hsucceeded, fun standings hstands => hstands hsucceeded⟩

/-- A guard that sent its commit ends committed, or is left by an exception that names
    the reservation, with a client that answers or raises an `Exception`. -/
theorem ExitCourse.known {decision : Decision} {reservationId id : String} {left : GuardResult}
    {commitBody : CommitBody}
    (h : ExitCourse py clock flavour decision reservationId left result trail)
    (hcommit : Request.commitReservation id commitBody ∈ requests trail)
    (hhandled : ∀ request outcome, Event.exchange request outcome ∈ trail → outcome.Handled) :
    result.2.committed = true ∨ ∃ e, result.1 = .error e ∧ e.Reconciles id := by
  obtain rfl : reservationId = id := Option.some.inj (h.requests_spec.2.1 _ hcommit).symm
  cases h with
  | bodyRaised e self release => cases List.mem_singleton.mp hcommit
  | aborted release haborted => cases List.mem_singleton.mp hcommit
  | settled haborted hbody hverdict => exact Or.inl (GuardState.settled_committed ..)
  | raised haborted hbody hverdict =>
    exact Or.inr ⟨_, rfl, (commitVerdict_raises_reconciles_iff hverdict).mpr
      (Or.inl (hhandled _ _ (.head _)))⟩
  | rejected release haborted hbody hverdict =>
    obtain ⟨⟨released, releaseError⟩, hreport⟩ :=
      releaseReport_ok_iff.mpr (hhandled _ _ (.tail _ (.head _)))
    rw [hreport]
    exact Or.inr ⟨_, rfl, commitFailed_reconciles _ _ _ _ _⟩

end Reports

/-- The guard behind a charge.  Its body started under the reservation, completed
    without an abort, and settled this amount.  Once it is left it ends committed, or by
    an exception that names the reservation and does not call it released. -/
structure Backs (py : Python) (party : Party) (trail : List GuardEvent) (proc : GuardProgram)
    (id : String) (amount : Int) : Prop where
  started : Event.act (.withBody (some id)) ∈ trail
  complete : party.body.exception py = none
  noAbort : party.body.lastAborting = none
  amount_eq : ∃ request, party.args.reservationBody py = .ok request ∧
    amount = party.body.lastAccepted.getD request.estimate.amount
  known : ∀ result, proc = .done result →
    (∀ request outcome, Event.exchange request outcome ∈ trail → outcome.Handled) →
    result.2.committed = true ∨ ∃ e, result.1 = .error e ∧ e.Reconciles id
  charged : ∀ result, proc = .done result → ¬Reports py party.body result id .released

section Running

variable {py : Python} {parties : ι → Party} {rest : τ} {s s' : GuardNetwork ι (Accounts τ)}

/-- What a run reports is so as long as its trail is among those of the network. -/
theorem RunningSettling.standing_of_report (h : RunningSettling py parties rest s) {i : ι}
    {result : GuardResult} {trail : List GuardEvent} (hbefore : trail <+: s.trails i)
    (hcourse : Course py (parties i).clock (parties i).flavour (parties i).args (parties i).body
      result trail) {id : String} {standing : Standing}
    (hreports : Reports py (parties i).body result id standing) : standingOf s id = standing := by
  obtain ⟨request, outcome, hseen, hsucceeded, hstanding⟩ := hcourse.report_seen hreports
  exact hstanding _ (h.told (hbefore.subset hseen) hsucceeded)

/-- **Reports are true**, from the end of the guard on for ever: what a finished guard
    reports of a reservation is how that reservation stands with the server. -/
theorem reports_true (h : RunningSettling py parties rest s)
    (hlater : Relation.ReflTransGen (Network.Step (settlingServer τ).Serves Unheard) s s') {i : ι}
    {result : GuardResult} (hdone : s.procs i = .done result) {id : String} {standing : Standing}
    (hreports : Reports py (parties i).body result id standing) :
    standingOf s' id = standing := by
  have hlong : RunningSettling py parties rest s' := Relation.ReflTransGen.trans h hlater
  exact hlong.standing_of_report (Network.trails_grow hlater i) (h.running.course hdone) hreports

/-- **Whatever the server has charged, a guard stands behind.** -/
theorem charges_backed (h : RunningSettling py parties rest s) {id : String} {amount : Int}
    (hcharged : standingOf s id = .settled amount) :
    ∃ i, Backs py (parties i) (s.trails i) (s.procs i) id amount := by
  obtain ⟨i, commitBody, hsent, rfl⟩ := charge_sent h hcharged
  obtain ⟨request, reserve, decision, self, hrequest, hadmission, _, hstarted, hleft, haborted,
    hcommitBody⟩ := Party.commit_cases (h.running.path i) hsent
  obtain ⟨hcomplete, _, _, haborting⟩ := Body.entered_of_complete hleft
  refine ⟨i, hstarted, hcomplete, haborting.symm.trans haborted,
    ⟨request, hrequest, (commitBody_actual hrequest hleft hcommitBody).2.2.2⟩, ?_, ?_⟩
  · intro result hdone hhandled
    obtain ⟨outcome, hseen⟩ := mem_requests_iff.mp hsent
    obtain ⟨_, _, _, _, rest, htrail, hrest, hexit⟩ :=
      (h.running.course hdone).of_target hseen rfl
    refine hexit.known (mem_requests_iff.mpr ⟨outcome, hrest⟩) ?_
    intro q outcome' hmem
    refine hhandled q outcome' ?_
    rw [htrail]
    exact .tail _ (.tail _ hmem)
  · intro result hdone hreleased
    cases (h.standing_of_report List.prefix_rfl (h.running.course hdone) hreleased).symm.trans
      hcharged

end Running

/-! ### A server that settles -/

/-- Settle or release a reservation that is active. -/
def finish (books : Books (Accounts τ)) (id : String) (standing : Standing) :
    Outcome × Books (Accounts τ) :=
  if books.balances.standing id = .active then
    (.returned (.success (.error ⟨.exception, "ValidationError", ""⟩)),
      { books with balances := { books.balances with
          standing := Function.update books.balances.standing id standing } })
  else
    (.returned (.failure 409 ⟨"RESERVATION_FINALIZED", some "RESERVATION_FINALIZED", none⟩), books)

section Finish

variable (books : Books (Accounts τ)) (id : String) (standing : Standing)

theorem finish_reservations :
    (finish books id standing).2.reservations = books.reservations := by
  unfold finish
  split <;> rfl

variable {books id standing}

theorem finish_succeeded (h : (finish books id standing).1.succeeded = true) :
    (finish books id standing).2.balances.standing id = standing := by
  unfold finish at h ⊢
  split at h
  · rw [if_pos ‹_›]
    exact Function.update_self ..
  · cases h

variable (books id standing)

theorem finish_cases (id' : String) :
    (finish books id standing).2.balances.standing id' = books.balances.standing id' ∨
      id' = id ∧ books.balances.standing id' = .active ∧
        (finish books id standing).2.balances.standing id' = standing := by
  unfold finish
  split
  · by_cases hid : id' = id
    · subst hid
      exact Or.inr ⟨rfl, ‹_›, Function.update_self ..⟩
    · exact Or.inl (Function.update_of_ne hid ..)
  · exact Or.inl rfl

theorem finish_final (id' : String) (h : books.balances.standing id' ≠ .active) :
    (finish books id standing).2.balances.standing id' = books.balances.standing id' := by
  rcases finish_cases books id standing id' with hsame | ⟨_, hactive, _⟩
  · exact hsame
  · exact absurd hactive h

end Finish

/-- A server that allows every reservation, and settles or releases each one once. -/
def settlingSample (books : Books (Accounts Unit)) :
    Request → Outcome × Books (Accounts Unit)
  | .createReservation body =>
    let reply := Policy.sample.fresh ⟨books.reservations, ()⟩ (.createReservation body)
    (reply.1, { books with reservations := reply.2.reservations })
  | .commitReservation id body => finish books id (.settled body.actual.amount)
  | .releaseReservation id _ => finish books id .released

theorem settlingSample_settles (books : Books (Accounts Unit)) (request : Request) :
    Settles books request (settlingSample books request).1 (settlingSample books request).2 := by
  rcases request with body | ⟨id, body⟩ | ⟨id, body⟩
  · exact ⟨Policy.sample.applies ⟨books.reservations, ()⟩ (.createReservation body),
      fun _ _ => rfl, nofun, nofun, fun _ _ h => Or.inl h⟩
  · refine ⟨?_, finish_final _ _ _, ?_, nofun, ?_⟩
    · rw [settlingSample, finish_reservations]
      exact .other KeyPhase.noConfusion
    · intro id' body' heq hsucceeded
      cases heq
      exact finish_succeeded hsucceeded
    · intro id' amount hcharged
      rcases finish_cases books id (.settled body.actual.amount) id' with hsame | ⟨rfl, _, hnew⟩
      · exact Or.inl (hsame.symm.trans hcharged)
      · exact Or.inr ⟨body, rfl, Standing.settled.inj (hnew.symm.trans hcharged)⟩
  · refine ⟨?_, finish_final _ _ _, nofun, ?_, ?_⟩
    · rw [settlingSample, finish_reservations]
      exact .other KeyPhase.noConfusion
    · intro id' body' heq hsucceeded
      cases heq
      exact finish_succeeded hsucceeded
    · intro id' amount hcharged
      rcases finish_cases books id .released id' with hsame | ⟨rfl, _, hnew⟩
      · exact Or.inl (hsame.symm.trans hcharged)
      · cases hnew.symm.trans hcharged

def settlingHandle :
    ServerState (Accounts Unit) → Request → Outcome × ServerState (Accounts Unit) :=
  (settlingServer Unit).handle settlingSample Policy.sample.clash

theorem settlingHandle_serves (l : ServerState (Accounts Unit)) (request : Request) :
    (settlingServer Unit).Serves l request (settlingHandle l request).1
      (settlingHandle l request).2 :=
  Protocol.handle_serves settlingSample_settles Policy.sample.mismatch

/-- A payment, and a retry of it whose body fails. -/
def paymentAndFailure (fails : Bool) : Party where
  args := .sample
  body := {
    calls := []
    raises := if fails then some (.foreign ⟨.exception, "RuntimeError", ""⟩) else none }

/-- The payment and the retry hold one reservation.  The retry releases it in vain. -/
def paidThenFailed (steps : List Bool) : GuardNetwork Bool (Accounts Unit) :=
  (Network.start (ServerState.empty ⟨fun _ => .active, ()⟩)
    fun i => (paymentAndFailure i).program .sample).play settlingHandle steps

theorem paidThenFailed_running (steps : List Bool) :
    RunningSettling .sample paymentAndFailure () (paidThenFailed steps) :=
  Network.play_reachable settlingHandle_serves steps _

theorem reports_true_paid :
    let s := paidThenFailed [false, false, false]
    standingOf (s.play settlingHandle [true, true, true]) "res" = .settled 1000000000 := by
  intro s
  exact reports_true (paidThenFailed_running _)
    (Network.play_reachable settlingHandle_serves [true, true, true] s) (i := false) rfl
    (.committed rfl rfl (Or.inr ⟨rfl, rfl⟩))

theorem charges_backed_paid :
    let s := paidThenFailed [false, true, false, true, false, true]
    ∃ i, Backs .sample (paymentAndFailure i) (s.trails i) (s.procs i) "res" 1000000000 :=
  charges_backed (paidThenFailed_running _) rfl

end CyclesAP2
