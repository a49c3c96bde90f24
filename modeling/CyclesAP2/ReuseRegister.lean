import CyclesAP2.Register
import CyclesAP2.Reuse

/-!
# Guards that are used again are charged once

A guard that is used again can send another commit, over another amount, after one whose
reply was lost.  Still it cannot be charged twice: guards that are used again refine the
payment register as well.  So under each reserve key there is one charge at most, it is
one that some use of some guard asked for, and every use that was told of its commit was
told of this charge (`reuse_charged_once`).
-/

namespace CyclesAP2

open Interaction

section Clients

variable {ι τ : Type} [DecidableEq ι]

/-- The networks that these guards and a settling server can come to. -/
def RunningAgainSettling (py : Python) (clients : ι → Client) (rest : τ)
    (s : ClientNetwork ι (Accounts τ)) : Prop :=
  Network.Reachable (settlingServer τ).Serves Unheard (ServerState.empty ⟨fun _ => .active, rest⟩)
    (fun i => (clients i).program py) s

/-- Some guard makes this claim. -/
def ClaimsAgain (py : Python) (clients : ι → Client) (claim : ReservationBody) : Prop :=
  claim.dryRun = none ∧ ∃ i, (clients i).args.reservationBody py = .ok claim

/-- Some guard with this claim has sent a commit over this amount. -/
def Asks (py : Python) (clients : ι → Client) (s : ClientNetwork ι (Accounts τ))
    (claim : ReservationBody) (amount : Int) : Prop :=
  ∃ i id body, (clients i).args.reservationBody py = .ok claim ∧
    Request.commitReservation id body ∈ requests (s.trails i) ∧ body.actual.amount = amount

variable {py : Python} {clients : ι → Client} {rest : τ} {s s' : ClientNetwork ι (Accounts τ)}

theorem RunningAgainSettling.again (h : RunningAgainSettling py clients rest s) :
    RunningAgain py clients ⟨fun _ => .active, rest⟩ s :=
  Network.Reachable.mono settlingServer_refines.serves id h

/-- Every commit is sent to a reservation of the server that has the guard's own claim. -/
theorem RunningAgainSettling.committed_held (h : RunningAgainSettling py clients rest s) {i : ι}
    {id : String} {body : CommitBody}
    (hsent : Request.commitReservation id body ∈ requests (s.trails i)) :
    ∃ claim, (clients i).args.reservationBody py = .ok claim ∧
      ⟨id, claim⟩ ∈ s.server.world.reservations := by
  obtain ⟨outcome, hseen⟩ := mem_requests_iff.mp hsent
  exact h.again.reservation ((h.again.safe i).later _ outcome id hseen rfl).1

/-- **Every step is a run of the payment under each key.** -/
theorem RunningAgainSettling.step_run (h : RunningAgainSettling py clients rest s)
    (hstep : Network.Step (settlingServer τ).Serves Unheard s s') (key : String) :
    OneShot.Run (ClaimsAgain py clients) (Asks py clients s') (s.server.world.payment key)
      (s'.server.world.payment key) := by
  have h' : RunningAgainSettling py clients rest s' := .tail h hstep
  refine payment_step h hstep h.again.consistent ?_ ?_ ?_ key
  · intro i id body hsent
    obtain ⟨claim, _, hmem⟩ := h.committed_held hsent
    exact ⟨⟨id, claim⟩, hmem, rfl⟩
  · intro i claim next _ hsent hreal
    obtain ⟨reserve, hseen⟩ := mem_requests_iff.mp hsent
    exact ⟨hreal, i, (h'.again.safe i).reserves claim reserve hseen⟩
  · intro i held body next _ hsent hmem
    obtain ⟨claim, hclaim, hmem'⟩ := h'.committed_held hsent
    have hheld : held = ⟨held.id, claim⟩ :=
      h'.again.consistent.eq_of_id (step_reservation_mono hstep hmem) hmem' rfl
    exact ⟨i, held.id, body, hheld ▸ hclaim, hsent, rfl⟩

theorem Asks.later (hlater : Relation.ReflTransGen
      (Network.Step (settlingServer τ).Serves Unheard) s s') {claim : ReservationBody}
    {amount : Int} (h : Asks py clients s claim amount) : Asks py clients s' claim amount := by
  obtain ⟨i, id, body, hclaim, hsent, hamount⟩ := h
  obtain ⟨outcome, hseen⟩ := mem_requests_iff.mp hsent
  exact ⟨i, id, body, hclaim,
    mem_requests_iff.mpr ⟨outcome, (Network.trails_grow hlater i).subset hseen⟩, hamount⟩

theorem RunningAgainSettling.run (h : RunningAgainSettling py clients rest s)
    (hlater : Relation.ReflTransGen (Network.Step (settlingServer τ).Serves Unheard) s s')
    (key : String) :
    OneShot.Run (ClaimsAgain py clients) (Asks py clients s') (s.server.world.payment key)
      (s'.server.world.payment key) := by
  induction hlater with
  | refl => exact .refl
  | @tail s₁ s₂ hbefore hstep ih =>
    have hreach : RunningAgainSettling py clients rest s₁ := Relation.ReflTransGen.trans h hbefore
    exact (ih.mono fun _ _ hasks => hasks.later (.single hstep)).trans (hreach.step_run hstep key)

/-- A confirmed commit is the charge of its payment. -/
theorem RunningAgainSettling.charged_of_confirmed (h : RunningAgainSettling py clients rest s)
    {i : ι} {id : String} {body : CommitBody} {outcome : Outcome}
    (hseen : Event.exchange (.commitReservation id body) outcome ∈ s.trails i)
    (hsucceeded : outcome.succeeded = true) :
    s.server.world.charged (idempotencyKey py (clients i).args.mandate .reserve) =
      body.actual.amount := by
  obtain ⟨claim, hclaim, hmem⟩ := h.committed_held (mem_requests_iff.mpr ⟨outcome, hseen⟩)
  have hstanding : s.server.world.balances.standing id = .settled body.actual.amount :=
    told_true h hseen hsucceeded hsucceeded
  rw [← key_of_reservationBody hclaim]
  exact h.again.consistent.charged_of_settled hmem hstanding

/-- **However often guards are used, no consume-once input is charged twice.**  What is
    charged under a reserve key stays so; it is nothing, or what some use of a guard with
    this key asked for; and it is what every commit under this input that was confirmed
    was over. -/
theorem reuse_charged_once (h : RunningAgainSettling py clients rest s)
    (hlater : Relation.ReflTransGen (Network.Step (settlingServer τ).Serves Unheard) s s')
    (key : String) :
    (∀ amount, (s.server.world.payment key).spending = some amount →
      s'.server.world.charged key = amount) ∧
    (s'.server.world.charged key = 0 ∨
      ∃ claim, claim.idempotencyKey = key ∧
        Asks py clients s' claim (s'.server.world.charged key)) ∧
    ∀ i id body outcome, idempotencyKey py (clients i).args.mandate .reserve = key →
      Event.exchange (.commitReservation id body) outcome ∈ s'.trails i →
      outcome.succeeded = true → s'.server.world.charged key = body.actual.amount := by
  have h' : RunningAgainSettling py clients rest s' := Relation.ReflTransGen.trans h hlater
  have hconsistent := h'.again.consistent
  have hcharged : s'.server.world.charged key =
      (s'.server.world.payment key).spending.getD 0 := hconsistent.charged_eq key
  refine ⟨?_, ?_, ?_⟩
  · intro amount hspent
    rw [hcharged, (h.run hlater key).spending_eq hspent]
    rfl
  · have hlicensed : (s'.server.world.payment key).Licensed (ClaimsAgain py clients)
        (Asks py clients s') := OneShot.Run.licensed (RunningAgainSettling.run .refl h' key)
    rw [hcharged]
    rcases hpayment : s'.server.world.payment key with _ | claim | ⟨claim, amount⟩ | claim
    · exact Or.inl rfl
    · exact Or.inl rfl
    · exact Or.inr ⟨claim, hconsistent.key_of_claim (congrArg OneShot.claim hpayment),
        hlicensed.spent _ _ hpayment⟩
    · exact Or.inl rfl
  · rintro i id body outcome rfl hseen hsucceeded
    exact h'.charged_of_confirmed hseen hsucceeded

end Clients

/-- A guard that is told of another amount after its first statement, and is then used in
    a second one. -/
def overriddenLater (_ : Unit) : Client where
  args := .sample
  uses := [.within 1000 ⟨[], none⟩, .outside (.setActualMicros (.int 5) false),
    .within 2000 ⟨[], none⟩]

/-- The second statement asks for the other amount, and is not charged. -/
theorem reuse_charged_once_overridden :
    let s := (Network.start (ServerState.empty ⟨fun _ => .active, ()⟩)
      fun i => (overriddenLater i).program .sample).play settlingHandle [(), (), ()]
    let s' := s.play settlingHandle [(), (), ()]
    (∃ body, Request.commitReservation "res" body ∈ requests (s'.trails ()) ∧
      body.actual.amount = 5) ∧
      s'.server.world.charged (idempotencyKey .sample .sample .reserve) = 1000000000 := by
  intro s s'
  have h : RunningAgainSettling .sample overriddenLater () s :=
    Network.play_reachable settlingHandle_serves [(), (), ()] _
  have hlater : Relation.ReflTransGen (Network.Step (settlingServer Unit).Serves Unheard) s s' :=
    Network.play_reachable settlingHandle_serves [(), (), ()] s
  refine ⟨⟨_, .tail _ (.tail _ (.tail _ (.head _))), rfl⟩, ?_⟩
  exact (reuse_charged_once h hlater _).1 _ rfl

end CyclesAP2
