import CyclesAP2.Interaction.OneShot
import CyclesAP2.Settlement

/-!
# The payment register

What all of this is for can be said without guards, requests and keys: the payment of a
consume-once input is a one-shot thing.  It is claimed by one reserve body, and then
charged once or given back.  `Books.payment` reads this state off the reservations and
standings of the server.

Guards and server refine the register (`network_refines`): every step is a run of it, in
which a claim is one that some guard makes and a charge is one that a guard with this
claim consents to; and what a guard has seen agrees with the register.  So what is charged
for a consume-once input, summed over all reservations, is what one guard consented to,
or nothing (`charged_once`).
-/

namespace CyclesAP2

open Interaction

abbrev Payment := OneShot ReservationBody Int

def Standing.payment (claim : ReservationBody) : Standing → Payment
  | .active => .held claim
  | .settled amount => .spent claim amount
  | .released => .returned claim
  | .expired => .returned claim

def Standing.charge : Standing → Int
  | .settled amount => amount
  | _ => 0

/-- The reservation under this reserve key. -/
def Books.claimed {σ : Type} (books : Books σ) (key : String) : Option Reservation :=
  books.reservations.find? fun held => decide (held.body.idempotencyKey = key)

section Books

variable {τ : Type}

/-- How the payment under this reserve key stands. -/
def Books.payment (books : Books (Accounts τ)) (key : String) : Payment :=
  match books.claimed key with
  | none => .unclaimed
  | some held => (books.balances.standing held.id).payment held.body

/-- All that was charged for reservations under this key. -/
def Books.charged (books : Books (Accounts τ)) (key : String) : Int :=
  ((books.reservations.filter fun held => decide (held.body.idempotencyKey = key)).map
    fun held => (books.balances.standing held.id).charge).sum

end Books

/-! ### One reservation for each key -/

section Claimed

variable {σ τ : Type} {l : ServerState σ} {key : String} {held : Reservation}

theorem ServerState.Consistent.claimed_eq_some_iff (h : l.Consistent) :
    l.world.claimed key = some held ↔
      held ∈ l.world.reservations ∧ held.body.idempotencyKey = key := by
  constructor
  · intro hclaimed
    exact ⟨List.mem_of_find?_eq_some hclaimed, by simpa using List.find?_some hclaimed⟩
  · rintro ⟨hmem, rfl⟩
    rcases hclaimed : l.world.claimed held.body.idempotencyKey with _ | held'
    · have hnone := List.find?_eq_none.mp hclaimed held hmem
      simp at hnone
    · have hkey : held'.body.idempotencyKey = held.body.idempotencyKey := by
        simpa using List.find?_some hclaimed
      rw [h.eq_of_key (List.mem_of_find?_eq_some hclaimed) hmem hkey]

/-- At most one element of a list has this key when the keys are all different. -/
theorem filter_eq_find? {α : Type} {f : α → String} {xs : List α} (h : (xs.map f).Nodup)
    (key : String) :
    (xs.filter fun x => decide (f x = key)) = (xs.find? fun x => decide (f x = key)).toList := by
  induction xs with
  | nil => rfl
  | cons x xs ih =>
    obtain ⟨hfirst, hrest⟩ := List.nodup_cons.mp h
    by_cases hkey : f x = key
    · have htest : decide (f x = key) = true := decide_eq_true hkey
      simp only [List.filter_cons, List.find?_cons, htest, if_true, Option.toList]
      refine congrArg (List.cons x) (List.filter_eq_nil_iff.mpr ?_)
      intro y hmem hy
      refine hfirst (List.mem_map.mpr ⟨y, hmem, ?_⟩)
      rw [hkey, of_decide_eq_true hy]
    · have htest : decide (f x = key) = false := decide_eq_false hkey
      simp only [List.filter_cons, List.find?_cons, htest, Bool.false_eq_true, if_false]
      exact ih hrest

theorem Standing.charge_eq (standing : Standing) (claim : ReservationBody) :
    standing.charge = (standing.payment claim).spending.getD 0 := by
  cases standing <;> rfl

/-- The sum of the charges under a key is the charge of its payment. -/
theorem ServerState.Consistent.charged_eq {l : ServerState (Accounts τ)} (h : l.Consistent)
    (key : String) : l.world.charged key = (l.world.payment key).spending.getD 0 := by
  have hone : (l.world.reservations.filter fun held => decide (held.body.idempotencyKey = key)) =
      (l.world.claimed key).toList := filter_eq_find? h.keys key
  unfold Books.charged Books.payment
  rw [hone]
  rcases l.world.claimed key with _ | held
  · rfl
  · exact (Int.add_zero _).trans (Standing.charge_eq _ _)

theorem Standing.payment_claim (standing : Standing) (claim : ReservationBody) :
    (standing.payment claim).claim = some claim := by
  cases standing <;> rfl

/-- Only a reserve body with this key claims the payment under it. -/
theorem ServerState.Consistent.key_of_claim {l : ServerState (Accounts τ)} (h : l.Consistent)
    {claim : ReservationBody} (hclaim : (l.world.payment key).claim = some claim) :
    claim.idempotencyKey = key := by
  unfold Books.payment at hclaim
  rcases hclaimed : l.world.claimed key with _ | held
  · rw [hclaimed] at hclaim
    cases hclaim
  · rw [hclaimed] at hclaim
    obtain rfl := Option.some.inj ((Standing.payment_claim _ held.body).symm.trans hclaim)
    exact (h.claimed_eq_some_iff.mp hclaimed).2

/-- All that is charged under the key of a reservation is what that one is charged. -/
theorem ServerState.Consistent.charged_of_settled {l : ServerState (Accounts τ)}
    (h : l.Consistent) (hmem : held ∈ l.world.reservations) {amount : Int}
    (hsettled : l.world.balances.standing held.id = .settled amount) :
    l.world.charged held.body.idempotencyKey = amount := by
  have hclaimed : l.world.claimed held.body.idempotencyKey = some held :=
    h.claimed_eq_some_iff.mpr ⟨hmem, rfl⟩
  rw [h.charged_eq, Books.payment, hclaimed]
  dsimp only
  rw [hsettled]
  rfl

end Claimed

/-! ### What a service does to a payment -/

section Services

variable {τ : Type} {mayClaim : ReservationBody → Prop} {maySpend : ReservationBody → Int → Prop}
  {books books' : Books (Accounts τ)} {request : Request} {outcome : Outcome}

/-- Reservations are never deleted. -/
theorem Applies.mem_mono {reservations reservations' : List Reservation}
    (h : Applies reservations request outcome reservations') {held : Reservation}
    (hmem : held ∈ reservations) : held ∈ reservations' := by
  cases h with
  | created hreal hfresh hgranted => exact .tail _ hmem
  | notCreated hgranted => exact hmem
  | other hphase => exact hmem

/-- What becomes of a reservation that exists. -/
theorem Settles.standing_run (h : Settles books request outcome books') {id : String}
    {claim : ReservationBody}
    (hspend : ∀ body, request = .commitReservation id body → maySpend claim body.actual.amount) :
    OneShot.Run mayClaim maySpend ((books.balances.standing id).payment claim)
      ((books'.balances.standing id).payment claim) := by
  by_cases hactive : books.balances.standing id = .active
  · rw [hactive]
    rcases hafter : books'.balances.standing id with _ | amount | _ | _
    · exact .refl
    · rcases h.charges id amount hafter with hbefore | ⟨body, hrequest, rfl⟩
      · cases hactive.symm.trans hbefore
      · exact .single (.spend (hspend body hrequest))
    · exact .single .giveBack
    · exact .single .giveBack
  · rw [h.final id hactive]
    exact .refl

/-- A reservation that is created has not been charged, though the server may have
    finished with its id before. -/
theorem Settles.created_run (h : Settles books request outcome books') {id : String}
    {claim : ReservationBody} (hclaim : mayClaim claim)
    (hreserve : request = .createReservation claim)
    (hnew : ∀ amount, books.balances.standing id ≠ .settled amount) :
    OneShot.Run mayClaim maySpend .unclaimed ((books'.balances.standing id).payment claim) := by
  refine .head (.claim hclaim) ?_
  rcases hafter : books'.balances.standing id with _ | amount | _ | _
  · exact .refl
  · rcases h.charges id amount hafter with hbefore | ⟨body, hcommit, _⟩
    · exact absurd hbefore (hnew amount)
    · cases hreserve.symm.trans hcommit
  · exact .single .giveBack
  · exact .single .giveBack

/-- **A service is a run of the payment under each key.**  The reservation it creates is
    claimed by its request, and the one it charges is charged as its request says. -/
theorem Settles.payment_run (h : Settles books request outcome books')
    (hunclaimed : ∀ claim, request = .createReservation claim →
      ∀ held ∈ books.reservations, held.body.idempotencyKey ≠ claim.idempotencyKey)
    (hcharged : ∀ id amount, books.balances.standing id = .settled amount →
      ∃ held ∈ books.reservations, held.id = id)
    (hclaim : ∀ claim, request = .createReservation claim → claim.dryRun = none → mayClaim claim)
    (hspend : ∀ held ∈ books.reservations, ∀ body, request = .commitReservation held.id body →
      maySpend held.body body.actual.amount) (key : String) :
    OneShot.Run mayClaim maySpend (books.payment key) (books'.payment key) := by
  have hsame : books'.claimed key = books.claimed key →
      OneShot.Run mayClaim maySpend (books.payment key) (books'.payment key) := by
    intro hclaimed
    unfold Books.payment
    rw [hclaimed]
    rcases hheld : books.claimed key with _ | held
    · exact .refl
    · exact h.standing_run (hspend held (List.mem_of_find?_eq_some hheld))
  have happlies := h.applies
  generalize hreservations : books'.reservations = reservations at happlies
  cases happlies with
  | @created claim _ id hreal hfresh _ =>
    by_cases hkey : claim.idempotencyKey = key
    · have hbefore : books.claimed key = none := by
        refine List.find?_eq_none.mpr ?_
        intro held hmem
        simpa [← hkey] using hunclaimed claim rfl held hmem
      have hafter : books'.claimed key = some ⟨id, claim⟩ := by
        simp [Books.claimed, hreservations, hkey]
      unfold Books.payment
      rw [hbefore, hafter]
      refine h.created_run (hclaim claim rfl hreal) rfl ?_
      intro amount hsettled
      obtain ⟨held, hmem, hid⟩ := hcharged id amount hsettled
      exact hfresh held hmem hid
    · refine hsame ?_
      simp [Books.claimed, hreservations, hkey]
  | notCreated _ => exact hsame (by simp [Books.claimed, hreservations])
  | other _ => exact hsame (by simp [Books.claimed, hreservations])

theorem serves_reservation_mono {l l' : ServerState (Accounts τ)}
    (h : (settlingServer τ).Serves l request outcome l') {held : Reservation}
    (hmem : held ∈ l.world.reservations) : held ∈ l'.world.reservations := by
  cases h with
  | first hunseen hsettles => exact hsettles.applies.mem_mono hmem
  | refused hunseen hrefuses => exact hmem
  | replay hseen => exact hmem
  | mismatch hseen hne hmismatch => exact hmem

theorem step_reservation_mono {ι α : Type} [DecidableEq ι]
    {s s' : Network ι (ServerState (Accounts τ)) Request Outcome Mark α}
    (hstep : Network.Step (settlingServer τ).Serves Unheard s s') {held : Reservation}
    (hmem : held ∈ s.server.world.reservations) : held ∈ s'.server.world.reservations := by
  rcases hstep.server_cases with hserver | ⟨_, _, _, _, _, _, hserves⟩
  · rw [hserver]
    exact hmem
  · exact serves_reservation_mono hserves hmem

/-- **A step of a network is a run of the payment under each key**, for any programs
    that commit to reservations of the server only. -/
theorem payment_step {ι α : Type} [DecidableEq ι] {rest : τ}
    {programs : ι → Program Request Outcome Mark α}
    {s s' : Network ι (ServerState (Accounts τ)) Request Outcome Mark α}
    (h : Network.Reachable (settlingServer τ).Serves Unheard
      (ServerState.empty ⟨fun _ => .active, rest⟩) programs s)
    (hstep : Network.Step (settlingServer τ).Serves Unheard s s')
    (hconsistent : s.server.Consistent)
    (hreserved : ∀ i id body, Request.commitReservation id body ∈ requests (s.trails i) →
      ∃ held ∈ s.server.world.reservations, held.id = id)
    (hclaim : ∀ i claim next, s.procs i = .call (.createReservation claim) next →
      Request.createReservation claim ∈ requests (s'.trails i) → claim.dryRun = none →
      mayClaim claim)
    (hspend : ∀ i held body next, s.procs i = .call (.commitReservation held.id body) next →
      Request.commitReservation held.id body ∈ requests (s'.trails i) →
      held ∈ s.server.world.reservations → maySpend held.body body.actual.amount)
    (key : String) :
    OneShot.Run mayClaim maySpend (s.server.world.payment key) (s'.server.world.payment key) := by
  rcases hstep.server_cases with hserver | ⟨i, request, next, outcome, hcall, hsent, hserves⟩
  · rw [hserver]
    exact .refl
  · generalize s'.server = server' at hserves
    cases hserves with
    | first hunseen happlies =>
      refine Settles.payment_run happlies ?_ ?_ ?_ ?_ key
      · rintro claim rfl held hmem hkey
        exact hconsistent.bucket_ne hunseen hmem (bucket_create_eq_iff.mpr hkey)
      · intro id amount hcharged
        obtain ⟨j, body, hcommit, _⟩ := charge_sent h hcharged
        exact hreserved j id body hcommit
      · rintro claim rfl hreal
        exact hclaim i claim next hcall hsent hreal
      · rintro held hmem body rfl
        exact hspend i held body next hcall hsent hmem
    | refused hunseen hrefuses => exact .refl
    | replay hseen => exact .refl
    | mismatch hseen hne hmismatch => exact .refl

end Services

/-! ### The network refines the register -/

section Refinement

variable {ι τ : Type} [DecidableEq ι] {py : Python} {parties : ι → Party} {rest : τ}
  {s s' : GuardNetwork ι (Accounts τ)}

/-- How the payment under this reserve key stands with the server of a network. -/
def paymentOf (s : GuardNetwork ι (Accounts τ)) (key : String) : Payment :=
  s.server.world.payment key

/-- Some guard makes this claim. -/
def Claims (py : Python) (parties : ι → Party) (claim : ReservationBody) : Prop :=
  claim.dryRun = none ∧ ∃ i, (parties i).args.reservationBody py = .ok claim

/-- Some guard with this claim has a body that completes without an abort and settles this
    amount. -/
def Consents (py : Python) (parties : ι → Party) (claim : ReservationBody) (amount : Int) : Prop :=
  ∃ i, (parties i).args.reservationBody py = .ok claim ∧
    (parties i).body.exception py = none ∧ (parties i).body.lastAborting = none ∧
    amount = (parties i).body.lastAccepted.getD claim.estimate.amount

/-- A guard that sent a commit holds a reservation of the server with its own claim. -/
theorem RunningSettling.committed_held (h : RunningSettling py parties rest s) {i : ι}
    {id : String} {commitBody : CommitBody}
    (hcommit : Request.commitReservation id commitBody ∈ requests (s.trails i)) :
    ∃ held ∈ s.server.world.reservations, held.id = id ∧
      (parties i).args.reservationBody py = .ok held.body := by
  obtain ⟨_, _, _, _, _, _, _, hmark, _⟩ := Party.commit_cases (h.running.path i) hcommit
  obtain ⟨held, hmem, hid, hbody, _⟩ := h.running.entered hmark
  exact ⟨held, hmem, (Option.some.inj hid).symm, hbody⟩

/-- A guard that is about to reserve makes this claim. -/
theorem RunningSettling.claims (h : RunningSettling py parties rest s) {i : ι}
    {claim : ReservationBody} {next : Outcome → GuardProgram}
    (hcall : s.procs i = .call (.createReservation claim) next) :
    (parties i).args.reservationBody py = .ok claim := by
  have hpath := h.running.path i
  rw [hcall] at hpath
  rcases Party.call_cases hpath with ⟨_, body, heq, hbody⟩ | ⟨_, hphase, _⟩
  · cases heq
    exact hbody
  · exact absurd rfl hphase

/-- A guard that is about to commit consents to the amount of its commit. -/
theorem RunningSettling.consents (h : RunningSettling py parties rest s) {i : ι}
    {held : Reservation} {commitBody : CommitBody} {next : Outcome → GuardProgram}
    (hcall : s.procs i = .call (.commitReservation held.id commitBody) next)
    (hmem : held ∈ s.server.world.reservations) :
    Consents py parties held.body commitBody.actual.amount := by
  have hpath := h.running.path i
  rw [hcall] at hpath
  obtain ⟨request, _, _, _, hrequest, _, _, hmark, hleft, haborted, hcommitBody⟩ :=
    Party.commit_cases (hpath.snoc_exchange default)
      (mem_requests_iff.mpr ⟨default, List.mem_append_right _ (.head _)⟩)
  obtain ⟨hcomplete, _, _, haborting⟩ := Body.entered_of_complete hleft
  -- the exchange that is still to come is no start of a body
  have hstarted : Event.act (.withBody (some held.id)) ∈ s.trails i :=
    (List.mem_append.mp hmark).resolve_right (by simp)
  obtain ⟨held', hmem', hid', hbody', _⟩ := h.running.entered hstarted
  obtain rfl := h.running.invariant.1.eq_of_id hmem hmem' (Option.some.inj hid')
  cases hrequest.symm.trans hbody'
  exact ⟨i, hrequest, hcomplete, haborting.symm.trans haborted,
    (commitBody_actual hrequest hleft hcommitBody).2.2.2⟩

/-- **Every step is a run of the payment under each key.** -/
theorem RunningSettling.step_run (h : RunningSettling py parties rest s)
    (hstep : Network.Step (settlingServer τ).Serves Unheard s s') (key : String) :
    OneShot.Run (Claims py parties) (Consents py parties) (paymentOf s key) (paymentOf s' key) := by
  refine payment_step h hstep h.running.invariant.1 ?_ ?_ ?_ key
  · intro i id body hsent
    obtain ⟨held, hmem, hid, _⟩ := h.committed_held hsent
    exact ⟨held, hmem, hid⟩
  · intro i claim next hcall _ hreal
    exact ⟨hreal, i, h.claims hcall⟩
  · intro i held body next hcall _ hmem
    exact h.consents hcall hmem

theorem RunningSettling.run (h : RunningSettling py parties rest s)
    (hlater : Relation.ReflTransGen (Network.Step (settlingServer τ).Serves Unheard) s s')
    (key : String) :
    OneShot.Run (Claims py parties) (Consents py parties) (paymentOf s key) (paymentOf s' key) := by
  induction hlater with
  | refl => exact .refl
  | tail hbefore hstep ih =>
    have hreach : RunningSettling py parties rest _ := Relation.ReflTransGen.trans h hbefore
    exact ih.trans (hreach.step_run hstep key)

/-! ### What a guard sees of the register -/

/-- What a guard has seen agrees with the payment of its input: it runs under its own
    claim only, and what it was told to be charged or given back is. -/
structure Observes (py : Python) (party : Party) (trail : List GuardEvent) (payment : Payment) :
    Prop where
  entered : ∀ held, Event.act (.withBody held) ∈ trail →
    ∃ claim, party.args.reservationBody py = .ok claim ∧ payment.claim = some claim
  charged : ∀ id body outcome, Event.exchange (.commitReservation id body) outcome ∈ trail →
    outcome.succeeded = true → payment.spending = some body.actual.amount
  released : ∀ id body outcome, Event.exchange (.releaseReservation id body) outcome ∈ trail →
    outcome.succeeded = true → ∃ claim, payment = .returned claim

/-- The payment of a guard that started its body. -/
theorem RunningSettling.payment_of_mark (h : RunningSettling py parties rest s) {i : ι}
    {id : String} (hmark : Event.act (.withBody (some id)) ∈ s.trails i) :
    ∃ claim, (parties i).args.reservationBody py = .ok claim ∧
      paymentOf s (idempotencyKey py (parties i).args.mandate .reserve) =
        (standingOf s id).payment claim := by
  obtain ⟨held, hmem, hid, hbody, _⟩ := h.running.entered hmark
  cases hid
  have hclaimed : s.server.world.claimed
      (idempotencyKey py (parties i).args.mandate .reserve) = some held :=
    h.running.invariant.1.claimed_eq_some_iff.mpr ⟨hmem, key_of_reservationBody hbody⟩
  refine ⟨held.body, hbody, ?_⟩
  unfold paymentOf Books.payment
  rw [hclaimed]
  rfl

theorem RunningSettling.observes (h : RunningSettling py parties rest s) (i : ι) :
    Observes py (parties i) (s.trails i)
      (paymentOf s (idempotencyKey py (parties i).args.mandate .reserve)) := by
  have hlater : ∀ {request outcome id}, Event.exchange request outcome ∈ s.trails i →
      request.target = some id → ∃ claim,
        paymentOf s (idempotencyKey py (parties i).args.mandate .reserve) =
          (standingOf s id).payment claim := by
    intro request outcome id hseen htarget
    rcases Party.request_cases (h.running.path i) (mem_requests_iff.mpr ⟨outcome, hseen⟩) with
      ⟨_, rfl, _⟩ | ⟨_, _, _, hid, _, hmark⟩
    · cases htarget
    · cases htarget.symm.trans hid
      obtain ⟨claim, _, hpayment⟩ := h.payment_of_mark hmark
      exact ⟨claim, hpayment⟩
  refine ⟨?_, ?_, ?_⟩
  · intro held hmark
    obtain ⟨_, _, _, id, rfl, _⟩ := Party.admission_of_mark (h.running.path i) hmark
    obtain ⟨claim, hbody, hpayment⟩ := h.payment_of_mark hmark
    exact ⟨claim, hbody, hpayment ▸ Standing.payment_claim _ claim⟩
  · intro id body outcome hseen hsucceeded
    obtain ⟨claim, hpayment⟩ := hlater hseen rfl
    rw [hpayment, h.told hseen hsucceeded hsucceeded]
    rfl
  · intro id body outcome hseen hsucceeded
    obtain ⟨claim, hpayment⟩ := hlater hseen rfl
    refine ⟨claim, ?_⟩
    rw [hpayment, h.told hseen hsucceeded hsucceeded]
    rfl

/-- **Guards and server refine the payment register.**  Along every run, with any losses,
    each payment goes through a run of its own, claimed and charged by guards that want
    it; and at every moment each guard has seen what the register says. -/
theorem network_refines (h : RunningSettling py parties rest s)
    (hlater : Relation.ReflTransGen (Network.Step (settlingServer τ).Serves Unheard) s s') :
    (∀ key, OneShot.Run (Claims py parties) (Consents py parties) (paymentOf s key)
      (paymentOf s' key)) ∧
    ∀ i, Observes py (parties i) (s'.trails i)
      (paymentOf s' (idempotencyKey py (parties i).args.mandate .reserve)) := by
  have h' : RunningSettling py parties rest s' := Relation.ReflTransGen.trans h hlater
  exact ⟨h.run hlater, h'.observes⟩

/-! ### No double charge -/

/-- **A consume-once input is charged once.**  All that the server ever charges under one
    reserve key, over all reservations, is the amount that one guard with this key
    consented to, or nothing; and once it is charged it stays so. -/
theorem charged_once (h : RunningSettling py parties rest s)
    (hlater : Relation.ReflTransGen (Network.Step (settlingServer τ).Serves Unheard) s s')
    (key : String) :
    (∀ amount, (paymentOf s key).spending = some amount → s'.server.world.charged key = amount) ∧
    (s'.server.world.charged key = 0 ∨
      ∃ claim, claim.idempotencyKey = key ∧
        Consents py parties claim (s'.server.world.charged key)) := by
  have h' : RunningSettling py parties rest s' := Relation.ReflTransGen.trans h hlater
  have hconsistent := h'.running.invariant.1
  have hcharged : s'.server.world.charged key = (paymentOf s' key).spending.getD 0 :=
    hconsistent.charged_eq key
  rw [hcharged]
  refine ⟨?_, ?_⟩
  · intro amount hspent
    rw [(h.run hlater key).spending_eq hspent]
    rfl
  · have hlicensed : (paymentOf s' key).Licensed (Claims py parties) (Consents py parties) :=
      OneShot.Run.licensed (RunningSettling.run .refl h' key)
    rcases hpayment : paymentOf s' key with _ | claim | ⟨claim, amount⟩ | claim
    · exact Or.inl rfl
    · exact Or.inl rfl
    · exact Or.inr ⟨claim, hconsistent.key_of_claim (congrArg OneShot.claim hpayment),
        hlicensed.spent _ _ hpayment⟩
    · exact Or.inl rfl

end Refinement

/-- The payment and its failing retry, from the reserve of the first on. -/
theorem network_refines_paid :
    let s := paidThenFailed [false]
    let s' := s.play settlingHandle [true, false, true, false, true]
    ∀ key, OneShot.Run (Claims .sample paymentAndFailure) (Consents .sample paymentAndFailure)
      (paymentOf s key) (paymentOf s' key) := by
  intro s s'
  exact (network_refines (paidThenFailed_running _)
    (Network.play_reachable settlingHandle_serves [true, false, true, false, true] s)).1

theorem charged_once_paid :
    let s := paidThenFailed [false, false, false]
    let s' := s.play settlingHandle [true, true, true]
    s'.server.world.charged (idempotencyKey .sample .sample .reserve) = 1000000000 := by
  intro s s'
  have hspent : (paymentOf s (idempotencyKey .sample .sample .reserve)).spending =
      some 1000000000 := by
    have hseen := (paidThenFailed_running [false, false, false]).observes false
    exact hseen.charged _ _ _ (.tail _ (.tail _ (.head _))) rfl
  exact (charged_once (paidThenFailed_running _)
    (Network.play_reachable settlingHandle_serves [true, true, true] s) _).1 _ hspent

end CyclesAP2
