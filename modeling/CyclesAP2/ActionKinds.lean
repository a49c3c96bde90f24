import CyclesAP2.ConsumeOnce

/-!
# Charge and refund of one mandate

The keys are computed from the mandate alone, so a charge and a refund over one
mandate post their reserves under one key, with bodies that differ in the action.
The second of the two is therefore turned down by the server
(`refund_turned_down`), and never gets as far as a key of a later phase.
`actionKinds_apart` is what keeps the two from mixing: no commit or release key is
shared, nothing is replayed from one to the other, and only one of them starts its
body.
-/

namespace CyclesAP2

open Interaction

variable {ι σ : Type} [DecidableEq ι]

/-! ### Keys of one mandate -/

theorem take_phase_text (phase : KeyPhase) (rest : List Char) :
    (phase.text.toList ++ rest).take 3 = phase.text.toList.take 3 := by
  cases phase <;> rfl

/-- Over one mandate, keys of different phases differ, whatever their suffixes.
    Unlike the general statement on keys this rests on nothing the digest does. -/
theorem phase_of_idempotencyKey {py : Python} {mandate : AP2Mandate} {phase phase' : KeyPhase}
    {suffix suffix' : Option String}
    (h : idempotencyKey py mandate phase suffix = idempotencyKey py mandate phase' suffix') :
    phase = phase' := by
  have hsplit : ∀ phase suffix, ∃ rest, (idempotencyKey py mandate phase suffix).toList =
      (IDEMPOTENCY_PREFIX ++ ":" ++ (consumeOnceInput mandate).1.text ++ ":" ++
        hashInput py (consumeOnceInput mandate).2 ++ ":").toList ++
        (phase.text.toList ++ rest) := by
    intro phase suffix
    unfold idempotencyKey
    rcases truthyText suffix with _ | suffix
    · exact ⟨[], by simp⟩
    · exact ⟨(":" ++ slice (safeSuffix suffix) 64).toList, by simp⟩
  obtain ⟨rest, hkey⟩ := hsplit phase suffix
  obtain ⟨rest', hkey'⟩ := hsplit phase' suffix'
  rw [h, hkey'] at hkey
  have htake := congrArg (List.take 3) (List.append_cancel_left hkey)
  rw [take_phase_text, take_phase_text] at htake
  revert htake
  cases phase <;> cases phase' <;> decide

/-! ### Guards over one mandate with different action kinds -/

/-- No key that `i` sent was sent by `j`. -/
def NoSharedKey (s : GuardNetwork ι σ) (i j : ι) : Prop :=
  ∀ request ∈ requests (s.trails i), ∀ request' ∈ requests (s.trails j),
    request.key ≠ request'.key

/-- Two guards whose requests do not touch each other: a key they share is that of
    their reserves, whose bodies differ, and at most one of them starts its body. -/
structure Apart (py : Python) (parties : ι → Party) (s : GuardNetwork ι σ) (i j : ι) : Prop where
  sharedKey : ∀ request ∈ requests (s.trails i), ∀ request' ∈ requests (s.trails j),
    request.key = request'.key →
      request.phase = .reserve ∧ request'.phase = .reserve ∧ request ≠ request'
  oneBody : ∀ held held', Event.act (.withBody held) ∈ s.trails i →
    Event.act (.withBody held') ∉ s.trails j
  reserveKey : ∀ body body', (parties i).args.reservationBody py = .ok body →
    (parties j).args.reservationBody py = .ok body' →
    body.idempotencyKey = body'.idempotencyKey ∧ body ≠ body'

theorem actionKind_of_reservationBody {py : Python} {args : GuardArgs} {body : ReservationBody}
    (h : args.reservationBody py = .ok body) : body.action.kind = args.actionKind := by
  obtain ⟨_, _, rfl⟩ := GuardArgs.reservationBody_ok_iff.mp h
  rfl

theorem Party.key_of_request {py : Python} {party : Party} {trail : List GuardEvent}
    {p : GuardProgram} (h : Program.Path (party.program py) trail p) {request : Request}
    (hrequest : request ∈ requests trail) :
    ∃ suffix, request.key = idempotencyKey py party.args.mandate request.phase suffix := by
  rcases Party.request_cases h hrequest with ⟨body, rfl, hbody⟩ | ⟨_, suffix, _, _, hkey, _⟩
  · exact ⟨none, key_of_reservationBody hbody⟩
  · exact ⟨suffix, hkey⟩

/-- **Charge and refund of one mandate stay apart**, in every state that guards
    can come to. -/
theorem actionKinds_apart {py : Python} {parties : ι → Party} {balances : σ}
    {s : GuardNetwork ι σ} (h : Running py parties balances s) {i j : ι}
    (hmandate : (parties i).args.mandate = (parties j).args.mandate)
    (hkind : (parties i).args.actionKind ≠ (parties j).args.actionKind) :
    Apart py parties s i j := by
  have hreserveKey : ∀ body body', (parties i).args.reservationBody py = .ok body →
      (parties j).args.reservationBody py = .ok body' →
      body.idempotencyKey = body'.idempotencyKey ∧ body ≠ body' := by
    intro body body' hbody hbody'
    refine ⟨?_, ?_⟩
    · rw [key_of_reservationBody hbody, key_of_reservationBody hbody', hmandate]
    · rintro rfl
      exact hkind ((actionKind_of_reservationBody hbody).symm.trans
        (actionKind_of_reservationBody hbody'))
  have honeBody : ∀ held held', Event.act (.withBody held) ∈ s.trails i →
      Event.act (.withBody held') ∉ s.trails j := by
    intro held held' hi hj
    obtain ⟨reservation, hmem, _, hbody, _⟩ := h.entered hi
    obtain ⟨reservation', hmem', _, hbody', _⟩ := h.entered hj
    obtain ⟨hkey, hne⟩ := hreserveKey _ _ hbody hbody'
    obtain rfl := h.invariant.1.eq_of_key hmem hmem' hkey
    exact hne rfl
  refine ⟨?_, honeBody, hreserveKey⟩
  intro request hrequest request' hrequest' hkey
  obtain ⟨suffix, hi⟩ := Party.key_of_request (h.path i) hrequest
  obtain ⟨suffix', hj⟩ := Party.key_of_request (h.path j) hrequest'
  rw [hi, hj, hmandate] at hkey
  have hphase := phase_of_idempotencyKey hkey
  rcases Party.request_cases (h.path i) hrequest with ⟨body, rfl, hbody⟩ |
    ⟨_, _, hne, _, _, hmark⟩
  · rcases Party.request_cases (h.path j) hrequest' with ⟨body', rfl, hbody'⟩ |
      ⟨_, _, hne', _, _, _⟩
    · refine ⟨rfl, rfl, ?_⟩
      intro heq
      cases heq
      exact (hreserveKey _ _ hbody hbody').2 rfl
    · exact absurd hphase.symm hne'
  · rcases Party.request_cases (h.path j) hrequest' with ⟨body', rfl, hbody'⟩ |
      ⟨_, _, _, _, _, hmark'⟩
    · exact absurd hphase hne
    · exact absurd hmark' (honeBody _ _ hmark)

def chargeAndRefund (refund : Bool) : Party where
  args := { GuardArgs.sample with
    actionKind := if refund then "payment.refund" else DEFAULT_ACTION_KIND }
  body := { calls := [] }

theorem actionKinds_apart_refund :
    Apart .sample chargeAndRefund
      (Policy.sample.play .sample chargeAndRefund (.empty ()) [false, false, false, true])
      false true :=
  actionKinds_apart (Policy.sample.running ..) rfl (by decide)

/-- After a charge that was committed, the refund of the same mandate posts its
    reserve under the key of the charge and is turned down because of it. -/
theorem refund_turned_down :
    let s := Policy.sample.play .sample chargeAndRefund (.empty ()) [false, false, false, true]
    ¬ NoSharedKey s false true ∧
      ∃ request outcome, Event.exchange request outcome ∈ s.trails true ∧
        outcome.HasError "IDEMPOTENCY_MISMATCH" := by
  intro s
  refine ⟨?_, _, _, .head _, Policy.sample.mismatch⟩
  intro hshared
  exact hshared _ (.head _) _ (.head _) rfl

end CyclesAP2
