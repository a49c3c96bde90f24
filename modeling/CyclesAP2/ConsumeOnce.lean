import CyclesAP2.Keys
import CyclesAP2.System

/-!
# Consume-once

All guards over one consume-once input send their reserve under one key, so at
most one reservation is created for that input, and a guard whose reserve body
differs from the one that created it is shut out (`consume_once`).

A guard whose body is equal is not: the stored reply is replayed to it, and
nothing in the guard tells a replay from a fresh reservation.  An identical retry
therefore runs its body again, also after the reservation was committed
(`retry_repeats_body`).  What remains true is `attempts_differ_only_by_retry`.
-/

namespace CyclesAP2

open Interaction

variable {ι σ : Type} [DecidableEq ι]

/-! ### The bucket of a consume-once input -/

theorem idempotencyKey_congr (py : Python) {m m' : AP2Mandate} (h : SameConsumeOnce m m')
    (phase : KeyPhase) (suffix : Option String) :
    idempotencyKey py m phase suffix = idempotencyKey py m' phase suffix := by
  unfold idempotencyKey
  rw [sameConsumeOnce_iff.mp h]

theorem key_of_reservationBody {py : Python} {args : GuardArgs} {body : ReservationBody}
    (h : args.reservationBody py = .ok body) :
    body.idempotencyKey = idempotencyKey py args.mandate .reserve := by
  obtain ⟨_, _, rfl⟩ := GuardArgs.reservationBody_ok_iff.mp h
  rfl

def reservationsFor (py : Python) (mandate : AP2Mandate) (l : ServerState σ) :
    List Reservation :=
  l.world.reservations.filter fun held =>
    decide (held.body.idempotencyKey = idempotencyKey py mandate .reserve)

theorem mem_reservationsFor {py : Python} {mandate : AP2Mandate} {l : ServerState σ}
    {held : Reservation} :
    held ∈ reservationsFor py mandate l ↔
      held ∈ l.world.reservations ∧
        held.body.idempotencyKey = idempotencyKey py mandate .reserve := by
  simp [reservationsFor]

theorem ServerState.Consistent.reservationsFor_le {l : ServerState σ} (h : l.Consistent)
    (py : Python) (mandate : AP2Mandate) : (reservationsFor py mandate l).length ≤ 1 := by
  have hnodup : (reservationsFor py mandate l).Nodup := (List.Nodup.of_map _ h.keys).filter _
  rcases hlist : reservationsFor py mandate l with _ | ⟨first, rest⟩
  · exact Nat.zero_le 1
  · rcases rest with _ | ⟨second, rest⟩
    · exact Nat.le_refl 1
    · rw [hlist] at hnodup
      have hfirst : first ∈ reservationsFor py mandate l := by simp [hlist]
      have hsecond : second ∈ reservationsFor py mandate l := by simp [hlist]
      obtain ⟨hfirst, hkey⟩ := mem_reservationsFor.mp hfirst
      obtain ⟨hsecond, hkey'⟩ := mem_reservationsFor.mp hsecond
      have heq := h.eq_of_key hfirst hsecond (hkey.trans hkey'.symm)
      simp [heq] at hnodup

/-! ### Guards that are shut out -/

/-- The guard has not started its body and never sends anything but its reserve;
    when it is left, it is left by an exception, which is AP2GuardDenied if the
    reserve was answered at all, with the error of the answer. -/
structure ShutOut (party : Party) (trail : List GuardEvent) (proc : GuardProgram) : Prop where
  noBody : ∀ held, Event.act (.withBody held) ∉ trail
  onlyReserve : ∀ request ∈ requests trail, request.phase = .reserve
  raises : ∀ result, proc = .done result → ∃ e, result.1 = .error e ∧
    ∀ request response error, Event.exchange request (.returned response) ∈ trail →
      response.getErrorResponse = .ok error →
      ∃ message, e = .guardDenied message (error.map (·.error)) (requestIdOf error)

theorem Party.shutOut {py : Python} {party : Party} {trail : List GuardEvent}
    {proc : GuardProgram} (h : Program.Path (party.program py) trail proc)
    (hfailed : ∀ request outcome, Event.exchange request outcome ∈ trail →
      outcome.succeeded = false) : ShutOut party trail proc := by
  have hnoBody : ∀ held, Event.act (.withBody held) ∉ trail := by
    intro held hmark
    obtain ⟨request, reserve, decision, reservationId, _, _, hadmission, hsent⟩ :=
      Party.admission_of_mark h hmark
    have hsucceeded := (granted_of_admission hadmission).1
    rw [hfailed _ _ hsent] at hsucceeded
    simp at hsucceeded
  refine ⟨hnoBody, ?_, ?_⟩
  · intro request hrequest
    rcases Party.request_cases h hrequest with ⟨body, rfl, _⟩ | ⟨_, _, _, _, _, hmark⟩
    · rfl
    · exact absurd hmark (hnoBody _)
  · rintro result rfl
    cases path_iff_course.mp h with
    | unsent hrequest => exact ⟨_, rfl, fun _ _ _ hmem => nomatch hmem⟩
    | @refused request reserve decision e hrequest hadmission =>
      refine ⟨e, rfl, ?_⟩
      intro request' response error hmem herror
      cases List.mem_singleton.mp hmem
      have hsuccess : response.isSuccess = false := hfailed _ _ (List.mem_cons_self ..)
      dsimp only [admission] at hadmission
      rw [if_pos hsuccess, herror] at hadmission
      cases hadmission
      exact ⟨_, rfl⟩
    | entered hrequest hadmission hexit => exact absurd (.tail _ (.head _)) (hnoBody _)

/-! ### Consume-once -/

/-- What consume-once promises of a mandate: at most one reservation exists; a guard
    whose body runs or has run holds it, and sent the body that created it; a guard
    with another reserve body is shut out. -/
structure ConsumedOnce (py : Python) (parties : ι → Party) (mandate : AP2Mandate)
    (s : GuardNetwork ι σ) : Prop where
  single : (reservationsFor py mandate s.server).length ≤ 1
  entered : ∀ i, SameConsumeOnce mandate (parties i).args.mandate →
    ∀ held, Event.act (.withBody held) ∈ s.trails i →
      ∃ reservation ∈ reservationsFor py mandate s.server, held = some reservation.id ∧
        Request.createReservation reservation.body ∈ requests (s.trails i)
  differing : ∀ i, SameConsumeOnce mandate (parties i).args.mandate →
    ∀ reservation ∈ reservationsFor py mandate s.server,
      (parties i).args.reservationBody py ≠ .ok reservation.body →
      ShutOut (parties i) (s.trails i) (s.procs i)

/-- **Consume-once.**  In every state that guards can come to, whatever the order
    of their steps and whatever is lost on the way. -/
theorem consume_once {py : Python} {parties : ι → Party} {balances : σ} {s : GuardNetwork ι σ}
    (h : Running py parties balances s) (mandate : AP2Mandate) :
    ConsumedOnce py parties mandate s := by
  obtain ⟨hconsistent, hanswered⟩ := h.invariant
  refine ⟨hconsistent.reservationsFor_le py mandate, ?_, ?_⟩
  · intro i hsame held hmark
    obtain ⟨reservation, hmem, hheld, hbody, hsent⟩ := h.entered hmark
    refine ⟨reservation, mem_reservationsFor.mpr ⟨hmem, ?_⟩, hheld, hsent⟩
    rw [key_of_reservationBody hbody, idempotencyKey_congr py hsame]
  · intro i hsame reservation hreservation hdiffers
    obtain ⟨hmem, hkey⟩ := mem_reservationsFor.mp hreservation
    have hnoBody : ∀ held, Event.act (.withBody held) ∉ s.trails i := by
      intro held hmark
      obtain ⟨reservation', hmem', _, hbody, _⟩ := h.entered hmark
      have hkey' := key_of_reservationBody hbody
      rw [← idempotencyKey_congr py hsame] at hkey'
      obtain rfl := hconsistent.eq_of_key hmem hmem' (hkey.trans hkey'.symm)
      exact hdiffers hbody
    refine Party.shutOut (h.path i) ?_
    intro request outcome hsent
    -- the record of the reserve key belongs to the reservation, not to this guard
    rcases Party.request_cases (h.path i) (mem_requests_iff.mpr ⟨outcome, hsent⟩) with
      ⟨body, rfl, hbody⟩ | ⟨_, _, _, _, _, hmark⟩
    · refine (hanswered i _ _ hsent rfl).resolve_right ?_
      intro hrecorded
      obtain ⟨outcome', hrecorded'⟩ := hconsistent.recorded reservation hmem
      have hbucket : (Request.createReservation reservation.body).bucket =
          (Request.createReservation body).bucket := by
        rw [bucket_create_eq_iff, hkey, key_of_reservationBody hbody,
          idempotencyKey_congr py hsame]
      rw [hbucket, hrecorded] at hrecorded'
      cases hrecorded'
      exact hdiffers hbody
    · exact absurd hmark (hnoBody _)

/-- Two guards with transactions of their own under one open mandate. -/
def rivals (second : Bool) : Party where
  args := { GuardArgs.sample with
    mandate := { AP2Mandate.sampleOpen with
      transactionId := if second then { val := "tx-2" } else AP2Mandate.sample.transactionId } }
  body := { calls := [] }

/-- The second guard reserves between the reserve and the body of the first. -/
theorem consume_once_rivals :
    ConsumedOnce .sample rivals .sampleOpen
        (Policy.sample.play .sample rivals (.empty ()) [false, true, false, true]) ∧
      Event.act (.withBody (some "res")) ∈
        (Policy.sample.play .sample rivals (.empty ()) [false, true, false, true]).trails false :=
  ⟨consume_once (Policy.running ..) _, .tail _ (.head _)⟩

/-! ### Retries -/

/-- No two related guards start their bodies under one reservation. -/
def OneBody (R : ι → ι → Prop) (s : GuardNetwork ι σ) : Prop :=
  ∀ i j reservationId, R i j → Event.act (.withBody (some reservationId)) ∈ s.trails i →
    Event.act (.withBody (some reservationId)) ∉ s.trails j

/-- From `s` to `s'`, no guard starts its body under a reservation for which a
    related guard had sent a commit or a release. -/
def NoLateBody (R : ι → ι → Prop) (s s' : GuardNetwork ι σ) : Prop :=
  ∀ i j reservationId request, R i j → request ∈ requests (s.trails j) →
    request.target = some reservationId →
    Event.act (.withBody (some reservationId)) ∉ s.trails i →
    Event.act (.withBody (some reservationId)) ∉ s'.trails i

/-- The two guards send equal reserve bodies. -/
def Retry (py : Python) (parties : ι → Party) (i j : ι) : Prop :=
  ∃ body, (parties i).args.reservationBody py = .ok body ∧
    (parties j).args.reservationBody py = .ok body

/-- Two guards under one reservation are retries of each other. -/
theorem Running.retry {py : Python} {parties : ι → Party} {balances : σ} {s : GuardNetwork ι σ}
    (h : Running py parties balances s) {i j : ι} {reservationId : String}
    (hi : Event.act (.withBody (some reservationId)) ∈ s.trails i)
    (hj : Event.act (.withBody (some reservationId)) ∈ s.trails j) : Retry py parties i j := by
  obtain ⟨held, hmem, hid, hbody, _⟩ := h.entered hi
  obtain ⟨held', hmem', hid', hbody', _⟩ := h.entered hj
  cases hid
  obtain rfl := h.invariant.1.eq_of_id hmem hmem' (Option.some.inj hid')
  exact ⟨held.body, hbody, hbody'⟩

/-- **Attempts under one reservation are retries.**  Of guards with different
    reserve bodies at most one starts its body under a reservation, and none does
    so once another has committed or released it. -/
theorem attempts_differ_only_by_retry {py : Python} {parties : ι → Party} {balances : σ}
    {s s' : GuardNetwork ι σ} (h : Running py parties balances s) (honward : Onward s s') :
    OneBody (fun i j => ¬ Retry py parties i j) s' ∧
      NoLateBody (fun i j => ¬ Retry py parties i j) s s' := by
  have h' := h.onward honward
  refine ⟨?_, ?_⟩
  · intro i j reservationId hdiffers hi hj
    exact hdiffers (h'.retry hi hj)
  · intro i j reservationId request hdiffers hrequest htarget _ hi
    rcases Party.request_cases (h.path j) hrequest with ⟨body, rfl, _⟩ | ⟨_, _, _, hid, _, hmark⟩
    · cases htarget
    · cases htarget.symm.trans hid
      exact hdiffers (h'.retry hi ((Network.trails_grow honward j).subset hmark))

/-- The first of two rivals has committed, and then the second runs. -/
theorem attempts_differ_only_by_retry_rivals :
    let s := Policy.sample.play .sample rivals (.empty ()) [false, false, false]
    let s' := s.play Policy.sample.handle [true, true, true]
    OneBody (fun i j => ¬ Retry .sample rivals i j) s' ∧
      NoLateBody (fun i j => ¬ Retry .sample rivals i j) s s' ∧
      ∃ request ∈ requests (s.trails false), request.target = some "res" := by
  intro s s'
  obtain ⟨hone, hlate⟩ := attempts_differ_only_by_retry
    (Policy.sample.running .sample rivals () [false, false, false])
    (Policy.sample.onward s [true, true, true])
  exact ⟨hone, hlate, _, mem_requests_iff.mpr ⟨_, .tail _ (.tail _ (.head _))⟩, rfl⟩

def retries (_ : Bool) : Party where
  args := .sample
  body := { calls := [] }

/-- The first guard runs and commits; the second one, an identical retry, then
    starts its body under the same reservation. -/
theorem retry_repeats_body :
    ∃ s s' : GuardNetwork Bool Unit, Running .sample retries () s ∧ Onward s s' ∧
      ¬ OneBody (· ≠ ·) s' ∧ ¬ NoLateBody (· ≠ ·) s s' := by
  let s := Policy.sample.play .sample retries (.empty ()) [false, false, false]
  let s' := s.play Policy.sample.handle [true, true]
  have hfirst : Event.act (.withBody (some "res")) ∈ s'.trails false := .tail _ (.head _)
  have hsecond : Event.act (.withBody (some "res")) ∈ s'.trails true := .tail _ (.head _)
  refine ⟨s, s', Policy.running .., ?_, ?_, ?_⟩
  · exact Policy.sample.onward s _
  · intro honce
    exact honce false true "res" Bool.false_ne_true hfirst hsecond
  · intro hlate
    refine hlate true false "res" _ Bool.false_ne_true.symm
      (mem_requests_iff.mpr ⟨_, .tail _ (.tail _ (.head _))⟩) rfl ?_ hsecond
    exact List.not_mem_nil

end CyclesAP2
