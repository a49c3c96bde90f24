import CyclesAP2.Client
import CyclesAP2.Interaction.Idempotency

/-!
# The Cycles server, as far as it is documented

The server of one tenant keeps one bucket for each endpoint and idempotency key.
An unseen reserve key may create one reservation with an id of its own; an equal
body replays the stored response; another body is answered with
`IDEMPOTENCY_MISMATCH`.  Bodies are equal when their Python values are.  The same rule
holds for commits and releases.  What the server decides, what it does to a reservation
later, and the type `σ` of whatever else it keeps are left open.
-/

namespace CyclesAP2

open Interaction

/-- A reservation, with the body of the request that created it. -/
structure Reservation where
  id : String
  body : ReservationBody
deriving DecidableEq

/-- The id a reserve reply grants: that of a 2xx with a decision other than DENY. -/
def Outcome.granted : Outcome → Option String
  | .raised _ => none
  | .returned response =>
    if response.isSuccess then
      match response.createResult with
      | .error _ => none
      | .ok result => if result.isDenied then none else result.reservationId
    else none

def Outcome.HasError (outcome : Outcome) (error : String) : Prop :=
  ∃ response body, outcome = .returned response ∧ response.isSuccess = false ∧
    response.getErrorResponse = .ok (some body) ∧ body.error = error

/-- What the server may answer to an unseen request, and the reservations it
    then holds. -/
inductive Applies : List Reservation → Request → Outcome → List Reservation → Prop where
  | created {reservations : List Reservation} {body : ReservationBody} {outcome : Outcome}
      {id : String} (hreal : body.dryRun = none) (hfresh : ∀ held ∈ reservations, held.id ≠ id)
      (hgranted : outcome.granted = none ∨ outcome.granted = some id) :
      Applies reservations (.createReservation body) outcome (⟨id, body⟩ :: reservations)
  | notCreated {reservations : List Reservation} {body : ReservationBody} {outcome : Outcome}
      (hgranted : outcome.granted = none) :
      Applies reservations (.createReservation body) outcome reservations
  | other {reservations : List Reservation} {request : Request} {outcome : Outcome}
      (hphase : request.phase ≠ .reserve) :
      Applies reservations request outcome reservations

/-- What the server keeps beside its records: the reservations ever created, and
    whatever else its decisions depend on. -/
structure Books (σ : Type) where
  reservations : List Reservation
  balances : σ

/-- The bucket of a request: its endpoint and its key. -/
def Request.bucket (request : Request) : KeyPhase × String :=
  (request.phase, request.key)

def cyclesServer (σ : Type) : Protocol (KeyPhase × String) Request Outcome (Books σ) where
  key := Request.bucket
  applies books request outcome books' :=
    Applies books.reservations request outcome books'.reservations
  refuses _ outcome := outcome.succeeded = false
  mismatch outcome := outcome.HasError "IDEMPOTENCY_MISMATCH"

abbrev ServerState (σ : Type) := Ledger (KeyPhase × String) Request Outcome (Books σ)

variable {σ : Type}

def ServerState.empty (balances : σ) : ServerState σ where
  recorded _ := none
  world := ⟨[], balances⟩

/-- What a guard may see when the server's answer does not reach it. -/
def Unheard (outcome : Outcome) : Prop := outcome.succeeded = false

/-! ### The records and the reservations agree -/

/-- Each reservation has an id and a key of its own and was recorded under that
    key, and what a record grants is a reservation with the recorded body. -/
structure ServerState.Consistent (l : ServerState σ) : Prop where
  ids : (l.world.reservations.map Reservation.id).Nodup
  keys : (l.world.reservations.map fun held => held.body.idempotencyKey).Nodup
  recorded : ∀ held ∈ l.world.reservations, ∃ outcome,
    l.recorded (Request.createReservation held.body).bucket =
      some (.createReservation held.body, outcome)
  granted : ∀ body outcome id,
    l.recorded (Request.createReservation body).bucket =
      some (.createReservation body, outcome) →
    outcome.granted = some id → ⟨id, body⟩ ∈ l.world.reservations

/-- What is known of an answer a guard saw: to a reserve, it is the recorded one
    or it is no 2xx. -/
def Answered (l : ServerState σ) (request : Request) (outcome : Outcome) : Prop :=
  request.phase = .reserve →
    outcome.succeeded = false ∨ l.recorded request.bucket = some (request, outcome)

theorem ServerState.empty_consistent (balances : σ) : (ServerState.empty balances).Consistent := by
  constructor <;> simp [ServerState.empty]

theorem bucket_create_eq_iff {body body' : ReservationBody} :
    (Request.createReservation body).bucket = (Request.createReservation body').bucket ↔
      body.idempotencyKey = body'.idempotencyKey := by
  simp [Request.bucket, Request.phase, Request.key]

section Keeps

variable {l l' : ServerState σ} {request : Request} {outcome : Outcome}

theorem ServerState.Consistent.bucket_ne (h : l.Consistent)
    (hunseen : l.recorded request.bucket = none) {held : Reservation}
    (hheld : held ∈ l.world.reservations) :
    (Request.createReservation held.body).bucket ≠ request.bucket := by
  intro hbucket
  obtain ⟨outcome, hrecorded⟩ := h.recorded held hheld
  rw [hbucket, hunseen] at hrecorded
  simp at hrecorded

/-- A new record without a new reservation: it must not grant anything. -/
theorem ServerState.Consistent.record (h : l.Consistent)
    (hunseen : l.recorded request.bucket = none)
    (hgranted : request.phase = .reserve → outcome.granted = none) (balances : σ) :
    ServerState.Consistent ⟨Protocol.record l.recorded request.bucket request outcome,
      ⟨l.world.reservations, balances⟩⟩ := by
  refine ⟨h.ids, h.keys, ?_, ?_⟩
  · intro held hheld
    dsimp only
    rw [Protocol.record_of_ne _ _ _ (h.bucket_ne hunseen hheld)]
    exact h.recorded held hheld
  · intro body outcome' id hrecorded hid
    dsimp only at hrecorded
    by_cases hbucket : (Request.createReservation body).bucket = request.bucket
    · rw [hbucket, Protocol.record_self] at hrecorded
      cases hrecorded
      rw [hgranted rfl] at hid
      simp at hid
    · rw [Protocol.record_of_ne _ _ _ hbucket] at hrecorded
      exact h.granted body outcome' id hrecorded hid

/-- A new reservation, with an id and a bucket not seen before. -/
theorem ServerState.Consistent.create (h : l.Consistent) {body : ReservationBody} {id : String}
    (hunseen : l.recorded (Request.createReservation body).bucket = none)
    (hfresh : ∀ held ∈ l.world.reservations, held.id ≠ id)
    (hgranted : outcome.granted = none ∨ outcome.granted = some id) (balances : σ) :
    ServerState.Consistent
      ⟨Protocol.record l.recorded (Request.createReservation body).bucket
        (.createReservation body) outcome, ⟨⟨id, body⟩ :: l.world.reservations, balances⟩⟩ := by
  constructor
  · refine List.nodup_cons.mpr ⟨?_, h.ids⟩
    intro hmem
    obtain ⟨held, hheld, heq⟩ := List.mem_map.mp hmem
    exact hfresh held hheld heq
  · refine List.nodup_cons.mpr ⟨?_, h.keys⟩
    intro hmem
    obtain ⟨held, hheld, heq⟩ := List.mem_map.mp hmem
    exact h.bucket_ne hunseen hheld (bucket_create_eq_iff.mpr heq)
  · intro held hheld
    dsimp only
    rcases List.mem_cons.mp hheld with rfl | hheld
    · exact ⟨outcome, Protocol.record_self ..⟩
    · rw [Protocol.record_of_ne _ _ _ (h.bucket_ne hunseen hheld)]
      exact h.recorded held hheld
  · intro body' outcome' id' hrecorded hid
    dsimp only at hrecorded
    by_cases hbucket : (Request.createReservation body').bucket =
        (Request.createReservation body).bucket
    · rw [hbucket, Protocol.record_self] at hrecorded
      cases hrecorded
      rcases hgranted with hnone | hsome
      · rw [hnone] at hid
        simp at hid
      · rw [hsome] at hid
        cases hid
        exact List.mem_cons_self ..
    · rw [Protocol.record_of_ne _ _ _ hbucket] at hrecorded
      exact List.mem_cons_of_mem _ (h.granted body' outcome' id' hrecorded hid)

/-- **Every service keeps the agreement.** -/
theorem ServerState.Consistent.serves (h : l.Consistent)
    (hserves : (cyclesServer σ).Serves l request outcome l') : l'.Consistent := by
  cases hserves with
  | @first _ books hunseen happlies =>
    obtain ⟨reservations, balances⟩ := books
    change Applies l.world.reservations request outcome reservations at happlies
    cases happlies with
    | created hreal hfresh hgranted => exact h.create hunseen hfresh hgranted balances
    | notCreated hgranted => exact h.record hunseen (fun _ => hgranted) balances
    | other hphase => exact h.record hunseen (fun hreserve => absurd hreserve hphase) balances
  | refused hunseen hrefuses => exact h
  | replay hseen => exact h
  | mismatch hseen hne hmismatch => exact h

theorem Outcome.HasError.not_succeeded {error : String} (h : outcome.HasError error) :
    outcome.succeeded = false := by
  obtain ⟨response, body, rfl, hsuccess, _⟩ := h
  exact hsuccess

theorem answered_of_serves (hserves : (cyclesServer σ).Serves l request outcome l') :
    Answered l' request outcome := by
  intro _
  rcases hserves.recorded_or with hrecorded | hrefused | hmismatch
  · exact Or.inr hrecorded
  · exact Or.inl hrefused
  · exact Or.inl (Outcome.HasError.not_succeeded hmismatch)

theorem Answered.serves {request' : Request} {outcome' : Outcome}
    (h : Answered l request' outcome') (hserves : (cyclesServer σ).Serves l request outcome l') :
    Answered l' request' outcome' := by
  intro hphase
  exact (h hphase).imp_right hserves.recorded_mono

end Keeps

end CyclesAP2
