import CyclesAP2.Discipline
import CyclesAP2.Server
import CyclesAP2.Interaction.Network

/-!
# Guards that share a server

Any number of guards, each in a `with` statement of its own and of either class,
run against the server of their tenant.  Their requests and the starts of their
bodies interleave in any order, and requests and replies may be lost.

`Running.entered` is what the later modules build on: a guard that has started
its body holds a reservation of the server, created by a body equal to its own.
-/

namespace CyclesAP2

open Interaction

/-- One guard, and the `with` statement it is used in. -/
structure Party where
  flavour : Flavour := .sync
  args : GuardArgs
  body : Body
  clock : Int := 0

def Party.program (py : Python) (party : Party) : GuardProgram :=
  withStatement py party.clock party.flavour party.body (GuardState.init party.args)

abbrev GuardNetwork (ι σ : Type) := Network ι (ServerState σ) Request Outcome Mark GuardResult

variable {ι σ : Type} [DecidableEq ι]

/-- The networks that these guards and the server can come to, from a server
    without any record. -/
def Running (py : Python) (parties : ι → Party) (balances : σ) (s : GuardNetwork ι σ) : Prop :=
  Network.Reachable (cyclesServer σ).Serves Unheard (ServerState.empty balances)
    (fun i => (parties i).program py) s

/-- One state of guards and server comes to another, or stays. -/
def Onward (s s' : GuardNetwork ι σ) : Prop :=
  Relation.ReflTransGen (Network.Step (cyclesServer σ).Serves Unheard) s s'

theorem Running.onward {py : Python} {parties : ι → Party} {balances : σ}
    {s s' : GuardNetwork ι σ} (h : Running py parties balances s) (honward : Onward s s') :
    Running py parties balances s' :=
  Relation.ReflTransGen.trans h honward

/-! ### One guard on its way -/

section Paths

variable {py : Python} {party : Party} {trail : List GuardEvent} {p : GuardProgram}

/-- A body that started was admitted by the reply to the reserve. -/
theorem Party.admission_of_mark (h : Program.Path (party.program py) trail p)
    {held : Option String} (hmark : Event.act (.withBody held) ∈ trail) :
    ∃ request reserve decision reservationId, held = some reservationId ∧
      party.args.reservationBody py = .ok request ∧
      admission party.args reserve = .admitted decision reservationId ∧
      Event.exchange (.createReservation request) reserve ∈ trail := by
  rcases trail_cases h with rfl | ⟨request, reserve, _, rfl⟩ |
    ⟨request, reserve, decision, reservationId, result, rest, exit, hrequest, hadmission, rfl,
      hbefore, hexit⟩
  · simp at hmark
  · simp at hmark
  · have hrest : Event.act (.withBody held) ∉ rest :=
      fun hmem => hexit.requests_spec.2.2 held (hbefore.subset hmem)
    have hheld : held = some reservationId := by simpa [hrest] using hmark
    exact ⟨request, reserve, decision, reservationId, hheld, hrequest, hadmission,
      List.mem_cons_self ..⟩

theorem ExitCourse.key_of_request {clock : Int} {flavour : Flavour} {decision : Decision}
    {reservationId : String} {left result : GuardResult}
    (h : ExitCourse py clock flavour decision reservationId left result trail)
    {request : Request} (hrequest : request ∈ requests trail) :
    request.phase ≠ .reserve ∧
      ∃ suffix, request.key = idempotencyKey py left.2.args.mandate request.phase suffix := by
  have hcommit : ∀ (self : GuardState) (body : CommitBody),
      buildCommitBody py self.args.mandate self.actualMicros
        (truthyFields (some self.commitMetadata)) = .ok body →
      body.idempotencyKey = idempotencyKey py self.args.mandate .commit := by
    intro self body hbody
    obtain ⟨_, _, rfl⟩ := buildCommitBody_ok_iff.mp hbody
    rfl
  have hphases : KeyPhase.commit ≠ .reserve ∧ KeyPhase.release ≠ .reserve := by decide
  cases h with
  | bodyRaised e self release =>
    obtain rfl := List.mem_singleton.mp hrequest
    exact ⟨hphases.2, some e.typeName, rfl⟩
  | aborted release haborted =>
    obtain rfl := List.mem_singleton.mp hrequest
    exact ⟨hphases.2, some "Aborted", rfl⟩
  | settled haborted hbody hverdict =>
    obtain rfl := List.mem_singleton.mp hrequest
    exact ⟨hphases.1, none, hcommit _ _ hbody⟩
  | raised haborted hbody hverdict =>
    obtain rfl := List.mem_singleton.mp hrequest
    exact ⟨hphases.1, none, hcommit _ _ hbody⟩
  | rejected release haborted hbody hverdict =>
    rcases List.mem_cons.mp hrequest with rfl | hrequest
    · exact ⟨hphases.1, none, hcommit _ _ hbody⟩
    · obtain rfl := List.mem_singleton.mp hrequest
      exact ⟨hphases.2, some "CommitRejected", rfl⟩

/-- A guard sends its reserve, and under the reservation its body started with
    the commit and the release of its mandate. -/
theorem Party.request_cases (h : Program.Path (party.program py) trail p) {request : Request}
    (hrequest : request ∈ requests trail) :
    (∃ body, request = .createReservation body ∧ party.args.reservationBody py = .ok body) ∨
      ∃ reservationId suffix, request.phase ≠ .reserve ∧ request.target = some reservationId ∧
        request.key = idempotencyKey py party.args.mandate request.phase suffix ∧
        Event.act (.withBody (some reservationId)) ∈ trail := by
  rcases trail_cases h with rfl | ⟨body, reserve, hbody, rfl⟩ |
    ⟨body, reserve, decision, reservationId, result, rest, exit, hbody, hadmission, rfl,
      hbefore, hexit⟩
  · cases hrequest
  · exact Or.inl ⟨body, List.mem_singleton.mp hrequest, hbody⟩
  · rcases List.mem_cons.mp hrequest with rfl | hrequest
    · exact Or.inl ⟨body, rfl, hbody⟩
    · have hsent : request ∈ requests exit := (hbefore.filterMap Event.request?).subset hrequest
      have hargs := (party.body.apply_frame py
        (GuardState.entered party.args decision reservationId)).args
      obtain ⟨hphase, suffix, hkey⟩ := hexit.key_of_request hsent
      rw [hargs] at hkey
      exact Or.inr ⟨reservationId, suffix, hphase, hexit.requests_spec.2.1 request hsent, hkey,
        .tail _ (.head _)⟩

theorem Party.program_of_body {body : ReservationBody}
    (h : party.args.reservationBody py = .ok body) :
    party.program py = .call (.createReservation body) fun reserve =>
      match admission party.args reserve with
      | .refused decision e =>
        .done (.error e, { GuardState.init party.args with decision := decision })
      | .admitted decision reservationId =>
        .act (.withBody (some reservationId))
          (exitProgram py party.clock party.flavour decision reservationId
            (party.body.apply py (GuardState.entered party.args decision reservationId))) := by
  unfold Party.program
  rewrite [withStatement_eq_lifecycle, lifecycle, h]
  rfl

theorem Party.program_of_error {e : PyExc} (h : party.args.reservationBody py = .error e) :
    party.program py = .done (.error e, GuardState.init party.args) := by
  unfold Party.program
  rewrite [withStatement_eq_lifecycle, lifecycle, h]
  rfl

/-- The POST a guard is about to send: its reserve, to begin with, and later on
    another one. -/
theorem Party.call_cases {request : Request} {next : Outcome → GuardProgram}
    (h : Program.Path (party.program py) trail (.call request next)) :
    (trail = [] ∧ ∃ body, request = .createReservation body ∧
        party.args.reservationBody py = .ok body) ∨
      trail ≠ [] ∧ request.phase ≠ .reserve ∧ party.args.dryRun = false := by
  rcases htrail : trail with _ | ⟨first, rest⟩
  · have hsent := h.snoc_exchange default
    rw [htrail] at hsent
    rcases Party.request_cases hsent (List.mem_singleton.mpr rfl) with hreserve |
      ⟨_, _, _, _, _, hmark⟩
    · exact Or.inl ⟨rfl, hreserve⟩
    · cases List.mem_singleton.mp hmark
  · refine Or.inr ⟨List.cons_ne_nil _ _, ?_⟩
    have hsent := h.snoc_exchange default
    rw [htrail] at hsent
    rcases trail_cases hsent with hnil | ⟨body, reserve, _, hone⟩ |
      ⟨body, reserve, decision, reservationId, result, after, exit, _, hadmission, hmore,
        hbefore, hexit⟩
    · simp at hnil
    · simp at hone
    · -- the POST is the last of the trail, and so belongs to the exit
      have hlast : Event.exchange request default ∈ after := by
        rcases rest with _ | ⟨second, rest⟩
        · simp at hmore
        · rw [List.cons_append, List.cons_append] at hmore
          have hafter := (List.cons.inj (List.cons.inj hmore).2).2
          rw [← hafter]
          exact List.mem_append_right _ (List.mem_singleton.mpr rfl)
      obtain ⟨_, _, _, _, _, _, _, hdry, _⟩ := admission_eq_admitted_iff.mp hadmission
      exact ⟨(hexit.key_of_request (mem_requests_iff.mpr ⟨_, hbefore.subset hlast⟩)).1, hdry⟩

end Paths

theorem granted_of_admission {args : GuardArgs} {reserve : Outcome} {decision : Decision}
    {reservationId : String} (h : admission args reserve = .admitted decision reservationId) :
    reserve.succeeded = true ∧ reserve.granted = some reservationId := by
  obtain ⟨response, result, rfl, hsuccess, hresult, rfl, hdecision, _, hid⟩ :=
    admission_eq_admitted_iff.mp h
  refine ⟨hsuccess, ?_⟩
  simp [Outcome.granted, hsuccess, hresult, ReservationCreateResponse.isDenied, hdecision, hid]

/-! ### What holds whenever guards run -/

section Running

variable {py : Python} {parties : ι → Party} {balances : σ} {s : GuardNetwork ι σ}

theorem Running.path (h : Running py parties balances s) (i : ι) :
    Program.Path ((parties i).program py) (s.trails i) (s.procs i) :=
  Network.Reachable.path h i

/-- The server is consistent, and every answer seen is a recorded one or no 2xx. -/
theorem Running.invariant (h : Running py parties balances s) :
    s.server.Consistent ∧
      ∀ i request outcome, Event.exchange request outcome ∈ s.trails i →
        Answered s.server request outcome := by
  have hkeeps : Network.Keeps (cyclesServer σ).Serves (fun _ => True) ServerState.Consistent
      Answered := {
    inv := fun hconsistent _ hserves => hconsistent.serves hserves
    seen := fun _ _ hserves => answered_of_serves hserves
    stable := fun _ _ hserves hanswered => hanswered.serves hserves }
  exact Network.Reachable.invariant hkeeps (fun hunheard _ => Or.inl hunheard)
    (fun _ _ _ _ _ => trivial) (ServerState.empty_consistent balances) h

/-- **A guard whose body has started holds a reservation**, created by a reserve
    body equal to the one it sent itself. -/
theorem Running.entered (h : Running py parties balances s) {i : ι} {held : Option String}
    (hmark : Event.act (.withBody held) ∈ s.trails i) :
    ∃ reservation ∈ s.server.world.reservations, held = some reservation.id ∧
      (parties i).args.reservationBody py = .ok reservation.body ∧
      Request.createReservation reservation.body ∈ requests (s.trails i) := by
  obtain ⟨hconsistent, hanswered⟩ := h.invariant
  obtain ⟨body, reserve, decision, reservationId, rfl, hbody, hadmission, hsent⟩ :=
    Party.admission_of_mark (h.path i) hmark
  obtain ⟨hsucceeded, hgranted⟩ := granted_of_admission hadmission
  have hrecorded : s.server.recorded (Request.createReservation body).bucket =
      some (.createReservation body, reserve) := by
    refine (hanswered i _ _ hsent rfl).resolve_left ?_
    rw [hsucceeded]
    decide
  exact ⟨⟨reservationId, body⟩, hconsistent.granted body reserve reservationId hrecorded hgranted,
    rfl, hbody, mem_requests_iff.mpr ⟨reserve, hsent⟩⟩

/-- Two reservations with one id are one reservation. -/
theorem ServerState.Consistent.eq_of_id {l : ServerState σ} (h : l.Consistent)
    {held held' : Reservation} (hheld : held ∈ l.world.reservations)
    (hheld' : held' ∈ l.world.reservations) (hid : held.id = held'.id) : held = held' :=
  List.inj_on_of_nodup_map h.ids hheld hheld' hid

theorem ServerState.Consistent.eq_of_key {l : ServerState σ} (h : l.Consistent)
    {held held' : Reservation} (hheld : held ∈ l.world.reservations)
    (hheld' : held' ∈ l.world.reservations)
    (hkey : held.body.idempotencyKey = held'.body.idempotencyKey) : held = held' :=
  List.inj_on_of_nodup_map h.keys hheld hheld' hkey

end Running

/-! ### Servers that decide by a function -/

/-- A server that answers an unseen request by a function of its books, and every
    clash of two requests under one key alike. -/
structure Policy (σ : Type) where
  fresh : Books σ → Request → Outcome × Books σ
  clash : Outcome
  applies : ∀ books request, Applies books.reservations request (fresh books request).1
    (fresh books request).2.reservations
  mismatch : clash.HasError "IDEMPOTENCY_MISMATCH"

def Policy.handle (policy : Policy σ) : ServerState σ → Request → Outcome × ServerState σ :=
  (cyclesServer σ).handle policy.fresh policy.clash

/-- Guards taking steps in this order, without losses. -/
def Policy.play (policy : Policy σ) (py : Python) (parties : ι → Party) (l : ServerState σ)
    (schedule : List ι) : GuardNetwork ι σ :=
  (Network.start l fun i => (parties i).program py).play policy.handle schedule

theorem Policy.onward (policy : Policy σ) (s : GuardNetwork ι σ) (schedule : List ι) :
    Onward s (s.play policy.handle schedule) :=
  Network.play_reachable
    (fun _ _ => Protocol.handle_serves policy.applies policy.mismatch) schedule s

theorem Policy.running (policy : Policy σ) (py : Python) (parties : ι → Party) (balances : σ)
    (schedule : List ι) :
    Running py parties balances (policy.play py parties (.empty balances) schedule) :=
  policy.onward _ schedule

/-- An id longer than those in use. -/
def freshId : List Reservation → String
  | [] => "res"
  | held :: rest => held.id ++ freshId rest

theorem freshId_ne (reservations : List Reservation) :
    ∀ held ∈ reservations, held.id ≠ freshId reservations := by
  have hlength : ∀ held ∈ reservations, held.id.length < (freshId reservations).length := by
    induction reservations with
    | nil =>
      intro held hmem
      simp at hmem
    | cons first rest ih =>
      intro held hmem
      have hpos : 0 < (freshId rest).length := by
        cases rest with
        | nil => decide
        | cons next rest => exact Nat.lt_of_le_of_lt (Nat.zero_le _) (ih next (List.mem_cons_self ..))
      rw [freshId, String.length_append]
      rcases List.mem_cons.mp hmem with rfl | hmem
      · omega
      · have := ih held hmem
        omega
  intro held hmem hid
  exact absurd (congrArg String.length hid) (Nat.ne_of_lt (hlength held hmem))

/-- A server that allows every reservation and applies what follows.  A dry run
    is allowed without a reservation. -/
def Policy.sample : Policy Unit where
  fresh books request :=
    match request with
    | .createReservation body =>
      if body.dryRun = none then
        (.returned (.success (.ok {
            decision := .allow
            reservationId := some (freshId books.reservations) })),
          { books with reservations := ⟨freshId books.reservations, body⟩ :: books.reservations })
      else (.returned (.success (.ok { decision := .allow, reservationId := none })), books)
    | _ => (.returned (.success (.error ⟨.exception, "ValidationError", ""⟩)), books)
  clash := .returned (.failure 409 ⟨"IDEMPOTENCY_MISMATCH", some "IDEMPOTENCY_MISMATCH", none⟩)
  applies books request := by
    rcases request with body | ⟨reservationId, body⟩ | ⟨reservationId, body⟩
    · by_cases hreal : body.dryRun = none
      · dsimp only
        rw [if_pos hreal]
        exact .created hreal (freshId_ne _) (Or.inr rfl)
      · dsimp only
        rw [if_neg hreal]
        exact .notCreated rfl
    · exact .other KeyPhase.noConfusion
    · exact .other KeyPhase.noConfusion
  mismatch := ⟨_, _, rfl, rfl, rfl, rfl⟩

end CyclesAP2
