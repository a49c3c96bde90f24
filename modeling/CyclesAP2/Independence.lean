import CyclesAP2.Interaction.Splice
import CyclesAP2.Register

/-!
# Payments are independent

Guards over different consume-once inputs have nothing to do with each other.  Split any
number of guards into two groups that share no consume-once input.  What the one group
goes through in some run, and what the other group goes through in any other run, they
also go through together in one run; and what the server charges for each group there is
what it charged in its own run (`payments_independent`).  The server only has to use
different ids for the two groups.

The settling server leaves its decisions open, so that the one run is among those that it
allows.  A server that decides by a budget both groups draw on may never take it.

The other run may be one in which nobody moves.  So what can become of a payment, and what
is charged for it, is decided among the guards that share its consume-once input and the
server alone.
-/

namespace CyclesAP2

open Interaction

/-! ### The keys of a group -/

section Keys

variable {ι : Type}

/-- The key is one of those under which the guards of `J` send their requests. -/
def KeyOf (py : Python) (parties : ι → Party) (J : ι → Prop) (key : String) : Prop :=
  ∃ i phase suffix, J i ∧ key = idempotencyKey py (parties i).args.mandate phase suffix

/-- The guards of `J` share no consume-once input with the others. -/
structure Separated (py : Python) (parties : ι → Party) (J : ι → Prop) : Prop where
  digest : ∀ i, IsDigest (hashInput py (consumeOnceInput (parties i).args.mandate).2)
  differ : ∀ i j, J i → ¬J j → ¬SameConsumeOnce (parties i).args.mandate (parties j).args.mandate
  injective : ∀ i j, J i → ¬J j →
    hashInput py (consumeOnceInput (parties i).args.mandate).2 =
      hashInput py (consumeOnceInput (parties j).args.mandate).2 →
    (consumeOnceInput (parties i).args.mandate).2 = (consumeOnceInput (parties j).args.mandate).2

variable {py : Python} {parties : ι → Party} {J : ι → Prop}

theorem Separated.compl (h : Separated py parties J) : Separated py parties fun i => ¬J i where
  digest := h.digest
  differ i j hi hj hsame :=
    h.differ j i (not_not.mp hj) hi (sameConsumeOnce_iff.mpr (sameConsumeOnce_iff.mp hsame).symm)
  injective i j hi hj heq := (h.injective j i (not_not.mp hj) hi heq.symm).symm

theorem Separated.key_ne (h : Separated py parties J) {i j : ι} (hi : J i) (hj : ¬J j)
    {phase phase' : KeyPhase} {suffix suffix' : Option String} :
    idempotencyKey py (parties i).args.mandate phase suffix ≠
      idempotencyKey py (parties j).args.mandate phase' suffix' := by
  intro heq
  rw [idempotencyKey_eq_iff_keyFields (h.digest i) (h.digest j), keyFields_eq_iff] at heq
  obtain ⟨hscope, hhash, _⟩ := heq
  exact h.differ i j hi hj
    (sameConsumeOnce_iff.mpr (Prod.ext hscope (h.injective i j hi hj hhash)))

/-- No key of the others is a key of the group. -/
theorem Separated.not_keyOf_other (h : Separated py parties J) {j : ι} (hj : ¬J j)
    (phase : KeyPhase) (suffix : Option String) :
    ¬KeyOf py parties J (idempotencyKey py (parties j).args.mandate phase suffix) := by
  rintro ⟨i, phase', suffix', hi, hkey⟩
  exact h.key_ne hi hj hkey.symm

theorem Separated.not_keyOf (h : Separated py parties J) {key : String}
    (hkey : KeyOf py parties (fun i => ¬J i) key) : ¬KeyOf py parties J key := by
  obtain ⟨j, phase, suffix, hj, rfl⟩ := hkey
  exact h.not_keyOf_other hj phase suffix

theorem keyOf_self {i : ι} (hi : J i) (phase : KeyPhase) (suffix : Option String) :
    KeyOf py parties J (idempotencyKey py (parties i).args.mandate phase suffix) :=
  ⟨i, phase, suffix, hi, rfl⟩

end Keys

/-! ### What the servers do -/

/-- One standing is as far as another one, but for a reservation that may have been given
    back in the meantime. -/
def Standing.Lags (standing later : Standing) : Prop :=
  standing = later ∨ standing = .active ∧ ∀ amount, later ≠ .settled amount

/-- The books `v` have those reservations of `w` that were made under an own key, as they
    stand there, and all of `base`. -/
structure Books.Follows {τ : Type} (own : String → Prop) (base w v : Books (Accounts τ)) :
    Prop where
  reservations : ∀ held, held ∈ v.reservations ↔
    held ∈ base.reservations ∨ held ∈ w.reservations ∧ own held.body.idempotencyKey
  lags : ∀ held ∈ w.reservations, own held.body.idempotencyKey →
    (v.balances.standing held.id).Lags (w.balances.standing held.id)
  kept : ∀ held ∈ base.reservations,
    v.balances.standing held.id = base.balances.standing held.id
  untouched : ∀ id, (∀ held ∈ v.reservations, held.id ≠ id) →
    v.balances.standing id = .active

/-- What is known of a request: it is made under one of these keys, and addressed to a
    reservation that was made under one of these keys. -/
structure Addresses {τ : Type} (own : String → Prop) (l : ServerState (Accounts τ))
    (request : Request) : Prop where
  key : own request.key
  target : ∀ id, request.target = some id →
    ∃ held ∈ l.world.reservations, held.id = id ∧ own held.body.idempotencyKey
  consistent : l.Consistent
  charged : ∀ id amount, l.world.balances.standing id = .settled amount →
    ∃ held ∈ l.world.reservations, held.id = id

/-- No own reservation has an id of these. -/
def FreshFor {τ : Type} (own : String → Prop) (base w : Books (Accounts τ)) : Prop :=
  ∀ held ∈ w.reservations, own held.body.idempotencyKey →
    ∀ held' ∈ base.reservations, held'.id ≠ held.id

open Classical in
/-- The standings of the own reservations are those of `w`, the others stay as they are. -/
noncomputable def followedStanding {τ : Type} (own : String → Prop) (w v : Books (Accounts τ))
    (id : String) : Standing :=
  if ∃ held ∈ w.reservations, held.id = id ∧ own held.body.idempotencyKey then
    w.balances.standing id
  else v.balances.standing id

/-- The books `v` after they have followed `w`, with these reservations. -/
noncomputable def Books.followed {τ : Type} (own : String → Prop) (w v : Books (Accounts τ))
    (reservations : List Reservation) : Books (Accounts τ) where
  reservations := reservations
  balances := { v.balances with standing := followedStanding own w v }

section Servers

variable {τ : Type} {own : String → Prop} {base w w' v : Books (Accounts τ)} {request : Request}
  {outcome : Outcome}

theorem followedStanding_of_own {held : Reservation} (hmem : held ∈ w.reservations)
    (hown : own held.body.idempotencyKey) :
    followedStanding own w v held.id = w.balances.standing held.id :=
  if_pos ⟨held, hmem, rfl, hown⟩

theorem followedStanding_of_other {id : String}
    (h : ∀ held ∈ w.reservations, own held.body.idempotencyKey → held.id ≠ id) :
    followedStanding own w v id = v.balances.standing id :=
  if_neg fun ⟨held, hmem, hid, hown⟩ => h held hmem hown hid

/-- A reservation was there, or is the one that is made. -/
theorem Applies.mem_cases {reservations reservations' : List Reservation}
    (h : Applies reservations request outcome reservations') {held : Reservation}
    (hmem : held ∈ reservations') :
    held ∈ reservations ∨
      request = .createReservation held.body ∧ ∀ held' ∈ reservations, held'.id ≠ held.id := by
  cases h with
  | created hreal hfresh hgranted =>
    rcases List.mem_cons.mp hmem with rfl | hold
    · exact Or.inr ⟨rfl, hfresh⟩
    · exact Or.inl hold
  | notCreated hgranted => exact Or.inl hmem
  | other hphase => exact Or.inl hmem

/-- An own reserve can be answered alike. -/
theorem Books.Follows.applies (hfollows : Books.Follows own base w v) (hown : own request.key)
    (h : Applies w.reservations request outcome w'.reservations) (hfresh : FreshFor own base w') :
    ∃ reservations, Applies v.reservations request outcome reservations ∧
      ∀ held, held ∈ reservations ↔
        held ∈ base.reservations ∨ held ∈ w'.reservations ∧ own held.body.idempotencyKey := by
  obtain ⟨reservations', balances'⟩ := w'
  dsimp only at h ⊢
  cases h with
  | @created body outcome id hreal hnew hgranted =>
    refine ⟨⟨id, body⟩ :: v.reservations, .created hreal ?_ hgranted, ?_⟩
    · intro held hmem
      rcases (hfollows.reservations held).mp hmem with hbase | ⟨hw, _⟩
      · exact hfresh ⟨id, body⟩ (.head _) hown held hbase
      · exact hnew held hw
    · intro held
      rw [List.mem_cons, List.mem_cons, hfollows.reservations]
      constructor
      · rintro (rfl | hbase | ⟨hw, hkey⟩)
        · exact Or.inr ⟨Or.inl rfl, hown⟩
        · exact Or.inl hbase
        · exact Or.inr ⟨Or.inr hw, hkey⟩
      · rintro (hbase | ⟨rfl | hw, hkey⟩)
        · exact Or.inr (Or.inl hbase)
        · exact Or.inl rfl
        · exact Or.inr (Or.inr ⟨hw, hkey⟩)
  | notCreated hgranted => exact ⟨v.reservations, .notCreated hgranted, hfollows.reservations⟩
  | other hphase => exact ⟨v.reservations, .other hphase, hfollows.reservations⟩

/-- Nothing has been done to an id that neither server has used. -/
theorem Books.Follows.active (hfollows : Books.Follows own base w v) {id : String}
    (hw : ∀ held ∈ w.reservations, held.id ≠ id)
    (hbase : ∀ held ∈ base.reservations, held.id ≠ id) :
    v.balances.standing id = .active := by
  refine hfollows.untouched id ?_
  intro held hmem
  rcases (hfollows.reservations held).mp hmem with hmem | ⟨hmem, _⟩
  · exact hbase held hmem
  · exact hw held hmem

/-- A reservation that is finished there is finished alike. -/
theorem Standing.Lags.eq_of_ne {standing later : Standing} (h : standing.Lags later)
    (hne : standing ≠ .active) : standing = later := by
  rcases h with heq | ⟨hactive, _⟩
  · exact heq
  · exact absurd hactive hne

theorem Standing.Lags.eq_of_settled {standing : Standing} {amount : Int}
    (h : standing.Lags (.settled amount)) : standing = .settled amount := by
  rcases h with heq | ⟨_, hnot⟩
  · exact heq
  · exact absurd rfl (hnot amount)

/-- An own reservation was followed before, or it is new and nothing was done to its id. -/
theorem Books.Follows.own_cases (hfollows : Books.Follows own base w v)
    (happlies : Applies w.reservations request outcome w'.reservations)
    (hfresh : FreshFor own base w') {held : Reservation} (hmem : held ∈ w'.reservations)
    (hkey : own held.body.idempotencyKey) :
    (v.balances.standing held.id).Lags (w.balances.standing held.id) ∨
      v.balances.standing held.id = .active ∧ ∀ held' ∈ w.reservations, held'.id ≠ held.id := by
  rcases happlies.mem_cases hmem with hold | ⟨_, hnew⟩
  · exact Or.inl (hfollows.lags held hold hkey)
  · exact Or.inr ⟨hfollows.active hnew (hfresh held hmem hkey), hnew⟩

theorem Settles.followed (h : Settles w request outcome w')
    (hfollows : Books.Follows own base w v) (hfresh : FreshFor own base w')
    (htarget : ∀ id, request.target = some id →
      ∃ held ∈ w.reservations, held.id = id ∧ own held.body.idempotencyKey)
    (hcharged : ∀ id amount, w.balances.standing id = .settled amount →
      ∃ held ∈ w.reservations, held.id = id)
    {reservations : List Reservation}
    (happlies : Applies v.reservations request outcome reservations) :
    Settles v request outcome (Books.followed own w' v reservations) := by
  have htargeted : ∀ id, request.target = some id →
      followedStanding own w' v id = w'.balances.standing id := by
    intro id hid
    obtain ⟨held, hmem, rfl, hkey⟩ := htarget id hid
    exact followedStanding_of_own (h.applies.mem_mono hmem) hkey
  constructor
  case applies => exact happlies
  case final =>
    intro id hne
    change followedStanding own w' v id = v.balances.standing id
    by_cases hid : ∃ held ∈ w'.reservations, held.id = id ∧ own held.body.idempotencyKey
    · obtain ⟨held, hmem, rfl, hkey⟩ := hid
      rw [followedStanding_of_own hmem hkey]
      rcases hfollows.own_cases h.applies hfresh hmem hkey with hlags | ⟨hactive, _⟩
      · have heq := hlags.eq_of_ne hne
        rw [heq]
        exact h.final held.id (heq ▸ hne)
      · exact absurd hactive hne
    · exact if_neg hid
  case settled =>
    intro id body hrequest hsucceeded
    change followedStanding own w' v id = _
    rw [htargeted id (by rw [hrequest]; rfl)]
    exact h.settled id body hrequest hsucceeded
  case released =>
    intro id body hrequest hsucceeded
    change followedStanding own w' v id = _
    rw [htargeted id (by rw [hrequest]; rfl)]
    exact h.released id body hrequest hsucceeded
  case charges =>
    intro id amount hsettled
    change followedStanding own w' v id = _ at hsettled
    by_cases hid : ∃ held ∈ w'.reservations, held.id = id ∧ own held.body.idempotencyKey
    · obtain ⟨held, hmem, rfl, hkey⟩ := hid
      rw [followedStanding_of_own hmem hkey] at hsettled
      rcases h.charges held.id amount hsettled with hold | hcommit
      · rcases hfollows.own_cases h.applies hfresh hmem hkey with hlags | ⟨_, hnew⟩
        · rw [hold] at hlags
          exact Or.inl hlags.eq_of_settled
        · obtain ⟨held', hmem', heq⟩ := hcharged held.id amount hold
          exact absurd heq (hnew held' hmem')
      · exact Or.inr hcommit
    · rw [followedStanding, if_neg hid] at hsettled
      exact Or.inl hsettled

theorem Books.Follows.followed (hfollows : Books.Follows own base w v)
    (happlies : Applies w.reservations request outcome w'.reservations)
    (hfresh : FreshFor own base w') {reservations : List Reservation}
    (hreservations : ∀ held, held ∈ reservations ↔
      held ∈ base.reservations ∨ held ∈ w'.reservations ∧ own held.body.idempotencyKey) :
    Books.Follows own base w' (Books.followed own w' v reservations) := by
  constructor
  case reservations => exact hreservations
  case lags =>
    intro held hmem hkey
    exact Or.inl (followedStanding_of_own hmem hkey)
  case kept =>
    intro held hmem
    refine (followedStanding_of_other ?_).trans (hfollows.kept held hmem)
    intro held' hmem' hkey heq
    exact hfresh held' hmem' hkey held hmem heq.symm
  case untouched =>
    intro id hunused
    refine (followedStanding_of_other ?_).trans (hfollows.untouched id ?_)
    · intro held hmem hkey
      exact hunused held ((hreservations held).mpr (Or.inr ⟨hmem, hkey⟩))
    · intro held hmem
      refine hunused held ((hreservations held).mpr ?_)
      rcases (hfollows.reservations held).mp hmem with hbase | ⟨hold, hkey⟩
      · exact Or.inl hbase
      · exact Or.inr ⟨happlies.mem_mono hold, hkey⟩

/-- What the server does for an own request, the other one can do too. -/
theorem Settles.follow (h : Settles w request outcome w') (hfollows : Books.Follows own base w v)
    (hown : own request.key)
    (htarget : ∀ id, request.target = some id →
      ∃ held ∈ w.reservations, held.id = id ∧ own held.body.idempotencyKey)
    (hcharged : ∀ id amount, w.balances.standing id = .settled amount →
      ∃ held ∈ w.reservations, held.id = id)
    (hfresh : FreshFor own base w') :
    ∃ v', Settles v request outcome v' ∧ Books.Follows own base w' v' := by
  obtain ⟨reservations, happlies, hreservations⟩ := hfollows.applies hown h.applies hfresh
  exact ⟨_, h.followed hfollows hfresh htarget hcharged happlies,
    hfollows.followed h.applies hfresh hreservations⟩

/-- What the server does for another request leaves the own reservations alone, but for
    those that expire meanwhile. -/
theorem Settles.pass (h : Settles w request outcome w') (hfollows : Books.Follows own base w v)
    (hother : ¬own request.key)
    (htarget : ∀ id, request.target = some id → ∀ held ∈ w.reservations,
      own held.body.idempotencyKey → held.id ≠ id) :
    Books.Follows own base w' v := by
  have hold : ∀ held ∈ w'.reservations, own held.body.idempotencyKey → held ∈ w.reservations := by
    intro held hmem hkey
    rcases h.applies.mem_cases hmem with hold | ⟨hrequest, _⟩
    · exact hold
    · rw [hrequest] at hother
      exact absurd hkey hother
  constructor
  case reservations =>
    intro held
    rw [hfollows.reservations]
    constructor
    · rintro (hbase | ⟨hmem, hkey⟩)
      · exact Or.inl hbase
      · exact Or.inr ⟨h.applies.mem_mono hmem, hkey⟩
    · rintro (hbase | ⟨hmem, hkey⟩)
      · exact Or.inl hbase
      · exact Or.inr ⟨hold held hmem hkey, hkey⟩
  case lags =>
    intro held hmem hkey
    have hmem := hold held hmem hkey
    have hlags := hfollows.lags held hmem hkey
    by_cases hactive : v.balances.standing held.id = .active
    · refine Or.inr ⟨hactive, ?_⟩
      intro amount hsettled
      rcases h.charges held.id amount hsettled with hbefore | ⟨body, hrequest, _⟩
      · rw [hbefore] at hlags
        cases hactive.symm.trans hlags.eq_of_settled
      · exact htarget held.id (by rw [hrequest]; rfl) held hmem hkey rfl
    · have heq := hlags.eq_of_ne hactive
      exact Or.inl (heq.trans (h.final held.id (heq ▸ hactive)).symm)
  case kept => exact hfollows.kept
  case untouched => exact hfollows.untouched

/-- A settling server can be followed for the requests under own keys. -/
theorem settlingServer_follows (own : String → Prop) (base : Books (Accounts τ)) :
    Network.Follows (settlingServer τ).Serves (Addresses own) (Addresses fun key => ¬own key)
      (fun l => FreshFor own base l.world)
      (Ledger.Follows (fun bucket => own bucket.2) (Books.Follows own base)) where
  own := by
    intro l m request outcome l' haddresses hfollows hfresh hserves
    refine hserves.follow hfollows haddresses.key ?_
    intro hsettles
    exact hsettles.follow hfollows.world haddresses.key haddresses.target haddresses.charged hfresh
  other := by
    intro l m request outcome l' haddresses hfollows hserves
    refine hserves.pass hfollows haddresses.key ?_
    intro hsettles
    refine hsettles.pass hfollows.world haddresses.key ?_
    intro id hid held hmem hkey heq
    obtain ⟨held', hmem', hid', hkey'⟩ := haddresses.target id hid
    obtain rfl := haddresses.consistent.eq_of_id hmem hmem' (heq.trans hid'.symm)
    exact hkey' hkey
  good := by
    intro l request outcome l' hserves hfresh held hmem hkey
    exact hfresh held (serves_reservation_mono hserves hmem) hkey

end Servers

/-! ### What is charged -/

section Charged

variable {τ : Type} {own : String → Prop} {w : Books (Accounts τ)} {base : Books (Accounts τ)}
  {l m : ServerState (Accounts τ)} {key : String}

theorem Standing.Lags.spending {standing later : Standing} (h : standing.Lags later)
    (claim : ReservationBody) :
    (standing.payment claim).spending = (later.payment claim).spending := by
  rcases h with rfl | ⟨rfl, hnot⟩
  · rfl
  · cases later with
    | settled amount => exact absurd rfl (hnot amount)
    | active => rfl
    | released => rfl
    | expired => rfl

/-- Equal claims whose standings agree on what is spent are charged alike. -/
theorem ServerState.Consistent.charged_congr (hl : l.Consistent) (hm : m.Consistent)
    (hmem : ∀ held, held.body.idempotencyKey = key →
      (held ∈ m.world.reservations ↔ held ∈ l.world.reservations))
    (hstanding : ∀ held ∈ l.world.reservations, held.body.idempotencyKey = key →
      (m.world.balances.standing held.id).Lags (l.world.balances.standing held.id)) :
    m.world.charged key = l.world.charged key := by
  have hclaimed : m.world.claimed key = l.world.claimed key := by
    ext held
    rw [hm.claimed_eq_some_iff, hl.claimed_eq_some_iff]
    exact and_congr_left fun hkey => hmem held hkey
  rw [hm.charged_eq, hl.charged_eq]
  unfold Books.payment
  rw [hclaimed]
  rcases hheld : l.world.claimed key with _ | held
  · rfl
  · obtain ⟨hin, hkey⟩ := hl.claimed_eq_some_iff.mp hheld
    exact congrArg (·.getD 0) ((hstanding held hin hkey).spending held.body)

/-- Under an own key, the server charges what the server that it follows does. -/
theorem Books.Follows.charged_own (hfollows : Books.Follows own base l.world m.world)
    (hl : l.Consistent) (hm : m.Consistent)
    (hbase : ∀ held ∈ base.reservations, ¬own held.body.idempotencyKey) (hkey : own key) :
    m.world.charged key = l.world.charged key := by
  refine hl.charged_congr hm ?_ ?_
  · intro held heq
    rw [hfollows.reservations held]
    constructor
    · rintro (hmem | ⟨hmem, _⟩)
      · exact absurd (heq ▸ hkey) (hbase held hmem)
      · exact hmem
    · intro hmem
      exact Or.inr ⟨hmem, heq ▸ hkey⟩
  · intro held hmem heq
    exact hfollows.lags held hmem (heq ▸ hkey)

/-- Under another key, the server charges what it had charged to begin with. -/
theorem Books.Follows.charged_other (hfollows : Books.Follows own l.world w m.world)
    (hl : l.Consistent) (hm : m.Consistent) (hkey : ¬own key) :
    m.world.charged key = l.world.charged key := by
  refine hl.charged_congr hm ?_ ?_
  · intro held heq
    rw [hfollows.reservations held]
    constructor
    · rintro (hmem | ⟨_, hown⟩)
      · exact hmem
      · exact absurd (heq ▸ hown) hkey
    · exact Or.inl
  · intro held hmem _
    exact Or.inl (hfollows.kept held hmem)

end Charged

/-! ### What the guards send -/

section Networks

variable {ι τ : Type} [DecidableEq ι] {py : Python} {parties : ι → Party} {rest : τ}
  {J : ι → Prop} {s s' : GuardNetwork ι (Accounts τ)}

theorem RunningSettling.keyOf_request (h : RunningSettling py parties rest s) {i : ι} (hi : J i)
    {request : Request} (hsent : request ∈ requests (s.trails i)) :
    KeyOf py parties J request.key := by
  rcases Party.request_cases (h.running.path i) hsent with ⟨body, rfl, hbody⟩ |
    ⟨_, suffix, _, _, hkey, _⟩
  · exact ⟨i, .reserve, none, hi, key_of_reservationBody hbody⟩
  · exact ⟨i, request.phase, suffix, hi, hkey⟩

/-- A guard addresses its own reservation, under its own keys. -/
theorem RunningSettling.addresses (h : RunningSettling py parties rest s) {own : String → Prop}
    {i : ι} (hown : ∀ phase suffix,
      own (idempotencyKey py (parties i).args.mandate phase suffix)) {request : Request}
    {next : Outcome → GuardProgram} (hcall : s.procs i = .call request next) :
    Addresses own s.server request := by
  have hpath := h.running.path i
  rw [hcall] at hpath
  have hcases := Party.request_cases (hpath.snoc_exchange default)
    (mem_requests_iff.mpr ⟨default, List.mem_append_right _ (.head _)⟩)
  constructor
  case key =>
    rcases hcases with ⟨body, rfl, hbody⟩ | ⟨_, suffix, _, _, hkey, _⟩
    · change own body.idempotencyKey
      rw [key_of_reservationBody hbody]
      exact hown _ _
    · rw [hkey]
      exact hown _ _
  case target =>
    intro id hid
    rcases hcases with ⟨body, rfl, hbody⟩ | ⟨reservationId, suffix, _, htarget, _, hmark⟩
    · cases hid
    · obtain rfl := Option.some.inj (htarget.symm.trans hid)
      have hmark : Event.act (.withBody (some reservationId)) ∈ s.trails i := by
        rcases List.mem_append.mp hmark with hmark | hmark
        · exact hmark
        · cases List.mem_singleton.mp hmark
      obtain ⟨held, hmem, hheld, hbody, _⟩ := h.running.entered hmark
      refine ⟨held, hmem, (Option.some.inj hheld).symm, ?_⟩
      rw [key_of_reservationBody hbody]
      exact hown _ _
  case consistent => exact h.running.invariant.1
  case charged =>
    intro id amount hsettled
    obtain ⟨j, body, hsent, _⟩ := charge_sent h hsettled
    obtain ⟨held, hmem, hid, _⟩ := h.committed_held hsent
    exact ⟨held, hmem, hid⟩

/-- The guards of `J` go on to what they came to in another run, from a network in which
    they have not moved and the server has heard of none of their keys. -/
theorem RunningSettling.splice [DecidablePred J] (hseparated : Separated py parties J)
    (h : RunningSettling py parties rest s) {base : GuardNetwork ι (Accounts τ)}
    (hbase : RunningSettling py parties rest base)
    (hidle : ∀ i, J i → base.procs i = (parties i).program py ∧ base.trails i = [])
    (hunheard : ∀ bucket, KeyOf py parties J bucket.2 → base.server.recorded bucket = none)
    (huntouched : ∀ id, (∀ held ∈ base.server.world.reservations, held.id ≠ id) →
      standingOf base id = .active)
    (hfresh : FreshFor (KeyOf py parties J) base.server.world s.server.world) :
    ∃ server, RunningSettling py parties rest (s.splice J base server) ∧
      Books.Follows (KeyOf py parties J) base.server.world s.server.world server.world := by
  have hstart : Ledger.Follows (fun bucket => KeyOf py parties J bucket.2)
      (Books.Follows (KeyOf py parties J) base.server.world)
      (ServerState.empty ⟨fun _ => .active, rest⟩) base.server := by
    refine ⟨hunheard, ?_⟩
    constructor
    case reservations =>
      intro held
      constructor
      · exact Or.inl
      · rintro (hmem | ⟨hmem, _⟩)
        · exact hmem
        · cases hmem
    case lags =>
      intro held hmem
      cases hmem
    case kept => exact fun held _ => rfl
    case untouched => exact huntouched
  obtain ⟨server, hfollows, hrun⟩ := Network.Reachable.splice
    (settlingServer_follows (KeyOf py parties J) base.server.world)
    (fun s hs i request next hcall hi => RunningSettling.addresses hs (keyOf_self hi) hcall)
    (fun s hs i request next hcall hi =>
      RunningSettling.addresses hs (hseparated.not_keyOf_other hi) hcall)
    (fun i hi => (hidle i hi).1) (fun i hi => (hidle i hi).2) hstart h hfresh
  exact ⟨server, Relation.ReflTransGen.trans hbase hrun, hfollows.world⟩

/-- In a network in which this group has not moved, nothing is on record under its keys. -/
theorem RunningSettling.unheard (hseparated : Separated py parties J)
    (h : RunningSettling py parties rest s) (hidle : ∀ i, J i → s.trails i = [])
    (bucket : KeyPhase × String) (hkey : KeyOf py parties J bucket.2) :
    s.server.recorded bucket = none := by
  rcases hrecorded : s.server.recorded bucket with _ | ⟨request, outcome⟩
  · rfl
  · obtain ⟨rfl, i, hsent⟩ := Network.Reachable.recordsSent (fun _ => rfl) h _ _ _ hrecorded
    by_cases hi : J i
    · rw [hidle i hi] at hsent
      cases hsent
    · exact absurd hkey (hseparated.not_keyOf (h.keyOf_request (J := fun i => ¬J i) hi hsent))

/-- What a network comes to without the guards of `J`: the others go through what they
    went through in company. -/
structure Without (py : Python) (parties : ι → Party) (rest : τ) (J : ι → Prop)
    (s base : GuardNetwork ι (Accounts τ)) : Prop where
  running : RunningSettling py parties rest base
  procs : ∀ i, ¬J i → base.procs i = s.procs i
  trails : ∀ i, ¬J i → base.trails i = s.trails i
  idle : ∀ i, J i → base.procs i = (parties i).program py ∧ base.trails i = []
  follows : Books.Follows (KeyOf py parties fun i => ¬J i) ⟨[], ⟨fun _ => .active, rest⟩⟩
    s.server.world base.server.world

theorem RunningSettling.without [DecidablePred J] (hseparated : Separated py parties J)
    (h : RunningSettling py parties rest s) : ∃ base, Without py parties rest J s base := by
  obtain ⟨server, hrunning, hfollows⟩ := h.splice hseparated.compl .refl (fun i _ => ⟨rfl, rfl⟩)
    (fun _ _ => rfl) (fun _ _ => rfl) (by rintro held hmem hkey held' hmem'; cases hmem')
  refine ⟨_, hrunning, ?_, ?_, ?_, hfollows⟩
  · exact fun i hi => Network.splice_procs_of_pos (J := fun i => ¬J i) hi _
  · exact fun i hi => Network.splice_trails_of_pos (J := fun i => ¬J i) hi _
  · intro i hi
    exact ⟨Network.splice_procs_of_neg (J := fun i => ¬J i) (not_not.mpr hi) _,
      Network.splice_trails_of_neg (J := fun i => ¬J i) (not_not.mpr hi) _⟩

theorem Without.reserved {base : GuardNetwork ι (Accounts τ)}
    (h : Without py parties rest J s base) {held : Reservation}
    (hmem : held ∈ base.server.world.reservations) :
    held ∈ s.server.world.reservations ∧
      KeyOf py parties (fun i => ¬J i) held.body.idempotencyKey := by
  rcases (h.follows.reservations held).mp hmem with hnone | hheld
  · cases hnone
  · exact hheld

theorem Without.splice [DecidablePred J] {base : GuardNetwork ι (Accounts τ)}
    (h : Without py parties rest J s' base) (server : ServerState (Accounts τ)) :
    s.splice J base server = s.splice J s' server := by
  unfold Network.splice
  congr 1
  · funext i
    by_cases hi : J i
    · rw [if_pos hi, if_pos hi]
    · rw [if_neg hi, if_neg hi, h.procs i hi]
  · funext i
    by_cases hi : J i
    · rw [if_pos hi, if_pos hi]
    · rw [if_neg hi, if_neg hi, h.trails i hi]

/-- The ids that the server gave to this group in the one run are not those that it gave
    to the others in the other run. -/
def IdsApart (py : Python) (parties : ι → Party) (J : ι → Prop)
    (s s' : GuardNetwork ι (Accounts τ)) : Prop :=
  ∀ held ∈ s.server.world.reservations, ∀ held' ∈ s'.server.world.reservations,
    KeyOf py parties J held.body.idempotencyKey →
    KeyOf py parties (fun i => ¬J i) held'.body.idempotencyKey → held'.id ≠ held.id

/-- **Payments are independent.**  What a group of guards goes through in one run, and what
    the others go through in another run, they go through together in one run; and there
    each of them is charged what it is charged in its own run. -/
theorem payments_independent [DecidablePred J] (hseparated : Separated py parties J)
    (h : RunningSettling py parties rest s) (h' : RunningSettling py parties rest s')
    (hids : IdsApart py parties J s s') :
    ∃ server, RunningSettling py parties rest (s.splice J s' server) ∧
      (∀ i, J i → server.world.charged (idempotencyKey py (parties i).args.mandate .reserve) =
        s.server.world.charged (idempotencyKey py (parties i).args.mandate .reserve)) ∧
      (∀ i, ¬J i → server.world.charged (idempotencyKey py (parties i).args.mandate .reserve) =
        s'.server.world.charged (idempotencyKey py (parties i).args.mandate .reserve)) := by
  obtain ⟨base, hbase⟩ := h'.without hseparated
  have hunheard := hbase.running.unheard hseparated fun i hi => (hbase.idle i hi).2
  have hfresh : FreshFor (KeyOf py parties J) base.server.world s.server.world := by
    intro held hmem hkey held' hmem'
    obtain ⟨hin, hkey'⟩ := hbase.reserved hmem'
    exact hids held hmem held' hin hkey hkey'
  obtain ⟨server, hspliced, hfollows⟩ :=
    h.splice hseparated hbase.running hbase.idle hunheard hbase.follows.untouched hfresh
  have hconsistent : server.Consistent := hspliced.running.invariant.1
  have hconsistentBase : base.server.Consistent := hbase.running.running.invariant.1
  refine ⟨server, hbase.splice server ▸ hspliced, ?_, ?_⟩
  · intro i hi
    refine hfollows.charged_own h.running.invariant.1 hconsistent ?_ (keyOf_self hi _ _)
    intro held hmem
    exact hseparated.not_keyOf (hbase.reserved hmem).2
  · intro i hi
    rw [hfollows.charged_other hconsistentBase hconsistent (hseparated.not_keyOf_other hi _ _)]
    refine hbase.follows.charged_own h'.running.invariant.1 hconsistentBase ?_ ⟨i, _, _, hi, rfl⟩
    rintro held hmem
    cases hmem

end Networks

/-- Two payments, the second of them under an open mandate. -/
def twoPayments (second : Bool) : Party where
  args := { GuardArgs.sample with mandate := if second then .sampleOpen else .sample }
  body := { calls := [] }

theorem twoPayments_separated : Separated .sample twoPayments fun i => i = false where
  digest i := by cases i <;> decide
  differ := by
    rintro _ j rfl hj
    obtain rfl := Bool.eq_true_of_not_eq_false hj
    rw [sameConsumeOnce_iff]
    decide
  injective := by
    rintro _ j rfl hj
    obtain rfl := Bool.eq_true_of_not_eq_false hj
    decide

def twoPaid (steps : List Bool) : GuardNetwork Bool (Accounts Unit) :=
  (Network.start (ServerState.empty ⟨fun _ => .active, ()⟩)
    fun i => (twoPayments i).program .sample).play settlingHandle steps

theorem twoPaid_running (steps : List Bool) :
    RunningSettling .sample twoPayments () (twoPaid steps) :=
  Network.play_reachable settlingHandle_serves steps _

/-- In one run the first guard alone pays, in the other one it only reserves and then the
    second guard pays.  So they can both pay. -/
theorem payments_independent_twoPaid :
    let s := twoPaid [false, false, false]
    let s' := twoPaid [false, true, true, true]
    ∃ server, RunningSettling .sample twoPayments () (s.splice (· = false) s' server) ∧
      server.world.charged (idempotencyKey .sample .sample .reserve) = 1000000000 ∧
      server.world.charged (idempotencyKey .sample .sampleOpen .reserve) = 1000000000 := by
  intro s s'
  have hids : IdsApart .sample twoPayments (fun i => i = false) s s' := by
    intro held hmem held' hmem' _ hkey'
    change held ∈ [_] at hmem
    change held' ∈ [_, _] at hmem'
    obtain rfl := List.mem_singleton.mp hmem
    rcases List.mem_pair.mp hmem' with rfl | rfl
    · decide
    · have hkey : KeyOf .sample twoPayments (fun i => i = false)
          (idempotencyKey .sample .sample .reserve) := ⟨false, .reserve, none, rfl, rfl⟩
      exact absurd hkey (twoPayments_separated.not_keyOf hkey')
  obtain ⟨server, hrunning, hown, hother⟩ := payments_independent twoPayments_separated
    (twoPaid_running [false, false, false]) (twoPaid_running [false, true, true, true]) hids
  exact ⟨server, hrunning, hown false rfl, hother true (by decide)⟩

end CyclesAP2
