import CyclesAP2.Conformance
import CyclesAP2.Evidence
import CyclesAP2.Register

/-!
# What a receipt is worth

A receipt is made by the guard and not signed by the server.  Whoever holds one can still
check it: it restates the reserve and the commit of its guard, and these are what the
server has on record, with the decision and the charge that the receipt states
(`receipt_attested`).  This holds from the end of the guard on, and for a guard whose
replies were replayed from what another guard had sent as well.
-/

namespace CyclesAP2

open Interaction

/-- What a receipt says of the payment is what was reserved and committed.  A checkout
    hash that only the caller knew of is in the reserve but not in the receipt, and a
    `psp_ref` that is no text is in the commit but not in the receipt. -/
structure RuntimeAuthorityReceipt.Restates (receipt : RuntimeAuthorityReceipt)
    (claim : ReservationBody) (commit : CommitBody) : Prop where
  schemaName : receipt.schemaName = RECEIPT_SCHEMA
  committed : receipt.committed = true
  tenant : claim.subject.tenant = truthyText receipt.tenant
  agent : claim.subject.agent = truthyText receipt.agent
  actionKind : claim.action.kind = receipt.actionKind
  transaction : claim.subject.dimensions.lookup DIM_AP2_TRANSACTION_ID =
    some receipt.ap2TransactionId
  host : claim.subject.dimensions.lookup DIM_PAYEE_WEBSITE = some receipt.policyKeys.host
  currency : claim.subject.dimensions.lookup DIM_PAYMENT_CURRENCY =
    some receipt.policyKeys.paymentCurrency
  protocol : claim.subject.dimensions.lookup DIM_PAYMENT_PROTOCOL =
    some receipt.policyKeys.paymentProtocol
  checkoutHash : ∀ hash, receipt.checkoutHash = some hash →
    claim.subject.dimensions.lookup DIM_CHECKOUT_HASH = some hash
  amount : commit.actual = ⟨receipt.amountUnit, receipt.amountMicros⟩
  evidence : ∀ key, key ≠ "psp_ref" →
    receipt.evidence key = commit.metadata.bind (·.lookup key)
  pspRef : ∀ ref, receipt.pspRef = some ref →
    commit.metadata.bind (·.lookup "psp_ref") = some (.str ref)

/-- What the server holds of the payment that a receipt is about. -/
structure Attested {τ : Type} (l : ServerState (Accounts τ)) (receipt : RuntimeAuthorityReceipt)
    (claim : ReservationBody) (commit : CommitBody) : Prop where
  reserved : ⟨receipt.reservationId, claim⟩ ∈ l.world.reservations
  decided : ∃ response result,
    l.recorded (Request.createReservation claim).bucket =
      some (.createReservation claim, .returned response) ∧
    response.createResult = .ok result ∧ result.decision.value = receipt.decision
  confirmed : ∃ outcome,
    l.recorded (Request.commitReservation receipt.reservationId commit).bucket =
      some (.commitReservation receipt.reservationId commit, outcome) ∧
    outcome.succeeded = true
  standing : l.world.balances.standing receipt.reservationId = .settled receipt.amountMicros
  charged : l.world.charged claim.idempotencyKey = receipt.amountMicros

/-! ### What the guard puts into its receipt -/

section Restates

variable {py : Python} {args : GuardArgs} {body : Body}

theorem reservationBody_restated {claim : ReservationBody}
    (h : args.reservationBody py = .ok claim) :
    claim.subject.dimensions.lookup DIM_PAYMENT_PROTOCOL = some PAYMENT_PROTOCOL_VALUE ∧
      ∀ hash, args.mandate.checkoutHash.map (·.val) = some hash →
        claim.subject.dimensions.lookup DIM_CHECKOUT_HASH = some hash := by
  obtain ⟨_, _, _, _, hprotocol⟩ := lookup_canonicalDimensions py args.mandate args.runId
  obtain ⟨hcheckout, _⟩ := lookup_canonicalDimensions_hashes py args.mandate args.runId
  rw [reservationBody_lookup h, reservationBody_lookup h, hprotocol, hcheckout]
  refine ⟨rfl, ?_⟩
  intro hash hhash
  rw [hhash]
  rfl

theorem pspRef_receiptFor {clock : Int} {self : GuardState} {decision : Decision}
    {reservationId : String} {amount : Int} {ref : String}
    (h : (receiptFor py clock self decision reservationId amount).pspRef = some ref) :
    self.commitMetadata.lookup "psp_ref" = some (.str ref) := by
  simp only [receiptFor, buildRuntimeAuthorityReceipt] at h
  split at h
  · rename_i shown hshown
    rw [hshown, Option.some.inj h]
  · cases h

/-- **The receipt of a settled run restates its reserve and its commit.** -/
theorem SettledRun.restates (run : SettledRun py args body) (clock : Int) :
    (receiptFor py clock run.self run.decision run.reservationId
      run.commitBody.actual.amount).Restates run.request run.commitBody := by
  obtain ⟨htransaction, hhost, hcurrency⟩ := reservationBody_dimensions run.request_built
  obtain ⟨hprotocol, hcheckout⟩ := reservationBody_restated run.request_built
  obtain ⟨_, _, hrequest⟩ := GuardArgs.reservationBody_ok_iff.mp run.request_built
  have hunit := (commitBody_actual run.request_built run.left_body run.commit_built).1
  have hmetadata := run.commitBody_eq.2
  have hargs := run.self_args
  constructor
  case schemaName => rfl
  case committed => rfl
  case tenant =>
    rw [hrequest, receiptFor, hargs]
    rfl
  case agent =>
    rw [hrequest, receiptFor, hargs]
    rfl
  case actionKind =>
    rw [hrequest, receiptFor, hargs]
    rfl
  case transaction =>
    rw [htransaction, receiptFor, hargs]
    rfl
  case host =>
    rw [hhost, receiptFor, hargs]
    rfl
  case currency =>
    rw [hcurrency, receiptFor, hargs]
    rfl
  case protocol => exact hprotocol
  case checkoutHash =>
    rw [receiptFor, hargs]
    exact hcheckout
  case amount => exact congrArg (Amount.mk · run.commitBody.actual.amount) hunit
  case evidence =>
    intro key hkey
    rw [evidence_receiptFor _ _ _ _ _ _ hkey, hmetadata, lookup_truthyFields]
  case pspRef =>
    intro ref hshown
    rw [hmetadata, lookup_truthyFields, pspRef_receiptFor hshown]

end Restates

/-! ### What the server has on record -/

section Attested

variable {ι τ : Type} [DecidableEq ι] {py : Python} {parties : ι → Party} {rest : τ}
  {s s' : GuardNetwork ι (Accounts τ)}

/-- What a guard that ends committed has sent and was told is on record. -/
theorem RunningSettling.attested (h : RunningSettling py parties rest s) {i : ι}
    (run : SettledRun py (parties i).args (parties i).body) (htrail : run.trail <+: s.trails i)
    (clock : Int) :
    Attested s.server (receiptFor py clock run.self run.decision run.reservationId
      run.commitBody.actual.amount) run.request run.commitBody := by
  have hreserved := htrail.subset run.reserve_mem
  have hcommitted := htrail.subset run.commit_mem
  obtain ⟨hreserveSucceeded, hgranted⟩ := granted_of_admission run.admitted
  have hrecorded : s.server.recorded (Request.createReservation run.request).bucket =
      some (.createReservation run.request, run.reserve) :=
    Network.Reachable.recorded_of_telling cyclesServer_mute h.running hreserved
      (by simp [hreserveSucceeded])
  have hconfirmed :
      s.server.recorded (Request.commitReservation run.reservationId run.commitBody).bucket =
        some (.commitReservation run.reservationId run.commitBody, run.commit) :=
    Network.Reachable.recorded_of_telling cyclesServer_mute h.running hcommitted
      (by simp [run.commit_succeeded])
  have hstanding : standingOf s run.reservationId = .settled run.commitBody.actual.amount :=
    h.told hcommitted run.commit_succeeded run.commit_succeeded
  have hconsistent := h.running.invariant.1
  have hmem : ⟨run.reservationId, run.request⟩ ∈ s.server.world.reservations :=
    hconsistent.granted _ _ _ hrecorded hgranted
  constructor
  case reserved => exact hmem
  case decided =>
    obtain ⟨response, result, hresponse, _, hresult, hdecision, _⟩ :=
      admission_eq_admitted_iff.mp run.admitted
    rw [hresponse] at hrecorded
    exact ⟨response, result, hrecorded, hresult, by rw [hdecision]; rfl⟩
  case confirmed => exact ⟨run.commit, hconfirmed, run.commit_succeeded⟩
  case standing => exact hstanding
  case charged => exact hconsistent.charged_of_settled hmem hstanding

/-- **A receipt can be checked against the server.**  From the end of its guard on, in
    every later state, the server has on record what the receipt restates, with the
    decision that it states; and the reservation is charged, as is all under its key,
    with the amount that it states. -/
theorem receipt_attested (h : RunningSettling py parties rest s)
    (hlater : Relation.ReflTransGen (Network.Step (settlingServer τ).Serves Unheard) s s') {i : ι}
    {result : GuardResult} (hdone : s.procs i = .done result) {receipt : RuntimeAuthorityReceipt}
    (hreceipt : result.2.receipt = some receipt) :
    ∃ claim commit, receipt.Restates claim commit ∧ Attested s'.server receipt claim commit := by
  have h' : RunningSettling py parties rest s' := Relation.ReflTransGen.trans h hlater
  obtain ⟨run, htrail, rfl⟩ :=
    h.running.settledRun hdone ((h.running.course hdone).committed_of_receipt hreceipt)
  obtain rfl := run.receipt_of_final hreceipt
  refine ⟨run.request, run.commitBody, run.restates _, h'.attested run ?_ _⟩
  rw [← htrail]
  exact Network.trails_grow hlater i

end Attested

/-- The first of the two guards is paid for, and its retry fails. -/
theorem receipt_attested_paid :
    let s := paidThenFailed [false, false, false]
    let s' := s.play settlingHandle [true, true, true]
    ∃ result receipt claim commit, s.procs false = .done result ∧
      result.2.receipt = some receipt ∧ receipt.Restates claim commit ∧
      Attested s'.server receipt claim commit := by
  intro s s'
  obtain ⟨claim, commit, hrestates, hattested⟩ := receipt_attested (paidThenFailed_running _)
    (Network.play_reachable settlingHandle_serves [true, true, true] s) (i := false) rfl rfl
  exact ⟨_, _, claim, commit, rfl, rfl, hrestates, hattested⟩

end CyclesAP2
