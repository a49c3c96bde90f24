import CyclesAP2.ConsumeOnce
import CyclesAP2.Evidence
import CyclesAP2.Interaction.Replay
import CyclesAP2.Payload

/-!
# Guards agree on what was settled

Guards over one consume-once input share the key of their commits, too.  Any two of
them that end committed were told so by one record of the server: they sent equal
reserves and equal commits to one reservation (`committed_agree`), and their
receipts differ in nothing but the time of issue and in what a caller passed that
the server never saw (`receipts_agree`).
-/

namespace CyclesAP2

open Interaction

variable {ι σ : Type} [DecidableEq ι]

/-! ### The run of a guard that ends committed -/

/-- What a guard that ends committed has sent and was told, and the guard that its
    body left. -/
structure SettledRun (py : Python) (args : GuardArgs) (body : Body) where
  request : ReservationBody
  reserve : Outcome
  decision : Decision
  reservationId : String
  self : GuardState
  commitBody : CommitBody
  commit : Outcome
  request_built : args.reservationBody py = .ok request
  admitted : admission args reserve = .admitted decision reservationId
  left_body : body.apply py (GuardState.entered args decision reservationId) = (.ok (), self)
  not_aborted : self.abortedReason = none
  commit_built : buildCommitBody py self.args.mandate self.actualMicros
    (truthyFields (some self.commitMetadata)) = .ok commitBody
  commit_succeeded : commit.succeeded = true

namespace SettledRun

variable {py : Python} {args args' : GuardArgs} {body body' : Body}

def trail (run : SettledRun py args body) : List GuardEvent :=
  [.exchange (.createReservation run.request) run.reserve,
    .act (.withBody (some run.reservationId)),
    .exchange (.commitReservation run.reservationId run.commitBody) run.commit]

def final (clock : Int) (run : SettledRun py args body) : GuardState :=
  run.self.settled py clock run.decision run.reservationId run.commitBody.actual.amount

theorem reserve_mem (run : SettledRun py args body) :
    .exchange (.createReservation run.request) run.reserve ∈ run.trail :=
  .head _

theorem commit_mem (run : SettledRun py args body) :
    .exchange (.commitReservation run.reservationId run.commitBody) run.commit ∈ run.trail :=
  .tail _ (.tail _ (.head _))

theorem self_args (run : SettledRun py args body) : run.self.args = args :=
  (Body.entered_of_complete run.left_body).2.1

theorem commitBody_eq (run : SettledRun py args body) :
    run.commitBody.idempotencyKey = idempotencyKey py args.mandate .commit ∧
      run.commitBody.metadata = truthyFields (some run.self.commitMetadata) := by
  obtain ⟨_, _, hbody⟩ := buildCommitBody_ok_iff.mp run.commit_built
  rw [hbody, run.self_args]
  exact ⟨rfl, truthyFields_truthyFields _⟩

/-- Only the commit makes a receipt. -/
theorem receipt_of_final (run : SettledRun py args body) {clock : Int}
    {receipt : RuntimeAuthorityReceipt} (h : (run.final clock).receipt = some receipt) :
    receipt =
      receiptFor py clock run.self run.decision run.reservationId run.commitBody.actual.amount := by
  have hframe := body.apply_frame py (GuardState.entered args run.decision run.reservationId)
  rw [run.left_body] at hframe
  rw [final, GuardState.settled_receipt] at h
  split at h
  · exact (Option.some.inj h).symm
  · rw [hframe.receipt] at h
    cases h

end SettledRun

section Courses

variable {py : Python} {clock : Int} {flavour : Flavour} {args : GuardArgs} {body : Body}
  {result : GuardResult} {trail : List GuardEvent}

theorem Course.of_committed (h : Course py clock flavour args body result trail)
    (hcommitted : result.2.committed = true) :
    ∃ run : SettledRun py args body, trail = run.trail ∧ result = (.ok (), run.final clock) := by
  cases h with
  | unsent hrequest => cases hcommitted
  | refused hrequest hadmission => cases hcommitted
  | @entered request reserve decision reservationId result rest hrequest hadmission hexit =>
    have hframe := body.apply_frame py (GuardState.entered args decision reservationId)
    generalize hleft : body.apply py (GuardState.entered args decision reservationId) = left
      at hexit hframe
    have hnot : left.2.committed ≠ true := by simp [hframe.committed, GuardState.entered,
      GuardState.init]
    cases hexit with
    | bodyRaised e self release => exact absurd hcommitted hnot
    | aborted release haborted => exact absurd hcommitted hnot
    | @settled self commitBody commit haborted hbody hverdict =>
      exact ⟨⟨request, reserve, decision, reservationId, self, commitBody, commit, hrequest,
        hadmission, hleft, haborted, hbody, commitVerdict_settled_iff.mp hverdict⟩, rfl, rfl⟩
    | raised haborted hbody hverdict => exact absurd hcommitted hnot
    | rejected release haborted hbody hverdict => exact absurd hcommitted hnot

/-- A guard has a receipt only if it ends committed. -/
theorem Course.committed_of_receipt (h : Course py clock flavour args body result trail)
    {receipt : RuntimeAuthorityReceipt} (hreceipt : result.2.receipt = some receipt) :
    result.2.committed = true := by
  cases h with
  | unsent hrequest => cases hreceipt
  | refused hrequest hadmission => cases hreceipt
  | @entered request reserve decision reservationId result rest hrequest hadmission hexit =>
    have hframe := body.apply_frame py (GuardState.entered args decision reservationId)
    generalize hleft : body.apply py (GuardState.entered args decision reservationId) = left
      at hexit hframe
    have hnone : left.2.receipt ≠ some receipt := by simp [hframe.receipt, GuardState.entered,
      GuardState.init]
    cases hexit with
    | bodyRaised e self release => exact absurd hreceipt hnone
    | aborted release haborted => exact absurd hreceipt hnone
    | settled haborted hbody hverdict => exact GuardState.settled_committed ..
    | raised haborted hbody hverdict => exact absurd hreceipt hnone
    | rejected release haborted hbody hverdict => exact absurd hreceipt hnone

end Courses

/-! ### One record for all -/

theorem admission_unique {args args' : GuardArgs} {reserve : Outcome} {decision decision' : Decision}
    {reservationId reservationId' : String}
    (h : admission args reserve = .admitted decision reservationId)
    (h' : admission args' reserve = .admitted decision' reservationId') :
    decision = decision' ∧ reservationId = reservationId' := by
  obtain ⟨response, result, rfl, _, hresult, rfl, _, _, hid⟩ := admission_eq_admitted_iff.mp h
  obtain ⟨response', result', heq, _, hresult', rfl, _, _, hid'⟩ := admission_eq_admitted_iff.mp h'
  cases heq
  cases hresult.symm.trans hresult'
  exact ⟨rfl, Option.some.inj (hid.symm.trans hid')⟩

/-- An answer that is no 2xx may be the server's or not. -/
theorem cyclesServer_mute : Network.Mute (cyclesServer σ) Unheard fun outcome =>
    outcome.succeeded = false where
  unheard := id
  refuses := id
  mismatch := Outcome.HasError.not_succeeded

section Running

variable {py : Python} {parties : ι → Party} {balances : σ} {s : GuardNetwork ι σ}

/-- Two 2xx answers under one key are the same answer to the same request. -/
theorem Running.agree (h : Running py parties balances s) {i j : ι} {request request' : Request}
    {outcome outcome' : Outcome} (hseen : Event.exchange request outcome ∈ s.trails i)
    (hseen' : Event.exchange request' outcome' ∈ s.trails j) (hsucceeded : outcome.succeeded = true)
    (hsucceeded' : outcome'.succeeded = true) (hbucket : request.bucket = request'.bucket) :
    request = request' ∧ outcome = outcome' := by
  refine Network.Reachable.agree cyclesServer_mute h hseen hseen' ?_ ?_ hbucket
  · rw [hsucceeded]
    decide
  · rw [hsucceeded']
    decide

theorem Running.course (h : Running py parties balances s) {i : ι} {result : GuardResult}
    (hdone : s.procs i = .done result) :
    Course py (parties i).clock (parties i).flavour (parties i).args (parties i).body result
      (s.trails i) := by
  have hpath := h.path i
  rw [hdone] at hpath
  exact path_iff_course.mp hpath

theorem Running.settledRun (h : Running py parties balances s) {i : ι} {result : GuardResult}
    (hdone : s.procs i = .done result) (hcommitted : result.2.committed = true) :
    ∃ run : SettledRun py (parties i).args (parties i).body,
      s.trails i = run.trail ∧ result = (.ok (), run.final (parties i).clock) :=
  (h.course hdone).of_committed hcommitted

/-- What two settled runs have in common. -/
structure SettledRun.Agrees {args args' : GuardArgs} {body body' : Body}
    (run : SettledRun py args body) (run' : SettledRun py args' body') : Prop where
  request : run.request = run'.request
  reserve : run.reserve = run'.reserve
  decision : run.decision = run'.decision
  reservationId : run.reservationId = run'.reservationId
  commitBody : run.commitBody = run'.commitBody
  commit : run.commit = run'.commit

/-- Two settled runs under one consume-once input were told by one record each of
    the reserve and of the commit. -/
theorem Running.settledRuns_agree (h : Running py parties balances s) {i j : ι}
    (hsame : SameConsumeOnce (parties i).args.mandate (parties j).args.mandate)
    {run : SettledRun py (parties i).args (parties i).body}
    {run' : SettledRun py (parties j).args (parties j).body}
    (htrail : s.trails i = run.trail) (htrail' : s.trails j = run'.trail) : run.Agrees run' := by
  have hkey (phase : KeyPhase) : idempotencyKey py (parties i).args.mandate phase =
      idempotencyKey py (parties j).args.mandate phase := idempotencyKey_congr py hsame phase none
  have hreserved : run.request = run'.request ∧ run.reserve = run'.reserve := by
    have hagree := h.agree (htrail ▸ run.reserve_mem) (htrail' ▸ run'.reserve_mem)
      (granted_of_admission run.admitted).1 (granted_of_admission run'.admitted).1
      (bucket_create_eq_iff.mpr (by
        rw [key_of_reservationBody run.request_built, key_of_reservationBody run'.request_built,
          hkey]))
    exact ⟨Request.createReservation.inj hagree.1, hagree.2⟩
  have hbucket : (Request.commitReservation run.reservationId run.commitBody).bucket =
      (Request.commitReservation run'.reservationId run'.commitBody).bucket := by
    refine congrArg (Prod.mk KeyPhase.commit) ?_
    change run.commitBody.idempotencyKey = run'.commitBody.idempotencyKey
    rw [run.commitBody_eq.1, run'.commitBody_eq.1, hkey]
  have hsettled := h.agree (htrail ▸ run.commit_mem) (htrail' ▸ run'.commit_mem)
    run.commit_succeeded run'.commit_succeeded hbucket
  obtain ⟨hid, hcommitBody⟩ := Request.commitReservation.inj hsettled.1
  have hadmitted := run.admitted
  rw [hreserved.2] at hadmitted
  exact ⟨hreserved.1, hreserved.2, (admission_unique hadmitted run'.admitted).1, hid, hcommitBody,
    hsettled.2⟩

/-! ### The receipts -/

theorem truthyFields_inj {fields fields' : Fields} :
    truthyFields (some fields) = truthyFields (some fields') ↔ fields = fields' := by
  constructor
  · intro h
    refine Finmap.ext_lookup ?_
    intro key
    rw [← lookup_truthyFields, h, lookup_truthyFields]
  · rintro rfl
    rfl

/-- Two receipts say the same of the payment.  They may differ in the time of issue,
    in a scope that is empty in one and absent in the other, and in a checkout hash
    that one caller passed as an extra dimension only. -/
structure ReceiptsAgree (args args' : GuardArgs) (receipt receipt' : RuntimeAuthorityReceipt) :
    Prop where
  payment : receipt' = { receipt with
    tenant := receipt'.tenant
    agent := receipt'.agent
    checkoutHash := receipt'.checkoutHash
    issuedAtMs := receipt'.issuedAtMs }
  tenant : truthyText receipt.tenant = truthyText receipt'.tenant
  agent : truthyText receipt.agent = truthyText receipt'.agent
  checkoutHash : args.SuppliesNoCheckoutHash → args'.SuppliesNoCheckoutHash →
    receipt.checkoutHash = receipt'.checkoutHash

theorem SettledRun.Agrees.receipts {args args' : GuardArgs} {body body' : Body}
    {run : SettledRun py args body} {run' : SettledRun py args' body'} (h : run.Agrees run')
    (clock clock' : Int) :
    ReceiptsAgree args args'
      (receiptFor py clock run.self run.decision run.reservationId run.commitBody.actual.amount)
      (receiptFor py clock' run'.self run'.decision run'.reservationId
        run'.commitBody.actual.amount) := by
  have hpayload : SamePayload py args args' :=
    (reservationBody_eq_iff run.request_built run'.request_built).mp h.request
  have hmetadata : run.self.commitMetadata = run'.self.commitMetadata := by
    refine truthyFields_inj.mp ?_
    rw [← run.commitBody_eq.2, ← run'.commitBody_eq.2, h.commitBody]
  refine ⟨?_, ?_, ?_, ?_⟩
  · simp only [receiptFor, buildRuntimeAuthorityReceipt, buildReceiptPolicyKeys, run.self_args,
      run'.self_args]
    rw [h.decision, h.reservationId, h.commitBody, hmetadata, hpayload.transactionId,
      hpayload.payeeWebsite, hpayload.currency, hpayload.actionKind]
  · simp only [receiptFor, buildRuntimeAuthorityReceipt, run.self_args, run'.self_args]
    exact hpayload.tenant
  · simp only [receiptFor, buildRuntimeAuthorityReceipt, run.self_args, run'.self_args]
    exact hpayload.agent
  · intro hargs hargs'
    simp only [receiptFor, buildRuntimeAuthorityReceipt, run.self_args, run'.self_args]
    rw [hpayload.checkoutHash hargs hargs']

/-- **Receipts agree.**  Whatever guards over one consume-once input run, in any
    order and with any losses, their receipts say the same of the payment. -/
theorem receipts_agree (h : Running py parties balances s) {i j : ι}
    (hsame : SameConsumeOnce (parties i).args.mandate (parties j).args.mandate)
    {result result' : GuardResult} (hdone : s.procs i = .done result)
    (hdone' : s.procs j = .done result') {receipt receipt' : RuntimeAuthorityReceipt}
    (hreceipt : result.2.receipt = some receipt) (hreceipt' : result'.2.receipt = some receipt') :
    ReceiptsAgree (parties i).args (parties j).args receipt receipt' := by
  obtain ⟨run, htrail, rfl⟩ := h.settledRun hdone ((h.course hdone).committed_of_receipt hreceipt)
  obtain ⟨run', htrail', rfl⟩ :=
    h.settledRun hdone' ((h.course hdone').committed_of_receipt hreceipt')
  rw [run.receipt_of_final hreceipt, run'.receipt_of_final hreceipt']
  exact (h.settledRuns_agree hsame htrail htrail').receipts ..

/-- One payment of USD 10.00 is retried with an empty scope instead of none, and
    issues its receipt later. -/
def retriedLater (second : Bool) : Party where
  args := { GuardArgs.sample with tenant := if second then some "" else none }
  body := { calls := [] }
  clock := if second then 2000 else 1000

theorem receipts_agree_retried :
    let s := Policy.sample.play .sample retriedLater (.empty ())
      [false, false, false, true, true, true]
    ∃ result result' receipt receipt', s.procs false = .done result ∧
      s.procs true = .done result' ∧ result.2.receipt = some receipt ∧
      result'.2.receipt = some receipt' ∧
      ReceiptsAgree (retriedLater false).args (retriedLater true).args receipt receipt' := by
  intro s
  have hrunning : Running .sample retriedLater () s := Policy.sample.running ..
  exact ⟨_, _, _, _, rfl, rfl, rfl, rfl,
    receipts_agree (i := false) (j := true) hrunning (Or.inr ⟨rfl, rfl, rfl⟩) rfl rfl rfl rfl⟩

end Running

end CyclesAP2
