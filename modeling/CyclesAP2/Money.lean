import CyclesAP2.Amounts
import CyclesAP2.Dimensions
import CyclesAP2.Reconciliation

/-!
# Reserve, commit and receipt agree on the money

The amount is derived three times: for the estimate of the reserve, for the
commit body and for the receipt.  `MoneyAgrees` says what the three have to do
with each other and with the calls of the body.
-/

namespace CyclesAP2

open Interaction

def Request.amount : Request → Option Amount
  | .createReservation body => some body.estimate
  | .commitReservation _ body => some body.actual
  | .releaseReservation _ _ => none

/-- `micros` is the value of the mandate's decimal text in units of `10^-8`. -/
def ExactMicros (py : Python) (mandate : AP2Mandate) (micros : Int) : Prop :=
  ∃ digits exponent,
    py.decimal mandate.amountValue.val = some (.finite false digits exponent) ∧
      -MAX_DECIMAL_PLACES ≤ exponent ∧
      micros = digitsValue digits * 10 ^ (exponent + MAX_DECIMAL_PLACES).toNat

/-- What a run's amounts and receipt have to do with each other.  The commit carries
    the last accepted override, or else the estimate. -/
structure MoneyAgrees (py : Python) (args : GuardArgs) (body : Body) (result : GuardResult)
    (trail : List GuardEvent) : Prop where
  inRange : ∀ request ∈ requests trail, ∀ amount, request.amount = some amount →
    amount.unit = USD_MICROCENTS ∧ 0 ≤ amount.amount ∧ amount.amount ≤ MAX_USD_MICROS
  estimate : ∀ request, .createReservation request ∈ requests trail →
    ExactMicros py args.mandate request.estimate.amount
  actual : ∀ request reservationId commit, .createReservation request ∈ requests trail →
    .commitReservation reservationId commit ∈ requests trail →
    commit.actual.amount = body.lastAccepted.getD request.estimate.amount
  receipt : result.2.receipt.isSome = true ↔
    (∃ reservationId commit outcome,
      Event.exchange (.commitReservation reservationId commit) outcome ∈ trail ∧
        outcome.succeeded = true) ∧ args.emitReceipt = true
  evidence : ∀ receipt, result.2.receipt = some receipt →
    ∃ request response reserved commit,
      Event.exchange (.createReservation request) (.returned response) ∈ trail ∧
        response.createResult = .ok reserved ∧
        .commitReservation receipt.reservationId commit ∈ requests trail ∧
        receipt.amountMicros = commit.actual.amount ∧
        receipt.decision = reserved.decision.value ∧
        request.subject.dimensions.lookup DIM_AP2_TRANSACTION_ID = some receipt.ap2TransactionId ∧
        request.subject.dimensions.lookup DIM_PAYEE_WEBSITE = some receipt.policyKeys.host ∧
        request.subject.dimensions.lookup DIM_PAYMENT_CURRENCY =
          some receipt.policyKeys.paymentCurrency

/-! ### The amounts -/

theorem reservationBody_estimate {py : Python} {args : GuardArgs} {request : ReservationBody}
    (h : args.reservationBody py = .ok request) :
    request.estimate.unit = USD_MICROCENTS ∧ 0 ≤ request.estimate.amount ∧
      request.estimate.amount ≤ MAX_USD_MICROS ∧
      ExactMicros py args.mandate request.estimate.amount := by
  obtain ⟨micros, hmicros, rfl⟩ := GuardArgs.reservationBody_ok_iff.mp h
  obtain ⟨hnonneg, hmax, hexact⟩ := AP2Mandate.amountMicros_ok hmicros
  exact ⟨rfl, hnonneg, hmax, hexact⟩

/-- The dimensions of the reserve that the receipt repeats. -/
theorem reservationBody_dimensions {py : Python} {args : GuardArgs} {request : ReservationBody}
    (h : args.reservationBody py = .ok request) :
    request.subject.dimensions.lookup DIM_AP2_TRANSACTION_ID =
        some args.mandate.transactionId.val ∧
      request.subject.dimensions.lookup DIM_PAYEE_WEBSITE =
        some args.mandate.payeeWebsite.val ∧
      request.subject.dimensions.lookup DIM_PAYMENT_CURRENCY =
        some (py.upper args.mandate.currency.val) := by
  obtain ⟨micros, _, rfl⟩ := GuardArgs.reservationBody_ok_iff.mp h
  obtain ⟨_, htransaction, hpayee, hcurrency, _⟩ :=
    lookup_canonicalDimensions py args.mandate args.runId
  dsimp only
  rw [lookup_buildSubject, lookup_buildSubject, lookup_buildSubject, htransaction, hpayee,
    hcurrency]
  exact ⟨rfl, rfl, rfl⟩

theorem commitBody_actual {py : Python} {args : GuardArgs} {request : ReservationBody}
    {body : Body} {decision : Decision} {reservationId : String} {self : GuardState}
    {metadata : Option Fields} {commit : CommitBody}
    (hrequest : args.reservationBody py = .ok request)
    (hleft : body.apply py (GuardState.entered args decision reservationId) = (.ok (), self))
    (hcommit : buildCommitBody py self.args.mandate self.actualMicros metadata = .ok commit) :
    commit.actual.unit = USD_MICROCENTS ∧ 0 ≤ commit.actual.amount ∧
      commit.actual.amount ≤ MAX_USD_MICROS ∧
      commit.actual.amount = body.lastAccepted.getD request.estimate.amount := by
  obtain ⟨_, hargs, hactual, _⟩ := Body.entered_of_complete hleft
  obtain ⟨amount, _, hbody⟩ := buildCommitBody_ok_iff.mp hcommit
  have hunit : commit.actual.unit = USD_MICROCENTS := by rw [hbody]
  have hestimate := reservationBody_estimate hrequest
  rcases buildCommitBody_amount hcommit with hoverride | ⟨hnone, hamount⟩
  · have haccepted : body.lastAccepted = some commit.actual.amount := hactual.symm.trans hoverride
    have hbounds := Body.lastAccepted_bounds haccepted
    exact ⟨hunit, hbounds.1, hbounds.2, by rw [haccepted]; rfl⟩
  · have haccepted : body.lastAccepted = none := hactual.symm.trans hnone
    rw [hargs, amountMicros_of_reservationBody hrequest] at hamount
    have hamount := Except.ok.inj hamount
    rw [← hamount, haccepted]
    exact ⟨hunit, hestimate.2.1, hestimate.2.2.1, rfl⟩

/-! ### The courses -/

section Courses

variable {py : Python} {clock : Int} {flavour : Flavour} {args : GuardArgs} {body : Body}
  {decision : Decision} {reservationId : String} {result : GuardResult} {trail : List GuardEvent}

theorem ExitCourse.money {request : ReservationBody}
    (hrequest : args.reservationBody py = .ok request)
    (h : ExitCourse py clock flavour decision reservationId
      (body.apply py (GuardState.entered args decision reservationId)) result trail) :
    (∀ id commit outcome, Event.exchange (.commitReservation id commit) outcome ∈ trail →
      id = reservationId ∧ commit.actual.unit = USD_MICROCENTS ∧ 0 ≤ commit.actual.amount ∧
        commit.actual.amount ≤ MAX_USD_MICROS ∧
        commit.actual.amount = body.lastAccepted.getD request.estimate.amount ∧
        (outcome.succeeded = true → result.2.receipt =
          if args.emitReceipt then
            some (receiptFor py clock
              (body.apply py (GuardState.entered args decision reservationId)).2
              decision reservationId commit.actual.amount)
          else none)) ∧
      ((∀ id commit outcome, Event.exchange (.commitReservation id commit) outcome ∈ trail →
        outcome.succeeded = false) → result.2.receipt = none) := by
  have hframe := body.apply_frame py (GuardState.entered args decision reservationId)
  generalize hleft : body.apply py (GuardState.entered args decision reservationId) = left
    at h hframe
  cases h with
  | bodyRaised e self release =>
    exact ⟨by simp [releaseRequest], fun _ => hframe.receipt⟩
  | aborted release haborted =>
    exact ⟨by simp [releaseRequest], fun _ => hframe.receipt⟩
  | @settled self commitBody commit haborted hbody hverdict =>
    have hsucceeded := commitVerdict_settled_iff.mp hverdict
    have hactual := commitBody_actual hrequest hleft hbody
    have hreceipt : self.receipt = none := hframe.receipt
    have hargs : self.args = args := hframe.args
    constructor
    · intro id commit' outcome hmem
      cases List.mem_singleton.mp hmem
      refine ⟨rfl, hactual.1, hactual.2.1, hactual.2.2.1, hactual.2.2.2, ?_⟩
      intro _
      rw [GuardState.settled_receipt, hreceipt, hargs]
    · intro hnone
      have hfailed := hnone _ _ _ (List.mem_cons_self ..)
      simp [hsucceeded] at hfailed
  | @raised self commitBody commit e haborted hbody hverdict =>
    have hfailed := Bool.eq_false_iff.mp (succeeded_of_verdict hverdict (by simp))
    have hactual := commitBody_actual hrequest hleft hbody
    refine ⟨?_, fun _ => hframe.receipt⟩
    intro id commit' outcome hmem
    cases List.mem_singleton.mp hmem
    exact ⟨rfl, hactual.1, hactual.2.1, hactual.2.2.1, hactual.2.2.2, fun h => absurd h hfailed⟩
  | @rejected self commitBody commit errorCode requestId release haborted hbody hverdict =>
    have hfailed := Bool.eq_false_iff.mp (succeeded_of_verdict hverdict (by simp))
    have hactual := commitBody_actual hrequest hleft hbody
    refine ⟨?_, fun _ => hframe.receipt⟩
    intro id commit' outcome hmem
    rcases List.mem_cons.mp hmem with hmem | hmem
    · cases hmem
      exact ⟨rfl, hactual.1, hactual.2.1, hactual.2.2.1, hactual.2.2.2,
        fun h => absurd h hfailed⟩
    · cases List.mem_singleton.mp hmem

/-- The receipt of a run was built from its reserve, its commit and the
    reservation it held. -/
theorem ExitCourse.evidence {request : ReservationBody} {reserve : Outcome}
    (hrequest : args.reservationBody py = .ok request)
    (hadmission : admission args reserve = .admitted decision reservationId)
    (h : ExitCourse py clock flavour decision reservationId
      (body.apply py (GuardState.entered args decision reservationId)) result trail)
    {receipt : RuntimeAuthorityReceipt} (hreceipt : result.2.receipt = some receipt) :
    ∃ response reserved commit, reserve = .returned response ∧
      response.createResult = .ok reserved ∧
      .commitReservation receipt.reservationId commit ∈ requests trail ∧
      receipt.amountMicros = commit.actual.amount ∧
      receipt.decision = reserved.decision.value ∧
      request.subject.dimensions.lookup DIM_AP2_TRANSACTION_ID = some receipt.ap2TransactionId ∧
      request.subject.dimensions.lookup DIM_PAYEE_WEBSITE = some receipt.policyKeys.host ∧
      request.subject.dimensions.lookup DIM_PAYMENT_CURRENCY =
        some receipt.policyKeys.paymentCurrency := by
  obtain ⟨self, commit, hleft, _, hrequests, rfl⟩ := h.of_receipt hreceipt
  obtain rfl : self.args = args := (Body.entered_of_complete hleft).2.1
  obtain ⟨response, reserved, rfl, _, hreserved, hdecision, _⟩ :=
    admission_eq_admitted_iff.mp hadmission
  refine ⟨response, reserved, commit, rfl, hreserved, ?_, rfl, by rw [hdecision]; rfl,
    reservationBody_dimensions hrequest⟩
  rw [hrequests]
  exact List.mem_singleton.mpr rfl

theorem Course.money (h : Course py clock flavour args body result trail) :
    MoneyAgrees py args body result trail := by
  cases h with
  | unsent hrequest =>
    constructor <;> simp [requests, GuardState.init]
  | @refused request reserve decision e hrequest hadmission =>
    obtain ⟨hunit, hnonneg, hmax, hexact⟩ := reservationBody_estimate hrequest
    constructor <;>
      simp [requests, Event.request?, Request.amount, GuardState.init, hunit, hnonneg, hmax,
        hexact]
  | @entered request reserve decision reservationId result rest hrequest hadmission hexit =>
    obtain ⟨hunit, hnonneg, hmax, hexact⟩ := reservationBody_estimate hrequest
    obtain ⟨hcommit, hnone⟩ := hexit.money hrequest
    obtain ⟨_, htarget, _⟩ := hexit.requests_spec
    have hreserve : ∀ {q}, Request.createReservation q ∈
        requests (Event.exchange (Request.createReservation request) reserve ::
          Event.act (Mark.withBody (some reservationId)) :: rest) → q = request := by
      intro q hq
      rcases List.mem_cons.mp hq with hq | hq
      · exact Request.createReservation.inj hq
      · cases htarget _ hq
    constructor
    · intro q hq amount hamount
      rcases List.mem_cons.mp hq with rfl | hq
      · cases hamount
        exact ⟨hunit, hnonneg, hmax⟩
      · have hrest : q ∈ requests rest := hq
        obtain ⟨outcome, hmem⟩ := mem_requests_iff.mp hrest
        cases q with
        | createReservation q => cases htarget _ hq
        | commitReservation id commit =>
          obtain ⟨_, hunit, hnonneg, hmax, _⟩ := hcommit _ _ _ hmem
          cases hamount
          exact ⟨hunit, hnonneg, hmax⟩
        | releaseReservation id release => simp [Request.amount] at hamount
    · intro q hq
      rw [hreserve hq]
      exact hexact
    · intro q id commit hq hmem
      rcases List.mem_cons.mp hmem with hmem | hmem
      · simp at hmem
      · have hrest : Request.commitReservation id commit ∈ requests rest := hmem
        obtain ⟨outcome, hmem⟩ := mem_requests_iff.mp hrest
        rw [hreserve hq]
        exact (hcommit _ _ _ hmem).2.2.2.2.1
    · have hsettled : (∃ id commit outcome, Event.exchange (.commitReservation id commit) outcome ∈
          Event.exchange (Request.createReservation request) reserve ::
            Event.act (Mark.withBody (some reservationId)) :: rest ∧ outcome.succeeded = true) ↔
          ∃ id commit outcome, Event.exchange (.commitReservation id commit) outcome ∈ rest ∧
            outcome.succeeded = true := by
        simp
      rw [hsettled]
      by_cases hsucceeded : ∃ id commit outcome,
          Event.exchange (.commitReservation id commit) outcome ∈ rest ∧ outcome.succeeded = true
      · obtain ⟨id, commit, outcome, hmem, hsuccess⟩ := hsucceeded
        rw [(hcommit _ _ _ hmem).2.2.2.2.2 hsuccess,
          and_iff_right ⟨id, commit, outcome, hmem, hsuccess⟩]
        cases args.emitReceipt <;> simp
      · rw [hnone fun id commit outcome hmem => Bool.eq_false_iff.mpr fun hsuccess =>
          hsucceeded ⟨id, commit, outcome, hmem, hsuccess⟩]
        simp [hsucceeded]
    · intro receipt hreceipt
      obtain ⟨response, reserved, commit, rfl, hreserved, hmem, hevidence⟩ :=
        hexit.evidence hrequest hadmission hreceipt
      obtain ⟨outcome, hmem⟩ := mem_requests_iff.mp hmem
      exact ⟨request, response, reserved, commit, List.mem_cons_self .., hreserved,
        mem_requests_iff.mpr ⟨outcome, List.mem_cons_of_mem _ (List.mem_cons_of_mem _ hmem)⟩,
        hevidence⟩

end Courses

/-! ### Every run -/

/-- A rejected `set_actual_micros` leaves every attribute; an accepted one sets
    the override. -/
theorem setActualMicros_cases (py : Python) (amount : PyValue) (self : GuardState) :
    (∃ e, GuardedPayment.setActualMicros py amount self = .done (.error e, self)) ∧
        acceptedMicros amount = none ∨
      ∃ micros, GuardedPayment.setActualMicros py amount self =
          .done (.ok (), { self with actualMicros := some micros }) ∧
        acceptedMicros amount = some micros := by
  rw [setActualMicros_apply]
  rcases hvalidate : validateMicros py amount "actual amount" with e | micros
  · refine Or.inl ⟨⟨e, rfl⟩, ?_⟩
    by_contra haccepted
    obtain ⟨n, hn⟩ := Option.ne_none_iff_exists'.mp haccepted
    rw [(validateMicros_eq_ok_iff py).mpr hn] at hvalidate
    simp at hvalidate
  · exact Or.inr ⟨micros, rfl, (validateMicros_eq_ok_iff py).mp hvalidate⟩

/-- **Reserve, commit and receipt agree on the money**, in every run of either
    class; and a call of `set_actual_micros` either sets the override to its
    argument, a plain integer in range, or raises and changes nothing. -/
theorem guardRun_money (py : Python) (clock : Int) (flavour : Flavour) (args : GuardArgs)
    (body : Body) (answers : Answers) :
    MoneyAgrees py args body (guardRun py clock flavour args body answers).1
        (guardRun py clock flavour args body answers).2 ∧
      ∀ amount self,
        (∃ e, (bodyMethods py flavour).setActualMicros amount self = .done (.error e, self)) ∧
            acceptedMicros amount = none ∨
          ∃ micros, (bodyMethods py flavour).setActualMicros amount self =
              .done (.ok (), { self with actualMicros := some micros }) ∧
            acceptedMicros amount = some micros := by
  refine ⟨(guardRun_course answers).money, ?_⟩
  intro amount self
  cases flavour with
  | sync => exact setActualMicros_cases py amount self
  | async => exact setActualMicros_cases py amount self

end CyclesAP2
