import CyclesAP2.Dimensions

/-!
# Equal payloads

A second reserve under a key is a replay if its body equals the one on record, and
a mismatch otherwise.  Two bodies are equal exactly when they say the same: the
arguments may still differ in how an amount is written, in an empty scope instead
of none, or in an extra dimension that a canonical one hides
(`reservationBody_eq_iff`).
-/

namespace CyclesAP2

/-- The dimension that the reserve body of these arguments holds under a key. -/
def GuardArgs.dimension (py : Python) (args : GuardArgs) (key : String) : Option String :=
  ((canonicalDimensions py args.mandate args.runId).lookup key).or
    (args.extraDimensions.bind (·.lookup key))

/-- Two guards say the same in their reserves. -/
structure SamePayload (py : Python) (args args' : GuardArgs) : Prop where
  key : idempotencyKey py args.mandate .reserve = idempotencyKey py args'.mandate .reserve
  amount : args.mandate.amountMicros py = args'.mandate.amountMicros py
  tenant : truthyText args.tenant = truthyText args'.tenant
  workspace : truthyText args.workspace = truthyText args'.workspace
  app : truthyText args.app = truthyText args'.app
  workflow : truthyText args.workflow = truthyText args'.workflow
  agent : truthyText args.agent = truthyText args'.agent
  toolset : truthyText args.toolset = truthyText args'.toolset
  dimension : ∀ key, args.dimension py key = args'.dimension py key
  actionKind : args.actionKind = args'.actionKind
  ttlMs : args.ttlMs = args'.ttlMs
  overagePolicy : args.overagePolicy = args'.overagePolicy
  dryRun : args.dryRun = args'.dryRun
  metadata : truthyFields args.metadata = truthyFields args'.metadata

theorem SamePayload.refl (py : Python) (args : GuardArgs) : SamePayload py args args := by
  constructor <;> first | rfl | exact fun _ => rfl

variable {py : Python} {args args' : GuardArgs} {request request' : ReservationBody}

theorem dimension_of_reservationBody (h : args.reservationBody py = .ok request) (key : String) :
    request.subject.dimensions.lookup key = args.dimension py key := by
  obtain ⟨_, _, rfl⟩ := GuardArgs.reservationBody_ok_iff.mp h
  exact lookup_buildSubject ..

theorem dryRunFlag_inj {dryRun dryRun' : Bool} :
    (if dryRun then some true else none) = (if dryRun' then some true else none) ↔
      dryRun = dryRun' := by
  cases dryRun <;> cases dryRun' <;> simp

/-- **When two reserves are equal**: exactly when the guards say the same. -/
theorem reservationBody_eq_iff (h : args.reservationBody py = .ok request)
    (h' : args'.reservationBody py = .ok request') :
    request = request' ↔ SamePayload py args args' := by
  have hdimension := dimension_of_reservationBody h
  have hdimension' := dimension_of_reservationBody h'
  obtain ⟨micros, hmicros, hrequest⟩ := GuardArgs.reservationBody_ok_iff.mp h
  obtain ⟨micros', hmicros', hrequest'⟩ := GuardArgs.reservationBody_ok_iff.mp h'
  constructor
  · intro heq
    subst heq
    have hbody := hrequest.symm.trans hrequest'
    injection hbody with hkey hsubject haction hestimate httl hoverage hdry hmetadata
    injection hsubject with htenant hworkspace happ hworkflow hagent htoolset _
    injection haction with hkind _
    injection hestimate with _ hamount
    refine ⟨hkey, ?_, htenant, hworkspace, happ, hworkflow, hagent, htoolset, ?_, hkind, httl,
      hoverage, dryRunFlag_inj.mp hdry, hmetadata⟩
    · rw [hmicros, hmicros', hamount]
    · intro key
      rw [← hdimension, ← hdimension']
  · intro hsame
    have hamount : micros = micros' := by
      have hboth := hsame.amount
      rw [hmicros, hmicros'] at hboth
      exact Except.ok.inj hboth
    have hdimensions : request.subject.dimensions = request'.subject.dimensions := by
      refine Finmap.ext_lookup ?_
      intro key
      rw [hdimension, hdimension', hsame.dimension]
    rw [hrequest, hrequest'] at hdimensions ⊢
    simp only [buildSubject] at hdimensions ⊢
    rw [hdimensions, hsame.key, hamount, hsame.tenant, hsame.workspace, hsame.app, hsame.workflow,
      hsame.agent, hsame.toolset, hsame.actionKind, hsame.ttlMs, hsame.overagePolicy,
      hsame.dryRun, hsame.metadata]

/-! ### What equal payloads say of the mandates -/

namespace SamePayload

theorem canonical {key : String} {value value' : String} (h : SamePayload py args args')
    (hvalue : (canonicalDimensions py args.mandate args.runId).lookup key = some value)
    (hvalue' : (canonicalDimensions py args'.mandate args'.runId).lookup key = some value') :
    value = value' := by
  have hdimension := h.dimension key
  rw [GuardArgs.dimension, GuardArgs.dimension, hvalue, hvalue'] at hdimension
  simpa using hdimension

theorem runId (h : SamePayload py args args') : args.runId = args'.runId :=
  h.canonical (lookup_canonicalDimensions ..).1 (lookup_canonicalDimensions ..).1

theorem transactionId (h : SamePayload py args args') :
    args.mandate.transactionId = args'.mandate.transactionId :=
  BoundedText.val_inj.mp
    (h.canonical (lookup_canonicalDimensions ..).2.1 (lookup_canonicalDimensions ..).2.1)

theorem payeeWebsite (h : SamePayload py args args') :
    args.mandate.payeeWebsite = args'.mandate.payeeWebsite :=
  BoundedText.val_inj.mp
    (h.canonical (lookup_canonicalDimensions ..).2.2.1 (lookup_canonicalDimensions ..).2.2.1)

theorem currency (h : SamePayload py args args') :
    py.upper args.mandate.currency.val = py.upper args'.mandate.currency.val :=
  h.canonical (lookup_canonicalDimensions ..).2.2.2.1 (lookup_canonicalDimensions ..).2.2.2.1

/-- The checkout hash too, unless the caller supplies one that a mandate lacks. -/
theorem checkoutHash (h : SamePayload py args args') (hargs : args.SuppliesNoCheckoutHash)
    (hargs' : args'.SuppliesNoCheckoutHash) :
    args.mandate.checkoutHash = args'.mandate.checkoutHash := by
  have hdimension := h.dimension DIM_CHECKOUT_HASH
  rw [GuardArgs.dimension, GuardArgs.dimension, (lookup_canonicalDimensions_hashes ..).1,
    (lookup_canonicalDimensions_hashes ..).1, hash_or_eq_self_iff.mpr hargs,
    hash_or_eq_self_iff.mpr hargs'] at hdimension
  exact Option.map_injective (fun _ _ => BoundedText.val_inj.mp) hdimension

end SamePayload

end CyclesAP2
