import CyclesAP2.GuardState
import CyclesAP2.Keys

/-!
# The dimensions of a reservation

`Subject.dimensions` holds what is derived from the mandate and the run id, and
the caller's extra dimensions under keys that are not taken.

A key is taken only if it has been inserted already, and two of the canonical
keys are inserted only for a mandate that carries the hash in question.  So the
canonical dimensions hold what the mandate says exactly when the caller does not
supply a hash that the mandate lacks.
-/

namespace CyclesAP2

/-- A key that is present keeps its value; another takes the first extra one. -/
theorem lookup_addExtraDimensions (key : String) (dimensions : Texts)
    (extra : List (Sigma fun _ : String => String)) :
    (addExtraDimensions dimensions extra).lookup key =
      (dimensions.lookup key).or (extra.dlookup key) := by
  induction extra generalizing dimensions with
  | nil => simp [addExtraDimensions]
  | cons entry rest ih =>
    obtain ⟨key', value⟩ := entry
    dsimp only [addExtraDimensions]
    by_cases hmem : key' ∈ dimensions
    · rw [if_pos hmem, ih]
      by_cases hkey : key' = key
      · subst hkey
        obtain ⟨present, hpresent⟩ := Finmap.mem_iff.mp hmem
        simp [hpresent]
      · rw [List.dlookup_cons_ne _ _ (Ne.symm hkey)]
    · rw [if_neg hmem, ih]
      by_cases hkey : key' = key
      · subst hkey
        rw [Finmap.lookup_insert, List.dlookup_cons_eq, Finmap.lookup_eq_none.mpr hmem]
        rfl
      · rw [Finmap.lookup_insert_of_ne _ (Ne.symm hkey), List.dlookup_cons_ne _ _ (Ne.symm hkey)]

theorem lookup_canonicalDimensions (py : Python) (mandate : AP2Mandate) (runId : String) :
    (canonicalDimensions py mandate runId).lookup DIM_RUN_ID = some runId ∧
      (canonicalDimensions py mandate runId).lookup DIM_AP2_TRANSACTION_ID =
        some mandate.transactionId.val ∧
      (canonicalDimensions py mandate runId).lookup DIM_PAYEE_WEBSITE =
        some mandate.payeeWebsite.val ∧
      (canonicalDimensions py mandate runId).lookup DIM_PAYMENT_CURRENCY =
        some (py.upper mandate.currency.val) ∧
      (canonicalDimensions py mandate runId).lookup DIM_PAYMENT_PROTOCOL =
        some PAYMENT_PROTOCOL_VALUE := by
  unfold canonicalDimensions
  dsimp only
  split <;> split <;>
    simp [DIM_RUN_ID, DIM_AP2_TRANSACTION_ID, DIM_PAYEE_WEBSITE, DIM_PAYMENT_CURRENCY,
      DIM_PAYMENT_PROTOCOL, DIM_CHECKOUT_HASH, DIM_OPEN_MANDATE_HASH, Finmap.lookup_insert_of_ne]

/-- A dimension of the subject: the canonical one, or else the caller's. -/
theorem lookup_buildSubject (py : Python) (mandate : AP2Mandate) (runId : String)
    (tenant workspace app workflow agent toolset : Option String)
    (extraDimensions : Option TextItems) (key : String) :
    (buildSubject py mandate runId tenant workspace app workflow agent toolset
        extraDimensions).dimensions.lookup key =
      ((canonicalDimensions py mandate runId).lookup key).or
        (extraDimensions.bind (·.lookup key)) := by
  cases extraDimensions with
  | none => simp [buildSubject]
  | some extra => exact lookup_addExtraDimensions key _ extra.entries

/-! ### The canonical keys -/

def CANONICAL_DIMENSIONS : List String :=
  [DIM_RUN_ID, DIM_AP2_TRANSACTION_ID, DIM_PAYEE_WEBSITE, DIM_PAYMENT_CURRENCY,
    DIM_PAYMENT_PROTOCOL, DIM_CHECKOUT_HASH, DIM_OPEN_MANDATE_HASH]

/-- A hash is a canonical dimension only if the mandate carries it. -/
theorem lookup_canonicalDimensions_hashes (py : Python) (mandate : AP2Mandate) (runId : String) :
    (canonicalDimensions py mandate runId).lookup DIM_CHECKOUT_HASH =
        mandate.checkoutHash.map (·.val) ∧
      (canonicalDimensions py mandate runId).lookup DIM_OPEN_MANDATE_HASH =
        mandate.openMandateHash.map (·.val) := by
  unfold canonicalDimensions
  rw [truthyText_val, truthyText_val]
  rcases mandate.checkoutHash with _ | hash <;> rcases mandate.openMandateHash with _ | hash' <;>
    simp [DIM_RUN_ID, DIM_AP2_TRANSACTION_ID, DIM_PAYEE_WEBSITE, DIM_PAYMENT_CURRENCY,
      DIM_PAYMENT_PROTOCOL, DIM_CHECKOUT_HASH, DIM_OPEN_MANDATE_HASH, Finmap.lookup_insert_of_ne]

theorem lookup_canonicalDimensions_of_notMem (py : Python) (mandate : AP2Mandate) (runId : String)
    {key : String} (h : key ∉ CANONICAL_DIMENSIONS) :
    (canonicalDimensions py mandate runId).lookup key = none := by
  simp only [CANONICAL_DIMENSIONS, List.mem_cons, List.not_mem_nil, or_false, not_or] at h
  obtain ⟨hrun, htransaction, hpayee, hcurrency, hprotocol, hcheckout, hopen⟩ := h
  unfold canonicalDimensions
  rw [truthyText_val, truthyText_val]
  rcases mandate.checkoutHash with _ | hash <;> rcases mandate.openMandateHash with _ | hash' <;>
    simp [Finmap.lookup_insert_of_ne, hrun, htransaction, hpayee, hcurrency, hprotocol, hcheckout,
      hopen]

/-! ### The key of the dimensions -/

/-- The reserve key that the dimensions point to. -/
def recomputedKey (py : Python) (dimensions : Texts) : Option String :=
  match dimensions.lookup DIM_OPEN_MANDATE_HASH with
  | some openMandateHash => some (keyBase py .openMandate openMandateHash .reserve)
  | none =>
    (dimensions.lookup DIM_AP2_TRANSACTION_ID).map fun transactionId =>
      keyBase py .transaction transactionId .reserve

theorem idempotencyKey_reserve (py : Python) (mandate : AP2Mandate) :
    idempotencyKey py mandate .reserve =
      keyBase py (consumeOnceInput mandate).1 (consumeOnceInput mandate).2 .reserve := rfl

/-! ### Dimensions that cannot be forged -/

/-- The dimensions of a reserve body say what the run id and the mandate say, the
    other keys what the caller says, and the key of the body can be recomputed from
    them. -/
structure FaithfulDimensions (py : Python) (args : GuardArgs) (body : ReservationBody) : Prop where
  runId : body.subject.dimensions.lookup DIM_RUN_ID = some args.runId
  transactionId : body.subject.dimensions.lookup DIM_AP2_TRANSACTION_ID =
    some args.mandate.transactionId.val
  payeeWebsite : body.subject.dimensions.lookup DIM_PAYEE_WEBSITE =
    some args.mandate.payeeWebsite.val
  currency : body.subject.dimensions.lookup DIM_PAYMENT_CURRENCY =
    some (py.upper args.mandate.currency.val)
  protocol : body.subject.dimensions.lookup DIM_PAYMENT_PROTOCOL = some PAYMENT_PROTOCOL_VALUE
  checkoutHash : body.subject.dimensions.lookup DIM_CHECKOUT_HASH =
    args.mandate.checkoutHash.map (·.val)
  openMandateHash : body.subject.dimensions.lookup DIM_OPEN_MANDATE_HASH =
    args.mandate.openMandateHash.map (·.val)
  extra : ∀ key, key ∉ CANONICAL_DIMENSIONS →
    body.subject.dimensions.lookup key = args.extraDimensions.bind (·.lookup key)
  key : recomputedKey py body.subject.dimensions = some body.idempotencyKey

/-- The caller supplies no value for the dimension of a checkout hash that the mandate
    lacks. -/
def GuardArgs.SuppliesNoCheckoutHash (args : GuardArgs) : Prop :=
  args.mandate.checkoutHash = none →
    args.extraDimensions.bind (·.lookup DIM_CHECKOUT_HASH) = none

/-- The caller supplies no value for the dimension of a hash that the mandate lacks. -/
def GuardArgs.SuppliesNoHash (args : GuardArgs) : Prop :=
  args.SuppliesNoCheckoutHash ∧
    (args.mandate.openMandateHash = none →
      args.extraDimensions.bind (·.lookup DIM_OPEN_MANDATE_HASH) = none)

/-- A hash of the mandate hides the extra entry of its key; without one, the extra
    entry takes its place. -/
theorem hash_or_eq_self_iff {hash : Option (BoundedText 1 256)} {extra : Option String} :
    (hash.map (·.val)).or extra = hash.map (·.val) ↔ (hash = none → extra = none) := by
  cases hash with
  | none => simp
  | some hash => simp

theorem recomputedKey_of_lookup {py : Python} {mandate : AP2Mandate} {dimensions : Texts}
    (htransaction : dimensions.lookup DIM_AP2_TRANSACTION_ID = some mandate.transactionId.val)
    (hopen : dimensions.lookup DIM_OPEN_MANDATE_HASH = mandate.openMandateHash.map (·.val)) :
    recomputedKey py dimensions = some (idempotencyKey py mandate .reserve) := by
  unfold recomputedKey
  rw [hopen, htransaction, idempotencyKey_reserve]
  rcases hhash : mandate.openMandateHash with _ | hash
  · rw [consumeOnceInput_of_none hhash]
    rfl
  · rw [consumeOnceInput_of_hash hhash]
    rfl

/-- **Canonical dimensions are neither forged nor lost** exactly when the caller
    supplies no value for the dimension of a hash that the mandate lacks. -/
theorem dimensions_faithful_iff {py : Python} {args : GuardArgs} {body : ReservationBody}
    (h : args.reservationBody py = .ok body) :
    FaithfulDimensions py args body ↔ args.SuppliesNoHash := by
  obtain ⟨micros, _, rfl⟩ := GuardArgs.reservationBody_ok_iff.mp h
  have hlookup := lookup_buildSubject py args.mandate args.runId args.tenant args.workspace args.app
    args.workflow args.agent args.toolset args.extraDimensions
  obtain ⟨hrun, htransaction, hpayee, hcurrency, hprotocol⟩ :=
    lookup_canonicalDimensions py args.mandate args.runId
  obtain ⟨hcheckout, hopen⟩ := lookup_canonicalDimensions_hashes py args.mandate args.runId
  constructor
  · intro hfaithful
    have hcheckout' := hfaithful.checkoutHash
    have hopen' := hfaithful.openMandateHash
    rw [hlookup, hcheckout] at hcheckout'
    rw [hlookup, hopen] at hopen'
    exact ⟨hash_or_eq_self_iff.mp hcheckout', hash_or_eq_self_iff.mp hopen'⟩
  · rintro ⟨hnoCheckout, hnoOpen⟩
    have htransaction' := hlookup DIM_AP2_TRANSACTION_ID
    rw [htransaction, Option.some_or] at htransaction'
    have hopen' := hlookup DIM_OPEN_MANDATE_HASH
    rw [hopen, hash_or_eq_self_iff.mpr hnoOpen] at hopen'
    refine ⟨?_, htransaction', ?_, ?_, ?_, ?_, hopen', ?_,
      recomputedKey_of_lookup htransaction' hopen'⟩
    · rw [hlookup, hrun]
      rfl
    · rw [hlookup, hpayee]
      rfl
    · rw [hlookup, hcurrency]
      rfl
    · rw [hlookup, hprotocol]
      rfl
    · rw [hlookup, hcheckout]
      exact hash_or_eq_self_iff.mpr hnoCheckout
    · intro key hkey
      rw [hlookup, lookup_canonicalDimensions_of_notMem _ _ _ hkey]
      rfl

/-- A payment with a dimension of the caller's own, and one that the guard overrides. -/
def GuardArgs.sampleTagged : GuardArgs :=
  { GuardArgs.sample with
    extraDimensions := some ((AList.singleton "cost_center" "cc-1").insert DIM_RUN_ID "run-2") }

theorem dimensions_faithful_iff_sample :
    ∃ body, GuardArgs.sampleTagged.reservationBody .sample = .ok body ∧
      FaithfulDimensions .sample .sampleTagged body :=
  ⟨_, rfl, (dimensions_faithful_iff rfl).mpr ⟨fun _ => rfl, fun _ => rfl⟩⟩

/-- A payment locked by its transaction id, whose caller supplies the hash of an open
    mandate as an extra dimension. -/
def GuardArgs.sampleForged : GuardArgs :=
  { GuardArgs.sample with
    extraDimensions := some (AList.singleton DIM_OPEN_MANDATE_HASH "open-1") }

/-- The forged hash is on record, and the key of the body is not the one of the
    dimensions. -/
theorem dimensions_forged :
    ∃ body, GuardArgs.sampleForged.reservationBody .sample = .ok body ∧
      GuardArgs.sampleForged.mandate.openMandateHash = none ∧
      body.subject.dimensions.lookup DIM_OPEN_MANDATE_HASH = some "open-1" ∧
      recomputedKey .sample body.subject.dimensions ≠ some body.idempotencyKey ∧
      ¬FaithfulDimensions .sample GuardArgs.sampleForged body := by
  refine ⟨_, rfl, rfl, by decide, by decide, ?_⟩
  intro hfaithful
  have hopen := hfaithful.openMandateHash
  revert hopen
  decide

end CyclesAP2
