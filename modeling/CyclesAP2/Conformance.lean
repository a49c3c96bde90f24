import CyclesAP2.Dimensions
import CyclesAP2.Money
import CyclesAP2.Reuse

/-!
# What goes over the wire

The protocol bounds what a request may carry: an idempotency key is short and ASCII, an
amount is a non-negative int64 of micro-cents, a release reason is short, and dimensions
are few, with short values and keys of a small alphabet.

The package sees to all of this but for the dimensions, which hold the run id and the
extra dimensions of the caller as they are.  So a guard, however it is used, sends nothing
that is out of bounds if these are in bounds, and otherwise its reserve is what is out of
bounds, and nothing else (`requests_conform`).
-/

namespace CyclesAP2

open Interaction

/-- The characters of a dimension key: `[a-z0-9_.-]`. -/
def isDimensionChar (c : Char) : Bool :=
  c.isLower || c.isDigit || c == '_' || c == '.' || c == '-'

structure ConformingDimensions (dimensions : Texts) : Prop where
  keys : ∀ key ∈ dimensions, ∀ c ∈ key.toList, isDimensionChar c = true
  values : ∀ key value, dimensions.lookup key = some value → value.length ≤ 256
  count : dimensions.keys.card ≤ 16

structure Request.Conforms (request : Request) : Prop where
  key : request.key.length ≤ 256 ∧ ∀ c ∈ request.key.toList, c.toNat < 128
  amount : ∀ amount, request.amount = some amount →
    amount.unit = USD_MICROCENTS ∧ 0 ≤ amount.amount ∧ amount.amount ≤ MAX_USD_MICROS
  dimensions : ∀ body, request = .createReservation body →
    ConformingDimensions body.subject.dimensions
  reason : ∀ id body, request = .releaseReservation id body → body.reason.length ≤ 256

/-! ### The dimensions of a mandate -/

/-- The keys under which the dimensions of a mandate are present. -/
def AP2Mandate.dimensionKeys (mandate : AP2Mandate) : List String :=
  [DIM_RUN_ID, DIM_AP2_TRANSACTION_ID, DIM_PAYEE_WEBSITE, DIM_PAYMENT_CURRENCY,
      DIM_PAYMENT_PROTOCOL] ++
    (mandate.checkoutHash.map fun _ => DIM_CHECKOUT_HASH).toList ++
    (mandate.openMandateHash.map fun _ => DIM_OPEN_MANDATE_HASH).toList

theorem AP2Mandate.dimensionKeys_sublist (mandate : AP2Mandate) :
    mandate.dimensionKeys.Sublist CANONICAL_DIMENSIONS := by
  have hoptional : ∀ (hash : Option (BoundedText 1 256)) (key : String),
      (hash.map fun _ => key).toList.Sublist [key] := by
    intro hash key
    rcases hash with _ | hash
    · exact List.nil_sublist _
    · exact List.Sublist.refl _
  exact ((List.Sublist.refl _).append (hoptional _ _)).append (hoptional _ _)

theorem AP2Mandate.dimensionKeys_nodup (mandate : AP2Mandate) : mandate.dimensionKeys.Nodup :=
  mandate.dimensionKeys_sublist.nodup (by decide)

theorem AP2Mandate.dimensionKeys_conform (mandate : AP2Mandate) {key : String}
    (h : key ∈ mandate.dimensionKeys) : ∀ c ∈ key.toList, isDimensionChar c = true := by
  have hall : CANONICAL_DIMENSIONS.all (fun key => key.toList.all isDimensionChar) = true := by
    decide
  exact List.all_eq_true.mp
    (List.all_eq_true.mp hall key (mandate.dimensionKeys_sublist.subset h))

theorem mem_canonicalDimensions_iff {py : Python} {mandate : AP2Mandate} {runId key : String} :
    key ∈ canonicalDimensions py mandate runId ↔ key ∈ mandate.dimensionKeys := by
  unfold canonicalDimensions AP2Mandate.dimensionKeys
  rw [truthyText_val, truthyText_val]
  rcases mandate.checkoutHash with _ | hash <;> rcases mandate.openMandateHash with _ | hash' <;>
    simp [Finmap.mem_insert] <;> tauto

/-- Every value that is derived from a mandate is short. -/
theorem canonicalDimensions_values {py : Python} {mandate : AP2Mandate} {runId : String}
    (hcurrency : py.upper mandate.currency.val = "USD") {key value : String}
    (h : (canonicalDimensions py mandate runId).lookup key = some value)
    (hkey : key ≠ DIM_RUN_ID) : value.length ≤ 256 := by
  by_cases hmem : key ∈ CANONICAL_DIMENSIONS
  · obtain ⟨_, htransaction, hpayee, hupper, hprotocol⟩ :=
      lookup_canonicalDimensions py mandate runId
    obtain ⟨hcheckout, hopen⟩ := lookup_canonicalDimensions_hashes py mandate runId
    simp only [CANONICAL_DIMENSIONS, List.mem_cons, List.not_mem_nil, or_false] at hmem
    rcases hmem with rfl | rfl | rfl | rfl | rfl | rfl | rfl
    · exact absurd rfl hkey
    · obtain rfl := Option.some.inj (htransaction.symm.trans h)
      exact mandate.transactionId.max_length
    · obtain rfl := Option.some.inj (hpayee.symm.trans h)
      exact Nat.le_trans mandate.payeeWebsite.max_length (by decide)
    · obtain rfl := Option.some.inj (hupper.symm.trans h)
      rw [hcurrency]
      decide
    · obtain rfl := Option.some.inj (hprotocol.symm.trans h)
      decide
    · obtain ⟨hash, _, rfl⟩ := Option.map_eq_some_iff.mp (hcheckout.symm.trans h)
      exact hash.max_length
    · obtain ⟨hash, _, rfl⟩ := Option.map_eq_some_iff.mp (hopen.symm.trans h)
      exact hash.max_length
  · rw [lookup_canonicalDimensions_of_notMem py mandate runId hmem] at h
    cases h

/-! ### The dimensions of a reserve -/

/-- The extra dimensions whose keys are not taken by the mandate. -/
def GuardArgs.addedKeys (args : GuardArgs) : List String :=
  match args.extraDimensions with
  | none => []
  | some extra => extra.keys.filter fun key => decide (key ∉ args.mandate.dimensionKeys)

/-- What the caller has to see to. -/
structure GuardArgs.Conforming (args : GuardArgs) : Prop where
  runId : args.runId.length ≤ 256
  keys : ∀ key ∈ args.addedKeys, ∀ c ∈ key.toList, isDimensionChar c = true
  values : ∀ key ∈ args.addedKeys, ∀ value,
    args.extraDimensions.bind (·.lookup key) = some value → value.length ≤ 256
  count : args.mandate.dimensionKeys.length + args.addedKeys.length ≤ 16

theorem GuardArgs.mem_addedKeys_iff {args : GuardArgs} {key : String} :
    key ∈ args.addedKeys ↔ key ∉ args.mandate.dimensionKeys ∧
      ∃ value, args.extraDimensions.bind (·.lookup key) = some value := by
  unfold addedKeys
  rcases args.extraDimensions with _ | extra
  · simp
  · simp [← AList.mem_keys, ← AList.lookup_isSome, Option.isSome_iff_exists, and_comm]

section Reserve

variable {py : Python} {args : GuardArgs} {body : ReservationBody}

theorem reservationBody_lookup (h : args.reservationBody py = .ok body) (key : String) :
    body.subject.dimensions.lookup key =
      ((canonicalDimensions py args.mandate args.runId).lookup key).or
        (args.extraDimensions.bind (·.lookup key)) := by
  obtain ⟨_, _, rfl⟩ := GuardArgs.reservationBody_ok_iff.mp h
  exact lookup_buildSubject ..

/-- The keys of the dimensions, each listed once. -/
theorem reservationBody_keys (h : args.reservationBody py = .ok body) :
    body.subject.dimensions.keys = (args.mandate.dimensionKeys ++ args.addedKeys).toFinset := by
  ext key
  rw [Finmap.mem_keys, ← Finmap.lookup_isSome, reservationBody_lookup h, Option.isSome_or,
    Bool.or_eq_true, Finmap.lookup_isSome, mem_canonicalDimensions_iff, List.mem_toFinset,
    List.mem_append, GuardArgs.mem_addedKeys_iff, Option.isSome_iff_exists]
  tauto

theorem reservationBody_count (h : args.reservationBody py = .ok body) :
    body.subject.dimensions.keys.card =
      args.mandate.dimensionKeys.length + args.addedKeys.length := by
  have hadded : args.addedKeys.Nodup := by
    unfold GuardArgs.addedKeys
    rcases args.extraDimensions with _ | extra
    · exact List.nodup_nil
    · exact extra.keys_nodup.filter _
  have hnodup : (args.mandate.dimensionKeys ++ args.addedKeys).Nodup := by
    refine args.mandate.dimensionKeys_nodup.append hadded ?_
    intro key hmandate hextra
    exact (GuardArgs.mem_addedKeys_iff.mp hextra).1 hmandate
  rw [reservationBody_keys h, List.toFinset_card_of_nodup hnodup, List.length_append]

/-- A key that is not of the mandate has the value of the caller. -/
theorem reservationBody_added (h : args.reservationBody py = .ok body) {key : String}
    (hkey : key ∉ args.mandate.dimensionKeys) :
    body.subject.dimensions.lookup key = args.extraDimensions.bind (·.lookup key) := by
  rw [reservationBody_lookup h, Finmap.lookup_eq_none.mpr (mt mem_canonicalDimensions_iff.mp hkey),
    Option.none_or]

/-- **The dimensions of a reserve are in bounds exactly when the run id and the extra
    dimensions of the caller are.** -/
theorem dimensions_conform_iff (h : args.reservationBody py = .ok body) :
    ConformingDimensions body.subject.dimensions ↔ args.Conforming := by
  have hmem : ∀ key, key ∈ body.subject.dimensions ↔
      key ∈ args.mandate.dimensionKeys ∨ key ∈ args.addedKeys := by
    intro key
    rw [← Finmap.mem_keys, reservationBody_keys h, List.mem_toFinset, List.mem_append]
  constructor
  · intro hconform
    refine ⟨?_, ?_, ?_, ?_⟩
    · refine hconform.values DIM_RUN_ID _ ?_
      rw [reservationBody_lookup h, (lookup_canonicalDimensions py args.mandate args.runId).1]
      rfl
    · intro key hkey
      exact hconform.keys key ((hmem key).mpr (Or.inr hkey))
    · intro key hkey value hvalue
      refine hconform.values key value ?_
      rw [reservationBody_added h (GuardArgs.mem_addedKeys_iff.mp hkey).1]
      exact hvalue
    · rw [← reservationBody_count h]
      exact hconform.count
  · intro hconforming
    obtain ⟨micros, hmicros, _⟩ := GuardArgs.reservationBody_ok_iff.mp h
    refine ⟨?_, ?_, ?_⟩
    · intro key hkey
      rcases (hmem key).mp hkey with hmandate | hadded
      · exact args.mandate.dimensionKeys_conform hmandate
      · exact hconforming.keys key hadded
    · intro key value hvalue
      by_cases hkey : key ∈ args.mandate.dimensionKeys
      · rw [reservationBody_lookup h] at hvalue
        obtain ⟨value', hcanonical⟩ := Finmap.mem_iff.mp (mem_canonicalDimensions_iff.mpr hkey)
        rw [hcanonical] at hvalue
        obtain rfl := Option.some.inj hvalue
        by_cases hrun : key = DIM_RUN_ID
        · subst hrun
          rw [(lookup_canonicalDimensions py args.mandate args.runId).1] at hcanonical
          obtain rfl := Option.some.inj hcanonical
          exact hconforming.runId
        · exact canonicalDimensions_values (AP2Mandate.currency_of_amountMicros hmicros)
            hcanonical hrun
      · rw [reservationBody_added h hkey] at hvalue
        exact hconforming.values key
          (GuardArgs.mem_addedKeys_iff.mpr ⟨hkey, value, hvalue⟩) value hvalue
    · rw [reservationBody_count h]
      exact hconforming.count

end Reserve

/-! ### What a guard sends -/

section Requests

variable {py : Python} {mandate : AP2Mandate} {args : GuardArgs}

theorem idempotencyKey_conforms (hdigest : IsDigest (hashInput py (consumeOnceInput mandate).2))
    (phase : KeyPhase) (suffix : Option String) :
    (idempotencyKey py mandate phase suffix).length ≤ 256 ∧
      ∀ c ∈ (idempotencyKey py mandate phase suffix).toList, c.toNat < 128 := by
  obtain ⟨hlength, hascii⟩ := (hasKeyForm_idempotencyKey hdigest phase suffix).bounded
  exact ⟨Nat.le_trans hlength (by decide), hascii⟩

theorem reserve_conforms_iff (hdigest : IsDigest (hashInput py (consumeOnceInput args.mandate).2))
    {body : ReservationBody} (h : args.reservationBody py = .ok body) :
    (Request.createReservation body).Conforms ↔ args.Conforming := by
  rw [← dimensions_conform_iff h]
  constructor
  · intro hconforms
    exact hconforms.dimensions body rfl
  · intro hdimensions
    obtain ⟨hunit, hnonneg, hmax, _⟩ := reservationBody_estimate h
    refine ⟨?_, ?_, ?_, ?_⟩
    · change body.idempotencyKey.length ≤ 256 ∧ ∀ c ∈ body.idempotencyKey.toList, c.toNat < 128
      rw [key_of_reservationBody h]
      exact idempotencyKey_conforms hdigest _ _
    · rintro amount ⟨⟩
      exact ⟨hunit, hnonneg, hmax⟩
    · rintro body' ⟨⟩
      exact hdimensions
    · rintro id' body' ⟨⟩

/-- A commit is in bounds, whether its amount is an override or that of the mandate. -/
theorem commit_conforms (hdigest : IsDigest (hashInput py (consumeOnceInput mandate).2))
    {actualMicros : Option Int} {metadata : Option Fields} {body : CommitBody} (id : String)
    (h : buildCommitBody py mandate actualMicros metadata = .ok body) :
    (Request.commitReservation id body).Conforms := by
  obtain ⟨amount, hamount, rfl⟩ := buildCommitBody_ok_iff.mp h
  have hkey := idempotencyKey_conforms hdigest .commit none
  refine ⟨hkey, ?_, ?_, ?_⟩
  · rintro shown ⟨⟩
    refine ⟨rfl, ?_⟩
    cases actualMicros with
    | none =>
      obtain ⟨hnonneg, hmax, _⟩ := AP2Mandate.amountMicros_ok hamount
      exact ⟨hnonneg, hmax⟩
    | some actualMicros =>
      exact (acceptedMicros_eq_some_iff.mp ((validateMicros_eq_ok_iff py).mp hamount)).2
  · rintro body' ⟨⟩
  · rintro id' body' ⟨⟩

theorem release_conforms {guard : GuardState}
    (hdigest : IsDigest (hashInput py (consumeOnceInput guard.args.mandate).2))
    (id reason excName : String) : (releaseRequest py guard id reason excName).Conforms := by
  have hkey := idempotencyKey_conforms hdigest .release (some excName)
  refine ⟨hkey, ?_, ?_, ?_⟩
  · rintro amount ⟨⟩
  · rintro body ⟨⟩
  · rintro id' body ⟨⟩
    change (slice reason 256).length ≤ 256
    rw [← String.length_toList, toList_slice]
    exact List.length_take_le ..

end Requests

/-! ### Everything that is sent -/

/-- Every request but a reserve is in bounds, and a reserve if what the caller has to see
    to is. -/
def ConformingTrail (args : GuardArgs) (trail : List GuardEvent) : Prop :=
  ∀ request ∈ requests trail, request.Conforms ↔ (request.phase = .reserve → args.Conforming)

section Trails

variable {args : GuardArgs} {trail : List GuardEvent}

theorem ConformingTrail.sent (h : ConformingTrail args trail) {request : Request}
    (hrequest : request.Conforms ↔ (request.phase = .reserve → args.Conforming))
    (outcome : Outcome) : ConformingTrail args (trail ++ [.exchange request outcome]) := by
  intro sent hsent
  obtain ⟨outcome', hseen⟩ := mem_requests_iff.mp hsent
  rcases List.mem_append.mp hseen with hold | hnew
  · exact h sent (mem_requests_iff.mpr ⟨outcome', hold⟩)
  · cases List.mem_singleton.mp hnew
    exact hrequest

theorem ConformingTrail.act (h : ConformingTrail args trail) (mark : Mark) :
    ConformingTrail args (trail ++ [.act mark]) := by
  intro sent hsent
  obtain ⟨outcome, hseen⟩ := mem_requests_iff.mp hsent
  rcases List.mem_append.mp hseen with hold | hnew
  · exact h sent (mem_requests_iff.mpr ⟨outcome, hold⟩)
  · cases List.mem_singleton.mp hnew

end Trails

theorem conforming_invariant {py : Python} {args : GuardArgs}
    (hdigest : IsDigest (hashInput py (consumeOnceInput args.mandate).2)) :
    UseInvariant py (ConformingTrail args)
      fun guard trail => guard.args = args ∧ ConformingTrail args trail where
  reserve := by
    rintro guard trail request reserve ⟨rfl, htrail⟩ hrequest
    have hreserve : (Request.createReservation request).Conforms ↔
        ((Request.createReservation request).phase = .reserve → guard.args.Conforming) :=
      (reserve_conforms_iff hdigest hrequest).trans
        ⟨fun hconforming _ => hconforming, fun h => h rfl⟩
    have hsent := htrail.sent hreserve reserve
    refine ⟨hsent, ?_, hsent⟩
    unfold GuardState.afterReserve
    rcases admission guard.args reserve with ⟨decision, e⟩ | ⟨decision, id⟩ <;> rfl
  mark := by
    rintro guard trail id ⟨hargs, htrail⟩ _
    exact ⟨htrail.act _, hargs, htrail.act _⟩
  call := by
    rintro guard trail call ⟨hargs, htrail⟩
    exact ⟨(call.apply_frame guard).args.trans hargs, htrail⟩
  release := by
    rintro guard trail id reason excName release ⟨rfl, htrail⟩ _
    have hsent :=
      htrail.sent (iff_of_true (release_conforms hdigest id reason excName) nofun) release
    exact ⟨hsent, rfl, hsent⟩
  commit := by
    rintro guard trail id decision body clock commit ⟨rfl, htrail⟩ _ _ _ hbody
    have hsent := htrail.sent (iff_of_true (commit_conforms hdigest id hbody) nofun) commit
    refine ⟨hsent, ?_, hsent⟩
    split
    · unfold GuardState.settled
      split <;> rfl
    · rfl

/-- **Nothing goes over the wire that is out of bounds**, as long as the run id and the
    extra dimensions of the caller are in bounds, and otherwise the reserve alone is. -/
theorem requests_conform (py : Python) (flavour : Flavour) (args : GuardArgs) (uses : List Use)
    (hdigest : IsDigest (hashInput py (consumeOnceInput args.mandate).2))
    {trail : List GuardEvent} {p : Program Request Outcome Mark _}
    (h : Program.Path (runUses py flavour uses (GuardState.init args)) trail p) :
    ∀ request ∈ requests trail,
      request.Conforms ↔ (request.phase = .reserve → args.Conforming) := by
  have hnil : ConformingTrail args [] := fun _ hmem => absurd hmem List.not_mem_nil
  exact ((conforming_invariant hdigest).path ⟨rfl, hnil⟩ hnil h).1

theorem requests_conform_sample :
    let trail := ((runUses .sample .sync abortedAfterwards (GuardState.init .sample)).run
      Answers.sample.reply).2
    ∀ request ∈ requests trail,
      request.Conforms ↔ (request.phase = .reserve → GuardArgs.sample.Conforming) :=
  requests_conform .sample .sync .sample abortedAfterwards (by decide)
    (Program.path_run Answers.sample.reply _)

end CyclesAP2
