import CyclesAP2.Dimensions
import CyclesAP2.Reconciliation

/-!
# Attached evidence

The fields that a body attaches go two ways: whole, as the metadata of the commit,
and split into `psp_ref` and the rest, in the receipt.  The metadata is the union
of all that was attached, a later value before an earlier one.  The receipt holds
the same, but for a `psp_ref` that is not a text: that one is dropped.
-/

namespace CyclesAP2

open Interaction

/-! ### What was attached -/

/-- The value that a call attaches under this key. -/
def BodyCall.attaching (key : String) : BodyCall → Option PyValue
  | .setActualMicros _ _ => none
  | .attachReceiptFields fields => fields.lookup key
  | .abort _ => none

/-- The value attached last under this key. -/
def Body.lastAttached (body : Body) (key : String) : Option PyValue :=
  (body.calls.filterMap (BodyCall.attaching key)).getLast?

/-- One call: its own value for a key, or else the one before. -/
theorem lookup_updateFields (key : String) {entries : List (Sigma fun _ : String => PyValue)}
    (hentries : entries.NodupKeys) (mapping : Fields) :
    (updateFields mapping entries).lookup key =
      (entries.dlookup key).or (mapping.lookup key) := by
  induction entries generalizing mapping with
  | nil => simp [updateFields]
  | cons entry rest ih =>
    obtain ⟨key', value⟩ := entry
    obtain ⟨hfresh, hrest⟩ := List.nodupKeys_cons.mp hentries
    dsimp only [updateFields]
    rw [ih hrest]
    by_cases hkey : key' = key
    · subst hkey
      rw [List.dlookup_eq_none.mpr hfresh, List.dlookup_cons_eq, Finmap.lookup_insert]
      rfl
    · rw [List.dlookup_cons_ne _ _ (Ne.symm hkey), Finmap.lookup_insert_of_ne _ (Ne.symm hkey)]

theorem foldl_apply_commitMetadata (key : String) (calls : List BodyCall) (self : GuardState) :
    (calls.foldl BodyCall.apply self).commitMetadata.lookup key =
      (calls.filterMap (BodyCall.attaching key)).getLast?.or (self.commitMetadata.lookup key) := by
  refine @foldl_apply_last _ (fun self => self.commitMetadata.lookup key)
    (BodyCall.attaching key) ?_ calls self
  intro call self
  cases call with
  | setActualMicros amount caught =>
    dsimp only [BodyCall.apply, BodyCall.attaching]
    cases acceptedMicros amount <;> rfl
  | attachReceiptFields fields => exact lookup_updateFields key fields.nodupKeys _
  | abort reason => rfl

/-! ### Where it goes -/

theorem lookup_truthyFields (key : String) (fields : Fields) :
    (truthyFields (some fields)).bind (·.lookup key) = fields.lookup key := by
  by_cases hempty : fields = ∅
  · subst hempty
    simp [truthyFields]
  · simp [truthyFields, Option.filter, hempty]

theorem truthyFields_eq_none_iff {fields : Fields} :
    truthyFields (some fields) = none ↔ ∀ key, fields.lookup key = none := by
  have hnone : truthyFields (some fields) = none ↔ fields = ∅ := by
    simp [truthyFields]
  rw [hnone]
  constructor
  · rintro rfl key
    exact Finmap.lookup_empty key
  · intro h
    refine Finmap.ext_lookup ?_
    intro key
    rw [h key, Finmap.lookup_empty]

theorem truthyFields_truthyFields (fields : Option Fields) :
    truthyFields (truthyFields fields) = truthyFields fields := by
  simp [truthyFields, Option.filter_filter]

/-- The value of a key as the receipt holds it: `psp_ref` in its own field, every
    other in `extra`. -/
def RuntimeAuthorityReceipt.evidence (receipt : RuntimeAuthorityReceipt) (key : String) :
    Option PyValue :=
  if key = "psp_ref" then receipt.pspRef.map .str else receipt.extra.bind (·.lookup key)

theorem receiptFor_extra (py : Python) (clock : Int) (self : GuardState) (decision : Decision)
    (reservationId : String) (amount : Int) :
    (receiptFor py clock self decision reservationId amount).extra =
      truthyFields (some (self.commitMetadata.erase "psp_ref")) := rfl

theorem evidence_receiptFor (py : Python) (clock : Int) (self : GuardState) (decision : Decision)
    (reservationId : String) (amount : Int) {key : String} (hkey : key ≠ "psp_ref") :
    (receiptFor py clock self decision reservationId amount).evidence key =
      self.commitMetadata.lookup key := by
  rw [RuntimeAuthorityReceipt.evidence, if_neg hkey, receiptFor_extra, lookup_truthyFields,
    Finmap.lookup_erase_ne hkey]

/-- A `psp_ref` that is there is in the receipt exactly when it is a text. -/
theorem evidence_receiptFor_pspRef (py : Python) (clock : Int) (self : GuardState)
    (decision : Decision) (reservationId : String) (amount : Int) :
    (receiptFor py clock self decision reservationId amount).evidence "psp_ref" =
        self.commitMetadata.lookup "psp_ref" ↔
      ∀ value, self.commitMetadata.lookup "psp_ref" = some value → ∃ ref, value = .str ref := by
  simp only [RuntimeAuthorityReceipt.evidence, receiptFor, buildRuntimeAuthorityReceipt, if_true]
  rcases self.commitMetadata.lookup "psp_ref" with _ | value
  · simp
  · cases value <;> simp

/-- Nothing attached is lost: the metadata of the commit is the union of all that was
    attached, absent if that is nothing, and the receipt holds just that. -/
structure EvidenceKept (body : Body) (commit : CommitBody) (receipt : RuntimeAuthorityReceipt) :
    Prop where
  metadata : ∀ key, commit.metadata.bind (·.lookup key) = body.lastAttached key
  absent : commit.metadata = none ↔ ∀ key, body.lastAttached key = none
  shown : ∀ key, receipt.evidence key = body.lastAttached key
  extra : receipt.extra.bind (·.lookup "psp_ref") = none

section Courses

variable {py : Python} {clock : Int} {flavour : Flavour} {args : GuardArgs} {body : Body}
  {decision : Decision} {reservationId : String} {result : GuardResult} {trail : List GuardEvent}

theorem Body.commitMetadata_of_complete {self : GuardState}
    (h : body.apply py (GuardState.entered args decision reservationId) = (.ok (), self))
    (key : String) : self.commitMetadata.lookup key = body.lastAttached key := by
  obtain ⟨_, rfl⟩ := Body.complete_of_apply h
  rw [foldl_apply_commitMetadata]
  exact Option.or_none

theorem evidenceKept_iff {self : GuardState} {commit : CommitBody} {amount : Int}
    (hleft : body.apply py (GuardState.entered args decision reservationId) = (.ok (), self))
    (hcommit : buildCommitBody py self.args.mandate self.actualMicros
      (truthyFields (some self.commitMetadata)) = .ok commit) :
    EvidenceKept body commit (receiptFor py clock self decision reservationId amount) ↔
      ∀ value, body.lastAttached "psp_ref" = some value → ∃ ref, value = .str ref := by
  have hattached := Body.commitMetadata_of_complete hleft
  have hmetadata : commit.metadata = truthyFields (some self.commitMetadata) := by
    obtain ⟨_, _, rfl⟩ := buildCommitBody_ok_iff.mp hcommit
    exact truthyFields_truthyFields _
  rw [← hattached, ← evidence_receiptFor_pspRef py clock self decision reservationId amount,
    hattached]
  constructor
  · intro hkept
    exact hkept.shown "psp_ref"
  · intro hpspRef
    refine ⟨?_, ?_, ?_, ?_⟩
    · intro key
      rw [hmetadata, lookup_truthyFields, hattached]
    · simp only [hmetadata, truthyFields_eq_none_iff, hattached]
    · intro key
      by_cases hkey : key = "psp_ref"
      · rw [hkey, hpspRef]
      · rw [evidence_receiptFor _ _ _ _ _ _ hkey, hattached]
    · rw [receiptFor_extra, lookup_truthyFields, Finmap.lookup_erase]

theorem Course.evidence (h : Course py clock flavour args body result trail)
    {receipt : RuntimeAuthorityReceipt} (hreceipt : result.2.receipt = some receipt) :
    ∃ id commit, .commitReservation id commit ∈ requests trail ∧
      (∀ id' commit', .commitReservation id' commit' ∈ requests trail →
        id' = id ∧ commit' = commit) ∧
      (EvidenceKept body commit receipt ↔
        ∀ value, body.lastAttached "psp_ref" = some value → ∃ ref, value = .str ref) := by
  cases h with
  | unsent hrequest => simp [GuardState.init] at hreceipt
  | refused hrequest hadmission => simp [GuardState.init] at hreceipt
  | @entered request reserve decision reservationId result rest hrequest hadmission hexit =>
    obtain ⟨self, commit, hleft, hcommit, hrest, rfl⟩ := hexit.of_receipt hreceipt
    have hrequests : requests (.exchange (.createReservation request) reserve ::
        .act (.withBody (some reservationId)) :: rest) =
          [.createReservation request, .commitReservation reservationId commit] := by
      rw [← hrest]
      rfl
    rw [hrequests]
    refine ⟨reservationId, commit, by simp, ?_, evidenceKept_iff hleft hcommit⟩
    intro id' commit' hmem
    simpa using hmem

end Courses

/-- **When no attached evidence is lost**: in a run that ends with a receipt, exactly
    unless the last `psp_ref` attached is not a text. -/
theorem guardRun_evidence_iff (py : Python) (clock : Int) (flavour : Flavour) (args : GuardArgs)
    (body : Body) (answers : Answers) (receipt : RuntimeAuthorityReceipt)
    (hreceipt : (guardRun py clock flavour args body answers).1.2.receipt = some receipt) :
    ∃ id commit,
      .commitReservation id commit ∈ requests (guardRun py clock flavour args body answers).2 ∧
      (∀ id' commit', .commitReservation id' commit' ∈
        requests (guardRun py clock flavour args body answers).2 → id' = id ∧ commit' = commit) ∧
      (EvidenceKept body commit receipt ↔
        ∀ value, body.lastAttached "psp_ref" = some value → ∃ ref, value = .str ref) :=
  (guardRun_course answers).evidence hreceipt

/-- A body that attaches the reference of the PSP. -/
def Body.attachingPspRef (ref : PyValue) : Body :=
  ⟨[.attachReceiptFields (AList.singleton "psp_ref" ref)], none⟩

theorem guardRun_evidence_iff_sample :
    ∃ receipt commit,
      (guardRun .sample 0 .sync .sample (.attachingPspRef (.str "ch_1")) .sample).1.2.receipt =
        some receipt ∧
      EvidenceKept (.attachingPspRef (.str "ch_1")) commit receipt := by
  obtain ⟨id, commit, _, _, hiff⟩ := guardRun_evidence_iff .sample 0 .sync .sample
    (.attachingPspRef (.str "ch_1")) .sample _ rfl
  refine ⟨_, commit, rfl, hiff.mpr ?_⟩
  rintro value hvalue
  exact ⟨"ch_1", (Option.some.inj hvalue).symm⟩

/-- **A numeric reference is sent with the commit and missing from the receipt.** -/
theorem guardRun_evidence_numeric :
    ∃ receipt commit,
      (guardRun .sample 0 .sync .sample (.attachingPspRef (.int 7)) .sample).1.2.receipt =
        some receipt ∧
      .commitReservation "res-1" commit ∈
        requests (guardRun .sample 0 .sync .sample (.attachingPspRef (.int 7)) .sample).2 ∧
      commit.metadata.bind (·.lookup "psp_ref") = some (.int 7) ∧
      receipt.pspRef = none ∧ receipt.extra = none ∧
      ¬EvidenceKept (.attachingPspRef (.int 7)) commit receipt := by
  refine ⟨_, _, rfl, .tail _ (.head _), rfl, rfl, rfl, ?_⟩
  intro hkept
  have hshown := hkept.shown "psp_ref"
  cases hshown

end CyclesAP2
