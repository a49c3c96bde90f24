import CyclesAP2.Mapping

/-!
# Idempotency keys

A key is its fields joined by `:`.  No field contains a colon: the digest is
hexadecimal and the suffix of the caller is filtered.  So the fields can be read
back from the key (`List.splitOn_intercalate`), and two keys are equal exactly
when their fields are.

Of SHA-256 two things are assumed, each for the inputs at hand only: that the
truncated digest is 32 lowercase hexadecimal digits, and that it separates the
two inputs.
-/

namespace CyclesAP2

def isLowerHex (c : Char) : Bool :=
  ('0' ≤ c && c ≤ '9') || ('a' ≤ c && c ≤ 'f')

def IsDigest (text : String) : Prop :=
  text.toList.length = 32 ∧ ∀ c ∈ text.toList, isLowerHex c = true

instance (text : String) : Decidable (IsDigest text) :=
  decidable_of_iff (text.toList.length = 32 ∧ text.toList.all isLowerHex = true)
    (and_congr_right' List.all_eq_true)

/-- The suffix as it appears in a key; empty and absent are the same. -/
def keySuffix (suffix : Option String) : Option String :=
  (truthyText suffix).map fun suffix => slice (safeSuffix suffix) 64

def keyFields (py : Python) (mandate : AP2Mandate) (phase : KeyPhase) (suffix : Option String) :
    List (List Char) :=
  [IDEMPOTENCY_PREFIX.toList, (consumeOnceInput mandate).1.text.toList,
    (hashInput py (consumeOnceInput mandate).2).toList, phase.text.toList] ++
      ((keySuffix suffix).map String.toList).toList

/-- What precedes the suffix of a key. -/
def keyBase (py : Python) (scope : Scope) (raw : String) (phase : KeyPhase) : String :=
  IDEMPOTENCY_PREFIX ++ ":" ++ scope.text ++ ":" ++ hashInput py raw ++ ":" ++ phase.text

/-- A key as documented: prefix, scope, digest and phase, then at most one suffix. -/
def HasKeyForm (scope : Scope) (phase : KeyPhase) (key : String) : Prop :=
  ∃ digest shown,
    IsDigest digest ∧
    (∀ text, shown = some text →
      1 ≤ text.toList.length ∧ text.toList.length ≤ 64 ∧ ∀ c ∈ text.toList, isSafeChar c = true) ∧
    key = "ap2:" ++ scope.text ++ ":" ++ digest ++ ":" ++ phase.text ++
      (shown.map (":" ++ ·)).getD ""

/-- Both mandates carry the same open-mandate hash, or neither carries one and
    their transaction ids are equal. -/
def SameConsumeOnce (m m' : AP2Mandate) : Prop :=
  (∃ hash, m.openMandateHash = some hash ∧ m'.openMandateHash = some hash) ∨
    (m.openMandateHash = none ∧ m'.openMandateHash = none ∧ m.transactionId = m'.transactionId)

/-! ### What a key shows of a suffix -/

theorem isSafeChar_iff {c : Char} :
    isSafeChar c = true ↔
      ('A' ≤ c ∧ c ≤ 'Z') ∨ ('a' ≤ c ∧ c ≤ 'z') ∨ ('0' ≤ c ∧ c ≤ '9') ∨ c ∈ ['_', '-', '.'] := by
  simp [isSafeChar, Char.isAlphanum, Char.isAlpha, Char.isUpper, Char.isLower, Char.isDigit,
    or_assoc, Char.le_def]

theorem truthyText_some_inj {text text' : String} :
    truthyText (some text) = truthyText (some text') ↔ text = text' := by
  unfold truthyText
  by_cases h : text = "" <;> by_cases h' : text' = "" <;>
    simp [Option.filter_some, h, h', eq_comm]

theorem keySuffix_eq (suffix : Option String) :
    keySuffix suffix = truthyText (some (slice (safeSuffix (suffix.getD "")) 64)) := by
  rcases suffix with _ | text
  · rfl
  · by_cases hempty : text = ""
    · subst hempty
      rfl
    · have hshown : slice (safeSuffix text) 64 ≠ "" := by simp [slice, safeSuffix, hempty]
      simp [keySuffix, truthyText, Option.filter_some, hempty, hshown]

/-- Two suffixes show the same in a key exactly when they agree after every character that
    is not header-safe is replaced by `_` and the result is cut at 64 characters. -/
theorem keySuffix_eq_iff {suffix suffix' : Option String} :
    keySuffix suffix = keySuffix suffix' ↔
      ((suffix.getD "").toList.map fun c => if isSafeChar c then c else '_').take 64 =
        ((suffix'.getD "").toList.map fun c => if isSafeChar c then c else '_').take 64 := by
  rw [keySuffix_eq, keySuffix_eq, truthyText_some_inj, ← String.toList_inj]
  simp only [toList_slice, safeSuffix, String.toList_ofList]

/-! ### The fields of a key -/

theorem Scope.text_injective {scope scope' : Scope} (h : scope.text = scope'.text) :
    scope = scope' := by
  revert h
  cases scope <;> cases scope' <;> decide

theorem KeyPhase.text_injective {phase phase' : KeyPhase} (h : phase.text = phase'.text) :
    phase = phase' := by
  revert h
  cases phase <;> cases phase' <;> decide

theorem toList_idempotencyKey (py : Python) (mandate : AP2Mandate) (phase : KeyPhase)
    (suffix : Option String) :
    (idempotencyKey py mandate phase suffix).toList =
      [':'].intercalate (keyFields py mandate phase suffix) := by
  unfold idempotencyKey keyFields keySuffix
  rcases truthyText suffix with _ | suffix
  · simp [List.intercalate]
  · simp [List.intercalate]

theorem idempotencyKey_eq_keyBase (py : Python) (mandate : AP2Mandate) (phase : KeyPhase)
    (suffix : Option String) :
    idempotencyKey py mandate phase suffix =
      keyBase py (consumeOnceInput mandate).1 (consumeOnceInput mandate).2 phase ++
        ((keySuffix suffix).map (":" ++ ·)).getD "" := by
  unfold idempotencyKey keySuffix keyBase
  rcases truthyText suffix with _ | suffix
  · simp
  · simp [← String.toList_inj]

theorem isSafeChar_of_mem_safeSuffix {suffix : String} {c : Char}
    (h : c ∈ (safeSuffix suffix).toList) : isSafeChar c = true := by
  simp only [safeSuffix, String.toList_ofList, List.mem_map] at h
  obtain ⟨d, _, rfl⟩ := h
  by_cases hsafe : isSafeChar d = true
  · rw [if_pos hsafe]
    exact hsafe
  · rw [if_neg hsafe]
    decide

theorem keySuffix_safe {suffix : Option String} {shown : String}
    (h : keySuffix suffix = some shown) :
    1 ≤ shown.toList.length ∧ shown.toList.length ≤ 64 ∧
      ∀ c ∈ shown.toList, isSafeChar c = true := by
  simp only [keySuffix, Option.map_eq_some_iff] at h
  obtain ⟨text, htruthy, rfl⟩ := h
  have hne : text ≠ "" := by simpa [truthyText] using (Option.filter_eq_some_iff.mp htruthy).2
  have hlength : text.toList.length ≠ 0 := by simpa using hne
  rw [toList_slice]
  refine ⟨?_, by simp, fun c hc => isSafeChar_of_mem_safeSuffix (List.mem_of_mem_take hc)⟩
  simp only [safeSuffix, String.toList_ofList, List.length_take, List.length_map]
  omega

theorem colon_not_safe {c : Char} (h : isSafeChar c = true) : c ≠ ':' := by
  rintro rfl
  revert h
  decide

theorem colon_not_lowerHex {c : Char} (h : isLowerHex c = true) : c ≠ ':' := by
  rintro rfl
  revert h
  decide

theorem colon_notMem_keyFields {py : Python} {mandate : AP2Mandate}
    (hdigest : IsDigest (hashInput py (consumeOnceInput mandate).2)) (phase : KeyPhase)
    (suffix : Option String) :
    ∀ field ∈ keyFields py mandate phase suffix, ':' ∉ field := by
  intro field hfield
  simp only [keyFields, List.cons_append, List.nil_append, List.mem_cons, Option.mem_toList,
    Option.map_eq_some_iff] at hfield
  rcases hfield with rfl | rfl | rfl | rfl | ⟨shown, hshown, rfl⟩
  · decide
  · cases (consumeOnceInput mandate).1 <;> decide
  · intro hmem
    exact colon_not_lowerHex (hdigest.2 _ hmem) rfl
  · cases phase <;> decide
  · intro hmem
    exact colon_not_safe ((keySuffix_safe hshown).2.2 _ hmem) rfl

/-! ### The form of a key -/

theorem ascii_of_isSafeChar {c : Char} (h : isSafeChar c = true) : c.toNat < 128 := by
  simp only [isSafeChar, Char.isAlphanum, Char.isAlpha, Char.isUpper, Char.isLower, Char.isDigit,
    Bool.or_eq_true, beq_iff_eq, Bool.and_eq_true, decide_eq_true_eq] at h
  rcases h with ((((h | h) | h) | rfl) | rfl) | rfl
  · exact lt_of_le_of_lt (UInt32.le_iff_toNat_le.mp h.2) (by decide)
  · exact lt_of_le_of_lt (UInt32.le_iff_toNat_le.mp h.2) (by decide)
  · exact lt_of_le_of_lt (UInt32.le_iff_toNat_le.mp h.2) (by decide)
  · decide
  · decide
  · decide

theorem ascii_of_isLowerHex {c : Char} (h : isLowerHex c = true) : c.toNat < 128 := by
  simp only [isLowerHex, Bool.or_eq_true, Bool.and_eq_true, decide_eq_true_eq, Char.le_def] at h
  rcases h with h | h
  · exact lt_of_le_of_lt (UInt32.le_iff_toNat_le.mp h.2) (by decide)
  · exact lt_of_le_of_lt (UInt32.le_iff_toNat_le.mp h.2) (by decide)

theorem ascii_of_all {text : String}
    (h : text.toList.all (fun c => decide (c.toNat < 128)) = true) :
    ∀ c ∈ text.toList, c.toNat < 128 := by
  simpa using h

theorem hasKeyForm_idempotencyKey {py : Python} {mandate : AP2Mandate}
    (hdigest : IsDigest (hashInput py (consumeOnceInput mandate).2)) (phase : KeyPhase)
    (suffix : Option String) :
    HasKeyForm (consumeOnceInput mandate).1 phase (idempotencyKey py mandate phase suffix) := by
  refine ⟨_, keySuffix suffix, hdigest, fun _ => keySuffix_safe, ?_⟩
  rw [idempotencyKey_eq_keyBase, keyBase]
  rfl

/-- A key of that form is short, and ASCII. -/
theorem HasKeyForm.bounded {scope : Scope} {phase : KeyPhase} {key : String}
    (h : HasKeyForm scope phase key) :
    key.length ≤ 122 ∧ ∀ c ∈ key.toList, c.toNat < 128 := by
  obtain ⟨digest, shown, hdigest, hshown, rfl⟩ := h
  have hscope : scope.text.toList.length ≤ 12 ∧ ∀ c ∈ scope.text.toList, c.toNat < 128 := by
    cases scope <;> exact ⟨by decide, ascii_of_all (by decide)⟩
  have hphase : phase.text.toList.length ≤ 7 ∧ ∀ c ∈ phase.text.toList, c.toNat < 128 := by
    cases phase <;> exact ⟨by decide, ascii_of_all (by decide)⟩
  have hcolon : ∀ c ∈ ":".toList, c.toNat < 128 := ascii_of_all (by decide)
  have hsuffix : ((shown.map (":" ++ ·)).getD "").toList.length ≤ 65 ∧
      ∀ c ∈ ((shown.map (":" ++ ·)).getD "").toList, c.toNat < 128 := by
    rcases shown with _ | text
    · simp
    · obtain ⟨_, hlength, hsafe⟩ := hshown text rfl
      constructor
      · simp at hlength ⊢
        omega
      · intro c hc
        simp only [Option.map_some, Option.getD_some, String.toList_append, List.mem_append] at hc
        rcases hc with hc | hc
        · exact hcolon c hc
        · exact ascii_of_isSafeChar (hsafe c hc)
  constructor
  · have hlength := hdigest.1
    have hbefore : "ap2:".toList.length = 4 ∧ ":".toList.length = 1 := by decide
    rw [← String.length_toList]
    simp only [String.toList_append, List.length_append]
    omega
  · intro c hc
    simp only [String.toList_append, List.mem_append] at hc
    rcases hc with (((((hc | hc) | hc) | hc) | hc) | hc) | hc
    · exact ascii_of_all (by decide) c hc
    · exact hscope.2 c hc
    · exact hcolon c hc
    · exact ascii_of_isLowerHex (hdigest.2 c hc)
    · exact hcolon c hc
    · exact hphase.2 c hc
    · exact hsuffix.2 c hc

/-! ### Equal keys -/

theorem consumeOnceInput_of_hash {mandate : AP2Mandate} {hash : BoundedText 1 256}
    (h : mandate.openMandateHash = some hash) :
    consumeOnceInput mandate = (.openMandate, hash.val) := by
  unfold consumeOnceInput
  rw [truthyText_val, h]
  rfl

theorem consumeOnceInput_of_none {mandate : AP2Mandate} (h : mandate.openMandateHash = none) :
    consumeOnceInput mandate = (.transaction, mandate.transactionId.val) := by
  unfold consumeOnceInput
  rw [truthyText_val, h]
  rfl

/-- The falsy test of `consume_once_input` amounts to a test for `None`, since a
    hash in a mandate is never empty. -/
theorem scope_eq_openMandate_iff {mandate : AP2Mandate} :
    (consumeOnceInput mandate).1 = .openMandate ↔ mandate.openMandateHash ≠ none := by
  rcases hhash : mandate.openMandateHash with _ | hash
  · simp [consumeOnceInput_of_none hhash]
  · simp [consumeOnceInput_of_hash hhash]

theorem sameConsumeOnce_iff {m m' : AP2Mandate} :
    SameConsumeOnce m m' ↔ consumeOnceInput m = consumeOnceInput m' := by
  unfold SameConsumeOnce
  rcases h : m.openMandateHash with _ | hash <;> rcases h' : m'.openMandateHash with _ | hash'
  · simp [consumeOnceInput_of_none h, consumeOnceInput_of_none h', BoundedText.val_inj]
  · simp [consumeOnceInput_of_none h, consumeOnceInput_of_hash h']
  · simp [consumeOnceInput_of_hash h, consumeOnceInput_of_none h']
  · simp [consumeOnceInput_of_hash h, consumeOnceInput_of_hash h', BoundedText.val_inj, eq_comm]

theorem keyFields_eq_iff {py : Python} {m m' : AP2Mandate} {phase phase' : KeyPhase}
    {suffix suffix' : Option String} :
    keyFields py m phase suffix = keyFields py m' phase' suffix' ↔
      (consumeOnceInput m).1 = (consumeOnceInput m').1 ∧
        hashInput py (consumeOnceInput m).2 = hashInput py (consumeOnceInput m').2 ∧
        phase = phase' ∧ keySuffix suffix = keySuffix suffix' := by
  constructor
  · intro h
    simp only [keyFields, List.cons_append, List.nil_append, List.cons.injEq, String.toList_inj] at h
    obtain ⟨_, hscope, hhash, hphase, hsuffix⟩ := h
    refine ⟨Scope.text_injective hscope, hhash, KeyPhase.text_injective hphase, ?_⟩
    revert hsuffix
    rcases keySuffix suffix with _ | shown <;> rcases keySuffix suffix' with _ | shown' <;>
      simp [String.toList_inj]
  · rintro ⟨hscope, hhash, rfl, hsuffix⟩
    unfold keyFields
    rw [hscope, hhash, hsuffix]

theorem idempotencyKey_eq_iff_keyFields {py : Python} {m m' : AP2Mandate}
    (hdigest : IsDigest (hashInput py (consumeOnceInput m).2))
    (hdigest' : IsDigest (hashInput py (consumeOnceInput m').2)) {phase phase' : KeyPhase}
    {suffix suffix' : Option String} :
    idempotencyKey py m phase suffix = idempotencyKey py m' phase' suffix' ↔
      keyFields py m phase suffix = keyFields py m' phase' suffix' := by
  rw [← String.toList_inj, toList_idempotencyKey, toList_idempotencyKey]
  constructor
  · intro h
    have hsplit := congrArg (List.splitOn ':') h
    rwa [List.splitOn_intercalate ':' (colon_notMem_keyFields hdigest phase suffix)
        (by simp [keyFields]),
      List.splitOn_intercalate ':' (colon_notMem_keyFields hdigest' phase' suffix')
        (by simp [keyFields])] at hsplit
  · exact congrArg _

/-- **Keys of one phase under one consume-once input** are told apart by their
    suffixes, whatever the digest. -/
theorem idempotencyKey_eq_iff_keySuffix {py : Python} {m m' : AP2Mandate}
    (hsame : SameConsumeOnce m m') (phase : KeyPhase) (suffix suffix' : Option String) :
    idempotencyKey py m phase suffix = idempotencyKey py m' phase suffix' ↔
      keySuffix suffix = keySuffix suffix' := by
  rw [idempotencyKey_eq_keyBase, idempotencyKey_eq_keyBase, sameConsumeOnce_iff.mp hsame]
  constructor
  · intro h
    have hsuffix : ((keySuffix suffix).map (":" ++ ·)).getD "" =
        ((keySuffix suffix').map (":" ++ ·)).getD "" := by
      simpa [← String.toList_inj] using h
    revert hsuffix
    rcases keySuffix suffix with _ | shown <;> rcases keySuffix suffix' with _ | shown' <;>
      simp [← String.toList_inj]
  · intro h
    rw [h]

/-- **Keys are well formed and unambiguous.**  Every key has the documented form,
    is ASCII and shorter than 256 characters, and two keys are equal exactly when
    phase, suffix and consume-once input agree. -/
theorem idempotencyKey_unambiguous (py : Python) (m m' : AP2Mandate) (phase phase' : KeyPhase)
    (suffix suffix' : Option String)
    (hdigest : IsDigest (hashInput py (consumeOnceInput m).2))
    (hdigest' : IsDigest (hashInput py (consumeOnceInput m').2))
    (hinjective : hashInput py (consumeOnceInput m).2 = hashInput py (consumeOnceInput m').2 →
      (consumeOnceInput m).2 = (consumeOnceInput m').2) :
    HasKeyForm (consumeOnceInput m).1 phase (idempotencyKey py m phase suffix) ∧
      (idempotencyKey py m phase suffix).length ≤ 256 ∧
      (∀ c ∈ (idempotencyKey py m phase suffix).toList, c.toNat < 128) ∧
      ((consumeOnceInput m).1 = .openMandate ↔ m.openMandateHash ≠ none) ∧
      (idempotencyKey py m phase suffix = idempotencyKey py m' phase' suffix' ↔
        phase = phase' ∧ keySuffix suffix = keySuffix suffix' ∧ SameConsumeOnce m m') ∧
      ((consumeOnceInput m).1 ≠ (consumeOnceInput m').1 →
        idempotencyKey py m phase suffix ≠ idempotencyKey py m' phase' suffix') := by
  have hform := hasKeyForm_idempotencyKey hdigest phase suffix
  have hiff : idempotencyKey py m phase suffix = idempotencyKey py m' phase' suffix' ↔
      phase = phase' ∧ keySuffix suffix = keySuffix suffix' ∧ SameConsumeOnce m m' := by
    rw [idempotencyKey_eq_iff_keyFields hdigest hdigest', keyFields_eq_iff, sameConsumeOnce_iff]
    constructor
    · rintro ⟨hscope, hhash, hphase, hsuffix⟩
      exact ⟨hphase, hsuffix, Prod.ext hscope (hinjective hhash)⟩
    · rintro ⟨hphase, hsuffix, hinput⟩
      rw [hinput]
      exact ⟨rfl, rfl, hphase, hsuffix⟩
  refine ⟨hform, by have := hform.bounded.1; omega, hform.bounded.2, scope_eq_openMandate_iff,
    hiff, fun hscope heq => hscope ?_⟩
  rw [sameConsumeOnce_iff.mp (hiff.mp heq).2.2]

theorem idempotencyKey_unambiguous_sample :
    HasKeyForm .transaction .reserve (idempotencyKey .sample .sample .reserve none) ∧
      (idempotencyKey .sample .sample .reserve none =
          idempotencyKey .sample .sampleOpen .release (some "ValueError") ↔
        KeyPhase.reserve = .release ∧ keySuffix none = keySuffix (some "ValueError") ∧
          SameConsumeOnce .sample .sampleOpen) :=
  have h := idempotencyKey_unambiguous .sample .sample .sampleOpen .reserve .release none
    (some "ValueError") (by decide) (by decide) (by decide)
  ⟨h.1, h.2.2.2.2.1⟩

end CyclesAP2
