import CyclesAP2.Keys
import CyclesAP2.Upstream

/-!
# Mandates that say what the upstream objects say

A mandate that the adapter returns is faithful when each of its fields is the text
of an attribute that is there.  That holds of all of them but those for which `str`
was given `None`: a transaction id or a value of the amount that is `None` becomes
the text `None`, and so do those of every other payment without one.

Objects with something missing or blank are to be turned down by an `AP2MandateError`
or a `ValidationError`.  The `try` statement of the adapter makes the former of an
`AttributeError` only, so any other exception that an object raises when it is read
leaves the adapter instead, such as the `ValueError` of `str` for an integer with too
many digits.
-/

namespace CyclesAP2

/-! ### What the objects say -/

section Faithful

variable {V : Type} (objects : Objects V) (message : String)
  (paymentMandate checkoutMandate openMandateHash : Option V)

/-- The attribute is absent or `None`. -/
def Objects.Missing (value : Option V) (name : Attr) : Prop :=
  objects.getattr value name = .ok none

/-- The attribute is absent, `None` or empty.  Like the adapter, this takes everything for
    empty that is falsy: the empty text, but also `0`. -/
def Objects.Empty (value : Option V) (name : Attr) : Prop :=
  ∃ read, objects.getattr value name = .ok read ∧ objects.boolOf read = .ok false

/-- The attribute is there, is not `None`, and its text is `text`. -/
def Objects.Shows (value : Option V) (name : Attr) (text : String) : Prop :=
  ∃ object, objects.attrOf value name = .ok (some object) ∧ objects.str object = .ok text

/-- The payee goes by `text`: its website if that is not empty, else its identifier. -/
def Objects.Named (payee : Option V) (text : String) : Prop :=
  ∃ object, (objects.attrOf payee .website = .ok (some object) ∨
      objects.Empty payee .website ∧ objects.attrOf payee .identifier = .ok (some object)) ∧
    objects.bool object = .ok true ∧ objects.str object = .ok text

/-- The checkout hash is `value`: the attribute `hash` unless that is missing, else
    `checkout_hash`. -/
def Objects.CheckoutHash : Option V → Option V → Prop
  | none, value => value = none
  | some mandate, value =>
    (∃ object, objects.attrOf (some mandate) .hash = .ok (some object) ∧ value = some object) ∨
      objects.Missing (some mandate) .hash ∧
        objects.getattr (some mandate) .checkoutHash = .ok value

/-- The field holds the stripped text of `value`, and nothing for `None`. -/
def Objects.HoldsHash (field : Option (BoundedText 1 256)) : Option V → Prop
  | none => field = none
  | some object => ∃ text hash, objects.fieldText object = some text ∧ field = some hash ∧
      hash.val = strip text

/-- Every field of the mandate is the stripped text of the upstream attribute. -/
structure AP2Mandate.FaithfulTo (mandate : AP2Mandate) : Prop where
  transactionId : ∃ text, objects.Shows paymentMandate .transactionId text ∧
    mandate.transactionId.val = strip text
  amount : ∃ amount, objects.attrOf paymentMandate .paymentAmount = .ok amount ∧
    (∃ text, objects.Shows amount .value text ∧ mandate.amountValue.val = strip text) ∧
    ∃ text, objects.Shows amount .currency text ∧ mandate.currency.val = strip text
  payee : ∃ payee text, objects.attrOf paymentMandate .payee = .ok payee ∧
    objects.Named payee text ∧ mandate.payeeWebsite.val = strip text
  checkoutHash : ∃ value, objects.CheckoutHash checkoutMandate value ∧
    objects.HoldsHash mandate.checkoutHash value
  openMandateHash : objects.HoldsHash mandate.openMandateHash openMandateHash

/-- Something required is missing. -/
def Objects.MissingRequired : Prop :=
  objects.Missing paymentMandate .transactionId ∨
    objects.Missing paymentMandate .paymentAmount ∨
    (∃ amount, objects.attrOf paymentMandate .paymentAmount = .ok amount ∧
      (objects.Missing amount .value ∨ objects.Missing amount .currency)) ∨
    objects.Missing paymentMandate .payee ∨
    ∃ payee, objects.attrOf paymentMandate .payee = .ok payee ∧
      objects.Empty payee .website ∧ objects.Empty payee .identifier

/-- A required text is blank. -/
def Objects.BlankRequired : Prop :=
  ∃ text, strip text = "" ∧
    (objects.Shows paymentMandate .transactionId text ∨
      (∃ amount, objects.attrOf paymentMandate .paymentAmount = .ok amount ∧
        (objects.Shows amount .value text ∨ objects.Shows amount .currency text)) ∨
      ∃ payee, objects.attrOf paymentMandate .payee = .ok payee ∧ objects.Named payee text)

/-- A hash is there, and is blank. -/
def Objects.BlankHash : Prop :=
  ∃ object text, objects.fieldText object = some text ∧ strip text = "" ∧
    (objects.CheckoutHash checkoutMandate (some object) ∨ openMandateHash = some object)

/-- Upstream objects with something missing or blank are turned down, by an
    `AP2MandateError` or the `ValidationError` of the model, and a mandate made of others
    holds what they say; its consume-once input is the text of the open-mandate hash or of
    a transaction id that is there. -/
structure FaithfulAdapter : Prop where
  missing : objects.MissingRequired paymentMandate →
    ∃ e, AP2Mandate.fromAp2 objects message paymentMandate checkoutMandate openMandateHash =
      .error e ∧ e.Rejection message
  blank : objects.BlankRequired paymentMandate ∨
      objects.BlankHash checkoutMandate openMandateHash →
    ∃ e, AP2Mandate.fromAp2 objects message paymentMandate checkoutMandate openMandateHash =
      .error e ∧ e.Rejection message
  fields : ∀ mandate,
    AP2Mandate.fromAp2 objects message paymentMandate checkoutMandate openMandateHash =
        .ok mandate →
      mandate.FaithfulTo objects paymentMandate checkoutMandate openMandateHash
  identified : ∀ mandate,
    AP2Mandate.fromAp2 objects message paymentMandate checkoutMandate openMandateHash =
        .ok mandate →
      (openMandateHash = none ∧ ∃ text, objects.Shows paymentMandate .transactionId text ∧
          consumeOnceInput mandate = (.transaction, strip text)) ∨
        ∃ object text, openMandateHash = some object ∧ objects.fieldText object = some text ∧
          consumeOnceInput mandate = (.openMandate, strip text)

/-- The length of a stripped text is within the bounds. -/
def Fits (minLength maxLength : Nat) (text : String) : Prop :=
  minLength ≤ (strip text).length ∧ (strip text).length ≤ maxLength

/-- The attribute is there, and its text fits; `None` counts as the text that `str`
    gives. -/
def Objects.FitsAt (value : Option V) (name : Attr) (minLength maxLength : Nat) : Prop :=
  ∃ read text, objects.attrOf value name = .ok read ∧ objects.strOf read = .ok text ∧
    Fits minLength maxLength text

def Objects.HashFits : Option V → Prop
  | none => True
  | some object => ∃ text, objects.fieldText object = some text ∧ Fits 1 256 text

/-- All that the adapter and the model check is in order. -/
structure Objects.PassesChecks : Prop where
  transactionId : objects.FitsAt paymentMandate .transactionId 1 256
  amount : ∃ amount, objects.attrOf paymentMandate .paymentAmount = .ok amount ∧
    objects.FitsAt amount .value 1 64 ∧ objects.FitsAt amount .currency 3 3
  payee : ∃ payee text, objects.attrOf paymentMandate .payee = .ok payee ∧
    objects.Named payee text ∧ Fits 1 253 text
  checkoutHash : ∃ value, objects.CheckoutHash checkoutMandate value ∧ objects.HashFits value
  openMandateHash : objects.HashFits openMandateHash

/-- The transaction id or the value of the amount is there but `None`, and nothing
    else is amiss. -/
def Objects.NonePasses : Prop :=
  objects.PassesChecks paymentMandate checkoutMandate openMandateHash ∧
    (objects.attrOf paymentMandate .transactionId = .ok none ∨
      ∃ amount, objects.attrOf paymentMandate .paymentAmount = .ok amount ∧
        objects.attrOf amount .value = .ok none)

/-- Something is missing or blank, and before the adapter comes to turn it down, reading
    the objects raises an exception that leaves it and is not that `ValidationError`. -/
def Objects.Leaks : Prop :=
  (objects.MissingRequired paymentMandate ∨ objects.BlankRequired paymentMandate ∨
      objects.BlankHash checkoutMandate openMandateHash) ∧
    ∃ failure, objects.Escapes paymentMandate checkoutMandate failure ∧
      PyExc.foreign failure.exc ≠ validationError message

end Faithful

/-! ### Reading and meaning -/

section Meaning

variable {V : Type} {objects : Objects V} {message : String}
  {paymentMandate checkoutMandate openMandateHash : Option V} {mandate : AP2Mandate}

theorem Objects.getattr_some_iff {value : Option V} {name : Attr} {object : V} :
    objects.getattr value name = .ok (some object) ↔
      objects.attrOf value name = .ok (some object) := by
  unfold getattr
  rcases objects.attrOf value name with failure | read
  · by_cases hattribute : failure.isAttributeError = true <;> simp [hattribute]
  · simp

theorem Objects.missing_of_none {value : Option V} {name : Attr}
    (h : objects.attrOf value name = .ok none) : objects.Missing value name := by
  unfold Missing getattr
  rw [h]

theorem Objects.Shows.not_missing {value : Option V} {name : Attr} {text : String}
    (h : objects.Shows value name text) : ¬objects.Missing value name := by
  obtain ⟨object, hobject, _⟩ := h
  intro hmissing
  rw [Missing, getattr_some_iff.mpr hobject] at hmissing
  simp at hmissing

theorem Objects.Shows.unique {value : Option V} {name : Attr} {text text' : String}
    (h : objects.Shows value name text) (h' : objects.Shows value name text') : text = text' := by
  obtain ⟨object, hobject, htext⟩ := h
  obtain ⟨object', hobject', htext'⟩ := h'
  obtain rfl : object = object' := by simpa [hobject] using hobject'
  simpa [htext] using htext'

/-- What `str` makes of an attribute that is not `None`. -/
theorem Objects.shows_of_strOf {value : Option V} {name : Attr} {read : Option V} {text : String}
    (hread : objects.attrOf value name = .ok read) (hnone : objects.attrOf value name ≠ .ok none)
    (htext : objects.strOf read = .ok text) : objects.Shows value name text := by
  cases read with
  | none => exact absurd hread hnone
  | some object => exact ⟨object, hread, htext⟩

theorem Objects.Empty.not_true {payee : Option V} {name : Attr} {object : V}
    (h : objects.Empty payee name) (hobject : objects.attrOf payee name = .ok (some object)) :
    objects.bool object ≠ .ok true := by
  obtain ⟨read, hread, hempty⟩ := h
  rw [getattr_some_iff.mpr hobject] at hread
  cases hread
  intro htrue
  rw [boolOf, htrue] at hempty
  simp at hempty

theorem Objects.named_iff {payee : Option V} {text : String} :
    objects.Named payee text ↔ ∃ name, objects.payeeName payee = .ok name ∧
      objects.boolOf name = .ok true ∧ objects.strOf name = .ok text := by
  simp only [payeeName, bind_eq_ok_iff]
  constructor
  · rintro ⟨object, hobject | ⟨⟨website, hwebsite, hempty⟩, hobject⟩, htrue, htext⟩
    · exact ⟨some object, ⟨some object, getattr_some_iff.mpr hobject, true, htrue, rfl⟩, htrue, htext⟩
    · exact ⟨some object, ⟨website, hwebsite, false, hempty, getattr_some_iff.mpr hobject⟩, htrue,
        htext⟩
  · rintro ⟨name, ⟨website, hwebsite, named, hnamed, hname⟩, htrue, htext⟩
    cases name with
    | none => cases htrue
    | some object =>
      refine ⟨object, ?_, htrue, htext⟩
      cases named with
      | true =>
        cases hname
        exact Or.inl (getattr_some_iff.mp hwebsite)
      | false => exact Or.inr ⟨⟨website, hwebsite, hnamed⟩, getattr_some_iff.mp hname⟩

theorem Objects.Named.not_empty {payee : Option V} {text : String} (h : objects.Named payee text) :
    ¬(objects.Empty payee .website ∧ objects.Empty payee .identifier) := by
  rintro ⟨hwebsite, hidentifier⟩
  obtain ⟨object, hobject | ⟨_, hobject⟩, htrue, _⟩ := h
  · exact hwebsite.not_true hobject htrue
  · exact hidentifier.not_true hobject htrue

theorem Objects.Named.unique {payee : Option V} {text text' : String}
    (h : objects.Named payee text) (h' : objects.Named payee text') : text = text' := by
  obtain ⟨name, hname, _, htext⟩ := named_iff.mp h
  obtain ⟨name', hname', _, htext'⟩ := named_iff.mp h'
  obtain rfl : name = name' := by simpa [hname] using hname'
  simpa [htext] using htext'

theorem Objects.checkoutHash_iff {value : Option V} :
    objects.CheckoutHash checkoutMandate value ↔
      objects.readCheckoutHash checkoutMandate = .ok value := by
  cases checkoutMandate with
  | none => simp [CheckoutHash, readCheckoutHash, eq_comm]
  | some object =>
    simp only [CheckoutHash, readCheckoutHash, bind_eq_ok_iff]
    constructor
    · rintro (⟨hash, hhash, rfl⟩ | ⟨hmissing, hvalue⟩)
      · exact ⟨some hash, getattr_some_iff.mpr hhash, rfl⟩
      · exact ⟨none, hmissing, hvalue⟩
    · rintro ⟨hash, hhash, hvalue⟩
      cases hash with
      | none => exact Or.inr ⟨hhash, hvalue⟩
      | some hash =>
        cases hvalue
        exact Or.inl ⟨hash, getattr_some_iff.mp hhash, rfl⟩

theorem Objects.holdsHash_iff {field : Option (BoundedText 1 256)} {value : Option V} :
    objects.HoldsHash field value ↔ objects.optionalField 1 256 value = some field := by
  cases value with
  | none => simp [HoldsHash, optionalField, eq_comm]
  | some object =>
    simp only [HoldsHash, optionalField, bind, Option.bind_eq_some_iff,
      BoundedText.ofText_eq_some_iff]
    constructor
    · rintro ⟨text, hash, htext, rfl, hhash⟩
      exact ⟨text, htext, hash, hhash, rfl⟩
    · rintro ⟨text, htext, hash, hhash, hfield⟩
      cases hfield
      exact ⟨text, hash, htext, rfl, hhash⟩

/-- A text fits exactly when some field holds it. -/
theorem fits_iff {minLength maxLength : Nat} {text : String} :
    Fits minLength maxLength text ↔
      ∃ field : BoundedText minLength maxLength, field.val = strip text := by
  constructor
  · rintro ⟨hmin, hmax⟩
    exact ⟨⟨strip text, hmin, hmax, strip_strip text⟩, rfl⟩
  · rintro ⟨field, hfield⟩
    unfold Fits
    rw [← hfield]
    exact ⟨field.min_length, field.max_length⟩

theorem Objects.hashFits_iff {value : Option V} :
    objects.HashFits value ↔ ∃ field, objects.HoldsHash field value := by
  cases value with
  | none => simp [HashFits, HoldsHash]
  | some object =>
    simp only [HashFits, HoldsHash, fits_iff]
    constructor
    · rintro ⟨text, htext, field, hfield⟩
      exact ⟨some field, text, field, htext, rfl, hfield⟩
    · rintro ⟨_, text, field, htext, _, hfield⟩
      exact ⟨text, htext, field, hfield⟩

/-- The checks pass exactly when some mandate is read. -/
theorem passesChecks_iff :
    objects.PassesChecks paymentMandate checkoutMandate openMandateHash ↔
      ∃ mandate : AP2Mandate,
        mandate.ReadFrom objects paymentMandate checkoutMandate openMandateHash := by
  constructor
  · rintro ⟨⟨transaction, id, htransaction, hid, hidFits⟩,
      ⟨amount, hamount, ⟨value, valueText, hvalue, hvalueText, hvalueFits⟩,
        unit, unitText, hunit, hunitText, hunitFits⟩,
      ⟨payee, website, hpayee, hnamed, hwebsiteFits⟩, ⟨hash, hhash, hhashFits⟩, hopenFits⟩
    obtain ⟨transactionId, hid'⟩ := fits_iff.mp hidFits
    obtain ⟨amountValue, hvalue'⟩ := fits_iff.mp hvalueFits
    obtain ⟨currency, hunit'⟩ := fits_iff.mp hunitFits
    obtain ⟨payeeWebsite, hwebsite'⟩ := fits_iff.mp hwebsiteFits
    obtain ⟨name, hname, htrue, htext⟩ := Objects.named_iff.mp hnamed
    obtain ⟨checkoutHash, hcheckout⟩ := Objects.hashFits_iff.mp hhashFits
    obtain ⟨openHash, hopen⟩ := Objects.hashFits_iff.mp hopenFits
    exact ⟨⟨transactionId, amountValue, currency, payeeWebsite, checkoutHash, openHash⟩,
      ⟨transaction, id, htransaction, hid, hid'⟩,
      ⟨amount, hamount, ⟨value, valueText, hvalue, hvalueText, hvalue'⟩,
        unit, unitText, hunit, hunitText, hunit'⟩,
      ⟨payee, name, website, hpayee, hname, htrue, htext, hwebsite'⟩,
      ⟨hash, Objects.checkoutHash_iff.mp hhash, Objects.holdsHash_iff.mp hcheckout⟩,
      Objects.holdsHash_iff.mp hopen⟩
  · rintro ⟨mandate, ⟨transaction, id, htransaction, hid, hid'⟩,
      ⟨amount, hamount, ⟨value, valueText, hvalue, hvalueText, hvalue'⟩,
        unit, unitText, hunit, hunitText, hunit'⟩,
      ⟨payee, name, website, hpayee, hname, htrue, htext, hwebsite'⟩,
      ⟨hash, hhash, hcheckout⟩, hopen⟩
    exact ⟨⟨transaction, id, htransaction, hid, fits_iff.mpr ⟨_, hid'⟩⟩,
      ⟨amount, hamount, ⟨value, valueText, hvalue, hvalueText, fits_iff.mpr ⟨_, hvalue'⟩⟩,
        unit, unitText, hunit, hunitText, fits_iff.mpr ⟨_, hunit'⟩⟩,
      ⟨payee, website, hpayee, Objects.named_iff.mpr ⟨name, hname, htrue, htext⟩,
        fits_iff.mpr ⟨_, hwebsite'⟩⟩,
      ⟨hash, Objects.checkoutHash_iff.mpr hhash,
        Objects.hashFits_iff.mpr ⟨_, Objects.holdsHash_iff.mpr hcheckout⟩⟩,
      Objects.hashFits_iff.mpr ⟨_, Objects.holdsHash_iff.mpr hopen⟩⟩

/-- A mandate is faithful when no `None` was taken for a text.  That of the currency
    never is, for its text would have four characters. -/
theorem AP2Mandate.ReadFrom.faithfulTo
    (h : mandate.ReadFrom objects paymentMandate checkoutMandate openMandateHash)
    (hid : objects.attrOf paymentMandate .transactionId ≠ .ok none)
    (hvalue : ∀ amount, objects.attrOf paymentMandate .paymentAmount = .ok amount →
      objects.attrOf amount .value ≠ .ok none) :
    mandate.FaithfulTo objects paymentMandate checkoutMandate openMandateHash := by
  obtain ⟨⟨transaction, id, htransaction, hidText, hid'⟩,
    ⟨amount, hamount, ⟨value, valueText, hvalueRead, hvalueText, hvalue'⟩,
      unit, unitText, hunit, hunitText, hunit'⟩,
    ⟨payee, name, website, hpayee, hname, htrue, htext, hwebsite'⟩,
    ⟨hash, hhash, hcheckout⟩, hopen⟩ := h
  have hcurrency : objects.attrOf amount .currency ≠ .ok none := by
    intro hnone
    obtain rfl : none = unit := by simpa [hnone] using hunit
    obtain rfl : "None" = unitText := by simpa [Objects.strOf] using hunitText
    have hlength := mandate.currency.max_length
    rw [hunit'] at hlength
    exact absurd hlength (by decide)
  exact ⟨⟨id, Objects.shows_of_strOf htransaction hid hidText, hid'⟩,
    ⟨amount, hamount,
      ⟨valueText, Objects.shows_of_strOf hvalueRead (hvalue amount hamount) hvalueText, hvalue'⟩,
      unitText, Objects.shows_of_strOf hunit hcurrency hunitText, hunit'⟩,
    ⟨payee, website, hpayee, Objects.named_iff.mpr ⟨name, hname, htrue, htext⟩, hwebsite'⟩,
    ⟨hash, Objects.checkoutHash_iff.mpr hhash, Objects.holdsHash_iff.mpr hcheckout⟩,
    Objects.holdsHash_iff.mpr hopen⟩

theorem AP2Mandate.FaithfulTo.not_missing
    (h : mandate.FaithfulTo objects paymentMandate checkoutMandate openMandateHash) :
    ¬objects.MissingRequired paymentMandate := by
  obtain ⟨⟨_, hid, _⟩, ⟨amount, hamount, ⟨_, hvalue, _⟩, _, hunit, _⟩,
    ⟨payee, _, hpayee, hnamed, _⟩, _, _⟩ := h
  rintro (hmissing | hmissing | ⟨amount', hamount', hmissing⟩ | hmissing |
    ⟨payee', hpayee', hempty⟩)
  · exact hid.not_missing hmissing
  · -- of `None` nothing can be read
    cases amount with
    | none => obtain ⟨_, hread, _⟩ := hvalue; cases hread
    | some amount =>
      rw [Objects.Missing, Objects.getattr_some_iff.mpr hamount] at hmissing
      simp at hmissing
  · obtain rfl : amount = amount' := by simpa [hamount] using hamount'
    rcases hmissing with hmissing | hmissing
    · exact hvalue.not_missing hmissing
    · exact hunit.not_missing hmissing
  · cases payee with
    | none =>
      obtain ⟨_, hread | ⟨_, hread⟩, _⟩ := hnamed
      · cases hread
      · cases hread
    | some payee =>
      rw [Objects.Missing, Objects.getattr_some_iff.mpr hpayee] at hmissing
      simp at hmissing
  · obtain rfl : payee = payee' := by simpa [hpayee] using hpayee'
    exact hnamed.not_empty hempty

theorem AP2Mandate.FaithfulTo.not_blank
    (h : mandate.FaithfulTo objects paymentMandate checkoutMandate openMandateHash) :
    ¬objects.BlankRequired paymentMandate := by
  obtain ⟨⟨_, hid, hid'⟩, ⟨amount, hamount, ⟨_, hvalue, hvalue'⟩, _, hunit, hunit'⟩,
    ⟨payee, _, hpayee, hnamed, hnamed'⟩, _, _⟩ := h
  rintro ⟨text, hblank, hshows | ⟨amount', hamount', hshows⟩ | ⟨payee', hpayee', hshows⟩⟩
  · obtain rfl := hid.unique hshows
    exact mandate.transactionId.ne_empty (hid'.trans hblank)
  · obtain rfl : amount = amount' := by simpa [hamount] using hamount'
    rcases hshows with hshows | hshows
    · obtain rfl := hvalue.unique hshows
      exact mandate.amountValue.ne_empty (hvalue'.trans hblank)
    · obtain rfl := hunit.unique hshows
      have hlength := mandate.currency.min_length
      rw [hunit', hblank] at hlength
      exact absurd hlength (by decide)
  · obtain rfl : payee = payee' := by simpa [hpayee] using hpayee'
    obtain rfl := hnamed.unique hshows
    exact mandate.payeeWebsite.ne_empty (hnamed'.trans hblank)

theorem Objects.HoldsHash.not_blank {field : Option (BoundedText 1 256)} {object : V}
    {text : String} (h : objects.HoldsHash field (some object))
    (htext : objects.fieldText object = some text) : strip text ≠ "" := by
  obtain ⟨text', hash, htext', rfl, hhash⟩ := h
  obtain rfl : text' = text := by simpa [htext'] using htext
  rw [← hhash]
  exact hash.ne_empty

theorem AP2Mandate.FaithfulTo.not_blankHash
    (h : mandate.FaithfulTo objects paymentMandate checkoutMandate openMandateHash) :
    ¬objects.BlankHash checkoutMandate openMandateHash := by
  rintro ⟨object, text, htext, hblank, hcheckout | rfl⟩
  · obtain ⟨value, hvalue, hholds⟩ := h.checkoutHash
    rw [Objects.checkoutHash_iff] at hcheckout hvalue
    obtain rfl : value = some object := by simpa [hvalue] using hcheckout
    exact hholds.not_blank htext hblank
  · exact h.openMandateHash.not_blank htext hblank

/-- The consume-once input is the text of a field that is there. -/
theorem AP2Mandate.FaithfulTo.identified
    (h : mandate.FaithfulTo objects paymentMandate checkoutMandate openMandateHash) :
    (openMandateHash = none ∧ ∃ text, objects.Shows paymentMandate .transactionId text ∧
        consumeOnceInput mandate = (.transaction, strip text)) ∨
      ∃ object text, openMandateHash = some object ∧ objects.fieldText object = some text ∧
        consumeOnceInput mandate = (.openMandate, strip text) := by
  have hopen := h.openMandateHash
  cases openMandateHash with
  | none =>
    obtain ⟨text, hshows, hid⟩ := h.transactionId
    exact Or.inl ⟨rfl, text, hshows, by rw [consumeOnceInput_of_none hopen, hid]⟩
  | some object =>
    obtain ⟨text, hash, htext, hfield, hhash⟩ := hopen
    exact Or.inr ⟨object, text, rfl, htext, by rw [consumeOnceInput_of_hash hfield, hhash]⟩

end Meaning

/-- What no mandate can be made of is turned down, unless some read leaks. -/
theorem fromAp2_rejection {V : Type} {objects : Objects V} {message : String}
    {paymentMandate checkoutMandate openMandateHash : Option V}
    (hunfit : objects.MissingRequired paymentMandate ∨ objects.BlankRequired paymentMandate ∨
      objects.BlankHash checkoutMandate openMandateHash)
    (hleaks : ¬objects.Leaks message paymentMandate checkoutMandate openMandateHash)
    (hunread : ∀ mandate : AP2Mandate,
      ¬mandate.ReadFrom objects paymentMandate checkoutMandate openMandateHash) :
    ∃ e, AP2Mandate.fromAp2 objects message paymentMandate checkoutMandate openMandateHash =
      .error e ∧ e.Rejection message := by
  obtain ⟨e, he, hrejection | ⟨failure, hescapes, rfl⟩⟩ := AP2Mandate.fromAp2_rejects hunread
  · exact ⟨e, he, hrejection⟩
  · refine ⟨_, he, Or.inr ?_⟩
    by_contra hother
    exact hleaks ⟨hunfit, failure, hescapes, hother⟩

/-- An exception of an upstream object is no rejection, or it leaks. -/
theorem Objects.Leaks.not_rejected {V : Type} {objects : Objects V} {message : String}
    {paymentMandate checkoutMandate openMandateHash : Option V}
    (h : objects.Leaks message paymentMandate checkoutMandate openMandateHash) {e : PyExc}
    (he : AP2Mandate.fromAp2 objects message paymentMandate checkoutMandate openMandateHash =
      .error e) : ¬e.Rejection message := by
  obtain ⟨_, failure, hescapes, hother⟩ := h
  obtain rfl := Except.error.inj (hescapes.fromAp2_eq.symm.trans he)
  rintro (⟨_, heq⟩ | heq)
  · cases heq
  · exact hother heq

/-- **When the adapter is faithful**: exactly unless the transaction id or the value of
    the amount is `None`, which `str` turns into the text `None`, and all the checks
    pass; or something is missing or blank, and an exception of an upstream object leaves
    the adapter before it is turned down. -/
theorem fromAp2_faithful_iff {V : Type} (objects : Objects V) (message : String)
    (paymentMandate checkoutMandate openMandateHash : Option V) :
    FaithfulAdapter objects message paymentMandate checkoutMandate openMandateHash ↔
      ¬objects.NonePasses paymentMandate checkoutMandate openMandateHash ∧
      ¬objects.Leaks message paymentMandate checkoutMandate openMandateHash := by
  constructor
  · intro hfaithful
    constructor
    · rintro ⟨hpasses, hnone⟩
      obtain ⟨mandate, hread⟩ := passesChecks_iff.mp hpasses
      have hfields := hfaithful.fields mandate (AP2Mandate.fromAp2_ok_iff.mpr hread)
      refine hfields.not_missing ?_
      rcases hnone with hid | ⟨amount, hamount, hvalue⟩
      · exact Or.inl (Objects.missing_of_none hid)
      · exact Or.inr (Or.inr (Or.inl ⟨amount, hamount, Or.inl (Objects.missing_of_none hvalue)⟩))
    · intro hleaks
      have hrejected : ∃ e, AP2Mandate.fromAp2 objects message paymentMandate checkoutMandate
          openMandateHash = .error e ∧ e.Rejection message :=
        hleaks.1.elim hfaithful.missing hfaithful.blank
      obtain ⟨e, he, hrejection⟩ := hrejected
      exact hleaks.not_rejected he hrejection
  · rintro ⟨hnone, hleaks⟩
    have hfields : ∀ mandate : AP2Mandate,
        mandate.ReadFrom objects paymentMandate checkoutMandate openMandateHash →
          mandate.FaithfulTo objects paymentMandate checkoutMandate openMandateHash := by
      intro mandate hread
      have hpasses := passesChecks_iff.mpr ⟨mandate, hread⟩
      refine hread.faithfulTo ?_ ?_
      · intro hid
        exact hnone ⟨hpasses, Or.inl hid⟩
      · intro amount hamount hvalue
        exact hnone ⟨hpasses, Or.inr ⟨amount, hamount, hvalue⟩⟩
    refine ⟨?_, ?_, ?_, ?_⟩
    · intro hmissing
      exact fromAp2_rejection (Or.inl hmissing) hleaks fun mandate hread =>
        (hfields mandate hread).not_missing hmissing
    · intro hblank
      refine fromAp2_rejection (Or.inr hblank) hleaks ?_
      intro mandate hread
      exact hblank.elim (hfields mandate hread).not_blank (hfields mandate hread).not_blankHash
    · intro mandate hmandate
      exact hfields mandate (AP2Mandate.fromAp2_ok_iff.mp hmandate)
    · intro mandate hmandate
      exact (hfields mandate (AP2Mandate.fromAp2_ok_iff.mp hmandate)).identified

/-! ### A missing id that passes -/

/-- Upstream objects of the examples: a text, an integer other than zero with more digits
    than `str` converts, or a record of attributes. -/
inductive SampleObject where
  | text (value : String)
  | hugeInteger
  | record (attributes : List (Attr × Option SampleObject))

def SampleObject.objects : Objects SampleObject where
  attr
    | .text _, name =>
      .error ⟨⟨.exception, "AttributeError", s!"'str' object has no attribute '{name.text}'"⟩, true⟩
    | .hugeInteger, name =>
      .error ⟨⟨.exception, "AttributeError", s!"'int' object has no attribute '{name.text}'"⟩, true⟩
    | .record attributes, name =>
      match attributes.lookup name with
      | some value => .ok value
      | none => .error ⟨⟨.exception, "AttributeError",
          s!"'PaymentMandate' object has no attribute '{name.text}'"⟩, true⟩
  str
    | .text value => .ok value
    | .hugeInteger =>
      .error ⟨⟨.exception, "ValueError",
        "Exceeds the limit (4300 digits) for integer string conversion"⟩, false⟩
    | .record _ => .ok "<object>"
  bool
    | .text value => .ok (decide (value ≠ ""))
    | .hugeInteger => .ok true
    | .record _ => .ok true
  fieldText
    | .text value => some value
    | .hugeInteger => none
    | .record _ => none

/-- A payment mandate of USD to a website, with a given transaction id. -/
def SampleObject.payment (transactionId : Option SampleObject) (value website : String) :
    SampleObject :=
  .record [(.transactionId, transactionId),
    (.paymentAmount, some (.record
      [(.value, some (.text value)), (.currency, some (.text "USD"))])),
    (.payee, some (.record [(.website, some (.text website))]))]

/-- **Two payments without a transaction id share one consume-once input.** -/
theorem fromAp2_missing_transactionId :
    ∃ mandate mandate',
      AP2Mandate.fromAp2 SampleObject.objects "" (some (.payment none "10.00" "shop.example"))
        none none = .ok mandate ∧
      AP2Mandate.fromAp2 SampleObject.objects "" (some (.payment none "25.00" "other.example"))
        none none = .ok mandate' ∧
      mandate ≠ mandate' ∧
      consumeOnceInput mandate = (.transaction, "None") ∧
      consumeOnceInput mandate' = (.transaction, "None") ∧
      ¬FaithfulAdapter SampleObject.objects "" (some (.payment none "10.00" "shop.example"))
        none none := by
  refine ⟨_, _, rfl, rfl, by decide, by decide, by decide, ?_⟩
  intro hfaithful
  obtain ⟨e, he, _⟩ := hfaithful.missing (Or.inl rfl)
  cases he

/-- The payee is `None`, but the `ValueError` of an id that `str` does not convert comes
    first. -/
example : ¬FaithfulAdapter SampleObject.objects ""
    (some (.record [(.transactionId, some .hugeInteger), (.payee, none)])) none none := by
  intro hfaithful
  obtain ⟨e, he, hrejection⟩ := hfaithful.missing (Or.inr (Or.inr (Or.inr (Or.inl rfl))))
  obtain rfl := Except.error.inj he
  rcases hrejection with ⟨_, heq⟩ | heq
  · cases heq
  · exact absurd heq (by decide)

end CyclesAP2
