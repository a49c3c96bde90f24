import CyclesAP2.Models

/-!
# Mandates from the AP2 SDK

`AP2Mandate.from_ap2` reads its fields from objects of the AP2 SDK, of which it
knows nothing but the names of their attributes.  An attribute may be absent (then
reading it raises an `AttributeError`), `None`, or any other value.  `None` is the
`none` of an `Option`, so what Python does with `None` is fixed here, while all
that concerns another value is up to the objects (`Objects`).
-/

namespace CyclesAP2

/-- The attributes that the adapter reads. -/
inductive Attr where
  | transactionId
  | paymentAmount
  | value
  | currency
  | payee
  | website
  | identifier
  | hash
  | checkoutHash
deriving DecidableEq, Repr

def Attr.text : Attr → String
  | .transactionId => "transaction_id"
  | .paymentAmount => "payment_amount"
  | .value => "value"
  | .currency => "currency"
  | .payee => "payee"
  | .website => "website"
  | .identifier => "identifier"
  | .hash => "hash"
  | .checkoutHash => "checkout_hash"

/-- What an operation on an upstream object raised, and whether it is an
    `AttributeError`. -/
structure Failure where
  exc : Raised
  isAttributeError : Bool
deriving DecidableEq

/-- Upstream objects other than `None`: attribute access, `str`, and `bool`, each of
    which may run code of the object and raise; and the text that a text field of a
    model reads from an object, if it accepts it. -/
structure Objects (V : Type) where
  attr : V → Attr → Except Failure (Option V)
  str : V → Except Failure String
  bool : V → Except Failure Bool
  fieldText : V → Option String

namespace Objects

variable {V : Type} (objects : Objects V)

/-- `value.name` -/
def attrOf (value : Option V) (name : Attr) : Except Failure (Option V) :=
  match value with
  | none =>
    .error ⟨⟨.exception, "AttributeError", s!"'NoneType' object has no attribute '{name.text}'"⟩, true⟩
  | some object => objects.attr object name

/-- `getattr(value, name, None)` -/
def getattr (value : Option V) (name : Attr) : Except Failure (Option V) :=
  match objects.attrOf value name with
  | .ok read => .ok read
  | .error failure => if failure.isAttributeError then .ok none else .error failure

/-- `str(value)` -/
def strOf : Option V → Except Failure String
  | none => .ok "None"
  | some object => objects.str object

/-- `bool(value)` -/
def boolOf : Option V → Except Failure Bool
  | none => .ok false
  | some object => objects.bool object

end Objects

/-! ### Validated fields -/

/-- A text field with these bounds, on a given text. -/
def BoundedText.ofText (minLength maxLength : Nat) (text : String) :
    Option (BoundedText minLength maxLength) :=
  if h : minLength ≤ (strip text).length ∧ (strip text).length ≤ maxLength then
    some ⟨strip text, h.1, h.2, strip_strip text⟩
  else none

/-- An optional text field, on a given value; nothing when it is turned down. -/
def Objects.optionalField {V : Type} (objects : Objects V) (minLength maxLength : Nat) :
    Option V → Option (Option (BoundedText minLength maxLength))
  | none => some none
  | some object => do
    let text ← objects.fieldText object
    let field ← BoundedText.ofText minLength maxLength text
    return some field

/-! ### The adapter -/

section FromAp2

variable {V : Type} (objects : Objects V)

/-- Inside the `try` statement an `AttributeError` is turned into an
    `AP2MandateError`. -/
def Failure.caught (failure : Failure) : PyExc :=
  if failure.isAttributeError then
    .mandateError s!"upstream PaymentMandate is missing a required field: {failure.exc.text}"
  else .foreign failure.exc

def Failure.uncaught (failure : Failure) : PyExc := .foreign failure.exc

/-- `getattr(payee, "website", None) or getattr(payee, "identifier", None)` -/
def Objects.payeeName (payee : Option V) : Except Failure (Option V) := do
  let website ← objects.getattr payee .website
  if ← objects.boolOf website then return website
  else objects.getattr payee .identifier

/-- The required values, as the `try` statement reads them. -/
structure RequiredValues (V : Type) where
  transactionId : String
  amountValue : String
  currency : String
  payeeWebsite : Option V

def Objects.readRequired (paymentMandate : Option V) : Except PyExc (RequiredValues V) := do
  let transactionId ← (objects.attrOf paymentMandate .transactionId).mapError Failure.caught
  let transactionId ← (objects.strOf transactionId).mapError Failure.caught
  let amount ← (objects.attrOf paymentMandate .paymentAmount).mapError Failure.caught
  let amountValue ← (objects.attrOf amount .value).mapError Failure.caught
  let amountValue ← (objects.strOf amountValue).mapError Failure.caught
  let currency ← (objects.attrOf amount .currency).mapError Failure.caught
  let currency ← (objects.strOf currency).mapError Failure.caught
  let payee ← (objects.attrOf paymentMandate .payee).mapError Failure.caught
  let payeeWebsite ← (objects.payeeName payee).mapError Failure.caught
  if ← (objects.boolOf payeeWebsite).mapError Failure.caught then
    return ⟨transactionId, amountValue, currency, payeeWebsite⟩
  else throw (.mandateError "AP2 payee must expose `website` or `identifier`")

/-- The hash of the checkout mandate, under the first of its two names that is not
    missing. -/
def Objects.readCheckoutHash : Option V → Except Failure (Option V)
  | none => .ok none
  | some checkoutMandate => do
    match ← objects.getattr (some checkoutMandate) .hash with
    | some hash => return some hash
    | none => objects.getattr (some checkoutMandate) .checkoutHash

/-- `cls(...)`: every field is validated. -/
def Objects.validated (transactionId amountValue currency payeeWebsite : String)
    (checkoutHash openMandateHash : Option V) : Option AP2Mandate := do
  let transactionId ← BoundedText.ofText 1 256 transactionId
  let amountValue ← BoundedText.ofText 1 64 amountValue
  let currency ← BoundedText.ofText 3 3 currency
  let payeeWebsite ← BoundedText.ofText 1 253 payeeWebsite
  let checkoutHash ← objects.optionalField 1 256 checkoutHash
  let openMandateHash ← objects.optionalField 1 256 openMandateHash
  return { transactionId, amountValue, currency, payeeWebsite, checkoutHash, openMandateHash }

/-- `ValidationError`; its message comes from the model library. -/
def validationError (message : String) : PyExc :=
  .foreign ⟨.exception, "ValidationError", message⟩

/-- Build a mandate from upstream objects; `message` is what a `ValidationError`
    would say. -/
def AP2Mandate.fromAp2 (message : String) (paymentMandate checkoutMandate openMandateHash : Option V) :
    Except PyExc AP2Mandate := do
  let required ← objects.readRequired paymentMandate
  let checkoutHash ← (objects.readCheckoutHash checkoutMandate).mapError Failure.uncaught
  let payeeWebsite ← (objects.strOf required.payeeWebsite).mapError Failure.uncaught
  match objects.validated required.transactionId required.amountValue required.currency payeeWebsite
    checkoutHash openMandateHash with
  | some mandate => return mandate
  | none => throw (validationError message)

end FromAp2

/-! ### What it accepts -/

theorem BoundedText.ofText_eq_some_iff {minLength maxLength : Nat} {text : String}
    {field : BoundedText minLength maxLength} :
    BoundedText.ofText minLength maxLength text = some field ↔ field.val = strip text := by
  unfold ofText
  constructor
  · intro h
    split at h
    · cases h
      rfl
    · simp at h
  · intro h
    rw [dif_pos (by rw [← h]; exact ⟨field.min_length, field.max_length⟩)]
    exact congrArg some (BoundedText.val_inj.mp h.symm)

section Accepted

variable {V : Type} {objects : Objects V} {message : String}
  {paymentMandate checkoutMandate openMandateHash : Option V} {mandate : AP2Mandate}

theorem Objects.readRequired_ok_iff {required : RequiredValues V} :
    objects.readRequired paymentMandate = .ok required ↔
      (∃ value, objects.attrOf paymentMandate .transactionId = .ok value ∧
        objects.strOf value = .ok required.transactionId) ∧
      (∃ amount, objects.attrOf paymentMandate .paymentAmount = .ok amount ∧
        (∃ value, objects.attrOf amount .value = .ok value ∧
          objects.strOf value = .ok required.amountValue) ∧
        ∃ value, objects.attrOf amount .currency = .ok value ∧
          objects.strOf value = .ok required.currency) ∧
      ∃ payee, objects.attrOf paymentMandate .payee = .ok payee ∧
        objects.payeeName payee = .ok required.payeeWebsite ∧
        objects.boolOf required.payeeWebsite = .ok true := by
  obtain ⟨transactionId, amountValue, currency, payeeWebsite⟩ := required
  simp only [readRequired, bind_eq_ok_iff, mapError_eq_ok_iff]
  constructor
  · rintro ⟨transaction, htransaction, _, hid, amount, hamount, value, hvalue, _, hvalueText, unit,
      hunit, _, hunitText, payee, hpayee, name, hname, named, hnamed, hrest⟩
    cases named with
    | false => simp [throw, throwThe, MonadExceptOf.throw] at hrest
    | true =>
      cases hrest
      exact ⟨⟨transaction, htransaction, hid⟩,
        ⟨amount, hamount, ⟨value, hvalue, hvalueText⟩, unit, hunit, hunitText⟩,
        payee, hpayee, hname, hnamed⟩
  · rintro ⟨⟨transaction, htransaction, hid⟩,
      ⟨amount, hamount, ⟨value, hvalue, hvalueText⟩, unit, hunit, hunitText⟩,
      payee, hpayee, hname, hnamed⟩
    exact ⟨transaction, htransaction, _, hid, amount, hamount, value, hvalue, _, hvalueText, unit,
      hunit, _, hunitText, payee, hpayee, _, hname, true, hnamed, rfl⟩

theorem Objects.validated_eq_some_iff {transactionId amountValue currency payeeWebsite : String}
    {checkoutHash hash : Option V} :
    objects.validated transactionId amountValue currency payeeWebsite checkoutHash hash =
        some mandate ↔
      mandate.transactionId.val = strip transactionId ∧
      mandate.amountValue.val = strip amountValue ∧
      mandate.currency.val = strip currency ∧
      mandate.payeeWebsite.val = strip payeeWebsite ∧
      objects.optionalField 1 256 checkoutHash = some mandate.checkoutHash ∧
      objects.optionalField 1 256 hash = some mandate.openMandateHash := by
  simp only [validated, bind, Option.bind_eq_some_iff, BoundedText.ofText_eq_some_iff]
  constructor
  · rintro ⟨_, hid, _, hvalue, _, hcurrency, _, hpayee, _, hcheckout, _, hopen, hmandate⟩
    cases hmandate
    exact ⟨hid, hvalue, hcurrency, hpayee, hcheckout, hopen⟩
  · rintro ⟨hid, hvalue, hcurrency, hpayee, hcheckout, hopen⟩
    exact ⟨_, hid, _, hvalue, _, hcurrency, _, hpayee, _, hcheckout, _, hopen, rfl⟩

/-- `mandate` is what the adapter makes of the upstream objects, `None` taken for a
    text by `str`. -/
structure AP2Mandate.ReadFrom (objects : Objects V)
    (paymentMandate checkoutMandate openMandateHash : Option V) (mandate : AP2Mandate) : Prop where
  transactionId : ∃ value text, objects.attrOf paymentMandate .transactionId = .ok value ∧
    objects.strOf value = .ok text ∧ mandate.transactionId.val = strip text
  amount : ∃ amount, objects.attrOf paymentMandate .paymentAmount = .ok amount ∧
    (∃ value text, objects.attrOf amount .value = .ok value ∧ objects.strOf value = .ok text ∧
      mandate.amountValue.val = strip text) ∧
    ∃ value text, objects.attrOf amount .currency = .ok value ∧ objects.strOf value = .ok text ∧
      mandate.currency.val = strip text
  payee : ∃ payee name text, objects.attrOf paymentMandate .payee = .ok payee ∧
    objects.payeeName payee = .ok name ∧ objects.boolOf name = .ok true ∧
    objects.strOf name = .ok text ∧ mandate.payeeWebsite.val = strip text
  checkoutHash : ∃ value, objects.readCheckoutHash checkoutMandate = .ok value ∧
    objects.optionalField 1 256 value = some mandate.checkoutHash
  openMandateHash : objects.optionalField 1 256 openMandateHash = some mandate.openMandateHash

theorem AP2Mandate.fromAp2_ok_iff :
    fromAp2 objects message paymentMandate checkoutMandate openMandateHash = .ok mandate ↔
      mandate.ReadFrom objects paymentMandate checkoutMandate openMandateHash := by
  simp only [fromAp2, bind_eq_ok_iff, mapError_eq_ok_iff, Objects.readRequired_ok_iff]
  constructor
  · rintro ⟨required, ⟨⟨transaction, htransaction, hid⟩,
      ⟨amount, hamount, ⟨value, hvalue, hvalueText⟩, unit, hunit, hunitText⟩,
      payee, hpayee, hname, hnamed⟩, hash, hhash, website, hwebsite, hmandate⟩
    rcases hvalidated : objects.validated required.transactionId required.amountValue
      required.currency website hash openMandateHash with _ | validated
    · simp [hvalidated, throw, throwThe, MonadExceptOf.throw] at hmandate
    · rw [hvalidated] at hmandate
      obtain rfl : validated = mandate := Except.ok.inj hmandate
      obtain ⟨hid', hvalue', hcurrency', hpayee', hcheckout, hopen⟩ :=
        Objects.validated_eq_some_iff.mp hvalidated
      exact ⟨⟨transaction, _, htransaction, hid, hid'⟩,
        ⟨amount, hamount, ⟨value, _, hvalue, hvalueText, hvalue'⟩,
          unit, _, hunit, hunitText, hcurrency'⟩,
        ⟨payee, _, website, hpayee, hname, hnamed, hwebsite, hpayee'⟩,
        ⟨hash, hhash, hcheckout⟩, hopen⟩
  · rintro ⟨⟨transaction, transactionId, htransaction, hid, hid'⟩,
      ⟨amount, hamount, ⟨value, amountValue, hvalue, hvalueText, hvalue'⟩,
        unit, currency, hunit, hunitText, hcurrency'⟩,
      ⟨payee, name, website, hpayee, hname, hnamed, hwebsite, hpayee'⟩,
      ⟨hash, hhash, hcheckout⟩, hopen⟩
    refine ⟨⟨transactionId, amountValue, currency, name⟩, ⟨⟨transaction, htransaction, hid⟩,
      ⟨amount, hamount, ⟨value, hvalue, hvalueText⟩, unit, hunit, hunitText⟩,
      payee, hpayee, hname, hnamed⟩, hash, hhash, website, hwebsite, ?_⟩
    rw [Objects.validated_eq_some_iff.mpr ⟨hid', hvalue', hcurrency', hpayee', hcheckout, hopen⟩]
    rfl

end Accepted

/-! ### How it turns objects down -/

/-- `str(value.name)` -/
def Objects.textOf {V : Type} (objects : Objects V) (value : Option V) (name : Attr) :
    Except Failure String := do
  let read ← objects.attrOf value name
  objects.strOf read

section Rejected

variable {V : Type} (objects : Objects V) (message : String)
  (paymentMandate checkoutMandate openMandateHash : Option V)

/-- `AP2MandateError`, or the `ValidationError` of the model. -/
def PyExc.Rejection (e : PyExc) : Prop :=
  (∃ text, e = .mandateError text) ∨ e = validationError message

/-- The transaction id and the amount can be read. -/
structure Objects.ReadsAmount (amount : Option V) : Prop where
  transactionId : ∃ text, objects.textOf paymentMandate .transactionId = .ok text
  amount : objects.attrOf paymentMandate .paymentAmount = .ok amount

/-- So can the texts of the amount. -/
def Objects.ReadsTexts : Prop :=
  ∃ amount, objects.ReadsAmount paymentMandate amount ∧
    (∃ text, objects.textOf amount .value = .ok text) ∧
    ∃ text, objects.textOf amount .currency = .ok text

/-- And so can the payee, which goes by `name`. -/
structure Objects.ReadsPayee (name : Option V) : Prop where
  texts : objects.ReadsTexts paymentMandate
  payee : ∃ payee, objects.attrOf paymentMandate .payee = .ok payee ∧
    objects.payeeName payee = .ok name
  named : objects.boolOf name = .ok true

/-- What the `try` statement reads raises `failure`, in the order in which it is read. -/
inductive Objects.TryRaises (failure : Failure) : Prop where
  | transactionId (h : objects.textOf paymentMandate .transactionId = .error failure)
  | paymentAmount {text : String} (hid : objects.textOf paymentMandate .transactionId = .ok text)
      (h : objects.attrOf paymentMandate .paymentAmount = .error failure)
  | value {amount : Option V} (hamount : objects.ReadsAmount paymentMandate amount)
      (h : objects.textOf amount .value = .error failure)
  | currency {amount : Option V} {text : String}
      (hamount : objects.ReadsAmount paymentMandate amount)
      (hvalue : objects.textOf amount .value = .ok text)
      (h : objects.textOf amount .currency = .error failure)
  | payee (htexts : objects.ReadsTexts paymentMandate)
      (h : objects.attrOf paymentMandate .payee = .error failure)
  | payeeName {payee : Option V} (htexts : objects.ReadsTexts paymentMandate)
      (hpayee : objects.attrOf paymentMandate .payee = .ok payee)
      (h : objects.payeeName payee = .error failure)
  | named {payee name : Option V} (htexts : objects.ReadsTexts paymentMandate)
      (hpayee : objects.attrOf paymentMandate .payee = .ok payee)
      (hname : objects.payeeName payee = .ok name) (h : objects.boolOf name = .error failure)

/-- An exception of an upstream object leaves the adapter: no `AttributeError` in the
    `try` statement, or any exception of what is read after it. -/
inductive Objects.Escapes (failure : Failure) : Prop where
  | required (h : objects.TryRaises paymentMandate failure)
      (hother : failure.isAttributeError = false)
  | checkoutHash {name : Option V} (hname : objects.ReadsPayee paymentMandate name)
      (h : objects.readCheckoutHash checkoutMandate = .error failure)
  | payeeText {name hash : Option V} (hname : objects.ReadsPayee paymentMandate name)
      (hhash : objects.readCheckoutHash checkoutMandate = .ok hash)
      (h : objects.strOf name = .error failure)

end Rejected

section Rejections

variable {V : Type} {objects : Objects V} {message : String}
  {paymentMandate checkoutMandate openMandateHash : Option V}

/-- One read inside the `try` statement, and what follows it. -/
theorem mapError_bind_error {α β : Type} {read : Except Failure α} {next : α → Except PyExc β}
    {e : PyExc} (h : read.mapError Failure.caught >>= next = .error e) :
    (∃ failure, read = .error failure ∧ e = failure.caught) ∨
      ∃ value, read = .ok value ∧ next value = .error e := by
  rcases bind_eq_error_iff.mp h with h | ⟨value, hvalue, h⟩
  · obtain ⟨failure, hfailure, rfl⟩ := mapError_eq_error_iff.mp h
    exact Or.inl ⟨failure, hfailure, rfl⟩
  · exact Or.inr ⟨value, mapError_eq_ok_iff.mp hvalue, h⟩

/-- The reads of the `try` statement, with each text read at once. -/
theorem Objects.readRequired_eq : objects.readRequired paymentMandate = (do
    let transactionId ← (objects.textOf paymentMandate .transactionId).mapError Failure.caught
    let amount ← (objects.attrOf paymentMandate .paymentAmount).mapError Failure.caught
    let amountValue ← (objects.textOf amount .value).mapError Failure.caught
    let currency ← (objects.textOf amount .currency).mapError Failure.caught
    let payee ← (objects.attrOf paymentMandate .payee).mapError Failure.caught
    let payeeWebsite ← (objects.payeeName payee).mapError Failure.caught
    if ← (objects.boolOf payeeWebsite).mapError Failure.caught then
      return ⟨transactionId, amountValue, currency, payeeWebsite⟩
    else throw (.mandateError "AP2 payee must expose `website` or `identifier`")) := by
  simp only [readRequired, textOf, mapError_bind, bind_assoc]

theorem Objects.readRequired_error {e : PyExc}
    (h : objects.readRequired paymentMandate = .error e) :
    (∃ text, e = .mandateError text) ∨
      ∃ failure, objects.TryRaises paymentMandate failure ∧ e = failure.caught := by
  rw [readRequired_eq] at h
  rcases mapError_bind_error h with ⟨failure, hfailure, rfl⟩ | ⟨_, hid, h⟩
  · exact Or.inr ⟨failure, .transactionId hfailure, rfl⟩
  rcases mapError_bind_error h with ⟨failure, hfailure, rfl⟩ | ⟨amount, hamount, h⟩
  · exact Or.inr ⟨failure, .paymentAmount hid hfailure, rfl⟩
  have hreads : objects.ReadsAmount paymentMandate amount := ⟨⟨_, hid⟩, hamount⟩
  rcases mapError_bind_error h with ⟨failure, hfailure, rfl⟩ | ⟨_, hvalue, h⟩
  · exact Or.inr ⟨failure, .value hreads hfailure, rfl⟩
  rcases mapError_bind_error h with ⟨failure, hfailure, rfl⟩ | ⟨_, hcurrency, h⟩
  · exact Or.inr ⟨failure, .currency hreads hvalue hfailure, rfl⟩
  have htexts : objects.ReadsTexts paymentMandate := ⟨_, hreads, ⟨_, hvalue⟩, _, hcurrency⟩
  rcases mapError_bind_error h with ⟨failure, hfailure, rfl⟩ | ⟨payee, hpayee, h⟩
  · exact Or.inr ⟨failure, .payee htexts hfailure, rfl⟩
  rcases mapError_bind_error h with ⟨failure, hfailure, rfl⟩ | ⟨name, hname, h⟩
  · exact Or.inr ⟨failure, .payeeName htexts hpayee hfailure, rfl⟩
  rcases mapError_bind_error h with ⟨failure, hfailure, rfl⟩ | ⟨named, _, h⟩
  · exact Or.inr ⟨failure, .named htexts hpayee hname hfailure, rfl⟩
  cases named with
  | true => cases h
  | false =>
    obtain rfl := Except.error.inj h
    exact Or.inl ⟨_, rfl⟩

theorem Objects.TryRaises.readRequired {failure : Failure}
    (h : objects.TryRaises paymentMandate failure) :
    objects.readRequired paymentMandate = .error failure.caught := by
  rw [readRequired_eq]
  cases h with
  | transactionId h => simp only [h, mapError_error_bind]
  | paymentAmount hid h => simp only [hid, h, mapError_ok_bind, mapError_error_bind]
  | value hamount h =>
    obtain ⟨⟨_, hid⟩, hamount⟩ := hamount
    simp only [hid, hamount, h, mapError_ok_bind, mapError_error_bind]
  | currency hamount hvalue h =>
    obtain ⟨⟨_, hid⟩, hamount⟩ := hamount
    simp only [hid, hamount, hvalue, h, mapError_ok_bind, mapError_error_bind]
  | payee htexts h =>
    obtain ⟨amount, ⟨⟨_, hid⟩, hamount⟩, ⟨_, hvalue⟩, _, hcurrency⟩ := htexts
    simp only [hid, hamount, hvalue, hcurrency, h, mapError_ok_bind, mapError_error_bind]
  | payeeName htexts hpayee h =>
    obtain ⟨amount, ⟨⟨_, hid⟩, hamount⟩, ⟨_, hvalue⟩, _, hcurrency⟩ := htexts
    simp only [hid, hamount, hvalue, hcurrency, hpayee, h, mapError_ok_bind, mapError_error_bind]
  | named htexts hpayee hname h =>
    obtain ⟨amount, ⟨⟨_, hid⟩, hamount⟩, ⟨_, hvalue⟩, _, hcurrency⟩ := htexts
    simp only [hid, hamount, hvalue, hcurrency, hpayee, hname, h, mapError_ok_bind,
      mapError_error_bind]

/-- A payment mandate is read exactly when nothing in it raises and its payee has a name. -/
theorem Objects.readsPayee_iff {name : Option V} :
    objects.ReadsPayee paymentMandate name ↔
      ∃ required, objects.readRequired paymentMandate = .ok required ∧
        required.payeeWebsite = name := by
  constructor
  · rintro ⟨⟨amount, ⟨⟨id, hid⟩, hamount⟩, ⟨value, hvalue⟩, unit, hunit⟩, ⟨payee, hpayee, hname⟩,
      hnamed⟩
    refine ⟨⟨id, value, unit, name⟩, readRequired_ok_iff.mpr ⟨bind_eq_ok_iff.mp hid, ?_, ?_⟩, rfl⟩
    · exact ⟨amount, hamount, bind_eq_ok_iff.mp hvalue, bind_eq_ok_iff.mp hunit⟩
    · exact ⟨payee, hpayee, hname, hnamed⟩
  · rintro ⟨required, hrequired, rfl⟩
    obtain ⟨hid, ⟨amount, hamount, hvalue, hunit⟩, payee, hpayee, hname, hnamed⟩ :=
      readRequired_ok_iff.mp hrequired
    refine ⟨⟨amount, ⟨⟨_, bind_eq_ok_iff.mpr hid⟩, hamount⟩, ?_, ?_⟩, ⟨payee, hpayee, hname⟩,
      hnamed⟩
    · exact ⟨_, bind_eq_ok_iff.mpr hvalue⟩
    · exact ⟨_, bind_eq_ok_iff.mpr hunit⟩

/-- What escapes from an upstream object leaves the adapter as it is. -/
theorem Objects.Escapes.fromAp2_eq {failure : Failure}
    (h : objects.Escapes paymentMandate checkoutMandate failure) :
    AP2Mandate.fromAp2 objects message paymentMandate checkoutMandate openMandateHash =
      .error (.foreign failure.exc) := by
  unfold AP2Mandate.fromAp2
  cases h with
  | required h hother =>
    rw [h.readRequired, Failure.caught, if_neg (by simp [hother])]
    rfl
  | checkoutHash hname h =>
    obtain ⟨required, hrequired, _⟩ := Objects.readsPayee_iff.mp hname
    rw [hrequired, h]
    rfl
  | payeeText hname hhash h =>
    obtain ⟨required, hrequired, rfl⟩ := Objects.readsPayee_iff.mp hname
    rw [hrequired, hhash]
    change (objects.strOf required.payeeWebsite).mapError _ >>= _ = _
    rw [h]
    rfl

/-- **Whatever is turned down is turned down by the adapter or the model**, or code of an
    upstream object raised. -/
theorem AP2Mandate.fromAp2_error {e : PyExc}
    (h : fromAp2 objects message paymentMandate checkoutMandate openMandateHash = .error e) :
    e.Rejection message ∨
      ∃ failure, objects.Escapes paymentMandate checkoutMandate failure ∧
        e = .foreign failure.exc := by
  unfold fromAp2 at h
  rcases bind_eq_error_iff.mp h with h | ⟨required, hrequired, h⟩
  · rcases Objects.readRequired_error h with hmandate | ⟨failure, hraises, rfl⟩
    · exact Or.inl (Or.inl hmandate)
    · unfold Failure.caught
      rcases hattribute : failure.isAttributeError with _ | _
      · rw [if_neg Bool.false_ne_true]
        exact Or.inr ⟨failure, .required hraises hattribute, rfl⟩
      · rw [if_pos rfl]
        exact Or.inl (Or.inl ⟨_, rfl⟩)
  have hname := Objects.readsPayee_iff.mpr ⟨required, hrequired, rfl⟩
  rcases bind_eq_error_iff.mp h with h | ⟨hash, hhash, h⟩
  · obtain ⟨failure, hfailure, rfl⟩ := mapError_eq_error_iff.mp h
    exact Or.inr ⟨failure, .checkoutHash hname hfailure, rfl⟩
  rcases bind_eq_error_iff.mp h with h | ⟨website, _, h⟩
  · obtain ⟨failure, hfailure, rfl⟩ := mapError_eq_error_iff.mp h
    exact Or.inr ⟨failure, .payeeText hname (mapError_eq_ok_iff.mp hhash) hfailure, rfl⟩
  split at h
  · cases h
  · exact Or.inl (Or.inr (Except.error.inj h).symm)

/-- What the adapter does not accept, it turns down, unless code of an upstream object
    raised. -/
theorem AP2Mandate.fromAp2_rejects
    (h : ∀ mandate : AP2Mandate,
      ¬mandate.ReadFrom objects paymentMandate checkoutMandate openMandateHash) :
    ∃ e, fromAp2 objects message paymentMandate checkoutMandate openMandateHash = .error e ∧
      (e.Rejection message ∨
        ∃ failure, objects.Escapes paymentMandate checkoutMandate failure ∧
          e = .foreign failure.exc) := by
  rcases hresult : fromAp2 objects message paymentMandate checkoutMandate openMandateHash
    with e | mandate
  · exact ⟨e, rfl, fromAp2_error hresult⟩
  · exact absurd (fromAp2_ok_iff.mp hresult) (h mandate)

end Rejections

end CyclesAP2
