import CyclesAP2.ConsumeOnce
import CyclesAP2.FaithfulAdapter

/-!
# From upstream objects to reservations

A mandate that is made of upstream objects is locked by one text of theirs: that of the
open-mandate hash if one is passed, and else what `str` makes of the transaction id.  The
other attributes are data of the payment, but not of its lock.

So of guards whose mandates come from upstream objects, two pay under one reservation
exactly when these texts are equal up to the white space around them
(`reservation_shared_iff`).
-/

namespace CyclesAP2

open Interaction

section Identity

variable {V : Type} (objects : Objects V)

/-- The scope, and the stripped text, by which upstream objects are locked. -/
def Objects.Identifies (paymentMandate : Option V) : Option V → Scope × String → Prop
  | some hash, input =>
    ∃ text, objects.fieldText hash = some text ∧ input = (.openMandate, strip text)
  | none, input =>
    ∃ value text, objects.attrOf paymentMandate .transactionId = .ok value ∧
      objects.strOf value = .ok text ∧ input = (.transaction, strip text)

variable {objects} {message : String} {paymentMandate checkoutMandate openMandateHash : Option V}
  {mandate : AP2Mandate} {input : Scope × String}

/-- **What identifies the upstream objects is the consume-once input of their mandate.** -/
theorem Objects.identifies_iff
    (h : AP2Mandate.fromAp2 objects message paymentMandate checkoutMandate openMandateHash =
      .ok mandate) :
    objects.Identifies paymentMandate openMandateHash input ↔
      input = consumeOnceInput mandate := by
  have hread := AP2Mandate.fromAp2_ok_iff.mp h
  have hopen := Objects.holdsHash_iff.mpr hread.openMandateHash
  cases openMandateHash with
  | none =>
    obtain ⟨value, text, hvalue, htext, hid⟩ := hread.transactionId
    rw [consumeOnceInput_of_none hopen, hid]
    constructor
    · rintro ⟨value', text', hvalue', htext', rfl⟩
      cases hvalue.symm.trans hvalue'
      cases htext.symm.trans htext'
      rfl
    · rintro rfl
      exact ⟨value, text, hvalue, htext, rfl⟩
  | some object =>
    obtain ⟨text, hash, htext, hfield, hhash⟩ := hopen
    rw [consumeOnceInput_of_hash hfield, hhash]
    constructor
    · rintro ⟨text', htext', rfl⟩
      cases htext.symm.trans htext'
      rfl
    · rintro rfl
      exact ⟨text, htext, rfl⟩

end Identity

/-! ### Guards over upstream payments -/

/-- The mandate of the guard is made of upstream objects that are identified by `input`. -/
def Objects.Sources {V : Type} (objects : Objects V) (party : Party) (input : Scope × String) :
    Prop :=
  ∃ message paymentMandate checkoutMandate openMandateHash,
    AP2Mandate.fromAp2 objects message paymentMandate checkoutMandate openMandateHash =
      .ok party.args.mandate ∧
    objects.Identifies paymentMandate openMandateHash input

section Network

variable {V ι σ : Type} [DecidableEq ι] {objects : Objects V} {py : Python} {parties : ι → Party}
  {balances : σ} {s : GuardNetwork ι σ} {i j : ι} {input input' : Scope × String}

theorem Objects.Sources.input_eq {party : Party} (h : objects.Sources party input) :
    input = consumeOnceInput party.args.mandate := by
  obtain ⟨_, _, _, _, hmandate, hidentifies⟩ := h
  exact (Objects.identifies_iff hmandate).mp hidentifies

/-- **Which upstream payments share a reservation**: those that are identified by the same
    text in the same scope, whatever else the upstream objects say. -/
theorem reservation_shared_iff (h : Running py parties balances s)
    (hsource : objects.Sources (parties i) input) (hsource' : objects.Sources (parties j) input')
    (hdigest : IsDigest (hashInput py input.2)) (hdigest' : IsDigest (hashInput py input'.2))
    (hinjective : hashInput py input.2 = hashInput py input'.2 → input.2 = input'.2)
    {held held' : Option String} (hmark : Event.act (.withBody held) ∈ s.trails i)
    (hmark' : Event.act (.withBody held') ∈ s.trails j) : held = held' ↔ input = input' := by
  obtain ⟨reservation, hmem, rfl, hbody, _⟩ := h.entered hmark
  obtain ⟨reservation', hmem', rfl, hbody', _⟩ := h.entered hmark'
  have hconsistent := h.invariant.1
  have hkey := key_of_reservationBody hbody
  have hkey' := key_of_reservationBody hbody'
  rw [hsource.input_eq] at hdigest hinjective ⊢
  rw [hsource'.input_eq] at hdigest' hinjective ⊢
  constructor
  · intro heq
    obtain rfl := hconsistent.eq_of_id hmem hmem' (Option.some.inj heq)
    have hfields := keyFields_eq_iff.mp
      ((idempotencyKey_eq_iff_keyFields hdigest hdigest').mp (hkey.symm.trans hkey'))
    exact Prod.ext hfields.1 (hinjective hfields.2.1)
  · intro heq
    have hsame : reservation.body.idempotencyKey = reservation'.body.idempotencyKey := by
      rw [hkey, hkey', idempotencyKey_congr py (sameConsumeOnce_iff.mpr heq)]
    rw [hconsistent.eq_of_key hmem hmem' hsame]

end Network

/-- The transaction ids of two upstream payments that differ in white space only. -/
theorem reservation_shared_iff_spaces :
    let s := Policy.sample.play .sample retries (.empty ()) [false, true, true, false]
    ∀ held held', Event.act (.withBody held) ∈ s.trails false →
      Event.act (.withBody held') ∈ s.trails true → held = held' := by
  intro s held held' hmark hmark'
  have hsource : SampleObject.objects.Sources (retries false) (.transaction, "tx-1") :=
    ⟨"", some (.payment (some (.text " tx-1")) "10.00" "shop.example"), none, none, rfl,
      _, _, rfl, rfl, by decide⟩
  have hsource' : SampleObject.objects.Sources (retries true) (.transaction, "tx-1") :=
    ⟨"", some (.payment (some (.text "tx-1 ")) "10.00" "shop.example"), none, none, rfl,
      _, _, rfl, rfl, by decide⟩
  exact (reservation_shared_iff (Policy.sample.running ..) hsource hsource' (by decide) (by decide)
    (fun _ => rfl) hmark hmark').mpr rfl

end CyclesAP2
