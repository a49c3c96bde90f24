import CyclesAP2.Models
import Mathlib

/-!
# The amount of a mandate

`amount_micros` checks the range twice: a count of digits before the power of ten
is computed, and the exact bound after it.  The count is coarse, but it never
turns down a non-zero amount that the exact bound accepts, because a decimal
without leading zeros is at least the power of ten of its length
(`pow_le_digitsValue`); and it bounds the power (`AmountExact.bounded`).
-/

namespace CyclesAP2

/-- The digits of a decimal: a single zero, or digits that do not start with one. -/
def NoLeadingZero (digits : List Nat) : Prop :=
  digits = [0] ∨ ∃ digit rest, digits = digit :: rest ∧ digit ≠ 0

/-- What is documented of `Decimal(text)`: the digits of a finite value have no
    leading zero. -/
def Python.DecimalDocumented (py : Python) (text : String) : Prop :=
  ∀ sign digits exponent, py.decimal text = some (.finite sign digits exponent) →
    NoLeadingZero digits

/-! ### The value of digits -/

/-- The value of the digits, most significant first. -/
theorem digitsValue_eq_ofDigits (digits : List Nat) :
    digitsValue digits = Nat.ofDigits 10 digits.reverse := by
  rw [Nat.ofDigits_eq_foldr, List.foldr_reverse]
  unfold digitsValue
  congr 1
  funext value digit
  rw [Nat.cast_id]
  ring

/-- A decimal that does not start with zero is at least a power of ten. -/
theorem pow_le_digitsValue {digit : Nat} (rest : List Nat) (h : digit ≠ 0) :
    10 ^ rest.length ≤ digitsValue (digit :: rest) := by
  have hne : (digit :: rest).reverse ≠ [] := by simp
  have hlast : (digit :: rest).reverse.getLast hne ≠ 0 := by simpa using h
  have hpow : 10 ^ (digit :: rest).reverse.length ≤ 10 * Nat.ofDigits 10 (digit :: rest).reverse :=
    Nat.pow_length_le_mul_ofDigits hne hlast
  rw [← digitsValue_eq_ofDigits, List.length_reverse, List.length_cons, pow_succ] at hpow
  omega

theorem NoLeadingZero.zero_iff {digits : List Nat} (h : NoLeadingZero digits) :
    digitsValue digits = 0 ↔ digits = [0] := by
  constructor
  · intro hzero
    rcases h with h | ⟨digit, rest, rfl, hdigit⟩
    · exact h
    · have hpow := pow_le_digitsValue rest hdigit
      have hpos : 0 < 10 ^ rest.length := Nat.pow_pos (by decide)
      omega
  · rintro rfl
    rfl

theorem NoLeadingZero.length_pos {digits : List Nat} (h : NoLeadingZero digits) :
    1 ≤ digits.length := by
  rcases h with rfl | ⟨digit, rest, rfl, _⟩
  · simp
  · simp

/-- The micro-cents of a finite decimal, in units of `10^-8`. -/
def microsOf (digits : List Nat) (exponent : Int) : Int :=
  digitsValue digits * 10 ^ (exponent + MAX_DECIMAL_PLACES).toNat

/-- **The count of digits costs no amount**: a non-zero amount in range has at most
    19 integer digits. -/
theorem digits_le_of_fits {digits : List Nat} {exponent : Int} (hdigits : NoLeadingZero digits)
    (hplaces : -MAX_DECIMAL_PLACES ≤ exponent) (hnonzero : digitsValue digits ≠ 0)
    (hfits : microsOf digits exponent ≤ MAX_USD_MICROS) :
    (digits.length : Int) + max 0 exponent ≤ MAX_INTEGER_DIGITS := by
  rcases hdigits with rfl | ⟨digit, rest, rfl, hdigit⟩
  · exact absurd rfl hnonzero
  by_contra hmany
  have hsize : 19 ≤ rest.length + (exponent + MAX_DECIMAL_PLACES).toNat := by
    simp only [MAX_INTEGER_DIGITS, MAX_DECIMAL_PLACES, List.length_cons] at *
    omega
  have hpow : 10 ^ 19 ≤
      digitsValue (digit :: rest) * 10 ^ (exponent + MAX_DECIMAL_PLACES).toNat := by
    calc 10 ^ 19 ≤ 10 ^ (rest.length + (exponent + MAX_DECIMAL_PLACES).toNat) :=
          Nat.pow_le_pow_right (by decide) hsize
      _ = 10 ^ rest.length * 10 ^ (exponent + MAX_DECIMAL_PLACES).toNat := Nat.pow_add ..
      _ ≤ digitsValue (digit :: rest) * 10 ^ (exponent + MAX_DECIMAL_PLACES).toNat :=
          Nat.mul_le_mul_right _ (pow_le_digitsValue rest hdigit)
  have hmicros : ((10 ^ 19 : Nat) : Int) ≤ microsOf (digit :: rest) exponent := by
    unfold microsOf
    exact_mod_cast hpow
  have hbig : MAX_USD_MICROS < ((10 ^ 19 : Nat) : Int) := by decide
  omega

/-! ### The function -/

/-- `amount_micros` up to the power of ten: the digits and the shift that reach it. -/
def AP2Mandate.scaling (py : Python) (self : AP2Mandate) : Except PyExc (List Nat × Int) :=
  let shown := py.reprText self.amountValue.val
  if py.upper self.currency.val ≠ "USD" then
    .error (.currencyError (s!"v0.1 supports USD only; got {py.reprText self.currency.val}. " ++
      "Multi-currency lands in v0.2."))
  else
    match py.decimal self.amountValue.val with
    | none => .error (.mandateError s!"amount_value {shown} is not a valid decimal")
    | some .special => .error (.mandateError s!"amount_value must be finite; got {shown}")
    | some (.finite sign digits exponent) =>
      if sign && digits.any (· ≠ 0) then
        .error (.mandateError "amount_value must be non-negative")
      else if exponent < -MAX_DECIMAL_PLACES then
        .error (.mandateError (s!"amount_value {shown} has more than {MAX_DECIMAL_PLACES} " ++
          "decimal places; sub-micro precision would be lost"))
      else
        let totalIntegerDigits : Int := digits.length + max 0 exponent
        if totalIntegerDigits > MAX_INTEGER_DIGITS then
          .error (.mandateError (s!"amount_value {shown} exceeds int64 USD micro-cent range " ++
            s!"({totalIntegerDigits} integer digits > {MAX_INTEGER_DIGITS} max)"))
        else if sign then
          .error (.mandateError "amount_value must be non-negative")
        else .ok (digits, exponent + MAX_DECIMAL_PLACES)

/-- `amount_micros` from the power of ten on. -/
def AP2Mandate.scaled (py : Python) (self : AP2Mandate) : List Nat × Int → Except PyExc Int
  | (digits, shift) =>
    let shown := py.reprText self.amountValue.val
    let scale : Nat := 10 ^ shift.toNat
    let micros : Int := (digitsValue digits * scale : Nat)
    if micros > MAX_USD_MICROS then
      .error (.mandateError (s!"amount_value {shown} exceeds int64 USD micro-cent max " ++
        s!"({micros} > {MAX_USD_MICROS})"))
    else .ok micros

theorem AP2Mandate.amountMicros_eq_scaling (py : Python) (self : AP2Mandate) :
    self.amountMicros py = self.scaling py >>= self.scaled py := by
  unfold amountMicros scaling
  dsimp only
  split
  · rfl
  rcases py.decimal self.amountValue.val with _ | _ | ⟨sign, digits, exponent⟩
  · rfl
  · rfl
  dsimp only
  split
  · rfl
  split
  · rfl
  split
  · rfl
  split
  · rfl
  rfl

section Accepted

variable {py : Python} {self : AP2Mandate}

/-- What reaches the power of ten. -/
theorem AP2Mandate.scaling_ok_iff (hcurrency : py.upper self.currency.val = "USD")
    {digits : List Nat} {shift : Int} :
    self.scaling py = .ok (digits, shift) ↔
      ∃ exponent, py.decimal self.amountValue.val = some (.finite false digits exponent) ∧
        -MAX_DECIMAL_PLACES ≤ exponent ∧
        (digits.length : Int) + max 0 exponent ≤ MAX_INTEGER_DIGITS ∧
        shift = exponent + MAX_DECIMAL_PLACES := by
  unfold scaling
  dsimp only
  rw [if_neg (not_not.mpr hcurrency)]
  rcases py.decimal self.amountValue.val with _ | _ | ⟨sign, digits', exponent⟩
  · simp
  · simp
  dsimp only
  constructor
  · intro h
    by_cases hneg : (sign && digits'.any (· ≠ 0)) = true
    · rw [if_pos hneg] at h
      simp at h
    rw [if_neg hneg] at h
    by_cases hplaces : exponent < -MAX_DECIMAL_PLACES
    · rw [if_pos hplaces] at h
      simp at h
    rw [if_neg hplaces] at h
    by_cases htotal : (digits'.length : Int) + max 0 exponent > MAX_INTEGER_DIGITS
    · rw [if_pos htotal] at h
      simp at h
    rw [if_neg htotal] at h
    by_cases hsign : sign = true
    · rw [if_pos hsign] at h
      simp at h
    rw [if_neg hsign] at h
    simp only [Except.ok.injEq, Prod.mk.injEq] at h
    obtain ⟨rfl, rfl⟩ := h
    exact ⟨exponent, by simp [hsign], not_lt.mp hplaces, not_lt.mp htotal, rfl⟩
  · rintro ⟨exponent', hfinite, hplaces, htotal, rfl⟩
    simp only [Option.some.injEq, DecimalValue.finite.injEq] at hfinite
    obtain ⟨rfl, rfl, rfl⟩ := hfinite
    rw [if_neg (by simp), if_neg (not_lt.mpr hplaces), if_neg (not_lt.mpr htotal), if_neg (by simp)]

theorem AP2Mandate.scaling_error (hcurrency : py.upper self.currency.val = "USD") {e : PyExc}
    (h : self.scaling py = .error e) : ∃ message, e = .mandateError message := by
  unfold scaling at h
  dsimp only at h
  rw [if_neg (not_not.mpr hcurrency)] at h
  rcases hdecimal : py.decimal self.amountValue.val with _ | _ | ⟨sign, digits, exponent⟩
  · simp only [hdecimal, Except.error.injEq] at h
    exact ⟨_, h.symm⟩
  · simp only [hdecimal, Except.error.injEq] at h
    exact ⟨_, h.symm⟩
  · simp only [hdecimal] at h
    split at h
    · exact ⟨_, (Except.error.inj h).symm⟩
    split at h
    · exact ⟨_, (Except.error.inj h).symm⟩
    split at h
    · exact ⟨_, (Except.error.inj h).symm⟩
    split at h
    · exact ⟨_, (Except.error.inj h).symm⟩
    · simp at h

theorem AP2Mandate.scaled_ok_iff {digits : List Nat} {exponent micros : Int} :
    self.scaled py (digits, exponent + MAX_DECIMAL_PLACES) = .ok micros ↔
      microsOf digits exponent ≤ MAX_USD_MICROS ∧ micros = microsOf digits exponent := by
  have hmicros : ((digitsValue digits *
      10 ^ (exponent + MAX_DECIMAL_PLACES).toNat : Nat) : Int) = microsOf digits exponent := by
    unfold microsOf
    push_cast
    rfl
  simp only [scaled, hmicros]
  by_cases hbig : microsOf digits exponent > MAX_USD_MICROS
  · rw [if_pos hbig]
    simp [hbig]
  · rw [if_neg hbig]
    simp [not_lt.mp hbig, eq_comm]

/-- **The accepted amounts**: those of a finite decimal without a minus sign, with
    at most 8 places and 19 integer digits, and in range. -/
theorem AP2Mandate.amountMicros_ok_iff (hcurrency : py.upper self.currency.val = "USD")
    {micros : Int} :
    self.amountMicros py = .ok micros ↔
      ∃ digits exponent,
        py.decimal self.amountValue.val = some (.finite false digits exponent) ∧
          -MAX_DECIMAL_PLACES ≤ exponent ∧
          (digits.length : Int) + max 0 exponent ≤ MAX_INTEGER_DIGITS ∧
          microsOf digits exponent ≤ MAX_USD_MICROS ∧ micros = microsOf digits exponent := by
  rw [amountMicros_eq_scaling, bind_eq_ok_iff]
  constructor
  · rintro ⟨⟨digits, shift⟩, hscaling, hscaled⟩
    obtain ⟨exponent, hfinite, hplaces, htotal, rfl⟩ := (scaling_ok_iff hcurrency).mp hscaling
    obtain ⟨hfits, rfl⟩ := scaled_ok_iff.mp hscaled
    exact ⟨digits, exponent, hfinite, hplaces, htotal, hfits, rfl⟩
  · rintro ⟨digits, exponent, hfinite, hplaces, htotal, hfits, rfl⟩
    exact ⟨_, (scaling_ok_iff hcurrency).mpr ⟨exponent, hfinite, hplaces, htotal, rfl⟩,
      scaled_ok_iff.mpr ⟨hfits, rfl⟩⟩

theorem AP2Mandate.currency_of_amountMicros {micros : Int} (h : self.amountMicros py = .ok micros) :
    py.upper self.currency.val = "USD" := by
  by_contra hcurrency
  unfold amountMicros at h
  rw [if_pos hcurrency] at h
  simp at h

/-- **An accepted amount is exact and in range**: it is the value of the
    parsed decimal, scaled by `10^8`. -/
theorem AP2Mandate.amountMicros_ok {micros : Int}
    (h : self.amountMicros py = .ok micros) :
    0 ≤ micros ∧ micros ≤ MAX_USD_MICROS ∧
      ∃ digits exponent, py.decimal self.amountValue.val = some (.finite false digits exponent) ∧
        -MAX_DECIMAL_PLACES ≤ exponent ∧
        micros = digitsValue digits * 10 ^ (exponent + MAX_DECIMAL_PLACES).toNat := by
  obtain ⟨digits, exponent, hfinite, hplaces, _, hfits, rfl⟩ :=
    (amountMicros_ok_iff (currency_of_amountMicros h)).mp h
  have hnonneg : 0 ≤ microsOf digits exponent := by
    unfold microsOf
    positivity
  exact ⟨hnonneg, hfits, digits, exponent, hfinite, hplaces, rfl⟩

/-- What is not accepted is turned down as a malformed mandate. -/
theorem AP2Mandate.amountMicros_error (hcurrency : py.upper self.currency.val = "USD") {e : PyExc}
    (h : self.amountMicros py = .error e) : ∃ message, e = .mandateError message := by
  rw [amountMicros_eq_scaling] at h
  rcases bind_eq_error_iff.mp h with h | ⟨⟨digits, shift⟩, _, h⟩
  · exact scaling_error hcurrency h
  · dsimp only [scaled] at h
    split at h
    · exact ⟨_, (Except.error.inj h).symm⟩
    · simp at h

theorem AP2Mandate.amountMicros_rejects (hcurrency : py.upper self.currency.val = "USD")
    (h : ∀ micros, self.amountMicros py ≠ .ok micros) :
    ∃ message, self.amountMicros py = .error (.mandateError message) := by
  rcases hresult : self.amountMicros py with e | micros
  · obtain ⟨message, rfl⟩ := amountMicros_error hcurrency hresult
    exact ⟨message, rfl⟩
  · exact absurd hresult (h micros)

end Accepted

/-! ### Exact, complete and bounded -/

/-- What `amount_micros` does with the amount of a USD mandate.  A decimal without a
    minus sign and with at most 8 places is converted exactly if it is in range, and
    a non-zero one in range is never stopped by the count of digits; a zero is
    accepted as far as its exponent leaves it 19 digits.  Everything else is turned
    down, always with the same exception, and the power of ten stays small. -/
structure AmountExact (py : Python) (self : AP2Mandate) : Prop where
  fits : ∀ digits exponent, py.decimal self.amountValue.val = some (.finite false digits exponent) →
    -MAX_DECIMAL_PLACES ≤ exponent → digitsValue digits ≠ 0 →
      microsOf digits exponent ≤ MAX_USD_MICROS →
        (digits.length : Int) + max 0 exponent ≤ MAX_INTEGER_DIGITS ∧
          self.amountMicros py = .ok (microsOf digits exponent)
  exceeds : ∀ digits exponent,
    py.decimal self.amountValue.val = some (.finite false digits exponent) →
      MAX_USD_MICROS < microsOf digits exponent →
        ∃ message, self.amountMicros py = .error (.mandateError message)
  zero : ∀ digits exponent, py.decimal self.amountValue.val = some (.finite false digits exponent) →
    -MAX_DECIMAL_PLACES ≤ exponent → digitsValue digits = 0 →
      if 1 + max 0 exponent ≤ MAX_INTEGER_DIGITS then self.amountMicros py = .ok 0
      else ∃ message, self.amountMicros py = .error (.mandateError message)
  malformed : (∀ digits exponent,
      py.decimal self.amountValue.val = some (.finite false digits exponent) →
        exponent < -MAX_DECIMAL_PLACES) →
    ∃ message, self.amountMicros py = .error (.mandateError message)
  errors : ∀ e, self.amountMicros py = .error e → ∃ message, e = .mandateError message
  bounded : ∀ digits shift, self.scaling py = .ok (digits, shift) → 0 ≤ shift ∧ shift ≤ 26
  reached : self.amountMicros py = self.scaling py >>= self.scaled py

/-- **Amounts are exact, complete and bounded.** -/
theorem amountMicros_exact (py : Python) (self : AP2Mandate)
    (hcurrency : py.upper self.currency.val = "USD")
    (hdecimal : py.DecimalDocumented self.amountValue.val) : AmountExact py self := by
  refine ⟨?_, ?_, ?_, ?_, ?_, ?_, AP2Mandate.amountMicros_eq_scaling py self⟩
  · intro digits exponent hfinite hplaces hnonzero hfits
    have htotal := digits_le_of_fits (hdecimal _ _ _ hfinite) hplaces hnonzero hfits
    exact ⟨htotal, (AP2Mandate.amountMicros_ok_iff hcurrency).mpr
      ⟨digits, exponent, hfinite, hplaces, htotal, hfits, rfl⟩⟩
  · intro digits exponent hfinite hexceeds
    refine AP2Mandate.amountMicros_rejects hcurrency ?_
    intro micros hok
    obtain ⟨digits', exponent', hfinite', _, _, hfits, _⟩ :=
      (AP2Mandate.amountMicros_ok_iff hcurrency).mp hok
    cases hfinite.symm.trans hfinite'
    omega
  · intro digits exponent hfinite hplaces hzero
    obtain rfl := (hdecimal _ _ _ hfinite).zero_iff.mp hzero
    have hmicros : microsOf [0] exponent = 0 := by
      unfold microsOf
      rw [hzero]
      simp
    split
    · rename_i htotal
      refine (AP2Mandate.amountMicros_ok_iff hcurrency).mpr
        ⟨[0], exponent, hfinite, hplaces, ?_, ?_, hmicros.symm⟩
      · simpa using htotal
      · rw [hmicros]
        decide
    · rename_i htotal
      refine AP2Mandate.amountMicros_rejects hcurrency ?_
      intro micros hok
      obtain ⟨digits', exponent', hfinite', _, htotal', _⟩ :=
        (AP2Mandate.amountMicros_ok_iff hcurrency).mp hok
      cases hfinite.symm.trans hfinite'
      simp only [List.length_singleton, Nat.cast_one] at htotal'
      exact htotal htotal'
  · intro hmalformed
    refine AP2Mandate.amountMicros_rejects hcurrency ?_
    intro micros hok
    obtain ⟨digits, exponent, hfinite, hplaces, _⟩ :=
      (AP2Mandate.amountMicros_ok_iff hcurrency).mp hok
    have hshort := hmalformed digits exponent hfinite
    omega
  · intro e herror
    exact AP2Mandate.amountMicros_error hcurrency herror
  · intro digits shift hscaling
    obtain ⟨exponent, hfinite, hplaces, htotal, rfl⟩ :=
      (AP2Mandate.scaling_ok_iff hcurrency).mp hscaling
    have hlength := (hdecimal _ _ _ hfinite).length_pos
    simp only [MAX_INTEGER_DIGITS, MAX_DECIMAL_PLACES] at *
    omega

theorem amountMicros_exact_sample : AmountExact .sample .sample := by
  refine amountMicros_exact .sample .sample (by decide) ?_
  rintro sign digits exponent hfinite
  cases hfinite
  exact Or.inr ⟨1, [0, 0, 0], rfl, by decide⟩

end CyclesAP2
