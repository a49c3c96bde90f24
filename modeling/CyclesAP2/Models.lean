import CyclesAP2.Constants
import CyclesAP2.Exceptions

/-!
# The AP2 mandate and the runtime-authority receipt

`AP2Mandate` carries the constraints of its model fields, so a value of the type
is a validly constructed mandate.  `amountMicros` converts the decimal text of
the mandate to an integer number of USD micro-cents; it works on the digits and
the exponent of the parsed decimal, never on decimal arithmetic.
-/

namespace CyclesAP2

/-- Adapter view over an AP2 PaymentMandate, with the optional hashes of its
    CheckoutMandate and of its open mandate. -/
structure AP2Mandate where
  transactionId : BoundedText 1 256
  amountValue : BoundedText 1 64
  currency : BoundedText 3 3
  payeeWebsite : BoundedText 1 253
  checkoutHash : Option (BoundedText 1 256) := none
  openMandateHash : Option (BoundedText 1 256) := none
deriving DecidableEq

/-- A mandate of the examples, locked by its transaction id. -/
def AP2Mandate.sample : AP2Mandate where
  transactionId := { val := "tx-1" }
  amountValue := { val := "10.00" }
  currency := { val := "USD" }
  payeeWebsite := { val := "shop.example" }

/-- A mandate of the examples, locked by its open mandate. -/
def AP2Mandate.sampleOpen : AP2Mandate :=
  { AP2Mandate.sample with openMandateHash := some { val := "open-1" } }

def digitsValue (digits : List Nat) : Nat :=
  digits.foldl (fun value digit => value * 10 + digit) 0

/-- Convert `amount_value` (a decimal text in major units) to USD micro-cents. -/
def AP2Mandate.amountMicros (py : Python) (self : AP2Mandate) : Except PyExc Int :=
  let shown := py.reprText self.amountValue.val
  if py.upper self.currency.val ≠ "USD" then
    .error (.currencyError (s!"v0.1 supports USD only; got {py.reprText self.currency.val}. " ++
      "Multi-currency lands in v0.2."))
  else
    match py.decimal self.amountValue.val with
    | none => .error (.mandateError s!"amount_value {shown} is not a valid decimal")
    | some .special => .error (.mandateError s!"amount_value must be finite; got {shown}")
    | some (.finite sign digits exponent) =>
      -- `value < 0`: a minus sign over a non-zero coefficient
      if sign && digits.any (· ≠ 0) then
        .error (.mandateError "amount_value must be non-negative")
      else if exponent < -MAX_DECIMAL_PLACES then
        .error (.mandateError (s!"amount_value {shown} has more than {MAX_DECIMAL_PLACES} " ++
          "decimal places; sub-micro precision would be lost"))
      else
        let totalIntegerDigits : Int := digits.length + max 0 exponent
        if totalIntegerDigits > MAX_INTEGER_DIGITS then
          .error (.mandateError (s!"amount_value {shown} exceeds int64 USD micro-cent range " ++
            s!"({totalIntegerDigits} integer digits > {MAX_INTEGER_DIGITS} max)"))
        -- a negative zero passes `value < 0` and is rejected here
        else if sign then
          .error (.mandateError "amount_value must be non-negative")
        else
          let shift := exponent + MAX_DECIMAL_PLACES
          let scale : Nat := 10 ^ shift.toNat
          let micros : Int := (digitsValue digits * scale : Nat)
          if micros > MAX_USD_MICROS then
            .error (.mandateError (s!"amount_value {shown} exceeds int64 USD micro-cent max " ++
              s!"({micros} > {MAX_USD_MICROS})"))
          else .ok micros

/-- The routing context in the receipt, in the shape of `Action.policy_keys`: the host,
    and the two entries of `custom`. -/
structure PolicyKeys where
  host : String
  paymentProtocol : String
  paymentCurrency : String
deriving DecidableEq

/-- Client-side runtime-authority receipt produced after a successful guarded
    payment.  The fields have the types that the model validates, so that building one
    cannot fail. -/
structure RuntimeAuthorityReceipt where
  schemaName : String
  decision : String
  reservationId : String
  tenant : Option String
  agent : Option String
  ap2TransactionId : String
  checkoutHash : Option String
  actionKind : String
  amountUnit : String
  amountMicros : Int
  policyKeys : PolicyKeys
  issuedAtMs : Int
  committed : Bool
  pspRef : Option String
  extra : Option Fields
deriving DecidableEq

/-- Build a receipt that callers can persist beside AP2 dispute evidence.
    `clock` is the reading of `int(time.time() * 1000)`, used when the caller
    passes no time. -/
def buildRuntimeAuthorityReceipt (mandate : AP2Mandate) (decision reservationId : String)
    (tenant agent : Option String) (actionKind : String) (policyKeys : PolicyKeys)
    (amountMicros : Int) (committed : Bool) (pspRef : Option String) (extra : Option Fields)
    (issuedAtMs : Option Int) (clock : Int) : RuntimeAuthorityReceipt where
  schemaName := RECEIPT_SCHEMA
  decision := decision
  reservationId := reservationId
  tenant := tenant
  agent := agent
  ap2TransactionId := mandate.transactionId.val
  checkoutHash := mandate.checkoutHash.map (·.val)
  actionKind := actionKind
  amountUnit := USD_MICROCENTS
  amountMicros := amountMicros
  policyKeys := policyKeys
  issuedAtMs := issuedAtMs.getD clock
  committed := committed
  pspRef := pspRef
  extra := extra

end CyclesAP2
