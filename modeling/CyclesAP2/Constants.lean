import Mathlib

/-!
# Constants of the AP2 to Cycles mapping
-/

namespace CyclesAP2

def DEFAULT_ACTION_KIND : String := "payment.charge"
def DEFAULT_ACTION_NAME : String := "ap2.payment_mandate.present"

/-! ### Keys of `Subject.dimensions` -/

def DIM_RUN_ID : String := "run_id"
def DIM_AP2_TRANSACTION_ID : String := "ap2_transaction_id"
def DIM_CHECKOUT_HASH : String := "checkout_hash"
def DIM_OPEN_MANDATE_HASH : String := "open_mandate_hash"
def DIM_PAYEE_WEBSITE : String := "payee_website"
def DIM_PAYMENT_CURRENCY : String := "payment_currency"
def DIM_PAYMENT_PROTOCOL : String := "payment_protocol"

def PAYMENT_PROTOCOL_VALUE : String := "ap2"

/-! ### Lifecycle defaults and the receipt schema -/

def DEFAULT_TTL_MS : Int := 60000
def DEFAULT_OVERAGE_POLICY : String := "REJECT"
def RECEIPT_SCHEMA : String := "runtime_authority.ap2.payment.charge.v1"

/-! ### Idempotency keys -/

def IDEMPOTENCY_PREFIX : String := "ap2"
def IDEMPOTENCY_SCOPE_OPEN_MANDATE : String := "open_mandate"
def IDEMPOTENCY_SCOPE_TRANSACTION : String := "tx"
def TRANSACTION_ID_HASH_LEN : Nat := 32

/-- The unit of every amount on the wire and in the receipt: `10^-8` USD. -/
def USD_MICROCENTS : String := "USD_MICROCENTS"

/-- `Amount.amount` is an int64. -/
def MAX_USD_MICROS : Int := 2 ^ 63 - 1

def MAX_DECIMAL_PLACES : Int := 8
def MAX_INTEGER_DIGITS : Int := 19

end CyclesAP2
