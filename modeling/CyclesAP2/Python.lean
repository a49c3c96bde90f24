import Mathlib

/-!
# Python values and the standard library

Texts are Lean strings (Unicode scalar values), integers are unbounded, and a
`dict` is a finite map: two dicts are equal when they hold the same entries,
whatever the insertion order.  A dict that the code iterates over is an
association list without repeated keys.

What the code takes from Python's standard library and from the interpreter is
collected in `Python`: the SHA-256 digest, Unicode upper-casing, the decimal
constructor and `repr`.  Nothing is assumed of these functions here; a theorem
that relies on their documented behaviour says so.
-/

namespace CyclesAP2

/-- How `except` clauses see an exception: an `Exception`, an
    `asyncio.CancelledError`, or another direct `BaseException`. -/
inductive ExcKind where
  | exception
  | cancelledError
  | baseException
deriving DecidableEq, Repr

/-- An exception object raised by code outside this package: how it can be
    caught, `type(exc).__name__` and `str(exc)`.  Of the exceptions of the client it is
    assumed that `str` gives a text for them and does not raise. -/
structure Raised where
  kind : ExcKind
  typeName : String
  text : String
deriving DecidableEq, Repr

/-- A Python value of any type, as far as the code looks at it.  An instance of a subclass
    of `str` is a `str`, as `isinstance` has it.  Two values are equal when their types and
    their `repr`s are, which is finer than equality of their JSON. -/
inductive PyValue where
  | none
  | bool (b : Bool)
  | int (n : Int)
  | str (s : String)
  | other (typeName repr : String)
deriving DecidableEq, Repr

def PyValue.typeName : PyValue → String
  | .none => "NoneType"
  | .bool _ => "bool"
  | .int _ => "int"
  | .str _ => "str"
  | .other typeName _ => typeName

/-- What `Decimal(text)` constructs: a NaN or an infinity, or a finite number
    given by its sign (`true` for a minus sign), digits and exponent. -/
inductive DecimalValue where
  | special
  | finite (sign : Bool) (digits : List Nat) (exponent : Int)
deriving DecidableEq, Repr

/-- `sha256Hexdigest` is `hashlib.sha256(value.encode("utf-8")).hexdigest()`; `decimal`
    is `Decimal(text)`, with no value when it raises `DecimalException` or
    `ValueError`; `reprText` is `repr` of a text, and `repr` that of any value, which
    may itself raise. -/
structure Python where
  sha256Hexdigest : String → String
  upper : String → String
  decimal : String → Option DecimalValue
  reprText : String → String
  repr : PyValue → Except Raised String

/-- An interpreter that agrees with the real one on the texts of the examples in
    this development. -/
def Python.sample : Python where
  sha256Hexdigest value :=
    if value = "tx-1" then "045ef594d81d2f2134d61151ed71260d8f79e657c7cb6ed1d893688532017409"
    else if value = "tx-2" then "0ab25f3049004ce5969100672c92a2768481db2abf7e0267a3b0828a639d5f75"
    else "74980e4294d91893154ac755800514aa3ddecfec3de64f727450e3f122de72c7"
  upper value := String.ofList (value.toList.map Char.toUpper)
  decimal value :=
    if value = "10.00" then some (.finite false [1, 0, 0, 0] (-2))
    else if value = "25.00" then some (.finite false [2, 5, 0, 0] (-2))
    else none
  reprText value := "'" ++ value ++ "'"
  repr value := .ok <| match value with
    | .none => "None"
    | .bool true => "True"
    | .bool false => "False"
    | .int n => toString n
    | .str s => "'" ++ s ++ "'"
    | .other _ repr => repr

/-! ### Dicts -/

abbrev Texts := Finmap fun _ : String => String

abbrev Fields := Finmap fun _ : String => PyValue

/-- The items of a `dict[str, str]` in iteration order. -/
abbrev TextItems := AList fun _ : String => String

/-- The items of keyword arguments in iteration order.  A keyword `self` cannot be among
    those of a method. -/
abbrev FieldItems := AList fun _ : String => PyValue

/-- `mapping or None`, and the test `if mapping:` -/
def truthyFields (fields : Option Fields) : Option Fields :=
  fields.filter fun entries => decide (entries ≠ ∅)

/-! ### Texts -/

/-- The test `if text:` on an optional text: present and non-empty. -/
def truthyText (text : Option String) : Option String :=
  text.filter fun s => decide (s ≠ "")

/-- `text[:n]` -/
def slice (text : String) (n : Nat) : String :=
  String.ofList (text.toList.take n)

@[simp] theorem toList_slice (text : String) (n : Nat) :
    (slice text n).toList = text.toList.take n := by
  simp [slice]

/-- Unicode white space, as stripped from validated texts. -/
def isWhitespace (c : Char) : Bool :=
  let n := c.toNat
  (9 ≤ n && n ≤ 13) || n == 0x20 || n == 0x85 || n == 0xA0 || n == 0x1680 ||
    (0x2000 ≤ n && n ≤ 0x200A) || n == 0x2028 || n == 0x2029 || n == 0x202F ||
    n == 0x205F || n == 0x3000

def strip (text : String) : String :=
  String.ofList ((text.toList.dropWhile isWhitespace).rdropWhile isWhitespace)

/-- A prefix of a list that starts with no white space does not either. -/
theorem dropWhile_of_prefix {p : Char → Bool} {start l : List Char} (h : start <+: l.dropWhile p) :
    start.dropWhile p = start := by
  obtain ⟨rest, hrest⟩ := h
  rcases start with _ | ⟨c, start⟩
  · rfl
  · have hne : l.dropWhile p ≠ [] := by
      rw [← hrest]
      exact List.cons_ne_nil _ _
    have hhead := List.head_dropWhile_not p hne
    simp only [← hrest, List.cons_append, List.head_cons] at hhead
    exact List.dropWhile_cons_of_neg (by simp [hhead])

theorem strip_strip (text : String) : strip (strip text) = strip text := by
  unfold strip
  rw [String.toList_ofList, dropWhile_of_prefix (List.rdropWhile_prefix ..),
    List.rdropWhile_idempotent]

/-- A text accepted by a model field with `min_length`, `max_length` and
    `str_strip_whitespace`: stripped, and of a length within the bounds. -/
structure BoundedText (minLength maxLength : Nat) where
  val : String
  min_length : minLength ≤ val.length := by decide
  max_length : val.length ≤ maxLength := by decide
  stripped : strip val = val := by decide
deriving DecidableEq

theorem BoundedText.val_inj {minLength maxLength : Nat} {text text' : BoundedText minLength maxLength} :
    text.val = text'.val ↔ text = text' := by
  constructor
  · intro h
    cases text
    cases text'
    cases h
    rfl
  · exact congrArg _

theorem BoundedText.ne_empty {maxLength : Nat} (text : BoundedText 1 maxLength) :
    text.val ≠ "" := by
  intro h
  have hlength := text.min_length
  rw [h] at hlength
  exact absurd hlength (by decide)

/-- The test `if text:` on an optional field is a test for `None`. -/
theorem truthyText_val {maxLength : Nat} (text : Option (BoundedText 1 maxLength)) :
    truthyText (text.map (·.val)) = text.map (·.val) := by
  cases text with
  | none => rfl
  | some text => simp [truthyText, text.ne_empty]

end CyclesAP2
