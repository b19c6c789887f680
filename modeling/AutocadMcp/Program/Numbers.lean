import AutocadMcp.Lib.Checked
import AutocadMcp.Lib.Decimal

/-!
# Numbers and names of a CAD Program

The texts of `phase8_contracts.py` that stand for numbers, and the values they
are normalized to: millimetres, radians and plain numbers with nine decimal
places.
-/

namespace AutocadMcp.Program

open AutocadMcp.Decimal

/-- What a validator or the compiler raises: the message of a `ValueError`. -/
abbrev Invalid := String

/-! ## Names -/

def isIdentifierChar (c : Char) : Bool := c.isAlphanum || c = '.' || c = '_' || c = '-'

/-- `_IDENTIFIER`. -/
def isIdentifier (text : String) : Bool :=
  match text.toList with
  | [] => false
  | c :: cs => c.isAlphanum && cs.length ≤ 127 && cs.all isIdentifierChar

/-- The characters with the `White_Space` property, which `\S` excludes. -/
def isSpace (c : Char) : Bool :=
  c.toNat ∈ [0x20, 0x85, 0xa0, 0x1680, 0x2028, 0x2029, 0x202f, 0x205f, 0x3000] ||
    (0x09 ≤ c.toNat && c.toNat ≤ 0x0d) || (0x2000 ≤ c.toNat && c.toNat ≤ 0x200a)

/-- `_REVISION`. -/
def isRevision (text : String) : Bool :=
  1 ≤ text.length && text.length ≤ 256 && text.toList.all fun c => !isSpace c

/-- `_SHA256`. -/
def isDigest (text : String) : Bool :=
  "sha256:".toList <+: text.toList && text.length = 71 &&
    (text.toList.drop 7).all fun c => c.isDigit || ('a' ≤ c && c ≤ 'f')

def layerNameStops : List Char :=
  ['<', '>', '/', '\\', '"', ':', ';', '?', '*', '|', '=', Char.ofNat 0x60]

/-- `_LAYER_NAME`. -/
def isLayerName (text : String) : Bool :=
  1 ≤ text.length && text.length ≤ 255 &&
    text.toList.all fun c => c ∉ layerNameStops && 0x20 ≤ c.toNat

/-! ## Decimal texts -/

def digitsValue (digits : List Char) : Nat :=
  digits.foldl (fun n c => 10 * n + (c.toNat - '0'.toNat)) 0

/-- The value of a text that matches `_DECIMAL`. -/
def decimal? (text : String) : Option Rat :=
  let (negative, body) : Bool × List Char :=
    match text.toList with
    | '-' :: rest => (true, rest)
    | rest => (false, rest)
  let whole := body.takeWhile Char.isDigit
  let (fits, fraction) : Bool × List Char :=
    match body.dropWhile Char.isDigit with
    | [] => (true, [])
    | '.' :: rest => (1 ≤ rest.length && rest.length ≤ 18 && rest.all Char.isDigit, rest)
    | _ => (false, [])
  let value : Rat := digitsValue whole + digitsValue fraction / 10 ^ fraction.length
  if fits && (whole = ['0'] || (whole.head?.any (· ≠ '0') && whole.length ≤ 19)) then
    some (if negative then -value else value)
  else none

/-- `DecimalText`. -/
def isDecimalText (text : String) : Bool := (decimal? text).isSome && text.length ≤ 40

def maxLiteralAbs : Rat := 1000000000000

def maxNormalizedAbs : Rat := 1000000000

/-- `_parse_decimal`. -/
def parseDecimal (text : String) : Except Invalid Rat :=
  match decimal? text with
  | none => throw "invalid canonical decimal"
  | some value => do
      check (|value| ≤ maxLiteralAbs) "decimal is non-finite or exceeds literal ceiling"
      return value

/-- `_QUANTUM`. -/
def quantum : Rat := 1 / 1000000000

/-- `_normalize`; a canonical text stands for its value. -/
def normalize (value : Rat) : Except Invalid Rat := do
  check (|value| ≤ maxNormalizedAbs) "normalized number exceeds compiler ceiling"
  return roundTo quantum value

/-- `_PI`. -/
def piText : Rat :=
  31415926535897932384626433832795028841971693993751 / 10000000000000000000000000000000000000000000000000

/-- An operation on decimals in the default context. -/
def inDefault (value : Rat) : Rat := inContext 28 value

inductive NumericType where
  | integer
  | scalar
  | length
  | angle
  deriving DecidableEq, Repr

namespace NumericType

def name : NumericType → String
  | .integer => "integer"
  | .scalar => "scalar"
  | .length => "length"
  | .angle => "angle"

/-- `type in ("scalar", "integer")`. -/
def isPlain : NumericType → Bool
  | .integer | .scalar => true
  | .length | .angle => false

end NumericType

/-- `LengthUnit` and `AngleUnit`. -/
inductive NumericUnit where
  | mm
  | cm
  | m
  | inch
  | ft
  | rad
  | deg
  deriving DecidableEq, Repr

namespace NumericUnit

def name : NumericUnit → String
  | .mm => "mm"
  | .cm => "cm"
  | .m => "m"
  | .inch => "in"
  | .ft => "ft"
  | .rad => "rad"
  | .deg => "deg"

/-- What a value with this unit is. -/
def measures : NumericUnit → NumericType
  | .rad | .deg => .angle
  | _ => .length

/-- A unit in millimetres. -/
def factor : NumericUnit → Rat
  | .cm => 10
  | .m => 1000
  | .inch => 254 / 10
  | .ft => 3048 / 10
  | _ => 1

end NumericUnit

structure NumericValue where
  type : NumericType
  value : String
  unit : Option NumericUnit
  deriving DecidableEq

/-- `NumericValue._unit_matches_type`. -/
def NumericValue.unitMatchesType (v : NumericValue) : Except Invalid Unit := do
  check (v.type = .length → ∃ unit ∈ v.unit, unit.measures = .length)
    "length values require an explicit length unit"
  check (v.type = .angle → ∃ unit ∈ v.unit, unit.measures = .angle)
    "angle values require an explicit angle unit"
  check (v.type.isPlain = true → v.unit = none) "integer/scalar values cannot carry a unit"
  let parsed ← parseDecimal v.value
  check (¬ (parsed = 0 ∧ v.value.toList.head? = some '-')) "negative zero is not canonical"
  check (v.type = .integer → parsed = roundHalfEven parsed) "integer values must be integral"

/-- `_Evaluated`. -/
structure Evaluated where
  type : NumericType
  value : Rat
  deriving DecidableEq

/-- `_normalize_value`. -/
def normalizeValue (v : NumericValue) : Except Invalid Evaluated := do
  let raw ← parseDecimal v.value
  let raw :=
    match v.type, v.unit with
    | .length, some unit => inDefault (raw * unit.factor)
    | .angle, some .deg => inDefault (inDefault (raw * piText) / 180)
    | _, _ => raw
  return ⟨v.type, ← normalize raw⟩

theorem quantum_pos : 0 < quantum := by
  norm_num [quantum]

/-- Normalization moves a number by at most half of the ninth decimal place. -/
theorem normalize_near {value normalized : Rat} (h : normalize value = .ok normalized) :
    |normalized - value| ≤ quantum / 2 := by
  obtain ⟨_, -, h⟩ := bind_eq_ok.mp h
  cases h
  exact roundTo_near quantum_pos value

/-- A normalized number that is normalized again stays as it is. -/
theorem normalize_again {value normalized again : Rat} (h : normalize value = .ok normalized)
    (h' : normalize normalized = .ok again) : again = normalized := by
  obtain ⟨_, -, h⟩ := bind_eq_ok.mp h
  obtain ⟨_, -, h'⟩ := bind_eq_ok.mp h'
  cases h
  cases h'
  exact roundTo_idem quantum_pos.ne' value

/-- The values that `_normalize` gives. -/
def Normalized (value : Rat) : Prop := ∃ k : Int, value = k * quantum ∧ |k| ≤ 1000000000000000000

theorem normalized_of_normalize {value result : Rat} (h : normalize value = .ok result) :
    Normalized result := by
  obtain ⟨_, hbound, h⟩ := bind_eq_ok.mp h
  rw [check_eq_ok] at hbound
  cases h
  have hnear := roundHalfEven_near (value / quantum)
  refine ⟨roundHalfEven (value / quantum), rfl, ?_⟩
  have hscaled : |value / quantum| ≤ 1000000000000000000 := by
    rw [abs_div, abs_of_pos quantum_pos, div_le_iff₀ quantum_pos]
    refine hbound.trans ?_
    norm_num [maxNormalizedAbs, quantum]
  have hround : |(roundHalfEven (value / quantum) : Rat)| < 1000000000000000001 := by
    have htriangle := abs_sub_abs_le_abs_sub (roundHalfEven (value / quantum) : Rat)
      (value / quantum)
    linarith
  have hint : |roundHalfEven (value / quantum)| < 1000000000000000001 := by
    exact_mod_cast hround
  omega

end AutocadMcp.Program
