import AutocadMcp.Lib.Checked
import AutocadMcp.Lib.JsonOrder
import Mathlib.Data.Char
import Mathlib.Data.List.Lex

/-!
# Canonical JSON

The values that `json.dumps` takes, the bounds that `validate_bounded_json` puts on
them and the text that `canonical_json` makes of them. A float is carried as its
shortest text, which is a number of the JSON grammar with a finite value.
-/

namespace AutocadMcp.CanonicalJson

open JsonText

/-- Numbers from here on are rounded to an infinite double. -/
def doubleOverflow : Rat := 2 ^ 1024 - 2 ^ 970

/-- `double.IsFinite` of the parsed text, and the same for a Python float. -/
def isFiniteDouble (raw : List Char) : Bool :=
  -doubleOverflow < numberValue raw ∧ numberValue raw < doubleOverflow

/-- The text that `float.__repr__` gives for a finite float. -/
structure FloatRepr where
  text : List Char
  isNumber : isNumber text = true
  finite : isFiniteDouble text = true

inductive Value where
  | none
  | bool (b : Bool)
  | int (n : Int)
  | float (r : FloatRepr)
  /-- An infinity or not a number. -/
  | nonFinite
  | str (s : List Char)
  | list (items : List Value)
  | dict (members : List (List Char × Value))

def maxJsonDepth : Nat := 16

def maxJsonContainerItems : Nat := 10000

def maxJsonStringBytes : Nat := 65536

def maxJsonKeyBytes : Nat := 256

/-- `len(value.encode("utf-8"))`. -/
def utf8Length (s : List Char) : Nat := (s.map Char.utf8Size).sum

mutual

/-- `validate_bounded_json(value, _depth=depth)`. -/
def validateBoundedJson (depth : Nat) : Value → Except String Unit
  | .none | .bool _ | .int _ | .float _ =>
      check (depth ≤ maxJsonDepth) "JSON nesting exceeds the protocol limit"
  | .nonFinite => do
      check (depth ≤ maxJsonDepth) "JSON nesting exceeds the protocol limit"
      .error "JSON numbers must be finite"
  | .str s => do
      check (depth ≤ maxJsonDepth) "JSON nesting exceeds the protocol limit"
      check (utf8Length s ≤ maxJsonStringBytes) "JSON string exceeds the protocol limit"
  | .list items => do
      check (depth ≤ maxJsonDepth) "JSON nesting exceeds the protocol limit"
      check (items.length ≤ maxJsonContainerItems) "JSON list exceeds the protocol limit"
      validateItems depth items
  | .dict members => do
      check (depth ≤ maxJsonDepth) "JSON nesting exceeds the protocol limit"
      check (members.length ≤ maxJsonContainerItems) "JSON object exceeds the protocol limit"
      validateMembers depth members

def validateItems (depth : Nat) : List Value → Except String Unit
  | [] => .ok ()
  | item :: items => do
      validateBoundedJson (depth + 1) item
      validateItems depth items

def validateMembers (depth : Nat) : List (List Char × Value) → Except String Unit
  | [] => .ok ()
  | (key, item) :: members => do
      check (key ≠ [] ∧ utf8Length key ≤ maxJsonKeyBytes)
        "JSON object key exceeds the protocol limit"
      validateBoundedJson (depth + 1) item
      validateMembers depth members

end

/-! ## The text -/

mutual

def toDoc : Value → Doc
  | .none | .nonFinite => .null
  | .bool b => .bool b
  | .int n => .number (intText n)
  | .float r => .number r.text
  | .str s => .string s
  | .list items => .array (docItems items)
  | .dict members => .object (docMembers members)

def docItems : List Value → List Doc
  | [] => []
  | item :: items => toDoc item :: docItems items

def docMembers : List (List Char × Value) → List (List Char × Doc)
  | [] => []
  | (key, item) :: members => (key, toDoc item) :: docMembers members

end

mutual

/-- The integers of a value. -/
def Value.ints : Value → List Int
  | .int n => [n]
  | .list items => intsOfItems items
  | .dict members => intsOfMembers members
  | _ => []

def intsOfItems : List Value → List Int
  | [] => []
  | item :: items => item.ints ++ intsOfItems items

def intsOfMembers : List (List Char × Value) → List Int
  | [] => []
  | (_, item) :: members => item.ints ++ intsOfMembers members

end

/-- `sys.get_int_max_str_digits()`. -/
def intMaxStrDigits : Nat := 4300

/-- How `json.dumps(…, ensure_ascii=False)` writes a character of a string. -/
def dumpsForm (c : Char) : Form :=
  match shortLetter c with
  | some letter => .short letter
  | none => if c.toNat < 0x20 then .hex false else .raw

/-- The order of Python strings. -/
def codePointLe (a b : List Char) : Bool := a ≤ b

/-- `json.dumps(value, ensure_ascii=False, sort_keys=True, separators=(",", ":"))`. -/
def dumps (v : Value) : Except String (List Char) := do
  check (∀ n ∈ v.ints, (Nat.toDigits 10 n.natAbs).length ≤ intMaxStrDigits)
    "Exceeds the limit (4300 digits) for integer string conversion"
  return write (fun c => (dumpsForm c).encode c) (sortKeys codePointLe (toDoc v))

/-- `canonical_json`. -/
def canonicalJson (v : Value) : Except String (List Char) := do
  validateBoundedJson 0 v
  dumps v

/-! ## What the text says -/

theorem short_or_raw {c : Char} {P : Form → Prop}
    (hshort : ∀ letter, shortLetter c = some letter → P (.short letter))
    (hhex : shortLetter c = none → c.toNat < 0x20 → P (.hex false))
    (hraw : shortLetter c = none → 0x20 ≤ c.toNat → P .raw) : P (dumpsForm c) := by
  unfold dumpsForm
  cases hletter : shortLetter c with
  | some letter => exact hshort letter hletter
  | none =>
      simp only
      split
      · exact hhex hletter ‹_›
      · exact hraw hletter (Nat.le_of_not_lt ‹_›)

/-- A quote and a backslash have short escapes. -/
theorem ne_of_shortLetter_none {c : Char} (h : shortLetter c = none) : c ≠ '"' ∧ c ≠ '\\' := by
  constructor <;> rintro rfl <;> revert h <;> decide

theorem dumpsForm_allowed (c : Char) : (dumpsForm c).allowed c :=
  short_or_raw (P := fun form => form.allowed c) (fun _ h => h) (fun _ _ => trivial)
    fun h hlow => ⟨hlow, ne_of_shortLetter_none h⟩

theorem codePointLe_order : KeyOrder codePointLe where
  total a b := by
    simp only [codePointLe, Bool.or_eq_true, decide_eq_true_eq]
    exact le_total a b
  trans a b c hab hbc := by
    simp only [codePointLe, decide_eq_true_eq] at *
    exact le_trans hab hbc
  antisymm a b hab hba := by
    simp only [codePointLe, decide_eq_true_eq] at *
    exact le_antisymm hab hba

section

variable {P : List Char → Prop}

mutual

/-- The texts of floats apart, the numbers of the text are those of the integers. -/
theorem forall_numbers_iff (hfloat : ∀ r : FloatRepr, P r.text) : ∀ v : Value,
    (∀ raw ∈ (toDoc v).numbers, P raw) ↔ ∀ n ∈ v.ints, P (intText n)
  | .none | .nonFinite | .bool _ | .str _ => by simp [toDoc, Doc.numbers, Doc.collect, Value.ints]
  | .int n => by simp [toDoc, Doc.numbers, Doc.collect, Value.ints]
  | .float r => by simpa [toDoc, Doc.numbers, Doc.collect, Value.ints] using hfloat r
  | .list items => forall_numbersOfItems_iff hfloat items
  | .dict members => forall_numbersOfMembers_iff hfloat members

theorem forall_numbersOfItems_iff (hfloat : ∀ r : FloatRepr, P r.text) : ∀ items : List Value,
    (∀ raw ∈ collectItems (fun _ => []) (fun raw => [raw]) (docItems items), P raw) ↔
      ∀ n ∈ intsOfItems items, P (intText n)
  | [] => by simp [docItems, collectItems, intsOfItems]
  | item :: items => by
      rw [docItems, collectItems, intsOfItems, List.forall_mem_append, List.forall_mem_append,
        ← forall_numbers_iff hfloat item, forall_numbersOfItems_iff hfloat items, Doc.numbers]

theorem forall_numbersOfMembers_iff (hfloat : ∀ r : FloatRepr, P r.text) :
    ∀ members : List (List Char × Value),
    (∀ raw ∈ collectMembers (fun _ => []) (fun raw => [raw]) (docMembers members), P raw) ↔
      ∀ n ∈ intsOfMembers members, P (intText n)
  | [] => by simp [docMembers, collectMembers, intsOfMembers]
  | (_, item) :: members => by
      rw [docMembers, collectMembers, intsOfMembers, List.nil_append, List.forall_mem_append,
        List.forall_mem_append, ← forall_numbers_iff hfloat item,
        forall_numbersOfMembers_iff hfloat members, Doc.numbers]

end

end

theorem toDoc_valid (v : Value) : (toDoc v).valid = true := by
  rw [Doc.valid_iff, forall_numbers_iff FloatRepr.isNumber]
  exact fun n _ => isNumber_intText n

/-- An integer that a double can hold, rounded. -/
def fitsDouble (n : Int) : Prop := -(2 ^ 1024 - 2 ^ 970) < n ∧ n < 2 ^ 1024 - 2 ^ 970

theorem isFiniteDouble_intText (n : Int) : isFiniteDouble (intText n) = true ↔ fitsDouble n := by
  have hoverflow : doubleOverflow = ((2 ^ 1024 - 2 ^ 970 : Int) : Rat) := by
    simp only [doubleOverflow, Int.cast_sub, Int.cast_pow, Int.cast_ofNat]
  rw [isFiniteDouble, decide_eq_true_eq, numberValue_intText, hoverflow, ← Int.cast_neg,
    Int.cast_lt, Int.cast_lt, fitsDouble]

/-- The numbers of the text are finite doubles exactly when the integers are. -/
theorem numbers_finite_iff (v : Value) :
    (∀ raw ∈ (toDoc v).numbers, isFiniteDouble raw = true) ↔ ∀ n ∈ v.ints, fitsDouble n := by
  rw [forall_numbers_iff FloatRepr.finite]
  exact forall₂_congr fun n _ => isFiniteDouble_intText n

/-- What is sent is the sorted document in Python's encoding. -/
theorem canonicalJson_eq_ok {v : Value} {text : List Char} (h : canonicalJson v = .ok text) :
    text = write (fun c => (dumpsForm c).encode c) (sortKeys codePointLe (toDoc v)) := by
  obtain ⟨_, _, h⟩ := bind_eq_ok.mp h
  obtain ⟨_, _, h⟩ := bind_eq_ok.mp h
  cases h
  rfl

end AutocadMcp.CanonicalJson
