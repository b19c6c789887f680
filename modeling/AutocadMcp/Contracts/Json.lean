/-!
# JSON values

The values that payloads, results and bindings carry. An object is the list of
its fields in key order, which is the form `sort_keys=True` stores, so two
objects are equal exactly when their lists are.
-/

namespace AutocadMcp

inductive Json where
  | null
  | bool (b : Bool)
  | num (q : Rat)
  | str (s : String)
  | arr (items : List Json)
  | obj (fields : List (String × Json))
  deriving Inhabited

namespace Json

mutual

def decEq : (a b : Json) → Decidable (a = b)
  | .null, .null => isTrue rfl
  | .bool a, .bool b => decidable_of_iff (a = b) (by simp)
  | .num a, .num b => decidable_of_iff (a = b) (by simp)
  | .str a, .str b => decidable_of_iff (a = b) (by simp)
  | .arr a, .arr b =>
      match decEqItems a b with
      | isTrue h => isTrue (h ▸ rfl)
      | isFalse h => isFalse (fun e => h (by injection e))
  | .obj a, .obj b =>
      match decEqFields a b with
      | isTrue h => isTrue (h ▸ rfl)
      | isFalse h => isFalse (fun e => h (by injection e))
  | .null, .bool _ | .null, .num _ | .null, .str _ | .null, .arr _ | .null, .obj _
  | .bool _, .null | .bool _, .num _ | .bool _, .str _ | .bool _, .arr _ | .bool _, .obj _
  | .num _, .null | .num _, .bool _ | .num _, .str _ | .num _, .arr _ | .num _, .obj _
  | .str _, .null | .str _, .bool _ | .str _, .num _ | .str _, .arr _ | .str _, .obj _
  | .arr _, .null | .arr _, .bool _ | .arr _, .num _ | .arr _, .str _ | .arr _, .obj _
  | .obj _, .null | .obj _, .bool _ | .obj _, .num _ | .obj _, .str _ | .obj _, .arr _ =>
      isFalse (fun e => by cases e)

def decEqItems : (xs ys : List Json) → Decidable (xs = ys)
  | [], [] => isTrue rfl
  | [], _ :: _ => isFalse (fun e => by cases e)
  | _ :: _, [] => isFalse (fun e => by cases e)
  | x :: xs, y :: ys =>
      match decEq x y, decEqItems xs ys with
      | isTrue h, isTrue hs => isTrue (by rw [h, hs])
      | isFalse h, _ => isFalse (fun e => h (by injection e))
      | _, isFalse hs => isFalse (fun e => hs (by injection e))

def decEqFields : (xs ys : List (String × Json)) → Decidable (xs = ys)
  | [], [] => isTrue rfl
  | [], _ :: _ => isFalse (fun e => by cases e)
  | _ :: _, [] => isFalse (fun e => by cases e)
  | (k, x) :: xs, (l, y) :: ys =>
      match decEq x y, decEqFields xs ys with
      | isTrue h, isTrue hs =>
          if hk : k = l then isTrue (by rw [h, hs, hk])
          else isFalse (fun e => hk (by injection e with e _; injection e))
      | isFalse h, _ => isFalse (fun e => h (by injection e with e _; injection e))
      | _, isFalse hs => isFalse (fun e => hs (by injection e))

end

instance : DecidableEq Json := decEq

/-- `value.get(key)`: the field of an object, nothing for any other value. -/
def get? : Json → String → Option Json
  | .obj fields, key => (fields.find? (fun f => f.1 == key)).map Prod.snd
  | _, _ => none

/-- `isinstance(value, dict)`. -/
def isDict : Json → Bool
  | .obj _ => true
  | _ => false

def isList : Json → Bool
  | .arr _ => true
  | _ => false

def str? : Json → Option String
  | .str s => some s
  | _ => none

/-- `value.get(key)` when the field is itself an object. -/
def dict? (value : Json) (key : String) : Option Json :=
  (value.get? key).filter isDict

/-- Python truth: empty containers, zero and `None` are false. -/
def truthy : Json → Bool
  | .null => false
  | .bool b => b
  | .num q => q ≠ 0
  | .str s => s ≠ ""
  | .arr items => !items.isEmpty
  | .obj fields => !fields.isEmpty

end Json

end AutocadMcp
