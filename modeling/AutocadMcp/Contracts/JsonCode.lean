import AutocadMcp.Contracts.Json
import Mathlib.Data.Rat.Encodable
import Mathlib.Logic.Equiv.List

/-!
# A number for each JSON value

`number` is a digest that no two values share, for the samples of code that takes a
digest which tells values apart.
-/

namespace AutocadMcp.Json

def textCode (s : String) : Nat := Encodable.encode (s.toList.map Char.toNat)

theorem textCode_injective : Function.Injective textCode := by
  have hchar : Function.Injective Char.toNat := fun _ _ h => Char.ext (UInt32.toNat_inj.mp h)
  exact fun s t h => String.toList_injective (hchar.list_map (Encodable.encode_injective h))

mutual

/-- A code that says where it ends. -/
def code : Json → List Nat
  | .null => [0]
  | .bool b => [1, b.toNat]
  | .num q => [2, Encodable.encode q]
  | .str s => [3, textCode s]
  | .arr items => 4 :: items.length :: codeItems items
  | .obj fields => 5 :: fields.length :: codeFields fields

def codeItems : List Json → List Nat
  | [] => []
  | item :: items => code item ++ codeItems items

def codeFields : List (String × Json) → List Nat
  | [] => []
  | (key, value) :: fields => textCode key :: (code value ++ codeFields fields)

end

mutual

theorem code_inj : ∀ (a b : Json) {xs ys : List Nat}, code a ++ xs = code b ++ ys → a = b ∧ xs = ys
  | .null, b, xs, ys, h => by cases b <;> simp_all [code]
  | .bool a, b, xs, ys, h => by
      cases b <;> simp [code] at h
      next c => cases a <;> cases c <;> simp_all
  | .num p, b, xs, ys, h => by cases b <;> simp_all [code]
  | .str s, b, xs, ys, h => by
      cases b <;> simp [code] at h
      exact ⟨congrArg _ (textCode_injective h.1), h.2⟩
  | .arr items, b, xs, ys, h => by
      cases b <;> simp [code] at h
      obtain ⟨rfl, hrest⟩ := codeItems_inj items _ h.1 h.2
      exact ⟨rfl, hrest⟩
  | .obj fields, b, xs, ys, h => by
      cases b <;> simp [code] at h
      obtain ⟨rfl, hrest⟩ := codeFields_inj fields _ h.1 h.2
      exact ⟨rfl, hrest⟩

theorem codeItems_inj : ∀ (as bs : List Json) {xs ys : List Nat}, as.length = bs.length →
    codeItems as ++ xs = codeItems bs ++ ys → as = bs ∧ xs = ys
  | [], [], xs, ys, _, h => ⟨rfl, h⟩
  | [], _ :: _, _, _, hlen, _ => nomatch hlen
  | _ :: _, [], _, _, hlen, _ => nomatch hlen
  | a :: as, b :: bs, xs, ys, hlen, h => by
      simp only [codeItems, List.append_assoc] at h
      obtain ⟨rfl, hrest⟩ := code_inj a b h
      obtain ⟨rfl, hend⟩ := codeItems_inj as bs (Nat.succ.inj hlen) hrest
      exact ⟨rfl, hend⟩

theorem codeFields_inj : ∀ (as bs : List (String × Json)) {xs ys : List Nat},
    as.length = bs.length → codeFields as ++ xs = codeFields bs ++ ys → as = bs ∧ xs = ys
  | [], [], xs, ys, _, h => ⟨rfl, h⟩
  | [], _ :: _, _, _, hlen, _ => nomatch hlen
  | _ :: _, [], _, _, hlen, _ => nomatch hlen
  | (k, a) :: as, (l, b) :: bs, xs, ys, hlen, h => by
      simp only [codeFields, List.cons_append, List.append_assoc, List.cons.injEq] at h
      obtain ⟨hkey, h⟩ := h
      obtain ⟨rfl, hrest⟩ := code_inj a b h
      obtain ⟨rfl, hend⟩ := codeFields_inj as bs (Nat.succ.inj hlen) hrest
      exact ⟨by rw [textCode_injective hkey], hend⟩

end

def number (value : Json) : Nat := Encodable.encode (code value)

theorem number_injective : Function.Injective number := by
  intro a b h
  have hcode : code a = code b := Encodable.encode_injective h
  exact (code_inj a b (congrArg (· ++ []) hcode)).1

end AutocadMcp.Json
