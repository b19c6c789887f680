import Mathlib.Data.UInt
import Mathlib.Data.List.Basic

/-!
# Base64

The URL-safe alphabet without padding as it is written, and the strict reader of both alphabets,
which takes one character at a time and wants its padding complete. What was written is read back.
-/

namespace AutocadMcp.Base64

/-- The character of six bits in the URL-safe alphabet. -/
def digit (n : Nat) : Char :=
  if n < 26 then Char.ofNat (65 + n)
  else if n < 52 then Char.ofNat (71 + n)
  else if n < 62 then Char.ofNat (n - 4)
  else if n = 62 then '-'
  else '_'

/-- The six bits of a character of either alphabet. -/
def value? (c : Char) : Option Nat :=
  if 'A' ≤ c ∧ c ≤ 'Z' then some (c.toNat - 65)
  else if 'a' ≤ c ∧ c ≤ 'z' then some (c.toNat - 71)
  else if '0' ≤ c ∧ c ≤ '9' then some (c.toNat + 4)
  else if c = '+' ∨ c = '-' then some 62
  else if c = '/' ∨ c = '_' then some 63
  else none

/-- `urlsafe_b64encode(data).rstrip(b"=")`. -/
def encode : List UInt8 → List Char
  | a :: b :: c :: rest =>
      digit (a.toNat / 4) :: digit (a.toNat % 4 * 16 + b.toNat / 16) ::
        digit (b.toNat % 16 * 4 + c.toNat / 64) :: digit (c.toNat % 64) :: encode rest
  | [a, b] =>
      [digit (a.toNat / 4), digit (a.toNat % 4 * 16 + b.toNat / 16), digit (b.toNat % 16 * 4)]
  | [a] => [digit (a.toNat / 4), digit (a.toNat % 4 * 16)]
  | [] => []

/-- Where the reader is in a quadruple, the bits it has left over, the padding it has seen, and
whether it has seen any. -/
structure Reader where
  quad : Nat
  left : Nat
  pads : Nat
  padded : Bool

/-- `binascii.a2b_base64(text, strict_mode=True)`. -/
def read (r : Reader) : List Char → Option (List UInt8)
  | [] => if r.quad = 0 then some [] else none
  | c :: cs =>
      if c = '=' then
        if r.quad = 0 then none
        else if 2 ≤ r.quad then
          if 4 ≤ r.quad + (r.pads + 1) then if cs = [] then some [] else none
          else read ⟨r.quad, r.left, r.pads + 1, true⟩ cs
        else read ⟨r.quad, r.left, r.pads, true⟩ cs
      else
        match value? c with
        | none => none
        | some v =>
            if r.padded then none
            else
              match r.quad with
              | 0 => read ⟨1, v, 0, false⟩ cs
              | 1 => (read ⟨2, v % 16, 0, false⟩ cs).map (UInt8.ofNat (r.left * 4 + v / 16) :: ·)
              | 2 => (read ⟨3, v % 4, 0, false⟩ cs).map (UInt8.ofNat (r.left * 16 + v / 4) :: ·)
              | _ => (read ⟨0, 0, 0, false⟩ cs).map (UInt8.ofNat (r.left * 64 + v) :: ·)

def decode (text : List Char) : Option (List UInt8) := read ⟨0, 0, 0, false⟩ text

/-- `b"=" * (-len(text) % 4)`. -/
def padding (text : List Char) : List Char := List.replicate ((4 - text.length % 4) % 4) '='

/-! ## Reading back -/

theorem value?_digit {n : Nat} (h : n < 64) : digit n ≠ '=' ∧ value? (digit n) = some n := by
  have hall : ∀ m : Fin 64, digit m ≠ '=' ∧ value? (digit m) = some m.val := by decide
  exact hall ⟨n, h⟩

theorem digit_isAscii (n : Nat) (h : n < 64) : (digit n).toNat < 128 := by
  have hall : ∀ m : Fin 64, (digit m).toNat < 128 := by decide
  exact hall ⟨n, h⟩

section

variable {left n : Nat} {cs : List Char}

/-- A digit is taken by its value, as the place in the quadruple wants it. -/
theorem read_digit (quad : Nat) (h : n < 64) : read ⟨quad, left, 0, false⟩ (digit n :: cs) =
    match quad with
    | 0 => read ⟨1, n, 0, false⟩ cs
    | 1 => (read ⟨2, n % 16, 0, false⟩ cs).map (UInt8.ofNat (left * 4 + n / 16) :: ·)
    | 2 => (read ⟨3, n % 4, 0, false⟩ cs).map (UInt8.ofNat (left * 16 + n / 4) :: ·)
    | _ => (read ⟨0, 0, 0, false⟩ cs).map (UInt8.ofNat (left * 64 + n) :: ·) := by
  obtain ⟨hne, hvalue⟩ := value?_digit h
  rw [read, if_neg hne, hvalue]
  rfl

theorem read_one_pad : read ⟨3, left, 0, false⟩ ['='] = some [] := rfl

theorem read_two_pads : read ⟨2, left, 0, false⟩ ['=', '='] = some [] := rfl

end

theorem ofNat_toNat_eq {a : UInt8} {n : Nat} (h : n = a.toNat) : UInt8.ofNat n = a := by
  rw [h, UInt8.ofNat_toNat]

theorem length_encode : ∀ bytes, (encode bytes).length = (4 * bytes.length + 2) / 3
  | a :: b :: c :: rest => by
      have ih := length_encode rest
      show (encode rest).length + 4 = (4 * (rest.length + 3) + 2) / 3
      omega
  | [a, b] => by
      show 3 = (4 * 2 + 2) / 3
      rfl
  | [a] => by
      show 2 = (4 * 1 + 2) / 3
      rfl
  | [] => rfl

theorem encode_isAscii : ∀ bytes, ∀ c ∈ encode bytes, c.toNat < 128
  | a :: b :: c :: rest => by
      have ha := a.toNat_lt
      have hb := b.toNat_lt
      have hc := c.toNat_lt
      show ∀ d ∈ digit _ :: digit _ :: digit _ :: digit _ :: encode rest, d.toNat < 128
      simp only [List.forall_mem_cons]
      exact ⟨digit_isAscii _ (by omega), digit_isAscii _ (by omega), digit_isAscii _ (by omega),
        digit_isAscii _ (by omega), encode_isAscii rest⟩
  | [a, b] => by
      have ha := a.toNat_lt
      have hb := b.toNat_lt
      show ∀ d ∈ [digit _, digit _, digit _], d.toNat < 128
      simp only [List.forall_mem_cons]
      exact ⟨digit_isAscii _ (by omega), digit_isAscii _ (by omega), digit_isAscii _ (by omega),
        nofun⟩
  | [a] => by
      have ha := a.toNat_lt
      show ∀ d ∈ [digit _, digit _], d.toNat < 128
      simp only [List.forall_mem_cons]
      exact ⟨digit_isAscii _ (by omega), digit_isAscii _ (by omega), nofun⟩
  | [] => nofun

theorem padding_encode_cons (a b c : UInt8) (rest : List UInt8) :
    padding (encode (a :: b :: c :: rest)) = padding (encode rest) := by
  unfold padding
  have hlength : (encode (a :: b :: c :: rest)).length = (encode rest).length + 4 := rfl
  rw [hlength, Nat.add_mod_right]

/-- **What was written is read back**, once its padding is there. -/
theorem decode_encode : ∀ bytes, decode (encode bytes ++ padding (encode bytes)) = some bytes
  | a :: b :: c :: rest => by
      have ha := a.toNat_lt
      have hb := b.toNat_lt
      have hc := c.toNat_lt
      have ih := decode_encode rest
      rw [padding_encode_cons]
      show read ⟨0, 0, 0, false⟩ (digit _ :: digit _ :: digit _ :: digit _ ::
        (encode rest ++ padding (encode rest))) = _
      rw [read_digit 0 (by omega), read_digit 1 (by omega), read_digit 2 (by omega),
        read_digit 3 (by omega)]
      rw [← decode, ih]
      have hfirst : UInt8.ofNat
          (a.toNat / 4 * 4 + (a.toNat % 4 * 16 + b.toNat / 16) / 16) = a :=
        ofNat_toNat_eq (by omega)
      have hsecond : UInt8.ofNat ((a.toNat % 4 * 16 + b.toNat / 16) % 16 * 16 +
          (b.toNat % 16 * 4 + c.toNat / 64) / 4) = b := ofNat_toNat_eq (by omega)
      have hthird : UInt8.ofNat ((b.toNat % 16 * 4 + c.toNat / 64) % 4 * 64 + c.toNat % 64) = c :=
        ofNat_toNat_eq (by omega)
      simp only [Option.map_some, hfirst, hsecond, hthird]
  | [a, b] => by
      have ha := a.toNat_lt
      have hb := b.toNat_lt
      show read ⟨0, 0, 0, false⟩ (digit _ :: digit _ :: digit _ :: ['=']) = _
      rw [read_digit 0 (by omega), read_digit 1 (by omega), read_digit 2 (by omega)]
      rw [read_one_pad]
      have hfirst : UInt8.ofNat
          (a.toNat / 4 * 4 + (a.toNat % 4 * 16 + b.toNat / 16) / 16) = a :=
        ofNat_toNat_eq (by omega)
      have hsecond : UInt8.ofNat ((a.toNat % 4 * 16 + b.toNat / 16) % 16 * 16 +
          b.toNat % 16 * 4 / 4) = b := ofNat_toNat_eq (by omega)
      simp only [Option.map_some, hfirst, hsecond]
  | [a] => by
      have ha := a.toNat_lt
      show read ⟨0, 0, 0, false⟩ (digit _ :: digit _ :: ['=', '=']) = _
      rw [read_digit 0 (by omega), read_digit 1 (by omega)]
      rw [read_two_pads]
      have hfirst : UInt8.ofNat (a.toNat / 4 * 4 + a.toNat % 4 * 16 / 16) = a :=
        ofNat_toNat_eq (by omega)
      simp only [Option.map_some, hfirst]
  | [] => rfl

end AutocadMcp.Base64
