import Mathlib.Algebra.Field.Rat
import Mathlib.Data.List.Basic
import Mathlib.Data.List.Pairwise
import Mathlib.Data.List.TakeWhile
import Mathlib.Tactic.FinCases
import Mathlib.Tactic.IntervalCases

/-!
# JSON texts

Documents as a parser sees them, with numbers as their text and members in the
order of the text, a recursive-descent parser, and the writer of compact texts for
any encoding of the characters of a string. A text that was written is parsed to
its document, whatever the encoding, so two writers give one text for two documents
only where the documents are the same.
-/

namespace AutocadMcp.JsonText

inductive Doc where
  | null
  | bool (b : Bool)
  | number (raw : List Char)
  | string (s : List Char)
  | array (items : List Doc)
  | object (members : List (List Char × Doc))

/-! ## Strings -/

/-- The UTF-16 code units of a character. -/
def utf16 (c : Char) : List Nat :=
  if c.toNat < 0x10000 then [c.toNat]
  else [0xD800 + (c.toNat - 0x10000) / 0x400, 0xDC00 + (c.toNat - 0x10000) % 0x400]

/-- The characters of some code units, unless a surrogate has no partner. -/
def fromUtf16 : List Nat → Option (List Char)
  | [] => some []
  | u :: us =>
      if u < 0xD800 ∨ 0xE000 ≤ u then (fromUtf16 us).map (Char.ofNat u :: ·)
      else
        match us with
        | [] => none
        | v :: rest =>
            if u < 0xDC00 ∧ 0xDC00 ≤ v ∧ v < 0xE000 then
              (fromUtf16 rest).map
                (Char.ofNat (0x10000 + (u - 0xD800) * 0x400 + (v - 0xDC00)) :: ·)
            else none

def hexValue (c : Char) : Option Nat :=
  if c.isDigit then some (c.toNat - '0'.toNat)
  else if 'a' ≤ c ∧ c ≤ 'f' then some (c.toNat - 'a'.toNat + 10)
  else if 'A' ≤ c ∧ c ≤ 'F' then some (c.toNat - 'A'.toNat + 10)
  else none

def hex4 (a b c d : Char) : Option Nat := do
  return (((← hexValue a) * 16 + (← hexValue b)) * 16 + (← hexValue c)) * 16 + (← hexValue d)

/-- The escapes of two characters. -/
def shortEscapes : List (Char × Char) :=
  [('"', '"'), ('\\', '\\'), ('/', '/'), ('b', '\x08'), ('f', '\x0c'), ('n', '\n'), ('r', '\r'),
    ('t', '\t')]

def shortEscape (e : Char) : Option Char :=
  (shortEscapes.find? fun p => p.1 = e).map Prod.snd

def pushUnits (units : List Nat) (p : List Nat × List Char) : List Nat × List Char :=
  (units ++ p.1, p.2)

/-- The code units of a string after its opening quote, with the text after its closing one. -/
def stringUnits : List Char → Option (List Nat × List Char)
  | [] => none
  | '"' :: rest => some ([], rest)
  | '\\' :: 'u' :: a :: b :: c :: d :: rest =>
      (hex4 a b c d).bind fun u => (stringUnits rest).map (pushUnits [u])
  | '\\' :: e :: rest =>
      (shortEscape e).bind fun c => (stringUnits rest).map (pushUnits (utf16 c))
  | c :: rest =>
      if c.toNat < 0x20 ∨ c = '\\' then none else (stringUnits rest).map (pushUnits (utf16 c))

def string (cs : List Char) : Option (List Char × List Char) := do
  let (units, rest) ← stringUnits cs
  return (← fromUtf16 units, rest)

/-! ## Numbers -/

def isNumberChar (c : Char) : Bool := c.isDigit || c ∈ ['-', '+', '.', 'e', 'E']

def isExponent : List Char → Bool
  | [] => true
  | e :: rest =>
      (e = 'e' || e = 'E') &&
        match rest with
        | [] => false
        | sign :: digits =>
            if sign = '+' ∨ sign = '-' then !digits.isEmpty && digits.all Char.isDigit
            else rest.all Char.isDigit

/-- What follows the whole part of a number. -/
def isTail : List Char → Bool
  | '.' :: rest => !(rest.takeWhile Char.isDigit).isEmpty && isExponent (rest.dropWhile Char.isDigit)
  | rest => isExponent rest

def isWhole (digits : List Char) : Bool :=
  digits = ['0'] || (!digits.isEmpty && digits.head? ≠ some '0')

/-- A number of the JSON grammar. -/
def isNumber (raw : List Char) : Bool :=
  let body := if raw.head? = some '-' then raw.tail else raw
  raw.all isNumberChar && isWhole (body.takeWhile Char.isDigit) &&
    isTail (body.dropWhile Char.isDigit)

/-- A text of digits after an exponent letter, with its sign. -/
def exponentValue : List Char → Int
  | [] => 0
  | '-' :: digits => -(Nat.ofDigitChars 10 digits 0 : Int)
  | '+' :: digits => Nat.ofDigitChars 10 digits 0
  | digits => Nat.ofDigitChars 10 digits 0

/-- The value of a number of the grammar without its sign. -/
def magnitude (body : List Char) : Rat :=
  let whole := body.takeWhile Char.isDigit
  let rest := body.dropWhile Char.isDigit
  let fraction := if rest.head? = some '.' then rest.tail.takeWhile Char.isDigit else []
  let exponent := if rest.head? = some '.' then rest.tail.dropWhile Char.isDigit else rest
  Nat.ofDigitChars 10 (whole ++ fraction) 0 *
    (10 : Rat) ^ (exponentValue exponent.tail - fraction.length)

def numberValue (raw : List Char) : Rat :=
  if raw.head? = some '-' then -magnitude raw.tail else magnitude raw

/-- The text of an integer. -/
def intText (n : Int) : List Char :=
  if n < 0 then '-' :: Nat.toDigits 10 n.natAbs else Nat.toDigits 10 n.natAbs

/-! ## The parser -/

def isSpace (c : Char) : Bool := c ∈ [' ', '\t', '\n', '\r']

def skip (cs : List Char) : List Char := cs.dropWhile isSpace

def literal (text : String) (d : Doc) (cs : List Char) : Option (Doc × List Char) :=
  if text.toList <+: cs then some (d, cs.drop text.toList.length) else none

def number (cs : List Char) : Option (Doc × List Char) :=
  let raw := cs.takeWhile isNumberChar
  if isNumber raw then some (.number raw, cs.dropWhile isNumberChar) else none

mutual

/-- A value, with the text after it; the fuel bounds the nesting and the length of lists. -/
def value : Nat → List Char → Option (Doc × List Char)
  | 0, _ => none
  | n + 1, cs =>
      match skip cs with
      | [] => none
      | c :: rest =>
          if c = '"' then (string rest).map fun p => (.string p.1, p.2)
          else if c = '[' then (items n rest).map fun p => (.array p.1, p.2)
          else if c = '{' then (members n rest).map fun p => (.object p.1, p.2)
          else if c = 'n' then literal "null" .null (c :: rest)
          else if c = 't' then literal "true" (.bool true) (c :: rest)
          else if c = 'f' then literal "false" (.bool false) (c :: rest)
          else number (c :: rest)

/-- The items of an array after its bracket. -/
def items : Nat → List Char → Option (List Doc × List Char)
  | 0, _ => none
  | n + 1, cs =>
      match skip cs with
      | [] => none
      | c :: rest =>
          if c = ']' then some ([], rest)
          else do
            let (x, cs) ← value n (c :: rest)
            let (xs, cs) ← itemsTail n cs
            return (x :: xs, cs)

/-- The items of an array after the first one. -/
def itemsTail : Nat → List Char → Option (List Doc × List Char)
  | 0, _ => none
  | n + 1, cs =>
      match skip cs with
      | [] => none
      | c :: rest =>
          if c = ']' then some ([], rest)
          else if c = ',' then do
            let (x, cs) ← value n rest
            let (xs, cs) ← itemsTail n cs
            return (x :: xs, cs)
          else none

/-- The members of an object after its brace. -/
def members : Nat → List Char → Option (List (List Char × Doc) × List Char)
  | 0, _ => none
  | n + 1, cs =>
      match skip cs with
      | [] => none
      | c :: rest =>
          if c = '}' then some ([], rest)
          else do
            let (m, cs) ← member n (c :: rest)
            let (ms, cs) ← membersTail n cs
            return (m :: ms, cs)

def membersTail : Nat → List Char → Option (List (List Char × Doc) × List Char)
  | 0, _ => none
  | n + 1, cs =>
      match skip cs with
      | [] => none
      | c :: rest =>
          if c = '}' then some ([], rest)
          else if c = ',' then do
            let (m, cs) ← member n rest
            let (ms, cs) ← membersTail n cs
            return (m :: ms, cs)
          else none

def member : Nat → List Char → Option ((List Char × Doc) × List Char)
  | 0, _ => none
  | n + 1, cs =>
      match skip cs with
      | [] => none
      | c :: rest =>
          if c = '"' then do
            let (key, cs) ← string rest
            match skip cs with
            | [] => none
            | c :: rest =>
                if c = ':' then do
                  let (d, cs) ← value n rest
                  return ((key, d), cs)
                else none
          else none

end

/-- The document of a text. -/
def parse (text : List Char) : Option Doc := do
  let (d, rest) ← value text.length text
  if skip rest = [] then return d else none

/-! ## The writer -/

section

variable (enc : Char → List Char)

def writeString (s : List Char) : List Char := '"' :: (s.flatMap enc ++ ['"'])

mutual

def write : Doc → List Char
  | .null => "null".toList
  | .bool true => "true".toList
  | .bool false => "false".toList
  | .number raw => raw
  | .string s => writeString enc s
  | .array xs => '[' :: writeItems xs
  | .object ms => '{' :: writeMembers ms

def writeItems : List Doc → List Char
  | [] => [']']
  | x :: xs => write x ++ writeItemsTail xs

def writeItemsTail : List Doc → List Char
  | [] => [']']
  | x :: xs => ',' :: (write x ++ writeItemsTail xs)

def writeMembers : List (List Char × Doc) → List Char
  | [] => ['}']
  | (key, d) :: ms => writeString enc key ++ ':' :: (write d ++ writeMembersTail ms)

def writeMembersTail : List (List Char × Doc) → List Char
  | [] => ['}']
  | (key, d) :: ms => ',' :: (writeString enc key ++ ':' :: (write d ++ writeMembersTail ms))

end

end

/-! ## Reading back a string -/

theorem Char.toNat_bounds (c : Char) :
    c.toNat < 0xD800 ∨ (0xE000 ≤ c.toNat ∧ c.toNat < 0x110000) := by
  have hvalid : c.toNat.isValidChar := c.valid
  unfold Nat.isValidChar at hvalid
  omega

theorem fromUtf16_char (c : Char) (us : List Nat) :
    fromUtf16 (utf16 c ++ us) = (fromUtf16 us).map (c :: ·) := by
  have hbounds := Char.toNat_bounds c
  unfold utf16
  by_cases hbmp : c.toNat < 0x10000
  · rw [if_pos hbmp, List.singleton_append, fromUtf16.eq_def]
    simp only
    rw [if_pos (by omega), Char.ofNat_toNat]
  · -- the two halves of a supplementary character
    have hvalue : 0x10000 + (0xD800 + (c.toNat - 0x10000) / 0x400 - 0xD800) * 0x400 +
        (0xDC00 + (c.toNat - 0x10000) % 0x400 - 0xDC00) = c.toNat := by omega
    rw [if_neg hbmp, List.cons_append, List.singleton_append, fromUtf16.eq_def]
    simp only
    rw [if_neg (by omega), if_pos (by omega), hvalue, Char.ofNat_toNat]

theorem fromUtf16_flatMap (s : List Char) : fromUtf16 (s.flatMap utf16) = some s := by
  induction s with
  | nil => rfl
  | cons c s ih => rw [List.flatMap_cons, fromUtf16_char, ih, Option.map_some]

/-- The encoding of each character is read back as that character. -/
def Decodes (enc : Char → List Char) : Prop :=
  ∀ c rest, stringUnits (enc c ++ rest) = (stringUnits rest).map (pushUnits (utf16 c))

section

variable {enc : Char → List Char}

theorem stringUnits_flatMap (henc : Decodes enc) (s rest : List Char) :
    stringUnits (s.flatMap enc ++ '"' :: rest) = some (s.flatMap utf16, rest) := by
  induction s with
  | nil => rfl
  | cons c s ih =>
      rw [List.flatMap_cons, List.append_assoc, henc, ih]
      rfl

theorem string_flatMap (henc : Decodes enc) (s rest : List Char) :
    string (s.flatMap enc ++ '"' :: rest) = some (s, rest) := by
  rw [string, stringUnits_flatMap henc]
  simp [fromUtf16_flatMap]

/-! ## Reading back a document -/

/-- The text does not go on with a character of a number. -/
def Stops (rest : List Char) : Prop := ∀ c ∈ rest.head?, isNumberChar c = false

theorem stops_nil : Stops [] := nofun

theorem stops_cons {c : Char} {rest : List Char} (h : isNumberChar c = false) :
    Stops (c :: rest) := by
  rintro _ ⟨⟩
  exact h

theorem isNumber_chars {raw : List Char} (h : isNumber raw = true) :
    ∀ c ∈ raw, isNumberChar c = true := by
  simp only [isNumber, Bool.and_eq_true] at h
  exact List.all_eq_true.mp h.1.1

theorem isNumber_ne_nil {raw : List Char} (h : isNumber raw = true) : raw ≠ [] := by
  rintro rfl
  revert h
  decide

theorem number_append {raw rest : List Char} (h : isNumber raw = true) (hstops : Stops rest) :
    number (raw ++ rest) = some (.number raw, rest) := by
  have hrest : rest.takeWhile isNumberChar = [] ∧ rest.dropWhile isNumberChar = rest := by
    cases rest with
    | nil => exact ⟨rfl, rfl⟩
    | cons c rest =>
        have hc := hstops c rfl
        simp [hc]
  have htake : (raw ++ rest).takeWhile isNumberChar = raw := by
    rw [List.takeWhile_append_of_pos (isNumber_chars h), hrest.1, List.append_nil]
  have hdrop : (raw ++ rest).dropWhile isNumberChar = rest := by
    rw [List.dropWhile_append_of_pos (isNumber_chars h), hrest.2]
  rw [number, htake, hdrop]
  simp [h]

mutual

/-- Every number of the document is one of the grammar. -/
def Doc.valid : Doc → Bool
  | .number raw => isNumber raw
  | .array xs => validItems xs
  | .object ms => validMembers ms
  | _ => true

def validItems : List Doc → Bool
  | [] => true
  | x :: xs => x.valid && validItems xs

def validMembers : List (List Char × Doc) → Bool
  | [] => true
  | (_, d) :: ms => d.valid && validMembers ms

end

mutual

/-- The fuel that the parser needs for a document. -/
def need : Doc → Nat
  | .array [] => 2
  | .array (x :: xs) => 2 + max (need x) (needItems xs)
  | .object [] => 2
  | .object ((_, d) :: ms) => 3 + max (need d) (needMembers ms)
  | _ => 1

/-- The fuel for the items after the first one. -/
def needItems : List Doc → Nat
  | [] => 1
  | x :: xs => 1 + max (need x) (needItems xs)

def needMembers : List (List Char × Doc) → Nat
  | [] => 1
  | (_, d) :: ms => 2 + max (need d) (needMembers ms)

end

variable (enc) in
/-- The first character of a text that was written is neither a space nor a closing bracket. -/
theorem write_head {d : Doc} (h : d.valid = true) : ∃ c rest, write enc d = c :: rest ∧
    isSpace c = false ∧ c ≠ ']' ∧ c ≠ '}' := by
  cases d with
  | null => exact ⟨'n', _, rfl, by decide⟩
  | bool b => cases b <;> exact ⟨_, _, rfl, by decide⟩
  | number raw =>
      cases raw with
      | nil => exact absurd rfl (isNumber_ne_nil h)
      | cons c rest =>
          have hc := isNumber_chars h c List.mem_cons_self
          refine ⟨c, rest, rfl, ?_, ?_, ?_⟩
          · by_contra hspace
            have hmem : c ∈ [' ', '\t', '\n', '\r'] := by
              simpa only [isSpace, Bool.not_eq_false, decide_eq_true_eq] using hspace
            simp only [List.mem_cons, List.not_mem_nil, or_false] at hmem
            rcases hmem with rfl | rfl | rfl | rfl <;> revert hc <;> decide
          · rintro rfl
            revert hc
            decide
          · rintro rfl
            revert hc
            decide
  | string s => exact ⟨'"', _, rfl, by decide⟩
  | array xs => exact ⟨'[', _, rfl, by decide⟩
  | object ms => exact ⟨'{', _, rfl, by decide⟩

theorem skip_cons {c : Char} {rest : List Char} (h : isSpace c = false) :
    skip (c :: rest) = c :: rest := by
  simp [skip, h]

variable (enc) in
theorem skip_write {d : Doc} (h : d.valid = true) (rest : List Char) :
    skip (write enc d ++ rest) = write enc d ++ rest := by
  obtain ⟨c, tail, heq, hc, -⟩ := write_head enc h
  rw [heq, List.cons_append, skip_cons hc]

theorem literal_append (text : String) (d : Doc) (rest : List Char) :
    literal text d (text.toList ++ rest) = some (d, rest) := by
  simp [literal]

/-- The first character of a number starts no other kind of value. -/
theorem isNumber_head {c : Char} {rest : List Char} (h : isNumber (c :: rest) = true) :
    c ≠ '"' ∧ c ≠ '[' ∧ c ≠ '{' ∧ c ≠ 'n' ∧ c ≠ 't' ∧ c ≠ 'f' := by
  have hc := isNumber_chars h c List.mem_cons_self
  refine ⟨?_, ?_, ?_, ?_, ?_, ?_⟩ <;>
    · rintro rfl
      revert hc
      decide

theorem value_number {raw rest : List Char} (h : isNumber raw = true) (hstops : Stops rest)
    (n : Nat) : value (n + 1) (raw ++ rest) = some (.number raw, rest) := by
  have hskip := skip_write (fun c => [c]) (show (Doc.number raw).valid = true from h) rest
  rw [write] at hskip
  rw [value, hskip]
  cases raw with
  | nil => exact absurd rfl (isNumber_ne_nil h)
  | cons c tail =>
      obtain ⟨h1, h2, h3, h4, h5, h6⟩ := isNumber_head h
      simp only [List.cons_append, if_neg h1, if_neg h2, if_neg h3, if_neg h4, if_neg h5, if_neg h6]
      exact number_append h hstops

theorem member_write (henc : Decodes enc) (key : List Char) {rest : List Char} {d : Doc} {n : Nat}
    (hd : value n (write enc d ++ rest) = some (d, rest)) :
    member (n + 1) (writeString enc key ++ ':' :: (write enc d ++ rest)) =
      some ((key, d), rest) := by
  have hquote : isSpace '"' = false := by decide
  have hcolon : isSpace ':' = false := by decide
  rw [writeString, List.cons_append, List.append_assoc, List.singleton_append, member,
    skip_cons hquote]
  simp [string_flatMap henc, skip_cons hcolon, hd]

theorem stops_itemsTail (xs : List Doc) (rest : List Char) :
    Stops (writeItemsTail enc xs ++ rest) := by
  cases xs <;> exact stops_cons (by decide)

theorem stops_membersTail (ms : List (List Char × Doc)) (rest : List Char) :
    Stops (writeMembersTail enc ms ++ rest) := by
  cases ms with
  | nil => exact stops_cons (by decide)
  | cons m ms => exact stops_cons (by decide)

mutual

/-- A text that was written is read back, with enough fuel. -/
theorem value_write (henc : Decodes enc) : ∀ (d : Doc) (n : Nat) (rest : List Char),
    d.valid = true → need d ≤ n → Stops rest → value n (write enc d ++ rest) = some (d, rest)
  | .null, n + 1, rest, _, _, _ => literal_append "null" .null rest
  | .bool true, n + 1, rest, _, _, _ => literal_append "true" (.bool true) rest
  | .bool false, n + 1, rest, _, _, _ => literal_append "false" (.bool false) rest
  | .number raw, n + 1, rest, hvalid, _, hstops => value_number hvalid hstops n
  | .string s, n + 1, rest, _, _, _ => by
      rw [write, writeString, List.cons_append, List.append_assoc, List.singleton_append, value,
        skip_cons (by decide)]
      simp [string_flatMap henc]
  | .array [], n + 2, rest, _, _, _ => rfl
  | .array (x :: xs), fuel, rest, hvalid, hneed, hstops => by
      simp only [Doc.valid, validItems, Bool.and_eq_true] at hvalid
      simp only [need] at hneed
      obtain ⟨hx, hxs⟩ := hvalid
      obtain ⟨n, rfl⟩ : ∃ n, fuel = n + 2 := ⟨fuel - 2, by omega⟩
      have hfirst := value_write henc x n (writeItemsTail enc xs ++ rest) hx (by omega)
        (stops_itemsTail xs rest)
      have htail := itemsTail_write henc xs n rest hxs (by omega)
      have hskip := skip_write enc hx (writeItemsTail enc xs ++ rest)
      obtain ⟨c, tail, heq, -, hc, -⟩ := write_head enc hx
      rw [write, writeItems, List.cons_append, value, skip_cons (by decide)]
      simp only [if_neg (show '[' ≠ '"' by decide), if_true]
      rw [List.append_assoc, items, hskip]
      rw [heq, List.cons_append] at hfirst ⊢
      simp only [if_neg hc, hfirst, htail, Option.bind_eq_bind, Option.bind_some, Option.pure_def,
        Option.map_some]
  | .object [], n + 2, rest, _, _, _ => rfl
  | .object ((key, d) :: ms), fuel, rest, hvalid, hneed, hstops => by
      simp only [Doc.valid, validMembers, Bool.and_eq_true] at hvalid
      simp only [need] at hneed
      obtain ⟨hd, hms⟩ := hvalid
      obtain ⟨n, rfl⟩ : ∃ n, fuel = n + 3 := ⟨fuel - 3, by omega⟩
      have hvalue := value_write henc d n (writeMembersTail enc ms ++ rest) hd (by omega)
        (stops_membersTail ms rest)
      have hfirst := member_write henc key hvalue
      have htail := membersTail_write henc ms (n + 1) rest hms (by omega)
      rw [write, writeMembers, List.cons_append, value, skip_cons (by decide)]
      simp only [if_neg (show '{' ≠ '"' by decide), if_neg (show '{' ≠ '[' by decide), if_true]
      rw [List.append_assoc, List.cons_append, List.append_assoc]
      rw [writeString, List.cons_append] at hfirst ⊢
      rw [members, skip_cons (by decide)]
      simp only [if_neg (show '"' ≠ '}' by decide), hfirst, htail, Option.bind_eq_bind,
        Option.bind_some, Option.pure_def, Option.map_some]

theorem itemsTail_write (henc : Decodes enc) : ∀ (xs : List Doc) (n : Nat) (rest : List Char),
    validItems xs = true → needItems xs ≤ n →
      itemsTail n (writeItemsTail enc xs ++ rest) = some (xs, rest)
  | [], n + 1, rest, _, _ => rfl
  | x :: xs, fuel, rest, hvalid, hneed => by
      simp only [validItems, Bool.and_eq_true] at hvalid
      simp only [needItems] at hneed
      obtain ⟨n, rfl⟩ : ∃ n, fuel = n + 1 := ⟨fuel - 1, by omega⟩
      have hfirst := value_write henc x n (writeItemsTail enc xs ++ rest) hvalid.1 (by omega)
        (stops_itemsTail xs rest)
      have htail := itemsTail_write henc xs n rest hvalid.2 (by omega)
      rw [writeItemsTail, List.cons_append, itemsTail, skip_cons (by decide), List.append_assoc]
      simp only [if_neg (show ',' ≠ ']' by decide), if_true, hfirst, htail, Option.bind_eq_bind,
        Option.bind_some, Option.pure_def]

theorem membersTail_write (henc : Decodes enc) :
    ∀ (ms : List (List Char × Doc)) (n : Nat) (rest : List Char),
    validMembers ms = true → needMembers ms ≤ n →
      membersTail n (writeMembersTail enc ms ++ rest) = some (ms, rest)
  | [], n + 1, rest, _, _ => rfl
  | (key, d) :: ms, fuel, rest, hvalid, hneed => by
      simp only [validMembers, Bool.and_eq_true] at hvalid
      simp only [needMembers] at hneed
      obtain ⟨n, rfl⟩ : ∃ n, fuel = n + 2 := ⟨fuel - 2, by omega⟩
      have hvalue := value_write henc d n (writeMembersTail enc ms ++ rest) hvalid.1 (by omega)
        (stops_membersTail ms rest)
      have hfirst := member_write henc key hvalue
      have htail := membersTail_write henc ms (n + 1) rest hvalid.2 (by omega)
      rw [writeMembersTail, List.cons_append, membersTail, skip_cons (by decide),
        List.append_assoc, List.cons_append, List.append_assoc]
      simp only [if_neg (show ',' ≠ '}' by decide), if_true, hfirst, htail, Option.bind_eq_bind,
        Option.bind_some, Option.pure_def]

end

theorem need_pos (d : Doc) : 1 ≤ need d := by
  unfold need
  split <;> omega

theorem needItems_pos (xs : List Doc) : 1 ≤ needItems xs := by
  cases xs <;> simp only [needItems] <;> omega

mutual

theorem need_le_length : ∀ d : Doc, d.valid = true → need d ≤ (write enc d).length
  | .null, _ | .bool true, _ | .bool false, _ => by simp [need, write]
  | .number raw, h => by
      have hpos := List.length_pos_iff.mpr (isNumber_ne_nil h)
      simp only [need, write]
      omega
  | .string s, _ => by simp [need, write, writeString]
  | .array [], _ => by simp [need, write, writeItems]
  | .array (x :: xs), h => by
      simp only [Doc.valid, validItems, Bool.and_eq_true] at h
      have hx := need_le_length x h.1
      have hxs := needItems_le_length xs h.2
      have hpos := needItems_pos xs
      have hpos' := need_pos x
      simp only [need, write, writeItems, List.length_cons, List.length_append]
      omega
  | .object [], _ => by simp [need, write, writeMembers]
  | .object ((key, d) :: ms), h => by
      simp only [Doc.valid, validMembers, Bool.and_eq_true] at h
      have hd := need_le_length d h.1
      have hms := needMembers_le_length ms h.2
      simp only [need, write, writeMembers, writeString, List.length_cons, List.length_append]
      omega

theorem needItems_le_length : ∀ xs : List Doc, validItems xs = true →
    needItems xs ≤ (writeItemsTail enc xs).length
  | [], _ => by simp [needItems, writeItemsTail]
  | x :: xs, h => by
      simp only [validItems, Bool.and_eq_true] at h
      have hx := need_le_length x h.1
      have hxs := needItems_le_length xs h.2
      simp only [needItems, writeItemsTail, List.length_cons, List.length_append]
      omega

theorem needMembers_le_length : ∀ ms : List (List Char × Doc), validMembers ms = true →
    needMembers ms ≤ (writeMembersTail enc ms).length
  | [], _ => by simp [needMembers, writeMembersTail]
  | (key, d) :: ms, h => by
      simp only [validMembers, Bool.and_eq_true] at h
      have hd := need_le_length d h.1
      have hms := needMembers_le_length ms h.2
      simp only [needMembers, writeMembersTail, writeString, List.length_cons, List.length_append]
      omega

end

/-- A written text is parsed to its document. -/
theorem parse_write (henc : Decodes enc) {d : Doc} (h : d.valid = true) :
    parse (write enc d) = some d := by
  have hvalue := value_write henc d (write enc d).length [] h (need_le_length d h) stops_nil
  rw [List.append_nil] at hvalue
  rw [parse, hvalue]
  rfl

/-- Writers with encodings of their own give one text only for one document. -/
theorem write_inj {enc' : Char → List Char} (henc : Decodes enc) (henc' : Decodes enc')
    {d d' : Doc} (h : d.valid = true) (h' : d'.valid = true)
    (heq : write enc d = write enc' d') : d = d' := by
  have hparse := parse_write henc h
  rw [heq, parse_write henc' h'] at hparse
  exact (Option.some.inj hparse).symm

end

/-! ## Integers -/

theorem toDigits_isDigit {n : Nat} : ∀ c ∈ Nat.toDigits 10 n, c.isDigit = true := fun _ hc =>
  Nat.isDigit_of_mem_toDigits (by decide) (by decide) hc

/-- Only zero begins with a zero. -/
theorem isWhole_toDigits (n : Nat) : isWhole (Nat.toDigits 10 n) = true := by
  induction n using Nat.strong_induction_on with
  | h n ih =>
      by_cases hn : n < 10
      · clear ih
        interval_cases n <;> decide
      · have hten : 10 ≤ n := Nat.le_of_not_lt hn
        have hquot := ih (n / 10) (Nat.div_lt_self (by omega) (by decide))
        have hpos : Nat.toDigits 10 (n / 10) ≠ ['0'] := by
          intro h
          have hvalue := congrArg (fun l => Nat.ofDigitChars 10 l 0) h
          simp only [Nat.ofDigitChars_ten_toDigits] at hvalue
          have hzero : Nat.ofDigitChars 10 ['0'] 0 = 0 := by decide
          omega
        rw [Nat.toDigits_of_base_le (by decide) hten]
        simp only [isWhole, decide_eq_true_eq, Bool.or_eq_true, Bool.and_eq_true, hpos,
          Bool.not_eq_true', List.isEmpty_eq_false_iff, false_or] at hquot ⊢
        refine Or.inr ⟨?_, ?_⟩
        · simp
        · rw [List.head?_append_of_ne_nil _ hquot.1]
          exact hquot.2

theorem takeWhile_toDigits (n : Nat) :
    (Nat.toDigits 10 n).takeWhile Char.isDigit = Nat.toDigits 10 n :=
  List.takeWhile_eq_self_iff.mpr toDigits_isDigit

theorem dropWhile_toDigits (n : Nat) : (Nat.toDigits 10 n).dropWhile Char.isDigit = [] :=
  List.dropWhile_eq_nil_iff.mpr toDigits_isDigit

theorem toDigits_head_ne_minus (n : Nat) : (Nat.toDigits 10 n).head? ≠ some '-' := by
  intro h
  have hminus : '-'.isDigit = true := toDigits_isDigit (n := n) _ (List.mem_of_mem_head? h)
  exact absurd hminus (by decide)

theorem toDigits_isNumberChar (n : Nat) : (Nat.toDigits 10 n).all isNumberChar = true := by
  refine List.all_eq_true.mpr fun c hc => ?_
  rw [isNumberChar, toDigits_isDigit c hc, Bool.true_or]

theorem isNumber_intText (n : Int) : isNumber (intText n) = true := by
  unfold intText
  split
  · simp [isNumber, takeWhile_toDigits, dropWhile_toDigits, isWhole_toDigits,
      toDigits_isNumberChar, isTail, isExponent, isNumberChar]
  · simp [isNumber, takeWhile_toDigits, dropWhile_toDigits, isWhole_toDigits,
      toDigits_head_ne_minus, toDigits_isNumberChar, isTail, isExponent]

theorem magnitude_toDigits (n : Nat) : magnitude (Nat.toDigits 10 n) = n := by
  simp [magnitude, takeWhile_toDigits, dropWhile_toDigits, Nat.ofDigitChars_ten_toDigits,
    exponentValue]

theorem numberValue_intText (n : Int) : numberValue (intText n) = n := by
  unfold intText
  split
  · rename_i hneg
    have habs : ((n.natAbs : Int) : Rat) = -n := by
      rw [Int.ofNat_natAbs_of_nonpos (by omega), Int.cast_neg]
    rw [numberValue, if_pos (by rfl), List.tail_cons, magnitude_toDigits, ← Int.cast_natCast,
      habs, neg_neg]
  · rename_i hneg
    rw [numberValue, if_neg (toDigits_head_ne_minus _), magnitude_toDigits, ← Int.cast_natCast,
      Int.natAbs_of_nonneg (by omega)]

/-! ## The usual encodings -/

def hexDigit (upper : Bool) (d : Nat) : Char :=
  if d < 10 then Nat.digitChar d
  else Char.ofNat ((if upper then 'A'.toNat else 'a'.toNat) + (d - 10))

/-- `\uXXXX` for a code unit. -/
def unicodeEscape (upper : Bool) (u : Nat) : List Char :=
  ['\\', 'u', hexDigit upper (u / 4096 % 16), hexDigit upper (u / 256 % 16),
    hexDigit upper (u / 16 % 16), hexDigit upper (u % 16)]

/-- The letter of the escape of two characters. -/
def shortLetter (c : Char) : Option Char :=
  ((shortEscapes.filter fun p => p.1 ≠ '/').find? fun p => p.2 = c).map Prod.fst

/-- How a character of a string is written. -/
inductive Form where
  | raw
  | short (letter : Char)
  | hex (upper : Bool)
  deriving DecidableEq

def Form.encode (c : Char) : Form → List Char
  | .raw => [c]
  | .short letter => ['\\', letter]
  | .hex upper => (utf16 c).flatMap (unicodeEscape upper)

/-- A character may be written in this form. -/
def Form.allowed (c : Char) : Form → Prop
  | .raw => 0x20 ≤ c.toNat ∧ c ≠ '"' ∧ c ≠ '\\'
  | .short letter => shortLetter c = some letter
  | .hex _ => True

theorem hexValue_hexDigit (upper : Bool) {d : Nat} (h : d < 16) :
    hexValue (hexDigit upper d) = some d := by
  revert upper
  interval_cases d <;> decide

theorem stringUnits_unicodeEscape (upper : Bool) {u : Nat} (h : u < 0x10000) (rest : List Char) :
    stringUnits (unicodeEscape upper u ++ rest) = (stringUnits rest).map (pushUnits [u]) := by
  have hmod : ∀ n, n % 16 < 16 := fun n => Nat.mod_lt n (by decide)
  have hunit : ((u / 4096 % 16 * 16 + u / 256 % 16) * 16 + u / 16 % 16) * 16 + u % 16 = u := by
    omega
  have hhex : hex4 (hexDigit upper (u / 4096 % 16)) (hexDigit upper (u / 256 % 16))
      (hexDigit upper (u / 16 % 16)) (hexDigit upper (u % 16)) = some u := by
    simp only [hex4, hexValue_hexDigit upper (hmod _), Option.bind_eq_bind, Option.bind_some,
      Option.pure_def, hunit]
  rw [unicodeEscape]
  simp only [List.cons_append, List.nil_append]
  rw [stringUnits, hhex]
  rfl

theorem stringUnits_short {c letter : Char} (h : shortLetter c = some letter)
    (rest : List Char) :
    stringUnits ('\\' :: letter :: rest) = (stringUnits rest).map (pushUnits (utf16 c)) := by
  obtain ⟨⟨letter', c'⟩, hfind, heq⟩ := Option.map_eq_some_iff.mp h
  have hmem := List.mem_of_find?_eq_some hfind
  have hc : c' = c := by simpa using List.find?_some hfind
  subst hc
  cases heq
  simp only [shortEscapes, List.filter_cons] at hmem
  fin_cases hmem <;> rfl

theorem stringUnits_raw {c : Char} (h : 0x20 ≤ c.toNat ∧ c ≠ '"' ∧ c ≠ '\\')
    (rest : List Char) :
    stringUnits (c :: rest) = (stringUnits rest).map (pushUnits (utf16 c)) := by
  obtain ⟨hlow, hquote, hslash⟩ := h
  rw [stringUnits.eq_def]
  split
  · cases ‹c :: rest = []›
  · rename_i heq
    exact absurd (List.cons.inj heq).1 hquote
  · rename_i heq
    exact absurd (List.cons.inj heq).1 hslash
  · rename_i heq
    exact absurd (List.cons.inj heq).1 hslash
  · rename_i heq
    obtain ⟨rfl, rfl⟩ := List.cons.inj heq
    rw [if_neg]
    rintro (h | h)
    · omega
    · exact hslash h

/-- Every encoding in allowed forms is read back. -/
theorem decodes_of_allowed {form : Char → Form} (h : ∀ c, (form c).allowed c) :
    Decodes fun c => (form c).encode c := by
  intro c rest
  have hc := h c
  show stringUnits ((form c).encode c ++ rest) = _
  cases hform : form c with
  | raw =>
      rw [hform] at hc
      exact stringUnits_raw hc rest
  | short letter =>
      rw [hform] at hc
      exact stringUnits_short hc rest
  | hex upper =>
      have hbounds := Char.toNat_bounds c
      rw [Form.encode]
      unfold utf16
      by_cases hbmp : c.toNat < 0x10000
      · rw [if_pos hbmp, List.flatMap_cons, List.flatMap_nil, List.append_nil]
        exact stringUnits_unicodeEscape upper hbmp rest
      · rw [if_neg hbmp, List.flatMap_cons, List.flatMap_cons, List.flatMap_nil, List.append_nil,
          List.append_assoc, stringUnits_unicodeEscape upper (by omega),
          stringUnits_unicodeEscape upper (by omega), Option.map_map]
        congr 1

/-! ## Two encodings of one document -/

section

variable {α : Type} (strings numbers : List Char → List α)

mutual

/-- What the strings, the keys and the numbers of a document give, in the order of the text. -/
def Doc.collect : Doc → List α
  | .string s => strings s
  | .number raw => numbers raw
  | .array xs => collectItems xs
  | .object ms => collectMembers ms
  | _ => []

def collectItems : List Doc → List α
  | [] => []
  | x :: xs => x.collect ++ collectItems xs

def collectMembers : List (List Char × Doc) → List α
  | [] => []
  | (key, d) :: ms => strings key ++ d.collect ++ collectMembers ms

end

end

/-- The characters of the strings and of the keys. -/
def Doc.chars (d : Doc) : List Char := d.collect id fun _ => []

def charsOfItems (xs : List Doc) : List Char := collectItems id (fun _ => []) xs

def charsOfMembers (ms : List (List Char × Doc)) : List Char := collectMembers id (fun _ => []) ms

/-- The texts of the numbers. -/
def Doc.numbers (d : Doc) : List (List Char) := d.collect (fun _ => []) fun raw => [raw]

/-- Texts that begin with an encoding of one character and go on alike begin alike. -/
def Separated (enc enc' : Char → List Char) : Prop :=
  ∀ c xs ys, enc c ++ xs = enc' c ++ ys → enc c = enc' c

section

variable {enc enc' : Char → List Char}

theorem flatMap_eq_of_append (hsep : Separated enc enc') {s xs ys : List Char}
    (h : s.flatMap enc ++ xs = s.flatMap enc' ++ ys) : (∀ c ∈ s, enc c = enc' c) ∧ xs = ys := by
  induction s with
  | nil => exact ⟨nofun, h⟩
  | cons c s ih =>
      rw [List.flatMap_cons, List.flatMap_cons, List.append_assoc, List.append_assoc] at h
      have hc := hsep c _ _ h
      rw [hc] at h
      obtain ⟨hs, hrest⟩ := ih (List.append_cancel_left h)
      exact ⟨List.forall_mem_cons.mpr ⟨hc, hs⟩, hrest⟩

theorem writeString_eq_of_append (hsep : Separated enc enc') {s xs ys : List Char}
    (h : writeString enc s ++ xs = writeString enc' s ++ ys) :
    (∀ c ∈ s, enc c = enc' c) ∧ xs = ys := by
  rw [writeString, writeString, List.cons_append, List.cons_append, List.append_assoc,
    List.append_assoc] at h
  obtain ⟨hs, hrest⟩ := flatMap_eq_of_append hsep (List.cons.inj h).2
  exact ⟨hs, (List.cons.inj hrest).2⟩

mutual

theorem write_eq_of_append (hsep : Separated enc enc') : ∀ (d : Doc) (xs ys : List Char),
    write enc d ++ xs = write enc' d ++ ys → (∀ c ∈ d.chars, enc c = enc' c) ∧ xs = ys
  | .null, _, _, h => ⟨nofun, List.append_cancel_left h⟩
  | .bool true, _, _, h => ⟨nofun, List.append_cancel_left h⟩
  | .bool false, _, _, h => ⟨nofun, List.append_cancel_left h⟩
  | .number _, _, _, h => ⟨nofun, List.append_cancel_left h⟩
  | .string s, _, _, h => writeString_eq_of_append hsep h
  | .array items, _, _, h => by
      rw [write, write, List.cons_append, List.cons_append] at h
      cases items with
      | nil => exact ⟨nofun, List.append_cancel_left (List.cons.inj h).2⟩
      | cons x items =>
          rw [writeItems, writeItems, List.append_assoc, List.append_assoc] at h
          obtain ⟨hx, h⟩ := write_eq_of_append hsep x _ _ (List.cons.inj h).2
          obtain ⟨hitems, h⟩ := writeItemsTail_eq_of_append hsep items _ _ h
          exact ⟨List.forall_mem_append.mpr ⟨hx, hitems⟩, h⟩
  | .object ms, _, _, h => by
      rw [write, write, List.cons_append, List.cons_append] at h
      cases ms with
      | nil => exact ⟨nofun, List.append_cancel_left (List.cons.inj h).2⟩
      | cons m ms =>
          obtain ⟨key, d⟩ := m
          rw [writeMembers, writeMembers, List.append_assoc, List.append_assoc, List.cons_append,
            List.cons_append, List.append_assoc, List.append_assoc] at h
          obtain ⟨hkey, h⟩ := writeString_eq_of_append hsep (List.cons.inj h).2
          obtain ⟨hd, h⟩ := write_eq_of_append hsep d _ _ (List.cons.inj h).2
          obtain ⟨hms, h⟩ := writeMembersTail_eq_of_append hsep ms _ _ h
          exact ⟨List.forall_mem_append.mpr ⟨List.forall_mem_append.mpr ⟨hkey, hd⟩, hms⟩, h⟩

theorem writeItemsTail_eq_of_append (hsep : Separated enc enc') :
    ∀ (items : List Doc) (xs ys : List Char),
    writeItemsTail enc items ++ xs = writeItemsTail enc' items ++ ys →
      (∀ c ∈ charsOfItems items, enc c = enc' c) ∧ xs = ys
  | [], _, _, h => ⟨nofun, List.append_cancel_left h⟩
  | x :: items, _, _, h => by
      rw [writeItemsTail, writeItemsTail, List.cons_append, List.cons_append, List.append_assoc,
        List.append_assoc] at h
      obtain ⟨hx, h⟩ := write_eq_of_append hsep x _ _ (List.cons.inj h).2
      obtain ⟨hitems, h⟩ := writeItemsTail_eq_of_append hsep items _ _ h
      exact ⟨List.forall_mem_append.mpr ⟨hx, hitems⟩, h⟩

theorem writeMembersTail_eq_of_append (hsep : Separated enc enc') :
    ∀ (ms : List (List Char × Doc)) (xs ys : List Char),
    writeMembersTail enc ms ++ xs = writeMembersTail enc' ms ++ ys →
      (∀ c ∈ charsOfMembers ms, enc c = enc' c) ∧ xs = ys
  | [], _, _, h => ⟨nofun, List.append_cancel_left h⟩
  | (key, d) :: ms, _, _, h => by
      rw [writeMembersTail, writeMembersTail, List.cons_append, List.cons_append,
        List.append_assoc, List.append_assoc, List.cons_append, List.cons_append,
        List.append_assoc, List.append_assoc] at h
      obtain ⟨hkey, h⟩ := writeString_eq_of_append hsep (List.cons.inj h).2
      obtain ⟨hd, h⟩ := write_eq_of_append hsep d _ _ (List.cons.inj h).2
      obtain ⟨hms, h⟩ := writeMembersTail_eq_of_append hsep ms _ _ h
      exact ⟨List.forall_mem_append.mpr ⟨List.forall_mem_append.mpr ⟨hkey, hd⟩, hms⟩, h⟩

end

theorem writeString_congr {s : List Char} (h : ∀ c ∈ s, enc c = enc' c) :
    writeString enc s = writeString enc' s := by
  rw [writeString, writeString, List.flatMap_congr h]

mutual

theorem write_congr : ∀ d : Doc, (∀ c ∈ d.chars, enc c = enc' c) → write enc d = write enc' d
  | .null, _ | .bool true, _ | .bool false, _ | .number _, _ | .array [], _ | .object [], _ => rfl
  | .string _, h => writeString_congr h
  | .array (x :: items), h => by
      obtain ⟨hx, hitems⟩ := List.forall_mem_append.mp h
      rw [write, write, writeItems, writeItems, write_congr x hx, writeItemsTail_congr items hitems]
  | .object ((key, d) :: ms), h => by
      obtain ⟨hfirst, hms⟩ := List.forall_mem_append.mp h
      obtain ⟨hkey, hd⟩ := List.forall_mem_append.mp hfirst
      rw [write, write, writeMembers, writeMembers, writeString_congr (s := key) hkey, write_congr d hd,
        writeMembersTail_congr ms hms]

theorem writeItemsTail_congr : ∀ items : List Doc, (∀ c ∈ charsOfItems items, enc c = enc' c) →
    writeItemsTail enc items = writeItemsTail enc' items
  | [], _ => rfl
  | x :: items, h => by
      obtain ⟨hx, hitems⟩ := List.forall_mem_append.mp h
      rw [writeItemsTail, writeItemsTail, write_congr x hx, writeItemsTail_congr items hitems]

theorem writeMembersTail_congr : ∀ ms : List (List Char × Doc),
    (∀ c ∈ charsOfMembers ms, enc c = enc' c) →
      writeMembersTail enc ms = writeMembersTail enc' ms
  | [], _ => rfl
  | (key, d) :: ms, h => by
      obtain ⟨hfirst, hms⟩ := List.forall_mem_append.mp h
      obtain ⟨hkey, hd⟩ := List.forall_mem_append.mp hfirst
      rw [writeMembersTail, writeMembersTail, writeString_congr (s := key) hkey, write_congr d hd,
        writeMembersTail_congr ms hms]

end

/-- Two encodings write a document alike exactly when they agree on its characters. -/
theorem write_eq_iff (hsep : Separated enc enc') (d : Doc) :
    write enc d = write enc' d ↔ ∀ c ∈ d.chars, enc c = enc' c := by
  constructor
  · intro h
    exact (write_eq_of_append hsep d [] [] (by rw [List.append_nil, List.append_nil, h])).1
  · exact write_congr d

end

mutual

theorem Doc.valid_iff : ∀ d : Doc, d.valid = true ↔ ∀ raw ∈ d.numbers, isNumber raw = true
  | .null | .bool _ | .string _ => by simp [Doc.valid, Doc.numbers, Doc.collect]
  | .number raw => by simp [Doc.valid, Doc.numbers, Doc.collect]
  | .array xs => validItems_iff xs
  | .object ms => validMembers_iff ms

theorem validItems_iff : ∀ xs : List Doc, validItems xs = true ↔
    ∀ raw ∈ collectItems (fun _ => []) (fun raw => [raw]) xs, isNumber raw = true
  | [] => by simp [validItems, collectItems]
  | x :: xs => by
      rw [validItems, collectItems, Bool.and_eq_true, List.forall_mem_append, validItems_iff xs,
        Doc.valid_iff x, Doc.numbers]

theorem validMembers_iff : ∀ ms : List (List Char × Doc), validMembers ms = true ↔
    ∀ raw ∈ collectMembers (fun _ => []) (fun raw => [raw]) ms, isNumber raw = true
  | [] => by simp [validMembers, collectMembers]
  | (_, d) :: ms => by
      rw [validMembers, collectMembers, Bool.and_eq_true, List.nil_append, List.forall_mem_append,
        validMembers_iff ms, Doc.valid_iff d, Doc.numbers]

end

/-- The letter of a short escape is not the one of a code unit. -/
theorem shortLetter_ne_u {c letter : Char} (h : shortLetter c = some letter) : letter ≠ 'u' := by
  obtain ⟨p, hfind, rfl⟩ := Option.map_eq_some_iff.mp h
  have hletters : ∀ p ∈ shortEscapes.filter fun p => p.1 ≠ '/', p.1 ≠ 'u' := by decide
  exact hletters p (List.mem_of_find?_eq_some hfind)

theorem hex_encode_cons (upper : Bool) (c : Char) :
    ∃ tail, (Form.hex upper).encode c = '\\' :: 'u' :: tail := by
  rw [Form.encode]
  unfold utf16
  split <;> exact ⟨_, rfl⟩

theorem hex_encode_length (upper upper' : Bool) (c : Char) :
    ((Form.hex upper).encode c).length = ((Form.hex upper').encode c).length := by
  rw [Form.encode, Form.encode]
  unfold utf16
  split <;> simp [unicodeEscape]

/-- Encodings in allowed forms are told apart where they differ. -/
theorem separated_of_allowed {form form' : Char → Form} (h : ∀ c, (form c).allowed c)
    (h' : ∀ c, (form' c).allowed c) :
    Separated (fun c => (form c).encode c) (fun c => (form' c).encode c) := by
  intro c xs ys heq
  have hc := h c
  have hc' := h' c
  simp only at heq ⊢
  cases hform : form c with
  | raw =>
      rw [hform] at hc heq
      cases hform' : form' c with
      | raw => rfl
      | short letter =>
          rw [hform'] at heq
          exact absurd (List.cons.inj heq).1 hc.2.2
      | hex upper =>
          obtain ⟨tail, htail⟩ := hex_encode_cons upper c
          rw [hform', htail] at heq
          exact absurd (List.cons.inj heq).1 hc.2.2
  | short letter =>
      rw [hform] at hc heq
      cases hform' : form' c with
      | raw =>
          rw [hform'] at hc' heq
          exact absurd (List.cons.inj heq).1.symm hc'.2.2
      | short letter' =>
          rw [hform'] at hc'
          rw [Option.some.inj (hc.symm.trans hc')]
      | hex upper =>
          obtain ⟨tail, htail⟩ := hex_encode_cons upper c
          rw [hform', htail] at heq
          exact absurd (List.cons.inj (List.cons.inj heq).2).1 (shortLetter_ne_u hc)
  | hex upper =>
      cases hform' : form' c with
      | raw =>
          obtain ⟨tail, htail⟩ := hex_encode_cons upper c
          rw [hform'] at hc' heq
          rw [hform, htail] at heq
          exact absurd (List.cons.inj heq).1.symm hc'.2.2
      | short letter =>
          obtain ⟨tail, htail⟩ := hex_encode_cons upper c
          rw [hform'] at hc' heq
          rw [hform, htail] at heq
          exact absurd (List.cons.inj (List.cons.inj heq).2).1.symm (shortLetter_ne_u hc')
      | hex upper' =>
          rw [hform, hform'] at heq
          exact (List.append_inj heq (hex_encode_length upper upper' c)).1

end AutocadMcp.JsonText
