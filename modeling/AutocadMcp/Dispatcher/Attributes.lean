import AutocadMcp.Dispatcher.ReadsBack

/-!
# The attributes of a block

Python sends the attributes of a block as one string, each tag and value behind its length,
and AutoLISP reads them back position by position. Nothing closes a value, so it may have
digits and colons in it.
-/

namespace AutocadMcp.Dispatcher

open AutoLisp JsonText CanonicalJson

/-! ## Writing -/

/-- `f"{len(text)}:{text}"`. -/
def lengthPrefixed (text : Str) : Str := Nat.toDigits 10 text.length ++ ':' :: text

def encodePair (p : Str × Str) : Str := lengthPrefixed p.1 ++ lengthPrefixed p.2

/-- `encode_attributes`, on the texts of the tags and the values. -/
def encodeAttributes : Option (List (Str × Str)) → Except String Str
  | none => .ok []
  | some attributes => do
      let parts ← attributes.mapM fun p => do
        check (p.1 ≠ []) "Attribute tag must not be empty"
        return encodePair p
      return parts.flatten

/-! ## Reading -/

/-- `(atoi s)`: the number in front of the first character that is not a digit. -/
def atoi (s : Str) : ℤ :=
  match s with
  | '-' :: s => -(Nat.ofDigitChars 10 (s.takeWhile Char.isDigit) 0 : ℕ)
  | s => (Nat.ofDigitChars 10 (s.takeWhile Char.isDigit) 0 : ℕ)

/-- `(mcp-read-length text pos)`: the length, and the position behind its colon. -/
def readLength (text : Str) (pos : ℕ) : Option (ℤ × ℕ) :=
  (vlStringSearch [':'] text (pos - 1)).map fun colon =>
    (atoi (substr text pos (colon + 1 - pos)), colon + 2)

/-- `(substr text pos length)`, which refuses a length below zero. -/
def takeLength (text : Str) (pos : ℕ) (length : ℤ) : Option Str :=
  if 0 ≤ length then some (substr text pos length.toNat) else none

theorem lt_of_readLength {text : Str} {pos next : ℕ} {length : ℤ}
    (h : readLength text pos = some (length, next)) : pos < next := by
  obtain ⟨colon, hcolon, heq⟩ := Option.map_eq_some_iff.mp h
  obtain ⟨before, after, -, hbehind, -⟩ := findFrom_eq_some hcolon
  cases heq
  omega

/-- The loop of `mcp-parse-attributes`; without a value where AutoLISP stops with an error. -/
def parseFrom (text : Str) (pos : ℕ) (result : List (Str × Str)) : Option (List (Str × Str)) :=
  if pos ≤ strlen text then
    match _htag : readLength text pos with
    | none => some result
    | some (tagLength, tagPos) =>
        (takeLength text tagPos tagLength).bind fun tag =>
          match _hvalue : readLength text (tagPos + tagLength.toNat) with
          | none => some result
          | some (valueLength, valuePos) =>
              (takeLength text valuePos valueLength).bind fun value =>
                parseFrom text (valuePos + valueLength.toNat) (result ++ [(tag, value)])
  else some result
termination_by strlen text + 1 - pos
decreasing_by
  have hnext := lt_of_readLength _htag
  have hlast := lt_of_readLength _hvalue
  omega

/-- `(mcp-parse-attributes text)`. -/
def parseAttributes (text : Str) : Option (List (Str × Str)) := parseFrom text 1 []

/-! ## A length in its place -/

theorem atoi_toDigits (n : ℕ) : atoi (Nat.toDigits 10 n) = n := by
  have hhead : ∀ s : Str, Nat.toDigits 10 n ≠ '-' :: s := by
    intro s h
    have hdigit := toDigits_isDigit (n := n) '-' (h ▸ List.mem_cons_self)
    exact absurd hdigit (by decide)
  unfold atoi
  split
  · rename_i s heq
    exact absurd heq (hhead s)
  · rw [takeWhile_toDigits, Nat.ofDigitChars_ten_toDigits]

variable {x text rest : Str}

theorem readLength_behind : readLength (x ++ (lengthPrefixed text ++ rest)) (x.length + 1) =
    some ((text.length : ℤ), (x ++ (Nat.toDigits 10 text.length ++ [':'])).length + 1) := by
  have hcolon : ':' ∉ Nat.toDigits 10 text.length := by
    intro h
    exact absurd (toDigits_isDigit ':' h) (by decide)
  unfold readLength vlStringSearch lengthPrefixed
  rw [Nat.add_sub_cancel, List.drop_left, List.append_assoc, List.cons_append,
    findFrom_char _ _ _ hcolon, Option.map_some, substr_behind]
  have hdigits : x.length + (Nat.toDigits 10 text.length).length + 1 - (x.length + 1) =
      (Nat.toDigits 10 text.length).length := by omega
  rw [hdigits, List.take_left, atoi_toDigits]
  simp only [List.length_append, List.length_singleton, add_assoc]

theorem takeLength_behind :
    takeLength (x ++ (text ++ rest)) (x.length + 1) text.length = some text := by
  rw [takeLength, if_pos (Int.natCast_nonneg _), Int.toNat_natCast, substr_behind, List.take_left]

/-! ## All the pairs -/

/-- One turn of the loop reads one pair and stops right behind it. -/
theorem parseFrom_pair (x rest : Str) (p : Str × Str) (result : List (Str × Str)) :
    parseFrom (x ++ (encodePair p ++ rest)) (x.length + 1) result =
      parseFrom (x ++ (encodePair p ++ rest)) ((x ++ encodePair p).length + 1)
        (result ++ [p]) := by
  have htag := @readLength_behind x p.1 (lengthPrefixed p.2 ++ rest)
  have hname := @takeLength_behind (x ++ (Nat.toDigits 10 p.1.length ++ [':'])) p.1
    (lengthPrefixed p.2 ++ rest)
  have hvalue := @readLength_behind (x ++ lengthPrefixed p.1) p.2 rest
  have hbody := @takeLength_behind (x ++ lengthPrefixed p.1 ++
    (Nat.toDigits 10 p.2.length ++ [':'])) p.2 rest
  -- the same text, split at four places
  have htext₁ : x ++ (lengthPrefixed p.1 ++ (lengthPrefixed p.2 ++ rest)) =
      x ++ (encodePair p ++ rest) := by simp [encodePair]
  have htext₂ : x ++ (Nat.toDigits 10 p.1.length ++ [':']) ++
      (p.1 ++ (lengthPrefixed p.2 ++ rest)) = x ++ (encodePair p ++ rest) := by
    simp [encodePair, lengthPrefixed]
  have htext₃ : x ++ lengthPrefixed p.1 ++ (lengthPrefixed p.2 ++ rest) =
      x ++ (encodePair p ++ rest) := by simp [encodePair]
  have htext₄ : x ++ lengthPrefixed p.1 ++ (Nat.toDigits 10 p.2.length ++ [':']) ++
      (p.2 ++ rest) = x ++ (encodePair p ++ rest) := by simp [encodePair, lengthPrefixed]
  rw [htext₁] at htag
  rw [htext₂] at hname
  rw [htext₃] at hvalue
  rw [htext₄] at hbody
  have hpos : (x ++ (Nat.toDigits 10 p.1.length ++ [':'])).length + 1 + (p.1.length : ℤ).toNat =
      (x ++ lengthPrefixed p.1).length + 1 := by
    simp only [lengthPrefixed, List.length_append, List.length_cons, List.length_nil,
      Int.toNat_natCast]
    omega
  have hend : (x ++ lengthPrefixed p.1 ++ (Nat.toDigits 10 p.2.length ++ [':'])).length + 1 +
      (p.2.length : ℤ).toNat = (x ++ encodePair p).length + 1 := by
    simp only [encodePair, lengthPrefixed, List.length_append, List.length_cons, List.length_nil,
      Int.toNat_natCast]
    omega
  have hinside : x.length + 1 ≤ strlen (x ++ (encodePair p ++ rest)) := by
    simp only [strlen_append, encodePair, lengthPrefixed, List.length_append, List.length_cons]
    omega
  rw [parseFrom, if_pos hinside]
  split
  · rename_i hnone
    rw [htag] at hnone
    cases hnone
  · rename_i tagLength tagPos hsome
    rw [htag] at hsome
    cases hsome
    rw [hname, Option.bind_some]
    split
    · rename_i hnone
      rw [hpos, hvalue] at hnone
      cases hnone
    · rename_i valueLength valuePos hsome
      rw [hpos, hvalue] at hsome
      cases hsome
      rw [hbody, Option.bind_some, hend]

theorem parseFrom_pairs (d : List (Str × Str)) (x : Str) (result : List (Str × Str)) :
    parseFrom (x ++ d.flatMap encodePair) (x.length + 1) result = some (result ++ d) := by
  induction d generalizing x result with
  | nil =>
      have hend : ¬ x.length + 1 ≤ strlen (x ++ []) := by
        rw [List.append_nil]
        exact Nat.not_succ_le_self _
      rw [List.flatMap_nil, parseFrom, if_neg hend, List.append_nil]
  | cons p d ih =>
      have hnext := ih (x ++ encodePair p) (result ++ [p])
      rw [List.append_assoc, List.append_assoc] at hnext
      rw [List.flatMap_cons, parseFrom_pair, hnext]
      rfl

/-- The parts of a dictionary are written exactly when none of its tags is empty. -/
theorem mapM_encodePair {d : List (Str × Str)} {parts : List Str} :
    (d.mapM fun p => do
      check (p.1 ≠ []) "Attribute tag must not be empty"
      return encodePair p) = .ok parts ↔ (∀ p ∈ d, p.1 ≠ []) ∧ parts = d.map encodePair := by
  induction d generalizing parts with
  | nil =>
      rw [List.mapM_nil]
      constructor
      · intro h
        cases h
        exact ⟨by simp, rfl⟩
      · rintro ⟨-, rfl⟩
        rfl
  | cons p d ih =>
      rw [List.mapM_cons]
      simp only [bind_eq_ok, check_eq_ok, List.forall_mem_cons, List.map_cons]
      constructor
      · rintro ⟨part, ⟨-, htag, hpart⟩, tail, htail, hparts⟩
        cases hpart
        cases hparts
        obtain ⟨htags, rfl⟩ := ih.mp htail
        exact ⟨⟨htag, htags⟩, rfl⟩
      · rintro ⟨⟨htag, htags⟩, rfl⟩
        exact ⟨_, ⟨(), htag, rfl⟩, _, ih.mpr ⟨htags, rfl⟩, rfl⟩

theorem encodeAttributes_eq_ok {d : List (Str × Str)} {text : Str} :
    encodeAttributes (some d) = .ok text ↔ (∀ p ∈ d, p.1 ≠ []) ∧ text = d.flatMap encodePair := by
  simp only [encodeAttributes, bind_eq_ok, mapM_encodePair]
  constructor
  · rintro ⟨parts, ⟨htags, rfl⟩, htext⟩
    cases htext
    exact ⟨htags, rfl⟩
  · rintro ⟨htags, rfl⟩
    exact ⟨_, ⟨htags, rfl⟩, rfl⟩

/-- What AutoLISP reads is what Python wrote, whatever the values are, and no two dictionaries are
written alike. -/
theorem attributes_decoded {d : List (Str × Str)} (h : ∀ p ∈ d, p.1 ≠ []) :
    ∃ text, encodeAttributes (some d) = .ok text ∧ parseAttributes text = some d ∧
      ∀ d', encodeAttributes (some d') = .ok text → d' = d := by
  have hparse : ∀ d : List (Str × Str), parseAttributes (d.flatMap encodePair) = some d :=
    fun d => parseFrom_pairs d [] []
  refine ⟨_, encodeAttributes_eq_ok.mpr ⟨h, rfl⟩, hparse d, fun d' hd' => ?_⟩
  have hsame := (encodeAttributes_eq_ok.mp hd').2
  have hback := hparse d'
  rw [← hsame, hparse d] at hback
  exact (Option.some.inj hback).symm

/-- A value that looks like a pair of its own, and one that is empty. -/
def awkwardAttributes : List (Str × Str) :=
  [(['T', 'A', 'G'], ['3', ':', 'A', ':', 'B', '1', ':']), (['2', ':'], [])]

theorem awkwardAttributes_decoded : ∃ text, encodeAttributes (some awkwardAttributes) = .ok text ∧
    parseAttributes text = some awkwardAttributes ∧
    ∀ d', encodeAttributes (some d') = .ok text → d' = awkwardAttributes :=
  attributes_decoded (by decide)

end AutocadMcp.Dispatcher
