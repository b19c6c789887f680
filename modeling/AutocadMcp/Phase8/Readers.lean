import AutocadMcp.Phase8.PlanJson
import AutocadMcp.Phase8.Validator
import Mathlib.Tactic.NormNum

/-!
# What the readers of the host take

Each reader accepts the field that the Python model writes: an identifier, a digest, an
integer that fits, and the canonical text of a number, which is read back as its value.
-/

namespace AutocadMcp.Phase8

open JsonText CanonicalJson Host Program

/-! ## Names -/

theorem plain_of_isAlphanum {c : Char} (h : c.isAlphanum = true) : plain c = true := by
  simp only [Char.isAlphanum, Char.isAlpha, Char.isUpper, Char.isLower, Char.isDigit,
    Bool.or_eq_true, Bool.and_eq_true, decide_eq_true_eq, ge_iff_le, UInt32.le_iff_toNat_le] at h
  have hval : c.val.toNat = c.toNat := rfl
  simp only [hval, Char.reduceVal, UInt32.reduceToNat] at h
  simp only [plain, Bool.and_eq_true, decide_eq_true_eq]
  omega

theorem isIdentifier_plain {s : String} (h : isIdentifier s = true) : s.toList.all plain = true := by
  unfold isIdentifier at h
  split at h
  · exact absurd h (by decide)
  · rename_i c cs hs
    simp only [Bool.and_eq_true, decide_eq_true_eq] at h
    rw [hs, List.all_cons, plain_of_isAlphanum h.1.1, Bool.true_and, List.all_eq_true]
    intro x hx
    have hchar := List.all_eq_true.mp h.2 x hx
    simp only [isIdentifierChar, Bool.or_eq_true, decide_eq_true_eq] at hchar
    rcases hchar with ((hchar | rfl) | rfl) | rfl
    · exact plain_of_isAlphanum hchar
    all_goals decide

theorem isIdentifier_length {s : String} (h : isIdentifier s = true) :
    s.toList ≠ [] ∧ s.length ≤ 128 := by
  unfold isIdentifier at h
  split at h
  · exact absurd h (by decide)
  · rename_i c cs hs
    simp only [Bool.and_eq_true, decide_eq_true_eq] at h
    rw [← String.length_toList, hs, List.length_cons]
    exact ⟨by simp, by omega⟩

theorem isDigest_plain {s : String} (h : Program.isDigest s = true) : s.toList.all plain = true := by
  simp only [Program.isDigest, Bool.and_eq_true, decide_eq_true_eq] at h
  obtain ⟨⟨⟨rest, hrest⟩, -⟩, hdigits⟩ := h
  have hdrop : s.toList.drop 7 = rest := by
    rw [← hrest]
    rfl
  rw [hdrop] at hdigits
  rw [← hrest, List.all_append, Bool.and_eq_true]
  refine ⟨by decide, List.all_eq_true.mpr fun c hc => ?_⟩
  have hhex := List.all_eq_true.mp hdigits c hc
  simp only [Bool.or_eq_true, Bool.and_eq_true, decide_eq_true_eq] at hhex
  rcases hhex with hdigit | ⟨hlow, hhigh⟩
  · exact plain_of_isAlphanum (by simp [Char.isAlphanum, hdigit])
  · have hl : 'a'.toNat ≤ c.toNat := hlow
    have hh : c.toNat ≤ 'f'.toNat := hhigh
    simp only [Char.reduceToNat] at hl hh
    simp only [plain, Bool.and_eq_true, decide_eq_true_eq]
    omega

theorem isDigest_length {s : String} (h : Program.isDigest s = true) : s.length = 71 := by
  simp only [Program.isDigest, Bool.and_eq_true, decide_eq_true_eq] at h
  exact h.1.2

theorem basic_of_plain {s : List Char} (h : s.all plain = true) : ∀ c ∈ s, c.toNat < 0x10000 := by
  intro c hc
  have hplain := List.all_eq_true.mp h c hc
  simp only [plain, Bool.and_eq_true, decide_eq_true_eq] at hplain
  omega

theorem toList_ne_nil_of_length {s : String} (h : 1 ≤ s.length) : s.toList ≠ [] := by
  intro hnil
  rw [← String.length_toList, hnil] at h
  exact absurd h (by decide)

/-! ## Fields -/

section

variable {d : Doc} {name s : String}

theorem requireBoundedString_text {maximum : Nat} (hget : d.get? name = some (text s))
    (hne : s.toList ≠ []) (hlength : utf16Length s ≤ maximum) :
    requireBoundedString d name maximum = .ok s := by
  rw [requireBoundedString, hget, text]
  simp only [String.ofList_toList]
  exact pass (check_true ⟨hne, hlength⟩) rfl

/-- A string of the source that the host takes by its length. -/
theorem requireBoundedString_plain {maximum : Nat} (hget : d.get? name = some (text s))
    (hne : s.toList ≠ []) (hplain : s.toList.all plain = true) (hlength : s.length ≤ maximum) :
    requireBoundedString d name maximum = .ok s :=
  requireBoundedString_text hget hne
    (le_of_eq_of_le (utf16Length_basic (basic_of_plain hplain)) hlength)

theorem requireIdentifier_text (hget : d.get? name = some (text s)) (h : isIdentifier s = true) :
    requireIdentifier d name = .ok s := by
  obtain ⟨hne, hlength⟩ := isIdentifier_length h
  rw [requireIdentifier, requireBoundedString_plain hget hne (isIdentifier_plain h) hlength]
  exact pass (check_true (by rw [matchesToEnd, h, Bool.true_or])) rfl

theorem requireDigest_text (hget : d.get? name = some (text s)) (h : Program.isDigest s = true) :
    requireDigest d name = .ok s := by
  have hlength := isDigest_length h
  rw [requireDigest, requireBoundedString_plain hget (toList_ne_nil_of_length (by omega))
    (isDigest_plain h) hlength.le]
  exact pass (check_true (by rw [matchesToEnd, h, Bool.true_or])) rfl

theorem requireString_text (hget : d.get? name = some (text s)) : requireString d name s = .ok () := by
  rw [requireString, hget, text]
  exact check_true String.ofList_toList

theorem stringAt_text (hget : d.get? name = some (text s)) : stringAt d name = .ok s := by
  rw [stringAt, getProperty, hget]
  show Except.ok (String.ofList s.toList) = Except.ok s
  rw [String.ofList_toList]

theorem getProperty_eq {v : Doc} (hget : d.get? name = some v) :
    getProperty d name = .ok v := by
  rw [getProperty, hget]

theorem requireArray_items {l : List Doc} {minimum maximum : Nat}
    (hget : d.get? name = some (.array l)) (hmin : minimum ≤ l.length)
    (hmax : l.length ≤ maximum) : requireArray d name minimum maximum = .ok l := by
  rw [requireArray, getProperty_eq hget]
  exact pass (check_true ⟨hmin, hmax⟩) rfl

theorem requireSame_texts {e : Doc} {name' : String} (hget : d.get? name = some (text s))
    (hget' : e.get? name' = some (text s)) (hne : s.toList ≠ []) (hlength : utf16Length s ≤ 256) :
    requireSame d name e name' = .ok () := by
  rw [requireSame, requireBoundedString_text hget hne hlength,
    requireBoundedString_text hget' hne hlength]
  exact check_true rfl

end

/-! ## Integers -/

theorem digitsValue_toDigits (n : Nat) : digitsValue (Nat.toDigits 10 n) = n :=
  Nat.ofDigitChars_ten_toDigits

/-- `TryGetInt32` on the text of an integer. -/
theorem int32?_intText (n : Int) :
    int32? (intText n) = if -2147483648 ≤ n ∧ n ≤ 2147483647 then some n else none := by
  have hdigits : (Nat.toDigits 10 n.natAbs).all Char.isDigit = true :=
    List.all_eq_true.mpr toDigits_isDigit
  have hne : Nat.toDigits 10 n.natAbs ≠ [] := by simp
  unfold int32? intText
  split
  · simp only [List.head?_cons, ↓reduceIte, List.tail_cons, digitsValue_toDigits, ne_eq, hne,
      not_false_eq_true, hdigits, true_and]
    have habs : -(n.natAbs : Int) = n := by omega
    rw [habs]
  · simp only [toDigits_head_ne_minus, ↓reduceIte, digitsValue_toDigits, ne_eq, hne,
      not_false_eq_true, hdigits, true_and]
    have habs : (n.natAbs : Int) = n := by omega
    rw [habs]

section

variable {d : Doc} {name : String} {n : Int}

theorem tryGetInt32_integer (hget : d.get? name = some (integer n)) (hlow : -2147483648 ≤ n)
    (hhigh : n ≤ 2147483647) : tryGetInt32 d name = .ok (some n) := by
  rw [tryGetInt32, hget, integer]
  show Except.ok (int32? (intText n)) = _
  rw [int32?_intText, if_pos ⟨hlow, hhigh⟩]

theorem requirePositiveInteger_integer (hget : d.get? name = some (integer n)) (hlow : 1 ≤ n)
    (hhigh : n ≤ 2147483647) : requirePositiveInteger d name = .ok n := by
  rw [requirePositiveInteger, tryGetInt32_integer hget (by omega) hhigh]
  exact pass (check_true hlow) rfl

theorem requireNonNegativeInteger_integer (hget : d.get? name = some (integer n)) (hlow : 0 ≤ n)
    (hhigh : n ≤ 2147483647) : requireNonNegativeInteger d name = .ok n := by
  rw [requireNonNegativeInteger, tryGetInt32_integer hget (by omega) hhigh]
  exact pass (check_true hlow) rfl

theorem requireInteger_integer (hget : d.get? name = some (integer n)) (hlow : -2147483648 ≤ n)
    (hhigh : n ≤ 2147483647) : requireInteger d name n = .ok () := by
  rw [requireInteger, tryGetInt32_integer hget hlow hhigh]
  exact check_true rfl

theorem int32At_integer (hget : d.get? name = some (integer n)) (hlow : -2147483648 ≤ n)
    (hhigh : n ≤ 2147483647) : int32At d name = .ok n := by
  rw [int32At, tryGetInt32_integer hget hlow hhigh]
  rfl

/-- The host takes no integer beyond 32 bits. -/
theorem requirePositiveInteger_bound {m : Int} (hget : d.get? name = some (integer n))
    (h : requirePositiveInteger d name = .ok m) : n ≤ 2147483647 := by
  by_contra hlarge
  rw [requirePositiveInteger, tryGetInt32, hget, integer] at h
  simp only [int32?_intText] at h
  rw [if_neg (by omega)] at h
  cases h

end

/-! ## Numbers -/

theorem digitChar_isDigit {k : Nat} (h : k < 10) : (Nat.digitChar k).isDigit = true := by
  interval_cases k <;> decide

theorem fractionDigits_length (n : Nat) : (fractionDigits n).length = 9 := rfl

theorem fractionDigits_isDigit (n : Nat) : ∀ c ∈ fractionDigits n, c.isDigit = true := by
  intro c hc
  obtain ⟨unit, -, rfl⟩ := List.mem_map.mp hc
  exact digitChar_isDigit (Nat.mod_lt _ (by decide))

theorem digitsValue_fractionDigits {n : Nat} (h : n < 1000000000) :
    digitsValue (fractionDigits n) = n := by
  have hdigit : ∀ m, (Nat.digitChar (m % 10)).toNat - '0'.toNat = m % 10 := fun m =>
    Nat.toNat_digitChar_sub_48_of_lt_ten (Nat.mod_lt _ (by decide))
  have hstep : ∀ unit, 10 * (n / (unit * 10)) + n / unit % 10 = n / unit := by
    intro unit
    rw [← Nat.div_div_eq_div_mul]
    exact Nat.div_add_mod (n / unit) 10
  have htop : 0 = n / (100000000 * 10) := (Nat.div_eq_of_lt h).symm
  simp only [digitsValue, fractionDigits, List.map_cons, List.map_nil, List.foldl_cons,
    List.foldl_nil, hdigit]
  rw [htop, hstep 100000000, show 10 * (n / 100000000) + n / 10000000 % 10 = _ from hstep 10000000,
    show 10 * (n / 10000000) + n / 1000000 % 10 = _ from hstep 1000000,
    show 10 * (n / 1000000) + n / 100000 % 10 = _ from hstep 100000,
    show 10 * (n / 100000) + n / 10000 % 10 = _ from hstep 10000,
    show 10 * (n / 10000) + n / 1000 % 10 = _ from hstep 1000,
    show 10 * (n / 1000) + n / 100 % 10 = _ from hstep 100,
    show 10 * (n / 100) + n / 10 % 10 = _ from hstep 10,
    show 10 * (n / 10) + n / 1 % 10 = _ from hstep 1, Nat.div_one]

/-- Digits without the zeros at their end. -/
theorem exists_stripped (digits : List Char) : ∃ kept zeros, digits =
    kept ++ List.replicate zeros '0' ∧ digits.rdropWhile (· = '0') = kept ∧
      kept.getLast? ≠ some '0' := by
  induction digits using List.reverseRecOn with
  | nil => exact ⟨[], 0, rfl, rfl, by simp⟩
  | append_singleton digits c ih =>
      by_cases hc : c = '0'
      · subst hc
        obtain ⟨kept, zeros, hdigits, hkept, hlast⟩ := ih
        refine ⟨kept, zeros + 1, ?_, ?_, hlast⟩
        · conv_lhs => rw [hdigits]
          rw [List.append_assoc, List.replicate_succ']
        · rw [List.rdropWhile_concat_pos _ _ _ (by simp), hkept]
      · refine ⟨digits ++ [c], 0, by simp, ?_, by simpa using hc⟩
        rw [List.rdropWhile_concat_neg _ _ _ (by simpa using hc)]

theorem rdropWhile_append_cons {p : Char → Bool} {xs ys : List Char} {c : Char}
    (h : p c = false) : (xs ++ c :: ys).rdropWhile p = xs ++ c :: ys.rdropWhile p := by
  induction ys using List.reverseRecOn with
  | nil => rw [List.rdropWhile_concat_neg _ _ _ (by simp [h]), List.rdropWhile_nil]
  | append_singleton ys y ih =>
      by_cases hy : p y = true
      · rw [← List.cons_append, ← List.append_assoc, List.rdropWhile_concat_pos _ _ _ hy, ih,
          List.rdropWhile_concat_pos _ _ _ hy]
      · rw [← List.cons_append, ← List.append_assoc, List.rdropWhile_concat_neg _ _ _ hy,
          List.rdropWhile_concat_neg _ _ _ hy, List.append_assoc, List.cons_append]

/-- A whole part and the digits of a fraction, without the zeros at the end. -/
theorem strip_eq {whole digits : List Char} (hwhole : ∀ c ∈ whole, c.isDigit = true)
    (hdigits : ∀ c ∈ digits, c.isDigit = true) :
    ((whole ++ '.' :: digits).rdropWhile (· = '0')).rdropWhile (· = '.') =
      if digits.rdropWhile (· = '0') = [] then whole
      else whole ++ '.' :: digits.rdropWhile (· = '0') := by
  have hdot : ∀ {cs : List Char}, (∀ c ∈ cs, c.isDigit = true) → cs.rdropWhile (· = '.') = cs := by
    intro cs hcs
    refine (List.rdropWhile_eq_self_iff).mpr fun hl hlast => ?_
    have hc := hcs _ (List.getLast_mem hl)
    rw [of_decide_eq_true hlast] at hc
    exact absurd hc (by decide)
  have hsub : ∀ c ∈ digits.rdropWhile (· = '0'), c.isDigit = true := fun c hc =>
    hdigits c ((List.rdropWhile_prefix (· = '0') digits).subset hc)
  rw [rdropWhile_append_cons (by decide)]
  split
  · rename_i hnil
    rw [hnil, List.rdropWhile_concat_pos _ _ _ (by simp), hdot hwhole]
  · rename_i hkept
    refine (List.rdropWhile_eq_self_iff).mpr fun hl hlast => ?_
    have hmem : (whole ++ '.' :: digits.rdropWhile (· = '0')).getLast hl ∈
        digits.rdropWhile (· = '0') := by
      rw [List.getLast_append_of_ne_nil hl (by simp), List.getLast_cons hkept]
      exact List.getLast_mem hkept
    have hc := hsub _ hmem
    rw [of_decide_eq_true hlast] at hc
    exact absurd hc (by decide)

/-- The value of a decimal text after its sign. -/
def unsignedDecimal (body : List Char) : Option Rat :=
  let whole := body.takeWhile Char.isDigit
  let (fits, fraction) : Bool × List Char :=
    match body.dropWhile Char.isDigit with
    | [] => (true, [])
    | '.' :: rest => (1 ≤ rest.length && rest.length ≤ 18 && rest.all Char.isDigit, rest)
    | _ => (false, [])
  if fits && (whole = ['0'] || (whole.head?.any (· ≠ '0') && whole.length ≤ 19)) then
    some (digitsValue whole + digitsValue fraction / 10 ^ fraction.length)
  else none

theorem decimal?_signed (body : List Char) :
    decimal? (String.ofList ('-' :: body)) = (unsignedDecimal body).map fun value => -value := by
  unfold decimal? unsignedDecimal
  rw [String.toList_ofList, apply_ite (Option.map _)]
  rfl

theorem decimal?_unsigned {c : Char} {rest : List Char} (hc : c ≠ '-') :
    decimal? (String.ofList (c :: rest)) = unsignedDecimal (c :: rest) := by
  unfold decimal? unsignedDecimal
  rw [String.toList_ofList]
  split
  rename_i negative body heq
  split at heq
  · rename_i h
    exact absurd (List.cons.inj h).1 hc
  · cases heq
    rfl

/-- A text of the pattern has the value of its digits. -/
theorem unsignedDecimal_parts {w fraction : List Char}
    (hwhole : ∀ c ∈ w, c.isDigit = true) (hform : isWhole w = true)
    (hlength : w.length ≤ 19) (hfraction : ∀ c ∈ fraction, c.isDigit = true)
    (hshort : fraction.length ≤ 18) :
    unsignedDecimal (if fraction = [] then w else w ++ '.' :: fraction) =
      some ((digitsValue w : Rat) + digitsValue fraction / 10 ^ fraction.length) := by
  have hfits : (w = ['0'] || (w.head?.any (· ≠ '0') && w.length ≤ 19)) = true := by
    simp only [isWhole, Bool.or_eq_true, Bool.and_eq_true, decide_eq_true_eq] at hform ⊢
    refine hform.imp id fun h => ⟨?_, hlength⟩
    cases w with
    | nil => exact absurd h.1 (by decide)
    | cons c cs => simpa using h.2
  unfold unsignedDecimal
  by_cases hnil : fraction = []
  · subst hnil
    simp only [↓reduceIte]
    rw [List.takeWhile_eq_self_iff.mpr hwhole, List.dropWhile_eq_nil_iff.mpr hwhole]
    simp only [Bool.true_and]
    rw [if_pos hfits]
  · have hlen : 1 ≤ fraction.length := List.length_pos_of_ne_nil hnil
    have hall : fraction.all Char.isDigit = true := List.all_eq_true.mpr hfraction
    rw [if_neg hnil, List.takeWhile_append_of_pos hwhole, List.dropWhile_append_of_pos hwhole,
      List.takeWhile_cons_of_neg (by decide), List.dropWhile_cons_of_neg (by decide),
      List.append_nil]
    simp only
    rw [if_pos (by rw [hfits, hall]; simp [hlen, hshort])]

theorem digitsValue_append_zeros (kept : List Char) (zeros : Nat) :
    digitsValue (kept ++ List.replicate zeros '0') = digitsValue kept * 10 ^ zeros := by
  show Nat.ofDigitChars 10 _ 0 = Nat.ofDigitChars 10 _ 0 * _
  rw [Nat.ofDigitChars_append, Nat.ofDigitChars_replicate_zero, Nat.mul_comm]

/-- The whole part and the fraction of a number of units. -/
def wholeDigits (n : Nat) : List Char := Nat.toDigits 10 (n / 1000000000)

def keptDigits (n : Nat) : List Char := (fractionDigits (n % 1000000000)).rdropWhile (· = '0')

def unsignedText (n : Nat) : List Char :=
  if keptDigits n = [] then wholeDigits n else wholeDigits n ++ '.' :: keptDigits n

theorem keptDigits_isDigit (n : Nat) : ∀ c ∈ keptDigits n, c.isDigit = true := fun c hc =>
  fractionDigits_isDigit _ c ((List.rdropWhile_prefix _ _).subset hc)

theorem keptDigits_length (n : Nat) : (keptDigits n).length ≤ 9 :=
  (List.rdropWhile_prefix _ _).length_le

theorem wholeDigits_length {n : Nat} (h : n ≤ 1000000000000000000) :
    (wholeDigits n).length ≤ 10 :=
  (Nat.length_toDigits_le_iff (by decide) (by decide)).mpr (by omega)

theorem keptDigits_value (n : Nat) :
    (digitsValue (keptDigits n) : Rat) / 10 ^ (keptDigits n).length =
      (n % 1000000000 : Nat) / 1000000000 := by
  have hlow : n % 1000000000 < 1000000000 := Nat.mod_lt _ (by decide)
  obtain ⟨kept, zeros, hdigits, hkept, -⟩ := exists_stripped (fractionDigits (n % 1000000000))
  have hvalue := digitsValue_fractionDigits hlow
  have hlength := fractionDigits_length (n % 1000000000)
  rw [hdigits, digitsValue_append_zeros] at hvalue
  rw [hdigits, List.length_append, List.length_replicate] at hlength
  rw [keptDigits, hkept, ← hvalue]
  have hpow : (1000000000 : Rat) = 10 ^ kept.length * 10 ^ zeros := by
    rw [← pow_add, hlength]
    norm_num
  rw [hpow, Nat.cast_mul, Nat.cast_pow, Nat.cast_ofNat]
  field_simp

theorem unsignedDecimal_unsignedText {n : Nat} (h : n ≤ 1000000000000000000) :
    unsignedDecimal (unsignedText n) = some (n * quantum) := by
  have hkept := keptDigits_length n
  have hwhole := wholeDigits_length h
  rw [unsignedText, unsignedDecimal_parts (w := wholeDigits n) toDigits_isDigit
    (isWhole_toDigits _) (by omega) (keptDigits_isDigit n) (by omega), keptDigits_value,
    wholeDigits, digitsValue_toDigits]
  have hsplit : n = 1000000000 * (n / 1000000000) + n % 1000000000 := (Nat.div_add_mod n _).symm
  have hcast : (n : Rat) = 1000000000 * (n / 1000000000 : Nat) + (n % 1000000000 : Nat) := by
    exact_mod_cast hsplit
  rw [hcast, quantum]
  congr 1
  ring

theorem unsignedText_head (n : Nat) : ∃ c cs, unsignedText n = c :: cs ∧ c ≠ '-' := by
  have hminus := toDigits_head_ne_minus (n / 1000000000)
  obtain ⟨c, cs, hwhole⟩ := List.exists_cons_of_ne_nil
    (show Nat.toDigits 10 (n / 1000000000) ≠ [] by simp)
  rw [hwhole] at hminus
  have hc : c ≠ '-' := fun h => hminus (by rw [h]; rfl)
  unfold unsignedText wholeDigits
  rw [hwhole]
  split
  · exact ⟨c, cs, rfl, hc⟩
  · exact ⟨c, cs ++ '.' :: keptDigits n, rfl, hc⟩

/-- The canonical text of a number of units. -/
theorem canonicalText_units {k : Int} (hk : k ≠ 0) : canonicalText (k * quantum) =
    String.ofList ((if k < 0 then ['-'] else []) ++ unsignedText k.natAbs) := by
  have hunits : ⌊|(k * quantum : Rat)| / quantum⌋.toNat = k.natAbs := by
    rw [abs_mul, abs_of_pos quantum_pos, mul_div_cancel_right₀ _ quantum_pos.ne', ← Int.cast_abs,
      Int.floor_intCast,
      Int.abs_eq_natAbs, Int.toNat_natCast]
  have hsign : ((k * quantum : Rat) < 0) ↔ k < 0 := by
    rw [mul_neg_iff, Int.cast_lt_zero]
    simp [quantum_pos, not_lt_of_gt quantum_pos]
  unfold canonicalText
  rw [hunits]
  dsimp only
  rw [if_neg (by omega), strip_eq toDigits_isDigit (fractionDigits_isDigit _)]
  simp only [hsign]
  rfl

/-- The value of a number is read back from its canonical text. -/
theorem decimal?_canonicalText {value : Rat} (h : Normalized value) :
    decimal? (canonicalText value) = some value := by
  obtain ⟨k, rfl, hk⟩ := h
  have habs : k.natAbs ≤ 1000000000000000000 := by
    rw [Int.abs_eq_natAbs] at hk
    omega
  by_cases hzero : k = 0
  · subst hzero
    have htext : canonicalText ((0 : Int) * quantum) = "0" := by
      simp [canonicalText]
    rw [htext]
    simp
    decide +kernel
  · rw [canonicalText_units hzero]
    by_cases hneg : k < 0
    · rw [if_pos hneg, List.singleton_append, decimal?_signed, unsignedDecimal_unsignedText habs]
      have hcast : ((k.natAbs : Int) : Rat) = -k := by
        rw [Int.ofNat_natAbs_of_nonpos hneg.le, Int.cast_neg]
      rw [Option.map_some, ← Int.cast_natCast, hcast]
      congr 1
      ring
    · obtain ⟨c, cs, hcs, hc⟩ := unsignedText_head k.natAbs
      have hcast : ((k.natAbs : Int) : Rat) = k := by
        rw [Int.natAbs_of_nonneg (by omega)]
      rw [if_neg hneg, List.nil_append, hcs, decimal?_unsigned hc, ← hcs,
        unsignedDecimal_unsignedText habs, ← Int.cast_natCast, hcast]

theorem canonicalText_zero : canonicalText ((0 : Int) * quantum) = "0" := by
  simp [canonicalText]

theorem unsignedText_length {n : Nat} (h : n ≤ 1000000000000000000) :
    (unsignedText n).length ≤ 20 := by
  have hkept := keptDigits_length n
  have hwhole := wholeDigits_length h
  unfold unsignedText
  split
  · omega
  · rw [List.length_append, List.length_cons]
    omega

theorem digits_plain {cs : List Char} (h : ∀ c ∈ cs, c.isDigit = true) : cs.all plain = true :=
  List.all_eq_true.mpr fun c hc => plain_of_isAlphanum (by simp [Char.isAlphanum, h c hc])

theorem unsignedText_plain (n : Nat) : (unsignedText n).all plain = true := by
  have hwhole : (wholeDigits n).all plain = true := digits_plain toDigits_isDigit
  have hkept : (keptDigits n).all plain = true := digits_plain (keptDigits_isDigit n)
  unfold unsignedText
  split
  · exact hwhole
  · rw [List.all_append, List.all_cons, hwhole, hkept]
    decide

/-- A fraction does not end in a zero. -/
theorem unsignedText_last (n : Nat) (h : '.' ∈ unsignedText n) :
    (unsignedText n).getLast? ≠ some '0' := by
  obtain ⟨kept, zeros, -, hkept, hlast⟩ := exists_stripped (fractionDigits (n % 1000000000))
  unfold unsignedText at h ⊢
  split
  · rename_i hnil
    rw [if_pos hnil] at h
    exact absurd (toDigits_isDigit _ h) (by decide)
  · rename_i hne
    obtain ⟨c, cs, hcs⟩ := List.exists_cons_of_ne_nil hne
    have hkeep : keptDigits n = kept := hkept
    rw [List.getLast?_append_cons, hcs, List.getLast?_cons_cons, ← hcs, hkeep]
    exact hlast

/-- What a canonical text is made of. -/
theorem canonicalText_form {value : Rat} (h : Normalized value) : canonicalText value = "0" ∨
    ∃ n sign, n ≤ 1000000000000000000 ∧ (sign = [] ∨ sign = ['-']) ∧
      canonicalText value = String.ofList (sign ++ unsignedText n) := by
  obtain ⟨k, rfl, hk⟩ := h
  by_cases hzero : k = 0
  · subst hzero
    exact Or.inl canonicalText_zero
  · rw [Int.abs_eq_natAbs] at hk
    refine Or.inr ⟨k.natAbs, if k < 0 then ['-'] else [], by omega, ?_, canonicalText_units hzero⟩
    by_cases hneg : k < 0
    · exact Or.inr (if_pos hneg)
    · exact Or.inl (if_neg hneg)

theorem canonicalText_plain {value : Rat} (h : Normalized value) :
    (canonicalText value).toList.all plain = true := by
  rcases canonicalText_form h with h0 | ⟨n, sign, -, hsign, htext⟩
  · rw [h0]
    decide
  · rw [htext, String.toList_ofList, List.all_append, unsignedText_plain]
    rcases hsign with rfl | rfl <;> decide

theorem canonicalText_length {value : Rat} (h : Normalized value) :
    (canonicalText value).length ≤ 40 := by
  rcases canonicalText_form h with h0 | ⟨n, sign, hn, hsign, htext⟩
  · rw [h0]
    decide
  · have hlength := unsignedText_length hn
    rw [htext, String.length_ofList, List.length_append]
    rcases hsign with rfl | rfl <;> simp only [List.length_nil, List.length_singleton] <;> omega

theorem canonicalText_ne_nil {value : Rat} (h : Normalized value) :
    (canonicalText value).toList ≠ [] := by
  rcases canonicalText_form h with h0 | ⟨n, sign, -, -, htext⟩
  · rw [h0]
    decide
  · obtain ⟨c, cs, hcs, -⟩ := unsignedText_head n
    rw [htext, String.toList_ofList, hcs]
    simp

theorem canonicalDecimal?_canonicalText {value : Rat} (h : Normalized value) :
    canonicalDecimal? (canonicalText value) = some value := by
  have hfraction : ¬ ('.' ∈ (canonicalText value).toList ∧
      (canonicalText value).toList.getLast? = some '0') := by
    rintro ⟨hdot, hlast⟩
    rcases canonicalText_form h with h0 | ⟨n, sign, -, hsign, htext⟩
    · rw [h0] at hdot
      exact absurd hdot (by decide)
    · obtain ⟨c, cs, hcs, -⟩ := unsignedText_head n
      have hmem : '.' ∈ unsignedText n := by
        rw [htext, String.toList_ofList] at hdot
        rcases hsign with rfl | rfl <;> simpa using hdot
      rw [htext, String.toList_ofList, hcs, List.getLast?_append_cons, ← hcs] at hlast
      exact unsignedText_last n hmem hlast
  rw [canonicalDecimal?, if_neg hfraction, decimal?_canonicalText h]

/-- The host reads the number that the compiler wrote. -/
theorem requireCanonicalDecimal_number {d : Doc} {name : String} {value : Rat} {positive : Bool}
    (hget : d.get? name = some (text (canonicalText value))) (h : Normalized value)
    (hpositive : positive = true → 0 < value) :
    requireCanonicalDecimal d name positive = .ok value := by
  rw [requireCanonicalDecimal, requireBoundedString_plain hget (canonicalText_ne_nil h)
    (canonicalText_plain h) (canonicalText_length h)]
  refine bind_eq_ok.mpr ⟨_, rfl, ?_⟩
  simp only [canonicalDecimal?_canonicalText h]
  exact pass (check_true hpositive) rfl

end AutocadMcp.Phase8
