import AutocadMcp.Contracts.CanonicalJson

/-!
# The canonical JSON of the host

The host computes the canonical form again from the text that it receives. Python
sorts keys by code point, the host by UTF-16 code unit; Python escapes only what
the grammar asks for, with lower-case digits, and the host also escapes what its
encoder does not allow, with upper-case digits; Python has no largest integer, the
host none beyond a finite double. The bytes are the same exactly where none of this
shows.
-/

namespace AutocadMcp.Host

open JsonText CanonicalJson

section

-- the characters from U+00A0 on that the encoder of the host does not allow
variable (blocked : Char → Bool)

/-- How `JavaScriptEncoder.UnsafeRelaxedJsonEscaping` writes a character. -/
def relaxedForm (c : Char) : Form :=
  match shortLetter c with
  | some letter => .short letter
  | none =>
      -- controls, and what is beyond the basic plane, are never written as they are
      if c.toNat < 0x20 ∨ (0x7F ≤ c.toNat ∧ c.toNat < 0xA0) ∨ 0x10000 ≤ c.toNat ∨
          (0xA0 ≤ c.toNat ∧ blocked c) then .hex true
      else .raw

/-- `StringComparer.Ordinal`. -/
def ordinalLe (a b : List Char) : Bool := a.flatMap utf16 ≤ b.flatMap utf16

/-- `ProtocolValidationException`. -/
structure ProtocolValidationException where
  code : String
  message : String
  deriving DecidableEq

/-- `CanonicalJson.Serialize`. -/
def serialize (value : Doc) : Except ProtocolValidationException (List Char) := do
  check (∀ raw ∈ value.numbers, isFiniteDouble raw = true)
    ⟨"invalid_envelope", "Non-finite or unsupported number."⟩
  return write (fun c => (relaxedForm blocked c).encode c) (sortKeys ordinalLe value)

/-- `JsonDocument.Parse`, as far as a text of a value goes. -/
def parseJson (text : List Char) : Except ProtocolValidationException Doc :=
  match parse text with
  | some value => .ok value
  | none => .error ⟨"invalid_envelope", "Malformed envelope."⟩

/-- The canonical form that the host gives the text of a value. -/
def canonical (text : List Char) : Except ProtocolValidationException (List Char) := do
  let value ← parseJson text
  serialize blocked value

/-- The check of `payload_hash` in `EnvelopeValidator.Parse`, for the hash of a text. -/
def checkPayloadHash {Digest : Type} [DecidableEq Digest] (sha256 : List Char → Digest)
    (payload : List Char) (payloadHash : Digest) : Except ProtocolValidationException Unit := do
  let bytes ← canonical blocked payload
  check (payloadHash = sha256 bytes) ⟨"payload_mismatch", "Payload hash does not match."⟩

/-- Both sides write the character in one way. -/
def EncodedAlike (c : Char) : Prop :=
  shortLetter c ≠ none ∨ (c.toNat < 0x20 ∧ c.toNat % 16 < 10) ∨
    (0x20 ≤ c.toNat ∧ c.toNat < 0x7F) ∨
    (0xA0 ≤ c.toNat ∧ c.toNat < 0x10000 ∧ blocked c = false)

instance (c : Char) : Decidable (EncodedAlike blocked c) :=
  inferInstanceAs (Decidable (_ ∨ _ ∧ _ ∨ _ ∧ _ ∨ _ ∧ _ ∧ _))

/-- Nothing of the value shows a difference between the two sides. -/
structure Portable (v : Value) : Prop where
  chars : ∀ c ∈ (toDoc v).chars, EncodedAlike blocked c
  keys : (toDoc v).ordersAgree codePointLe ordinalLe
  ints : ∀ n ∈ v.ints, fitsDouble n

end

section

variable {blocked : Char → Bool}

theorem relaxedForm_allowed (c : Char) : (relaxedForm blocked c).allowed c := by
  unfold relaxedForm
  cases hletter : shortLetter c with
  | some letter => exact hletter
  | none =>
      simp only
      split
      · trivial
      · rename_i hshown
        exact ⟨by omega, ne_of_shortLetter_none hletter⟩

theorem hexDigit_alike {d : Nat} (h : d < 16) : hexDigit false d = hexDigit true d ↔ d < 10 := by
  interval_cases d <;> decide

/-- The two cases of the digits show in the last digit of a control. -/
theorem control_alike {c : Char} (h : c.toNat < 0x20) :
    (Form.hex false).encode c = (Form.hex true).encode c ↔ c.toNat % 16 < 10 := by
  have hlast : c.toNat % 16 < 16 := Nat.mod_lt _ (by decide)
  have hhigh : c.toNat / 16 % 16 < 16 := Nat.mod_lt _ (by decide)
  have hlow : hexDigit false (c.toNat / 16 % 16) = hexDigit true (c.toNat / 16 % 16) :=
    (hexDigit_alike hhigh).mpr (by omega)
  have hzero : c.toNat / 4096 % 16 = 0 ∧ c.toNat / 256 % 16 = 0 := by omega
  rw [Form.encode, Form.encode, utf16, if_pos (by omega), List.flatMap_singleton,
    List.flatMap_singleton, unicodeEscape, unicodeEscape, hzero.1, hzero.2, hlow,
    ← hexDigit_alike hlast]
  simp [hexDigit]

theorem encode_alike_iff (c : Char) :
    (relaxedForm blocked c).encode c = (dumpsForm c).encode c ↔ EncodedAlike blocked c := by
  unfold relaxedForm dumpsForm EncodedAlike
  cases hletter : shortLetter c with
  | some letter => simp
  | none =>
      simp only [ne_eq, not_true_eq_false, false_or]
      by_cases hcontrol : c.toNat < 0x20
      · rw [if_pos (Or.inl hcontrol), if_pos hcontrol, eq_comm, control_alike hcontrol]
        omega
      · rw [if_neg hcontrol]
        split
        · -- the host escapes what Python writes as it is
          obtain ⟨tail, htail⟩ := hex_encode_cons true c
          rw [htail, Form.encode]
          simp only [List.cons.injEq, reduceCtorEq, and_false, false_iff]
          rename_i hescaped
          rintro (h | h | h)
          · omega
          · omega
          · rcases hescaped with h' | h' | h' | h'
            · omega
            · omega
            · omega
            · exact absurd h'.2 (by rw [h.2.2]; decide)
        · rename_i hshown
          simp only [true_iff]
          cases hblocked : blocked c with
          | true =>
              simp only [hblocked, and_true] at hshown
              omega
          | false =>
              simp only [and_true]
              omega

theorem ordinalLe_order : KeyOrder ordinalLe where
  total a b := by
    simp only [ordinalLe, Bool.or_eq_true, decide_eq_true_eq]
    exact le_total _ _
  trans a b c hab hbc := by
    simp only [ordinalLe, decide_eq_true_eq] at *
    exact le_trans hab hbc
  antisymm a b hab hba := by
    simp only [ordinalLe, decide_eq_true_eq] at *
    have hunits := congrArg fromUtf16 (le_antisymm hab hba)
    rw [fromUtf16_flatMap, fromUtf16_flatMap] at hunits
    exact Option.some.inj hunits

theorem decodes_dumps : Decodes fun c => (dumpsForm c).encode c :=
  decodes_of_allowed dumpsForm_allowed

theorem decodes_relaxed : Decodes fun c => (relaxedForm blocked c).encode c :=
  decodes_of_allowed relaxedForm_allowed

theorem relaxed_dumps_separated : Separated (fun c => (relaxedForm blocked c).encode c)
    fun c => (dumpsForm c).encode c :=
  separated_of_allowed relaxedForm_allowed dumpsForm_allowed

/-- The host reads the sorted document that Python wrote. -/
theorem parseJson_canonicalJson {v : Value} {text : List Char} (h : canonicalJson v = .ok text) :
    parseJson text = .ok (sortKeys codePointLe (toDoc v)) := by
  have hvalid : (sortKeys codePointLe (toDoc v)).valid = true := sortKeys_valid (toDoc_valid v)
  have hparse := parse_write decodes_dumps hvalid
  rw [canonicalJson_eq_ok h, parseJson, hparse]

/-- The host writes a document that Python sorted as Python does exactly where it leaves the
order alone and has the same form for every character. -/
theorem write_sorted_iff (d : Doc) (h : d.valid = true) :
    write (fun c => (relaxedForm blocked c).encode c) (sortKeys ordinalLe (sortKeys codePointLe d)) =
        write (fun c => (dumpsForm c).encode c) (sortKeys codePointLe d) ↔
      (∀ c ∈ d.chars, EncodedAlike blocked c) ∧ d.ordersAgree codePointLe ordinalLe := by
  have hsorted : (sortKeys codePointLe d).valid = true := sortKeys_valid h
  have horder := sortKeys_fixed_iff codePointLe_order ordinalLe_order d
  have hchars : write (fun c => (relaxedForm blocked c).encode c) (sortKeys codePointLe d) =
        write (fun c => (dumpsForm c).encode c) (sortKeys codePointLe d) ↔
      ∀ c ∈ d.chars, EncodedAlike blocked c := by
    rw [write_eq_iff relaxed_dumps_separated]
    simp only [mem_sortKeys_chars, encode_alike_iff]
  constructor
  · intro heq
    -- one text is the text of one document only
    have hfixed := write_inj decodes_relaxed decodes_dumps (sortKeys_valid hsorted) hsorted heq
    rw [hfixed] at heq
    exact ⟨hchars.mp heq, horder.mp hfixed⟩
  · rintro ⟨halike, hagree⟩
    rw [horder.mpr hagree]
    exact hchars.mpr halike

theorem serialize_eq_ok {value : Doc} {text : List Char} :
    serialize blocked value = .ok text ↔ (∀ raw ∈ value.numbers, isFiniteDouble raw = true) ∧
      write (fun c => (relaxedForm blocked c).encode c) (sortKeys ordinalLe value) = text := by
  rw [serialize, bind_eq_ok]
  simp [pure, Except.pure]

/-- The host gives back the bytes that it received exactly for a portable value. -/
theorem canonical_eq_iff {v : Value} {text : List Char} (h : canonicalJson v = .ok text) :
    canonical blocked text = .ok text ↔ Portable blocked v := by
  have hnumbers : (∀ raw ∈ (sortKeys codePointLe (toDoc v)).numbers, isFiniteDouble raw = true) ↔
      ∀ n ∈ v.ints, fitsDouble n := by
    simp only [mem_sortKeys_numbers, numbers_finite_iff]
  have hserialize : canonical blocked text =
      serialize blocked (sortKeys codePointLe (toDoc v)) := by
    rw [canonical, parseJson_canonicalJson h]
    rfl
  rw [hserialize, serialize_eq_ok, hnumbers]
  conv_lhs => rw [canonicalJson_eq_ok h]
  rw [write_sorted_iff _ (toDoc_valid v)]
  constructor
  · rintro ⟨hints, hchars, hkeys⟩
    exact ⟨hchars, hkeys, hints⟩
  · rintro ⟨hchars, hkeys, hints⟩
    exact ⟨hints, hchars, hkeys⟩

variable (blocked) in
/-- The host computes the bytes that were hashed, and accepts an unmodified payload whatever the
hash, exactly for a portable value. -/
theorem host_bytes_agree_iff {v : Value} {text : List Char} (h : canonicalJson v = .ok text) :
    (canonical blocked text = .ok text ∧
      ∀ (Digest : Type) [DecidableEq Digest] (sha256 : List Char → Digest),
        checkPayloadHash blocked sha256 text (sha256 text) = .ok ()) ↔ Portable blocked v := by
  constructor
  · rintro ⟨hbytes, -⟩
    exact (canonical_eq_iff h).mp hbytes
  · intro hportable
    have hbytes := (canonical_eq_iff h).mpr hportable
    refine ⟨hbytes, fun Digest _ sha256 => ?_⟩
    rw [checkPayloadHash, hbytes]
    exact check_true rfl

end

/-- A payload of plain text. -/
def layerPayload : Value := .dict [("layer".toList, .str "WALL".toList), ("count".toList, .int 3)]

def layerText : List Char := "\x7b\"count\":3,\"layer\":\"WALL\"\x7d".toList

theorem layerPayload_portable : Portable (fun _ => false) layerPayload where
  chars := by
    have hall : (toDoc layerPayload).chars.all
        (fun c => decide (EncodedAlike (fun _ => false) c)) = true := by
      decide +kernel
    intro c hc
    exact of_decide_eq_true (List.all_eq_true.mp hall c hc)
  keys := ⟨by decide +kernel, trivial, trivial, trivial⟩
  ints := by
    intro n hn
    obtain rfl := List.mem_singleton.mp hn
    unfold fitsDouble
    decide +kernel

theorem layerPayload_bytes_agree : canonical (fun _ => false) layerText = .ok layerText :=
  ((host_bytes_agree_iff (fun _ => false) (by decide +kernel)).mpr layerPayload_portable).1

/-- A payload with a character beyond the basic plane. -/
def emojiPayload : Value := .dict [("text".toList, .str ['😀'])]

def emojiText : List Char := "\x7b\"text\":\"😀\"\x7d".toList

/-- Python writes the character as it is and the host as its two surrogates, so that the host
rejects the payload under a hash without collisions. -/
theorem emojiPayload_bytes_differ : canonicalJson emojiPayload = .ok emojiText ∧
    canonical (fun _ => false) emojiText = .ok "\x7b\"text\":\"\\uD83D\\uDE00\"\x7d".toList ∧
    canonical (fun _ => false) emojiText ≠ .ok emojiText ∧
    checkPayloadHash (fun _ => false) id emojiText emojiText =
      .error ⟨"payload_mismatch", "Payload hash does not match."⟩ := by
  decide +kernel

end AutocadMcp.Host
