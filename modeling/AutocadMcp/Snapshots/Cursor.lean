import AutocadMcp.Lib.Base64
import AutocadMcp.Snapshots.Store

/-!
# Cursors

A cursor is the canonical JSON of a snapshot, a filter and an offset in URL-safe Base64. Whoever
pages through a snapshot hands it back, so all of it is checked when it is read.
-/

namespace AutocadMcp.Snapshots

open JsonText CanonicalJson

/-- `CURSOR_SCHEMA`. -/
def cursorSchema : String := "cad.cursor/1"

/-- `MAX_CURSOR_BYTES`. -/
def maxCursorBytes : Nat := 384

/-- `MAX_CURSOR_OFFSET`. -/
def maxCursorOffset : Nat := 2 ^ 31 - 1

/-- What a cursor says. -/
structure Cursor where
  snapshotId : String
  filterHash : String
  offset : Nat
  deriving DecidableEq, Repr

def Cursor.payload (c : Cursor) : Doc :=
  fields [("cursor_schema", text cursorSchema), ("snapshot_id", text c.snapshotId),
    ("filter_hash", text c.filterHash), ("offset", integer c.offset)]

/-- `text.encode("utf-8")`. -/
def utf8Bytes (cs : List Char) : List UInt8 := cs.flatMap String.utf8EncodeChar

/-- `raw.decode("utf-8")`. -/
def utf8Text (bytes : List UInt8) : Option (List Char) :=
  bytes.toByteArray.utf8Decode?.map Array.toList

/-- `encode_cursor`, with the hash of the filter. -/
def encodeCursor (c : Cursor) : String :=
  String.ofList (Base64.encode (utf8Bytes (canonicalText c.payload)))

def cursorNames : List String := ["cursor_schema", "snapshot_id", "filter_hash", "offset"]

/-- A hash as `hexdigest` writes it. -/
def isHexDigest (s : String) : Bool :=
  s.length = 64 && s.toList.all fun c => c ∈ "0123456789abcdef".toList

/-- A string value. -/
def stringOf? : Doc → Option String
  | .string s => some (String.ofList s)
  | _ => none

/-- An integer value: a number without fraction and exponent. -/
def integerOf? : Doc → Option Int
  | .number raw =>
      if raw.all fun c => c.isDigit || c = '-' then some (numberValue raw).num else none
  | _ => none

/-- The checks of `decode_cursor` on the value that was read. -/
def checkedCursor (value : Doc) : Option Cursor := do
  let names ← value.names?
  guard (names ⊆ cursorNames ∧ cursorNames ⊆ names)
  guard ((value.get? "cursor_schema").bind stringOf? = some cursorSchema)
  let snapshotId ← (value.get? "snapshot_id").bind stringOf?
  guard (snapshotId ≠ "")
  let filterHash ← (value.get? "filter_hash").bind stringOf?
  guard (isHexDigest filterHash)
  let offset ← (value.get? "offset").bind integerOf?
  guard (0 ≤ offset ∧ offset ≤ maxCursorOffset)
  return ⟨snapshotId, filterHash, offset.toNat⟩

/-- `decode_cursor`. Every failure is the same `ValueError`. -/
def decodeCursor (cursor : String) : Option Cursor := do
  guard (cursor ≠ "" ∧ cursor.length ≤ 512)
  guard (cursor.toList.all fun c => c.toNat < 128)
  let raw ← Base64.decode (cursor.toList ++ Base64.padding cursor.toList)
  guard (raw.length ≤ maxCursorBytes)
  let chars ← utf8Text raw
  let value ← parse chars
  checkedCursor value

/-! ## Reading back -/

theorem utf8Text_utf8Bytes (cs : List Char) : utf8Text (utf8Bytes cs) = some cs := by
  show (List.utf8Encode cs).utf8Decode?.map Array.toList = some cs
  rw [List.utf8Decode?_utf8Encode]
  rfl

theorem length_utf8Bytes (cs : List Char) : (utf8Bytes cs).length = utf8Length cs := by
  unfold utf8Bytes utf8Length
  rw [List.length_flatMap]
  simp

theorem payload_keys :
    codePointLe "filter_hash".toList "offset".toList = true ∧
      codePointLe "snapshot_id".toList "filter_hash".toList = false ∧
      codePointLe "snapshot_id".toList "offset".toList = false ∧
      codePointLe "cursor_schema".toList "filter_hash".toList = true := by
  decide +kernel

/-- Four members of which the second belongs at the end. -/
theorem sortByKey_second_last {le : List Char → List Char → Bool} {k₁ k₂ k₃ k₄ : List Char}
    {d₁ d₂ d₃ d₄ : Doc} (h₃₄ : le k₃ k₄ = true) (h₂₃ : le k₂ k₃ = false) (h₂₄ : le k₂ k₄ = false)
    (h₁₃ : le k₁ k₃ = true) :
    sortByKey le [(k₁, d₁), (k₂, d₂), (k₃, d₃), (k₄, d₄)] =
      [(k₁, d₁), (k₃, d₃), (k₄, d₄), (k₂, d₂)] := by
  simp [sortByKey, List.orderedInsert, h₃₄, h₂₃, h₂₄, h₁₃]

/-- The canonical text of a payload has its members in the order of their names. -/
theorem sortKeys_payload (c : Cursor) : sortKeys codePointLe c.payload =
    fields [("cursor_schema", text cursorSchema), ("filter_hash", text c.filterHash),
      ("offset", integer c.offset), ("snapshot_id", text c.snapshotId)] := by
  obtain ⟨hfilter, hid, hid', hschema⟩ := payload_keys
  exact congrArg Doc.object (sortByKey_second_last hfilter hid hid' hschema)

/-- A character that JSON leaves as it is. -/
def isPlain (c : Char) : Bool := c.isAlphanum || c ∈ ['.', '_', '-', '/']

theorem isPlain_ascii {c : Char} (h : isPlain c = true) : c.toNat < 128 := by
  unfold isPlain Char.isAlphanum Char.isAlpha Char.isUpper Char.isLower Char.isDigit at h
  simp only [Bool.or_eq_true, decide_eq_true_eq, Bool.and_eq_true, UInt32.le_iff_toNat_le,
    ge_iff_le, List.mem_cons, List.not_mem_nil, or_false] at h
  rcases h with ((⟨-, h⟩ | ⟨-, h⟩) | ⟨-, h⟩) | rfl | rfl | rfl | rfl
  · exact Nat.lt_of_le_of_lt h (by decide)
  · exact Nat.lt_of_le_of_lt h (by decide)
  · exact Nat.lt_of_le_of_lt h (by decide)
  all_goals decide

theorem isPlain_raw {c : Char} (h : isPlain c = true) :
    (dumpsForm c).encode c = [c] ∧ c.utf8Size = 1 := by
  have hall : ∀ n : Fin 128, isPlain (Char.ofNat n) = true →
      (dumpsForm (Char.ofNat n)).encode (Char.ofNat n) = [Char.ofNat n] ∧
        (Char.ofNat n).utf8Size = 1 := by
    decide +kernel
  have hc := hall ⟨c.toNat, isPlain_ascii h⟩
  rw [Char.ofNat_toNat] at hc
  exact hc h

theorem flatMap_plain {s : List Char} (h : ∀ c ∈ s, isPlain c = true) :
    s.flatMap (fun c => (dumpsForm c).encode c) = s := by
  induction s with
  | nil => rfl
  | cons c s ih =>
      rw [List.flatMap_cons, (isPlain_raw (h c List.mem_cons_self)).1,
        ih fun d hd => h d (List.mem_cons_of_mem c hd), List.singleton_append]

theorem utf8Length_append (xs ys : List Char) :
    utf8Length (xs ++ ys) = utf8Length xs + utf8Length ys := by
  unfold utf8Length
  rw [List.map_append, List.sum_append]

theorem utf8Length_plain {s : List Char} (h : ∀ c ∈ s, isPlain c = true) :
    utf8Length s = s.length := by
  induction s with
  | nil => rfl
  | cons c s ih =>
      show c.utf8Size + utf8Length s = s.length + 1
      rw [(isPlain_raw (h c List.mem_cons_self)).2, ih fun d hd => h d (List.mem_cons_of_mem c hd)]
      exact Nat.add_comm 1 s.length

/-- The ids that snapshots are given: `_PUBLIC_ID`. -/
def isPublicId (s : String) : Bool :=
  s ≠ "" && s.length ≤ 128 && s.toList.all isPlain

theorem isHexDigest_plain {s : String} (h : isHexDigest s = true) :
    s.toList.length = 64 ∧ ∀ c ∈ s.toList, isPlain c = true := by
  unfold isHexDigest at h
  rw [Bool.and_eq_true, decide_eq_true_eq, List.all_eq_true] at h
  refine ⟨h.1, ?_⟩
  intro c hc
  have hdigit := of_decide_eq_true (h.2 c hc)
  have hall : "0123456789abcdef".toList.all isPlain = true := by decide
  exact List.all_eq_true.mp hall c hdigit

theorem isPublicId_plain {s : String} (h : isPublicId s = true) :
    s ≠ "" ∧ s.toList.length ≤ 128 ∧ ∀ c ∈ s.toList, isPlain c = true := by
  unfold isPublicId at h
  rw [Bool.and_eq_true, Bool.and_eq_true, decide_eq_true_eq, decide_eq_true_eq,
    List.all_eq_true] at h
  exact ⟨h.1.1, h.1.2, h.2⟩

/-- The offset in digits. -/
theorem intText_offset (n : Nat) : intText n = Nat.toDigits 10 n := by
  unfold intText
  rw [if_neg (by omega), Int.natAbs_natCast]

theorem toDigits_plain (n : Nat) : ∀ c ∈ Nat.toDigits 10 n, isPlain c = true := by
  intro c hc
  have hdigit := toDigits_isDigit c hc
  simp [isPlain, Char.isAlphanum, hdigit]

/-- A cursor that says what it should. -/
structure Cursor.Sound (c : Cursor) : Prop where
  snapshotId : isPublicId c.snapshotId = true
  filterHash : isHexDigest c.filterHash = true
  offset : c.offset ≤ maxCursorOffset

theorem member_names_plain :
    "cursor_schema".toList.all isPlain = true ∧ cursorSchema.toList.all isPlain = true ∧
      "filter_hash".toList.all isPlain = true ∧ "offset".toList.all isPlain = true ∧
      "snapshot_id".toList.all isPlain = true := by
  decide

theorem payload_text {c : Cursor} (h : c.Sound) : canonicalText c.payload =
    "\x7b\"cursor_schema\":\"cad.cursor/1\",\"filter_hash\":\"".toList ++ (c.filterHash.toList ++
      ("\",\"offset\":".toList ++ (Nat.toDigits 10 c.offset ++
        (",\"snapshot_id\":\"".toList ++ (c.snapshotId.toList ++ "\"\x7d".toList))))) := by
  obtain ⟨-, hhash⟩ := isHexDigest_plain h.filterHash
  obtain ⟨-, -, hid⟩ := isPublicId_plain h.snapshotId
  unfold canonicalText
  rw [sortKeys_payload]
  simp only [fields, text, integer, List.map_cons, List.map_nil, write, writeMembers,
    writeMembersTail, writeString]
  rw [flatMap_plain hhash, flatMap_plain hid, intText_offset]
  rw [flatMap_plain (List.all_eq_true.mp member_names_plain.1),
    flatMap_plain (List.all_eq_true.mp member_names_plain.2.1),
    flatMap_plain (List.all_eq_true.mp member_names_plain.2.2.1),
    flatMap_plain (List.all_eq_true.mp member_names_plain.2.2.2.1),
    flatMap_plain (List.all_eq_true.mp member_names_plain.2.2.2.2)]
  simp [cursorSchema]

theorem payload_length {c : Cursor} (h : c.Sound) :
    0 < utf8Length (canonicalText c.payload) ∧ utf8Length (canonicalText c.payload) ≤ 278 := by
  obtain ⟨hsize, hhash⟩ := isHexDigest_plain h.filterHash
  obtain ⟨-, hbound, hid⟩ := isPublicId_plain h.snapshotId
  have hdigits : (Nat.toDigits 10 c.offset).length ≤ 10 := by
    rw [Nat.length_toDigits_le_iff (by decide) (by decide)]
    exact Nat.lt_of_le_of_lt h.offset (by decide)
  rw [payload_text h]
  simp only [utf8Length_append]
  rw [utf8Length_plain hhash, utf8Length_plain hid, utf8Length_plain (toDigits_plain _), hsize,
    show utf8Length "\x7b\"cursor_schema\":\"cad.cursor/1\",\"filter_hash\":\"".toList = 47 by decide,
    show utf8Length "\",\"offset\":".toList = 11 by decide,
    show utf8Length ",\"snapshot_id\":\"".toList = 16 by decide,
    show utf8Length "\"\x7d".toList = 2 by decide]
  omega

theorem payload_valid (c : Cursor) : (sortKeys codePointLe c.payload).valid = true := by
  rw [sortKeys_payload]
  simp [fields, text, integer, Doc.valid, validMembers, isNumber_intText]

/-- The value of a payload passes the checks. -/
theorem checkedCursor_payload {c : Cursor} (h : c.Sound) :
    checkedCursor (sortKeys codePointLe c.payload) = some c := by
  obtain ⟨hid, -, -⟩ := isPublicId_plain h.snapshotId
  have hinteger : integerOf? (integer c.offset) = some c.offset := by
    unfold integer integerOf?
    dsimp only
    rw [numberValue_intText, intText_offset, if_pos]
    · rfl
    · rw [List.all_eq_true]
      intro d hd
      simp [toDigits_isDigit d hd]
  have hnames : ["cursor_schema", "filter_hash", "offset", "snapshot_id"] ⊆ cursorNames ∧
      cursorNames ⊆ ["cursor_schema", "filter_hash", "offset", "snapshot_id"] := by
    decide
  have hoffset := h.offset
  rw [sortKeys_payload]
  unfold checkedCursor
  simp [hnames, hinteger, stringOf?, text, hid, h.filterHash, hoffset, guard]

/-- A text that passes every stage is read as the value at the end. -/
theorem decodeCursor_eq {cursor : String} {raw : List UInt8} {chars : List Char} {value : Doc}
    (hne : cursor ≠ "") (hshort : cursor.length ≤ 512) (hascii : ∀ c ∈ cursor.toList, c.toNat < 128)
    (hdecode : Base64.decode (cursor.toList ++ Base64.padding cursor.toList) = some raw)
    (hraw : raw.length ≤ maxCursorBytes) (htext : utf8Text raw = some chars)
    (hparse : parse chars = some value) : decodeCursor cursor = checkedCursor value := by
  unfold decodeCursor guard
  have hall : (cursor.toList.all fun c => c.toNat < 128) = true := by
    rw [List.all_eq_true]
    intro c hc
    exact decide_eq_true (hascii c hc)
  rw [if_pos ⟨hne, hshort⟩, if_pos hall, hdecode]
  simp [hraw, htext, hparse]

/-- **A cursor is read back** as it was written. -/
theorem decode_encodeCursor {c : Cursor} (h : c.Sound) :
    decodeCursor (encodeCursor c) = some c := by
  obtain ⟨hpos, hbound⟩ := payload_length h
  rw [← length_utf8Bytes] at hpos hbound
  have hlength := Base64.length_encode (utf8Bytes (canonicalText c.payload))
  have hne : encodeCursor c ≠ "" := by
    intro hempty
    have hnil := congrArg String.length hempty
    rw [encodeCursor, String.length_ofList, hlength] at hnil
    change _ = 0 at hnil
    omega
  have hshort : (encodeCursor c).length ≤ 512 := by
    rw [encodeCursor, String.length_ofList, hlength]
    omega
  have htext : (encodeCursor c).toList = Base64.encode (utf8Bytes (canonicalText c.payload)) :=
    String.toList_ofList
  have hraw : (utf8Bytes (canonicalText c.payload)).length ≤ maxCursorBytes :=
    Nat.le_trans hbound (by decide)
  have hparse : parse (canonicalText c.payload) = some (sortKeys codePointLe c.payload) :=
    parse_write (decodes_of_allowed dumpsForm_allowed) (payload_valid c)
  have hascii : ∀ d ∈ (encodeCursor c).toList, d.toNat < 128 := by
    rw [htext]
    exact Base64.encode_isAscii _
  have hdecode : Base64.decode ((encodeCursor c).toList ++
      Base64.padding (encodeCursor c).toList) = some (utf8Bytes (canonicalText c.payload)) := by
    rw [htext]
    exact Base64.decode_encode _
  rw [decodeCursor_eq hne hshort hascii hdecode hraw (utf8Text_utf8Bytes _) hparse]
  exact checkedCursor_payload h

end AutocadMcp.Snapshots
