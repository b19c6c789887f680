import AutocadMcp.Host.CanonicalJson
import AutocadMcp.Lib.JsonFields
import Mathlib

/-!
# Digests of both sides

The digest of a value under a domain, as `_domain_digest` of `phase8_contracts.py` and
`HashDomain` of `Phase8Contracts.cs` take it. The texts that are hashed are the same
exactly where both sides write every character of the value in one way: the order of
the keys then agrees too, since a character beyond the basic plane is written in two
ways.
-/

namespace AutocadMcp.CanonicalJson

open JsonText

/-- A dictionary with these items. -/
def Value.fields (members : List (String × Value)) : Value :=
  .dict (members.map fun m => (m.1.toList, m.2))

def Value.text (s : String) : Value := .str s.toList

@[simp] theorem toDoc_text (s : String) : toDoc (.text s) = JsonText.text s := rfl

@[simp] theorem toDoc_int (n : Int) : toDoc (.int n) = integer n := rfl

@[simp] theorem toDoc_bool (b : Bool) : toDoc (.bool b) = .bool b := rfl

@[simp] theorem toDoc_list (items : List Value) :
    toDoc (.list items) = .array (items.map toDoc) := by
  rw [toDoc]
  congr 1
  induction items with
  | nil => rfl
  | cons item items ih => rw [docItems, ih, List.map_cons]

@[simp] theorem toDoc_fields (ms : List (String × Value)) :
    toDoc (.fields ms) = JsonText.fields (ms.map fun m => (m.1, toDoc m.2)) := by
  rw [Value.fields, toDoc, JsonText.fields, List.map_map]
  congr 1
  induction ms with
  | nil => rfl
  | cons m ms ih =>
      obtain ⟨key, item⟩ := m
      rw [List.map_cons, docMembers, ih, List.map_cons]
      rfl

theorem ints_list (items : List Value) {n : Int} :
    n ∈ (Value.list items).ints ↔ ∃ item ∈ items, n ∈ item.ints := by
  rw [Value.ints]
  induction items with
  | nil => simp [intsOfItems]
  | cons item items ih => simp [intsOfItems, ih]

theorem ints_fields (ms : List (String × Value)) {n : Int} :
    n ∈ (Value.fields ms).ints ↔ ∃ m ∈ ms, n ∈ m.2.ints := by
  rw [Value.fields, Value.ints]
  induction ms with
  | nil => simp [intsOfMembers]
  | cons m ms ih => simp [intsOfMembers, ih]

/-- Every integer of the value satisfies `P`. -/
def Value.EveryInt (P : Int → Prop) (v : Value) : Prop := ∀ n ∈ v.ints, P n

section

variable {P : Int → Prop}

@[simp] theorem everyInt_text {s : String} : (Value.text s).EveryInt P := nofun

@[simp] theorem everyInt_bool {b : Bool} : (Value.bool b).EveryInt P := nofun

@[simp] theorem everyInt_int {n : Int} : (Value.int n).EveryInt P ↔ P n := by
  simp [Value.EveryInt, Value.ints]

@[simp] theorem everyInt_list {items : List Value} :
    (Value.list items).EveryInt P ↔ ∀ item ∈ items, item.EveryInt P := by
  simp only [Value.EveryInt, ints_list]
  exact ⟨fun h item hitem n hn => h n ⟨item, hitem, hn⟩,
    fun h n ⟨item, hitem, hn⟩ => h item hitem n hn⟩

theorem everyInt_fields {ms : List (String × Value)} :
    (Value.fields ms).EveryInt P ↔ ∀ m ∈ ms, m.2.EveryInt P := by
  simp only [Value.EveryInt, ints_fields]
  exact ⟨fun h m hm n hn => h n ⟨m, hm, hn⟩, fun h n ⟨m, hm, hn⟩ => h m hm n hn⟩

end

end AutocadMcp.CanonicalJson

namespace AutocadMcp.Phase8

open JsonText CanonicalJson Host

/-! ## Characters of the basic plane -/

/-- `String.Length` of .NET. -/
def utf16Length (s : String) : Nat := (s.toList.flatMap utf16).length

theorem utf16_basic {s : List Char} (h : ∀ c ∈ s, c.toNat < 0x10000) :
    s.flatMap utf16 = s.map Char.toNat := by
  induction s with
  | nil => rfl
  | cons c s ih =>
      rw [List.forall_mem_cons] at h
      rw [List.flatMap_cons, List.map_cons, ih h.2, utf16, if_pos h.1]
      rfl

theorem utf16Length_basic {s : String} (h : ∀ c ∈ s.toList, c.toNat < 0x10000) :
    utf16Length s = s.length := by
  rw [utf16Length, utf16_basic h, List.length_map, String.length_toList]

theorem utf16_length_le (c : Char) : (utf16 c).length ≤ c.utf8Size := by
  unfold utf16
  split
  · exact c.utf8Size_pos
  · rename_i hwide
    have hval : ∀ n : UInt32, n.toNat < 0x10000 → ¬ c.val ≤ n := fun n hn h =>
      hwide (lt_of_le_of_lt (UInt32.le_iff_toNat_le.mp h) hn)
    unfold Char.utf8Size
    rw [if_neg (hval _ (by decide)), if_neg (hval _ (by decide)), if_neg (hval _ (by decide))]
    exact (by decide : 2 ≤ 4)

/-- Each code unit takes a byte at least. -/
theorem utf16Length_le_utf8 (s : String) : utf16Length s ≤ s.utf8ByteSize := by
  have hbytes : s.utf8ByteSize = String.utf8Len s.toList := by
    conv_lhs => rw [← String.ofList_toList (s := s)]
    exact String.utf8ByteSize_ofList _
  rw [hbytes, utf16Length]
  induction s.toList with
  | nil => exact Nat.le_refl 0
  | cons c cs ih =>
      rw [List.flatMap_cons, List.length_append, String.utf8Len_cons, Nat.add_comm]
      exact Nat.add_le_add ih (utf16_length_le c)

/-- On the basic plane code units are ordered as code points are. -/
theorem ordinalLe_basic {a b : List Char} (ha : ∀ c ∈ a, c.toNat < 0x10000)
    (hb : ∀ c ∈ b, c.toNat < 0x10000) : codePointLe a b = ordinalLe a b := by
  rw [codePointLe, ordinalLe, utf16_basic ha, utf16_basic hb, decide_eq_decide]
  have hlt : ∀ c d : Char, c < d → c.toNat < d.toNat := fun _ _ h => h
  constructor
  · intro h
    rcases lt_or_eq_of_le h with h | rfl
    · exact le_of_lt (List.map_lt hlt h)
    · exact le_rfl
  · intro h
    by_contra hab
    exact absurd (List.map_lt hlt (lt_of_not_ge hab)) (not_lt_of_ge h)

section

variable {blocked : Char → Bool}

/-- The characters with an escape of two characters are in ASCII. -/
theorem shortLetter_low {c : Char} (h : shortLetter c ≠ none) : c.toNat < 0x80 := by
  obtain ⟨letter, hletter⟩ := Option.ne_none_iff_exists'.mp h
  obtain ⟨p, hfind, -⟩ := Option.map_eq_some_iff.mp hletter
  have hc : p.2 = c := by simpa using List.find?_some hfind
  have hmem := (List.mem_filter.mp (List.mem_of_find?_eq_some hfind)).1
  have hall : ∀ q ∈ shortEscapes, q.2.toNat < 0x80 := by decide
  exact hc ▸ hall p hmem

theorem basic_of_alike {c : Char} (h : EncodedAlike blocked c) : c.toNat < 0x10000 := by
  rcases h with h | h | h | h
  · have := shortLetter_low h
    omega
  all_goals omega

/-- A printable character of ASCII. -/
def plain (c : Char) : Bool := 0x20 ≤ c.toNat && c.toNat < 0x7F

theorem alike_of_plain {c : Char} (h : plain c = true) : EncodedAlike blocked c := by
  simp only [plain, Bool.and_eq_true, decide_eq_true_eq] at h
  exact Or.inr (Or.inr (Or.inl h))

variable (blocked) in
/-- The text is encoded in one way on both sides. -/
def Alike (s : List Char) : Prop := ∀ c ∈ s, EncodedAlike blocked c

instance (s : List Char) : Decidable (Alike blocked s) :=
  inferInstanceAs (Decidable (∀ c ∈ s, _))

theorem alike_of_all_plain {s : List Char} (h : s.all plain = true) : Alike blocked s :=
  fun c hc => alike_of_plain (List.all_eq_true.mp h c hc)

/-- For the texts that are written out in the source. -/
theorem alike_literal {s : List Char} (h : s.all plain = true) :
    Alike blocked (String.ofList s).toList := by
  rw [String.toList_ofList]
  exact alike_of_all_plain h

/-! ## The texts that are hashed -/

/-- What Python hashes. -/
def sentText (d : Doc) : List Char :=
  write (fun c => (dumpsForm c).encode c) (sortKeys codePointLe d)

variable (blocked) in
/-- What the host hashes. -/
def hostText (d : Doc) : List Char :=
  write (fun c => (relaxedForm blocked c).encode c) (sortKeys ordinalLe d)

theorem texts_agree_iff {d : Doc} (h : d.valid = true) :
    hostText blocked d = sentText d ↔ d.EveryText (Alike blocked) := by
  have hchars : d.EveryText (Alike blocked) ↔ ∀ c ∈ d.chars, EncodedAlike blocked c :=
    forall_chars_iff.symm
  have hform : write (fun c => (relaxedForm blocked c).encode c) (sortKeys codePointLe d) =
      sentText d ↔ ∀ c ∈ d.chars, EncodedAlike blocked c := by
    rw [sentText, write_eq_iff relaxed_dumps_separated]
    simp only [mem_sortKeys_chars, encode_alike_iff]
  constructor
  · intro heq
    -- one text is the text of one document only
    have hsorted : sortKeys ordinalLe d = sortKeys codePointLe d :=
      write_inj decodes_relaxed decodes_dumps (sortKeys_valid h) (sortKeys_valid h) heq
    rw [hostText, hsorted] at heq
    exact hchars.mpr (hform.mp heq)
  · intro halike
    have hsorted : sortKeys codePointLe d = sortKeys ordinalLe d := by
      refine sortKeys_congr (K := Alike blocked) (fun a ha b hb => ?_) d halike
      exact ordinalLe_basic (fun c hc => basic_of_alike (ha c hc))
        fun c hc => basic_of_alike (hb c hc)
    rw [hostText, ← hsorted]
    exact hform.mpr (hchars.mp halike)

end

/-! ## Digests under a domain -/

/-- `{"domain": domain, "payload": payload}`. -/
def domainPayload (domain : String) (payload : Value) : Value :=
  .fields [("domain", .text domain), ("payload", payload)]

def domainDoc (domain : String) (payload : Doc) : Doc :=
  fields [("domain", text domain), ("payload", payload)]

@[simp] theorem toDoc_domainPayload (domain : String) (payload : Value) :
    toDoc (domainPayload domain payload) = domainDoc domain (toDoc payload) := by
  simp [domainPayload, domainDoc]

/-- How a check of the host ends: with an error of the protocol, or in the exception of a reader of
JSON that meets a value of another kind. -/
inductive HostFailure where
  | rejected (error : ProtocolValidationException)
  | unhandled
  deriving DecidableEq

abbrev Verdict := Except HostFailure

section

-- `f"sha256:{sha256(text).hexdigest()}"`
variable (hash : List Char → String)

/-- `_domain_digest`; nothing where the value is not encoded. -/
def domainDigest (domain : String) (payload : Value) : Option String :=
  (canonicalJson (domainPayload domain payload)).toOption.map hash

variable (blocked : Char → Bool)

/-- `HashDomain`. -/
def hashDomain (domain : String) (payload : Doc) : Verdict String :=
  match serialize blocked (domainDoc domain payload) with
  | .ok bytes => .ok (hash bytes)
  | .error error => .error (.rejected error)

variable {hash blocked} {domain digest : String} {payload : Value}

theorem domainDigest_eq_some (h : domainDigest hash domain payload = some digest) :
    digest = hash (sentText (domainDoc domain (toDoc payload))) := by
  obtain ⟨bytes, hbytes, rfl⟩ := Option.map_eq_some_iff.mp h
  have hok : canonicalJson (domainPayload domain payload) = .ok bytes := by
    cases hjson : canonicalJson (domainPayload domain payload) with
    | error e => simp [hjson, Except.toOption] at hbytes
    | ok bytes' => simpa [hjson, Except.toOption] using hbytes
  rw [canonicalJson_eq_ok hok, toDoc_domainPayload, sentText]

theorem hashDomain_eq_ok (hints : payload.EveryInt fitsDouble) :
    hashDomain hash blocked domain (toDoc payload) =
      .ok (hash (hostText blocked (domainDoc domain (toDoc payload)))) := by
  have hfinite : ∀ raw ∈ (domainDoc domain (toDoc payload)).numbers, isFiniteDouble raw = true := by
    rw [← toDoc_domainPayload, numbers_finite_iff]
    refine everyInt_fields.mpr fun m hm => ?_
    simp only [List.mem_cons, List.not_mem_nil, or_false] at hm
    rcases hm with rfl | rfl
    · exact everyInt_text
    · exact hints
  rw [hashDomain, serialize_eq_ok.mpr ⟨hfinite, rfl⟩, hostText]

theorem domainDoc_valid : (domainDoc domain (toDoc payload)).valid = true := by
  rw [← toDoc_domainPayload]
  exact toDoc_valid _

theorem everyText_domainDoc {P : List Char → Prop} {d : Doc} :
    (domainDoc domain d).EveryText P ↔
      (P "domain".toList ∧ P domain.toList) ∧ P "payload".toList ∧ d.EveryText P := by
  simp [domainDoc, everyText_fields]

/-- The host computes the digest that Python gave a value whose texts are encoded alike. -/
theorem hashDomain_agrees (h : domainDigest hash domain payload = some digest)
    (hints : payload.EveryInt fitsDouble) (hdomain : Alike blocked domain.toList)
    (halike : (toDoc payload).EveryText (Alike blocked)) :
    hashDomain hash blocked domain (toDoc payload) = .ok digest := by
  have hall : (domainDoc domain (toDoc payload)).EveryText (Alike blocked) :=
    everyText_domainDoc.mpr ⟨⟨alike_literal rfl, hdomain⟩,
      alike_literal rfl, halike⟩
  rw [hashDomain_eq_ok hints, (texts_agree_iff domainDoc_valid).mpr hall,
    ← domainDigest_eq_some h]

variable (hash blocked) in
/-- The hash tells the texts that the two sides write for a value apart. -/
def TellsApart (domain : String) (payload : Value) : Prop :=
  hash (hostText blocked (domainDoc domain (toDoc payload))) =
      hash (sentText (domainDoc domain (toDoc payload))) →
    hostText blocked (domainDoc domain (toDoc payload)) =
      sentText (domainDoc domain (toDoc payload))

/-- Where the host computes the digest that Python gave, the texts are encoded alike. -/
theorem alike_of_hashDomain (h : domainDigest hash domain payload = some digest)
    (hints : payload.EveryInt fitsDouble) (hapart : TellsApart hash blocked domain payload)
    (hhost : hashDomain hash blocked domain (toDoc payload) = .ok digest) :
    (toDoc payload).EveryText (Alike blocked) := by
  rw [hashDomain_eq_ok hints, domainDigest_eq_some h] at hhost
  have htexts := (texts_agree_iff domainDoc_valid).mp (hapart (Except.ok.inj hhost))
  exact (everyText_domainDoc.mp htexts).2.2

end

end AutocadMcp.Phase8
