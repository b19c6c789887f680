import AutocadMcp.Contracts.CanonicalJson
import AutocadMcp.Lib.Lookup
import AutocadMcp.Workflow.Facade

/-!
# The wait that a command has resolved

`wait_resolved_by_command` looks for the key of a command in the stored text of the resolutions,
with `LIKE`. The text of a response is part of the resolution, and a key may have underscores,
which stand for any character.
-/

namespace AutocadMcp.Workflow

open CanonicalJson JsonText
open Service (isBoundedId like commandPattern foldAscii)

/-! ## Resolutions -/

/-- A key that `_bounded_id` lets pass. -/
abbrev CommandKey := {key : String // isBoundedId key = true}

/-- How a wait was resolved: through `resolve_wait`, or by the system. -/
inductive Resolution where
  | input (key : CommandKey) (response : Value)
  | system (reason : String)

def Resolution.value : Resolution → Value
  | .input key response =>
      .dict [("idempotency_key".toList, .str key.1.toList), ("response".toList, response)]
  | .system reason => .dict [("system".toList, .bool true), ("reason".toList, .str reason.toList)]

mutual

/-- No float of the value is infinite or not a number. -/
def finiteValue : Value → Bool
  | .nonFinite => false
  | .list items => finiteItems items
  | .dict members => finiteMembers members
  | _ => true

def finiteItems : List Value → Bool
  | [] => true
  | item :: items => finiteValue item && finiteItems items

def finiteMembers : List (List Char × Value) → Bool
  | [] => true
  | (_, item) :: members => finiteValue item && finiteMembers members

end

/-- `_json`. -/
def storedJson (v : Value) : Except String (List Char) := do
  check (finiteValue v = true) "workflow_payload_invalid"
  let text ← dumps v
  check (utf8Length text ≤ 262144) "workflow_payload_too_large"
  return text

/-- The `resolution_json` of a wait. -/
structure StoredResolution where
  resolution : Resolution
  text : List Char
  stored : storedJson resolution.value = .ok text

/-- A row of `workflow_waits` with its creation. -/
structure StoredWait where
  waitId : String
  runId : String
  createdAt : String
  resolution : Option StoredResolution

/-- The runs with their owners, and the waits. -/
structure WaitStore where
  runs : List (String × String)
  waits : List StoredWait

/-! ## The lookup -/

/-- `… WHERE run_id=? AND resolution_json LIKE ?`. -/
def likelyWaits (s : WaitStore) (runId : String) (key : CommandKey) : List StoredWait :=
  s.waits.filter fun wait => wait.runId = runId &&
    wait.resolution.any fun stored => like (commandPattern key.1) stored.text

/-- What `wait_resolved_by_command` may return; of waits of one time `LIMIT 1` takes any. -/
def WaitResolvedByCommand (s : WaitStore) (owner runId : String) (key : CommandKey) :
    Except String (Option StoredWait) → Prop
  | .error code => (owner, runId) ∉ s.runs ∧ code = "not_found"
  | .ok none => (owner, runId) ∈ s.runs ∧ likelyWaits s runId key = []
  | .ok (some wait) =>
      (owner, runId) ∈ s.runs ∧ IsLast StoredWait.createdAt (likelyWaits s runId key) wait

def StoredWait.resolvedUnder (wait : StoredWait) (key : CommandKey) : Bool :=
  wait.resolution.any fun stored =>
    match stored.resolution with
    | .input key' _ => key' = key
    | .system _ => false

/-- The waits of a run that were resolved under a key. -/
def ownWaits (s : WaitStore) (runId : String) (key : CommandKey) : List StoredWait :=
  s.waits.filter fun wait => wait.runId = runId && wait.resolvedUnder key

/-- A wait is found just when one of the run was resolved under the key, and then the latest. -/
def FindsOwn (s : WaitStore) (owner runId : String) (key : CommandKey) : Prop :=
  ∀ found, WaitResolvedByCommand s owner runId key (.ok found) →
    (found = none ↔ ownWaits s runId key = []) ∧
    ∀ wait, found = some wait → IsLast StoredWait.createdAt (ownWaits s runId key) wait

/-! ## What looks like a key -/

/-- A character of a pattern without `%` stands for one of the text. -/
def StandsFor (p c : Char) : Prop := p = '_' ∨ foldAscii p = foldAscii c

/-- What stands in front of a key. -/
def keyHead : List Char := "\"idempotency_key\":\"".toList

def keyText (key : CommandKey) : List Char := keyHead ++ (key.1.toList ++ ['"'])

/-- The text has the words `"idempotency_key":"key"` in it, up to the case of letters and with any
character in the place of an underscore. -/
def Spells (key : CommandKey) (text : List Char) : Prop :=
  ∃ before word after, text = before ++ (word ++ after) ∧
    List.Forall₂ StandsFor (keyText key) word

/-- The wait was resolved under another key, and its text spells this one. -/
def StoredWait.spellsOther (wait : StoredWait) (key : CommandKey) : Prop :=
  ∃ stored, wait.resolution = some stored ∧ Spells key stored.text ∧
    ∃ key' response, stored.resolution = .input key' response ∧ key' ≠ key

/-! ## `LIKE` with a percent sign at both ends -/

variable {p c : Char} {pattern needle text : List Char}

theorem like_percent : like ('%' :: pattern) text = true ↔
    ∃ before rest, text = before ++ rest ∧ like pattern rest = true := by
  rw [like, List.any_eq_true]
  simp only [List.mem_tails]
  constructor
  · rintro ⟨rest, ⟨before, rfl⟩, hlike⟩
    exact ⟨before, rest, rfl, hlike⟩
  · rintro ⟨before, rest, rfl, hlike⟩
    exact ⟨rest, ⟨before, rfl⟩, hlike⟩

theorem like_cons (h : p ≠ '%') : like (p :: pattern) text = true ↔
    ∃ c rest, text = c :: rest ∧ StandsFor p c ∧ like pattern rest = true := by
  by_cases hp : p = '_'
  · subst hp
    cases text with
    | nil => simp [like]
    | cons c rest => simp [like, StandsFor]
  · cases text with
    | nil => simp [like]
    | cons c rest => simp [like, hp, StandsFor]

theorem like_append_percent (h : '%' ∉ needle) : like (needle ++ ['%']) text = true ↔
    ∃ word after, text = word ++ after ∧ List.Forall₂ StandsFor needle word := by
  induction needle generalizing text with
  | nil =>
      refine iff_of_true ?_ ⟨[], text, rfl, .nil⟩
      exact like_percent.mpr ⟨text, [], (List.append_nil text).symm, rfl⟩
  | cons p needle ih =>
      rw [List.mem_cons, not_or] at h
      rw [List.cons_append, like_cons (Ne.symm h.1)]
      constructor
      · rintro ⟨c, rest, rfl, hstands, hlike⟩
        obtain ⟨word, after, rfl, hword⟩ := (ih h.2).mp hlike
        exact ⟨c :: word, after, rfl, .cons hstands hword⟩
      · rintro ⟨word, after, rfl, hword⟩
        cases hword with
        | cons hstands hword =>
            exact ⟨_, _, rfl, hstands, (ih h.2).mpr ⟨_, after, rfl, hword⟩⟩

theorem boundedId_chars (key : CommandKey) : ∀ c ∈ key.1.toList,
    c.isAlphanum = true ∨ c ∈ ['.', '_', ':', '-'] := by
  intro c hc
  have hkey := key.2
  unfold isBoundedId at hkey
  split at hkey
  · rename_i hnil
    rw [hnil] at hc
    cases hc
  · rename_i d rest hcons
    rw [Bool.and_eq_true, Bool.and_eq_true, List.all_eq_true] at hkey
    rw [hcons, List.mem_cons] at hc
    rcases hc with rfl | hc
    · exact Or.inl hkey.1.1
    · have hrest := hkey.2 c hc
      rw [Bool.or_eq_true, decide_eq_true_eq] at hrest
      exact hrest

/-- The characters of a key are written as they are. -/
theorem dumpsForm_of_key {c : Char} (h : c.isAlphanum = true ∨ c ∈ ['.', '_', ':', '-']) :
    dumpsForm c = .raw ∧ c ≠ '%' := by
  have hplain : 0x2D ≤ c.toNat ∧ c ≠ '\\' ∧ c ≠ '%' := by
    rcases h with halnum | hmem
    · have hcodes : 48 ≤ c.toNat ∧ c.toNat ≤ 122 ∧ c.toNat ≠ 92 := by
        simp only [Char.isAlphanum, Char.isAlpha, Char.isUpper, Char.isLower, Char.isDigit,
          Bool.or_eq_true, Bool.and_eq_true, decide_eq_true_eq, ge_iff_le,
          UInt32.le_iff_toNat_le] at halnum
        change ((65 ≤ c.toNat ∧ c.toNat ≤ 90) ∨ (97 ≤ c.toNat ∧ c.toNat ≤ 122)) ∨
          (48 ≤ c.toNat ∧ c.toNat ≤ 57) at halnum
        omega
      refine ⟨by omega, ?_, ?_⟩ <;> rintro rfl <;> revert hcodes <;> decide
    · simp only [List.mem_cons, List.not_mem_nil, or_false] at hmem
      rcases hmem with rfl | rfl | rfl | rfl <;> decide
  obtain ⟨hlow, hbackslash, hpercent⟩ := hplain
  refine ⟨?_, hpercent⟩
  have hnone : shortLetter c = none := by
    rw [shortLetter, Option.map_eq_none_iff, List.find?_eq_none]
    intro q hq
    have hcodes : ∀ q ∈ shortEscapes.filter fun p => p.1 ≠ '/', q.2 = '\\' ∨ q.2.toNat < 0x2D := by
      decide
    rw [decide_eq_true_eq]
    rintro rfl
    rcases hcodes q hq with heq | hlt
    · exact hbackslash heq
    · omega
  rw [dumpsForm, hnone]
  exact if_neg (by omega)

/-- How `json.dumps` writes a string between its quotes. -/
def quoted (s : List Char) : List Char := s.flatMap fun c => (dumpsForm c).encode c

/-- The texts around a key, letter by letter where a pattern is matched with them, the names of
the members and the text around a reason of the system. -/
theorem literalTexts :
    ('%' ∉ keyHead ∧ "%\"idempotency_key\":\"".toList = '%' :: keyHead ∧
      "\"%".toList = ['"'] ++ ['%'] ∧
      keyHead = '"' :: ("idempotency_key".toList ++ ['"', ':', '"']) ∧
      keyHead = "\"idempotency_ke".toList ++ ['y', '"', ':', '"']) ∧
    (codePointLe "idempotency_key".toList "response".toList = true ∧
      ¬ codePointLe "system".toList "reason".toList = true ∧
      quoted "idempotency_key".toList = "idempotency_key".toList ∧
      quoted "reason".toList = "reason".toList ∧ quoted "system".toList = "system".toList) ∧
    "\x7b\"reason\":\"".toList = '{' :: '"' :: ("reason".toList ++ ['"', ':', '"']) ∧
    "\",\"system\":true\x7d".toList =
      '"' :: ',' :: '"' :: ("system".toList ++ '"' :: ':' :: ("true".toList ++ ['}'])) ∧
    "\",\"system\":true\x7d".toList = '"' :: ',' :: "\"system\":true\x7d".toList ∧
    "\x7b\"reason\":\"".toList = ['{', '"', 'r', 'e', 'a', 's', 'o', 'n', '"', ':', '"'] := by
  decide +kernel

theorem percent_notMem_keyText (key : CommandKey) : '%' ∉ keyText key := by
  intro h
  simp only [keyText, List.mem_append] at h
  rcases h with hhead | hkey | hquote
  · exact absurd hhead literalTexts.1.1
  · exact (dumpsForm_of_key (boundedId_chars key _ hkey)).2 rfl
  · exact absurd hquote (by decide)

theorem commandPattern_eq (key : CommandKey) :
    commandPattern key.1 = '%' :: (keyText key ++ ['%']) := by
  obtain ⟨-, hhead, htail, -, -⟩ := literalTexts.1
  unfold commandPattern keyText
  simp only [hhead, htail, List.cons_append, List.append_assoc]

/-- The lookup takes the texts that spell the key. -/
theorem like_commandPattern (key : CommandKey) (text : List Char) :
    like (commandPattern key.1) text = true ↔ Spells key text := by
  have hpercent := percent_notMem_keyText key
  rw [commandPattern_eq]
  constructor
  · intro h
    obtain ⟨before, rest, rfl, hlike⟩ := like_percent.mp h
    obtain ⟨word, after, rfl, hword⟩ := (like_append_percent hpercent).mp hlike
    exact ⟨before, word, after, rfl, hword⟩
  · rintro ⟨before, word, after, rfl, hword⟩
    refine like_percent.mpr ⟨before, word ++ after, rfl, ?_⟩
    exact (like_append_percent hpercent).mpr ⟨word, after, rfl, hword⟩

/-! ## The stored texts -/

theorem quoted_key (key : CommandKey) : quoted key.1.toList = key.1.toList := by
  have hraw : ∀ c ∈ key.1.toList, (dumpsForm c).encode c = [c] := fun c hc => by
    rw [(dumpsForm_of_key (boundedId_chars key c hc)).1, Form.encode]
  rw [quoted, List.flatMap_congr hraw]
  simp

theorem storedJson_eq_ok {v : Value} {text : List Char} (h : storedJson v = .ok text) :
    text = write (fun c => (dumpsForm c).encode c) (sortKeys codePointLe (toDoc v)) := by
  rw [storedJson] at h
  obtain ⟨_, -, h₁⟩ := bind_eq_ok.mp h
  obtain ⟨written, hdumps, h₂⟩ := bind_eq_ok.mp h₁
  obtain ⟨_, -, h₃⟩ := bind_eq_ok.mp h₂
  rw [dumps] at hdumps
  obtain ⟨_, -, hwrite⟩ := bind_eq_ok.mp hdumps
  cases h₃
  cases hwrite
  rfl

theorem sortKeys_pair {le : List Char → List Char → Bool} (a b : List Char) (d e : Doc) :
    sortKeys le (.object [(a, d), (b, e)]) =
      if le a b = true then .object [(a, sortKeys le d), (b, sortKeys le e)]
      else .object [(b, sortKeys le e), (a, sortKeys le d)] := by
  simp only [sortKeys, sortMembers, sortByKey, List.insertionSort, List.foldr, List.orderedInsert]
  split <;> rfl

theorem write_pair {enc : Char → List Char} (a b : List Char) (d e : Doc) :
    write enc (.object [(a, d), (b, e)]) = '{' :: '"' :: (a.flatMap enc ++ '"' :: ':' ::
      (write enc d ++ ',' :: '"' :: (b.flatMap enc ++ '"' :: ':' :: (write enc e ++ ['}'])))) := by
  simp only [write, writeMembers, writeMembersTail, writeString, List.cons_append,
    List.append_assoc, List.nil_append]

/-- The text of a resolution through `resolve_wait` starts with its key. -/
theorem text_input {key : CommandKey} {response : Value} {text : List Char}
    (h : storedJson (Resolution.input key response).value = .ok text) :
    ∃ rest, text = '{' :: (keyText key ++ rest) := by
  obtain ⟨horder, -, hname, -, -⟩ := literalTexts.2.1
  obtain ⟨-, -, -, hhead, -⟩ := literalTexts.1
  have hkey := quoted_key key
  unfold quoted at hname hkey
  have htext := storedJson_eq_ok h
  unfold Resolution.value at htext
  simp only [toDoc, docMembers, sortKeys_pair, if_pos horder, write_pair, hname] at htext
  simp only [sortKeys, write, writeString, hkey] at htext
  obtain ⟨rest, hrest⟩ : ∃ rest, text = '{' :: '"' :: ("idempotency_key".toList ++ '"' :: ':' ::
      ('"' :: (key.1.toList ++ ['"']) ++ rest)) := ⟨_, htext⟩
  refine ⟨rest, ?_⟩
  unfold keyText
  simp only [hrest, hhead, List.cons_append, List.append_assoc, List.nil_append]

theorem text_system {reason : String} {text : List Char}
    (h : storedJson (Resolution.system reason).value = .ok text) :
    text = "\x7b\"reason\":\"".toList ++ (quoted reason.toList ++ "\",\"system\":true\x7d".toList) := by
  obtain ⟨-, horder, -, hreason, hsystem⟩ := literalTexts.2.1
  obtain ⟨hhead, htail, -, -⟩ := literalTexts.2.2
  unfold quoted at hreason hsystem
  have htext := storedJson_eq_ok h
  unfold Resolution.value at htext
  simp only [toDoc, docMembers, sortKeys_pair, if_neg horder, write_pair, hreason,
    hsystem] at htext
  simp only [sortKeys, write, writeString] at htext
  rw [htext]
  unfold quoted
  simp only [hhead, htail, List.cons_append, List.append_assoc, List.nil_append]

theorem foldAscii_eq {b c : Char} (h : foldAscii b = c) (hc : c.toNat < 65) : b = c := by
  rw [foldAscii] at h
  split at h
  · rename_i hupper
    exfalso
    have hlow : 97 ≤ b.toLower.toNat := by
      have hbounds : 65 ≤ b.toNat ∧ b.toNat ≤ 90 := by
        simp only [Char.isUpper, decide_eq_true_eq] at hupper
        exact ⟨UInt32.le_iff_toNat_le.mp hupper.1, UInt32.le_iff_toNat_le.mp hupper.2⟩
      obtain ⟨hlow, hhigh⟩ := hbounds
      rw [← Char.ofNat_toNat b]
      generalize b.toNat = n at hlow hhigh
      interval_cases n <;> decide
    rw [h] at hlow
    omega
  · exact h

/-! ## A resolution by the system -/

/-- Nowhere in the text is there a `y` with a quote and a colon behind it. -/
def markFree : Char → List Char → Bool
  | _, [] => true
  | prev, c :: rest =>
      !(foldAscii prev = 'y' && c = '"' && rest.head? = some ':') && markFree c rest

theorem not_markFree {prev a : Char} {before after : List Char} (ha : foldAscii a = 'y') :
    markFree prev (before ++ a :: '"' :: ':' :: after) = false := by
  induction before generalizing prev with
  | nil => simp [markFree, ha]
  | cons b before ih => rw [List.cons_append, markFree, ih, Bool.and_false]

theorem forall₂_append {α β : Type} {R : α → β → Prop} {xs ys : List α} {word : List β}
    (h : List.Forall₂ R (xs ++ ys) word) :
    ∃ w₁ w₂, word = w₁ ++ w₂ ∧ List.Forall₂ R xs w₁ ∧ List.Forall₂ R ys w₂ := by
  induction xs generalizing word with
  | nil => exact ⟨[], word, rfl, .nil, h⟩
  | cons x xs ih =>
      cases h with
      | cons hx h =>
          obtain ⟨w₁, w₂, rfl, hxs, hys⟩ := ih h
          exact ⟨_ :: w₁, w₂, rfl, .cons hx hxs, hys⟩

/-- A text that spells a key has a `y` with a quote and a colon behind it. -/
theorem Spells.not_markFree {key : CommandKey} (h : Spells key text) (prev : Char) :
    markFree prev text = false := by
  obtain ⟨before, word, after, rfl, hword⟩ := h
  obtain ⟨-, -, -, -, hhead⟩ := literalTexts.1
  unfold keyText at hword
  rw [hhead] at hword
  obtain ⟨w₁, w₂, rfl, hw₁, -⟩ := forall₂_append hword
  obtain ⟨w₃, w₄, rfl, -, hw₄⟩ := forall₂_append hw₁
  cases hw₄ with
  | @cons _ a _ _ hy hw₄ =>
  cases hw₄ with
  | @cons _ b _ _ hquote hw₄ =>
  cases hw₄ with
  | @cons _ c _ rest hcolon hw₄ =>
    have ha : foldAscii a = 'y' := (hy.resolve_left (by decide)).symm
    have hb : b = '"' := foldAscii_eq (hquote.resolve_left (by decide)).symm (by decide)
    have hc : c = ':' := foldAscii_eq (hcolon.resolve_left (by decide)).symm (by decide)
    have htext : before ++ (((w₃ ++ a :: b :: c :: rest) ++ w₂) ++ after) =
        (before ++ w₃) ++ a :: '"' :: ':' :: (rest ++ (w₂ ++ after)) := by
      rw [hb, hc]
      simp only [List.append_assoc, List.cons_append]
    rw [htext]
    exact Workflow.not_markFree ha

theorem markFree_append {xs rest : List Char} (hxs : '"' ∉ xs)
    (hrest : ∀ prev, markFree prev rest = true) (prev : Char) :
    markFree prev (xs ++ rest) = true := by
  induction xs generalizing prev with
  | nil => exact hrest prev
  | cons c xs ih =>
      rw [List.mem_cons, not_or] at hxs
      have hc : c ≠ '"' := Ne.symm hxs.1
      rw [List.cons_append, markFree, ih hxs.2]
      simp [hc]

theorem hexDigit_ne_quote (upper : Bool) (n : ℕ) : hexDigit upper (n % 16) ≠ '"' := by
  have hlt : n % 16 < 16 := Nat.mod_lt n (by decide)
  generalize n % 16 = d at hlt
  revert upper
  interval_cases d <;> decide

theorem quote_notMem_hex (upper : Bool) (c : Char) : '"' ∉ (Form.hex upper).encode c := by
  intro h
  obtain ⟨unit, -, hunit⟩ := List.mem_flatMap.mp h
  simp only [unicodeEscape, List.mem_cons, List.not_mem_nil, or_false] at hunit
  rcases hunit with h | h | h | h | h | h
  · exact absurd h (by decide)
  · exact absurd h (by decide)
  · exact hexDigit_ne_quote upper _ h.symm
  · exact hexDigit_ne_quote upper _ h.symm
  · exact hexDigit_ne_quote upper _ h.symm
  · exact hexDigit_ne_quote upper _ h.symm

/-- In a string that `json.dumps` writes a quote has a backslash before it. -/
theorem markFree_quoted {rest : List Char} (hrest : ∀ prev, markFree prev rest = true)
    (s : List Char) (prev : Char) : markFree prev (quoted s ++ rest) = true := by
  induction s generalizing prev with
  | nil => exact hrest prev
  | cons c s ih =>
      have hcons : quoted (c :: s) ++ rest =
          (dumpsForm c).encode c ++ (quoted s ++ rest) := by
        simp only [quoted, List.flatMap_cons, List.append_assoc]
      have hallowed := dumpsForm_allowed c
      rw [hcons]
      cases hform : dumpsForm c with
      | raw =>
          rw [hform] at hallowed
          exact markFree_append (by simpa [Form.encode] using hallowed.2.1.symm) ih prev
      | short letter =>
          have hbackslash : foldAscii '\\' ≠ 'y' := by decide
          simp [Form.encode, markFree, hbackslash, ih]
      | hex upper => exact markFree_append (quote_notMem_hex upper c) ih prev

theorem markFree_system : markFree '"' (',' :: "\"system\":true\x7d".toList) = true := by
  decide +kernel

/-- No reason of the system spells a key. -/
theorem not_spells_system {reason : String} {key : CommandKey}
    (h : storedJson (Resolution.system reason).value = .ok text) : ¬ Spells key text := by
  intro hspells
  obtain ⟨-, -, hcons, hhead⟩ := literalTexts.2.2
  obtain ⟨tail, htext, htail⟩ : ∃ tail, text = "\x7b\"reason\":\"".toList ++
      (quoted reason.toList ++ tail) ∧ ∀ prev, markFree prev tail = true := by
    refine ⟨_, text_system h, fun prev => ?_⟩
    rw [hcons, markFree, markFree_system]
    simp
  have hquoted := markFree_quoted htail reason.toList '"'
  have hfree : markFree '{' text = true := by
    have hn : foldAscii 'n' ≠ 'y' := by decide
    have hcolon : foldAscii ':' ≠ 'y' := by decide
    rw [htext, hhead]
    simp [markFree, hn, hcolon, hquoted]
  rw [hspells.not_markFree] at hfree
  cases hfree

/-! ## What the lookup finds -/

variable {s : WaitStore} {owner runId : String} {key : CommandKey} {wait : StoredWait}

theorem mem_likelyWaits : wait ∈ likelyWaits s runId key ↔ wait ∈ s.waits ∧
    wait.runId = runId ∧ ∃ stored, wait.resolution = some stored ∧ Spells key stored.text := by
  rw [likelyWaits, List.mem_filter, Bool.and_eq_true, decide_eq_true_eq, Option.any_eq_true]
  simp only [like_commandPattern]

theorem resolvedUnder_iff : wait.resolvedUnder key = true ↔ ∃ stored response,
    wait.resolution = some stored ∧ stored.resolution = .input key response := by
  rw [StoredWait.resolvedUnder, Option.any_eq_true]
  constructor
  · rintro ⟨stored, hstored, hkey⟩
    cases hresolution : stored.resolution with
    | input key' response =>
        rw [hresolution] at hkey
        obtain rfl : key' = key := of_decide_eq_true hkey
        exact ⟨stored, response, hstored, hresolution⟩
    | system reason =>
        rw [hresolution] at hkey
        cases hkey
  · rintro ⟨stored, response, hstored, hresolution⟩
    refine ⟨stored, hstored, ?_⟩
    rw [hresolution]
    exact decide_eq_true rfl

theorem mem_ownWaits : wait ∈ ownWaits s runId key ↔
    wait ∈ s.waits ∧ wait.runId = runId ∧ wait.resolvedUnder key = true := by
  rw [ownWaits, List.mem_filter, Bool.and_eq_true, decide_eq_true_eq]

/-- What was resolved under the key is found. -/
theorem mem_likelyWaits_of_own (h : wait ∈ ownWaits s runId key) :
    wait ∈ likelyWaits s runId key := by
  obtain ⟨hwait, hrun, hunder⟩ := mem_ownWaits.mp h
  obtain ⟨stored, response, hstored, hresolution⟩ := resolvedUnder_iff.mp hunder
  have htext := stored.stored
  rw [hresolution] at htext
  obtain ⟨rest, hrest⟩ := text_input htext
  have hself : List.Forall₂ StandsFor (keyText key) (keyText key) :=
    List.forall₂_same.mpr fun _ _ => Or.inr rfl
  exact mem_likelyWaits.mpr ⟨hwait, hrun, stored, hstored, ['{'], keyText key, rest, hrest, hself⟩

/-- What is found was resolved under the key, or spells it under another one. -/
theorem own_or_spellsOther (h : wait ∈ likelyWaits s runId key) :
    wait ∈ ownWaits s runId key ∨ wait.spellsOther key := by
  obtain ⟨hwait, hrun, stored, hstored, hspells⟩ := mem_likelyWaits.mp h
  have htext := stored.stored
  cases hresolution : stored.resolution with
  | input key' response =>
      by_cases hkey : key' = key
      · refine Or.inl (mem_ownWaits.mpr ⟨hwait, hrun, resolvedUnder_iff.mpr ?_⟩)
        exact ⟨stored, response, hstored, hkey ▸ hresolution⟩
      · exact Or.inr ⟨stored, hstored, hspells, key', response, hresolution, hkey⟩
  | system reason =>
      rw [hresolution] at htext
      exact absurd hspells (not_spells_system htext)

theorem not_own_of_spellsOther (h : wait.spellsOther key) : wait ∉ ownWaits s runId key := by
  intro hown
  obtain ⟨stored, response, hstored, hresolution⟩ := resolvedUnder_iff.mp (mem_ownWaits.mp hown).2.2
  obtain ⟨stored', hstored', -, key', response', hresolution', hne⟩ := h
  rw [hstored] at hstored'
  obtain rfl := Option.some.inj hstored'
  rw [hresolution] at hresolution'
  cases hresolution'
  exact hne rfl

/-- The lookup finds just the waits that were resolved under the key if and only if every wait of
the run that spells the key under another one is older than one of them. -/
theorem findsOwn_iff (s : WaitStore) (owner runId : String) (key : CommandKey) :
    FindsOwn s owner runId key ↔ ((owner, runId) ∈ s.runs → ∀ wait ∈ s.waits,
      wait.runId = runId → wait.spellsOther key →
        ∃ own ∈ ownWaits s runId key, wait.createdAt < own.createdAt) := by
  constructor
  · intro h hrun wait hwait hwaitRun hother
    have hnot : wait ∉ ownWaits s runId key := not_own_of_spellsOther hother
    obtain ⟨stored, hstored, hspells, -⟩ := hother
    have hlikely : wait ∈ likelyWaits s runId key :=
      mem_likelyWaits.mpr ⟨hwait, hwaitRun, stored, hstored, hspells⟩
    obtain ⟨found, hfound⟩ : ∃ found, IsLast StoredWait.createdAt (likelyWaits s runId key) found :=
      exists_isLast (List.ne_nil_of_mem hlikely)
    have hown := ((h (some found) ⟨hrun, hfound⟩).2 found rfl).1
    refine ⟨found, hown, lt_of_le_of_ne (hfound.2 wait hlikely) fun heq => hnot ?_⟩
    -- a wait of the same time may be found in its place
    have hlast : IsLast StoredWait.createdAt (likelyWaits s runId key) wait :=
      ⟨hlikely, fun other hmem => heq ▸ hfound.2 other hmem⟩
    exact ((h (some wait) ⟨hrun, hlast⟩).2 wait rfl).1
  · intro h found hfound
    cases found with
    | none =>
        obtain ⟨-, hnone⟩ := hfound
        refine ⟨iff_of_true rfl ?_, fun wait heq => ?_⟩
        · refine List.eq_nil_iff_forall_not_mem.mpr fun wait hown => ?_
          exact absurd (mem_likelyWaits_of_own hown) (hnone ▸ List.not_mem_nil)
        · cases heq
    | some wait =>
        obtain ⟨hrun, hlast⟩ := hfound
        have hown : wait ∈ ownWaits s runId key := by
          refine (own_or_spellsOther hlast.1).resolve_right fun hother => ?_
          obtain ⟨hwait, hwaitRun, -⟩ := mem_likelyWaits.mp hlast.1
          obtain ⟨own, hown, hlt⟩ := h hrun wait hwait hwaitRun hother
          exact absurd (hlast.2 own (mem_likelyWaits_of_own hown)) (not_le.mpr hlt)
        refine ⟨iff_of_false (Option.some_ne_none wait) (List.ne_nil_of_mem hown), ?_⟩
        intro other heq
        cases heq
        exact ⟨hown, fun own hmem => hlast.2 own (mem_likelyWaits_of_own hmem)⟩

/-! ## A wait of another command -/

def sampleResolution : StoredResolution where
  resolution := .input ⟨"submit-1", by decide +kernel⟩ (.dict [])
  text := "\x7b\"idempotency_key\":\"submit-1\",\"response\":\x7b\x7d\x7d".toList
  stored := by decide +kernel

def sampleWait : StoredWait where
  waitId := "wait"
  runId := "run"
  createdAt := "2026-01-01T00:00:00+00:00"
  resolution := some sampleResolution

def sampleStore : WaitStore := ⟨[("owner", "run")], [sampleWait]⟩

def otherKey : CommandKey := ⟨"submit_1", by decide +kernel⟩

theorem sampleWait_likely : likelyWaits sampleStore "run" otherKey = [sampleWait] ∧
    sampleWait.resolvedUnder otherKey = false := by
  have hboth : (like (commandPattern otherKey.1) sampleResolution.text = true) ∧
      sampleWait.resolvedUnder otherKey = false := by decide +kernel
  exact ⟨List.filter_cons_of_pos hboth.1, hboth.2⟩

/-- The underscore of `submit_1` finds the wait of `submit-1`. -/
theorem finds_wait_of_other_key : ¬ ∀ (s : WaitStore) (owner runId : String) (key : CommandKey),
    FindsOwn s owner runId key := by
  intro h
  have hfinds := h sampleStore "owner" "run"
    otherKey (some sampleWait)
  have hlast := (hfinds ⟨List.mem_cons_self, ?_⟩).2 sampleWait rfl
  · have hunder := (mem_ownWaits.mp hlast.1).2.2
    rw [sampleWait_likely.2] at hunder
    cases hunder
  · rw [sampleWait_likely.1]
    refine ⟨List.mem_cons_self, fun other hother => ?_⟩
    rw [List.mem_singleton.mp hother]

end AutocadMcp.Workflow
