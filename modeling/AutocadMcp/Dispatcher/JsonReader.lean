import AutocadMcp.Lib.AutoLisp
import AutocadMcp.Contracts.CanonicalJson

/-!
# The request file of the AutoLISP dispatcher

The text that `FileIPCBackend._dispatch_once` writes for a command with flat
parameters, and the two functions with which the dispatcher takes a value out of it.
They are no parser: they look for the name in quotes, then for a colon, and read what
stands there.
-/

namespace AutocadMcp.Dispatcher

open AutoLisp JsonText CanonicalJson

/-! ## The reader -/

/-- `(strcat "\"" key "\"")`. -/
def quoted (key : Str) : Str := '"' :: (key ++ ['"'])

/-- The position of the first colon at or behind the first place of the name in quotes. -/
def colonOf (json key : Str) : Option Nat :=
  (vlStringSearch (quoted key) json 0).bind fun pos => vlStringSearch [':'] json pos

/-- The loop over the characters of a string value; the first one is not compared. -/
def stringEnd (json : Str) (pos endPos : Nat) : Nat :=
  if endPos ≤ strlen json ∧ (endPos = pos ∨ substr json endPos 1 ≠ ['"']) then
    if substr json endPos 1 = ['\\'] then stringEnd json pos (endPos + 2)
    else stringEnd json pos (endPos + 1)
  else endPos
termination_by strlen json + 1 - endPos

/-- `mcp-json-get-string`. -/
def mcpJsonGetString (json key : Str) : Option Str :=
  match colonOf json key with
  | none => none
  | some pos =>
      let i := skipChars [[' '], ['\t'], ['\n'], ['\r']] json (pos + 2)
      let ch := if i ≤ strlen json then substr json i 1 else []
      if ch ≠ ['"'] then none
      else
        let pos := i + 1
        some (substr json pos (stringEnd json pos pos - pos))

def numberChars : List Str :=
  [['0'], ['1'], ['2'], ['3'], ['4'], ['5'], ['6'], ['7'], ['8'], ['9'], ['.'], ['-'], ['+']]

/-- `mcp-json-get-number`. -/
def mcpJsonGetNumber (json key : Str) : Option Double :=
  match colonOf json key with
  | none => none
  | some pos =>
      let numStart := skipChars [[' '], ['\t'], ['\n']] json (pos + 2)
      let numEnd := skipChars numberChars json numStart
      some (atof (substr json numStart (numEnd - numStart)))

/-! ## The writer -/

/-- The value of a flat parameter. -/
inductive Sent where
  | str (s : Str)
  | int (n : Int)
  | float (r : FloatRepr)

/-- What `_dispatch_once` puts into a request; a parameter may be `None`. Of an integer with more
digits `json.dumps` makes no text. -/
structure Payload where
  requestId : Str
  sessionId : Str
  command : Str
  params : List (Str × Option Sent)
  documentIdentity : Str
  ts : FloatRepr
  unique : (params.map Prod.fst).Nodup
  writable : ∀ m ∈ params, ∀ n, m.2 = some (.int n) →
    (Nat.toDigits 10 n.natAbs).length ≤ intMaxStrDigits

/-- `json.dumps` of a string, with `ensure_ascii=False`. -/
def jsonString (s : Str) : Str := writeString (fun c => (dumpsForm c).encode c) s

def jsonValue : Sent → Str
  | .str s => jsonString s
  | .int n => intText n
  | .float r => r.text

def jsonMember (key value : Str) : Str := jsonString key ++ ':' :: ' ' :: value

/-- The members with the default separator between them. -/
def joined : List Str → Str
  | [] => []
  | [m] => m
  | m :: ms => m ++ ',' :: ' ' :: joined ms

def jsonObject (members : List Str) : Str := '{' :: (joined members ++ ['}'])

namespace Payload

/-- `clean_params`. -/
def cleanParams (p : Payload) : List (Str × Sent) :=
  p.params.filterMap fun m => m.2.map fun v => (m.1, v)

/-- `json.dumps(payload, ensure_ascii=False)`. -/
def text (p : Payload) : Str :=
  jsonObject
    [jsonMember "request_id".toList (jsonString p.requestId),
     jsonMember "session_id".toList (jsonString p.sessionId),
     jsonMember "command".toList (jsonString p.command),
     jsonMember "params".toList
       (jsonObject (p.cleanParams.map fun m => jsonMember m.1 (jsonValue m.2))),
     jsonMember "document_identity".toList (jsonString p.documentIdentity),
     jsonMember "ts".toList p.ts.text]

/-- The value that was sent for a parameter. -/
def sent? (p : Payload) (key : Str) : Option Sent :=
  (p.cleanParams.find? fun m => m.1 = key).map Prod.snd

end Payload

/-! ## What the reader takes from a place -/

def isBlank (c : Char) : Bool := c ∈ [' ', '\t', '\n', '\r']

def isNumberBlank (c : Char) : Bool := c ∈ [' ', '\t', '\n']

def isNumeral (c : Char) : Bool := c.isDigit || c ∈ ['.', '-', '+']

/-- How far the loop over a string value goes; behind the first character a quote ends it. -/
def rawLength (first : Bool) : Str → Nat
  | [] => 0
  | c :: cs =>
      if c = '"' ∧ first = false then 0
      else if c = '\\' then
        match cs with
        | [] => 2
        | _ :: ds => 2 + rawLength false ds
      else 1 + rawLength false cs

/-- The string that the reader takes from the text behind a colon. -/
def shownString (rest : Str) : Option Str :=
  match rest.dropWhile isBlank with
  | '"' :: body => some (body.take (rawLength true body))
  | _ => none

/-- The number that the reader takes from the text behind a colon. -/
def shownNumber (rest : Str) : Double :=
  atof ((rest.dropWhile isNumberBlank).takeWhile isNumeral)

theorem isNumeral_iff (c : Char) : [c] ∈ numberChars ↔ isNumeral c = true := by
  have hdigit : c.isDigit = true ↔ c ∈ ['0', '1', '2', '3', '4', '5', '6', '7', '8', '9'] := by
    constructor
    · intro h
      simp only [Char.isDigit, Bool.and_eq_true, decide_eq_true_eq, UInt32.le_iff_toNat_le] at h
      obtain ⟨hlow, hhigh⟩ := h
      have hlow : 48 ≤ c.toNat := hlow
      have hhigh : c.toNat ≤ 57 := hhigh
      rw [← Char.ofNat_toNat c]
      generalize c.toNat = n at hlow hhigh
      interval_cases n <;> decide
    · intro h
      have hall : ['0', '1', '2', '3', '4', '5', '6', '7', '8', '9'].all Char.isDigit = true := rfl
      exact List.all_eq_true.mp hall c h
  simp [isNumeral, numberChars, hdigit]
  tauto

section

variable {x rest key : Str}

theorem rawLength_quote (cs : Str) : rawLength false ('"' :: cs) = 0 := by
  rw [rawLength.eq_def]
  rfl

theorem rawLength_escape (first : Bool) (d : Char) (ds : Str) :
    rawLength first ('\\' :: d :: ds) = 2 + rawLength false ds := by
  rw [rawLength.eq_def]
  rfl

theorem rawLength_plain {first : Bool} {c : Char} (cs : Str) (hescape : c ≠ '\\')
    (hquote : c = '"' → first = true) : rawLength first (c :: cs) = 1 + rawLength false cs := by
  rw [rawLength.eq_def]
  dsimp only
  rw [if_neg, if_neg hescape]
  rintro ⟨hc, hfirst⟩
  rw [hquote hc] at hfirst
  cases hfirst

/-- The loop over the characters goes as far as the text behind its start says. -/
theorem stringEnd_behind (pos : Nat) : ∀ (n : Nat) (rest x : Str), rest.length ≤ n →
    pos ≤ x.length + 1 →
    stringEnd (x ++ rest) pos (x.length + 1) =
      x.length + 1 + rawLength (x.length + 1 = pos) rest := by
  have hover : ∀ (x : Str) (i : Nat), x.length < i → stringEnd x pos i = i := by
    intro x i hi
    rw [stringEnd, if_neg]
    intro h
    exact absurd h.1 (by simpa [strlen] using hi)
  intro n
  -- an escape takes two characters at once
  induction n with
  | zero =>
      intro rest x hn _
      obtain rfl := List.length_eq_zero_iff.mp (Nat.le_zero.mp hn)
      rw [hover _ _ (by simp)]
      rfl
  | succ n ih =>
      intro rest x hn hpos
      cases rest with
      | nil =>
          rw [hover _ _ (by simp)]
          rfl
      | cons c cs =>
          have hlater : ∀ k, decide (x.length + (k + 1) + 1 = pos) = false := fun k => by
            simpa using (by omega : x.length + (k + 1) + 1 ≠ pos)
          rw [stringEnd, substr_behind]
          simp only [List.take_succ_cons, List.take_zero, ne_eq, List.cons.injEq, and_true]
          by_cases hescape : c = '\\'
          · subst hescape
            rw [if_pos ⟨by simp, Or.inr (by decide)⟩, if_pos rfl]
            cases cs with
            | nil =>
                rw [hover _ _ (by simp)]
                rfl
            | cons d ds =>
                have hmove := ih ds (x ++ ['\\', d]) (by simp at hn ⊢; omega) (by simp; omega)
                rw [List.append_assoc, List.length_append] at hmove
                rw [rawLength_escape]
                simp only [List.cons_append, List.nil_append, List.length_cons, List.length_nil,
                  Nat.zero_add, hlater 1] at hmove
                rw [show x.length + 1 + 2 = x.length + (1 + 1) + 1 by omega, hmove]
                omega
          · by_cases hquote : c = '"' → x.length + 1 = pos
            · rw [if_pos ⟨by simp, by tauto⟩, if_neg hescape,
                rawLength_plain cs hescape (by simpa using hquote)]
              have hmove := ih cs (x ++ [c]) (by simp at hn; omega) (by simp; omega)
              rw [List.append_assoc, List.length_append, List.length_singleton,
                List.singleton_append, hlater 0] at hmove
              rw [hmove]
              omega
            · obtain ⟨rfl, hne⟩ := Classical.not_imp.mp hquote
              rw [if_neg (by simp [hne]), show decide (x.length + 1 = pos) = false by simpa using hne,
                rawLength_quote]

/-- The colon that the search finds is one of the text. -/
theorem colonOf_eq_some {json : Str} {c : Nat} (h : colonOf json key = some c) :
    ∃ before rest, json = before ++ ':' :: rest ∧ c = before.length := by
  unfold colonOf vlStringSearch at h
  obtain ⟨pos, hpos, hc⟩ := Option.bind_eq_some_iff.mp h
  obtain ⟨between, after, hdrop, rfl, hcolon⟩ := findFrom_eq_some hc
  obtain ⟨rest, rfl⟩ := hcolon
  obtain ⟨early, late, hjson, hfirst, -⟩ := findFrom_eq_some hpos
  refine ⟨json.take pos ++ between, rest, ?_, ?_⟩
  · rw [List.append_assoc, show ':' :: rest = [':'] ++ rest from rfl, ← hdrop,
      List.take_append_drop]
  · rw [List.length_append, List.length_take, Nat.min_eq_left]
    rw [List.drop_zero] at hjson
    rw [hjson, hfirst, List.length_append]
    omega

theorem takeWhile_isBlank (rest : Str) :
    (rest.takeWhile fun c => [c] ∈ [[' '], ['\t'], ['\n'], ['\r']]) = rest.takeWhile isBlank := by
  congr 1
  funext c
  simp [isBlank]

/-- `mcp-json-get-string` reads what stands behind the colon. -/
theorem mcpJsonGetString_eq (json key : Str) :
    mcpJsonGetString json key =
      (colonOf json key).bind fun c => shownString (json.drop (c + 1)) := by
  unfold mcpJsonGetString
  cases hcolon : colonOf json key with
  | none => rfl
  | some c =>
      obtain ⟨before, rest, rfl, rfl⟩ := colonOf_eq_some hcolon
      have hbehind : before ++ ':' :: rest = (before ++ [':']) ++ rest := by simp
      have hskip := skipChars_behind [[' '], ['\t'], ['\n'], ['\r']] rest (before ++ [':'])
      rw [List.length_append, List.length_singleton, takeWhile_isBlank] at hskip
      dsimp only [Option.bind_some]
      rw [hbehind, hskip, show before.length + 1 = (before ++ [':']).length by simp, List.drop_left]
      -- the blanks are passed, and what is left starts at the position of the quote
      generalize hx : before ++ [':'] ++ rest.takeWhile isBlank = x
      generalize hleft : rest.dropWhile isBlank = left
      have hjson : before ++ [':'] ++ rest = x ++ left := by
        rw [← hx, ← hleft, List.append_assoc (before ++ [':']), List.takeWhile_append_dropWhile]
      have hlength : (before ++ [':']).length + 1 + (rest.takeWhile isBlank).length =
          x.length + 1 := by
        rw [← hx, @List.length_append _ (before ++ [':'])]
        omega
      unfold shownString
      rw [hleft, hjson, hlength, substr_behind]
      cases left with
      | nil => simp
      | cons d body =>
          have hchar : (if x.length + 1 ≤ strlen (x ++ d :: body) then (d :: body).take 1 else []) =
              [d] := by
            rw [if_pos (by simp)]
            rfl
          rw [hchar]
          by_cases hd : d = '"'
          · subst hd
            rw [if_neg (by simp)]
            have hend := stringEnd_behind (x.length + 1 + 1) body.length body (x ++ ['"']) le_rfl
              (by simp)
            rw [List.length_append, List.length_singleton, decide_eq_true rfl, List.append_assoc,
              List.singleton_append] at hend
            rw [hend, show x.length + 1 + 1 + rawLength true body - (x.length + 1 + 1) =
              rawLength true body by omega]
            have hbody : substr (x ++ ['"'] ++ body) ((x ++ ['"']).length + 1)
                (rawLength true body) = body.take (rawLength true body) := substr_behind _
            rw [List.length_append, List.length_singleton, List.append_assoc,
              List.singleton_append] at hbody
            rw [hbody]
            rfl
          · rw [if_pos (by simpa using hd)]
            split
            · rename_i heq
              exact absurd (List.cons.inj heq).1 hd
            · rfl

/-- `mcp-json-get-number` reads what stands behind the colon. -/
theorem mcpJsonGetNumber_eq (json key : Str) :
    mcpJsonGetNumber json key =
      (colonOf json key).map fun c => shownNumber (json.drop (c + 1)) := by
  unfold mcpJsonGetNumber
  cases hcolon : colonOf json key with
  | none => rfl
  | some c =>
      obtain ⟨before, rest, rfl, rfl⟩ := colonOf_eq_some hcolon
      have hnumber : ∀ s : Str, (s.takeWhile fun c => [c] ∈ numberChars) =
          s.takeWhile isNumeral := by
        intro s
        congr 1
        funext c
        exact Bool.eq_iff_iff.mpr (by simpa using isNumeral_iff c)
      have hblank : (rest.takeWhile fun c => [c] ∈ [[' '], ['\t'], ['\n']]) =
          rest.takeWhile isNumberBlank := by
        congr 1
        funext c
        simp [isNumberBlank]
      have hskip := skipChars_behind [[' '], ['\t'], ['\n']] rest (before ++ [':'])
      rw [List.length_append, List.length_singleton, hblank] at hskip
      dsimp only [Option.map_some]
      rw [show before ++ ':' :: rest = (before ++ [':']) ++ rest by simp, hskip,
        show before.length + 1 = (before ++ [':']).length by simp, List.drop_left]
      generalize hx : before ++ [':'] ++ rest.takeWhile isNumberBlank = x
      have hjson : before ++ [':'] ++ rest = x ++ rest.dropWhile isNumberBlank := by
        rw [← hx, List.append_assoc (before ++ [':']), List.takeWhile_append_dropWhile]
      have hlength : (before ++ [':']).length + 1 + (rest.takeWhile isNumberBlank).length =
          x.length + 1 := by
        rw [← hx, @List.length_append _ (before ++ [':'])]
        omega
      rw [hjson, hlength, skipChars_behind, hnumber, substr_behind, Nat.add_sub_cancel_left,
        shownNumber,
        ← List.prefix_iff_eq_take.mp (List.takeWhile_prefix _)]

end

end AutocadMcp.Dispatcher
