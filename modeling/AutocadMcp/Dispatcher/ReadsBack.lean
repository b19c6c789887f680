import AutocadMcp.Dispatcher.JsonReader

/-!
# Which parameters the dispatcher reads back

A parameter is read back exactly when the colon that the reader finds is the one of
the parameter and the value is written without escapes or an exponent, or when
another value that stands behind the colon it finds happens to read the same. A
name that was not sent is absent exactly when it stands in quotes nowhere in the
text of the request.
-/

namespace AutocadMcp.Dispatcher

open AutoLisp JsonText CanonicalJson

/-! ## A string in its own place -/

theorem utf16_cons (c : Char) : ∃ u us, utf16 c = u :: us := by
  unfold utf16
  split <;> exact ⟨_, _, rfl⟩

/-- Only a raw character is written as one. -/
theorem encode_length (c : Char) : ∀ form : Form,
    (form = .raw ∧ (form.encode c).length = 1) ∨ (form ≠ .raw ∧ 1 < (form.encode c).length)
  | .raw => Or.inl ⟨rfl, rfl⟩
  | .short letter => Or.inr ⟨by simp, by simp [Form.encode]⟩
  | .hex upper => by
      obtain ⟨u, us, hus⟩ := utf16_cons c
      refine Or.inr ⟨by simp, ?_⟩
      show 1 < ((utf16 c).flatMap (unicodeEscape upper)).length
      rw [hus, List.flatMap_cons, List.length_append]
      simp only [unicodeEscape, List.length_cons, List.length_nil]
      omega

/-- A string is written as it is exactly when no character of it is escaped. -/
theorem encode_eq_self {s : Str} :
    s.flatMap (fun c => (dumpsForm c).encode c) = s ↔ ∀ c ∈ s, dumpsForm c = .raw := by
  have hgrow : ∀ s : Str, s.length ≤ (s.flatMap fun c => (dumpsForm c).encode c).length := by
    intro s
    induction s with
    | nil => simp
    | cons c s ih =>
        rw [List.flatMap_cons, List.length_append, List.length_cons]
        rcases encode_length c (dumpsForm c) with ⟨-, h⟩ | ⟨-, h⟩ <;> omega
  induction s with
  | nil => simp
  | cons c s ih =>
      rw [List.flatMap_cons, List.forall_mem_cons]
      constructor
      · intro h
        have hlength := congrArg List.length h
        rw [List.length_append, List.length_cons] at hlength
        have hs := hgrow s
        rcases encode_length c (dumpsForm c) with ⟨hraw, -⟩ | ⟨-, hlong⟩
        · rw [hraw] at h
          exact ⟨hraw, ih.mp (List.cons.inj h).2⟩
        · omega
      · rintro ⟨hraw, hs⟩
        rw [hraw, ih.mpr hs]
        rfl

theorem hexDigit_plain (upper : Bool) {d : Nat} (h : d < 16) :
    hexDigit upper d ≠ '\\' ∧ hexDigit upper d ≠ '"' := by
  revert upper
  interval_cases d <;> decide

theorem rawLength_unicodeEscape (upper : Bool) (rest : Str) : ∀ us : List Nat,
    rawLength false (us.flatMap (unicodeEscape upper) ++ rest) =
      (us.flatMap (unicodeEscape upper)).length + rawLength false rest
  | [] => by simp
  | u :: us => by
      have hplain : ∀ d (cs : Str), d < 16 →
          rawLength false (hexDigit upper d :: cs) = 1 + rawLength false cs := by
        intro d cs hd
        obtain ⟨hescape, hquote⟩ := hexDigit_plain upper hd
        exact rawLength_plain cs hescape fun h => absurd h hquote
      have hmod : ∀ n, n % 16 < 16 := fun n => Nat.mod_lt n (by decide)
      rw [List.flatMap_cons, List.append_assoc, List.length_append]
      simp only [unicodeEscape, List.cons_append, List.nil_append, List.length_cons,
        List.length_nil]
      rw [rawLength_escape, hplain _ _ (hmod _), hplain _ _ (hmod _), hplain _ _ (hmod _),
        hplain _ _ (hmod _), rawLength_unicodeEscape upper rest us]
      omega

/-- Inside a written string the loop goes on to the closing quote. -/
theorem rawLength_encoded (after : Str) : ∀ s : Str,
    rawLength false (s.flatMap (fun c => (dumpsForm c).encode c) ++ '"' :: after) =
      (s.flatMap fun c => (dumpsForm c).encode c).length
  | [] => rawLength_quote after
  | c :: s => by
      have ih := rawLength_encoded after s
      rw [List.flatMap_cons, List.append_assoc, List.length_append, ← ih]
      generalize s.flatMap (fun c => (dumpsForm c).encode c) ++ '"' :: after = rest
      have hallowed := dumpsForm_allowed c
      cases hform : dumpsForm c with
      | raw =>
          rw [hform] at hallowed
          obtain ⟨-, hquote, hescape⟩ := hallowed
          exact rawLength_plain rest hescape fun h => absurd h hquote
      | short letter => exact rawLength_escape false letter rest
      | hex upper => exact rawLength_unicodeEscape upper rest (utf16 c)

/-- The first character of a string that is not empty is written without a quote in front. -/
theorem encode_head (c : Char) : ∃ d ds, (dumpsForm c).encode c = d :: ds ∧ d ≠ '"' := by
  have hallowed := dumpsForm_allowed c
  cases hform : dumpsForm c with
  | raw =>
      rw [hform] at hallowed
      exact ⟨c, [], rfl, hallowed.2.1⟩
  | short letter => exact ⟨'\\', [letter], rfl, by decide⟩
  | hex upper =>
      obtain ⟨u, us, hus⟩ := utf16_cons c
      refine ⟨'\\', (unicodeEscape upper u).tail ++ us.flatMap (unicodeEscape upper), ?_, by decide⟩
      show (utf16 c).flatMap (unicodeEscape upper) = _
      rw [hus]
      rfl

theorem rawLength_first {c : Char} (cs : Str) (h : c ≠ '"') :
    rawLength true (c :: cs) = rawLength false (c :: cs) := by
  rw [rawLength.eq_def, rawLength.eq_def false]
  simp [h]

/-- What the reader makes of a string in its own place: the written characters, but of an empty
string the closing quote and what follows it. -/
theorem shownString_own (s after : Str) :
    shownString (' ' :: (jsonString s ++ after)) = some s ↔
      s ≠ [] ∧ ∀ c ∈ s, dumpsForm c = .raw := by
  have hshown : shownString (' ' :: (jsonString s ++ after)) =
      some ((s.flatMap (fun c => (dumpsForm c).encode c) ++ '"' :: after).take
        (rawLength true (s.flatMap (fun c => (dumpsForm c).encode c) ++ '"' :: after))) := by
    unfold shownString jsonString writeString
    rw [List.dropWhile_cons_of_pos (by decide), List.cons_append,
      List.dropWhile_cons_of_neg (by decide), List.append_assoc]
    rfl
  rw [hshown, Option.some.injEq]
  cases s with
  | nil =>
      have hskip : rawLength true ('"' :: after) = 1 + rawLength false after :=
        rawLength_plain after (by decide) fun _ => rfl
      rw [List.flatMap_nil, List.nil_append, hskip, Nat.add_comm 1, List.take_succ_cons]
      simp
  | cons c s =>
      obtain ⟨d, ds, hhead, hd⟩ := encode_head c
      have hfirst : rawLength true
          ((c :: s).flatMap (fun c => (dumpsForm c).encode c) ++ '"' :: after) =
          rawLength false ((c :: s).flatMap (fun c => (dumpsForm c).encode c) ++ '"' :: after) := by
        rw [List.flatMap_cons, hhead]
        exact rawLength_first _ hd
      rw [hfirst, rawLength_encoded, List.take_left, encode_eq_self]
      simp

/-! ## A number in its own place -/

theorem takeWhile_stop {α : Type} {p : α → Bool} {c : α} (hc : p c = false) (after : List α) :
    ∀ xs : List α, (xs ++ c :: after).takeWhile p = xs.takeWhile p
  | [] => by simp [hc]
  | x :: xs => by
      by_cases hx : p x = true
      · rw [List.cons_append, List.takeWhile_cons_of_pos hx, List.takeWhile_cons_of_pos hx,
          takeWhile_stop hc after xs]
      · rw [List.cons_append, List.takeWhile_cons_of_neg hx, List.takeWhile_cons_of_neg hx]

theorem shownNumber_own {raw : Str} (hraw : isNumber raw = true) {c : Char} (after : Str)
    (hc : c = ',' ∨ c = '}') :
    shownNumber (' ' :: (raw ++ c :: after)) = atof (raw.takeWhile isNumeral) := by
  unfold shownNumber
  have hstop : isNumeral c = false := by rcases hc with rfl | rfl <;> decide
  have hstart : (' ' :: (raw ++ c :: after)).dropWhile isNumberBlank = raw ++ c :: after := by
    rw [List.dropWhile_cons_of_pos (by decide)]
    cases raw with
    | nil => exact absurd rfl (isNumber_ne_nil hraw)
    | cons d raw =>
        rw [List.cons_append, List.dropWhile_cons_of_neg]
        have hd := isNumber_chars hraw d List.mem_cons_self
        intro hblank
        simp only [isNumberBlank, List.mem_cons, List.not_mem_nil, or_false,
          decide_eq_true_eq] at hblank
        rcases hblank with rfl | rfl | rfl <;> exact absurd hd (by decide)
  rw [hstart, takeWhile_stop hstop]

theorem unsignedValue_toDigits (n : Nat) : unsignedValue (Nat.toDigits 10 n) = n := by
  simp [unsignedValue, takeWhile_toDigits, dropWhile_toDigits]

theorem decimalValue_intText (n : Int) : decimalValue (intText n) = n := by
  unfold intText
  split
  · rename_i hneg
    rw [decimalValue, unsignedValue_toDigits]
    have habs : ((n.natAbs : Int) : ℚ) = -n := by
      rw [Int.ofNat_natAbs_of_nonpos (by omega), Int.cast_neg]
    rw [← Int.cast_natCast, habs, neg_neg]
  · rename_i hneg
    have hplain : decimalValue (Nat.toDigits 10 n.natAbs) =
        unsignedValue (Nat.toDigits 10 n.natAbs) := by
      have hdigits := toDigits_isDigit (n := n.natAbs)
      unfold decimalValue
      split
      · rename_i heq
        exact absurd (hdigits '-' (by rw [heq]; exact List.mem_cons_self)) (by decide)
      · rename_i heq
        exact absurd (hdigits '+' (by rw [heq]; exact List.mem_cons_self)) (by decide)
      · rfl
    rw [hplain, unsignedValue_toDigits, ← Int.cast_natCast, Int.natAbs_of_nonneg (by omega)]

theorem takeWhile_intText (n : Int) : (intText n).takeWhile isNumeral = intText n := by
  rw [List.takeWhile_eq_self_iff]
  have hdigit : ∀ c ∈ Nat.toDigits 10 n.natAbs, isNumeral c = true := fun c hc => by
    rw [isNumeral, toDigits_isDigit c hc, Bool.true_or]
  unfold intText
  split
  · rw [List.forall_mem_cons]
    exact ⟨by decide, hdigit⟩
  · exact hdigit

theorem isExponent_nil {s : Str} (h : isExponent s = true) (hno : 'e' ∉ s ∧ 'E' ∉ s) : s = [] := by
  cases s with
  | nil => rfl
  | cons c s =>
      simp only [isExponent, Bool.and_eq_true, Bool.or_eq_true, decide_eq_true_eq] at h
      rcases h.1 with rfl | rfl
      · exact absurd List.mem_cons_self hno.1
      · exact absurd List.mem_cons_self hno.2

/-- Without an exponent the value of an unsigned number is that of its digits and fraction. -/
theorem magnitude_eq_unsignedValue {body : Str} (h : isTail (body.dropWhile Char.isDigit) = true)
    (hno : 'e' ∉ body ∧ 'E' ∉ body) : magnitude body = unsignedValue body := by
  have hsub : ∀ c, c ∉ body → c ∉ body.dropWhile Char.isDigit := fun c hc hmem =>
    hc ((List.dropWhile_sublist _).subset hmem)
  have hrest := And.intro (hsub 'e' hno.1) (hsub 'E' hno.2)
  unfold magnitude unsignedValue
  generalize body.dropWhile Char.isDigit = rest at h hrest
  dsimp only
  cases rest with
  | nil => rfl
  | cons c rest =>
      by_cases hc : c = '.'
      · subst hc
        have htail : isExponent (rest.dropWhile Char.isDigit) = true := by
          simp only [isTail, Bool.and_eq_true] at h
          exact h.2
        have hempty : rest.dropWhile Char.isDigit = [] := by
          refine isExponent_nil htail ⟨fun hmem => ?_, fun hmem => ?_⟩
          · exact hrest.1 (List.mem_cons_of_mem _ ((List.dropWhile_sublist _).subset hmem))
          · exact hrest.2 (List.mem_cons_of_mem _ ((List.dropWhile_sublist _).subset hmem))
        simp [hempty, exponentValue]
      · have htail : isExponent (c :: rest) = true := by
          unfold isTail at h
          split at h
          · rename_i heq
            exact absurd (List.cons.inj heq).1 hc
          · exact h
        exact absurd (isExponent_nil htail hrest) (by simp)

/-- `atof` gives a number without an exponent its value. -/
theorem decimalValue_eq_numberValue {raw : Str} (h : isNumber raw = true)
    (hno : 'e' ∉ raw ∧ 'E' ∉ raw) : decimalValue raw = numberValue raw := by
  cases raw with
  | nil => exact absurd rfl (isNumber_ne_nil h)
  | cons c raw =>
      by_cases hc : c = '-'
      · subst hc
        simp only [isNumber, List.head?_cons, if_true, List.tail_cons, Bool.and_eq_true] at h
        rw [decimalValue, numberValue, List.head?_cons, if_pos rfl, List.tail_cons,
          magnitude_eq_unsignedValue h.2 ⟨fun hm => hno.1 (List.mem_cons_of_mem _ hm),
            fun hm => hno.2 (List.mem_cons_of_mem _ hm)⟩]
      · have hhead : ¬ (c :: raw).head? = some '-' := fun heq => hc (Option.some.inj heq)
        simp only [isNumber, Bool.and_eq_true] at h
        rw [if_neg hhead] at h
        have hplus : c ≠ '+' := by
          rintro rfl
          have hwhole := h.1.2
          rw [List.takeWhile_cons_of_neg (by decide)] at hwhole
          cases hwhole
        rw [numberValue, if_neg hhead, magnitude_eq_unsignedValue h.2 hno]
        unfold decimalValue
        split
        · rename_i heq
          exact absurd (List.cons.inj heq).1 hc
        · rename_i heq
          exact absurd (List.cons.inj heq).1 hplus
        · rfl

/-! ## The value of a parameter -/

namespace Sent

/-- What the reader takes from the text is the value that was sent. -/
def Read (json key : Str) : Sent → Prop
  | .str s => mcpJsonGetString json key = some s
  | .int n => mcpJsonGetNumber json key = some (.finite n)
  | .float r => mcpJsonGetNumber json key = some (.nearest (numberValue r.text))

/-- The text behind a colon reads as the value. -/
def ShownBy (rest : Str) : Sent → Prop
  | .str s => shownString rest = some s
  | .int n => shownNumber rest = .finite n
  | .float r => shownNumber rest = .nearest (numberValue r.text)

/-- A string that is not empty and has nothing to escape, an integer that a double holds, a float
that keeps its value without the exponent. -/
def Plain : Sent → Prop
  | .str s => s ≠ [] ∧ ∀ c ∈ s, dumpsForm c = .raw
  | .int n => Double.nearest n = .finite n
  | .float r => atof (r.text.takeWhile isNumeral) = .nearest (numberValue r.text)

theorem shownBy_own (v : Sent) {c : Char} (after : Str) (hc : c = ',' ∨ c = '}') :
    v.ShownBy (' ' :: (jsonValue v ++ c :: after)) ↔ v.Plain := by
  cases v with
  | str s => exact shownString_own s (c :: after)
  | int n =>
      unfold ShownBy Plain jsonValue
      rw [shownNumber_own (isNumber_intText n) after hc, takeWhile_intText, atof,
        decimalValue_intText]
  | float r =>
      unfold ShownBy Plain jsonValue
      rw [shownNumber_own r.isNumber after hc]

/-- A float that is written without an exponent is plain. -/
theorem plain_of_no_exponent {r : FloatRepr} (h : 'e' ∉ r.text ∧ 'E' ∉ r.text) :
    (Sent.float r).Plain := by
  have hall : r.text.takeWhile isNumeral = r.text := by
    rw [List.takeWhile_eq_self_iff]
    intro c hc
    have hnumber := isNumber_chars r.isNumber c hc
    have hne : c ≠ 'e' ∧ c ≠ 'E' := by
      constructor
      · rintro rfl
        exact h.1 hc
      · rintro rfl
        exact h.2 hc
    simp only [isNumberChar, Bool.or_eq_true, List.mem_cons, List.not_mem_nil, or_false,
      decide_eq_true_eq] at hnumber
    simp only [isNumeral, Bool.or_eq_true, List.mem_cons, List.not_mem_nil, or_false,
      decide_eq_true_eq]
    tauto
  show atof (r.text.takeWhile isNumeral) = .nearest (numberValue r.text)
  rw [hall, atof, decimalValue_eq_numberValue r.isNumber h]

theorem read_iff (json key : Str) (v : Sent) :
    v.Read json key ↔ ∃ c, colonOf json key = some c ∧ v.ShownBy (json.drop (c + 1)) := by
  cases v with
  | str s => rw [Read, mcpJsonGetString_eq, Option.bind_eq_some_iff]; rfl
  | int n => rw [Read, mcpJsonGetNumber_eq, Option.map_eq_some_iff]; rfl
  | float r => rw [Read, mcpJsonGetNumber_eq, Option.map_eq_some_iff]; rfl

end Sent

/-! ## The text of a request -/

theorem joined_split (m : Str) : ∀ xs ys : List Str, ∃ tail,
    joined (xs ++ m :: ys) = (xs.flatMap fun x => x ++ [',', ' ']) ++ (m ++ tail) ∧
      (tail = [] ∨ ∃ after, tail = ',' :: after)
  | [], [] => ⟨[], by simp [joined], Or.inl rfl⟩
  | [], y :: ys => ⟨',' :: ' ' :: joined (y :: ys), by simp [joined], Or.inr ⟨_, rfl⟩⟩
  | x :: xs, ys => by
      obtain ⟨tail, htail, hcomma⟩ := joined_split m xs ys
      refine ⟨tail, ?_, hcomma⟩
      have hcons : joined (x :: xs ++ m :: ys) = x ++ ',' :: ' ' :: joined (xs ++ m :: ys) := by
        cases xs <;> rfl
      rw [hcons, htail, List.flatMap_cons]
      simp

namespace Payload

/-- The text in front of a parameter's own member. -/
def front (p : Payload) (key : Str) : Str :=
  '{' :: (([jsonMember "request_id".toList (jsonString p.requestId),
      jsonMember "session_id".toList (jsonString p.sessionId),
      jsonMember "command".toList (jsonString p.command)].flatMap fun m => m ++ [',', ' ']) ++
    (jsonString "params".toList ++ ':' :: ' ' :: '{' ::
      ((p.cleanParams.takeWhile fun m => m.1 ≠ key).flatMap fun m =>
        jsonMember m.1 (jsonValue m.2) ++ [',', ' '])))

/-- The text in front of the colon of a parameter's own member. -/
def leading (p : Payload) (key : Str) : Str := p.front key ++ jsonString key

/-- The position of the colon of a parameter's own member. -/
def ownColon (p : Payload) (key : Str) : Nat := (p.leading key).length

theorem text_own {p : Payload} {key : Str} {v : Sent} (h : p.sent? key = some v) :
    ∃ c after, p.text = p.leading key ++ ':' :: ' ' :: (jsonValue v ++ c :: after) ∧
      (c = ',' ∨ c = '}') := by
  obtain ⟨⟨key', v'⟩, hfind, rfl⟩ := Option.map_eq_some_iff.mp h
  obtain ⟨hkey, pre, post, hsplit, hpre⟩ := List.find?_eq_some_iff_append.mp hfind
  obtain rfl : key' = key := by simpa using hkey
  have htake : p.cleanParams.takeWhile (fun m => m.1 ≠ key') = pre := by
    rw [hsplit, takeWhile_stop (by simp), List.takeWhile_eq_self_iff]
    intro m hm
    simpa using hpre m hm
  obtain ⟨tail, htail, hcomma⟩ := joined_split (jsonMember key' (jsonValue v'))
    (pre.map fun m => jsonMember m.1 (jsonValue m.2))
    (post.map fun m => jsonMember m.1 (jsonValue m.2))
  have hparams : joined (p.cleanParams.map fun m => jsonMember m.1 (jsonValue m.2)) =
      (pre.flatMap fun m => jsonMember m.1 (jsonValue m.2) ++ [',', ' ']) ++
        (jsonMember key' (jsonValue v') ++ tail) := by
    rw [hsplit, List.map_append, List.map_cons, htail, List.flatMap_map]
  unfold leading front
  rw [htake]
  unfold text jsonObject
  rw [hparams]
  rcases hcomma with rfl | ⟨after, rfl⟩
  · exact ⟨'}', _, by simp [joined, jsonMember]; rfl, Or.inr rfl⟩
  · exact ⟨',', _, by simp [joined, jsonMember]; rfl, Or.inl rfl⟩

/-- The text ends with the time stamp, behind the last quote of the text. -/
theorem text_ts (p : Payload) :
    ∃ before after, p.text = before ++ '"' :: ':' :: after ∧ '"' ∉ ':' :: after := by
  refine ⟨'{' :: (([jsonMember "request_id".toList (jsonString p.requestId),
      jsonMember "session_id".toList (jsonString p.sessionId),
      jsonMember "command".toList (jsonString p.command),
      jsonMember "params".toList
        (jsonObject (p.cleanParams.map fun m => jsonMember m.1 (jsonValue m.2))),
      jsonMember "document_identity".toList (jsonString p.documentIdentity)].flatMap
        fun m => m ++ [',', ' ']) ++ ['"', 't', 's']), ' ' :: (p.ts.text ++ ['}']), ?_, ?_⟩
  · have hts : jsonString "ts".toList = ['"', 't', 's', '"'] := by decide
    unfold text jsonObject
    simp only [joined, jsonMember, hts]
    simp
  · intro hmem
    simp only [List.mem_cons, List.mem_append, List.not_mem_nil, or_false] at hmem
    rcases hmem with h | h | h | h
    · exact absurd h (by decide)
    · exact absurd h (by decide)
    · exact absurd (isNumber_chars p.ts.isNumber _ h) (by decide)
    · exact absurd h (by decide)

/-- A name in quotes is followed by a colon wherever it stands in the text. -/
theorem colonOf_eq_none {p : Payload} {key : Str} :
    colonOf p.text key = none ↔ ¬ quoted key <:+: p.text := by
  constructor
  · intro h hin
    unfold colonOf vlStringSearch at h
    rw [Option.bind_eq_none_iff] at h
    cases hpos : findFrom (quoted key) (p.text.drop 0) 0 with
    | none => exact findFrom_eq_none.mp hpos hin
    | some pos =>
        obtain ⟨first, found, hfirst, hlength, rest, rfl⟩ := findFrom_eq_some hpos
        rw [List.drop_zero] at hfirst
        have hno := findFrom_eq_none.mp (h pos hpos)
        rw [hfirst, hlength, Nat.zero_add, List.drop_left] at hno
        -- the name ends at a quote, which is not behind the last one of the text
        obtain ⟨before, after, htext, hquote⟩ := text_ts p
        have hsplit : (first ++ '"' :: key) ++ ('"' :: rest) = before ++ '"' :: ':' :: after := by
          rw [← htext, hfirst]
          simp [quoted]
        have hcolon : ':' ∈ '"' :: rest := by
          rcases List.append_eq_append_iff.mp hsplit with ⟨mid, hbefore, hrest⟩ |
            ⟨mid, hbefore, hrest⟩
          · rw [hrest]
            simp
          · cases mid with
            | nil =>
                rw [List.nil_append] at hrest
                rw [← hrest]
                simp
            | cons d mid =>
                rw [List.cons_append] at hrest
                refine absurd ?_ hquote
                rw [(List.cons.inj hrest).2]
                simp
        refine hno ((List.singleton_infix_iff _ _).mpr ?_)
        have htail : quoted key ++ rest = '"' :: (key ++ '"' :: rest) := by simp [quoted]
        rw [htail]
        exact List.mem_cons_of_mem _ (List.mem_append_right _ hcolon)
  · intro h
    unfold colonOf vlStringSearch
    rw [List.drop_zero, findFrom_eq_none.mpr h]
    rfl

end Payload

/-! ## Reading back -/

/-- The reader takes the value that was sent for the name, and nothing for a name that was not
sent. -/
def ReadsBack (p : Payload) (key : Str) : Prop :=
  match p.sent? key with
  | some v => v.Read p.text key
  | none => mcpJsonGetString p.text key = none ∧ mcpJsonGetNumber p.text key = none

/-- For a sent parameter the search leads to its own colon and the value is plain, or it leads
to another colon behind which the same value happens to stand. For any other name the name in
quotes stands nowhere in the text. -/
def Legible (p : Payload) (key : Str) : Prop :=
  match p.sent? key with
  | some v =>
      (colonOf p.text key = some (p.ownColon key) ∧ v.Plain) ∨
        ∃ c, colonOf p.text key = some c ∧ c ≠ p.ownColon key ∧ v.ShownBy (p.text.drop (c + 1))
  | none => ¬ quoted key <:+: p.text

/-- **The dispatcher reads exactly the legible parameters back.** -/
theorem readsBack_iff_legible (p : Payload) (key : Str) : ReadsBack p key ↔ Legible p key := by
  unfold ReadsBack Legible
  cases hsent : p.sent? key with
  | none =>
      rw [mcpJsonGetString_eq, mcpJsonGetNumber_eq, ← Payload.colonOf_eq_none, Option.map_eq_none_iff]
      constructor
      · exact fun h => h.2
      · intro h
        rw [h]
        exact ⟨rfl, rfl⟩
  | some v =>
      obtain ⟨c, after, htext, hc⟩ := Payload.text_own hsent
      have hown : v.ShownBy (p.text.drop (p.ownColon key + 1)) ↔ v.Plain := by
        rw [htext, Payload.ownColon, ← List.drop_drop, List.drop_left, List.drop_succ_cons,
          List.drop_zero]
        exact v.shownBy_own after hc
      dsimp only
      rw [v.read_iff]
      constructor
      · rintro ⟨pos, hpos, hshown⟩
        by_cases hplace : pos = p.ownColon key
        · subst hplace
          exact Or.inl ⟨hpos, hown.mp hshown⟩
        · exact Or.inr ⟨pos, hpos, hplace, hshown⟩
      · rintro (⟨hpos, hplain⟩ | ⟨pos, hpos, -, hshown⟩)
        · exact ⟨_, hpos, hown.mpr hplain⟩
        · exact ⟨pos, hpos, hshown⟩

/-- A name without escapes and colons that stands in quotes nowhere in front of its own place
leads to its own colon. -/
theorem colonOf_own {p : Payload} {key : Str} {v : Sent} (hsent : p.sent? key = some v)
    (hraw : ∀ c ∈ key, dumpsForm c = .raw) (hcolon : ':' ∉ key)
    (hfirst : ¬ quoted key <:+: (p.leading key).dropLast) :
    colonOf p.text key = some (p.ownColon key) := by
  obtain ⟨c, after, htext, -⟩ := Payload.text_own hsent
  have hname : jsonString key = quoted key := by
    unfold jsonString writeString quoted
    rw [encode_eq_self.mpr hraw]
  have hbefore : p.leading key = p.front key ++ quoted key := by rw [Payload.leading, hname]
  have hnot : ':' ∉ quoted key := by simp [quoted, hcolon]
  rw [hbefore] at hfirst
  unfold colonOf vlStringSearch
  rw [htext, Payload.ownColon, hbefore, List.append_assoc, List.drop_zero,
    findFrom_first _ (p.front key) 0 hfirst, Option.bind_some, Nat.zero_add, List.drop_left,
    findFrom_char _ _ _ hnot, List.length_append]

/-- Such a parameter is read back exactly when its value is plain. -/
theorem read_iff_plain {p : Payload} {key : Str} {v : Sent} (hsent : p.sent? key = some v)
    (hraw : ∀ c ∈ key, dumpsForm c = .raw) (hcolon : ':' ∉ key)
    (hfirst : ¬ quoted key <:+: (p.leading key).dropLast) : v.Read p.text key ↔ v.Plain := by
  obtain ⟨c, after, htext, hc⟩ := Payload.text_own hsent
  rw [v.read_iff, colonOf_own hsent hraw hcolon hfirst]
  simp only [Option.some.injEq, exists_eq_left']
  rw [htext, Payload.ownColon, ← List.drop_drop, List.drop_left, List.drop_succ_cons,
    List.drop_zero]
  exact v.shownBy_own after hc

/-! ## An empty text -/

/-- A request with an empty string. -/
def emptyText : Payload where
  requestId := "0123456789ab".toList
  sessionId := "session-1".toList
  command := "create-text".toList
  params := [("text".toList, some (.str [])), ("height".toList, some (.int 5))]
  documentIdentity := "1:2:a.dwg".toList
  ts := ⟨"1.5".toList, by decide +kernel, by decide +kernel⟩
  unique := by decide
  writable := by
    rintro m hm n hn
    simp only [List.mem_cons, List.not_mem_nil, or_false] at hm
    rcases hm with rfl | rfl
    · cases hn
    · cases hn
      decide

/-- The reader takes the closing quote and the text up to the next quote for the value. -/
theorem empty_text_not_read_back : ¬ ∀ key, ReadsBack emptyText key := by
  intro h
  have htext : mcpJsonGetString emptyText.text "text".toList = some [] := h "text".toList
  rw [mcpJsonGetString_eq] at htext
  revert htext
  decide +kernel

end AutocadMcp.Dispatcher
