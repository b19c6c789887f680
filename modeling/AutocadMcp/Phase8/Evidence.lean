import AutocadMcp.Lib.Calendar
import AutocadMcp.Lib.TextOrder
import AutocadMcp.Phase8.Binding

/-!
# The expiry of capability evidence

`matching_capability_evidence` takes the newest row whose `valid_until` comes after the present
moment, and compares the two as texts. The contract lets `valid_until` have any offset and any
number of digits behind the point, while `utc_now` writes six of them or none.
-/

namespace AutocadMcp.Phase8

/-! ## Timestamps -/

/-- What `datetime.fromisoformat` reads, with the zone as it is written and the offset in
minutes. -/
structure Timestamp where
  date : Date
  hour : ℕ
  minute : ℕ
  second : ℕ
  fraction : List Char
  zone : List Char
  offset : ℤ
  hour_lt : hour < 24
  minute_lt : minute < 60
  second_lt : second < 60
  fraction_digits : ∀ c ∈ fraction.take 6, c.isDigit = true

def fractionOf : List Char → List Char
  | '.' :: rest => rest.takeWhile isDecimalNumber
  | _ => []

def zoneOf : List Char → List Char
  | '.' :: rest => rest.dropWhile isDecimalNumber
  | rest => rest

/-- The minutes of `+hh:mm`, less than a day. -/
def readOffset (sign : ℤ) (s : List Char) : Option ℤ := do
  let (hours, s) ← readNumber 2 s
  let s ← readMark ':' s
  let (minutes, s) ← readNumber 2 s
  if s = [] ∧ hours * 60 + minutes < 24 * 60 then some (sign * (hours * 60 + minutes)) else none

def readZone : List Char → Option ℤ
  | ['Z'] => some 0
  | '+' :: s => readOffset 1 s
  | '-' :: s => readOffset (-1) s
  | _ => none

/-- `datetime(…)`, with the checks of its constructor. -/
def datetime (year month day hour minute second : ℕ) (s : List Char) (offset : ℤ) :
    Option Timestamp :=
  if h : (0 < year ∧ 0 < month ∧ month ≤ 12 ∧ 0 < day ∧ day ≤ daysInMonth year month) ∧
      hour < 24 ∧ minute < 60 ∧ second < 60 ∧
      ((fractionOf s).take 6).all Char.isDigit = true then
    some {
      date := ⟨year, month, day, h.1.1, h.1.2.1, h.1.2.2.1, h.1.2.2.2.1, h.1.2.2.2.2⟩
      hour := hour
      minute := minute
      second := second
      fraction := fractionOf s
      zone := zoneOf s
      offset := offset
      hour_lt := h.2.1
      minute_lt := h.2.2.1
      second_lt := h.2.2.2.1
      fraction_digits := List.all_eq_true.mp h.2.2.2.2 }
  else none

/-- `datetime.fromisoformat(text.replace("Z", "+00:00"))`. -/
def fromisoformat (text : String) : Option Timestamp := do
  let (year, s) ← readNumber 4 text.toList
  let s ← readMark '-' s
  let (month, s) ← readNumber 2 s
  let s ← readMark '-' s
  let (day, s) ← readNumber 2 s
  let s ← readMark 'T' s
  let (hour, s) ← readNumber 2 s
  let s ← readMark ':' s
  let (minute, s) ← readNumber 2 s
  let s ← readMark ':' s
  let (second, s) ← readNumber 2 s
  let offset ← readZone (zoneOf s)
  datetime year month day hour minute second s offset

/-- The pattern of `valid_until`, then `_parse_timestamp`. -/
def parseTimestamp (text : String) : Option Timestamp :=
  if isTimestampText text = true then fromisoformat text else none

namespace Timestamp

/-- The seconds of the local time. -/
def localSeconds (t : Timestamp) : ℕ :=
  ((t.date.toOrdinal * 24 + t.hour) * 60 + t.minute) * 60 + t.second

/-- The digits behind the point, cut or filled up to six. -/
def sixDigits (fraction : List Char) : List Char :=
  fraction.take 6 ++ List.replicate (6 - fraction.length) '0'

def microsecond (t : Timestamp) : ℕ := decimal (sixDigits t.fraction)

def localTime (t : Timestamp) : ℕ := t.localSeconds * 10 ^ 6 + t.microsecond

/-- The microseconds of universal time. -/
def instant (t : Timestamp) : ℤ := t.localTime - t.offset * (60 * 10 ^ 6)

end Timestamp

/-- A text that the contract accepts. -/
structure TimestampText where
  text : String
  reading : Timestamp
  accepted : parseTimestamp text = some reading

/-- `utc_now()`, as `isoformat` writes it. -/
structure UtcNow extends TimestampText where
  utc : reading.zone = "+00:00".toList
  digits : reading.fraction = [] ∨ (reading.fraction.length = 6 ∧ reading.microsecond ≠ 0)

/-! ## The query -/

/-- A row of `phase8_capability_evidence`. -/
structure EvidenceRow where
  evidenceId : String
  evidenceAuthority : String
  ownerSubject : String
  deviceId : String
  capabilityKey : String
  operationPack : String
  runtimeId : String
  hostFamily : String
  entityType : String
  supportState : String
  packageHash : String
  capabilityManifestHash : String
  operationRegistryHash : String
  packageSignatureVerified : Bool
  agentEvidenceDigest : String
  hostEvidenceDigest : String
  cohort : String
  evidenceVersion : String
  issuedAt : String
  validUntil : TimestampText
  evidenceDigest : String
  createdAt : String

/-- The arguments of `matching_capability_evidence` beside `now`. -/
structure EvidenceQuery where
  ownerSubject : String
  deviceId : String
  capabilityKey : String
  operationPack : String
  runtimeId : String
  hostFamily : String
  cohort : String
  packageHash : String
  capabilityManifestHash : String
  operationRegistryHash : String
  minimumSupportStates : List String

/-- The conditions of the query but the last one. -/
def EvidenceQuery.matchesRow (q : EvidenceQuery) (row : EvidenceRow) : Bool :=
  row.ownerSubject = q.ownerSubject && row.deviceId = q.deviceId &&
    row.capabilityKey = q.capabilityKey && row.operationPack = q.operationPack &&
    row.runtimeId = q.runtimeId && row.hostFamily = q.hostFamily && row.cohort = q.cohort &&
    row.packageHash = q.packageHash && row.capabilityManifestHash = q.capabilityManifestHash &&
    row.operationRegistryHash = q.operationRegistryHash &&
    row.evidenceAuthority = "gateway_server" && row.packageSignatureVerified &&
    q.minimumSupportStates.contains row.supportState

/-- `… AND valid_until > ?`. -/
def selected (rows : List EvidenceRow) (q : EvidenceQuery) (now : UtcNow) : List EvidenceRow :=
  rows.filter fun row => q.matchesRow row && decide (now.text < row.validUntil.text)

/-- `ORDER BY created_at DESC LIMIT 1`, which may take any row of those created last. -/
def IsNewest (rows : List EvidenceRow) (row : EvidenceRow) : Prop :=
  IsLast EvidenceRow.createdAt rows row

/-- What `matching_capability_evidence` may return. -/
def matchingCapabilityEvidence (rows : List EvidenceRow) (q : EvidenceQuery) (now : UtcNow) :
    Option EvidenceRow → Prop
  | none => selected rows q now = []
  | some row => IsNewest (selected rows q now) row

def Unexpired (v : TimestampText) (now : UtcNow) : Prop :=
  now.reading.instant < v.reading.instant

instance (v : TimestampText) (now : UtcNow) : Decidable (Unexpired v now) :=
  inferInstanceAs (Decidable (_ < _))

/-- A row is returned only while its evidence is valid, and one is returned whenever there is valid
evidence that matches. -/
def AdmitsUnexpired (rows : List EvidenceRow) (q : EvidenceQuery) (now : UtcNow) : Prop :=
  ∀ result, matchingCapabilityEvidence rows q now result →
    (∀ row, result = some row → Unexpired row.validUntil now) ∧
    ((∃ row ∈ rows, q.matchesRow row = true ∧ Unexpired row.validUntil now) → result ≠ none)

/-! ## Where the texts come in another order -/

/-- The fraction as it stands in the text. -/
def pointText (fraction : List Char) : List Char :=
  if fraction = [] then [] else '.' :: fraction

/-- The text of a timestamp without its zone. -/
def stem (v : TimestampText) : List Char := v.text.toList.take 19 ++ pointText v.reading.fraction

/-- The text of the expiry comes after that of `now` although its local time does not: it ends in
`Z` where `now` goes on, or it is the same local time in other words. -/
def Overhangs (v : TimestampText) (now : UtcNow) : Prop :=
  (stem v <+: stem now.toTimestampText ∧ v.reading.zone = ['Z']) ∨
    (stem now.toTimestampText <+: stem v ∧ v.reading.localTime = now.reading.localTime ∧
      v.text ≠ now.text)

/-- The local time of the expiry is on the same side of `now` as the expiry. -/
def LocalAgrees (v : TimestampText) (now : UtcNow) : Prop :=
  now.reading.localTime < v.reading.localTime ↔ Unexpired v now

def ComparesAsText (v : TimestampText) (now : UtcNow) : Prop :=
  LocalAgrees v now ↔ ¬ Overhangs v now

/-! ## What is read from a text -/

theorem readZone_cases {zone : List Char} {offset : ℤ} (h : readZone zone = some offset) :
    zone = ['Z'] ∨ ∃ sign hours minutes, (sign = '+' ∨ sign = '-') ∧ IsNumber 2 hours ∧
      IsNumber 2 minutes ∧ zone = sign :: (hours ++ ([':'] ++ minutes)) := by
  have hoffset : ∀ (factor : ℤ) (s : List Char), readOffset factor s = some offset →
      ∃ hours minutes, IsNumber 2 hours ∧ IsNumber 2 minutes ∧
        s = hours ++ ([':'] ++ minutes) := by
    intro factor s hs
    obtain ⟨⟨hour, s₁⟩, hhour, hs₁⟩ := Option.bind_eq_some_iff.mp hs
    obtain ⟨s₂, hmark, hs₂⟩ := Option.bind_eq_some_iff.mp hs₁
    obtain ⟨⟨minute, s₃⟩, hminute, hs₃⟩ := Option.bind_eq_some_iff.mp hs₂
    obtain ⟨hours, hhours, -, htext⟩ := readNumber_eq_some hhour
    obtain ⟨minutes, hminutes, -, hrest⟩ := readNumber_eq_some hminute
    refine ⟨hours, minutes, hhours, hminutes, ?_⟩
    by_cases hend : s₃ = [] ∧ hour * 60 + minute < 24 * 60
    · rw [htext, readMark_eq_some hmark, hrest, hend.1, List.append_nil]
    · have hnone : none = some offset := (if_neg hend).symm.trans hs₃
      cases hnone
  unfold readZone at h
  split at h
  · exact Or.inl rfl
  · obtain ⟨hours, minutes, hhours, hminutes, rfl⟩ := hoffset 1 _ h
    exact Or.inr ⟨'+', hours, minutes, Or.inl rfl, hhours, hminutes, rfl⟩
  · obtain ⟨hours, minutes, hhours, hminutes, rfl⟩ := hoffset (-1) _ h
    exact Or.inr ⟨'-', hours, minutes, Or.inr rfl, hhours, hminutes, rfl⟩
  · cases h

/-- The numbers in front of the point. -/
structure Heading where
  year : List Char
  month : List Char
  day : List Char
  hour : List Char
  minute : List Char
  second : List Char
  year_number : IsNumber 4 year
  month_number : IsNumber 2 month
  day_number : IsNumber 2 day
  hour_number : IsNumber 2 hour
  minute_number : IsNumber 2 minute
  second_number : IsNumber 2 second

namespace Heading

def text (g : Heading) : List Char :=
  g.year ++ (['-'] ++ (g.month ++ (['-'] ++ (g.day ++ (['T'] ++ (g.hour ++ ([':'] ++
    (g.minute ++ ([':'] ++ (g.second ++ []))))))))))

/-- The heading says what has been read. -/
def Says (g : Heading) (t : Timestamp) : Prop :=
  decimal g.year = t.date.year ∧ decimal g.month = t.date.month ∧ decimal g.day = t.date.day ∧
    decimal g.hour = t.hour ∧ decimal g.minute = t.minute ∧ decimal g.second = t.second

theorem length_text (g : Heading) : g.text.length = 19 := by
  simp only [text, List.length_append, g.year_number.1, g.month_number.1, g.day_number.1,
    g.hour_number.1, g.minute_number.1, g.second_number.1, List.length_singleton, List.length_nil]

/-- Headings come in the order of the seconds. -/
theorem text_lt_iff {g h : Heading} {t u : Timestamp} (hg : g.Says t) (hh : h.Says u) :
    g.text < h.text ↔ t.localSeconds < u.localSeconds := by
  obtain ⟨hyear, hmonth, hday, hhour, hminute, hsecond⟩ := hg
  obtain ⟨hyear', hmonth', hday', hhour', hminute', hsecond'⟩ := hh
  have hdate := Date.toOrdinal_lt_iff (d := t.date) (e := u.date)
  have hdate' := Date.toOrdinal_lt_iff (d := u.date) (e := t.date)
  rw [Date.before] at hdate hdate'
  have ht := t.hour_lt
  have hm := t.minute_lt
  have hs := t.second_lt
  have hu := u.hour_lt
  have hm' := u.minute_lt
  have hs' := u.second_lt
  have hnil : ∀ xs ys : List Char, IsNumber 2 xs → IsNumber 2 ys →
      (xs ++ [] < ys ++ [] ↔ decimal xs < decimal ys) := by
    intro xs ys hxs hys
    rw [List.append_nil, List.append_nil]
    exact (lt_iff_decimal_lt hxs hys).1
  rw [text, text, number_lt_iff g.year_number h.year_number,
    number_lt_iff g.month_number h.month_number, number_lt_iff g.day_number h.day_number,
    number_lt_iff g.hour_number h.hour_number, number_lt_iff g.minute_number h.minute_number,
    hnil _ _ g.second_number h.second_number, hyear, hmonth, hday, hhour, hminute, hsecond, hyear',
    hmonth', hday', hhour', hminute', hsecond', Timestamp.localSeconds, Timestamp.localSeconds]
  -- an equal date is an equal day's number
  have hsame : t.date.year = u.date.year → t.date.month = u.date.month →
      t.date.day = u.date.day → t.date.toOrdinal = u.date.toOrdinal := by
    intro h₁ h₂ h₃
    rw [Date.toOrdinal, Date.toOrdinal, h₁, h₂, h₃]
  omega

theorem text_eq_iff {g h : Heading} {t u : Timestamp} (hg : g.Says t) (hh : h.Says u) :
    g.text = h.text ↔ t.localSeconds = u.localSeconds := by
  have hlt := text_lt_iff hg hh
  have hgt := text_lt_iff hh hg
  constructor
  · intro heq
    rw [heq] at hlt hgt
    exact le_antisymm (not_lt.mp fun h => lt_irrefl _ (hgt.mpr h))
      (not_lt.mp fun h => lt_irrefl _ (hlt.mpr h))
  · intro heq
    exact le_antisymm (not_lt.mp fun h => (hgt.mp h).ne' heq) (not_lt.mp fun h => (hlt.mp h).ne heq)

end Heading

/-- What `fromisoformat` has read is what the text says. -/
theorem fromisoformat_sound {text : String} {t : Timestamp} (h : fromisoformat text = some t) :
    ∃ (g : Heading) (rest : List Char), g.Says t ∧ text.toList = g.text ++ rest ∧
      t.fraction = fractionOf rest ∧ t.zone = zoneOf rest ∧ readZone t.zone = some t.offset := by
  obtain ⟨⟨year, s₁⟩, hyear, h₁⟩ := Option.bind_eq_some_iff.mp h
  obtain ⟨s₂, hmark₁, h₂⟩ := Option.bind_eq_some_iff.mp h₁
  obtain ⟨⟨month, s₃⟩, hmonth, h₃⟩ := Option.bind_eq_some_iff.mp h₂
  obtain ⟨s₄, hmark₂, h₄⟩ := Option.bind_eq_some_iff.mp h₃
  obtain ⟨⟨day, s₅⟩, hday, h₅⟩ := Option.bind_eq_some_iff.mp h₄
  obtain ⟨s₆, hmark₃, h₆⟩ := Option.bind_eq_some_iff.mp h₅
  obtain ⟨⟨hour, s₇⟩, hhour, h₇⟩ := Option.bind_eq_some_iff.mp h₆
  obtain ⟨s₈, hmark₄, h₈⟩ := Option.bind_eq_some_iff.mp h₇
  obtain ⟨⟨minute, s₉⟩, hminute, h₉⟩ := Option.bind_eq_some_iff.mp h₈
  obtain ⟨s₁₀, hmark₅, h₁₀⟩ := Option.bind_eq_some_iff.mp h₉
  obtain ⟨⟨second, rest⟩, hsecond, h₁₁⟩ := Option.bind_eq_some_iff.mp h₁₀
  obtain ⟨offset, hoffset, hdatetime⟩ := Option.bind_eq_some_iff.mp h₁₁
  obtain ⟨ys, hys, hyvalue, htext⟩ := readNumber_eq_some hyear
  obtain ⟨ms, hms, hmvalue, hs₂⟩ := readNumber_eq_some hmonth
  obtain ⟨ds, hds, hdvalue, hs₄⟩ := readNumber_eq_some hday
  obtain ⟨hs, hhs, hhvalue, hs₆⟩ := readNumber_eq_some hhour
  obtain ⟨ns, hns, hnvalue, hs₈⟩ := readNumber_eq_some hminute
  obtain ⟨ss, hss, hsvalue, hs₁₀⟩ := readNumber_eq_some hsecond
  rw [datetime] at hdatetime
  split at hdatetime
  · obtain rfl := Option.some.inj hdatetime
    refine ⟨⟨ys, ms, ds, hs, ns, ss, hys, hms, hds, hhs, hns, hss⟩, rest,
      ⟨hyvalue, hmvalue, hdvalue, hhvalue, hnvalue, hsvalue⟩, ?_, rfl, rfl, hoffset⟩
    rw [htext, readMark_eq_some hmark₁, hs₂, readMark_eq_some hmark₂, hs₄,
      readMark_eq_some hmark₃, hs₆, readMark_eq_some hmark₄, hs₈, readMark_eq_some hmark₅, hs₁₀,
      Heading.text]
    simp only [List.append_assoc, List.append_nil]
  · cases hdatetime

theorem fractionOf_digits (rest : List Char) : ∀ c ∈ fractionOf rest, isDecimalNumber c = true := by
  intro c hc
  unfold fractionOf at hc
  split at hc
  · exact List.mem_takeWhile_imp hc
  · cases hc

theorem tail_of_ne {d : Char} (h : d ≠ '.') (rest : List Char) :
    fractionOf (d :: rest) = [] ∧ zoneOf (d :: rest) = d :: rest := by
  constructor
  · unfold fractionOf
    split
    · rename_i heq
      exact absurd (List.cons.inj heq).1 h
    · rfl
  · unfold zoneOf
    split
    · rename_i heq
      exact absurd (List.cons.inj heq).1 h
    · rfl

/-- The pattern wants a digit behind a point. -/
theorem tail_eq {text : String} (h : isTimestampText text = true) :
    text.toList.drop 19 = pointText (fractionOf (text.toList.drop 19)) ++
      zoneOf (text.toList.drop 19) := by
  rw [isTimestampText, Bool.and_eq_true] at h
  have htail := h.2
  generalize text.toList.drop 19 = rest at htail ⊢
  cases rest with
  | nil => rfl
  | cons d rest =>
      by_cases hd : d = '.'
      · subst hd
        cases rest with
        | nil => exact absurd htail (by decide)
        | cons c rest =>
            have hc : isDecimalNumber c = true := (Bool.and_eq_true _ _ ▸ htail).1
            have hne : fractionOf ('.' :: c :: rest) ≠ [] := by
              rw [fractionOf, List.takeWhile_cons_of_pos hc]
              exact List.cons_ne_nil _ _
            rw [pointText, if_neg hne]
            exact congrArg ('.' :: ·) List.takeWhile_append_dropWhile.symm
      · obtain ⟨hfraction, hzone⟩ := tail_of_ne hd rest
        rw [hfraction, hzone]
        rfl

/-- A text that is accepted, in its parts. -/
theorem TimestampText.parts (v : TimestampText) : ∃ g : Heading, g.Says v.reading ∧
    v.text.toList.take 19 = g.text ∧ v.text.toList = stem v ++ v.reading.zone ∧
    (∀ c ∈ v.reading.fraction, isDecimalNumber c = true) ∧
    readZone v.reading.zone = some v.reading.offset := by
  have haccepted := v.accepted
  rw [parseTimestamp] at haccepted
  split at haccepted
  · rename_i hpattern
    obtain ⟨g, rest, hsays, htext, hfraction, hzone, hread⟩ := fromisoformat_sound haccepted
    have htake : v.text.toList.take 19 = g.text := by
      rw [htext, ← g.length_text, List.take_left]
    have hdrop : v.text.toList.drop 19 = rest := by
      rw [htext, ← g.length_text, List.drop_left]
    have htail := tail_eq hpattern
    rw [hdrop, ← hfraction, ← hzone] at htail
    refine ⟨g, hsays, htake, ?_, ?_, hread⟩
    · rw [stem, htake, htext, htail, List.append_assoc, hzone]
    · rw [hfraction]
      exact fractionOf_digits rest
  · cases haccepted

/-! ## The order of what follows the seconds -/

theorem zero_le_of_isDecimalNumber {c : Char} (h : isDecimalNumber c = true) : 48 ≤ c.toNat := by
  have hzeros : ∀ first ∈ digitZeros, 48 ≤ first := by decide
  rw [isDecimalNumber, List.any_eq_true] at h
  obtain ⟨first, hfirst, hc⟩ := h
  rw [Bool.and_eq_true, decide_eq_true_eq] at hc
  exact (hzeros first hfirst).trans hc.1

def utcZone : List Char := "+00:00".toList

/-- No zone comes before `+00:00`. -/
theorem utcZone_lt_iff {zone : List Char} {offset : ℤ} (h : readZone zone = some offset) :
    utcZone < zone ↔ zone ≠ utcZone := by
  refine ⟨fun hlt heq => lt_irrefl _ (heq ▸ hlt), fun hne => ?_⟩
  obtain rfl | ⟨sign, hours, minutes, rfl | rfl, hhours, hminutes, rfl⟩ := readZone_cases h
  · decide
  · have hzero : utcZone = '+' :: (['0', '0'] ++ ([':'] ++ ['0', '0'])) := rfl
    have hnumber : IsNumber 2 ['0', '0'] := by decide
    obtain ⟨hlthours, heqhours⟩ := lt_iff_decimal_lt hnumber hhours
    obtain ⟨hltminutes, heqminutes⟩ := lt_iff_decimal_lt hnumber hminutes
    have hvalue : decimal ['0', '0'] = 0 := decimal_zeros 2
    rw [hzero] at hne ⊢
    rw [List.cons_lt_cons_iff, number_lt_iff hnumber hhours, hltminutes, hvalue]
    refine Or.inr ⟨rfl, ?_⟩
    rcases Nat.eq_zero_or_pos (decimal hours) with hh | hh
    · rcases Nat.eq_zero_or_pos (decimal minutes) with hm | hm
      · refine absurd ?_ hne
        rw [← heqhours.mpr (hvalue.trans hh.symm), ← heqminutes.mpr (hvalue.trans hm.symm)]
      · exact Or.inr ⟨hh.symm, hm⟩
    · exact Or.inl hh
  · exact List.cons_lt_cons_iff.mpr (Or.inl (by decide))

/-- Of the zones `Z` alone comes after a point or a digit. -/
theorem lt_zone_iff {zone rest : List Char} {offset : ℤ} {c : Char}
    (h : readZone zone = some offset) (hc : c = '.' ∨ c.isDigit = true) :
    c :: rest < zone ↔ zone = ['Z'] := by
  have hbounds : 46 ≤ c.toNat ∧ c.toNat ≤ 57 := by
    rcases hc with rfl | hdigit
    · decide
    · exact ⟨le_trans (by decide) (digit_bounds hdigit).1, (digit_bounds hdigit).2⟩
  obtain rfl | ⟨sign, hours, minutes, hsign, -, -, rfl⟩ := readZone_cases h
  · refine ⟨fun _ => rfl, fun _ => List.cons_lt_cons_iff.mpr (Or.inl (char_lt_iff.mpr ?_))⟩
    exact lt_of_le_of_lt hbounds.2 (by decide)
  · have hlow : sign.toNat < 46 ∧ sign ≠ 'Z' := by rcases hsign with rfl | rfl <;> decide
    rw [List.cons_lt_cons_iff, char_lt_iff]
    constructor
    · rintro (hlt | ⟨rfl, -⟩) <;> omega
    · intro heq
      exact absurd (List.cons.inj heq).1 hlow.2

namespace Timestamp

variable {f d zone : List Char} {offset : ℤ}

theorem isNumber_sixDigits (h : ∀ c ∈ f.take 6, c.isDigit = true) : IsNumber 6 (sixDigits f) := by
  constructor
  · rw [sixDigits, List.length_append, List.length_take, List.length_replicate]
    omega
  · intro c hc
    rcases List.mem_append.mp hc with hf | hzero
    · exact h c hf
    · rw [List.eq_of_mem_replicate hzero]
      rfl

theorem sixDigits_of_length (h : d.length = 6) : sixDigits d = d := by
  rw [sixDigits, h, List.take_of_length_le h.le]
  exact List.append_nil d

theorem pointText_inj : pointText f = pointText d ↔ f = d := by
  cases f with
  | nil =>
      cases d with
      | nil => simp
      | cons c d => simp [pointText]
  | cons b f =>
      cases d with
      | nil => simp [pointText]
      | cons c d => simp [pointText]

/-- A longer fraction has the point alone before it, or more digits. -/
theorem pointText_append {c : Char} {q : List Char} (h : pointText d ++ c :: q = pointText f) :
    (d = [] ∧ c = '.' ∧ f ≠ []) ∨ (d ≠ [] ∧ f = d ++ c :: q) := by
  have hf : f ≠ [] := fun heq => by
    rw [heq] at h
    exact absurd h (List.append_ne_nil_of_right_ne_nil _ (List.cons_ne_nil c q))
  rw [show pointText f = '.' :: f from if_neg hf] at h
  cases d with
  | nil => exact Or.inl ⟨rfl, (List.cons.inj h).1, hf⟩
  | cons e d => exact Or.inr ⟨List.cons_ne_nil e d, (List.cons.inj h).2.symm⟩

/-- A digit in which the fractions differ decides. -/
theorem sixDigits_lt_of_differ {p r₁ r₂ : List Char} {a b : Char} (hne : a ≠ b)
    (hf : ∀ c ∈ f.take 6, c.isDigit = true) (hd : ∀ c ∈ d.take 6, c.isDigit = true)
    (hsix : d.length = 6) (hdp : d = p ++ a :: r₁) (hfp : f = p ++ b :: r₂) :
    decimal (sixDigits d) < decimal (sixDigits f) ↔ a < b := by
  obtain ⟨n, hn⟩ : ∃ n, 6 - p.length = n + 1 := by
    refine ⟨5 - p.length, ?_⟩
    rw [hdp, List.length_append, List.length_cons] at hsix
    omega
  have hshort : p.length ≤ 6 := by omega
  have hsixf : sixDigits f = p ++ b :: (r₂.take n ++ List.replicate (6 - f.length) '0') := by
    rw [sixDigits, hfp, List.take_append, List.take_of_length_le hshort, hn, List.take_succ_cons,
      List.append_assoc, List.cons_append]
  rw [← (lt_iff_decimal_lt (isNumber_sixDigits hd) (isNumber_sixDigits hf)).1,
    sixDigits_of_length hsix, hsixf, hdp]
  exact append_cons_lt_append_cons hne

theorem sixDigits_nil : decimal (sixDigits []) = 0 := decimal_zeros 6

theorem length_of_append {c : Char} {q : List Char} (hlength : d = [] ∨ d.length = 6)
    (h : d = f ++ c :: q) : d.length = 6 := by
  refine hlength.resolve_left fun hnil => ?_
  rw [hnil] at h
  exact absurd h.symm (List.append_ne_nil_of_right_ne_nil f (List.cons_ne_nil c q))

/-- Fewer digits stand for no more than all of them. -/
theorem sixDigits_le_of_prefix (hlength : d = [] ∨ d.length = 6)
    (h : pointText f <+: pointText d) : decimal (sixDigits f) ≤ decimal (sixDigits d) := by
  obtain ⟨q, hq⟩ := h
  cases q with
  | nil =>
      rw [List.append_nil, pointText_inj] at hq
      rw [hq]
  | cons c q =>
      rcases pointText_append hq with ⟨hf, -, -⟩ | ⟨-, hdf⟩
      · rw [hf, sixDigits_nil]
        exact Nat.zero_le _
      · have hsix := length_of_append hlength hdf
        have hcount : f.length + (q.length + 1) = 6 := by
          rw [hdf, List.length_append, List.length_cons] at hsix
          exact hsix
        have hzeros : 6 - f.length = q.length + 1 := by omega
        rw [sixDigits_of_length hsix, hdf, sixDigits, List.take_of_length_le (by omega), hzeros,
          decimal_append, decimal_append, decimal_zeros, List.length_replicate, List.length_cons]
        exact Nat.add_le_add_left (Nat.zero_le _) _

/-- The same digits: the zones decide. -/
theorem tail_lt_iff_self (hzone : readZone zone = some offset) :
    pointText f ++ utcZone < pointText f ++ zone ↔
      decimal (sixDigits f) < decimal (sixDigits f) ∨
      (pointText f <+: pointText f ∧ zone = ['Z']) ∨
      (pointText f <+: pointText f ∧ decimal (sixDigits f) = decimal (sixDigits f) ∧
        ¬ (f = f ∧ zone = utcZone)) := by
  have hz : ['Z'] ≠ utcZone := by decide
  rw [append_lt_append_left_iff, utcZone_lt_iff hzone]
  simp only [lt_irrefl, List.prefix_refl, true_and, false_or]
  exact ⟨Or.inr, fun hor => hor.elim (fun h => h ▸ hz) fun h => h⟩

/-- Past the point the text of `now` is the earlier one where its microseconds are fewer, or where
the two do not differ in a digit and what comes next decides otherwise. -/
theorem tail_lt_iff (hf : ∀ c ∈ f.take 6, c.isDigit = true)
    (hnumbers : ∀ c ∈ f, isDecimalNumber c = true) (hd : ∀ c ∈ d.take 6, c.isDigit = true)
    (hlength : d = [] ∨ d.length = 6) (hzone : readZone zone = some offset) :
    pointText d ++ utcZone < pointText f ++ zone ↔
      decimal (sixDigits d) < decimal (sixDigits f) ∨
      (pointText f <+: pointText d ∧ zone = ['Z']) ∨
      (pointText d <+: pointText f ∧ decimal (sixDigits f) = decimal (sixDigits d) ∧
        ¬ (f = d ∧ zone = utcZone)) := by
  rcases differ_or_prefix (pointText d) (pointText f) with
    ⟨p, a, b, r₁, r₂, hne, hdp, hfp⟩ | ⟨q, hq⟩ | ⟨q, hq⟩
  · -- both have a fraction, and the difference is in a digit of it
    have hfStarts : ¬ pointText f <+: pointText d := by
      rw [hdp, hfp]
      exact not_prefix_of_ne hne.symm
    have hdStarts : ¬ pointText d <+: pointText f := by
      rw [hdp, hfp]
      exact not_prefix_of_ne hne
    have htext : pointText d ++ utcZone < pointText f ++ zone ↔ a < b := by
      rw [hdp, hfp, List.append_assoc, List.append_assoc, List.cons_append, List.cons_append]
      exact append_cons_lt_append_cons hne
    have hdne : d ≠ [] := fun h => by
      rw [h] at hdp
      exact absurd hdp.symm (List.append_ne_nil_of_right_ne_nil p (List.cons_ne_nil a r₁))
    have hfne : f ≠ [] := fun h => by
      rw [h] at hfp
      exact absurd hfp.symm (List.append_ne_nil_of_right_ne_nil p (List.cons_ne_nil b r₂))
    have hdpoint : pointText d = '.' :: d := if_neg hdne
    have hfpoint : pointText f = '.' :: f := if_neg hfne
    cases p with
    | nil =>
        rw [hdpoint] at hdp
        rw [hfpoint] at hfp
        exact absurd ((List.cons.inj hdp).1.symm.trans (List.cons.inj hfp).1) hne
    | cons point p =>
        have hdp' : d = p ++ a :: r₁ := (List.cons.inj (hdpoint.symm.trans hdp)).2
        have hfp' : f = p ++ b :: r₂ := (List.cons.inj (hfpoint.symm.trans hfp)).2
        rw [htext, sixDigits_lt_of_differ hne hf hd (hlength.resolve_left hdne) hdp' hfp']
        simp [hfStarts, hdStarts]
  · cases q with
    | nil =>
        rw [List.append_nil, pointText_inj] at hq
        subst hq
        exact tail_lt_iff_self hzone
    | cons c q =>
        -- the expiry goes on behind `now`, and whatever comes next is later than the zone
        have hne : f ≠ d := fun heq => by
          rw [heq] at hq
          exact List.cons_ne_nil c q (List.append_right_eq_self.mp hq)
        obtain ⟨hc, hle⟩ : 46 ≤ c.toNat ∧ decimal (sixDigits d) ≤ decimal (sixDigits f) := by
          rcases pointText_append hq with ⟨hd, rfl, -⟩ | ⟨hdne, hfd⟩
          · rw [hd, sixDigits_nil]
            exact ⟨by decide, Nat.zero_le _⟩
          · have hsix := hlength.resolve_left hdne
            have hcut : sixDigits f = sixDigits d := by
              have hlong : 6 - f.length = 0 := by
                rw [hfd, List.length_append]
                omega
              rw [sixDigits_of_length hsix, sixDigits, hlong, List.replicate_zero, List.append_nil,
                hfd, ← hsix, List.take_left]
            refine ⟨?_, hcut.symm ▸ le_rfl⟩
            have hdigit := hnumbers c (hfd ▸ List.mem_append_right d List.mem_cons_self)
            exact le_trans (by decide) (zero_le_of_isDecimalNumber hdigit)
        rw [← hq, List.append_assoc, append_lt_append_left_iff]
        refine iff_of_true (List.cons_lt_cons_iff.mpr (Or.inl (char_lt_iff.mpr ?_))) ?_
        · exact lt_of_lt_of_le (by decide) hc
        · rcases hle.lt_or_eq with hlt | heq
          · exact Or.inl hlt
          · exact Or.inr (Or.inr ⟨List.prefix_append _ _, heq.symm, fun hand => hne hand.1⟩)
  · cases q with
    | nil =>
        rw [List.append_nil, pointText_inj] at hq
        subst hq
        exact tail_lt_iff_self hzone
    | cons c q =>
        -- `now` goes on behind the expiry, and only `Z` is later than what comes next
        have hlong : ¬ pointText d <+: pointText f := fun h => by
          have hle := h.length_le
          rw [← hq, List.length_append, List.length_cons] at hle
          omega
        have hle : decimal (sixDigits f) ≤ decimal (sixDigits d) :=
          sixDigits_le_of_prefix hlength ⟨c :: q, hq⟩
        have hc : c = '.' ∨ c.isDigit = true := by
          refine (pointText_append hq).imp (fun h => h.2.1) fun h => hd c ?_
          rw [List.take_of_length_le (length_of_append hlength h.2).le, h.2]
          exact List.mem_append_right f List.mem_cons_self
        rw [← hq, List.append_assoc, append_lt_append_left_iff, List.cons_append,
          lt_zone_iff hzone hc]
        rw [← hq] at hlong
        simp [hle.not_gt, hlong]

theorem microsecond_lt (t : Timestamp) : t.microsecond < 10 ^ 6 :=
  decimal_lt (isNumber_sixDigits t.fraction_digits)

theorem localTime_lt_of_localSeconds_lt {t u : Timestamp} (h : t.localSeconds < u.localSeconds) :
    t.localTime < u.localTime := by
  have hmicro := t.microsecond_lt
  rw [localTime, localTime]
  omega

end Timestamp

/-! ## The order of the texts -/

variable {v : TimestampText} {now : UtcNow}

/-- The texts come in the order of the local times but for the overhanging ones. -/
theorem text_lt_iff (v : TimestampText) (now : UtcNow) :
    now.text < v.text ↔ now.reading.localTime < v.reading.localTime ∨ Overhangs v now := by
  obtain ⟨g, hsays, hhead, htext, hnumbers, hzone⟩ := v.parts
  obtain ⟨g', hsays', hhead', htext', -, -⟩ := now.toTimestampText.parts
  have hlength : g'.text.length = g.text.length := g'.length_text.trans g.length_text.symm
  have hstem : stem v = g.text ++ pointText v.reading.fraction := by rw [stem, hhead]
  have hstem' : stem now.toTimestampText = g'.text ++ pointText now.reading.fraction := by
    rw [stem, hhead']
  have hstarts : stem v <+: stem now.toTimestampText ↔
      g.text = g'.text ∧ pointText v.reading.fraction <+: pointText now.reading.fraction := by
    rw [hstem, hstem', append_prefix_append_iff hlength.symm]
  have hstarts' : stem now.toTimestampText <+: stem v ↔
      g'.text = g.text ∧ pointText now.reading.fraction <+: pointText v.reading.fraction := by
    rw [hstem, hstem', append_prefix_append_iff hlength]
  rw [String.lt_iff, htext, htext', hstem, hstem', List.append_assoc, List.append_assoc,
    append_lt_append_iff hlength, Heading.text_lt_iff hsays' hsays, Overhangs, hstarts, hstarts']
  by_cases heq : g'.text = g.text
  · have hseconds := (Heading.text_eq_iff hsays' hsays).mp heq
    have hlocal : now.reading.localTime < v.reading.localTime ↔
        now.reading.microsecond < v.reading.microsecond := by
      rw [Timestamp.localTime, Timestamp.localTime, hseconds]
      omega
    have hlocal' : v.reading.localTime = now.reading.localTime ↔
        v.reading.microsecond = now.reading.microsecond := by
      rw [Timestamp.localTime, Timestamp.localTime, hseconds]
      omega
    have hsame : v.text ≠ now.text ↔
        ¬ (v.reading.fraction = now.reading.fraction ∧ v.reading.zone = utcZone) := by
      refine not_congr ⟨fun h => ?_, fun h => ?_⟩
      · have hreading : v.reading = now.reading := by
          have haccepted := v.accepted
          rw [h, now.accepted] at haccepted
          exact (Option.some.inj haccepted).symm
        rw [hreading]
        exact ⟨rfl, now.utc⟩
      · rw [← String.toList_inj, htext, htext', hstem, hstem', heq, h.1, h.2, now.utc]
        rfl
    rw [now.utc, hlocal, hlocal', hsame, hseconds]
    simp only [heq, lt_irrefl, false_or, true_and]
    exact Timestamp.tail_lt_iff v.reading.fraction_digits hnumbers now.reading.fraction_digits
      (now.digits.imp_right And.left) hzone
  · -- another second decides both orders
    have hne := mt (Heading.text_eq_iff hsays' hsays).mpr heq
    have hlocal : now.reading.localTime < v.reading.localTime ↔
        now.reading.localSeconds < v.reading.localSeconds := by
      refine ⟨fun h => ?_, Timestamp.localTime_lt_of_localSeconds_lt⟩
      by_contra hnot
      have hlt : v.reading.localSeconds < now.reading.localSeconds := by omega
      exact absurd (Timestamp.localTime_lt_of_localSeconds_lt hlt) (by omega)
    rw [hlocal]
    simp [heq, Ne.symm heq]

/-- What overhangs is not later by its local time. -/
theorem Overhangs.not_lt (h : Overhangs v now) :
    ¬ now.reading.localTime < v.reading.localTime := by
  rcases h with ⟨hstarts, -⟩ | ⟨-, heq, -⟩
  · obtain ⟨g, hsays, hhead, -, -, -⟩ := v.parts
    obtain ⟨g', hsays', hhead', -, -, -⟩ := now.toTimestampText.parts
    rw [stem, stem, hhead, hhead',
      append_prefix_append_iff (g.length_text.trans g'.length_text.symm)] at hstarts
    have hseconds := (Heading.text_eq_iff hsays hsays').mp hstarts.1
    have hmicro : v.reading.microsecond ≤ now.reading.microsecond :=
      Timestamp.sixDigits_le_of_prefix (now.digits.imp_right And.left) hstarts.2
    rw [Timestamp.localTime, Timestamp.localTime, hseconds]
    omega
  · exact heq.not_gt

/-- The texts decide as the instants do just when local time and overhang do not conflict. -/
theorem comparesAsText_iff (v : TimestampText) (now : UtcNow) :
    (now.text < v.text ↔ Unexpired v now) ↔ ComparesAsText v now := by
  have htext := text_lt_iff v now
  rw [ComparesAsText, LocalAgrees]
  by_cases hover : Overhangs v now
  · have hnot := hover.not_lt
    tauto
  · tauto

/-- A universal time, however it is written, conflicts where it overhangs. -/
theorem comparesAsText_of_utc (h : v.reading.offset = 0) (hutc : now.reading.offset = 0) :
    ComparesAsText v now ↔ ¬ Overhangs v now := by
  have hagrees : LocalAgrees v now := by
    rw [LocalAgrees, Unexpired, Timestamp.instant, Timestamp.instant, h, hutc]
    omega
  rw [ComparesAsText]
  exact ⟨fun hiff => hiff.mp hagrees, fun hnot => iff_of_true hagrees hnot⟩

/-! ## The rows -/

variable {rows : List EvidenceRow} {q : EvidenceQuery}

theorem mem_selected {row : EvidenceRow} : row ∈ selected rows q now ↔
    row ∈ rows ∧ q.matchesRow row = true ∧ now.text < row.validUntil.text := by
  rw [selected, List.mem_filter, Bool.and_eq_true, decide_eq_true_eq]

/-- The query admits just the valid evidence if and only if the newest row with a later text, or
without one every row that matches, has an expiry whose text compares as its instant does. -/
theorem admitsUnexpired_iff (rows : List EvidenceRow) (q : EvidenceQuery) (now : UtcNow) :
    AdmitsUnexpired rows q now ↔
      (∀ row, IsNewest (selected rows q now) row → ComparesAsText row.validUntil now) ∧
      (selected rows q now = [] → ∀ row ∈ rows, q.matchesRow row = true →
        ComparesAsText row.validUntil now) := by
  constructor
  · intro h
    refine ⟨fun row hrow => ?_, fun hnone row hrow hmatches => ?_⟩
    · have hlater := (mem_selected.mp hrow.1).2.2
      exact (comparesAsText_iff _ _).mp (iff_of_true hlater ((h (some row) hrow).1 row rfl))
    · refine (comparesAsText_iff _ _).mp (iff_of_false (fun hlater => ?_) fun hvalid => ?_)
      · exact absurd (mem_selected.mpr ⟨hrow, hmatches, hlater⟩) (hnone ▸ List.not_mem_nil)
      · exact (h none hnone).2 ⟨row, hrow, hmatches, hvalid⟩ rfl
  · rintro ⟨hnewest, hempty⟩ result hresult
    cases result with
    | none =>
        refine ⟨fun row h => ?_, fun ⟨row, hrow, hmatches, hvalid⟩ => ?_⟩
        · cases h
        have hcompares := hempty hresult row hrow hmatches
        have hlater := ((comparesAsText_iff _ _).mpr hcompares).mpr hvalid
        exact absurd (mem_selected.mpr ⟨hrow, hmatches, hlater⟩) (hresult ▸ List.not_mem_nil)
    | some row =>
        refine ⟨fun other h => ?_, fun _ => Option.some_ne_none row⟩
        cases h
        have hlater := (mem_selected.mp hresult.1).2.2
        exact ((comparesAsText_iff _ _).mpr (hnewest row hresult)).mp hlater

/-! ## Evidence that has expired -/

def TimestampText.ofText (text : String) (h : (parseTimestamp text).isSome = true) :
    TimestampText where
  text := text
  reading := (parseTimestamp text).get h
  accepted := (Option.some_get h).symm

/-- A quarter past the full second at which the evidence has expired. -/
def sampleNow : UtcNow where
  toTimestampText := .ofText "2026-01-01T00:00:00.250000+00:00" (by decide +kernel)
  utc := by decide +kernel
  digits := by decide +kernel

def sampleQuery : EvidenceQuery where
  ownerSubject := "owner"
  deviceId := "device"
  capabilityKey := "line"
  operationPack := "pack"
  runtimeId := "managed_dotnet"
  hostFamily := "R25"
  cohort := "cohort"
  packageHash := "package"
  capabilityManifestHash := "manifest"
  operationRegistryHash := "registry"
  minimumSupportStates := ["certified"]

def sampleEvidence : EvidenceRow where
  evidenceId := "evidence"
  evidenceAuthority := "gateway_server"
  ownerSubject := "owner"
  deviceId := "device"
  capabilityKey := "line"
  operationPack := "pack"
  runtimeId := "managed_dotnet"
  hostFamily := "R25"
  entityType := "LINE"
  supportState := "certified"
  packageHash := "package"
  capabilityManifestHash := "manifest"
  operationRegistryHash := "registry"
  packageSignatureVerified := true
  agentEvidenceDigest := "agent"
  hostEvidenceDigest := "host"
  cohort := "cohort"
  evidenceVersion := "1"
  issuedAt := "2025-12-01T00:00:00Z"
  validUntil := .ofText "2026-01-01T00:00:00Z" (by decide +kernel)
  evidenceDigest := "digest"
  createdAt := "2025-12-01T00:00:00+00:00"

/-- `Z` comes after the point, so the row is taken although it expired a quarter of a second ago. -/
theorem admits_expired : ¬ ∀ (rows : List EvidenceRow) (q : EvidenceQuery) (now : UtcNow),
    AdmitsUnexpired rows q now := by
  intro h
  have hselected : sampleEvidence ∈ selected [sampleEvidence] sampleQuery sampleNow :=
    mem_selected.mpr ⟨List.mem_cons_self, by decide +kernel, by decide +kernel⟩
  have hnewest : IsNewest (selected [sampleEvidence] sampleQuery sampleNow) sampleEvidence := by
    refine ⟨hselected, fun other hother => ?_⟩
    rw [List.mem_singleton.mp (mem_selected.mp hother).1]
  have hvalid := (h _ _ _ (some sampleEvidence) hnewest).1 sampleEvidence rfl
  exact absurd hvalid (by decide +kernel)

end AutocadMcp.Phase8
