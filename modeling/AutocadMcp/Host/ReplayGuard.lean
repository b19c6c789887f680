import AutocadMcp.Host.CanonicalJson
import AutocadMcp.Lib.Recency
import AutocadMcp.Lib.SlotDictionary
import Mathlib.Data.List.Induction

/-!
# The replay guard

`ReplayGuard` keeps the responses of the last commands in a dictionary and drops the first key
when it is full. A dictionary gives the slot that was freed to the next key, so the first key is
the oldest one only until a key has been dropped: from then on it is the newest.
-/

namespace AutocadMcp.Host

/-! ## The guard -/

/-- What `EnvelopeValidator.Parse` takes for a payload hash. -/
def isPayloadHash (text : String) : Bool :=
  text.length = 64 && text.toList.all fun c => c.isDigit || ('a' ≤ c && c ≤ 'f')

abbrev PayloadHash := {text : String // isPayloadHash text = true}

/-- `Encoding.ASCII.GetBytes`. -/
def asciiBytes (text : String) : List ℕ :=
  text.toList.map fun c => if c.toNat < 128 then c.toNat else '?'.toNat

structure ReplayGuard (Response : Type) where
  entries : SlotDictionary String (PayloadHash × Response)
  capacity : ℕ

namespace ReplayGuard

variable {Response : Type}

def new (capacity : ℕ) : ReplayGuard Response where
  entries := .empty
  capacity := capacity

/-- `Check`. -/
def check (g : ReplayGuard Response) (commandId : String) (payloadHash : PayloadHash) :
    Except ProtocolValidationException (Option Response) :=
  match g.entries.lookup commandId with
  | none => .ok none
  | some entry =>
      if asciiBytes entry.1.1 = asciiBytes payloadHash.1 then .ok (some entry.2)
      else .error ⟨"duplicate_payload_mismatch", "Command ID was reused with another payload."⟩

/-- `Record`; nothing where `First` finds no key. -/
def record (g : ReplayGuard Response) (commandId : String) (payloadHash : PayloadHash)
    (response : Response) : Option (ReplayGuard Response) :=
  if g.capacity ≤ g.entries.count then
    g.entries.keys.head?.map fun first =>
      { g with entries := (g.entries.remove first).insert commandId (payloadHash, response) }
  else some { g with entries := g.entries.insert commandId (payloadHash, response) }

end ReplayGuard

/-! ## Sessions -/

/-- A call of `Record`. -/
structure Recorded (Response : Type) where
  commandId : String
  payloadHash : PayloadHash
  response : Response

inductive GuardCall (Response : Type) where
  | check (commandId : String) (payloadHash : PayloadHash)
  | record (recorded : Recorded Response)

/-- A guard with the calls of `Record` that it has had, the last one first. -/
structure GuardRun (Response : Type) where
  guard : ReplayGuard Response
  recorded : List (Recorded Response)

namespace GuardRun

variable {Response : Type}

/-- A call that throws leaves the guard as it is. -/
def step (s : GuardRun Response) : GuardCall Response → GuardRun Response
  | .check _ _ => s
  | .record r =>
      { guard := (s.guard.record r.commandId r.payloadHash r.response).getD s.guard
        recorded := r :: s.recorded }

def run (capacity : ℕ) (calls : List (GuardCall Response)) : GuardRun Response :=
  calls.foldl step ⟨.new capacity, []⟩

/-- The distinct ids that have been recorded, the last one first. -/
def recent (s : GuardRun Response) : List String := recency (s.recorded.map Recorded.commandId)

/-- The first id of the session. -/
def first? (s : GuardRun Response) : Option String := s.recorded.getLast?.map Recorded.commandId

def last? (s : GuardRun Response) (id : String) : Option (Recorded Response) :=
  s.recorded.find? fun r => r.commandId = id

/-- A guard of capacity `c` knows what was recorded last for each of the last `c` distinct ids,
and holds `c` ids at most. -/
structure Remembers (s : GuardRun Response) : Prop where
  count_le : s.guard.entries.count ≤ s.guard.capacity
  answers : ∀ id ∈ s.recent.take s.guard.capacity, ∃ r, s.last? id = some r ∧
    ∀ payloadHash, s.guard.check id payloadHash =
      if payloadHash = r.payloadHash then .ok (some r.response)
      else .error ⟨"duplicate_payload_mismatch", "Command ID was reused with another payload."⟩

/-- The call fits a guard that drops the key of its first slot: with fewer than `c` distinct ids
anything may be recorded. With `c` ids it is the first id of the session, or a new one while the
first id of the session is also the one that was recorded longest ago. With more it is the id
recorded last. -/
def FitsSlots (s : GuardRun Response) : GuardCall Response → Prop
  | .check _ _ => True
  | .record r =>
      s.recent.length < s.guard.capacity ∨
      (s.recent.length = s.guard.capacity ∧
        (s.first? = some r.commandId ∨ (r.commandId ∉ s.recent ∧ s.first? = s.recent.getLast?))) ∨
      (s.guard.capacity < s.recent.length ∧ s.recent.head? = some r.commandId)

end GuardRun

/-! ## Steps of the guard -/

theorem asciiBytes_inj {text other : PayloadHash} :
    asciiBytes text.1 = asciiBytes other.1 ↔ text = other := by
  have hbytes : ∀ hash : PayloadHash, asciiBytes hash.1 = hash.1.toList.map Char.toNat := by
    intro hash
    refine List.map_congr_left fun c hc => if_pos ?_
    have hhash := hash.2
    rw [isPayloadHash, Bool.and_eq_true, List.all_eq_true] at hhash
    have hdigit := hhash.2 c hc
    simp only [Char.isDigit, Bool.or_eq_true, Bool.and_eq_true, decide_eq_true_eq] at hdigit
    rcases hdigit with ⟨-, hle⟩ | ⟨-, hle⟩
    · exact lt_of_le_of_lt (UInt32.le_iff_toNat_le.mp hle) (by decide)
    · exact lt_of_le_of_lt (UInt32.le_iff_toNat_le.mp hle) (by decide)
  rw [hbytes, hbytes, (List.map_injective_iff.mpr fun a b => Char.toNat_inj.mp).eq_iff,
    String.toList_inj, Subtype.ext_iff]

namespace ReplayGuard

variable {Response : Type} {g : ReplayGuard Response} {id : String} {hash : PayloadHash}
  {response : Response}

theorem check_of_lookup (h : g.entries.lookup id = some (hash, response))
    (payloadHash : PayloadHash) : g.check id payloadHash =
      if payloadHash = hash then .ok (some response)
      else .error ⟨"duplicate_payload_mismatch", "Command ID was reused with another payload."⟩ := by
  rw [check, h]
  simp only [asciiBytes_inj, eq_comm]

theorem check_of_notMem (h : id ∉ g.entries.keys) (payloadHash : PayloadHash) :
    g.check id payloadHash = .ok none := by
  rw [check, SlotDictionary.lookup_eq_none.mpr h]

/-- `Record` adds an entry, puts it in the place of the first one, or throws for want of one. -/
theorem record_cases (g : ReplayGuard Response) (id : String) (hash : PayloadHash)
    (response : Response) :
    (g.entries.count < g.capacity ∧ g.record id hash response =
      some { g with entries := g.entries.insert id (hash, response) }) ∨
    (∃ first rest, g.entries.keys = first :: rest ∧ g.capacity ≤ g.entries.count ∧
      g.record id hash response =
        some { g with entries := (g.entries.remove first).insert id (hash, response) }) ∨
    (g.entries.keys = [] ∧ g.capacity = 0 ∧ g.record id hash response = none) := by
  rw [record]
  split
  · rename_i hfull
    cases hkeys : g.entries.keys with
    | nil =>
        refine Or.inr (Or.inr ⟨rfl, ?_, rfl⟩)
        rw [SlotDictionary.count_eq_length_keys, hkeys] at hfull
        exact Nat.le_zero.mp hfull
    | cons first rest => exact Or.inr (Or.inl ⟨first, rest, rfl, hfull, rfl⟩)
  · rename_i hfull
    exact Or.inl ⟨Nat.lt_of_not_le hfull, rfl⟩

end ReplayGuard

/-! ## What every session keeps -/

namespace GuardRun

variable {Response : Type} {s : GuardRun Response} {r : Recorded Response}

theorem recent_step_record (s : GuardRun Response) (r : Recorded Response) :
    (s.step (.record r)).recent = r.commandId :: s.recent.filter fun id => id ≠ r.commandId := rfl

theorem capacity_step (s : GuardRun Response) (call : GuardCall Response) :
    (s.step call).guard.capacity = s.guard.capacity := by
  cases call with
  | check => rfl
  | record r =>
      rcases s.guard.record_cases r.commandId r.payloadHash r.response with
        ⟨-, h⟩ | ⟨first, rest, -, -, h⟩ | ⟨-, -, h⟩ <;>
      · rw [step, h]
        rfl

/-- Every entry is what was recorded last for its id. -/
def Latest (s : GuardRun Response) (d : SlotDictionary String (PayloadHash × Response)) : Prop :=
  ∀ id entry, d.lookup id = some entry →
    ∃ r, s.last? id = some r ∧ entry = (r.payloadHash, r.response)

structure Keeps (s : GuardRun Response) : Prop where
  count_le : s.guard.entries.count ≤ s.guard.capacity
  latest : s.Latest s.guard.entries

theorem last?_cons (id : String) : (s.step (.record r)).last? id =
    if r.commandId = id then some r else s.last? id := by
  by_cases h : r.commandId = id
  · rw [if_pos h]
    exact List.find?_cons_of_pos (decide_eq_true h)
  · rw [if_neg h]
    exact List.find?_cons_of_neg (by simpa using h)

variable {d : SlotDictionary String (PayloadHash × Response)}

theorem latest_insert (hlatest : s.Latest d) : (s.step (.record r)).Latest
    (d.insert r.commandId (r.payloadHash, r.response)) := by
  intro id entry h
  rw [last?_cons]
  by_cases hid : r.commandId = id
  · subst hid
    rw [SlotDictionary.lookup_insert_self, Option.some.injEq] at h
    exact ⟨r, if_pos rfl, h.symm⟩
  · rw [SlotDictionary.lookup_insert_of_ne fun heq => hid heq.symm] at h
    rw [if_neg hid]
    exact hlatest id entry h

theorem latest_remove (hlatest : s.Latest d) (first : String) : s.Latest (d.remove first) := by
  intro id entry h
  have hmem := SlotDictionary.lookup_eq_some.mp h
  rw [SlotDictionary.entries_remove, List.mem_filter] at hmem
  exact hlatest id entry (SlotDictionary.lookup_eq_some.mpr hmem.1)

/-- The guard after a call of `Record`. -/
theorem step_record_cases (s : GuardRun Response) (r : Recorded Response) :
    (s.guard.entries.count < s.guard.capacity ∧ (s.step (.record r)).guard.entries =
      s.guard.entries.insert r.commandId (r.payloadHash, r.response)) ∨
    (∃ first rest, s.guard.entries.keys = first :: rest ∧
      s.guard.capacity ≤ s.guard.entries.count ∧ (s.step (.record r)).guard.entries =
        (s.guard.entries.remove first).insert r.commandId (r.payloadHash, r.response)) ∨
    (s.guard.entries.keys = [] ∧ s.guard.capacity = 0 ∧
      (s.step (.record r)).guard.entries = s.guard.entries) := by
  rcases s.guard.record_cases r.commandId r.payloadHash r.response with
    ⟨hroom, h⟩ | ⟨first, rest, hkeys, hfull, h⟩ | ⟨hkeys, hzero, h⟩
  · exact Or.inl ⟨hroom, by rw [step, h, Option.getD_some]⟩
  · exact Or.inr (Or.inl ⟨first, rest, hkeys, hfull, by rw [step, h, Option.getD_some]⟩)
  · exact Or.inr (Or.inr ⟨hkeys, hzero, by rw [step, h, Option.getD_none]⟩)

theorem keeps_step (h : s.Keeps) (call : GuardCall Response) : (s.step call).Keeps := by
  cases call with
  | check => exact h
  | record r =>
      have hle := h.count_le
      constructor
      · rw [capacity_step]
        rcases s.step_record_cases r with
          ⟨hroom, hentries⟩ | ⟨first, rest, hkeys, hfull, hentries⟩ | ⟨-, -, hentries⟩
        · rw [hentries, SlotDictionary.count_insert]
          split <;> omega
        · have hmem : first ∈ s.guard.entries.keys := hkeys ▸ List.mem_cons_self
          have hcount := SlotDictionary.count_remove hmem
          rw [hentries, SlotDictionary.count_insert]
          split <;> omega
        · rw [hentries]
          exact hle
      · rcases s.step_record_cases r with
          ⟨-, hentries⟩ | ⟨first, rest, -, -, hentries⟩ | ⟨hkeys, -, hentries⟩
        · rw [hentries]
          exact latest_insert h.latest
        · rw [hentries]
          exact latest_insert (latest_remove h.latest first)
        · -- `First` has found no key, so there is no entry to speak of
          rw [hentries]
          intro id entry hlookup
          have hnone := SlotDictionary.lookup_eq_none.mpr (hkeys ▸ List.not_mem_nil (a := id))
          rw [hlookup] at hnone
          cases hnone

/-- With every entry up to date the guard remembers what it holds. -/
theorem remembers_iff (h : s.Keeps) :
    s.Remembers ↔ ∀ id ∈ s.recent.take s.guard.capacity, id ∈ s.guard.entries.keys := by
  constructor
  · intro hremembers id hid
    obtain ⟨r, -, hanswer⟩ := hremembers.answers id hid
    by_contra hnot
    have hcheck := hanswer r.payloadHash
    rw [ReplayGuard.check_of_notMem hnot, if_pos rfl] at hcheck
    cases hcheck
  · intro hheld
    refine ⟨h.count_le, fun id hid => ?_⟩
    cases hlookup : s.guard.entries.lookup id with
    | none => exact absurd (hheld id hid) (SlotDictionary.lookup_eq_none.mp hlookup)
    | some entry =>
        obtain ⟨r, hlast, rfl⟩ := h.latest id entry hlookup
        exact ⟨r, hlast, ReplayGuard.check_of_lookup hlookup⟩

/-! ## The first slot -/

/-- What a guard of two ids or more looks like as long as it remembers: it has not dropped a key
yet, or for the same key again, so its first slot has the first id of the session; or it has
dropped one, and its first slot has the id recorded last. -/
inductive Ordered (s : GuardRun Response) : Prop
  | filling (few : s.recent.length ≤ s.guard.capacity) (freed : s.guard.entries.freed = [])
      (first : s.guard.entries.keys.head? = s.first?)
      (all : ∀ id, id ∈ s.guard.entries.keys ↔ id ∈ s.recent)
  | replacing (more : s.recent.length = s.guard.capacity + 1)
      (count : s.guard.entries.keys.length = s.guard.capacity)
      (first : s.guard.entries.keys.head? = s.recent.head?)
      (kept : ∀ id ∈ s.recent.take s.guard.capacity, id ∈ s.guard.entries.keys)

theorem Ordered.held (h : s.Ordered) :
    ∀ id ∈ s.recent.take s.guard.capacity, id ∈ s.guard.entries.keys := by
  cases h with
  | filling few freed first all => exact fun id hid => (all id).mpr (List.mem_of_mem_take hid)
  | replacing more count first kept => exact kept

theorem recent_nodup (s : GuardRun Response) : s.recent.Nodup := recency_nodup _

theorem mem_recent {id : String} : id ∈ s.recent ↔ ∃ r ∈ s.recorded, r.commandId = id := by
  rw [recent, mem_recency, List.mem_map]

/-- A guard that holds all ids of the session holds as many as there are. -/
theorem count_of_all (all : ∀ id, id ∈ s.guard.entries.keys ↔ id ∈ s.recent) :
    s.guard.entries.count = s.recent.length := by
  rw [SlotDictionary.count_eq_length_keys]
  exact ((List.perm_ext_iff_of_nodup s.guard.entries.keys_nodup s.recent_nodup).mpr all).length_eq

theorem first?_step (h : s.recorded ≠ []) : (s.step (.record r)).first? = s.first? := by
  rw [first?, first?, step, List.getLast?_cons_of_ne_nil h]

theorem length_recent_step_of_mem (h : r.commandId ∈ s.recent) :
    (s.step (.record r)).recent.length = s.recent.length :=
  length_recency_cons_of_mem (mem_recency.mp h)

theorem recent_step_of_notMem (h : r.commandId ∉ s.recent) :
    (s.step (.record r)).recent = r.commandId :: s.recent :=
  recency_cons_of_notMem fun hmem => h (mem_recency.mpr hmem)

theorem mem_recent_step {id : String} :
    id ∈ (s.step (.record r)).recent ↔ id = r.commandId ∨ id ∈ s.recent := by
  rw [recent, recent, mem_recency, mem_recency]
  exact List.mem_cons

/-- With a free place the guard takes the entry in. -/
theorem Ordered.step_of_room (few : s.recent.length < s.guard.capacity)
    (freed : s.guard.entries.freed = []) (first : s.guard.entries.keys.head? = s.first?)
    (all : ∀ id, id ∈ s.guard.entries.keys ↔ id ∈ s.recent) : (s.step (.record r)).Ordered := by
  have hcount := count_of_all all
  obtain ⟨-, hentries⟩ | ⟨-, -, -, hfull, -⟩ | ⟨-, hzero, -⟩ := s.step_record_cases r
  · refine .filling ?_ ?_ ?_ ?_
    · rw [capacity_step]
      by_cases hid : r.commandId ∈ s.recent
      · rw [length_recent_step_of_mem hid]
        exact few.le
      · rw [recent_step_of_notMem hid]
        exact few
    · rw [hentries]
      exact SlotDictionary.freed_insert freed _ _
    · rw [hentries]
      by_cases hid : r.commandId ∈ s.guard.entries.keys
      · have hne : s.recorded ≠ [] := by
          obtain ⟨r', hr', -⟩ := mem_recent.mp ((all _).mp hid)
          exact List.ne_nil_of_mem hr'
        rw [SlotDictionary.keys_insert_of_mem hid, first?_step hne, first]
      · rw [SlotDictionary.keys_insert_of_freed_nil freed hid, List.head?_append, first]
        -- the first entry of all goes into the first slot
        cases hrecorded : s.recorded with
        | nil =>
            rw [first?, first?, step, hrecorded]
            rfl
        | cons r' older =>
            rw [first?_step (by rw [hrecorded]; exact List.cons_ne_nil r' older), first?,
              hrecorded, List.getLast?_cons]
            rfl
    · intro id
      rw [hentries, SlotDictionary.mem_keys_insert, mem_recent_step, all]
  · omega
  · omega

/-! ## A full guard -/

section

variable {first : String} {rest : List String} (hkeys : s.guard.entries.keys = first :: rest)
  (hfull : s.guard.capacity ≤ s.guard.entries.count)

include hkeys hfull

theorem entries_step_of_full : (s.step (.record r)).guard.entries =
    (s.guard.entries.remove first).insert r.commandId (r.payloadHash, r.response) := by
  obtain ⟨hroom, -⟩ | ⟨first', rest', hkeys', -, hentries⟩ | ⟨hnil, -, -⟩ := s.step_record_cases r
  · omega
  · rw [hkeys, List.cons.injEq] at hkeys'
    rw [hentries, hkeys'.1]
  · rw [hkeys] at hnil
    cases hnil

/-- The key of the first slot is gone unless it is recorded again. -/
theorem first_dropped (hne : r.commandId ≠ first) :
    first ∉ (s.step (.record r)).guard.entries.keys := by
  rw [entries_step_of_full hkeys hfull, SlotDictionary.mem_keys_insert,
    SlotDictionary.mem_keys_remove]
  exact fun hor => hor.elim hne.symm fun hand => hand.2 rfl

theorem keys_step_of_full (hid : r.commandId ∉ rest) :
    (s.step (.record r)).guard.entries.keys = r.commandId :: rest ∧
      (s.step (.record r)).guard.entries.freed = s.guard.entries.freed := by
  rw [entries_step_of_full hkeys hfull]
  exact SlotDictionary.keys_remove_insert hkeys hid _

end

/-- What is left out of the last ones of a list without duplicates is its last element. -/
theorem mem_take_pred_iff {l : List String} {c : ℕ} {last id : String} (hl : l.Nodup)
    (hc : l.length = c + 1) (hlast : l.getLast? = some last) (hid : id ∈ l) :
    id ∈ l.take c ↔ id ≠ last := by
  have hsplit : l.take c ++ [last] = l := by
    have hdrop := List.dropLast_append_getLast? last hlast
    rwa [List.dropLast_eq_take, hc, Nat.add_sub_cancel] at hdrop
  rw [← hsplit] at hl hid
  rw [List.nodup_append] at hl
  constructor
  · intro htake heq
    exact hl.2.2 id htake last (List.mem_singleton.mpr rfl) heq
  · intro hne
    exact (List.mem_append.mp hid).resolve_right fun h => hne (List.mem_singleton.mp h)

theorem take_recent_step (hid : r.commandId ∉ s.recent) (c : ℕ) :
    (s.step (.record r)).recent.take (c + 1) = r.commandId :: s.recent.take c := by
  rw [recent_step_of_notMem hid, List.take_succ_cons]

/-- A guard that holds all ids of the session and is full keeps the last ones just when the call
fits its slots. -/
theorem ordered_step_of_full {c : ℕ} (hcapacity : s.guard.capacity = c + 1)
    (many : s.recent.length = s.guard.capacity) (freed : s.guard.entries.freed = [])
    (hfirst : s.guard.entries.keys.head? = s.first?)
    (all : ∀ id, id ∈ s.guard.entries.keys ↔ id ∈ s.recent) :
    (s.FitsSlots (.record r) → (s.step (.record r)).Ordered) ∧
      (¬ s.FitsSlots (.record r) → ∃ id ∈ (s.step (.record r)).recent.take s.guard.capacity,
        id ∉ (s.step (.record r)).guard.entries.keys) := by
  have hcount : s.guard.entries.count = s.recent.length := count_of_all all
  have hfull : s.guard.capacity ≤ s.guard.entries.count := by omega
  obtain ⟨first, rest, hkeys⟩ : ∃ first rest, s.guard.entries.keys = first :: rest := by
    refine List.exists_cons_of_length_pos ?_
    rw [← SlotDictionary.count_eq_length_keys]
    omega
  obtain ⟨hfresh, -⟩ := List.nodup_cons.mp (hkeys ▸ s.guard.entries.nodup_keys)
  have hhead : s.first? = some first := by rw [← hfirst, hkeys, List.head?_cons]
  have hmem : first ∈ s.recent := (all first).mp (hkeys ▸ List.mem_cons_self)
  have hfits : s.FitsSlots (.record r) ↔ r.commandId = first ∨
      (r.commandId ∉ s.recent ∧ s.first? = s.recent.getLast?) := by
    rw [FitsSlots, hhead, Option.some.injEq, eq_comm (a := first)]
    constructor
    · rintro (hless | ⟨-, hor⟩ | ⟨hmore, -⟩)
      · omega
      · exact hor
      · omega
    · exact fun hor => Or.inr (Or.inl ⟨many, hor⟩)
  by_cases hid : r.commandId = first
  · -- the id of the first slot is put back into it
    refine ⟨fun _ => ?_, fun hnot => absurd (hfits.mpr (Or.inl hid)) hnot⟩
    obtain ⟨hkeys', hfreed'⟩ := keys_step_of_full (r := r) hkeys hfull (by rwa [hid])
    have hold : r.commandId ∈ s.recent := hid ▸ hmem
    obtain ⟨r', hr', -⟩ := mem_recent.mp hold
    refine .filling ?_ (hfreed'.trans freed) ?_ fun id => ?_
    · rw [capacity_step, length_recent_step_of_mem hold]
      exact many.le
    · rw [hkeys', first?_step (List.ne_nil_of_mem hr'), hhead, hid, List.head?_cons]
    · rw [hkeys', hid, ← hkeys, all, mem_recent_step]
      exact ⟨Or.inr, fun hor => hor.elim (fun heq => heq ▸ hold) fun h => h⟩
  · have hgone := first_dropped (r := r) hkeys hfull hid
    by_cases hold : r.commandId ∈ s.recent
    · -- as many ids as before, and one of them has been dropped
      refine ⟨fun hfit => ?_, fun _ => ⟨first, ?_, hgone⟩⟩
      · exact absurd hold ((hfits.mp hfit).resolve_left hid).1
      · rw [List.take_of_length_le (by rw [length_recent_step_of_mem hold]; exact many.le),
          mem_recent_step]
        exact Or.inr hmem
    · have hnew : r.commandId ∉ rest := fun h =>
        hold ((all _).mp (hkeys ▸ List.mem_cons_of_mem first h))
      obtain ⟨hkeys', -⟩ := keys_step_of_full hkeys hfull hnew
      obtain ⟨last, hlast⟩ : ∃ last, s.recent.getLast? = some last :=
        ⟨_, List.getLast?_eq_some_getLast (List.ne_nil_of_mem hmem)⟩
      have htake : ∀ id ∈ s.recent, id ∈ s.recent.take c ↔ id ≠ last := fun id hin =>
        mem_take_pred_iff s.recent_nodup (by omega) hlast hin
      refine ⟨fun hfit => ?_, fun hnot => ⟨first, ?_, hgone⟩⟩
      · have hoth := ((hfits.mp hfit).resolve_left hid).2
        rw [hhead, hlast, Option.some.injEq] at hoth
        refine .replacing ?_ ?_ ?_ fun id => ?_
        · rw [capacity_step, recent_step_of_notMem hold, List.length_cons, many]
        · rw [capacity_step, hkeys', List.length_cons, ← List.length_cons (a := first), ← hkeys,
            ← SlotDictionary.count_eq_length_keys, hcount, many]
        · rw [hkeys', recent_step_of_notMem hold, List.head?_cons, List.head?_cons]
        · rw [capacity_step, hcapacity, take_recent_step hold, hkeys', List.mem_cons, List.mem_cons]
          refine Or.imp_right fun hin => ?_
          have hrecent := List.mem_of_mem_take hin
          have hne : id ≠ first := hoth ▸ (htake id hrecent).mp hin
          exact (List.mem_cons.mp (hkeys ▸ (all id).mpr hrecent)).resolve_left hne
      · rw [hcapacity, take_recent_step hold]
        refine List.mem_cons_of_mem _ ((htake first hmem).mpr fun heq => hnot (hfits.mpr ?_))
        exact Or.inr ⟨hold, by rw [hhead, hlast, heq]⟩

/-- Once a key has been replaced, a guard of two ids or more keeps the last ones just as long as
the id recorded last is recorded again. -/
theorem ordered_step_of_replacing (htwo : 2 ≤ s.guard.capacity)
    (more : s.recent.length = s.guard.capacity + 1)
    (count : s.guard.entries.keys.length = s.guard.capacity)
    (hfirst : s.guard.entries.keys.head? = s.recent.head?)
    (kept : ∀ id ∈ s.recent.take s.guard.capacity, id ∈ s.guard.entries.keys) :
    (s.FitsSlots (.record r) → (s.step (.record r)).Ordered) ∧
      (¬ s.FitsSlots (.record r) → ∃ id ∈ (s.step (.record r)).recent.take s.guard.capacity,
        id ∉ (s.step (.record r)).guard.entries.keys) := by
  obtain ⟨first, rest, hkeys⟩ : ∃ first rest, s.guard.entries.keys = first :: rest :=
    List.exists_cons_of_length_pos (by omega)
  have hfull : s.guard.capacity ≤ s.guard.entries.count := by
    rw [SlotDictionary.count_eq_length_keys]
    omega
  obtain ⟨hfresh, -⟩ := List.nodup_cons.mp (hkeys ▸ s.guard.entries.nodup_keys)
  obtain ⟨older, hrecent⟩ : ∃ older, s.recent = first :: older := by
    rw [hkeys, List.head?_cons] at hfirst
    exact List.head?_eq_some_iff.mp hfirst.symm
  have hfits : s.FitsSlots (.record r) ↔ r.commandId = first := by
    rw [FitsSlots, hrecent, List.head?_cons, Option.some.injEq, eq_comm (a := first), ← hrecent]
    constructor
    · rintro (hless | ⟨hequal, -⟩ | ⟨-, hid⟩)
      · omega
      · omega
      · exact hid
    · exact fun hid => Or.inr (Or.inr ⟨by omega, hid⟩)
  by_cases hid : r.commandId = first
  · refine ⟨fun _ => ?_, fun hnot => absurd (hfits.mpr hid) hnot⟩
    obtain ⟨hkeys', -⟩ := keys_step_of_full (r := r) hkeys hfull (by rwa [hid])
    have hsame : (s.step (.record r)).recent = s.recent := by
      have hnodup := s.recent_nodup
      rw [hrecent] at hnodup
      rw [recent_step_record, hid, hrecent, List.filter_cons_of_neg (by simp),
        filter_ne_of_notMem (List.nodup_cons.mp hnodup).1]
    rw [hid, ← hkeys] at hkeys'
    refine .replacing ?_ ?_ ?_ ?_
    · rw [capacity_step, hsame, more]
    · rw [capacity_step, hkeys', count]
    · rw [hkeys', hsame, hfirst]
    · rw [capacity_step, hsame, hkeys']
      exact kept
  · refine ⟨fun hfit => absurd (hfits.mp hfit) hid, fun _ =>
      ⟨first, ?_, first_dropped hkeys hfull hid⟩⟩
    -- the id recorded last before is now the last but one
    obtain ⟨c, hc⟩ : ∃ c, s.guard.capacity = c + 2 := ⟨s.guard.capacity - 2, by omega⟩
    rw [hc, recent_step_record, hrecent, List.filter_cons_of_pos (by simpa using Ne.symm hid)]
    exact List.mem_cons_of_mem _ List.mem_cons_self

/-! ## Whole sessions -/

variable {c : ℕ} {calls pre : List (GuardCall Response)} {call : GuardCall Response}

theorem run_append_singleton (c : ℕ) (pre : List (GuardCall Response))
    (call : GuardCall Response) : run c (pre ++ [call]) = (run c pre).step call := by
  rw [run, run, List.foldl_append, List.foldl_cons, List.foldl_nil]

theorem capacity_run (c : ℕ) (calls : List (GuardCall Response)) :
    (run c calls).guard.capacity = c := by
  induction calls using List.reverseRecOn with
  | nil => rfl
  | append_singleton pre call ih => rw [run_append_singleton, capacity_step, ih]

theorem keeps_run (c : ℕ) (calls : List (GuardCall Response)) : (run c calls).Keeps := by
  induction calls using List.reverseRecOn with
  | nil =>
      refine ⟨Nat.zero_le c, fun id entry h => ?_⟩
      cases h
  | append_singleton pre call ih =>
      rw [run_append_singleton]
      exact keeps_step ih call

/-- A guard of one id or none has nothing to drop but what it may drop. -/
theorem remembers_run_of_small (hc : c ≤ 1) (calls : List (GuardCall Response)) :
    (run c calls).Remembers := by
  rw [remembers_iff (keeps_run c calls), capacity_run]
  induction calls using List.reverseRecOn with
  | nil => exact fun id hid => absurd (List.mem_of_mem_take hid) List.not_mem_nil
  | append_singleton pre call ih =>
      intro id hid
      have hcapacity := capacity_run c pre
      rw [run_append_singleton] at hid ⊢
      cases call with
      | check => exact ih id hid
      | record r =>
          obtain rfl | rfl : c = 0 ∨ c = 1 := by omega
          · cases hid
          · rw [recent_step_record, List.take_succ_cons, List.take_zero,
              List.mem_singleton] at hid
            subst hid
            rcases (run 1 pre).step_record_cases r with
              ⟨-, h⟩ | ⟨first, rest, -, -, h⟩ | ⟨-, hzero, -⟩
            · rw [h, SlotDictionary.mem_keys_insert]
              exact Or.inl rfl
            · rw [h, SlotDictionary.mem_keys_insert]
              exact Or.inl rfl
            · omega

theorem ordered_step (htwo : 2 ≤ s.guard.capacity) (h : s.Ordered) (call : GuardCall Response) :
    (s.FitsSlots call → (s.step call).Ordered) ∧
      (¬ s.FitsSlots call → ∃ id ∈ (s.step call).recent.take s.guard.capacity,
        id ∉ (s.step call).guard.entries.keys) := by
  cases call with
  | check => exact ⟨fun _ => h, fun hnot => absurd trivial hnot⟩
  | record r =>
      cases h with
      | filling few freed first all =>
          rcases few.lt_or_eq with hroom | many
          · exact ⟨fun _ => Ordered.step_of_room hroom freed first all,
              fun hnot => absurd (Or.inl hroom) hnot⟩
          · obtain ⟨c, hc⟩ : ∃ c, s.guard.capacity = c + 1 := ⟨s.guard.capacity - 1, by omega⟩
            exact ordered_step_of_full hc many freed first all
      | replacing more count first kept => exact ordered_step_of_replacing htwo more count first kept

theorem fits_iff_remembers (htwo : 2 ≤ c) (h : (run c pre).Ordered) :
    (run c pre).FitsSlots call ↔ (run c (pre ++ [call])).Remembers := by
  have hcapacity := capacity_run c pre
  obtain ⟨hfits, hnot⟩ := ordered_step (by omega) h call
  rw [remembers_iff (keeps_run c _), run_append_singleton, capacity_step]
  constructor
  · intro hfit
    have hheld := (hfits hfit).held
    rwa [capacity_step] at hheld
  · intro hheld
    by_contra hmiss
    obtain ⟨id, hid, hgone⟩ := hnot hmiss
    exact hgone (hheld id hid)

theorem ordered_run (htwo : 2 ≤ c) (hfits : ∀ pre call, pre ++ [call] <+: calls →
    (run c pre).FitsSlots call) : (run c calls).Ordered := by
  induction calls using List.reverseRecOn with
  | nil => exact .filling (Nat.zero_le _) rfl rfl fun _ => Iff.rfl
  | append_singleton pre call ih =>
      have hpre := ih fun pre' call' h => hfits pre' call' (h.trans (List.prefix_append _ _))
      rw [run_append_singleton]
      exact (ordered_step (by rwa [capacity_run]) hpre call).1 (hfits pre call (List.prefix_refl _))

/-- A guard remembers the last `c` distinct ids throughout a session just when every call fits its
slots. -/
theorem remembers_throughout_iff (c : ℕ) (calls : List (GuardCall Response)) :
    (∀ pre, pre <+: calls → (run c pre).Remembers) ↔
      c ≤ 1 ∨ ∀ pre call, pre ++ [call] <+: calls → (run c pre).FitsSlots call := by
  constructor
  · intro hremembers
    refine (Nat.lt_or_ge 1 c).symm.imp id fun htwo => ?_
    intro pre
    -- every call up to the one in question has fitted, so the guard is still in order there
    induction hlength : pre.length using Nat.strongRec generalizing pre with
    | _ n ih =>
        intro call hprefix
        have hordered : (run c pre).Ordered := by
          refine ordered_run htwo fun pre' call' h => ?_
          have hle := h.length_le
          rw [List.length_append, List.length_singleton] at hle
          exact ih pre'.length (by omega) pre' rfl call'
            (h.trans ((List.prefix_append pre [call]).trans hprefix))
        exact (fits_iff_remembers htwo hordered).mpr (hremembers _ hprefix)
  · rintro (hsmall | hfits) pre hpre
    · exact remembers_run_of_small hsmall pre
    · rcases Nat.lt_or_ge 1 c with htwo | hsmall
      · rw [remembers_iff (keeps_run c pre)]
        exact (ordered_run htwo fun pre' call h => hfits pre' call (h.trans hpre)).held
      · exact remembers_run_of_small hsmall pre

/-! ## An id that is forgotten -/

def sampleHash : PayloadHash := ⟨String.ofList (List.replicate 64 'a'), by decide +kernel⟩

def sampleSession : List (GuardCall ℕ) :=
  ["a", "b", "x", "y"].map fun id => .record ⟨id, sampleHash, 0⟩

/-- Of the last two ids the guard has kept the last one only. -/
theorem forgets_second_last : ¬ ∀ (c : ℕ) (calls pre : List (GuardCall ℕ)), pre <+: calls →
    (run c pre).Remembers := by
  intro h
  obtain ⟨r, -, hanswer⟩ := (h 2 sampleSession _ (List.prefix_refl _)).answers "x" (by decide +kernel)
  have hnone : (run 2 sampleSession).guard.check "x" r.payloadHash = .ok none :=
    ReplayGuard.check_of_notMem (by decide +kernel) _
  rw [hanswer, if_pos rfl] at hnone
  cases hnone

end GuardRun

end AutocadMcp.Host
