import AutocadMcp.Host.CanonicalJson
import AutocadMcp.Lib.Tiling
import Mathlib.Data.List.Induction

/-!
# Reading the events of a document

`DocumentRevisionState` numbers the events of a document and keeps them in batches: an event of
the kind of the last batch that comes soon enough is added to it, also when a reader has been
given the batch already. A reader goes from page to page with the last number it was given.
-/

namespace AutocadMcp.Host

/-! ## The state -/

inductive DocumentEventKind where
  | objectAppended
  | objectModified
  | objectErased
  | documentSaved
  | documentActivated
  | documentClosing
  deriving DecidableEq, Repr

/-- `Kind.ToString().ToLowerInvariant()`. -/
def DocumentEventKind.name : DocumentEventKind → String
  | .objectAppended => "objectappended"
  | .objectModified => "objectmodified"
  | .objectErased => "objecterased"
  | .documentSaved => "documentsaved"
  | .documentActivated => "documentactivated"
  | .documentClosing => "documentclosing"

structure DocumentEventBatch where
  firstSequence : ℤ
  lastSequence : ℤ
  revision : ℤ
  kind : String
  count : ℕ
  handles : List String
  handlesTruncated : Bool
  firstObservedAt : ℤ
  lastObservedAt : ℤ
  deriving DecidableEq

structure DocumentRevisionEvidence where
  revision : ℤ
  eventSequence : ℤ
  revisionStrength : String
  observedAt : ℤ

structure DocumentEventPage where
  revision : DocumentRevisionEvidence
  events : List DocumentEventBatch
  oldestAvailableSequence : ℤ
  eventsTruncated : Bool

def maximumRetainedBatches : ℕ := 256

def maximumHandlesPerBatch : ℕ := 32

/-- A tenth of a second, in the ticks of `DateTimeOffset`. -/
def aggregationWindow : ℤ := 1000000

structure MutableEventBatch where
  firstSequence : ℤ
  lastSequence : ℤ
  revision : ℤ
  kind : DocumentEventKind
  count : ℕ
  handles : List String
  handlesTruncated : Bool
  firstObservedAt : ℤ
  lastObservedAt : ℤ

namespace MutableEventBatch

def addHandle (b : MutableEventBatch) : Option String → MutableEventBatch
  | none => b
  | some handle =>
      if handle = "" ∨ handle ∈ b.handles then b
      else if maximumHandlesPerBatch ≤ b.handles.length then { b with handlesTruncated := true }
      else { b with handles := b.handles ++ [handle] }

/-- The constructor. -/
def new (sequence revision : ℤ) (kind : DocumentEventKind) (observedAt : ℤ)
    (handle : Option String) : MutableEventBatch :=
  addHandle
    { firstSequence := sequence
      lastSequence := sequence
      revision := revision
      kind := kind
      count := 1
      handles := []
      handlesTruncated := false
      firstObservedAt := observedAt
      lastObservedAt := observedAt } handle

def add (b : MutableEventBatch) (sequence revision observedAt : ℤ) (handle : Option String) :
    MutableEventBatch :=
  addHandle
    { b with
      lastSequence := sequence
      revision := revision
      count := b.count + 1
      lastObservedAt := observedAt } handle

def freeze (b : MutableEventBatch) : DocumentEventBatch where
  firstSequence := b.firstSequence
  lastSequence := b.lastSequence
  revision := b.revision
  kind := b.kind.name
  count := b.count
  handles := b.handles
  handlesTruncated := b.handlesTruncated
  firstObservedAt := b.firstObservedAt
  lastObservedAt := b.lastObservedAt

end MutableEventBatch

structure DocumentRevisionState where
  batches : List MutableEventBatch
  revision : ℤ
  eventSequence : ℤ
  suppressionDepth : ℤ

/-- The arguments of `Record`. -/
structure DocumentEvent where
  kind : DocumentEventKind
  observedAt : ℤ
  handle : Option String
  changesContent : Bool

namespace DocumentRevisionState

def new (initialRevision : ℤ) : DocumentRevisionState where
  batches := []
  revision := initialRevision
  eventSequence := 0
  suppressionDepth := 0

/-- Whether an event joins a batch. -/
def joins (b : MutableEventBatch) (e : DocumentEvent) : Bool :=
  b.kind = e.kind && b.lastObservedAt ≤ e.observedAt &&
    e.observedAt - b.lastObservedAt ≤ aggregationWindow

/-- The batches with one more event. -/
def aggregate (batches : List MutableEventBatch) (sequence revision : ℤ) (e : DocumentEvent) :
    List MutableEventBatch :=
  match batches.getLast?.filter fun b => joins b e with
  | some b => batches.dropLast ++ [b.add sequence revision e.observedAt e.handle]
  | none =>
      let batches := batches ++ [.new sequence revision e.kind e.observedAt e.handle]
      if maximumRetainedBatches < batches.length then batches.tail else batches

/-- `Record`. -/
def record (s : DocumentRevisionState) (e : DocumentEvent) : DocumentRevisionState :=
  if 0 < s.suppressionDepth then s
  else
    let sequence := s.eventSequence + 1
    let revision := if e.changesContent then s.revision + 1 else s.revision
    { s with
      batches := aggregate s.batches sequence revision e
      revision := revision
      eventSequence := sequence }

def oldest (s : DocumentRevisionState) : ℤ :=
  match s.batches with
  | [] => s.eventSequence + 1
  | b :: _ => b.firstSequence

/-- `ReadEvents`. -/
def readEvents (s : DocumentRevisionState) (afterSequence maximumEvents observedAt : ℤ) :
    Except ProtocolValidationException DocumentEventPage :=
  if afterSequence < 0 ∨ maximumEvents < 1 ∨ 100 < maximumEvents then
    .error ⟨"invalid_envelope", "Event cursor or page size is outside the allowed range."⟩
  else if 0 < s.batches.length ∧ 0 < afterSequence ∧ afterSequence < s.oldest - 1 then
    .error ⟨"stale_event_cursor", "The event cursor is older than the retained event window."⟩
  else
    let candidates := s.batches.filter fun b => afterSequence < b.lastSequence
    let events := (candidates.take maximumEvents.toNat).map MutableEventBatch.freeze
    .ok {
      revision := ⟨s.revision, s.eventSequence, "event_and_database", observedAt⟩
      events := events
      oldestAvailableSequence := s.oldest
      eventsTruncated := events.length < candidates.length }

end DocumentRevisionState

/-! ## A reader -/

inductive DocumentCall where
  | record (event : DocumentEvent)
  | suppressChanges
  /-- `Dispose` of the suppression that was begun as the `n`-th. -/
  | dispose (n : ℕ)
  | readEvents (maximumEvents observedAt : ℤ)

/-- A document, its suppressions (true while they last) and a reader with the batches that it has
been given. -/
structure DocumentReader where
  state : DocumentRevisionState
  suppressions : List Bool
  cursor : ℤ
  returned : List DocumentEventBatch

namespace DocumentReader

def new (initialRevision : ℤ) : DocumentReader where
  state := .new initialRevision
  suppressions := []
  cursor := 0
  returned := []

/-- The reader goes on from the last number of the last batch it was given. -/
def accept (s : DocumentReader) (page : DocumentEventPage) : DocumentReader :=
  { s with
    cursor := (page.events.getLast?.map DocumentEventBatch.lastSequence).getD s.cursor
    returned := s.returned ++ page.events }

def step (s : DocumentReader) : DocumentCall → DocumentReader
  | .record e => { s with state := s.state.record e }
  | .suppressChanges =>
      { s with
        state := { s.state with suppressionDepth := s.state.suppressionDepth + 1 }
        suppressions := s.suppressions ++ [true] }
  | .dispose n =>
      if s.suppressions[n]? = some true then
        { s with
          state := { s.state with suppressionDepth := s.state.suppressionDepth - 1 }
          suppressions := s.suppressions.set n false }
      else s
  | .readEvents maximumEvents observedAt =>
      match s.state.readEvents s.cursor maximumEvents observedAt with
      | .ok page => s.accept page
      | .error _ => s

def run (initialRevision : ℤ) (calls : List DocumentCall) : DocumentReader :=
  calls.foldl step (new initialRevision)

def Covers (n : ℤ) (b : DocumentEventBatch) : Prop := b.firstSequence ≤ n ∧ n ≤ b.lastSequence

instance (n : ℤ) (b : DocumentEventBatch) : Decidable (Covers n b) :=
  inferInstanceAs (Decidable (_ ∧ _))

/-- The event has been recorded, and no batch has it any more. -/
def Dropped (s : DocumentReader) (n : ℤ) : Prop :=
  1 ≤ n ∧ n ≤ s.state.eventSequence ∧
    ∀ b ∈ s.state.batches, ¬ (b.firstSequence ≤ n ∧ n ≤ b.lastSequence)

def IsPageSize (maximumEvents : ℤ) : Prop := 1 ≤ maximumEvents ∧ maximumEvents ≤ 100

def staleEventCursor : ProtocolValidationException :=
  ⟨"stale_event_cursor", "The event cursor is older than the retained event window."⟩

/-- Nothing is lost and nothing is repeated. -/
structure PagesOnce (s : DocumentReader) : Prop where
  once : ∀ n, 1 ≤ n → n ≤ s.cursor → (s.returned.filter fun b => Covers n b).length = 1
  inOrder : s.returned.Pairwise fun b b' => b.lastSequence < b'.firstSequence
  refuses : ∀ maximumEvents observedAt, IsPageSize maximumEvents →
    (∃ n, s.cursor < n ∧ s.Dropped n) →
      s.state.readEvents s.cursor maximumEvents observedAt = .error staleEventCursor

/-- What the pages of a reader cover. A batch that has grown since it was returned comes once more,
and a reader that has been given nothing yet starts with the oldest batch. -/
structure PagesAll (s : DocumentReader) : Prop where
  covered : ∀ b ∈ s.returned.head?, ∀ n, b.firstSequence ≤ n → n ≤ s.cursor →
    ∃ b' ∈ s.returned, Covers n b'
  inOrder : s.returned.Pairwise fun b b' => b.lastSequence < b'.lastSequence ∧
    (b.firstSequence = b'.firstSequence ∨ b.lastSequence < b'.firstSequence)
  refuses : ∀ maximumEvents observedAt, IsPageSize maximumEvents →
    (s.state.readEvents s.cursor maximumEvents observedAt = .error staleEventCursor ↔
      s.returned ≠ [] ∧ ∃ n, s.cursor < n ∧ s.Dropped n)
  goesOn : ∀ maximumEvents observedAt page,
    s.state.readEvents s.cursor maximumEvents observedAt = .ok page →
      (∀ n, s.cursor < n → page.oldestAvailableSequence ≤ n → n ≤ (s.accept page).cursor →
        ∃ b ∈ page.events, Covers n b) ∧
      (page.eventsTruncated = false → (s.accept page).cursor = s.state.eventSequence)

end DocumentReader

/-! ## Recording -/

namespace MutableEventBatch

variable {b : MutableEventBatch} {sequence revision observedAt : ℤ} {kind : DocumentEventKind}
  {handle : Option String}

theorem addHandle_sequences (b : MutableEventBatch) (handle : Option String) :
    (b.addHandle handle).firstSequence = b.firstSequence ∧
      (b.addHandle handle).lastSequence = b.lastSequence := by
  cases handle with
  | none => exact ⟨rfl, rfl⟩
  | some handle =>
      rw [addHandle]
      split
      · exact ⟨rfl, rfl⟩
      · split <;> exact ⟨rfl, rfl⟩

@[simp] theorem new_firstSequence :
    (new sequence revision kind observedAt handle).firstSequence = sequence :=
  (addHandle_sequences _ handle).1

@[simp] theorem new_lastSequence :
    (new sequence revision kind observedAt handle).lastSequence = sequence :=
  (addHandle_sequences _ handle).2

@[simp] theorem add_firstSequence :
    (b.add sequence revision observedAt handle).firstSequence = b.firstSequence :=
  (addHandle_sequences _ handle).1

@[simp] theorem add_lastSequence :
    (b.add sequence revision observedAt handle).lastSequence = sequence :=
  (addHandle_sequences _ handle).2

end MutableEventBatch

namespace DocumentRevisionState

open MutableEventBatch

variable {batches : List MutableEventBatch} {sequence revision start : ℤ} {e : DocumentEvent}

/-- The batches with one more event: the last one has grown, or there is a new one and the first
may be gone. -/
theorem aggregate_cases (batches : List MutableEventBatch) (sequence revision : ℤ)
    (e : DocumentEvent) :
    (∃ front b, batches = front ++ [b] ∧ aggregate batches sequence revision e =
      front ++ [b.add sequence revision e.observedAt e.handle]) ∨
    (∃ dropped rest, batches = dropped ++ rest ∧ aggregate batches sequence revision e =
      rest ++ [.new sequence revision e.kind e.observedAt e.handle]) := by
  rw [aggregate]
  split
  · rename_i b hlast
    obtain ⟨front, rfl⟩ := List.getLast?_eq_some_iff.mp (Option.eq_some_of_filter_eq_some hlast)
    exact Or.inl ⟨front, b, rfl, by rw [List.dropLast_concat]⟩
  · refine Or.inr ?_
    cases batches with
    | nil => exact ⟨[], [], rfl, rfl⟩
    | cons b rest =>
        by_cases hfull : maximumRetainedBatches < (b :: rest ++
            [MutableEventBatch.new sequence revision e.kind e.observedAt e.handle]).length
        · exact ⟨[b], rest, rfl, if_pos hfull⟩
        · exact ⟨[], b :: rest, rfl, if_neg hfull⟩

theorem tiles_aggregate (revision : ℤ) (e : DocumentEvent)
    (h : Tiles firstSequence lastSequence sequence start batches) :
    ∃ start', start ≤ start' ∧ Tiles firstSequence lastSequence (sequence + 1) start'
      (aggregate batches sequence revision e) := by
  rcases aggregate_cases batches sequence revision e with
    ⟨front, b, rfl, heq⟩ | ⟨dropped, rest, rfl, heq⟩
  · obtain ⟨hfront, hle, hstop⟩ := h.of_append_singleton
    refine ⟨start, le_rfl, ?_⟩
    have hgrown : (b.add sequence revision e.observedAt e.handle).firstSequence ≤
        (b.add sequence revision e.observedAt e.handle).lastSequence := by
      rw [add_firstSequence, add_lastSequence]
      omega
    have htiles := hfront.append_singleton add_firstSequence hgrown
    rw [heq]
    simpa using htiles
  · obtain ⟨start', hle, hrest⟩ := h.of_append
    refine ⟨start', hle, ?_⟩
    have hnew : (MutableEventBatch.new sequence revision e.kind e.observedAt
        e.handle).firstSequence ≤ (MutableEventBatch.new sequence revision e.kind e.observedAt
        e.handle).lastSequence := by
      rw [new_firstSequence, new_lastSequence]
    have htiles := hrest.append_singleton new_firstSequence hnew
    rw [heq]
    simpa using htiles

/-- A batch is one of before, or it ends with the new event: it has grown, or it is new. -/
theorem mem_aggregate {b : MutableEventBatch} (hb : b ∈ aggregate batches sequence revision e) :
    b ∈ batches ∨ (b.lastSequence = sequence ∧
      (b.firstSequence = sequence ∨
        ∃ old, batches.getLast? = some old ∧ old.firstSequence = b.firstSequence)) := by
  rcases aggregate_cases batches sequence revision e with
    ⟨front, last, rfl, heq⟩ | ⟨dropped, rest, rfl, heq⟩
  · rw [heq, List.mem_append, List.mem_singleton] at hb
    rcases hb with hmem | rfl
    · exact Or.inl (List.mem_append_left _ hmem)
    · exact Or.inr ⟨add_lastSequence,
        Or.inr ⟨last, List.getLast?_append_of_ne_nil front (List.cons_ne_nil last []),
          add_firstSequence.symm⟩⟩
  · rw [heq, List.mem_append, List.mem_singleton] at hb
    rcases hb with hmem | rfl
    · exact Or.inl (List.mem_append_right dropped hmem)
    · exact Or.inr ⟨new_lastSequence, Or.inl new_firstSequence⟩

theorem aggregate_ne_nil (batches : List MutableEventBatch) (sequence revision : ℤ)
    (e : DocumentEvent) : aggregate batches sequence revision e ≠ [] := by
  rcases aggregate_cases batches sequence revision e with
    ⟨front, last, -, heq⟩ | ⟨dropped, rest, -, heq⟩
  · rw [heq]
    exact List.append_ne_nil_of_right_ne_nil front (List.cons_ne_nil _ _)
  · rw [heq]
    exact List.append_ne_nil_of_right_ne_nil rest (List.cons_ne_nil _ _)

/-! ## Pages -/

variable {s : DocumentRevisionState} {cursor maximumEvents observedAt stop : ℤ}
  {page : DocumentEventPage}

theorem oldest_eq (h : Tiles firstSequence lastSequence (s.eventSequence + 1) start s.batches) :
    s.oldest = start := by
  rw [oldest]
  cases hbatches : s.batches with
  | nil =>
      rw [hbatches] at h
      exact h.symm
  | cons b rest =>
      rw [hbatches] at h
      exact h.1

theorem readEvents_eq_ok (h : s.readEvents cursor maximumEvents observedAt = .ok page) :
    0 ≤ cursor ∧ 1 ≤ maximumEvents ∧
      (s.batches = [] ∨ cursor ≤ 0 ∨ s.oldest - 1 ≤ cursor) ∧
      page.oldestAvailableSequence = s.oldest ∧
      page.events = (((s.batches.filter fun b => cursor < b.lastSequence).take
        maximumEvents.toNat).map freeze) ∧
      page.eventsTruncated = decide
        (page.events.length < (s.batches.filter fun b => cursor < b.lastSequence).length) := by
  rw [readEvents] at h
  split at h
  · cases h
  · split at h
    · cases h
    · rename_i hvalid hstale
      cases h
      refine ⟨by omega, by omega, ?_, rfl, rfl, rfl⟩
      rcases Nat.eq_zero_or_pos s.batches.length with hnil | hpos
      · exact Or.inl (List.length_eq_zero_iff.mp hnil)
      · omega

/-- The batches of a page follow one another, from the number after the cursor on or from a batch
that has that number. -/
theorem page_tiles (htiles : Tiles firstSequence lastSequence (s.eventSequence + 1) start s.batches)
    (h : s.readEvents cursor maximumEvents observedAt = .ok page) :
    ∃ first stop, Tiles DocumentEventBatch.firstSequence DocumentEventBatch.lastSequence stop first
      page.events ∧ start ≤ first ∧ first ≤ max start (cursor + 1) ∧ stop ≤ s.eventSequence + 1 := by
  obtain ⟨-, -, -, -, hevents, -⟩ := readEvents_eq_ok h
  obtain ⟨first, hcandidates, hlow, hhigh⟩ := htiles.filter_last cursor
  obtain ⟨stop, htaken, hstop⟩ := hcandidates.take maximumEvents.toNat
  refine ⟨first, stop, ?_, hlow, hhigh, hstop⟩
  rw [hevents]
  exact Tiles.map htaken

theorem mem_page {r : DocumentEventBatch} (h : s.readEvents cursor maximumEvents observedAt = .ok page)
    (hr : r ∈ page.events) : ∃ b ∈ s.batches, b.firstSequence = r.firstSequence ∧
      b.lastSequence = r.lastSequence ∧ cursor < r.lastSequence := by
  obtain ⟨-, -, -, -, hevents, -⟩ := readEvents_eq_ok h
  rw [hevents] at hr
  obtain ⟨b, hb, rfl⟩ := List.mem_map.mp hr
  obtain ⟨hmem, hlast⟩ := List.mem_filter.mp (List.mem_of_mem_take hb)
  exact ⟨b, hmem, rfl, rfl, of_decide_eq_true hlast⟩

end DocumentRevisionState

/-! ## What holds between calls -/

namespace DocumentReader

open MutableEventBatch DocumentRevisionState

/-- The batches follow one another up to the last event, and those that the reader has been given
are earlier states of them or come before them. -/
structure Sound (s : DocumentReader) : Prop where
  tiles : ∃ start, 1 ≤ start ∧
    Tiles firstSequence lastSequence (s.state.eventSequence + 1) start s.state.batches
  empty : s.state.batches = [] → s.state.eventSequence = 0
  cursor_nonneg : 0 ≤ s.cursor
  cursor_le : s.cursor ≤ s.state.eventSequence
  started : s.returned = [] ↔ s.cursor = 0
  known : ∀ r ∈ s.returned, 1 ≤ r.firstSequence ∧ r.firstSequence ≤ r.lastSequence ∧
    r.lastSequence ≤ s.cursor
  apart : ∀ r ∈ s.returned, ∀ b ∈ s.state.batches, r.firstSequence = b.firstSequence ∨
    r.lastSequence < b.firstSequence ∨ b.lastSequence < r.firstSequence
  covered : ∀ r ∈ s.returned.head?, ∀ n, r.firstSequence ≤ n → n ≤ s.cursor →
    ∃ r' ∈ s.returned, Covers n r'
  inOrder : s.returned.Pairwise fun b b' => b.lastSequence < b'.lastSequence ∧
    (b.firstSequence = b'.firstSequence ∨ b.lastSequence < b'.firstSequence)

variable {s : DocumentReader} {maximumEvents observedAt : ℤ} {page : DocumentEventPage}

theorem sound_new (initialRevision : ℤ) : (new initialRevision).Sound where
  tiles := ⟨1, le_rfl, rfl⟩
  empty := fun _ => rfl
  cursor_nonneg := le_rfl
  cursor_le := le_rfl
  started := iff_of_true rfl rfl
  known := fun _ h => absurd h List.not_mem_nil
  apart := fun _ h => absurd h List.not_mem_nil
  covered := fun _ h => absurd h (Option.not_mem_none _)
  inOrder := List.Pairwise.nil

theorem Sound.step_record (h : s.Sound) (e : DocumentEvent) : (s.step (.record e)).Sound := by
  by_cases hsuppressed : 0 < s.state.suppressionDepth
  · have hsame : s.step (.record e) = s := by
      show { s with state := s.state.record e } = s
      rw [DocumentRevisionState.record, if_pos hsuppressed]
    rw [hsame]
    exact h
  · have hstate : s.state.record e =
        { s.state with
          batches := aggregate s.state.batches (s.state.eventSequence + 1)
            (if e.changesContent then s.state.revision + 1 else s.state.revision) e
          revision := if e.changesContent then s.state.revision + 1 else s.state.revision
          eventSequence := s.state.eventSequence + 1 } := by
      rw [DocumentRevisionState.record, if_neg hsuppressed]
    obtain ⟨start, hstart, htiles⟩ := h.tiles
    show ({ s with state := s.state.record e } : DocumentReader).Sound
    rw [hstate]
    refine ⟨?_, fun hnil => ?_, h.cursor_nonneg, ?_, h.started, h.known, fun r hr b hb => ?_,
      h.covered, h.inOrder⟩
    · obtain ⟨start', hle, htiles'⟩ :=
        tiles_aggregate (if e.changesContent then s.state.revision + 1 else s.state.revision) e
          htiles
      exact ⟨start', by omega, htiles'⟩
    · exact absurd hnil (aggregate_ne_nil _ _ _ _)
    · have hle := h.cursor_le
      show s.cursor ≤ s.state.eventSequence + 1
      omega
    · -- the number of the new event is later than all that has been returned
      obtain ⟨-, hordered, hlast⟩ := h.known r hr
      have hle := h.cursor_le
      rcases mem_aggregate hb with hmem | ⟨-, hfirst | ⟨old, hold, hfirst⟩⟩
      · exact h.apart r hr b hmem
      · omega
      · have hend := htiles.getLast? hold
        rcases h.apart r hr old (List.mem_of_getLast? hold) with heq | hlt | hlt <;> omega

/-- The cursor after a page is that before it, or the last number of the page. -/
theorem accept_cursor (s : DocumentReader) (page : DocumentEventPage) :
    (page.events = [] ∧ (s.accept page).cursor = s.cursor) ∨
    ∃ last, page.events.getLast? = some last ∧ (s.accept page).cursor = last.lastSequence := by
  cases hlast : page.events.getLast? with
  | none =>
      refine Or.inl ⟨List.getLast?_eq_none_iff.mp hlast, ?_⟩
      rw [accept, hlast]
      rfl
  | some last =>
      refine Or.inr ⟨last, rfl, ?_⟩
      rw [accept, hlast]
      rfl

theorem Sound.accept (h : s.Sound)
    (hread : s.state.readEvents s.cursor maximumEvents observedAt = .ok page) :
    (s.accept page).Sound := by
  obtain ⟨start, hstart, htiles⟩ := h.tiles
  obtain ⟨first, stop, hpage, hlow, hhigh, hstop⟩ := page_tiles htiles hread
  obtain ⟨-, -, hfresh, -, -, -⟩ := readEvents_eq_ok hread
  have hcursor := h.cursor_nonneg
  rcases s.accept_cursor page with ⟨hnil, -⟩ | ⟨last, hlast, hnew⟩
  · have heq : s.accept page = s := by
      rw [DocumentReader.accept, hnil, List.append_nil]
      rfl
    rw [heq]
    exact h
  · have hend := hpage.getLast? hlast
    have hmemLast := List.mem_of_getLast? hlast
    obtain ⟨-, -, -, -, hcursorLast⟩ := mem_page hread hmemLast
    have hbefore : ∀ r ∈ s.returned, ∀ r' ∈ page.events, r.lastSequence < r'.lastSequence ∧
        (r.firstSequence = r'.firstSequence ∨ r.lastSequence < r'.firstSequence) := by
      intro r hr r' hr'
      obtain ⟨b, hb, hfirst, hlastSequence, hcursor'⟩ := mem_page hread hr'
      obtain ⟨-, hordered, hle⟩ := h.known r hr
      have hapart := h.apart r hr b hb
      omega
    refine ⟨⟨start, hstart, htiles⟩, h.empty, ?_, ?_, ?_, ?_, ?_, ?_, ?_⟩
    · omega
    · show (s.accept page).cursor ≤ s.state.eventSequence
      omega
    · refine iff_of_false ?_ (by omega)
      exact List.append_ne_nil_of_right_ne_nil _ (List.ne_nil_of_mem hmemLast)
    · intro r hr
      rcases List.mem_append.mp hr with hold | hpageMem
      · have hknown := h.known r hold
        omega
      · have hbounds := hpage.bounds hpageMem
        omega
    · intro r hr b hb
      rcases List.mem_append.mp hr with hold | hpageMem
      · exact h.apart r hold b hb
      · obtain ⟨b', hb', hfirst, hlastSequence, -⟩ := mem_page hread hpageMem
        have happart := htiles.same_or_apart hb' hb
        omega
    · intro r hr n hfirst hn
      have hpageCovers : ∀ n, first ≤ n → n ≤ (s.accept page).cursor →
          ∃ r' ∈ page.events, Covers n r' := fun n hlow hhigh => hpage.covers hlow (by omega)
      have hreturned : (s.accept page).returned = s.returned ++ page.events := rfl
      rw [hreturned] at hr ⊢
      by_cases hstarted : s.returned = []
      · -- the first page of the reader
        rw [hstarted, List.nil_append] at hr ⊢
        have hhead : r.firstSequence = first := by
          cases hevents : page.events with
          | nil =>
              rw [hevents] at hr
              cases hr
          | cons head rest =>
              rw [hevents] at hr hpage
              obtain rfl : head = r := Option.some.inj hr
              exact hpage.1
        exact hpageCovers n (by omega) hn
      · rw [List.head?_append_of_ne_nil _ hstarted] at hr
        rcases le_or_gt n s.cursor with hseen | hunseen
        · obtain ⟨r', hr', hcovers⟩ := h.covered r hr n hfirst hseen
          exact ⟨r', List.mem_append_left _ hr', hcovers⟩
        · have hpositive : s.cursor ≠ 0 := fun hzero => hstarted (h.started.mpr hzero)
          have hreached : first ≤ s.cursor + 1 := by
            rcases hfresh with hnil | hzero | hstale
            · have hempty := h.empty hnil
              omega
            · omega
            · rw [oldest_eq htiles] at hstale
              rw [max_eq_right (by omega)] at hhigh
              exact hhigh
          obtain ⟨r', hr', hcovers⟩ := hpageCovers n (by omega) hn
          exact ⟨r', List.mem_append_right _ hr', hcovers⟩
    · refine List.pairwise_append.mpr ⟨h.inOrder, ?_, hbefore⟩
      refine hpage.pairwise.imp_of_mem fun hr hr' hlt => ?_
      have hbounds := hpage.bounds hr'
      omega

/-- Suppressions change neither the batches nor the reader. -/
theorem Sound.of_same (h : s.Sound) {s' : DocumentReader}
    (hbatches : s'.state.batches = s.state.batches)
    (hsequence : s'.state.eventSequence = s.state.eventSequence) (hcursor : s'.cursor = s.cursor)
    (hreturned : s'.returned = s.returned) : s'.Sound where
  tiles := by rw [hbatches, hsequence]; exact h.tiles
  empty := by rw [hbatches, hsequence]; exact h.empty
  cursor_nonneg := by rw [hcursor]; exact h.cursor_nonneg
  cursor_le := by rw [hcursor, hsequence]; exact h.cursor_le
  started := by rw [hreturned, hcursor]; exact h.started
  known := by rw [hreturned, hcursor]; exact h.known
  apart := by rw [hreturned, hbatches]; exact h.apart
  covered := by rw [hreturned, hcursor]; exact h.covered
  inOrder := by rw [hreturned]; exact h.inOrder

theorem sound_step (h : s.Sound) (call : DocumentCall) : (s.step call).Sound := by
  cases call with
  | record e => exact h.step_record e
  | suppressChanges => exact h.of_same rfl rfl rfl rfl
  | dispose n =>
      rw [step]
      split
      · exact h.of_same rfl rfl rfl rfl
      · exact h
  | readEvents maximumEvents observedAt =>
      rw [step]
      cases hread : s.state.readEvents s.cursor maximumEvents observedAt with
      | ok page => exact h.accept hread
      | error _ => exact h

theorem sound_run (initialRevision : ℤ) (calls : List DocumentCall) :
    (run initialRevision calls).Sound := by
  induction calls using List.reverseRecOn with
  | nil => exact sound_new initialRevision
  | append_singleton calls call ih =>
      rw [run, List.foldl_append]
      exact sound_step ih call

/-! ## What the pages cover -/

theorem Sound.refuses (h : s.Sound) (hsize : IsPageSize maximumEvents) (observedAt : ℤ) :
    s.state.readEvents s.cursor maximumEvents observedAt = .error staleEventCursor ↔
      s.returned ≠ [] ∧ ∃ n, s.cursor < n ∧ s.Dropped n := by
  obtain ⟨start, hstart, htiles⟩ := h.tiles
  have hcursor := h.cursor_nonneg
  have hvalid : ¬ (s.cursor < 0 ∨ maximumEvents < 1 ∨ 100 < maximumEvents) := by
    have hsize' := hsize
    unfold IsPageSize at hsize'
    omega
  -- the numbers that are gone are those before the first batch
  have hdropped : (∃ n, s.cursor < n ∧ s.Dropped n) ↔ s.cursor + 1 < start := by
    constructor
    · rintro ⟨n, hn, hpositive, hrecorded, hgone⟩
      by_contra hnot
      obtain ⟨b, hb, hcovers⟩ := htiles.covers (n := n) (by omega) (by omega)
      exact hgone b hb hcovers
    · intro hlt
      have hle := htiles.le
      refine ⟨s.cursor + 1, by omega, by omega, by omega, fun b hb hcovers => ?_⟩
      have hbounds := htiles.bounds hb
      omega
  rw [hdropped, Ne, h.started, readEvents, if_neg hvalid, oldest_eq htiles]
  constructor
  · intro hstale
    split at hstale
    · rename_i hcondition
      omega
    · cases hstale
  · rintro ⟨hpositive, hlt⟩
    refine if_pos ⟨?_, by omega, by omega⟩
    rcases Nat.eq_zero_or_pos s.state.batches.length with hnil | hpos
    · have hempty := h.empty (List.length_eq_zero_iff.mp hnil)
      have hle := h.cursor_le
      omega
    · exact hpos

theorem Sound.goesOn (h : s.Sound)
    (hread : s.state.readEvents s.cursor maximumEvents observedAt = .ok page) :
    (∀ n, s.cursor < n → page.oldestAvailableSequence ≤ n → n ≤ (s.accept page).cursor →
      ∃ b ∈ page.events, Covers n b) ∧
    (page.eventsTruncated = false → (s.accept page).cursor = s.state.eventSequence) := by
  obtain ⟨start, hstart, htiles⟩ := h.tiles
  obtain ⟨first, stop, hpage, hlow, hhigh, hstop⟩ := page_tiles htiles hread
  obtain ⟨-, hsize, -, holdest, hevents, htruncated⟩ := readEvents_eq_ok hread
  constructor
  · intro n hcursor hfrom hto
    rw [holdest, oldest_eq htiles] at hfrom
    rcases s.accept_cursor page with ⟨-, hsame⟩ | ⟨last, hlast, hnew⟩
    · omega
    · have hend := hpage.getLast? hlast
      have hmax : max start (s.cursor + 1) ≤ n := max_le hfrom (by omega)
      exact hpage.covers (by omega) (by omega)
  · intro hall
    rw [htruncated, decide_eq_false_iff_not, not_lt] at hall
    have heq : page.events =
        (s.state.batches.filter fun b => s.cursor < b.lastSequence).map freeze := by
      rw [hevents, List.take_of_length_le]
      rw [hevents, List.length_map, List.length_take] at hall
      omega
    obtain ⟨first', hcandidates, -, hfirst'⟩ := htiles.filter_last s.cursor
    have hpage' : Tiles DocumentEventBatch.firstSequence DocumentEventBatch.lastSequence
        (s.state.eventSequence + 1) first' page.events := heq ▸ Tiles.map hcandidates
    rcases s.accept_cursor page with ⟨hnil, hsame⟩ | ⟨last, hlast, hnew⟩
    · -- no batch ends after the cursor
      rw [hsame]
      refine le_antisymm h.cursor_le (not_lt.mp fun hlt => ?_)
      rw [hnil] at hpage'
      have hend : first' = s.state.eventSequence + 1 := hpage'
      have hfar : s.state.eventSequence + 1 ≤ start := by
        rcases le_max_iff.mp (hend ▸ hfirst') with hle | hle
        · exact hle
        · omega
      cases hbatches : s.state.batches with
      | nil =>
          have hempty := h.empty hbatches
          have hcursor := h.cursor_nonneg
          omega
      | cons b rest =>
          have hbounds := htiles.bounds (hbatches ▸ List.mem_cons_self : b ∈ s.state.batches)
          omega
    · have hend := hpage'.getLast? hlast
      omega

/-- In every session, whatever is recorded between the pages of a reader. -/
theorem pagesAll_run (initialRevision : ℤ) (calls : List DocumentCall) :
    (run initialRevision calls).PagesAll := by
  have h := sound_run initialRevision calls
  exact ⟨h.covered, h.inOrder, fun _ observedAt hsize => h.refuses hsize observedAt,
    fun _ _ _ hread => h.goesOn hread⟩

/-! ## A batch that comes twice -/

def sampleEvent (observedAt : ℤ) : DocumentEvent where
  kind := .objectModified
  observedAt := observedAt
  handle := none
  changesContent := true

/-- The second event joins the batch that the reader has been given with the first one. -/
def growingSession : List DocumentCall :=
  [.record (sampleEvent 0), .readEvents 10 0, .record (sampleEvent 100000), .readEvents 10 100000]

/-- As many batches as push the first one out before the reader comes. -/
def lateSession : List DocumentCall :=
  (List.range 257).map fun n => .record (sampleEvent (n * 10000000))

/-- Events that each come long after the one before. -/
def lateEvents (n : ℕ) : List DocumentCall :=
  (List.range n).map fun i : ℕ => .record (sampleEvent (i * 10000000))

theorem lateSession_eq : lateSession = lateEvents 257 := by
  rw [lateSession, bind_pure_comp, List.map_eq_map, List.map_map]
  rfl

def lateBatch (i : ℕ) : MutableEventBatch :=
  .new (i + 1) (i + 2) .objectModified (i * 10000000) none

/-- The batches of the last events, one for each. -/
def lateBatches (n : ℕ) : List MutableEventBatch :=
  (List.range' (n - maximumRetainedBatches) (min n maximumRetainedBatches)).map lateBatch

theorem joins_lateBatches {n : ℕ} {b : MutableEventBatch} (hb : b ∈ lateBatches n) :
    DocumentRevisionState.joins b (sampleEvent (n * 10000000)) = false := by
  obtain ⟨i, hi, rfl⟩ := List.mem_map.mp hb
  have hlt : i < n := by
    rw [List.mem_range'_1] at hi
    omega
  have hold : aggregationWindow < (n : ℤ) * 10000000 - (i : ℤ) * 10000000 := by
    unfold aggregationWindow
    omega
  rw [DocumentRevisionState.joins, Bool.and_eq_false_iff]
  exact Or.inr (decide_eq_false (not_le.mpr hold))

theorem lateBatches_concat (n : ℕ) : lateBatches n ++ [lateBatch n] =
    (List.range' (n - maximumRetainedBatches) (min n maximumRetainedBatches + 1)).map lateBatch := by
  have hend : n - maximumRetainedBatches + min n maximumRetainedBatches = n := by omega
  rw [List.range'_1_concat, List.map_append, hend]
  rfl

theorem aggregate_lateBatches (n : ℕ) :
    DocumentRevisionState.aggregate (lateBatches n) (n + 1) (n + 2)
      (sampleEvent (n * 10000000)) = lateBatches (n + 1) := by
  have halone : ((lateBatches n).getLast?.filter fun b =>
      DocumentRevisionState.joins b (sampleEvent (n * 10000000))) = none := by
    rw [Option.filter_eq_none_iff]
    intro b hb
    rw [joins_lateBatches (List.mem_of_getLast? hb)]
    exact Bool.false_ne_true
  rw [DocumentRevisionState.aggregate, halone]
  show (if maximumRetainedBatches < (lateBatches n ++ [lateBatch n]).length then
    (lateBatches n ++ [lateBatch n]).tail else lateBatches n ++ [lateBatch n]) = _
  rw [lateBatches_concat, List.length_map, List.length_range']
  split
  · -- the oldest batch goes
    rename_i hfull
    have hmin : min n maximumRetainedBatches = maximumRetainedBatches := by omega
    have hstart : n + 1 - maximumRetainedBatches = n - maximumRetainedBatches + 1 := by omega
    have hmin' : min (n + 1) maximumRetainedBatches = maximumRetainedBatches := by omega
    rw [lateBatches, hstart, hmin, hmin', List.range'_succ]
    rfl
  · rename_i hroom
    have hsmall : n < maximumRetainedBatches := by omega
    have hstart : n + 1 - maximumRetainedBatches = n - maximumRetainedBatches := by omega
    have hmin : min (n + 1) maximumRetainedBatches = min n maximumRetainedBatches + 1 := by omega
    rw [lateBatches, hstart, hmin]

theorem run_lateEvents (n : ℕ) : run 1 (lateEvents n) =
    { state := ⟨lateBatches n, n + 1, n, 0⟩, suppressions := [], cursor := 0, returned := [] } := by
  induction n with
  | zero => rfl
  | succ n ih =>
      have hconcat : lateEvents (n + 1) =
          lateEvents n ++ [.record (sampleEvent (n * 10000000))] := by
        rw [lateEvents, List.range_succ, List.map_append]
        rfl
      have hcast : ((n + 1 : ℕ) : ℤ) = n + 1 := Nat.cast_succ n
      rw [hconcat, run, List.foldl_append]
      unfold run at ih
      rw [ih, hcast, ← aggregate_lateBatches n]
      show DocumentReader.mk _ _ _ _ = _
      simp only [DocumentRevisionState.record, sampleEvent, lt_self_iff_false, if_false, if_true,
        add_assoc]
      rfl

/-- The first event is covered twice in one session, and passed over without an error in the
other. -/
theorem not_pagesOnce :
    ¬ (run 1 growingSession).PagesOnce ∧ ¬ (run 1 lateSession).PagesOnce := by
  constructor
  · intro h
    have honce := h.once 1 le_rfl (by decide +kernel)
    exact absurd honce (by decide +kernel)
  · intro h
    have hlate := run_lateEvents 257
    rw [← lateSession_eq] at hlate
    have hdropped : (run 1 lateSession).Dropped 1 := by
      rw [hlate]
      refine ⟨le_rfl, by decide, fun b hb hcovers => ?_⟩
      obtain ⟨i, hi, rfl⟩ := List.mem_map.mp hb
      have hfrom : 1 ≤ i := (List.mem_range'_1.mp hi).1
      have hfirst : (i : ℤ) + 1 ≤ 1 := hcovers.1
      omega
    have hcursor : (run 1 lateSession).cursor = 0 := congrArg DocumentReader.cursor hlate
    -- a reader that has been given nothing is not refused
    have hstale := h.refuses 100 0 ⟨by decide, le_rfl⟩ ⟨1, by omega, hdropped⟩
    rw [hcursor, readEvents, if_neg (by decide), if_neg fun hand => lt_irrefl 0 hand.2.1] at hstale
    cases hstale

end DocumentReader

end AutocadMcp.Host
