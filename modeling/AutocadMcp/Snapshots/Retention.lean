import Mathlib.Algebra.Order.BigOperators.Group.List
import AutocadMcp.Lib.Outputs
import AutocadMcp.Lib.Suffixes
import AutocadMcp.Snapshots.Store

/-!
# What the snapshot store keeps

The store answers as a plain log of all that was added would, of which only the newest part is in
sight: the longest end of the log that is young enough and within both limits. The index of the
artifacts, the count of bytes and the order of evictions do not show.
-/

namespace AutocadMcp.Snapshots

/-! ## The log -/

/-- Snapshots that may be kept together. -/
def Limits.Fits (L : Limits) (now : Instant) (m : List Stored) : Prop :=
  (∀ x ∈ m, L.isExpired now x = false) ∧ m.length ≤ L.maxCount ∧
    (m.map Stored.sizeBytes).sum ≤ L.maxTotalBytes

instance Limits.decidableFits (L : Limits) (now : Instant) : DecidablePred (L.Fits now) :=
  fun _ => inferInstanceAs (Decidable (_ ∧ _ ∧ _))

/-- The part of the log that is in sight. -/
def newest (L : Limits) (now : Instant) (log : List Stored) : List Stored :=
  longestSuffix (L.Fits now) log

/-- What a plain log answers, and the log after the call. -/
def logCall (L : Limits) (log : List Stored) : Call → Answer × List Stored
  | .add record now =>
      let held := newest L now log
      if held.any fun x => x.snapshotId = record.snapshotId then
        (.added (.error (.valueError "snapshot ID already exists")), log)
      else if record.artifact?.any fun artifactId =>
          held.any fun x => x.record.artifact? = some artifactId then
        (.added (.error (.valueError "artifact ID already exists")), log)
      else if L.maxTotalBytes < recordSize record then
        (.added (.error (.full "snapshot exceeds the local store byte limit")), log)
      else (.added (.ok ()), log ++ [⟨record, now, recordSize record⟩])
  | .getSnapshot snapshotId ownerSubject now =>
      (.snapshot (((newest L now log).find? fun x => x.snapshotId = snapshotId).bind fun x =>
        if x.record.ownerSubject = ownerSubject then some x.record else none), log)
  | .getArtifact artifactId ownerSubject now =>
      (.artifact (((newest L now log).find? fun x => x.record.artifact? = some artifactId).bind
        fun x => if x.record.ownerSubject = ownerSubject then x.record.artifactBytes else none), log)
  | .cleanup _ => (.done, log)
  | .snapshotCount now => (.count (newest L now log).length, log)
  | .totalBytes now => (.count (((newest L now log).map Stored.sizeBytes).sum : Nat), log)
  | .artifactCount now =>
      (.count ((newest L now log).filter fun x => x.record.artifact?.isSome).length, log)
  | .clear => (.done, [])

/-! ## The index and the count -/

/-- The entry of the index for a snapshot. -/
def Stored.artifactRow? (x : Stored) : Option ArtifactRow :=
  x.record.artifact?.map fun artifactId => ⟨artifactId, x.snapshotId⟩

/-- The index and the count of bytes are those of the snapshots. -/
structure Coupled (s : Store) : Prop where
  artifacts : s.artifacts.rows = s.snapshots.rows.filterMap Stored.artifactRow?
  bytes : s.totalBytes = ((s.snapshots.rows.map Stored.sizeBytes).sum : Nat)

section

variable {L : Limits} {now : Instant} {s : Store} {x y : Stored} {snapshotId artifactId : String}

theorem artifactRow?_eq_some {row : ArtifactRow} : x.artifactRow? = some row ↔
    x.record.artifact? = some row.artifactId ∧ x.snapshotId = row.snapshotId := by
  unfold Stored.artifactRow?
  rw [Option.map_eq_some_iff]
  constructor
  · rintro ⟨a, ha, rfl⟩
    exact ⟨ha, rfl⟩
  · rintro ⟨ha, hid⟩
    exact ⟨row.artifactId, ha, by rw [hid]⟩

/-- An artifact belongs to one snapshot. -/
theorem Coupled.artifact_unique (h : Coupled s) (hx : x ∈ s.snapshots.rows)
    (hy : y ∈ s.snapshots.rows) (hax : x.record.artifact? = some artifactId)
    (hay : y.record.artifact? = some artifactId) : x = y := by
  have hrow : ∀ z ∈ s.snapshots.rows, z.record.artifact? = some artifactId →
      (⟨artifactId, z.snapshotId⟩ : ArtifactRow) ∈ s.artifacts.rows := by
    intro z hz ha
    rw [h.artifacts]
    exact List.mem_filterMap.mpr ⟨z, hz, artifactRow?_eq_some.mpr ⟨ha, rfl⟩⟩
  have hsame := Table.eq_of_key (hrow x hx hax) (hrow y hy hay) rfl
  exact Table.eq_of_key hx hy (ArtifactRow.mk.inj hsame).2

theorem evict_rows (s : Store) (snapshotId : String) : (s.evict snapshotId).snapshots.rows =
    s.snapshots.rows.filter fun x => x.snapshotId ≠ snapshotId := by
  unfold Store.evict
  split
  · next hnone =>
      symm
      apply List.filter_eq_self.mpr
      intro x hx
      exact decide_eq_true (Table.get?_none hnone hx)
  · show s.snapshots.rows.filter _ = _
    apply List.filter_congr
    intro x _
    exact (decide_not (p := x.snapshotId = snapshotId)).symm

/-- The rows without one of them, and its size. -/
theorem sum_filter_key (hx : x ∈ s.snapshots.rows) :
    ((s.snapshots.rows.filter fun y => y.snapshotId ≠ x.snapshotId).map Stored.sizeBytes).sum +
      x.sizeBytes = (s.snapshots.rows.map Stored.sizeBytes).sum := by
  obtain ⟨before, after, hrows⟩ := List.append_of_mem hx
  have hunique := s.snapshots.unique
  have hothers : ∀ y ∈ before ++ after, y.snapshotId ≠ x.snapshotId := by
    intro y hy
    rw [hrows, List.map_append, List.map_cons] at hunique
    have hnot := (List.nodup_middle.mp hunique)
    rw [List.nodup_cons, ← List.map_append] at hnot
    exact fun heq => hnot.1 (heq ▸ List.mem_map_of_mem hy)
  rw [hrows, List.filter_append, List.filter_cons_of_neg (by simp), ← List.filter_append,
    List.filter_eq_self.mpr fun y hy => decide_eq_true (hothers y hy)]
  simp only [List.map_append, List.map_cons, List.sum_append, List.sum_cons]
  omega

theorem Coupled.evict (h : Coupled s) (snapshotId : String) : Coupled (s.evict snapshotId) := by
  have hrows := evict_rows s snapshotId
  unfold Store.evict at hrows ⊢
  split
  · exact h
  · next stored hget =>
      rw [hget] at hrows
      dsimp only at hrows
      obtain ⟨hmem, rfl⟩ := Table.get?_some hget
      refine ⟨?_, ?_⟩
      · dsimp only
        rw [hrows, List.filterMap_filter]
        cases hartifact : stored.record.artifact? with
        | none =>
            show s.artifacts.rows = _
            rw [h.artifacts]
            apply List.filterMap_congr
            intro y hy
            by_cases hid : y.snapshotId = stored.snapshotId
            · obtain rfl := Table.eq_of_key hy hmem hid
              simp [Stored.artifactRow?, hartifact]
            · simp [hid]
        | some artifactId =>
            show s.artifacts.rows.filter _ = _
            rw [h.artifacts, List.filter_filterMap]
            apply List.filterMap_congr
            intro y hy
            cases hrow : y.artifactRow? with
            | none => simp
            | some row =>
                obtain ⟨ha, hid⟩ := artifactRow?_eq_some.mp hrow
                have hsame : row.artifactId = artifactId ↔ y.snapshotId = stored.snapshotId := by
                  constructor
                  · intro heq
                    rw [heq] at ha
                    rw [h.artifact_unique hy hmem ha hartifact]
                  · intro heq
                    obtain rfl := Table.eq_of_key hy hmem heq
                    rw [hartifact] at ha
                    exact (Option.some.inj ha).symm
                by_cases heq : row.artifactId = artifactId
                · simp [Option.filter, heq, hsame.mp heq]
                · have hother : y.snapshotId ≠ stored.snapshotId := fun h => heq (hsame.mpr h)
                  simp [Option.filter, heq, hother]
      · dsimp only
        rw [hrows, h.bytes, ← sum_filter_key hmem]
        push_cast
        omega

/-! ## Cleaning up -/

theorem foldl_evict_rows (ids : List String) (s : Store) :
    (ids.foldl Store.evict s).snapshots.rows =
      s.snapshots.rows.filter fun x => x.snapshotId ∉ ids := by
  induction ids generalizing s with
  | nil => simp
  | cons id ids ih =>
      rw [List.foldl_cons, ih, evict_rows, List.filter_filter]
      apply List.filter_congr
      intro x _
      simp [not_or, Bool.and_comm]

theorem Coupled.foldl_evict (h : Coupled s) (ids : List String) :
    Coupled (ids.foldl Store.evict s) := by
  induction ids generalizing s with
  | nil => exact h
  | cons id ids ih => exact ih (h.evict id)

theorem cleanup_rows : (s.cleanup L now).snapshots.rows =
    s.snapshots.rows.filter fun x => L.isExpired now x = false := by
  unfold Store.cleanup
  rw [foldl_evict_rows]
  apply List.filter_congr
  intro x hx
  apply decide_eq_decide.mpr
  constructor
  · intro hnot
    cases hexpired : L.isExpired now x with
    | true => exact absurd (List.mem_map_of_mem (List.mem_filter.mpr ⟨hx, hexpired⟩)) hnot
    | false => rfl
  · intro hfresh hmem
    obtain ⟨y, hy, hid⟩ := List.mem_map.mp hmem
    obtain ⟨hy, hexpired⟩ := List.mem_filter.mp hy
    obtain rfl := Table.eq_of_key hy hx hid
    rw [hfresh] at hexpired
    cases hexpired

theorem Coupled.cleanup (h : Coupled s) : Coupled (s.cleanup L now) := h.foldl_evict _

/-! ## Making room -/

/-- There is room beside these snapshots. -/
def Limits.Room (L : Limits) (size : Nat) (m : List Stored) : Prop :=
  m.length < L.maxCount ∧ (m.map Stored.sizeBytes).sum + size ≤ L.maxTotalBytes

instance Limits.decidableRoom (L : Limits) (size : Nat) : DecidablePred (L.Room size) :=
  fun _ => inferInstanceAs (Decidable (_ ∧ _))

theorem Coupled.hasRoom (h : Coupled s) (size : Nat) :
    s.hasRoom L size = true ↔ L.Room size s.snapshots.rows := by
  unfold Store.hasRoom Limits.Room
  rw [Bool.and_eq_true, decide_eq_true_eq, decide_eq_true_eq, h.bytes]
  norm_cast

/-- The oldest snapshots go until there is room. -/
theorem Coupled.makeRoom (h : Coupled s) (L : Limits) (size : Nat) {fuel : Nat}
    (hfuel : s.snapshots.rows.length ≤ fuel) :
    Coupled (s.makeRoom L size fuel) ∧ (s.makeRoom L size fuel).snapshots.rows =
      longestSuffix (L.Room size) s.snapshots.rows := by
  induction fuel generalizing s with
  | zero =>
      have hnil : s.snapshots.rows = [] := List.length_eq_zero_iff.mp (Nat.le_zero.mp hfuel)
      refine ⟨h, ?_⟩
      show s.snapshots.rows = _
      rw [hnil]
      rfl
  | succ fuel ih =>
      unfold Store.makeRoom
      split
      · next hnil =>
          refine ⟨h, ?_⟩
          rw [hnil]
          rfl
      · next oldest rest hrows =>
          by_cases hroom : s.hasRoom L size = true
          · rw [if_pos hroom]
            refine ⟨h, ?_⟩
            have hfits := (h.hasRoom size).mp hroom
            rw [hrows] at hfits ⊢
            exact (if_pos hfits).symm
          · rw [if_neg hroom]
            have hfull : ¬ L.Room size (oldest :: rest) := by
              rw [← hrows]
              exact fun hfits => hroom ((h.hasRoom size).mpr hfits)
            have hevicted : (s.evict oldest.snapshotId).snapshots.rows = rest := by
              have hunique := s.snapshots.unique
              rw [hrows, List.map_cons, List.nodup_cons] at hunique
              rw [evict_rows, hrows, List.filter_cons_of_neg (by simp)]
              apply List.filter_eq_self.mpr
              intro y hy
              exact decide_eq_true fun heq => hunique.1 (heq ▸ List.mem_map_of_mem hy)
            have hlength : (s.evict oldest.snapshotId).snapshots.rows.length ≤ fuel := by
              rw [hevicted]
              rw [hrows] at hfuel
              exact Nat.le_of_succ_le_succ hfuel
            obtain ⟨hcoupled, hrest⟩ := ih (h.evict oldest.snapshotId) hlength
            refine ⟨hcoupled, ?_⟩
            rw [hrest, hevicted, hrows]
            exact (if_neg hfull).symm

/-! ## The store and the log -/

/-- The store holds the part of the log that was in sight at the time of its last call. -/
structure Follows (L : Limits) (now : Instant) (log : List Stored) (s : Store) : Prop where
  coupled : Coupled s
  rows : s.snapshots.rows = newest L now log
  ordered : log.Pairwise fun a b => a.createdAt ≤ b.createdAt
  past : ∀ x ∈ log, x.createdAt ≤ now

theorem fits_nil : L.Fits now [] := ⟨nofun, Nat.zero_le _, Nat.zero_le _⟩

theorem follows_empty : Follows L now [] .empty := ⟨⟨rfl, rfl⟩, rfl, .nil, nofun⟩

theorem fits_of_sublist {m l : List Stored} (h : L.Fits now l) (hm : m.Sublist l) :
    L.Fits now m := by
  obtain ⟨hfresh, hcount, hbytes⟩ := h
  have hsum := (hm.map Stored.sizeBytes).sum_le_sum fun n _ => Nat.zero_le n
  exact ⟨fun x hx => hfresh x (hm.subset hx), hm.length_le.trans hcount, hsum.trans hbytes⟩

/-- What expired stays expired. -/
theorem isExpired_mono {later : Instant} (hle : now ≤ later) (h : L.isExpired later x = false) :
    L.isExpired now x = false := by
  unfold Limits.isExpired at *
  rw [decide_eq_false_iff_not] at *
  intro hexpired
  exact h (Nat.le_trans hexpired (Nat.sub_le_sub_right hle _))

theorem isExpired_of_older (hle : x.createdAt ≤ y.createdAt) (h : L.isExpired now x = false) :
    L.isExpired now y = false := by
  unfold Limits.isExpired at *
  rw [decide_eq_false_iff_not] at *
  intro hexpired
  exact h (Nat.le_trans hexpired (Nat.sub_le_sub_left hle _))

/-- A cleanup brings the store to the present. -/
theorem Follows.cleanup {log : List Stored} {t : Instant} (h : Follows L t log s) (hle : t ≤ now) :
    Follows L now log (s.cleanup L now) := by
  refine ⟨h.coupled.cleanup, ?_, h.ordered, fun x hx => Nat.le_trans (h.past x hx) hle⟩
  have hsuffix : newest L t log <:+ log := longestSuffix_suffix _ _
  have hfits : L.Fits t (newest L t log) := longestSuffix_spec fits_nil log
  have hsorted : (newest L t log).Pairwise fun a b =>
      L.isExpired now a = false → L.isExpired now b = false :=
    (h.ordered.sublist hsuffix.sublist).imp fun hab => isExpired_of_older hab
  calc (s.cleanup L now).snapshots.rows
      = (newest L t log).filter fun x => L.isExpired now x = false := by rw [cleanup_rows, h.rows]
    _ = longestSuffix (fun m => ∀ x ∈ m, L.isExpired now x = false) (newest L t log) :=
        (longestSuffix_all hsorted).symm
    _ = longestSuffix (L.Fits now) (newest L t log) := by
        apply longestSuffix_congr
        intro m hm
        have hlimits := fits_of_sublist hfits hm.sublist
        exact ⟨fun hfresh => ⟨hfresh, hlimits.2⟩, fun hm => hm.1⟩
    _ = newest L now log :=
        longestSuffix_of_imp fits_nil fun m hm =>
          ⟨fun x hx => isExpired_mono hle (hm.1 x hx), hm.2⟩

/-- The room for a snapshot is what may be kept together with it. -/
theorem room_iff_fits {m : List Stored} (hfresh : ∀ y ∈ m, L.isExpired now y = false)
    (hx : L.isExpired now x = false) : L.Room x.sizeBytes m ↔ L.Fits now (m ++ [x]) := by
  have hall : ∀ y ∈ m ++ [x], L.isExpired now y = false := by
    intro y hy
    rcases List.mem_append.mp hy with hy | hy
    · exact hfresh y hy
    · rw [List.mem_singleton.mp hy]
      exact hx
  unfold Limits.Room Limits.Fits
  simp only [List.length_append, List.length_singleton, List.map_append, List.map_singleton,
    List.sum_append, List.sum_singleton]
  constructor
  · rintro ⟨hcount, hbytes⟩
    exact ⟨hall, by omega, hbytes⟩
  · rintro ⟨-, hcount, hbytes⟩
    exact ⟨by omega, hbytes⟩

theorem stored_rows (s : Store) {record : SnapshotRecord} (now : Instant) (size : Nat)
    (hfree : s.snapshots.get? record.snapshotId = none) :
    (s.stored record now size).snapshots.rows = s.snapshots.rows ++ [⟨record, now, size⟩] :=
  Table.rows_put_of_none hfree

theorem Coupled.stored (h : Coupled s) {record : SnapshotRecord} {size : Nat}
    (hfree : s.snapshots.get? record.snapshotId = none)
    (hartifact : ∀ a, record.artifact? = some a → s.artifacts.get? a = none) :
    Coupled (s.stored record now size) := by
  have hrows := stored_rows s now size hfree
  refine ⟨?_, ?_⟩
  · rw [hrows, List.filterMap_append, ← h.artifacts]
    unfold Store.stored
    cases ha : record.artifact? with
    | none => simp [Stored.artifactRow?, ha]
    | some a =>
        dsimp only
        rw [Table.rows_put_of_none (hartifact a ha)]
        simp [Stored.artifactRow?, ha, Stored.snapshotId]
  · rw [hrows]
    show s.totalBytes + size = _
    rw [h.bytes, List.map_append, List.sum_append]
    simp

/-- A snapshot that is not too large is stored, after the oldest ones have made room. -/
theorem Follows.store {log : List Stored} (h : Follows L now log s) {record : SnapshotRecord}
    (hfree : s.snapshots.get? record.snapshotId = none)
    (hartifact : ∀ a, record.artifact? = some a → s.artifacts.get? a = none)
    (hsize : ¬ L.maxTotalBytes < recordSize record) :
    let room := s.makeRoom L (recordSize record) s.snapshots.rows.length
    room.hasRoom L (recordSize record) = true ∧
      Follows L now (log ++ [⟨record, now, recordSize record⟩])
        (room.stored record now (recordSize record)) := by
  intro room
  obtain ⟨hcoupled, hrows⟩ := h.coupled.makeRoom L (recordSize record) le_rfl
  change Coupled room at hcoupled
  change room.snapshots.rows = _ at hrows
  have hsuffix : room.snapshots.rows <:+ s.snapshots.rows := by
    rw [hrows]
    exact longestSuffix_suffix _ _
  have hempty : L.Room (recordSize record) [] :=
    ⟨L.count_pos, by simpa using Nat.not_lt.mp hsize⟩
  have hfree' : room.snapshots.get? record.snapshotId = none := by
    apply List.find?_eq_none.mpr
    intro x hx
    exact List.find?_eq_none.mp hfree x (hsuffix.subset hx)
  have hartifact' : ∀ a, record.artifact? = some a → room.artifacts.get? a = none := by
    intro a ha
    apply List.find?_eq_none.mpr
    intro row hrow
    have hbefore := List.find?_eq_none.mp (hartifact a ha)
    rw [h.coupled.artifacts] at hbefore
    rw [hcoupled.artifacts] at hrow
    exact hbefore row ((hsuffix.sublist.filterMap _).subset hrow)
  have hnew : L.isExpired now ⟨record, now, recordSize record⟩ = false := by
    have hpos := L.ttl_pos
    unfold Limits.isExpired
    rw [decide_eq_false_iff_not]
    dsimp only
    omega
  refine ⟨?_, hcoupled.stored hfree' hartifact', ?_, ?_, ?_⟩
  · rw [hcoupled.hasRoom, hrows]
    exact longestSuffix_spec hempty _
  · have hone : L.Fits now [⟨record, now, recordSize record⟩] := by
      have hfits := (room_iff_fits (m := []) nofun hnew).mp hempty
      exact hfits
    rw [stored_rows room now _ hfree', hrows, h.rows]
    show _ = newest L now (log ++ [_])
    unfold newest
    rw [longestSuffix_concat hone]
    congr 1
    have hbefore : L.Fits now (longestSuffix (L.Fits now) log) := longestSuffix_spec fits_nil log
    rw [← longestSuffix_of_imp (p := L.Fits now) (l := log) hone fun m hm =>
      fits_of_sublist hm (List.sublist_append_left m [_])]
    apply longestSuffix_congr
    intro m hm
    exact room_iff_fits (fun y hy => hbefore.1 y (hm.subset hy)) hnew
  · rw [List.pairwise_append]
    refine ⟨h.ordered, List.pairwise_singleton _ _, ?_⟩
    intro x hx y hy
    rw [List.mem_singleton.mp hy]
    exact h.past x hx
  · intro x hx
    rcases List.mem_append.mp hx with hx | hx
    · exact h.past x hx
    · rw [List.mem_singleton.mp hx]

/-! ## Answers -/

theorem Follows.get_snapshot {log : List Stored} (h : Follows L now log s) :
    s.snapshots.get? snapshotId = (newest L now log).find? fun x => x.snapshotId = snapshotId := by
  rw [← h.rows]
  rfl

/-- The index finds the snapshot that has the artifact. -/
theorem Coupled.get_artifact (h : Coupled s) : s.artifacts.get? artifactId =
    (s.snapshots.rows.find? fun x => x.record.artifact? = some artifactId).map
      fun x => ⟨artifactId, x.snapshotId⟩ := by
  show s.artifacts.rows.find? _ = _
  rw [h.artifacts, List.find?_filterMap]
  have hsame : (fun x : Stored => x.artifactRow?.any fun row => row.artifactId = artifactId) =
      fun x => decide (x.record.artifact? = some artifactId) := by
    funext x
    unfold Stored.artifactRow?
    cases x.record.artifact? with
    | none => simp
    | some a => simp
  rw [hsame]
  cases hfound : s.snapshots.rows.find? fun x => x.record.artifact? = some artifactId with
  | none => rfl
  | some x =>
      have ha : x.record.artifact? = some artifactId := by simpa using List.find?_some hfound
      exact artifactRow?_eq_some.mpr ⟨ha, rfl⟩

theorem artifactId_of_artifact? {record : SnapshotRecord}
    (h : record.artifact? = some artifactId) : record.artifactId = some artifactId :=
  (Option.filter_eq_some_iff.mp h).1

variable {log : List Stored}

/-- The answer to a lookup of an artifact, and of a snapshot. -/
theorem Follows.getArtifact_answer (h : Follows L now log (s.cleanup L now)) {owner : String} :
    (s.getArtifact L artifactId owner now).1 =
      ((newest L now log).find? fun x => x.record.artifact? = some artifactId).bind fun x =>
        if x.record.ownerSubject = owner then x.record.artifactBytes else none := by
  unfold Store.getArtifact
  dsimp only
  rw [h.coupled.get_artifact, ← h.rows]
  cases hfound : (s.cleanup L now).snapshots.rows.find?
      fun x => x.record.artifact? = some artifactId with
  | none => rfl
  | some x =>
      have ha : x.record.artifact? = some artifactId := by simpa using List.find?_some hfound
      have hget := Table.get?_of_mem (List.mem_of_find?_eq_some hfound)
      simp only [Option.map_some, Option.bind_some]
      rw [show (s.cleanup L now).snapshots.get? x.snapshotId = some x from hget]
      simp [artifactId_of_artifact? ha]

theorem Follows.getSnapshot_answer (h : Follows L now log (s.cleanup L now)) {owner : String} :
    (s.getSnapshot L snapshotId owner now).1 =
      ((newest L now log).find? fun x => x.snapshotId = snapshotId).bind fun x =>
        if x.record.ownerSubject = owner then some x.record else none := by
  unfold Store.getSnapshot
  dsimp only
  rw [h.get_snapshot]
  cases (newest L now log).find? fun x => x.snapshotId = snapshotId with
  | none => rfl
  | some x => rfl

theorem getArtifact_store {owner : String} :
    (s.getArtifact L artifactId owner now).2 = s.cleanup L now := by
  unfold Store.getArtifact
  dsimp only
  split
  · rfl
  · split <;> rfl

theorem getSnapshot_store {owner : String} :
    (s.getSnapshot L snapshotId owner now).2 = s.cleanup L now := by
  unfold Store.getSnapshot
  dsimp only
  split <;> rfl

/-- An addition answers and stores as the log says. -/
theorem Follows.add (h : Follows L now log (s.cleanup L now)) (record : SnapshotRecord) :
    Answer.added (s.add L record now).1 = (logCall L log (.add record now)).1 ∧
      Follows L now (logCall L log (.add record now)).2 (s.add L record now).2 := by
  have hid : ((s.cleanup L now).snapshots.get? record.snapshotId).isSome =
      (newest L now log).any fun x => x.snapshotId = record.snapshotId := by
    rw [h.get_snapshot, List.isSome_find?]
  have hartifact : (record.artifact?.any fun a => ((s.cleanup L now).artifacts.get? a).isSome) =
      record.artifact?.any fun a =>
        (newest L now log).any fun x => x.record.artifact? = some a := by
    congr 1
    funext a
    rw [h.coupled.get_artifact, Option.isSome_map, List.isSome_find?, h.rows]
  unfold Store.add logCall
  dsimp only
  rw [hid, hartifact]
  split
  · exact ⟨rfl, h⟩
  · next hnew =>
      split
      · exact ⟨rfl, h⟩
      · next hfree =>
          split
          · exact ⟨rfl, h⟩
          · next hsize =>
              rw [← hid, Option.not_isSome_iff_eq_none] at hnew
              rw [← hartifact] at hfree
              have hnone : ∀ a, record.artifact? = some a →
                  (s.cleanup L now).artifacts.get? a = none := by
                intro a ha
                rw [ha] at hfree
                exact Option.not_isSome_iff_eq_none.mp hfree
              obtain ⟨hroom, hfollows⟩ := h.store hnew hnone hsize
              rw [if_pos hroom]
              exact ⟨rfl, hfollows⟩

/-- **Each call of the store answers as the log does**, and they stay together. -/
theorem Follows.call {t : Instant} (h : Follows L t log s) (c : Call)
    (hc : ∀ now ∈ c.now?, t ≤ now) :
    (s.call L c).1 = (logCall L log c).1 ∧
      Follows L (c.now?.getD t) (logCall L log c).2 (s.call L c).2 := by
  cases c with
  | add record now => exact (h.cleanup (hc now rfl)).add record
  | getSnapshot snapshotId owner now =>
      have hclean := h.cleanup (hc now rfl)
      refine ⟨congrArg Answer.snapshot hclean.getSnapshot_answer, ?_⟩
      show Follows L now log (s.getSnapshot L snapshotId owner now).2
      rw [getSnapshot_store]
      exact hclean
  | getArtifact artifactId owner now =>
      have hclean := h.cleanup (hc now rfl)
      refine ⟨congrArg Answer.artifact hclean.getArtifact_answer, ?_⟩
      show Follows L now log (s.getArtifact L artifactId owner now).2
      rw [getArtifact_store]
      exact hclean
  | cleanup now => exact ⟨rfl, h.cleanup (hc now rfl)⟩
  | snapshotCount now =>
      have hclean := h.cleanup (hc now rfl)
      refine ⟨?_, hclean⟩
      show Answer.count ((s.cleanup L now).snapshots.rows.length : Int) = _
      rw [hclean.rows]
      rfl
  | totalBytes now =>
      have hclean := h.cleanup (hc now rfl)
      refine ⟨?_, hclean⟩
      show Answer.count (s.cleanup L now).totalBytes = _
      rw [hclean.coupled.bytes, hclean.rows]
      rfl
  | artifactCount now =>
      have hclean := h.cleanup (hc now rfl)
      refine ⟨?_, hclean⟩
      show Answer.count ((s.cleanup L now).artifacts.rows.length : Int) = _
      rw [hclean.coupled.artifacts, hclean.rows, List.length_filterMap_eq_countP,
        List.countP_eq_length_filter]
      simp [logCall, Stored.artifactRow?]
  | clear => exact ⟨rfl, ⟨rfl, rfl⟩, rfl, .nil, nofun⟩

end

/-! ## Runs -/

/-- The answers to some calls in their order. -/
def answers {σ : Type} (call : σ → Call → Answer × σ) : σ → List Call → List Answer :=
  outputs (fun s c => (call s c).2) fun s c => [(call s c).1]

/-- The log after some calls. -/
def logAfter (L : Limits) (calls : List Call) : List Stored :=
  runFrom (fun log c => (logCall L log c).2) [] calls

theorem run_follows {L : Limits} {t : Instant} {log : List Stored} {s : Store}
    (h : Follows L t log s) {calls : List Call}
    (hclock : (t :: calls.filterMap Call.now?).Pairwise (· ≤ ·)) :
    answers (Store.call L) s calls = answers (logCall L) log calls ∧
      ∃ now, Follows L now (runFrom (fun log c => (logCall L log c).2) log calls)
        (runFrom (fun s c => (s.call L c).2) s calls) := by
  induction calls generalizing t log s with
  | nil => exact ⟨rfl, t, h⟩
  | cons c calls ih =>
      have hnow : ∀ now ∈ c.now?, t ≤ now := by
        intro now hmem
        have hfirst := (List.pairwise_cons.mp hclock).1
        apply hfirst
        rw [List.filterMap_cons, hmem]
        exact List.mem_cons_self
      obtain ⟨hanswer, hfollows⟩ := h.call c hnow
      have hrest : (c.now?.getD t :: calls.filterMap Call.now?).Pairwise (· ≤ ·) := by
        rw [List.filterMap_cons] at hclock
        cases hc : c.now? with
        | none =>
            rw [hc] at hclock
            exact hclock
        | some now =>
            rw [hc] at hclock
            exact (List.pairwise_cons.mp hclock).2
      obtain ⟨hanswers, hlast⟩ := ih hfollows hrest
      refine ⟨?_, hlast⟩
      unfold answers at *
      rw [outputs, outputs, hanswer, hanswers]

/-- **The store answers as its log.** While the clock does not go back, every call has the answer
that the log of all additions gives, and the store holds an end of the log that is within both
limits. -/
theorem store_answers_as_log (L : Limits) (calls : List Call)
    (hclock : (calls.filterMap Call.now?).Pairwise (· ≤ ·)) :
    answers (Store.call L) .empty calls = answers (logCall L) [] calls ∧
      (Store.after L calls).snapshots.rows <:+ logAfter L calls ∧
      (Store.after L calls).snapshots.rows.length ≤ L.maxCount ∧
      (Store.after L calls).totalBytes ≤ L.maxTotalBytes := by
  have hstart : (0 :: calls.filterMap Call.now?).Pairwise (· ≤ ·) :=
    List.pairwise_cons.mpr ⟨fun now _ => Nat.zero_le now, hclock⟩
  obtain ⟨hanswers, now, hfollows⟩ := run_follows (follows_empty (L := L)) hstart
  refine ⟨hanswers, ?_⟩
  change Follows L now (logAfter L calls) (Store.after L calls) at hfollows
  have hfits : L.Fits now (Store.after L calls).snapshots.rows := by
    rw [hfollows.rows]
    exact longestSuffix_spec fits_nil _
  refine ⟨?_, hfits.2.1, ?_⟩
  · rw [hfollows.rows]
    exact longestSuffix_suffix _ _
  · rw [hfollows.coupled.bytes]
    exact_mod_cast hfits.2.2

/-- Two snapshots for ten seconds. -/
def sampleLimits : Limits := ⟨10, 2, 10000, by decide, by decide, by decide⟩

def sampleRecord (snapshotId : String) : SnapshotRecord where
  snapshotId := snapshotId
  ownerSubject := "owner"
  deviceId := "local"
  documentRevision := "r1"
  observationLevel := "summary"
  drawing := .object []
  entitySummary := [("LINE", 1)]
  entities := [⟨"1", "LINE", "0", .object []⟩]
  artifactId := none
  artifactBytes := none

def sampleCalls : List Call :=
  [.add (sampleRecord "a") 1, .add (sampleRecord "b") 2, .add (sampleRecord "c") 3,
    .getSnapshot "a" "owner" 4, .getSnapshot "c" "owner" 12, .snapshotCount 13]

theorem store_answers_as_log_sample :
    answers (Store.call sampleLimits) .empty sampleCalls =
        answers (logCall sampleLimits) [] sampleCalls ∧
      (Store.after sampleLimits sampleCalls).snapshots.rows <:+ logAfter sampleLimits sampleCalls ∧
      (Store.after sampleLimits sampleCalls).snapshots.rows.length ≤ sampleLimits.maxCount ∧
      (Store.after sampleLimits sampleCalls).totalBytes ≤ sampleLimits.maxTotalBytes :=
  store_answers_as_log sampleLimits sampleCalls (by decide)

end AutocadMcp.Snapshots
