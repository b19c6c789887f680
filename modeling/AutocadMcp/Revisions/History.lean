import AutocadMcp.Revisions.Repository

/-!
# The history of revisions and conflicts

In every sequence of calls the revisions of a program are numbered without a gap and
name earlier ones, and a conflict report is closed once, by a resolution of its
candidate or by being abandoned. A plan is sealed past an open report only when the
query of `_has_open_conflict` comes upon a closed one first.
-/

namespace AutocadMcp.Revisions

open Gateway (Failure conflict)

section

variable {W : World} {s s' : Store}

/-! ## What the operations do -/

theorem insertRevision_ok {r : RevisionRow} (h : s.insertRevision r = .ok s') :
    ∃ revisions, s.revisions.insert r = some revisions ∧ s' = { s with revisions := revisions } := by
  obtain ⟨_, -, h⟩ := bind_eq_ok.mp h
  obtain ⟨_, -, h⟩ := bind_eq_ok.mp h
  obtain ⟨_, -, h⟩ := bind_eq_ok.mp h
  obtain ⟨_, -, h⟩ := bind_eq_ok.mp h
  split at h
  · rename_i revisions hinsert
    cases h
    exact ⟨revisions, hinsert, rfl⟩
  · cases h

theorem requireProgram_ok {now : String} {kind : LineageKind} {a : CreateRevision}
    (h : s.requireProgram now kind a = .ok s') :
    ∃ programs, s' = { s with programs := programs } := by
  unfold Store.requireProgram at h
  split at h
  · obtain ⟨_, -, h⟩ := bind_eq_ok.mp h
    obtain ⟨_, -, h⟩ := bind_eq_ok.mp h
    split at h
    · rename_i programs _
      cases h
      exact ⟨programs, rfl⟩
    · cases h
  · obtain ⟨_, -, h⟩ := bind_eq_ok.mp h
    cases h
    exact ⟨s.programs, rfl⟩

/-- What is stored is what the call asks for. -/
theorem revisionRequest_ok {now : String} {a : CreateRevision} {r : RevisionRow}
    (h : revisionRequest W now a = .ok r) :
    r.programId = a.programId ∧ r.revision = a.revision ∧ r.ownerSubject = a.ownerSubject ∧
      r.parentRevision = a.parentRevision ∧ r.baseRevision = a.baseRevision := by
  unfold revisionRequest at h
  iterate 9 obtain ⟨_, -, h⟩ := bind_eq_ok.mp h
  iterate 3 obtain ⟨_, -, h⟩ := bind_eq_ok.mp h
  cases h
  exact ⟨rfl, rfl, rfl, rfl, rfl⟩

/-- A new revision of the tables: the next number, with parents that are there. -/
structure Appends (s : Store) (r : RevisionRow) (s' : Store) : Prop where
  next : r.revision = s.latestRevision r.programId + 1
  parents : ∀ required ∈ r.parentRevision.toList ++ r.baseRevision.toList,
    (s.revisionRow r.ownerSubject r.programId required).isSome = true
  stored : ∃ programs revisions, s.revisions.insert r = some revisions ∧
    s' = { s with programs := programs, revisions := revisions }

theorem createRevision_ok {now : String} {a : CreateRevision} {out : RevisionRow × Bool}
    (h : createRevision W now s a = .ok (out, s')) : s' = s ∨ ∃ r, Appends s r s' := by
  obtain ⟨r, hr, h⟩ := bind_eq_ok.mp h
  obtain ⟨hprogram, hrevision, howner, hparent, hbase⟩ := revisionRequest_ok hr
  split at h
  · obtain ⟨_, -, h⟩ := bind_eq_ok.mp h
    cases h
    exact Or.inl rfl
  · obtain ⟨⟨row, stored⟩, happend, h⟩ := bind_eq_ok.mp h
    cases h
    right
    obtain ⟨_, -, happend⟩ := bind_eq_ok.mp happend
    obtain ⟨t, ht, happend⟩ := bind_eq_ok.mp happend
    obtain ⟨programs, rfl⟩ := requireProgram_ok ht
    obtain ⟨_, hnext, happend⟩ := bind_eq_ok.mp happend
    obtain ⟨_, hparents, happend⟩ := bind_eq_ok.mp happend
    split at happend
    · rename_i inserted hinsert
      cases happend
      obtain ⟨revisions, hrevisions, rfl⟩ := insertRevision_ok hinsert
      refine ⟨r, ?_, ?_, ⟨programs, revisions, hrevisions, rfl⟩⟩
      · rw [hrevision, hprogram]
        exact check_eq_ok.mp hnext
      · rw [hparent, hbase, howner, hprogram]
        exact check_eq_ok.mp hparents
    · cases happend

theorem planRow_ok {now planId : String} {a : SealPlan} {p : PlanRow}
    (h : planRow W now planId a = .ok p) :
    p.ownerSubject = a.ownerSubject ∧ p.programId = a.programId ∧
      p.programRevision = a.revision := by
  unfold planRow at h
  dsimp only at h
  iterate 10 obtain ⟨_, -, h⟩ := bind_eq_ok.mp h
  cases h
  exact ⟨rfl, rfl, rfl⟩

/-- A new plan, for a revision on which the query finds no open report first. -/
structure Seals (W : World) (s : Store) (a : SealPlan) (p : PlanRow) (s' : Store) : Prop where
  asked : p.ownerSubject = a.ownerSubject ∧ p.programId = a.programId ∧
    p.programRevision = a.revision
  revision : ∃ r, s.revisionRow a.ownerSubject a.programId a.revision = some r
  conflict : s.hasOpenConflict W a.ownerSubject a.programId a.revision = false
  stored : ∃ plans, s.plans.insert p = some plans ∧ s' = { s with plans := plans }

theorem insertPlan_ok {p : PlanRow} (h : s.insertPlan p = .ok s') :
    ∃ plans, s.plans.insert p = some plans ∧ s' = { s with plans := plans } := by
  obtain ⟨_, -, h⟩ := bind_eq_ok.mp h
  obtain ⟨_, -, h⟩ := bind_eq_ok.mp h
  split at h
  · rename_i plans hinsert
    cases h
    exact ⟨plans, hinsert, rfl⟩
  · cases h

theorem sealPlan_ok {now fresh : String} {a : SealPlan} {out : PlanRow × Bool}
    (h : sealPlan W now fresh s a = .ok (out, s')) : s' = s ∨ ∃ p, Seals W s a p s' := by
  obtain ⟨_, -, h⟩ := bind_eq_ok.mp h
  split at h
  · cases h
  rename_i source hsource
  obtain ⟨_, -, h⟩ := bind_eq_ok.mp h
  obtain ⟨_, hconflict, h⟩ := bind_eq_ok.mp h
  split at h
  · obtain ⟨_, -, h⟩ := bind_eq_ok.mp h
    cases h
    exact Or.inl rfl
  · obtain ⟨p, hp, h⟩ := bind_eq_ok.mp h
    split at h
    · rename_i inserted hinsert
      cases h
      exact Or.inr ⟨p, planRow_ok hp, ⟨source, hsource⟩, check_eq_ok.mp hconflict,
        insertPlan_ok hinsert⟩
    · cases h

theorem insertEvent_ok {e : EventRow} (h : s.insertEvent e = .ok s') :
    (∃ r ∈ s.reports.rows, r.conflictReportId = e.conflictReportId) ∧
      ∃ events, s.events.insert e = some events ∧ s' = { s with events := events } := by
  obtain ⟨_, -, h⟩ := bind_eq_ok.mp h
  obtain ⟨_, hreport, h⟩ := bind_eq_ok.mp h
  split at h
  · rename_i events hinsert
    cases h
    exact ⟨check_eq_ok.mp hreport, events, hinsert, rfl⟩
  · cases h

theorem insertReport_ok {r : ReportRow} (h : s.insertReport r = .ok s') :
    ∃ reports, s.reports.insert r = some reports ∧ s' = { s with reports := reports } := by
  obtain ⟨_, -, h⟩ := bind_eq_ok.mp h
  obtain ⟨_, -, h⟩ := bind_eq_ok.mp h
  obtain ⟨_, -, h⟩ := bind_eq_ok.mp h
  split at h
  · rename_i reports hinsert
    cases h
    exact ⟨reports, hinsert, rfl⟩
  · cases h

/-- A new report with its first event, on a candidate that is there. -/
structure Opens (s : Store) (r : ReportRow) (e : EventRow) (s' : Store) : Prop where
  candidate : (s.revisionRow r.ownerSubject r.programId r.candidateRevision).isSome = true
  first : e.conflictReportId = r.conflictReportId ∧ e.sequence = 1 ∧ e.state = .open
  stored : ∃ reports events, s.reports.insert r = some reports ∧ s.events.insert e = some events ∧
    s' = { s with reports := reports, events := events }

theorem createConflictReport_ok {now fresh : String} {a : CreateReport}
    {out : ConflictReport × Bool} (h : createConflictReport W now fresh s a = .ok (out, s')) :
    s' = s ∨ ∃ r e, Opens s r e s' := by
  obtain ⟨kind, -, h⟩ := bind_eq_ok.mp h
  obtain ⟨_, -, h⟩ := bind_eq_ok.mp h
  obtain ⟨_, -, h⟩ := bind_eq_ok.mp h
  obtain ⟨_, -, h⟩ := bind_eq_ok.mp h
  obtain ⟨_, -, h⟩ := bind_eq_ok.mp h
  obtain ⟨_, hrevisions, h⟩ := bind_eq_ok.mp h
  split at h
  · obtain ⟨_, -, h⟩ := bind_eq_ok.mp h
    obtain ⟨_, -, h⟩ := bind_eq_ok.mp h
    cases h
    exact Or.inl rfl
  · obtain ⟨⟨row, stored⟩, hopen, h⟩ := bind_eq_ok.mp h
    cases h
    right
    obtain ⟨json, -, hopen⟩ := bind_eq_ok.mp hopen
    obtain ⟨t, hreport, hopen⟩ := bind_eq_ok.mp hopen
    obtain ⟨reports, hreports, rfl⟩ := insertReport_ok hreport
    obtain ⟨t, hevent, hopen⟩ := bind_eq_ok.mp hopen
    obtain ⟨-, events, hevents, rfl⟩ := insertEvent_ok hevent
    cases hopen
    refine ⟨_, _, ?_, ?_, ⟨reports, events, hreports, hevents, rfl⟩⟩
    · exact check_eq_ok.mp hrevisions a.candidateRevision (by simp)
    · exact ⟨rfl, rfl, rfl⟩

/-- The last event of a report that is no longer open. -/
structure Closing (s : Store) (r : ReportRow) (e : EventRow) : Prop where
  closed : e.state ≠ .open
  resolved : e.state = .resolved → ∃ x ∈ s.revisions.rows, x.ownerSubject = r.ownerSubject ∧
    x.programId = r.programId ∧ e.resolutionRevision = some x.revision ∧
    x.lineageKind = .conflictResolution ∧ x.parentRevision = some r.candidateRevision

/-- The event behind the last one of an open report, which closes it. -/
structure Closes (s : Store) (r : ReportRow) (e : EventRow) (s' : Store) : Prop where
  report : r ∈ s.reports.rows ∧ e.conflictReportId = r.conflictReportId
  latest : ∃ last, s.latestEvent r.conflictReportId = some last ∧ last.state = .open ∧
    e.sequence = last.sequence + 1
  closing : Closing s r e
  stored : ∃ events, s.events.insert e = some events ∧ s' = { s with events := events }

theorem named_ok {α : Type} {table : List (String × α)} {name code : String} {value : α}
    (h : named table name code = .ok value) : ∃ p ∈ table, p.2 = value := by
  unfold named at h
  split at h
  · rename_i p hp
    cases h
    exact ⟨p, List.mem_of_find?_eq_some hp, rfl⟩
  · cases h

theorem checkResolution_ok {r : ReportRow} {target : ConflictState} {a : TransitionConflict}
    {e : EventRow} (h : checkResolution s r target a = .ok ()) (htarget : target ≠ .open)
    (howner : r.ownerSubject = a.ownerSubject) (hstate : e.state = target)
    (hresolution : e.resolutionRevision = a.resolutionRevision) : Closing s r e := by
  refine ⟨hstate ▸ htarget, fun hresolved => ?_⟩
  unfold checkResolution at h
  rw [if_pos (hstate ▸ hresolved)] at h
  obtain ⟨_, -, h⟩ := bind_eq_ok.mp h
  obtain ⟨_, -, h⟩ := bind_eq_ok.mp h
  rw [check_eq_ok, Option.any_eq_true] at h
  obtain ⟨x, hx, hkind⟩ := h
  obtain ⟨revision, hrevision, hrow⟩ := Option.bind_eq_some_iff.mp hx
  unfold Store.revisionRow at hrow
  have hkey := List.find?_some hrow
  simp only [decide_eq_true_eq] at hkey hkind
  refine ⟨x, List.mem_of_find?_eq_some hrow, hkey.1.trans howner.symm, hkey.2.1, ?_, hkind.1,
    hkind.2⟩
  rw [hresolution, hrevision, hkey.2.2]

theorem transitionConflict_ok {now : String} {a : TransitionConflict} {out : ConflictReport}
    (h : transitionConflict W now s a = .ok (out, s')) : s' = s ∨ ∃ r e, Closes s r e s' := by
  obtain ⟨target, htarget, h⟩ := bind_eq_ok.mp h
  obtain ⟨_, -, h⟩ := bind_eq_ok.mp h
  have hterminal : target ≠ .open := by
    obtain ⟨p, hp, rfl⟩ := named_ok htarget
    simp only [ConflictState.terminal, List.mem_cons, List.not_mem_nil, or_false] at hp
    rcases hp with rfl | rfl <;> decide
  split at h
  · cases h
  rename_i report hreport
  have hfound := List.find?_some hreport
  simp only [decide_eq_true_eq] at hfound
  split at h
  · cases h
  rename_i latest hlatest
  unfold closeReport at h
  split at h
  · obtain ⟨_, -, h⟩ := bind_eq_ok.mp h
    obtain ⟨_, -, h⟩ := bind_eq_ok.mp h
    cases h
    exact Or.inl rfl
  · rename_i hsequence
    rw [ne_eq, not_not] at hsequence
    obtain ⟨_, hopen, h⟩ := bind_eq_ok.mp h
    obtain ⟨_, hresolution, h⟩ := bind_eq_ok.mp h
    obtain ⟨t, hevent, h⟩ := bind_eq_ok.mp h
    obtain ⟨-, events, hevents, rfl⟩ := insertEvent_ok hevent
    obtain ⟨_, -, h⟩ := bind_eq_ok.mp h
    cases h
    refine Or.inr ⟨report, _, ⟨List.mem_of_find?_eq_some hreport, hfound.2.symm⟩, ?_,
      checkResolution_ok hresolution hterminal hfound.1 rfl rfl, ⟨events, hevents, rfl⟩⟩
    refine ⟨latest, ?_, check_eq_ok.mp hopen, ?_⟩
    · rw [hfound.2]
      exact hlatest
    · rw [hsequence]

/-- Everything that a call can do to the tables. -/
theorem step_cases (W : World) (s : Store) (call : Call) :
    step W s call = s ∨ (∃ r, Appends s r (step W s call)) ∨
      (∃ now fresh a p, call = .sealPlan now fresh a ∧ Seals W s a p (step W s call)) ∨
      (∃ r e, Opens s r e (step W s call)) ∨ (∃ r e, Closes s r e (step W s call)) := by
  unfold step
  cases call with
  | createRevision now a =>
      cases h : createRevision W now s a with
      | error e => exact Or.inl (by rw [runCall, h]; rfl)
      | ok out =>
          rw [runCall, h]
          rcases createRevision_ok h with hsame | hnew
          · exact Or.inl hsame
          · exact Or.inr (Or.inl hnew)
  | sealPlan now fresh a =>
      cases h : sealPlan W now fresh s a with
      | error e => exact Or.inl (by rw [runCall, h]; rfl)
      | ok out =>
          rw [runCall, h]
          rcases sealPlan_ok h with hsame | ⟨p, hnew⟩
          · exact Or.inl hsame
          · exact Or.inr (Or.inr (Or.inl ⟨now, fresh, a, p, rfl, hnew⟩))
  | createConflictReport now fresh a =>
      cases h : createConflictReport W now fresh s a with
      | error e => exact Or.inl (by rw [runCall, h]; rfl)
      | ok out =>
          rw [runCall, h]
          rcases createConflictReport_ok h with hsame | hnew
          · exact Or.inl hsame
          · exact Or.inr (Or.inr (Or.inr (Or.inl hnew)))
  | transitionConflict now a =>
      cases h : transitionConflict W now s a with
      | error e => exact Or.inl (by rw [runCall, h]; rfl)
      | ok out =>
          rw [runCall, h]
          rcases transitionConflict_ok h with hsame | hnew
          · exact Or.inl hsame
          · exact Or.inr (Or.inr (Or.inr (Or.inr hnew)))

/-! ## The invariant -/

/-- The revisions of a program, in the order in which they were created. -/
def Store.revisionsOf (s : Store) (program : String) : List RevisionRow :=
  s.revisions.rows.filter fun r => r.programId = program

/-- The numbers from 1 to `n`. -/
def numbers (n : Nat) : List Int := (List.range n).map fun i : Nat => (i : Int) + 1

/-- The events of a report: it was opened, and perhaps closed. -/
def OpenedOnce (s : Store) (r : ReportRow) : Prop :=
  ∃ first, first.state = .open ∧ first.sequence = 1 ∧
    (s.eventsOf r.conflictReportId = [first] ∨
      ∃ last, s.eventsOf r.conflictReportId = [first, last] ∧ last.sequence = 2 ∧ Closing s r last)

structure Consistent (s : Store) : Prop where
  numbered : ∀ program, ∃ n : Nat, (s.revisionsOf program).map RevisionRow.revision = numbers n
  lineage : ∀ r ∈ s.revisions.rows, ∀ required ∈ r.parentRevision.toList ++ r.baseRevision.toList,
    required < r.revision ∧ ∃ x ∈ s.revisions.rows, x.programId = r.programId ∧
      x.ownerSubject = r.ownerSubject ∧ x.revision = required
  candidate : ∀ r ∈ s.reports.rows, ∃ x ∈ s.revisions.rows, x.ownerSubject = r.ownerSubject ∧
    x.programId = r.programId ∧ x.revision = r.candidateRevision
  attached : ∀ e ∈ s.events.rows, ∃ r ∈ s.reports.rows, r.conflictReportId = e.conflictReportId
  history : ∀ r ∈ s.reports.rows, OpenedOnce s r

theorem revisionRow_some {owner program : String} {revision : Int} {r : RevisionRow}
    (h : s.revisionRow owner program revision = some r) :
    r ∈ s.revisions.rows ∧ r.ownerSubject = owner ∧ r.programId = program ∧
      r.revision = revision := by
  unfold Store.revisionRow at h
  have hkey := List.find?_some h
  simp only [decide_eq_true_eq] at hkey
  exact ⟨List.mem_of_find?_eq_some h, hkey⟩

theorem max_numbers (n : Nat) : (numbers n).max?.getD 0 = n := by
  cases n with
  | zero => rfl
  | succ n =>
      have hmax : (numbers (n + 1)).max? = some ((n : Int) + 1) := by
        unfold numbers
        rw [List.max?_eq_some_iff]
        refine ⟨List.mem_map.mpr ⟨n, List.mem_range.mpr (Nat.lt_succ_self n), rfl⟩, fun b hb => ?_⟩
        obtain ⟨i, hi, rfl⟩ := List.mem_map.mp hb
        have hle := List.mem_range.mp hi
        omega
      rw [hmax]
      push_cast
      rfl

/-- The revisions of a program run from 1 to the latest one. -/
theorem Consistent.latest (h : Consistent s) (program : String) :
    ∃ n : Nat, s.latestRevision program = n ∧
      (s.revisionsOf program).map RevisionRow.revision = numbers n := by
  obtain ⟨n, hn⟩ := h.numbered program
  refine ⟨n, ?_, hn⟩
  unfold Store.latestRevision
  rw [show (s.revisions.rows.filter fun r => r.programId = program) = s.revisionsOf program from rfl,
    hn]
  exact max_numbers n

/-- A new event is seen by its report only. -/
theorem eventsOf_append {e : EventRow} (h : s'.events.rows = s.events.rows ++ [e]) (id : String) :
    s'.eventsOf id =
      if e.conflictReportId = id then s.eventsOf id ++ [e] else s.eventsOf id := by
  unfold Store.eventsOf
  rw [h, List.filter_append, List.filter_singleton]
  by_cases hid : e.conflictReportId = id
  · rw [decide_eq_true hid, cond_true, if_pos hid]
  · rw [decide_eq_false hid, cond_false, if_neg hid, List.append_nil]

theorem Closing.mono {r : ReportRow} {e : EventRow} (h : Closing s r e)
    (hrevisions : ∀ x ∈ s.revisions.rows, x ∈ s'.revisions.rows) : Closing s' r e := by
  refine ⟨h.closed, fun hresolved => ?_⟩
  obtain ⟨x, hx, hrest⟩ := h.resolved hresolved
  exact ⟨x, hrevisions x hx, hrest⟩

theorem OpenedOnce.mono {r : ReportRow} (h : OpenedOnce s r)
    (hrevisions : ∀ x ∈ s.revisions.rows, x ∈ s'.revisions.rows)
    (hevents : s'.eventsOf r.conflictReportId = s.eventsOf r.conflictReportId) :
    OpenedOnce s' r := by
  obtain ⟨first, hopen, hsequence, hevent⟩ := h
  refine ⟨first, hopen, hsequence, ?_⟩
  rw [hevents]
  rcases hevent with hone | ⟨last, htwo, hlast, hclosing⟩
  · exact Or.inl hone
  · exact Or.inr ⟨last, htwo, hlast, hclosing.mono hrevisions⟩

theorem consistent_appends {r : RevisionRow} (h : Consistent s) (hstep : Appends s r s') :
    Consistent s' := by
  obtain ⟨programs, revisions, hinsert, rfl⟩ := hstep.stored
  have hrows := (Table.insert_some hinsert).1
  have hmem : ∀ x ∈ s.revisions.rows, x ∈ revisions.rows := by
    intro x hx
    rw [hrows]
    exact List.mem_append_left _ hx
  refine ⟨fun program => ?_, ?_, ?_, h.attached, fun x hx => (h.history x hx).mono hmem rfl⟩
  · -- a new revision goes behind those of its program
    show ∃ n : Nat, ((revisions.rows.filter fun x => x.programId = program).map
      RevisionRow.revision) = _
    rw [hrows, List.filter_append]
    by_cases hprogram : r.programId = program
    · obtain ⟨n, hlatest, hn⟩ := h.latest program
      refine ⟨n + 1, ?_⟩
      rw [List.filter_singleton, decide_eq_true hprogram, cond_true, List.map_append, numbers,
        List.range_succ, List.map_append]
      rw [show (s.revisions.rows.filter fun x => x.programId = program) = s.revisionsOf program from
        rfl, hn]
      have hnext := hstep.next
      rw [hprogram, hlatest] at hnext
      simp [hnext, numbers]
    · obtain ⟨n, hn⟩ := h.numbered program
      refine ⟨n, ?_⟩
      rw [List.filter_singleton, decide_eq_false hprogram, cond_false, List.append_nil]
      exact hn
  · intro x hx required hrequired
    rw [hrows, List.mem_append, List.mem_singleton] at hx
    rcases hx with hx | rfl
    · obtain ⟨hlt, y, hy, hsame⟩ := h.lineage x hx required hrequired
      exact ⟨hlt, y, hmem y hy, hsame⟩
    · obtain ⟨y, hy⟩ := Option.isSome_iff_exists.mp (hstep.parents required hrequired)
      obtain ⟨hmem', howner, hprogram, hrevision⟩ := revisionRow_some hy
      refine ⟨?_, y, hmem y hmem', hprogram, howner, hrevision⟩
      -- the parent is one of the numbers up to the latest
      obtain ⟨n, hlatest, hn⟩ := h.latest x.programId
      have hnumber : y.revision ∈ (s.revisionsOf x.programId).map RevisionRow.revision :=
        List.mem_map_of_mem (List.mem_filter.mpr ⟨hmem', decide_eq_true hprogram⟩)
      rw [hn, numbers, List.mem_map] at hnumber
      obtain ⟨i, hi, hyi⟩ := hnumber
      have hi' := List.mem_range.mp hi
      rw [hstep.next, hlatest, ← hrevision, ← hyi]
      omega
  · intro x hx
    obtain ⟨y, hy, hsame⟩ := h.candidate x hx
    exact ⟨y, hmem y hy, hsame⟩

theorem consistent_opens {r : ReportRow} {e : EventRow} (h : Consistent s)
    (hstep : Opens s r e s') : Consistent s' := by
  obtain ⟨reports, events, hreport, hevent, rfl⟩ := hstep.stored
  obtain ⟨hid, hsequence, hopen⟩ := hstep.first
  have hreports := (Table.insert_some hreport).1
  have hevents := (Table.insert_some hevent).1
  have hnew : s.eventsOf r.conflictReportId = [] := by
    refine List.filter_eq_nil_iff.mpr fun x hx => ?_
    obtain ⟨y, hy, hyx⟩ := h.attached x hx
    have hne := Table.get?_none (Table.insert_some hreport).2 hy
    simpa [hyx] using hne
  refine ⟨h.numbered, h.lineage, ?_, ?_, ?_⟩
  · intro x hx
    rw [hreports, List.mem_append, List.mem_singleton] at hx
    rcases hx with hx | rfl
    · exact h.candidate x hx
    · obtain ⟨y, hy⟩ := Option.isSome_iff_exists.mp hstep.candidate
      exact ⟨y, revisionRow_some hy⟩
  · intro x hx
    rw [hevents, List.mem_append, List.mem_singleton] at hx
    rcases hx with hx | rfl
    · obtain ⟨y, hy, hyx⟩ := h.attached x hx
      exact ⟨y, by rw [hreports]; exact List.mem_append_left _ hy, hyx⟩
    · exact ⟨r, by rw [hreports]; exact List.mem_append_right _ (List.mem_singleton_self r),
        hid.symm⟩
  · intro x hx
    rw [hreports, List.mem_append, List.mem_singleton] at hx
    rcases hx with hx | rfl
    · refine (h.history x hx).mono (fun _ => id) ?_
      have hne : e.conflictReportId ≠ x.conflictReportId := by
        rw [hid]
        exact fun heq => Table.get?_none (Table.insert_some hreport).2 hx heq.symm
      exact (eventsOf_append hevents _).trans (if_neg hne)
    · refine ⟨e, hopen, hsequence, Or.inl ?_⟩
      rw [eventsOf_append hevents, if_pos hid, hnew, List.nil_append]

theorem consistent_closes {r : ReportRow} {e : EventRow} (h : Consistent s)
    (hstep : Closes s r e s') : Consistent s' := by
  obtain ⟨events, hevent, rfl⟩ := hstep.stored
  obtain ⟨hr, hid⟩ := hstep.report
  have hevents := (Table.insert_some hevent).1
  refine ⟨h.numbered, h.lineage, h.candidate, ?_, ?_⟩
  · intro x hx
    rw [hevents, List.mem_append, List.mem_singleton] at hx
    rcases hx with hx | rfl
    · exact h.attached x hx
    · exact ⟨r, hr, hid.symm⟩
  · intro x hx
    by_cases hsame : x.conflictReportId = r.conflictReportId
    · -- the report had its first event only, as its last one was open
      obtain rfl : x = r := Table.eq_of_key hx hr hsame
      obtain ⟨first, hfirst, hone, hhistory⟩ := h.history x hx
      obtain ⟨last, hlast, hopen, hsequence⟩ := hstep.latest
      have hlist : s.eventsOf x.conflictReportId = [first] := by
        rcases hhistory with hlist | ⟨closed, hlist, htwo, hclosing⟩
        · exact hlist
        · unfold Store.latestEvent at hlast
          rw [hlist, show [first, closed] = [first] ++ [closed] from rfl, List.argmax_concat,
            List.argmax_singleton] at hlast
          simp only [hone, htwo] at hlast
          rw [if_pos (by decide)] at hlast
          cases hlast
          exact absurd hopen hclosing.closed
      refine ⟨first, hfirst, hone, Or.inr ⟨e, ?_, ?_, hstep.closing.mono fun _ => id⟩⟩
      · rw [eventsOf_append hevents, if_pos hid, hlist]
        rfl
      · unfold Store.latestEvent at hlast
        rw [hlist, List.argmax_singleton] at hlast
        cases hlast
        rw [hsequence, hone]
        rfl
    · refine (h.history x hx).mono (fun _ => id) ?_
      have hne : e.conflictReportId ≠ x.conflictReportId := by
        rw [hid]
        exact fun heq => hsame heq.symm
      exact (eventsOf_append hevents _).trans (if_neg hne)

theorem consistent_step (call : Call) (h : Consistent s) : Consistent (step W s call) := by
  rcases step_cases W s call with hsame | ⟨r, hstep⟩ | ⟨_, _, a, p, -, hstep⟩ | ⟨r, e, hstep⟩ |
    ⟨r, e, hstep⟩
  · rw [hsame]
    exact h
  · exact consistent_appends h hstep
  · obtain ⟨plans, -, hs'⟩ := hstep.stored
    rw [hs']
    exact ⟨h.numbered, h.lineage, h.candidate, h.attached,
      fun x hx => (h.history x hx).mono (fun _ => id) rfl⟩
  · exact consistent_opens h hstep
  · exact consistent_closes h hstep

/-! ## The query for open reports -/

/-- The first row is of a closed report, and a later one of an open report. -/
def ClosedFirst : List (ReportRow × EventRow) → Prop
  | [] => False
  | first :: rest => first.2.state ≠ .open ∧ ∃ row ∈ rest, row.2.state = .open

instance : DecidablePred ClosedFirst
  | [] => inferInstanceAs (Decidable False)
  | _ :: _ => inferInstanceAs (Decidable (_ ∧ _))

/-- A plan is asked for a revision that has open and closed reports, and SQLite visits a closed one
first. -/
def Masked (W : World) (s : Store) : Call → Prop
  | .sealPlan _ _ a =>
      ClosedFirst (W.visitStates (s.conflictStates a.ownerSubject a.programId a.revision))
  | _ => False

instance (W : World) (s : Store) : DecidablePred (Masked W s)
  | .sealPlan _ _ _ => inferInstanceAs (Decidable (ClosedFirst _))
  | .createRevision _ _ | .createConflictReport _ _ _ | .transitionConflict _ _ =>
      inferInstanceAs (Decidable False)

/-- The query sees every report on the candidate with its last event. -/
theorem mem_conflictStates {r : ReportRow} {e : EventRow} (hr : r ∈ s.reports.rows)
    (he : s.latestEvent r.conflictReportId = some e) :
    (r, e) ∈ s.conflictStates r.ownerSubject r.programId r.candidateRevision := by
  have hmem : e ∈ s.eventsOf r.conflictReportId := List.argmax_mem he
  have hmax : ((s.eventsOf r.conflictReportId).map EventRow.sequence).max? = some e.sequence := by
    rw [List.max?_eq_some_iff]
    refine ⟨List.mem_map_of_mem hmem, fun b hb => ?_⟩
    obtain ⟨x, hx, rfl⟩ := List.mem_map.mp hb
    exact List.le_of_mem_argmax hx he
  refine List.mem_flatMap.mpr ⟨r, List.mem_filter.mpr ⟨hr, by simp⟩, ?_⟩
  exact List.mem_map_of_mem (List.mem_filter.mpr ⟨hmem, decide_eq_true hmax⟩)

/-- Past the query no report on the candidate is open, unless a closed one masks it. -/
theorem none_open {now fresh : String} {a : SealPlan}
    (hmasked : ¬ Masked W s (.sealPlan now fresh a))
    (h : s.hasOpenConflict W a.ownerSubject a.programId a.revision = false) :
    ∀ r ∈ s.reports.rows, r.ownerSubject = a.ownerSubject → r.programId = a.programId →
      r.candidateRevision = a.revision → s.isOpen r.conflictReportId = false := by
  intro r hr howner hprogram hcandidate
  by_contra hopen
  rw [Bool.not_eq_false] at hopen
  obtain ⟨e, he, hstate⟩ := (Option.any_eq_true _ _).mp hopen
  have hmem := mem_conflictStates hr he
  rw [howner, hprogram, hcandidate] at hmem
  have hvisited := (W.visitStates_perm _).mem_iff.mpr hmem
  unfold Store.hasOpenConflict at h
  change ¬ ClosedFirst _ at hmasked
  cases hrows : W.visitStates (s.conflictStates a.ownerSubject a.programId a.revision) with
  | nil =>
      rw [hrows] at hvisited
      cases hvisited
  | cons first rest =>
      rw [hrows] at h hvisited hmasked
      have hclosed : first.2.state ≠ .open := by simpa using h
      rcases List.mem_cons.mp hvisited with rfl | hrest
      · exact hclosed (by simpa using hstate)
      · exact hmasked ⟨hclosed, (r, e), hrest, by simpa using hstate⟩

/-! ## Whole runs -/

/-- A call seals no plan past an open report, and changes nothing when it fails. -/
structure Orderly (W : World) (s : Store) (call : Call) : Prop where
  sealed : ∀ p ∈ (step W s call).plans.rows, p ∉ s.plans.rows → ∀ r ∈ s.reports.rows,
    r.programId = p.programId → r.candidateRevision = p.programRevision →
    s.isOpen r.conflictReportId = false
  failed : ∀ e, runCall W s call = .error e → step W s call = s

/-- The call closes the report. -/
def Leaves (W : World) (report : String) (s : Store) (call : Call) : Prop :=
  s.isOpen report = true ∧ (step W s call).isOpen report = false

instance (report : String) (s : Store) (call : Call) : Decidable (Leaves W report s call) :=
  inferInstanceAs (Decidable (_ ∧ _))

theorem orderly_step {call : Call} (h : Consistent s) (hmasked : ¬ Masked W s call) :
    Orderly W s call := by
  refine ⟨?_, fun e he => by rw [step, he]; rfl⟩
  intro p hp hnew r hr hprogram hcandidate
  rcases step_cases W s call with hsame | ⟨_, hstep⟩ | ⟨now, fresh, a, q, rfl, hstep⟩ |
    ⟨_, _, hstep⟩ | ⟨_, _, hstep⟩
  · rw [hsame] at hp
    exact absurd hp hnew
  · obtain ⟨_, _, -, hs'⟩ := hstep.stored
    rw [hs'] at hp
    exact absurd hp hnew
  · obtain ⟨plans, hinsert, hs'⟩ := hstep.stored
    rw [hs'] at hp
    have hpq : p = q := by
      rcases (Table.mem_insert hinsert).mp hp with hold | hpq
      · exact absurd hold hnew
      · exact hpq
    subst hpq
    obtain ⟨-, hpprogram, hprevision⟩ := hstep.asked
    -- the candidate has one row, so the report has the owner of the plan
    obtain ⟨x, hx⟩ := hstep.revision
    obtain ⟨hxmem, hxowner, hxprogram, hxrevision⟩ := revisionRow_some hx
    obtain ⟨y, hymem, hyowner, hyprogram, hyrevision⟩ := h.candidate r hr
    have hxy : y = x := by
      refine Table.eq_of_key hymem hxmem (Prod.ext ?_ ?_)
      · exact hyprogram.trans (hprogram.trans (hpprogram.trans hxprogram.symm))
      · exact hyrevision.trans (hcandidate.trans (hprevision.trans hxrevision.symm))
    subst hxy
    exact none_open hmasked hstep.conflict r hr (hyowner.symm.trans hxowner)
      (hprogram.trans hpprogram) (hcandidate.trans hprevision)
  · obtain ⟨_, _, -, -, hs'⟩ := hstep.stored
    rw [hs'] at hp
    exact absurd hp hnew
  · obtain ⟨_, -, hs'⟩ := hstep.stored
    rw [hs'] at hp
    exact absurd hp hnew

/-- The report was closed. -/
def Closed (report : String) (s : Store) : Prop :=
  (∃ r ∈ s.reports.rows, r.conflictReportId = report) ∧
    ∃ e, s.latestEvent report = some e ∧ e.state ≠ .open

theorem latestEvent_congr {report : String} (h : s'.eventsOf report = s.eventsOf report) :
    s'.latestEvent report = s.latestEvent report := by
  unfold Store.latestEvent
  rw [h]

theorem closed_step {report : String} {call : Call} (h : Closed report s) :
    Closed report (step W s call) := by
  obtain ⟨⟨r, hr, hid⟩, e, he, hclosed⟩ := h
  rcases step_cases W s call with hsame | ⟨_, hstep⟩ | ⟨_, _, _, _, -, hstep⟩ | ⟨x, y, hstep⟩ |
    ⟨x, y, hstep⟩
  · rw [hsame]
    exact ⟨⟨r, hr, hid⟩, e, he, hclosed⟩
  · obtain ⟨_, _, -, hs'⟩ := hstep.stored
    rw [hs']
    exact ⟨⟨r, hr, hid⟩, e, he, hclosed⟩
  · obtain ⟨_, -, hs'⟩ := hstep.stored
    rw [hs']
    exact ⟨⟨r, hr, hid⟩, e, he, hclosed⟩
  · obtain ⟨reports, events, hreport, hevent, hs'⟩ := hstep.stored
    rw [hs']
    have hne : y.conflictReportId ≠ report := by
      rw [hstep.first.1, ← hid]
      exact fun heq => Table.get?_none (Table.insert_some hreport).2 hr heq.symm
    refine ⟨⟨r, (Table.mem_insert hreport).mpr (Or.inl hr), hid⟩, e, ?_, hclosed⟩
    rw [latestEvent_congr ((eventsOf_append (Table.insert_some hevent).1 report).trans (if_neg hne))]
    exact he
  · obtain ⟨events, hevent, hs'⟩ := hstep.stored
    obtain ⟨last, hlast, hopen, -⟩ := hstep.latest
    rw [hs']
    have hne : y.conflictReportId ≠ report := by
      intro heq
      rw [← hstep.report.2, heq, he] at hlast
      cases hlast
      exact hclosed hopen
    refine ⟨⟨r, hr, hid⟩, e, ?_, hclosed⟩
    rw [latestEvent_congr ((eventsOf_append (Table.insert_some hevent).1 report).trans (if_neg hne))]
    exact he

theorem latestEvent_append {e last : EventRow} (h : s'.events.rows = s.events.rows ++ [e])
    (hlast : s.latestEvent e.conflictReportId = some last) :
    s'.latestEvent e.conflictReportId =
      if last.sequence < e.sequence then some e else some last := by
  unfold Store.latestEvent at hlast ⊢
  rw [eventsOf_append h, if_pos rfl, List.argmax_concat, hlast]

theorem isOpen_of_latest {report : String} {e : EventRow} (h : s.latestEvent report = some e) :
    s.isOpen report = true ↔ e.state = .open := by
  unfold Store.isOpen
  rw [h]
  simp

theorem isOpen_congr {report : String} (h : s'.eventsOf report = s.eventsOf report) :
    s'.isOpen report = s.isOpen report := by
  unfold Store.isOpen
  rw [latestEvent_congr h]

theorem closed_of_leaves {report : String} {call : Call} (h : Leaves W report s call) :
    Closed report (step W s call) := by
  obtain ⟨hopen, hnot⟩ := h
  -- the events of the report changed
  have hchanged : (step W s call).eventsOf report ≠ s.eventsOf report := by
    intro hsame
    rw [isOpen_congr hsame, hopen] at hnot
    cases hnot
  obtain ⟨last, hlast, hstate⟩ := (Option.any_eq_true _ _).mp hopen
  rcases step_cases W s call with hsame | ⟨_, hstep⟩ | ⟨_, _, _, _, -, hstep⟩ | ⟨x, y, hstep⟩ |
    ⟨x, y, hstep⟩
  · exact absurd (by rw [hsame]) hchanged
  · obtain ⟨_, _, -, hs'⟩ := hstep.stored
    exact absurd (by rw [hs']; rfl) hchanged
  · obtain ⟨_, -, hs'⟩ := hstep.stored
    exact absurd (by rw [hs']; rfl) hchanged
  · obtain ⟨reports, events, -, hevent, hs'⟩ := hstep.stored
    have hevents : (step W s call).events.rows = s.events.rows ++ [y] := by
      rw [hs']
      exact (Table.insert_some hevent).1
    by_cases hid : y.conflictReportId = report
    · -- a new first event is open
      subst hid
      have hlatest := latestEvent_append hevents hlast
      split at hlatest
      · rw [Bool.eq_false_iff, ne_eq, isOpen_of_latest hlatest] at hnot
        exact absurd hstep.first.2.2 hnot
      · rw [Bool.eq_false_iff, ne_eq, isOpen_of_latest hlatest] at hnot
        exact absurd (by simpa using hstate) hnot
    · exact absurd ((eventsOf_append hevents report).trans (if_neg hid)) hchanged
  · obtain ⟨events, hevent, hs'⟩ := hstep.stored
    have hevents : (step W s call).events.rows = s.events.rows ++ [y] := by
      rw [hs']
      exact (Table.insert_some hevent).1
    by_cases hid : y.conflictReportId = report
    · subst hid
      obtain ⟨last', hlast', -, hsequence⟩ := hstep.latest
      rw [← hstep.report.2, hlast] at hlast'
      cases hlast'
      refine ⟨⟨x, by rw [hs']; exact hstep.report.1, hstep.report.2.symm⟩, y, ?_,
        hstep.closing.closed⟩
      rw [latestEvent_append hevents hlast, if_pos (by omega)]
    · exact absurd ((eventsOf_append hevents report).trans (if_neg hid)) hchanged

/-- A report leaves open at most once. -/
theorem leaves_once (report : String) (calls : List Call) :
    countAlong (step W) (Leaves W report) s calls ≤ 1 := by
  refine countAlong_le_one (Closed report) (fun s call => closed_of_leaves)
    (fun s call => closed_step) ?_ s calls
  rintro s call ⟨-, e, he, hclosed⟩ ⟨hopen, -⟩
  exact hclosed ((isOpen_of_latest he).mp hopen)

/-- The tables before the first call: whatever devices, snapshots and programs there are. -/
structure Fresh (s : Store) : Prop where
  revisions : s.revisions.rows = []
  plans : s.plans.rows = []
  reports : s.reports.rows = []
  events : s.events.rows = []

theorem consistent_fresh (h : Fresh s) : Consistent s := by
  refine ⟨fun program => ⟨0, ?_⟩, ?_, ?_, ?_, ?_⟩
  · rw [Store.revisionsOf, h.revisions]
    rfl
  · rw [h.revisions]
    rintro r ⟨⟩
  · rw [h.reports]
    rintro r ⟨⟩
  · rw [h.events]
    rintro e ⟨⟩
  · rw [h.reports]
    rintro r ⟨⟩

/-- The history stays consistent in every run in which no closed report masks an open one where a
plan is sealed. -/
theorem history_consistent (W : World) {s : Store} (hs : Fresh s) {calls : List Call}
    (hcalls : Along (step W) (fun s call => ¬ Masked W s call) s calls) :
    Consistent (runFrom (step W) s calls) ∧ Along (step W) (Orderly W) s calls ∧
      ∀ report, countAlong (step W) (Leaves W report) s calls ≤ 1 := by
  refine ⟨?_, ?_, fun report => leaves_once report calls⟩
  · exact runFrom_invariant Consistent (fun _ call h => consistent_step call h)
      (consistent_fresh hs) calls
  · exact hcalls.each Consistent (fun _ call h _ => consistent_step call h)
      (fun _ _ h hmasked => orderly_step h hmasked) (consistent_fresh hs)

end

/-! ## One report closed, another open -/

section Sample

def sampleWorld : World where
  json _ _ := .ok "source"
  loads _ := .obj [("schema_version", .str "cad.program/1.0")]
  visitReports := id
  visitStates := id
  visitReports_perm _ := List.Perm.refl _
  visitStates_perm _ := List.Perm.refl _

def sampleDigest (c : Char) : String := "sha256:" ++ String.ofList (List.replicate 64 c)

def sampleStore : Store where
  devices := [{ ownerSubject := "owner", deviceId := "device" }]
  snapshots :=
    [{ ownerSubject := "owner", snapshotId := "snapshot", deviceId := "device"
       documentRevision := "before" }]
  programs := .empty
  revisions := .empty
  plans := .empty
  reports := .empty
  events := .empty

def sampleRevision (revision : Int) (sourceDigest lineageKind : String) (parent : Option Int) :
    Call :=
  .createRevision "now"
    { ownerSubject := "owner", programId := "program", revision := revision, deviceId := "device"
      documentId := "document", sourceSnapshotId := "snapshot"
      expectedDocumentRevision := "before"
      source := .obj [("schema_version", .str "cad.program/1.0")], sourceDigest := sourceDigest
      semanticDigest := sampleDigest 'a', lineageKind := lineageKind, parentRevision := parent
      lineageRequestDigest := some (sampleDigest 'a') }

def sampleReport (id requestDigest : String) : Call :=
  .createConflictReport "now" id
    { ownerSubject := "owner", programId := "program", sourceRevision := 1, candidateRevision := 2
      requestKind := "patch", oldSnapshotId := "snapshot", newSnapshotId := none
      requestDigest := requestDigest, conflictsDigest := sampleDigest 'a', conflicts := [.null] }

def sampleAbandon (id : String) : Call :=
  .transitionConflict "now"
    { ownerSubject := "owner", conflictReportId := id, target := "abandoned"
      expectedSequence := 1, eventDigest := sampleDigest 'a' }

def sampleSeal : Call :=
  .sealPlan "now" "plan"
    { ownerSubject := "owner", programId := "program", revision := 2
      rolloutPolicyDigest := sampleDigest 'a', rolloutPolicyEpoch := 1
      compilation :=
        { source := .obj [("schema_version", .str "cad.program/1.0")]
          sourceDigest := sampleDigest 'b', semanticDigest := sampleDigest 'a'
          plan := .obj [("schema_version", .str "cad.execution-plan/1")]
          planDigest := sampleDigest 'a', expansionDigest := sampleDigest 'a'
          effectManifest := .null, effectDigest := sampleDigest 'a'
          targetSetDigest := sampleDigest 'a', referenceDigest := sampleDigest 'a'
          riskClass := "low", trustedEffectSummary := [.null], compilerId := "compiler"
          compilerVersion := "1", compilerHash := sampleDigest 'a', hardBudgets := .null
          requiredCapabilities := [], operationPacks := [], validationProfiles := []
          runtimePins := .null, checkpointStrategy := "none", createCount := 1
          modifyCount := 0, eraseCount := 0 } }

/-- Two revisions, and a report on the second one. -/
def sampleStart : List Call :=
  [sampleRevision 1 (sampleDigest 'a') "root" none,
    sampleRevision 2 (sampleDigest 'b') "patch" (some 1), sampleReport "first" (sampleDigest 'a')]

def sampleCalls : List Call :=
  sampleStart ++ [sampleReport "second" (sampleDigest 'b'), sampleAbandon "first"]

/-- With the first report abandoned the plan is sealed past the second one, which is open. -/
theorem sealed_past_open_report :
    Fresh sampleStore ∧
      ¬ Along (step sampleWorld) (Orderly sampleWorld) sampleStore (sampleCalls ++ [sampleSeal]) := by
  refine ⟨⟨rfl, rfl, rfl, rfl⟩, fun h => ?_⟩
  have horderly := (along_append.mp h).2.1
  have hsealed : ∃ p ∈ (step sampleWorld (runFrom (step sampleWorld) sampleStore sampleCalls)
      sampleSeal).plans.rows, p.programId = "program" ∧ p.programRevision = 2 := by
    decide +kernel
  have hrun : (runFrom (step sampleWorld) sampleStore sampleCalls).plans.rows.length = 0 ∧
      ∃ r ∈ (runFrom (step sampleWorld) sampleStore sampleCalls).reports.rows,
        r.programId = "program" ∧ r.candidateRevision = 2 ∧
          (runFrom (step sampleWorld) sampleStore sampleCalls).isOpen r.conflictReportId = true := by
    decide +kernel
  obtain ⟨p, hp, hprogram, hrevision⟩ := hsealed
  obtain ⟨hnone, r, hr, hrprogram, hcandidate, hopen⟩ := hrun
  have hnew : p ∉ (runFrom (step sampleWorld) sampleStore sampleCalls).plans.rows := by
    rw [List.eq_nil_of_length_eq_zero hnone]
    exact List.not_mem_nil
  have hclosed := horderly.sealed p hp hnew r hr (hrprogram.trans hprogram.symm)
    (hcandidate.trans hrevision.symm)
  rw [hopen] at hclosed
  cases hclosed

/-- The plan is sealed after the only report was abandoned. -/
theorem sample_history_consistent :
    let calls := sampleStart ++ [sampleAbandon "first", sampleSeal]
    Consistent (runFrom (step sampleWorld) sampleStore calls) ∧
      Along (step sampleWorld) (Orderly sampleWorld) sampleStore calls ∧
      ∀ report, countAlong (step sampleWorld) (Leaves sampleWorld report) sampleStore calls ≤ 1 :=
  history_consistent sampleWorld ⟨rfl, rfl, rfl, rfl⟩ (by decide +kernel)

end Sample

end AutocadMcp.Revisions
