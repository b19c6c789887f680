import AutocadMcp.Host.TransactionModel

/-!
# A commit and its undo

Taking a committed batch back by restoring its targets and removing its outputs. The
outputs of a commit are new entities, and the batch names each target once, so both
undo calls find what the commit left as long as no output is also a target. An output
that the same commit transforms no longer has the fingerprint of its checkpoint: the
targets have to be restored first, and in the other order both calls fail.
-/

namespace AutocadMcp.Host

open Phase8ManagedOperationRegistry

namespace Phase8TransactionModel

/-- One of the two ways to take a commit back, under its receipt. -/
inductive Undo where
  | restore (checkpoint : CadRollbackCheckpointV2) (receipt : CadManagedRestoreReceipt)
  | rollbackCreated (checkpoint : CadCreatedOutputCheckpointV1)
      (receipt : CadCreatedOutputRollbackReceiptV1)

def Undo.call : Undo → Call
  | restore checkpoint receipt => .restore checkpoint receipt false
  | rollbackCreated checkpoint receipt => .rollbackCreated checkpoint receipt false

/-- The call is no replay. -/
def Undo.Unused (s : Phase8TransactionModel) : Undo → Prop
  | restore _ receipt => s.restoreReceipts.lookup receipt.restoreReceiptId = none
  | rollbackCreated _ receipt =>
      s.createdRollbackReceipts.lookup receipt.rollbackReceiptId = none

/-- The undo calls that the checkpoints of a commit allow. -/
def undos (created : Option CadCreatedOutputCheckpointV1)
    (checkpoint : Option CadRollbackCheckpointV2) (restoreReceipt : CadManagedRestoreReceipt)
    (rollbackReceipt : CadCreatedOutputRollbackReceiptV1) : List Undo :=
  (checkpoint.map fun c => Undo.restore c restoreReceipt).toList ++
    (created.map fun c => Undo.rollbackCreated c rollbackReceipt).toList

/-- Each undo succeeds, whatever other calls come before it that leave the entities alone, and the
last one leaves the given entities. -/
def Undone (before : Dictionary String) : Phase8TransactionModel → List Undo → Prop
  | s, [] => s.entities = before
  | s, undo :: rest => ∀ calls, (runFrom step s calls).entities = s.entities →
      undo.Unused (runFrom step s calls) →
      ∃ t, Eff.exec (perform undo.call) (runFrom step s calls) = (.ok (), t) ∧ Undone before t rest

/-- The entity of a receipt that a restore entry takes back. -/
def modifiedBy (entry : CadRestoreEntryV2) : CadManagedModifiedEntity :=
  ⟨entry.operationId, entry.targetBefore.entityId, entry.targetBefore.entityType,
    entry.targetBefore.fingerprint, entry.fingerprintAfter⟩

/-- The checkpoints carry what the receipt carries. -/
structure Carries (receipt : CadManagedOperationReceipt)
    (created : Option CadCreatedOutputCheckpointV1) (checkpoint : Option CadRollbackCheckpointV2) :
    Prop where
  outputs : ∀ c ∈ created, c.createdOutputs.Perm receipt.createdOutputs
  entities : ∀ c ∈ checkpoint, (c.restoreEntries.map modifiedBy).Perm receipt.modifiedEntities

/-- The receipt reports the operations of a batch. -/
structure FromBatch (batch : List CadManagedOperation) (receipt : CadManagedOperationReceipt) :
    Prop where
  outputs : (receipt.createdOutputs.map fun output => (output.operationId, output.outputId)) =
    batch.flatMap fun op => op.outputIds.map fun id => (op.operationId, id)
  entities : (receipt.modifiedEntities.map fun entity =>
      (entity.operationId, entity.entityId, entity.entityType, entity.fingerprintBefore)) =
    (batch.filter fun op => op.action.transforms).map fun op =>
      (op.operationId, op.target.entityId, op.target.entityType, op.target.fingerprint)

/-- A batch was committed for the first time, with valid records, and the receipts of its undo are
unused. -/
structure CommittedBatch (codec : RecordCodec) (batch : List CadManagedOperation)
    (record : CadManagedCommitRecord) (created : Option CadCreatedOutputCheckpointV1)
    (checkpoint : Option CadRollbackCheckpointV2) (restoreReceipt : CadManagedRestoreReceipt)
    (rollbackReceipt : CadCreatedOutputRollbackReceiptV1) (s s' : Phase8TransactionModel) :
    Prop where
  batch_valid : validateBatch batch = .ok ()
  record_valid : record.validate codec = .ok ()
  created_valid : ∀ c ∈ created, c.validate codec = .ok ()
  checkpoint_valid : ∀ c ∈ checkpoint, c.validate codec = .ok ()
  fromBatch : FromBatch batch record.receipt
  carries : Carries record.receipt created checkpoint
  new : s.commits.lookup record.receipt.receiptId = none
  committed : ∃ fail, Eff.exec (commit record created checkpoint fail) s = (.ok record, s')
  unused : ∀ undo ∈ undos created checkpoint restoreReceipt rollbackReceipt, undo.Unused s

/-- Undo in either order gives back the entities before the commit, a call that throws changes
nothing, and neither does a completed call that is repeated at any later time. -/
structure UndoLaws (before after : Phase8TransactionModel) (undos : List Undo) : Prop where
  undone : Undone before.entities after undos
  undone_reversed : Undone before.entities after undos.reverse
  atomic : ∀ t t' call e, Eff.exec (perform call) t = (.error e, t') → t' = t
  replay : ∀ t t' call again calls, Eff.exec (perform call) t = (.ok (), t') → call.Repeats again →
    Eff.exec (perform again) (runFrom step t' calls) = (.ok (), runFrom step t' calls)

section

variable {codec : RecordCodec} {batch : List CadManagedOperation}
  {record : CadManagedCommitRecord} {created : Option CadCreatedOutputCheckpointV1}
  {checkpoint : Option CadRollbackCheckpointV2} {restoreReceipt : CadManagedRestoreReceipt}
  {rollbackReceipt : CadCreatedOutputRollbackReceiptV1} {s s' t : Phase8TransactionModel}

/-- The entities of a batch's receipt are distinct. -/
theorem FromBatch.nodup {receipt : CadManagedOperationReceipt} (h : FromBatch batch receipt)
    (hbatch : validateBatch batch = .ok ()) :
    (receipt.modifiedEntities.map CadManagedModifiedEntity.entityId).Nodup := by
  have hids := congrArg (List.map fun p : String × String × String × String => p.2.1) h.entities
  rw [List.map_map, List.map_map] at hids
  have htargets : receipt.modifiedEntities.map CadManagedModifiedEntity.entityId = targets batch :=
    hids
  rw [htargets]
  exact validateBatch_targets_nodup hbatch

/-- What a first commit did to the entities. -/
structure Applied (receipt : CadManagedOperationReceipt) (before after : Dictionary String) :
    Prop where
  outputs_nodup : (receipt.createdOutputs.map CadManagedOutputMapping.entityId).Nodup
  entities_nodup : (receipt.modifiedEntities.map CadManagedModifiedEntity.entityId).Nodup
  outputs_new : ∀ output ∈ receipt.createdOutputs, before.lookup output.entityId = none
  entities_held : ∀ entity ∈ receipt.modifiedEntities,
    (Dictionary.setAll CadManagedOutputMapping.entityId CadManagedOutputMapping.fingerprint before
      receipt.createdOutputs).lookup entity.entityId = some entity.fingerprintBefore
  after_eq : after = Dictionary.setAll CadManagedModifiedEntity.entityId
    CadManagedModifiedEntity.fingerprintAfter
    (Dictionary.setAll CadManagedOutputMapping.entityId CadManagedOutputMapping.fingerprint before
      receipt.createdOutputs) receipt.modifiedEntities

theorem CommittedBatch.step (h : CommittedBatch codec batch record created checkpoint
    restoreReceipt rollbackReceipt s s') : Committed s record created checkpoint s' := by
  obtain ⟨fail, hcommit⟩ := h.committed
  rcases commit_new created checkpoint fail h.new
    with ⟨e, he⟩ | ⟨s'', hs'', hcommitted⟩
  · rw [he] at hcommit
    cases hcommit
  · rw [hs''] at hcommit
    cases hcommit
    exact hcommitted

theorem CommittedBatch.applied (h : CommittedBatch codec batch record created checkpoint
    restoreReceipt rollbackReceipt s s') : Applied record.receipt s.entities s'.entities := by
  have hnodup := h.fromBatch.nodup h.batch_valid
  obtain ⟨added, hadded, hchanged⟩ := bind_eq_ok.mp h.step.entities
  obtain ⟨hkeys, hnew, rfl⟩ := Dictionary.addEach_eq_ok.mp hadded
  obtain ⟨hheld, heq⟩ := (Dictionary.changeEach_eq_ok hnodup).mp hchanged
  exact ⟨hkeys, hnodup, hnew, hheld, heq⟩

theorem lookup_addOptional {α : Type} {key : α → String} {entries entries' : Dictionary α} {entry : α}
    (h : addOptional key entries (some entry) = .ok entries') :
    entries'.lookup (key entry) = some entry := by
  obtain ⟨-, -, rfl⟩ := Dictionary.addEach_eq_ok.mp h
  exact Finmap.lookup_insert _

/-- A restore from the checkpoint of a commit finds its targets where they have the fingerprints
that the commit gave them. -/
theorem restore_undoes {receipt : CadManagedOperationReceipt} {c : CadRollbackCheckpointV2}
    (hcarries : Carries receipt created (some c))
    (hnodup : (receipt.modifiedEntities.map CadManagedModifiedEntity.entityId).Nodup)
    (hstored : t.restoreCheckpoints.lookup c.checkpointId = some c)
    (hunused : (Undo.restore c restoreReceipt).Unused t)
    (hheld : ∀ entity ∈ receipt.modifiedEntities,
      t.entities.lookup entity.entityId = some entity.fingerprintAfter) :
    ∃ t', Eff.exec (perform (Undo.restore c restoreReceipt).call) t = (.ok (), t') ∧
      t'.entities = Dictionary.setAll CadManagedModifiedEntity.entityId
        CadManagedModifiedEntity.fingerprintBefore t.entities receipt.modifiedEntities := by
  have hperm := hcarries.entities c rfl
  have hkeys := (hperm.map CadManagedModifiedEntity.entityId).nodup_iff.mpr hnodup
  have hentities : restored t c = .ok (Dictionary.setAll CadManagedModifiedEntity.entityId
      CadManagedModifiedEntity.fingerprintBefore t.entities receipt.modifiedEntities) := by
    rw [← Dictionary.setAll_perm hkeys hperm, Dictionary.setAll, List.foldl_map]
    rw [List.map_map] at hkeys
    refine (Dictionary.changeEach_eq_ok hkeys).mpr ⟨fun entry hentry => ?_, rfl⟩
    exact hheld _ (hperm.mem_iff.mp (List.mem_map_of_mem hentry))
  have hexec := restore_ok hunused hstored hentities
  refine ⟨(Eff.exec (restore c restoreReceipt false) t).2, ?_, by rw [hexec]⟩
  rw [Undo.call, perform, exec_discard, hexec]
  rfl

/-- A rollback finds its outputs where they have the fingerprints that they were created with. -/
theorem rollback_undoes {receipt : CadManagedOperationReceipt} {c : CadCreatedOutputCheckpointV1}
    (hcarries : Carries receipt (some c) checkpoint)
    (hnodup : (receipt.createdOutputs.map CadManagedOutputMapping.entityId).Nodup)
    (hstored : t.createdCheckpoints.lookup c.checkpointId = some c)
    (hunused : (Undo.rollbackCreated c rollbackReceipt).Unused t)
    (hheld : ∀ output ∈ receipt.createdOutputs,
      t.entities.lookup output.entityId = some output.fingerprint) :
    ∃ t', Eff.exec (perform (Undo.rollbackCreated c rollbackReceipt).call) t = (.ok (), t') ∧
      t'.entities = Dictionary.removeAll CadManagedOutputMapping.entityId t.entities
        receipt.createdOutputs := by
  have hperm := hcarries.outputs c rfl
  have hkeys := (hperm.map CadManagedOutputMapping.entityId).nodup_iff.mpr hnodup
  have hentities : rolledBack t c = .ok (Dictionary.removeAll CadManagedOutputMapping.entityId
      t.entities receipt.createdOutputs) := by
    rw [rolledBack, Dictionary.removeEach_eq_ok hkeys]
    exact ⟨fun output houtput => hheld _ (hperm.mem_iff.mp houtput),
      (Dictionary.removeAll_perm hperm).symm⟩
  have hexec := rollback_ok hunused hstored hentities
  refine ⟨(Eff.exec (rollbackCreated c rollbackReceipt false) t).2, ?_, by rw [hexec]⟩
  rw [Undo.call, perform, exec_discard, hexec]
  rfl

theorem undone_restore {receipt : CadManagedOperationReceipt} {c : CadRollbackCheckpointV2}
    {before : Dictionary String} {rest : List Undo}
    (hcarries : Carries receipt created (some c))
    (hnodup : (receipt.modifiedEntities.map CadManagedModifiedEntity.entityId).Nodup)
    (hstored : t.restoreCheckpoints.lookup c.checkpointId = some c)
    (hheld : ∀ entity ∈ receipt.modifiedEntities,
      t.entities.lookup entity.entityId = some entity.fingerprintAfter)
    (hrest : ∀ t', Grows t t' → t'.entities = Dictionary.setAll CadManagedModifiedEntity.entityId
      CadManagedModifiedEntity.fingerprintBefore t.entities receipt.modifiedEntities →
      Undone before t' rest) :
    Undone before t (.restore c restoreReceipt :: rest) := by
  intro calls hsame hunused
  have hgrows := run_grows t calls
  obtain ⟨t', hexec, hentities⟩ := restore_undoes hcarries hnodup
    (hgrows.restoreCheckpoints _ _ hstored) hunused (by rwa [hsame])
  rw [hsame] at hentities
  exact ⟨t', hexec, hrest t' (hgrows.trans (perform_grows hexec)) hentities⟩

theorem undone_rollback {receipt : CadManagedOperationReceipt} {c : CadCreatedOutputCheckpointV1}
    {before : Dictionary String} {rest : List Undo}
    (hcarries : Carries receipt (some c) checkpoint)
    (hnodup : (receipt.createdOutputs.map CadManagedOutputMapping.entityId).Nodup)
    (hstored : t.createdCheckpoints.lookup c.checkpointId = some c)
    (hheld : ∀ output ∈ receipt.createdOutputs,
      t.entities.lookup output.entityId = some output.fingerprint)
    (hrest : ∀ t', Grows t t' → t'.entities = Dictionary.removeAll
      CadManagedOutputMapping.entityId t.entities receipt.createdOutputs → Undone before t' rest) :
    Undone before t (.rollbackCreated c rollbackReceipt :: rest) := by
  intro calls hsame hunused
  have hgrows := run_grows t calls
  obtain ⟨t', hexec, hentities⟩ := rollback_undoes hcarries hnodup
    (hgrows.createdCheckpoints _ _ hstored) hunused (by rwa [hsame])
  rw [hsame] at hentities
  exact ⟨t', hexec, hrest t' (hgrows.trans (perform_grows hexec)) hentities⟩

/-- No created output is the target of a transform of the same commit. -/
def Apart (receipt : CadManagedOperationReceipt) : Prop :=
  ∀ output ∈ receipt.createdOutputs, ∀ entity ∈ receipt.modifiedEntities,
    output.entityId ≠ entity.entityId

instance (receipt : CadManagedOperationReceipt) : Decidable (Apart receipt) :=
  inferInstanceAs (Decidable (∀ output ∈ receipt.createdOutputs,
    ∀ entity ∈ receipt.modifiedEntities, output.entityId ≠ entity.entityId))

theorem Apart.notMem {receipt : CadManagedOperationReceipt} (h : Apart receipt)
    {output : CadManagedOutputMapping}
    (houtput : output ∈ receipt.createdOutputs) :
    output.entityId ∉ receipt.modifiedEntities.map CadManagedModifiedEntity.entityId := by
  intro hmem
  obtain ⟨entity, hentity, hid⟩ := List.mem_map.mp hmem
  exact h output houtput entity hentity hid.symm

namespace Applied

variable {receipt : CadManagedOperationReceipt} {before after : Dictionary String}

theorem held_modified (h : Applied receipt before after) :
    ∀ entity ∈ receipt.modifiedEntities,
      after.lookup entity.entityId = some entity.fingerprintAfter := by
  intro entity hentity
  rw [h.after_eq, Dictionary.lookup_setAll_of_mem h.entities_nodup hentity]

/-- Restored targets leave the outputs alone. -/
theorem restore_modified (h : Applied receipt before after) :
    Dictionary.setAll CadManagedModifiedEntity.entityId CadManagedModifiedEntity.fingerprintBefore
        after receipt.modifiedEntities =
      Dictionary.setAll CadManagedOutputMapping.entityId CadManagedOutputMapping.fingerprint before
        receipt.createdOutputs := by
  rw [h.after_eq]
  exact Dictionary.setAll_back h.entities_nodup h.entities_held

theorem remove_created (h : Applied receipt before after) :
    Dictionary.removeAll CadManagedOutputMapping.entityId
      (Dictionary.setAll CadManagedOutputMapping.entityId CadManagedOutputMapping.fingerprint before
        receipt.createdOutputs) receipt.createdOutputs = before :=
  Dictionary.removeAll_back h.outputs_new

/-- Outputs that nothing transformed are as they were created. -/
theorem held_created (h : Applied receipt before after) (hapart : Apart receipt) :
    ∀ output ∈ receipt.createdOutputs, after.lookup output.entityId = some output.fingerprint := by
  intro output houtput
  rw [h.after_eq, Dictionary.lookup_setAll_of_notMem (hapart.notMem houtput),
    Dictionary.lookup_setAll_of_mem h.outputs_nodup houtput]

/-- Without its outputs the drawing has only the targets changed. -/
theorem remove_first (h : Applied receipt before after) (hapart : Apart receipt) :
    Dictionary.removeAll CadManagedOutputMapping.entityId after receipt.createdOutputs =
      Dictionary.setAll CadManagedModifiedEntity.entityId CadManagedModifiedEntity.fingerprintAfter
        before receipt.modifiedEntities := by
  have hkeys : ∀ k ∈ receipt.createdOutputs.map CadManagedOutputMapping.entityId,
      k ∉ receipt.modifiedEntities.map CadManagedModifiedEntity.entityId := by
    intro k hk
    obtain ⟨output, houtput, rfl⟩ := List.mem_map.mp hk
    exact hapart.notMem houtput
  rw [h.after_eq, Dictionary.removeAll_setAll hkeys h.entities_nodup, h.remove_created]

theorem held_before (h : Applied receipt before after) (hapart : Apart receipt) :
    ∀ entity ∈ receipt.modifiedEntities,
      before.lookup entity.entityId = some entity.fingerprintBefore := by
  intro entity hentity
  rw [← h.entities_held entity hentity, Dictionary.lookup_setAll_of_notMem]
  intro hmem
  obtain ⟨output, houtput, hid⟩ := List.mem_map.mp hmem
  exact hapart output houtput entity hentity hid

theorem restore_last (h : Applied receipt before after) (hapart : Apart receipt) :
    Dictionary.setAll CadManagedModifiedEntity.entityId CadManagedModifiedEntity.fingerprintBefore
        (Dictionary.setAll CadManagedModifiedEntity.entityId
          CadManagedModifiedEntity.fingerprintAfter before receipt.modifiedEntities)
        receipt.modifiedEntities = before :=
  Dictionary.setAll_back h.entities_nodup (h.held_before hapart)

end Applied

/-- The checkpoints of a commit are found after it. -/
theorem Committed.stored {c : CadCreatedOutputCheckpointV1}
    (h : Committed s record (some c) checkpoint s') :
    s'.createdCheckpoints.lookup c.checkpointId = some c :=
  lookup_addOptional h.created

theorem Committed.stored_restore {c : CadRollbackCheckpointV2}
    (h : Committed s record created (some c) s') :
    s'.restoreCheckpoints.lookup c.checkpointId = some c :=
  lookup_addOptional h.restore

/-- Targets first: the outputs are then as they were created, transformed or not. -/
theorem CommittedBatch.undone_forward (h : CommittedBatch codec batch record created checkpoint
    restoreReceipt rollbackReceipt s s') :
    Undone s.entities s' (undos created checkpoint restoreReceipt rollbackReceipt) := by
  have hstep := h.step
  have happlied := h.applied
  have hcarries := h.carries
  have hcreated : created = none → record.receipt.createdOutputs = [] := by
    intro hnone
    by_contra hsome
    exact hstep.createdMaterial.mp hsome hnone
  have hmodified : checkpoint = none → record.receipt.modifiedEntities = [] := by
    intro hnone
    by_contra hsome
    exact hstep.modifiedMaterial.mp hsome hnone
  have hrollback : ∀ t, Grows s' t → t.entities = Dictionary.setAll
      CadManagedOutputMapping.entityId CadManagedOutputMapping.fingerprint s.entities
      record.receipt.createdOutputs →
      Undone s.entities t (created.map fun c => Undo.rollbackCreated c rollbackReceipt).toList := by
    intro t hgrows hentities
    cases created with
    | none =>
        rw [hcreated rfl] at hentities
        exact hentities
    | some c =>
        refine undone_rollback hcarries happlied.outputs_nodup
          (hgrows.createdCheckpoints _ _ hstep.stored) ?_ ?_
        · intro output houtput
          rw [hentities, Dictionary.lookup_setAll_of_mem happlied.outputs_nodup houtput]
        · intro t' _ hentities'
          rw [hentities, happlied.remove_created] at hentities'
          exact hentities'
  cases checkpoint with
  | none =>
      refine hrollback s' (.refl s') ?_
      rw [happlied.after_eq, hmodified rfl]
      rfl
  | some c =>
      refine undone_restore hcarries happlied.entities_nodup hstep.stored_restore
        happlied.held_modified ?_
      intro t hgrows hentities
      exact hrollback t hgrows (hentities.trans happlied.restore_modified)

/-- Outputs first: they have to be as they were created. -/
theorem CommittedBatch.undone_backward (h : CommittedBatch codec batch record created checkpoint
    restoreReceipt rollbackReceipt s s') (hapart : Apart record.receipt) :
    Undone s.entities s' (undos created checkpoint restoreReceipt rollbackReceipt).reverse := by
  have hstep := h.step
  have happlied := h.applied
  have hcarries := h.carries
  cases created with
  | none =>
      -- one undo call at most, so the order is that of the other lemma
      have hforward := h.undone_forward
      cases checkpoint <;> exact hforward
  | some c =>
      cases checkpoint with
      | none => exact h.undone_forward
      | some d =>
          refine undone_rollback hcarries happlied.outputs_nodup hstep.stored
            (happlied.held_created hapart) ?_
          intro t hgrows hentities
          rw [happlied.remove_first hapart] at hentities
          refine undone_restore hcarries happlied.entities_nodup
            (hgrows.restoreCheckpoints _ _ hstep.stored_restore) ?_ ?_
          · intro entity hentity
            rw [hentities, Dictionary.lookup_setAll_of_mem happlied.entities_nodup hentity]
          · intro t' _ hentities'
            rw [hentities, happlied.restore_last hapart] at hentities'
            exact hentities'

theorem restore_inv {c : CadRollbackCheckpointV2} {t' : Phase8TransactionModel}
    (hexec : Eff.exec (perform (Undo.restore c restoreReceipt).call) t = (.ok (), t'))
    (hunused : (Undo.restore c restoreReceipt).Unused t) : restored t c = .ok t'.entities := by
  rw [Undo.call, perform, exec_discard] at hexec
  rcases restore_new c false hunused with ⟨e, he⟩ | ⟨entities, hok, hs⟩
  · rw [he] at hexec
    cases hexec
  · rw [hs] at hexec
    cases hexec
    exact hok

theorem rollback_inv {c : CadCreatedOutputCheckpointV1} {t' : Phase8TransactionModel}
    (hexec : Eff.exec (perform (Undo.rollbackCreated c rollbackReceipt).call) t = (.ok (), t'))
    (hunused : (Undo.rollbackCreated c rollbackReceipt).Unused t) :
    rolledBack t c = .ok t'.entities ∧ t'.restoreReceipts = t.restoreReceipts := by
  rw [Undo.call, perform, exec_discard] at hexec
  rcases rollback_new c false hunused with ⟨e, he⟩ | ⟨entities, hok, hs⟩
  · rw [he] at hexec
    cases hexec
  · rw [hs] at hexec
    cases hexec
    exact ⟨hok, rfl⟩

/-- An output that is also a target is gone once the outputs are removed, so the targets cannot be
restored then. -/
theorem CommittedBatch.not_undone_backward (h : CommittedBatch codec batch record created
    checkpoint restoreReceipt rollbackReceipt s s') (hmeet : ¬ Apart record.receipt) :
    ¬ Undone s.entities s' (undos created checkpoint restoreReceipt rollbackReceipt).reverse := by
  intro hundone
  unfold Apart at hmeet
  push Not at hmeet
  obtain ⟨output, houtput, entity, hentity, hid⟩ := hmeet
  have hstep := h.step
  have happlied := h.applied
  have hcreated := hstep.createdMaterial.mp (List.ne_nil_of_mem houtput)
  have hmodified := hstep.modifiedMaterial.mp (List.ne_nil_of_mem hentity)
  obtain ⟨c, rfl⟩ := Option.ne_none_iff_exists'.mp hcreated
  obtain ⟨d, rfl⟩ := Option.ne_none_iff_exists'.mp hmodified
  have hunused : (Undo.rollbackCreated c rollbackReceipt).Unused s' := by
    have hs := h.unused (Undo.rollbackCreated c rollbackReceipt) (by simp [undos])
    unfold Undo.Unused at hs ⊢
    rwa [hstep.createdRollbackReceipts]
  have hunused' : s'.restoreReceipts.lookup restoreReceipt.restoreReceiptId = none := by
    have hs := h.unused (Undo.restore d restoreReceipt) (by simp [undos])
    rw [hstep.restoreReceipts]
    exact hs
  have houtputs := h.carries.outputs c rfl
  have hentities := h.carries.entities d rfl
  have hkeys := (houtputs.map CadManagedOutputMapping.entityId).nodup_iff.mpr happlied.outputs_nodup
  have hkeys' := (hentities.map CadManagedModifiedEntity.entityId).nodup_iff.mpr
    happlied.entities_nodup
  rw [List.map_map] at hkeys'
  -- after the removal the target is looked up in vain
  obtain ⟨t, hexec, hrest⟩ := hundone [] rfl hunused
  obtain ⟨hremoved, hreceipts⟩ := rollback_inv hexec hunused
  have hunusedAfter : (Undo.restore d restoreReceipt).Unused t := by
    unfold Undo.Unused
    rwa [hreceipts]
  obtain ⟨t', hexec', -⟩ := hrest [] rfl hunusedAfter
  have hrestored := restore_inv hexec' hunusedAfter
  have hgone : t.entities.lookup entity.entityId = none := by
    rw [((Dictionary.removeEach_eq_ok hkeys).mp hremoved).2, ← hid]
    exact Dictionary.lookup_removeAll_of_mem
      (List.mem_map_of_mem (houtputs.mem_iff.mpr houtput))
  obtain ⟨entry, hentry, rfl⟩ := List.mem_map.mp (hentities.mem_iff.mpr hentity)
  have hheld := ((Dictionary.changeEach_eq_ok hkeys').mp hrestored).1 entry hentry
  have hboth := hgone.symm.trans hheld
  cases hboth

variable (codec batch created checkpoint restoreReceipt rollbackReceipt s s') in
/-- Undo is the inverse of a commit in either order exactly where no output is also a target. -/
theorem commit_undo_iff_apart (record : CadManagedCommitRecord)
    (h : CommittedBatch codec batch record created checkpoint restoreReceipt rollbackReceipt s s') :
    UndoLaws s s' (undos created checkpoint restoreReceipt rollbackReceipt) ↔
      Apart record.receipt := by
  constructor
  · intro hlaws
    by_contra hmeet
    exact h.not_undone_backward hmeet hlaws.undone_reversed
  · intro hapart
    refine ⟨h.undone_forward, h.undone_backward hapart, ?_, ?_⟩
    · intro t t' call e herror
      exact perform_atomic herror
    · intro t t' call again calls hdone hrepeats
      exact ((perform_stored hdone).mono (run_grows t' calls)).replay hrepeats

end

/-! ## A copy and a move -/

def digestOf (c : Char) : String := "sha256:" ++ String.ofList (List.replicate 64 c)

theorem requireDigest_digestOf {c : Char} (h : c.isDigit ∨ ('a' ≤ c ∧ c ≤ 'f')) :
    requireDigest (digestOf c) = .ok () := by
  have hchars : (digestOf c).toList = "sha256:".toList ++ List.replicate 64 c := by
    simp [digestOf]
  have hsmall : c.toNat < 0x10000 := by
    rcases h with h | h
    · simp only [Char.isDigit, Bool.and_eq_true, decide_eq_true_eq, UInt32.le_iff_toNat_le] at h
      have h9 : c.val.toNat ≤ 57 := h.2
      show c.val.toNat < 0x10000
      omega
    · have hf : c.val.toNat ≤ 'f'.val.toNat := h.2
      have h102 : 'f'.val.toNat = 102 := rfl
      show c.val.toNat < 0x10000
      omega
  have hutf : JsonText.utf16 c = [c.toNat] := if_pos hsmall
  refine check_true ?_
  unfold isDigest utf16Length
  rw [hchars]
  simp only [List.flatMap_append, List.length_append, List.flatMap_replicate, hutf]
  simp
  exact ⟨by decide, h⟩
def sampleCodec : RecordCodec where
  hashText _ := String.ofList (List.replicate 64 'a')
  parsesDate text := text.length = 20
  dependencies _ := digestOf 'b'
  descriptor _ := digestOf 'c'
  commitRecord _ := digestOf 'd'
  createdCheckpoint _ := digestOf 'e'
  checkpoint _ := digestOf 'f'

def samplePins : CadManagedRuntimePins :=
  ⟨"managed_dotnet", "R25", "25.0", digestOf '0', "cad.operation-registry/1", digestOf '0',
    digestOf '0', digestOf '0', digestOf '0', digestOf '0', digestOf '0'⟩

def copySource : CadStableEntityRef := ⟨"drawing-1", "2A", "LINE", digestOf '1'⟩

/-- A line is copied and another entity moved. -/
def sampleBatch (target : String) : List CadManagedOperation :=
  [⟨"copy-1", copySource, .copy ⟨10, 0, 0⟩ "line-copy"⟩,
    ⟨"move-1", ⟨"drawing-1", target, "LINE", digestOf '3'⟩, .move ⟨5, 0, 0⟩⟩]

def sampleOutput : CadManagedOutputMapping :=
  ⟨"copy-1", "line-copy", "2B", "LINE", "0", digestOf '3'⟩

def sampleRecord (target : String) : CadManagedCommitRecord :=
  ⟨"cad.operation.receipt/1",
    ⟨"receipt-1", digestOf '0', digestOf '0', digestOf '0', digestOf '0', "drawing-1", "11", "12",
      [sampleOutput], [⟨"move-1", target, "LINE", digestOf '3', digestOf '4'⟩],
      some "AUTOCAD_MCP_CHECKPOINT_1", some (digestOf 'e'),
      some "AUTOCAD_MCP_CHECKPOINT_2", some (digestOf 'f'), samplePins⟩,
    "2026-07-28T00:00:00Z", digestOf 'd'⟩

def sampleCreated : CadCreatedOutputCheckpointV1 :=
  ⟨"cad.created-output.checkpoint/1",
    "AUTOCAD_MCP_CHECKPOINT_" ++ String.ofList (List.replicate 32 'a'),
    "receipt-1", digestOf '0', digestOf '0', digestOf '0', digestOf '0', "drawing-1", "11", "12",
    [sampleOutput], samplePins, "2026-07-28T00:00:00Z", digestOf 'e'⟩

def sampleDescriptor : CadEntityRestoreDescriptorV2 :=
  ⟨"cad.restore-descriptor/2", "restore_allowlisted_preimage", "LINE",
    ⟨"0", "ByLayer", 1, -1, true, 256⟩, some ⟨0, 0, 0⟩, some ⟨10, 0, 0⟩, none, none, none, none,
    none, none⟩

def sampleCheckpointId : String :=
  "AUTOCAD_MCP_CHECKPOINT_V2_" ++ String.ofList (List.replicate 32 'a')

def sampleCheckpoint (target : String) : CadRollbackCheckpointV2 :=
  ⟨"cad.rollback.checkpoint/2", sampleCheckpointId,
    "receipt-1", digestOf '0', digestOf '0', "drawing-1", "11", "12",
    [⟨"move-1", ⟨"drawing-1", target, "LINE", digestOf '3'⟩, digestOf '4', "MODEL_SPACE",
      "snapshot-1", [⟨"layer", "0", digestOf '0'⟩], digestOf 'b', sampleDescriptor, digestOf 'c'⟩],
    samplePins, "owner-1", "device-1", "snapshot-1", digestOf '0', 2000, "2026-07-28T00:00:00Z",
    digestOf 'f'⟩

def sampleRestoreReceipt : CadManagedRestoreReceipt :=
  ⟨"cad.restore.receipt/2", "restore-1", digestOf '0', "checkpoint-2", digestOf 'f', digestOf '0',
    digestOf '0', digestOf '0', "drawing-1", "12", "13",
    [⟨"move-1", "2D", "LINE", digestOf '4', digestOf '3'⟩], samplePins, "2026-07-28T00:01:00Z",
    digestOf '8'⟩

def sampleRollbackReceipt : CadCreatedOutputRollbackReceiptV1 :=
  ⟨"cad.created-output.rollback-receipt/1", "rollback-1", digestOf '0', "checkpoint-1",
    digestOf 'e', digestOf '0', "drawing-1", "12", "13",
    [⟨"line-copy", "2B", "LINE", digestOf '3'⟩], samplePins, "2026-07-28T00:01:00Z", digestOf '9'⟩

/-- A drawing with two lines. -/
def sampleModel : Phase8TransactionModel where
  entities := List.toFinmap [⟨"2A", digestOf '1'⟩, ⟨"2D", digestOf '3'⟩]
  commits := ∅
  createdCheckpoints := ∅
  restoreCheckpoints := ∅
  restoreReceipts := ∅
  createdRollbackReceipts := ∅

def sampleCommitted (target : String) : Phase8TransactionModel :=
  (Eff.exec (commit (sampleRecord target) (some sampleCreated) (some (sampleCheckpoint target))
    false) sampleModel).2

/-- The two targets that the batch is read with. -/
def sampleTargets : List String := ["2B", "2D"]

theorem samplePins_valid : samplePins.validate = .ok () := by
  unfold CadManagedRuntimePins.validate samplePins
  simp (disch := decide) only [requireDigest_digestOf]
  decide

theorem sampleBatch_valid : ∀ target ∈ sampleTargets, validateBatch (sampleBatch target) = .ok () := by
  decide

theorem sampleRecord_valid :
    ∀ target ∈ sampleTargets, (sampleRecord target).validate sampleCodec = .ok () := by
  unfold CadManagedCommitRecord.validate CadManagedOperationReceipt.validate sampleRecord
    requireOptionalDigest
  simp (disch := decide) only [requireDigest_digestOf, samplePins_valid]
  decide

theorem sampleCreated_valid : sampleCreated.validate sampleCodec = .ok () := by
  unfold CadCreatedOutputCheckpointV1.validate sampleCreated
  simp (disch := decide) only [requireDigest_digestOf, samplePins_valid, List.foldlM_cons,
    List.foldlM_nil, CadCreatedOutputCheckpointV1.visit, sampleOutput]
  decide

theorem sampleDescriptor_valid : sampleDescriptor.validate = .ok () := by
  decide

theorem sampleCheckpointId_valid : requireIdentifier sampleCheckpointId 64 = .ok () ∧
    CadRollbackCheckpointV2.buildCheckpointId sampleCodec "receipt-1" = .ok sampleCheckpointId := by
  decide

theorem sampleIds_valid : ∀ id ∈ ["receipt-1", "drawing-1", "owner-1", "device-1", "snapshot-1",
    "move-1", "2B", "2D"], requireIdentifier id 128 = .ok () := by
  decide

theorem sampleDependency_valid : CadDependencyRefV2.validate ⟨"layer", "0", digestOf '0'⟩ = .ok () :=
  pass (check_true (by decide)) (requireDigest_digestOf (by decide))

theorem sampleCheckpoint_valid :
    ∀ target ∈ sampleTargets, (sampleCheckpoint target).validate sampleCodec = .ok () := by
  intro target htarget
  have hid : requireIdentifier target 128 = .ok () := by
    revert target
    decide
  have hzero := @requireDigest_digestOf '0' (by decide)
  have hentity : CadStableEntityRef.validate ⟨"drawing-1", target, "LINE", digestOf '3'⟩ = .ok () :=
    pass (sampleIds_valid "drawing-1" (by decide)) <| pass hid <|
      pass (requireDigest_digestOf (by decide)) <|
      check_true (show "LINE" ∈ Phase8ManagedOperationContract.supportedEntityTypes by decide)
  have hspace : requireIdentifier "MODEL_SPACE" 64 = .ok () := by decide
  have hdate : sampleCodec.parsesDate "2026-07-28T00:00:00Z" = true := by decide
  have hentry : ∀ entry ∈ (sampleCheckpoint target).restoreEntries,
      CadRestoreEntryV2.validate sampleCodec "snapshot-1" entry = .ok () := by
    intro entry hentry
    obtain rfl := List.mem_singleton.mp hentry
    exact pass (sampleIds_valid "move-1" (by decide)) <| pass hentity <|
      pass (requireDigest_digestOf (by decide)) <| pass hspace <|
      pass (sampleIds_valid "snapshot-1" (by decide)) <|
      pass (requireDigest_digestOf (by decide)) <| pass (requireDigest_digestOf (by decide)) <|
      pass sampleDescriptor_valid <| pass (check_true ⟨rfl, rfl, rfl, by simp, by simp, rfl, rfl⟩) <|
      pass sampleDependency_valid rfl
  refine pass (check_true rfl) <| pass sampleCheckpointId_valid.1 <|
    pass (sampleIds_valid "receipt-1" (by decide)) <|
    pass (sampleIds_valid "drawing-1" (by decide)) <|
    pass (sampleIds_valid "owner-1" (by decide)) <|
    pass (sampleIds_valid "device-1" (by decide)) <|
    pass (sampleIds_valid "snapshot-1" (by decide)) <| pass hzero <| pass hzero <| pass hzero <|
    bind_eq_ok.mpr ⟨sampleCheckpointId, sampleCheckpointId_valid.2, ?_⟩
  refine pass (check_true ⟨rfl, by simp [sampleCheckpoint], by simp [sampleCheckpoint,
    Phase8ManagedOperationContract.maxOperations], hdate⟩) <|
    pass (pass (hentry _ List.mem_cons_self) rfl) ?_
  have hpins : (sampleCheckpoint target).runtimePins.validate = .ok () := samplePins_valid
  rw [hpins]
  exact pass (check_true (by simp [sampleCheckpoint,
    Phase8ManagedOperationContract.maxRestoreBytes])) <|
    pass (requireDigest_digestOf (by decide)) <| check_true rfl

theorem sampleRecord_fromBatch (target : String) :
    FromBatch (sampleBatch target) (sampleRecord target).receipt := ⟨rfl, rfl⟩

theorem sampleRecord_carries (target : String) : Carries (sampleRecord target).receipt
    (some sampleCreated) (some (sampleCheckpoint target)) where
  outputs := by
    rintro c ⟨⟩
    exact List.Perm.refl _
  entities := by
    rintro c ⟨⟩
    exact List.Perm.refl _

theorem sampleCommit_isOk : ∀ target ∈ sampleTargets,
    (Eff.exec (commit (sampleRecord target) (some sampleCreated) (some (sampleCheckpoint target))
      false) sampleModel).1.isOk = true := by
  decide

theorem sample_committed {target : String} (h : target ∈ sampleTargets) :
    CommittedBatch sampleCodec (sampleBatch target) (sampleRecord target) (some sampleCreated)
      (some (sampleCheckpoint target)) sampleRestoreReceipt sampleRollbackReceipt sampleModel
      (sampleCommitted target) where
  batch_valid := sampleBatch_valid target h
  record_valid := sampleRecord_valid target h
  created_valid := by
    rintro c ⟨⟩
    exact sampleCreated_valid
  checkpoint_valid := by
    rintro c ⟨⟩
    exact sampleCheckpoint_valid target h
  fromBatch := sampleRecord_fromBatch target
  carries := sampleRecord_carries target
  new := rfl
  committed := by
    refine ⟨false, ?_⟩
    have hnew : sampleModel.commits.lookup (sampleRecord target).receipt.receiptId = none := rfl
    rcases commit_new (some sampleCreated) (some (sampleCheckpoint target)) false hnew
      with ⟨e, he⟩ | ⟨s', hs', -⟩
    · have hok := sampleCommit_isOk target h
      rw [he] at hok
      cases hok
    · rw [sampleCommitted, hs']
  unused := by
    intro undo hundo
    simp only [undos, Option.map_some, Option.toList_some, List.singleton_append, List.mem_cons,
      List.not_mem_nil, or_false] at hundo
    rcases hundo with rfl | rfl <;> rfl

/-- A line is copied and another one, which was there before, is moved. -/
theorem sample_undo_laws : UndoLaws sampleModel (sampleCommitted "2D")
    (undos (some sampleCreated) (some (sampleCheckpoint "2D")) sampleRestoreReceipt
      sampleRollbackReceipt) :=
  (commit_undo_iff_apart sampleCodec (sampleBatch "2D") (some sampleCreated)
    (some (sampleCheckpoint "2D")) sampleRestoreReceipt sampleRollbackReceipt sampleModel
    (sampleCommitted "2D") (sampleRecord "2D") (sample_committed (by decide))).mpr
    (by decide)

/-- The line that the copy creates is moved by the same commit. Right after it, with nothing
changed by others, the output cannot be rolled back. -/
theorem overlap_not_undone : CommittedBatch sampleCodec (sampleBatch "2B") (sampleRecord "2B")
      (some sampleCreated) (some (sampleCheckpoint "2B")) sampleRestoreReceipt
      sampleRollbackReceipt sampleModel (sampleCommitted "2B") ∧
    (Eff.exec (rollbackCreated sampleCreated sampleRollbackReceipt false)
      (sampleCommitted "2B")).1 = .error (conflict "Created output drifted before rollback.") ∧
    ¬ UndoLaws sampleModel (sampleCommitted "2B") (undos (some sampleCreated)
      (some (sampleCheckpoint "2B")) sampleRestoreReceipt sampleRollbackReceipt) := by
  have hcommitted := sample_committed (show "2B" ∈ sampleTargets by decide)
  refine ⟨hcommitted, by decide, fun hlaws => ?_⟩
  exact hcommitted.not_undone_backward (by decide) hlaws.undone_reversed

end Phase8TransactionModel

end AutocadMcp.Host
