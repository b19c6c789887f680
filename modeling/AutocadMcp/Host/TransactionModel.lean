import AutocadMcp.Host.OperationReceipts
import AutocadMcp.Lib.Dictionary
import AutocadMcp.Lib.Effect
import AutocadMcp.Lib.Machine

/-!
# The transaction model of the host

A drawing as the fingerprints of its entities, with the records of what was committed
to it and undone. A commit adds created outputs and changes targets; `restore` takes
the targets back and `rollbackCreated` removes the outputs. Each call works on copies
and replaces the dictionaries at its end, and a call whose record is already there
returns what is stored.
-/

namespace AutocadMcp.Host

/-- What a call throws. -/
inductive HostException where
  | protocolValidation (exception : ProtocolValidationException)
  | invalidOperation (message : String)
  | argument
  deriving DecidableEq

structure Phase8TransactionModel where
  entities : Dictionary String
  commits : Dictionary CadManagedCommitRecord
  createdCheckpoints : Dictionary CadCreatedOutputCheckpointV1
  restoreCheckpoints : Dictionary CadRollbackCheckpointV2
  restoreReceipts : Dictionary CadManagedRestoreReceipt
  createdRollbackReceipts : Dictionary CadCreatedOutputRollbackReceiptV1

namespace Phase8TransactionModel

abbrev Transaction (α : Type) := Eff HostException Phase8TransactionModel α

def conflict (message : String) : HostException :=
  .protocolValidation ⟨"rollback_conflict", message⟩

def mismatch : HostException :=
  .protocolValidation ⟨"duplicate_payload_mismatch",
    "Durable Phase 8 identity was reused with another payload."⟩

/-- `if (!p) throw e`. -/
def require (p : Prop) [Decidable p] (e : HostException) : Transaction Unit :=
  if p then pure () else throw e

def lift {α : Type} : Except HostException α → Transaction α
  | .ok a => pure a
  | .error e => throw e

/-- `Dictionary.Add` of an entry that may be absent. -/
def addOptional {α : Type} (key : α → String) (entries : Dictionary α) (entry : Option α) :
    Except HostException (Dictionary α) :=
  Dictionary.addEach .argument key id entries entry.toList

/-- `Seed`. -/
def seed (entityId fingerprint : String) : Transaction Unit := do
  let s ← get
  require (s.entities.lookup entityId = none) .argument
  set { s with entities := s.entities.insert entityId fingerprint }

/-- Created outputs first, then the targets. -/
def applyCommit (receipt : CadManagedOperationReceipt) (entities : Dictionary String) :
    Except HostException (Dictionary String) := do
  let entities ← Dictionary.addEach (conflict "Created output already exists.")
    CadManagedOutputMapping.entityId CadManagedOutputMapping.fingerprint entities
    receipt.createdOutputs
  Dictionary.changeEach (conflict "Transform target drifted before commit.")
    CadManagedModifiedEntity.entityId CadManagedModifiedEntity.fingerprintBefore
    CadManagedModifiedEntity.fingerprintAfter entities receipt.modifiedEntities

/-- `Commit`. -/
def commit (record : CadManagedCommitRecord) (createdCheckpoint : Option CadCreatedOutputCheckpointV1)
    (restoreCheckpoint : Option CadRollbackCheckpointV2) (failBeforeCommit : Bool) :
    Transaction CadManagedCommitRecord := do
  let receipt := record.receipt
  let s ← get
  match s.commits.lookup receipt.receiptId with
  | some existing =>
      require (existing.receiptDigest = record.receiptDigest) mismatch
      return existing
  | none =>
      require ((receipt.createdOutputs ≠ [] ↔ createdCheckpoint ≠ none) ∧
          (receipt.modifiedEntities ≠ [] ↔ restoreCheckpoint ≠ none) ∧
          receipt.checkpointV1Digest = createdCheckpoint.map (·.checkpointDigest) ∧
          receipt.checkpointV2Digest = restoreCheckpoint.map (·.checkpointDigest))
        (conflict "Receipt and checkpoint material do not match.")
      let entities ← lift (applyCommit receipt s.entities)
      let commits := s.commits.insert receipt.receiptId record
      let created ← lift (addOptional CadCreatedOutputCheckpointV1.checkpointId s.createdCheckpoints
        createdCheckpoint)
      let restore ← lift (addOptional CadRollbackCheckpointV2.checkpointId s.restoreCheckpoints
        restoreCheckpoint)
      require (failBeforeCommit = false) (.invalidOperation "Injected Phase 8 commit failure.")
      modify fun s => { s with entities := entities }
      modify fun s => { s with commits := commits }
      modify fun s => { s with createdCheckpoints := created }
      modify fun s => { s with restoreCheckpoints := restore }
      return record

/-- `Restore`. -/
def restore (checkpoint : CadRollbackCheckpointV2) (receipt : CadManagedRestoreReceipt)
    (failBeforeCommit : Bool) : Transaction CadManagedRestoreReceipt := do
  let s ← get
  match s.restoreReceipts.lookup receipt.restoreReceiptId with
  | some existing =>
      require (existing.receiptDigest = receipt.receiptDigest) mismatch
      return existing
  | none =>
      require ((s.restoreCheckpoints.lookup checkpoint.checkpointId).map (·.checkpointDigest) =
          some checkpoint.checkpointDigest) (conflict "Checkpoint v2 is unavailable.")
      let entities ← lift (Dictionary.changeEach
        (conflict "Transform target drifted before restore.")
        (fun entry : CadRestoreEntryV2 => entry.targetBefore.entityId)
        CadRestoreEntryV2.fingerprintAfter (fun entry => entry.targetBefore.fingerprint)
        s.entities checkpoint.restoreEntries)
      let receipts := s.restoreReceipts.insert receipt.restoreReceiptId receipt
      require (failBeforeCommit = false) (.invalidOperation "Injected Phase 8 restore failure.")
      modify fun s => { s with entities := entities }
      modify fun s => { s with restoreReceipts := receipts }
      return receipt

/-- `RollbackCreated`. -/
def rollbackCreated (checkpoint : CadCreatedOutputCheckpointV1)
    (receipt : CadCreatedOutputRollbackReceiptV1) (failBeforeCommit : Bool) :
    Transaction CadCreatedOutputRollbackReceiptV1 := do
  let s ← get
  match s.createdRollbackReceipts.lookup receipt.rollbackReceiptId with
  | some existing =>
      require (existing.receiptDigest = receipt.receiptDigest) mismatch
      return existing
  | none =>
      require ((s.createdCheckpoints.lookup checkpoint.checkpointId).map (·.checkpointDigest) =
          some checkpoint.checkpointDigest) (conflict "Created-output checkpoint is unavailable.")
      let entities ← lift (Dictionary.removeEach
        (conflict "Created output drifted before rollback.")
        CadManagedOutputMapping.entityId CadManagedOutputMapping.fingerprint
        s.entities checkpoint.createdOutputs)
      let receipts := s.createdRollbackReceipts.insert receipt.rollbackReceiptId receipt
      require (failBeforeCommit = false)
        (.invalidOperation "Injected Phase 8 created-output rollback failure.")
      modify fun s => { s with entities := entities }
      modify fun s => { s with createdRollbackReceipts := receipts }
      return receipt

/-- A call of the model with its arguments. -/
inductive Call where
  | seed (entityId fingerprint : String)
  | commit (record : CadManagedCommitRecord)
      (createdCheckpoint : Option CadCreatedOutputCheckpointV1)
      (restoreCheckpoint : Option CadRollbackCheckpointV2) (failBeforeCommit : Bool)
  | restore (checkpoint : CadRollbackCheckpointV2) (receipt : CadManagedRestoreReceipt)
      (failBeforeCommit : Bool)
  | rollbackCreated (checkpoint : CadCreatedOutputCheckpointV1)
      (receipt : CadCreatedOutputRollbackReceiptV1) (failBeforeCommit : Bool)

/-- What a call does, without its result. -/
def perform : Call → Transaction Unit
  | .seed entityId fingerprint => seed entityId fingerprint
  | .commit record created checkpoint fail => discard (commit record created checkpoint fail)
  | .restore checkpoint receipt fail => discard (restore checkpoint receipt fail)
  | .rollbackCreated checkpoint receipt fail => discard (rollbackCreated checkpoint receipt fail)

/-- The state after a call. -/
def step (s : Phase8TransactionModel) (call : Call) : Phase8TransactionModel :=
  (Eff.exec (perform call) s).2

/-! ## What each call does -/

section

variable {α β : Type} {s s' : Phase8TransactionModel}

theorem exec_pure (a : α) : Eff.exec (pure a : Transaction α) s = (.ok a, s) := rfl

theorem exec_get : Eff.exec (get : Transaction Phase8TransactionModel) s = (.ok s, s) := rfl

theorem exec_modify (f : Phase8TransactionModel → Phase8TransactionModel) :
    Eff.exec (modify f : Transaction PUnit) s = (.ok ⟨⟩, f s) := rfl

theorem exec_require {p : Prop} [Decidable p] {e : HostException} :
    Eff.exec (require p e) s = if p then (.ok (), s) else (.error e, s) := by
  unfold require
  by_cases h : p
  · rw [if_pos h, if_pos h]
    rfl
  · rw [if_neg h, if_neg h]
    rfl

theorem exec_lift {r : Except HostException α} : Eff.exec (lift r) s = (r, s) := by
  cases r <;> rfl

/-- A new commit went through from one state to the other. -/
structure Committed (s : Phase8TransactionModel) (record : CadManagedCommitRecord)
    (createdCheckpoint : Option CadCreatedOutputCheckpointV1)
    (restoreCheckpoint : Option CadRollbackCheckpointV2) (s' : Phase8TransactionModel) : Prop where
  new : s.commits.lookup record.receipt.receiptId = none
  createdMaterial : record.receipt.createdOutputs ≠ [] ↔ createdCheckpoint ≠ none
  modifiedMaterial : record.receipt.modifiedEntities ≠ [] ↔ restoreCheckpoint ≠ none
  entities : applyCommit record.receipt s.entities = .ok s'.entities
  commits : s'.commits = s.commits.insert record.receipt.receiptId record
  created : addOptional CadCreatedOutputCheckpointV1.checkpointId s.createdCheckpoints
    createdCheckpoint = .ok s'.createdCheckpoints
  restore : addOptional CadRollbackCheckpointV2.checkpointId s.restoreCheckpoints
    restoreCheckpoint = .ok s'.restoreCheckpoints
  restoreReceipts : s'.restoreReceipts = s.restoreReceipts
  createdRollbackReceipts : s'.createdRollbackReceipts = s.createdRollbackReceipts

theorem commit_stored {record existing : CadManagedCommitRecord}
    {created : Option CadCreatedOutputCheckpointV1} {checkpoint : Option CadRollbackCheckpointV2}
    {fail : Bool} (h : s.commits.lookup record.receipt.receiptId = some existing) :
    Eff.exec (commit record created checkpoint fail) s =
      if existing.receiptDigest = record.receiptDigest then (.ok existing, s)
      else (.error mismatch, s) := by
  rw [commit, Eff.exec_bind, exec_get]
  simp only [h]
  rw [Eff.exec_bind, exec_require]
  by_cases hdigest : existing.receiptDigest = record.receiptDigest
  · rw [if_pos hdigest, if_pos hdigest]
    rfl
  · rw [if_neg hdigest, if_neg hdigest]

theorem commit_new (created : Option CadCreatedOutputCheckpointV1)
    (checkpoint : Option CadRollbackCheckpointV2) (fail : Bool) {record : CadManagedCommitRecord}
    (h : s.commits.lookup record.receipt.receiptId = none) :
    (∃ e, Eff.exec (commit record created checkpoint fail) s = (.error e, s)) ∨
      ∃ s', Eff.exec (commit record created checkpoint fail) s = (.ok record, s') ∧
        Committed s record created checkpoint s' := by
  rw [commit, Eff.exec_bind, exec_get]
  simp only [h]
  rw [Eff.exec_bind, exec_require]
  split_ifs with hmaterial
  swap
  · exact .inl ⟨_, rfl⟩
  simp only [Eff.exec_bind, exec_lift, exec_require, exec_modify, exec_pure]
  rcases hentities : applyCommit record.receipt s.entities with e | entities
  · exact .inl ⟨e, rfl⟩
  rcases hcreated : addOptional CadCreatedOutputCheckpointV1.checkpointId s.createdCheckpoints
    created with e | createdCheckpoints
  · exact .inl ⟨e, rfl⟩
  rcases hrestore : addOptional CadRollbackCheckpointV2.checkpointId s.restoreCheckpoints
    checkpoint with e | restoreCheckpoints
  · exact .inl ⟨e, rfl⟩
  cases fail with
  | true => exact .inl ⟨_, rfl⟩
  | false =>
      refine .inr ⟨_, rfl, ?_⟩
      exact ⟨h, hmaterial.1, hmaterial.2.1, hentities, rfl, hcreated, hrestore, rfl, rfl⟩

theorem restore_stored {checkpoint : CadRollbackCheckpointV2}
    {receipt existing : CadManagedRestoreReceipt} {fail : Bool}
    (h : s.restoreReceipts.lookup receipt.restoreReceiptId = some existing) :
    Eff.exec (restore checkpoint receipt fail) s =
      if existing.receiptDigest = receipt.receiptDigest then (.ok existing, s)
      else (.error mismatch, s) := by
  rw [restore, Eff.exec_bind, exec_get]
  simp only [h]
  rw [Eff.exec_bind, exec_require]
  by_cases hdigest : existing.receiptDigest = receipt.receiptDigest
  · rw [if_pos hdigest, if_pos hdigest]
    rfl
  · rw [if_neg hdigest, if_neg hdigest]

/-- The entities after a restore. -/
def restored (s : Phase8TransactionModel) (checkpoint : CadRollbackCheckpointV2) :
    Except HostException (Dictionary String) :=
  Dictionary.changeEach (conflict "Transform target drifted before restore.")
    (fun entry : CadRestoreEntryV2 => entry.targetBefore.entityId)
    CadRestoreEntryV2.fingerprintAfter (fun entry => entry.targetBefore.fingerprint)
    s.entities checkpoint.restoreEntries

/-- A restore under an unused receipt fails, or changes the entities and adds the receipt. -/
theorem restore_new (checkpoint : CadRollbackCheckpointV2) (fail : Bool)
    {receipt : CadManagedRestoreReceipt} (h : s.restoreReceipts.lookup receipt.restoreReceiptId = none) :
    (∃ e, Eff.exec (restore checkpoint receipt fail) s = (.error e, s)) ∨
      ∃ entities, restored s checkpoint = .ok entities ∧
        Eff.exec (restore checkpoint receipt fail) s = (.ok receipt, { s with
          entities := entities
          restoreReceipts := s.restoreReceipts.insert receipt.restoreReceiptId receipt }) := by
  rw [restore, Eff.exec_bind, exec_get]
  simp only [h]
  rw [Eff.exec_bind, exec_require]
  split_ifs with hcheckpoint
  swap
  · exact .inl ⟨_, rfl⟩
  simp only [Eff.exec_bind, exec_lift, exec_require, exec_modify, exec_pure]
  rcases hentities : restored s checkpoint with e | entities
  · rw [restored] at hentities
    rw [hentities]
    exact .inl ⟨e, rfl⟩
  have hrestored := hentities
  rw [restored] at hentities
  rw [hentities]
  cases fail with
  | true => exact .inl ⟨_, rfl⟩
  | false => exact .inr ⟨entities, rfl, rfl⟩

/-- It does not fail where the checkpoint is there and no target drifted. -/
theorem restore_ok {checkpoint : CadRollbackCheckpointV2} {receipt : CadManagedRestoreReceipt}
    {entities : Dictionary String}
    (h : s.restoreReceipts.lookup receipt.restoreReceiptId = none)
    (hcheckpoint : s.restoreCheckpoints.lookup checkpoint.checkpointId = some checkpoint)
    (hentities : restored s checkpoint = .ok entities) :
    Eff.exec (restore checkpoint receipt false) s = (.ok receipt, { s with
      entities := entities
      restoreReceipts := s.restoreReceipts.insert receipt.restoreReceiptId receipt }) := by
  rw [restored] at hentities
  have hdigest : (s.restoreCheckpoints.lookup checkpoint.checkpointId).map (·.checkpointDigest) =
      some checkpoint.checkpointDigest := by rw [hcheckpoint]; rfl
  rw [restore, Eff.exec_bind, exec_get]
  simp only [h]
  rw [Eff.exec_bind, exec_require, if_pos hdigest]
  simp only [Eff.exec_bind, exec_lift, exec_require, exec_modify, exec_pure, hentities]
  rfl

theorem rollback_stored {checkpoint : CadCreatedOutputCheckpointV1}
    {receipt existing : CadCreatedOutputRollbackReceiptV1} {fail : Bool}
    (h : s.createdRollbackReceipts.lookup receipt.rollbackReceiptId = some existing) :
    Eff.exec (rollbackCreated checkpoint receipt fail) s =
      if existing.receiptDigest = receipt.receiptDigest then (.ok existing, s)
      else (.error mismatch, s) := by
  rw [rollbackCreated, Eff.exec_bind, exec_get]
  simp only [h]
  rw [Eff.exec_bind, exec_require]
  by_cases hdigest : existing.receiptDigest = receipt.receiptDigest
  · rw [if_pos hdigest, if_pos hdigest]
    rfl
  · rw [if_neg hdigest, if_neg hdigest]

/-- The entities after a rollback of created outputs. -/
def rolledBack (s : Phase8TransactionModel) (checkpoint : CadCreatedOutputCheckpointV1) :
    Except HostException (Dictionary String) :=
  Dictionary.removeEach (conflict "Created output drifted before rollback.")
    CadManagedOutputMapping.entityId CadManagedOutputMapping.fingerprint
    s.entities checkpoint.createdOutputs

theorem rollback_new (checkpoint : CadCreatedOutputCheckpointV1) (fail : Bool)
    {receipt : CadCreatedOutputRollbackReceiptV1}
    (h : s.createdRollbackReceipts.lookup receipt.rollbackReceiptId = none) :
    (∃ e, Eff.exec (rollbackCreated checkpoint receipt fail) s = (.error e, s)) ∨
      ∃ entities, rolledBack s checkpoint = .ok entities ∧
        Eff.exec (rollbackCreated checkpoint receipt fail) s = (.ok receipt, { s with
          entities := entities
          createdRollbackReceipts :=
            s.createdRollbackReceipts.insert receipt.rollbackReceiptId receipt }) := by
  rw [rollbackCreated, Eff.exec_bind, exec_get]
  simp only [h]
  rw [Eff.exec_bind, exec_require]
  split_ifs with hcheckpoint
  swap
  · exact .inl ⟨_, rfl⟩
  simp only [Eff.exec_bind, exec_lift, exec_require, exec_modify, exec_pure]
  rcases hentities : rolledBack s checkpoint with e | entities
  · rw [rolledBack] at hentities
    rw [hentities]
    exact .inl ⟨e, rfl⟩
  rw [rolledBack] at hentities
  rw [hentities]
  cases fail with
  | true => exact .inl ⟨_, rfl⟩
  | false => exact .inr ⟨entities, rfl, rfl⟩

theorem rollback_ok {checkpoint : CadCreatedOutputCheckpointV1}
    {receipt : CadCreatedOutputRollbackReceiptV1} {entities : Dictionary String}
    (h : s.createdRollbackReceipts.lookup receipt.rollbackReceiptId = none)
    (hcheckpoint : s.createdCheckpoints.lookup checkpoint.checkpointId = some checkpoint)
    (hentities : rolledBack s checkpoint = .ok entities) :
    Eff.exec (rollbackCreated checkpoint receipt false) s = (.ok receipt, { s with
      entities := entities
      createdRollbackReceipts :=
        s.createdRollbackReceipts.insert receipt.rollbackReceiptId receipt }) := by
  rw [rolledBack] at hentities
  have hdigest : (s.createdCheckpoints.lookup checkpoint.checkpointId).map (·.checkpointDigest) =
      some checkpoint.checkpointDigest := by rw [hcheckpoint]; rfl
  rw [rollbackCreated, Eff.exec_bind, exec_get]
  simp only [h]
  rw [Eff.exec_bind, exec_require, if_pos hdigest]
  simp only [Eff.exec_bind, exec_lift, exec_require, exec_modify, exec_pure, hentities]
  rfl

theorem exec_discard {m : Transaction α} :
    Eff.exec (discard m) s = ((Eff.exec m s).1.map fun _ => (), (Eff.exec m s).2) := by
  show Eff.exec (m >>= fun _ => pure ()) s = _
  rw [Eff.exec_bind]
  rcases Eff.exec m s with ⟨e | a, t⟩ <;> rfl

end

/-! ## Runs -/

/-- No record is lost. -/
structure Grows (s t : Phase8TransactionModel) : Prop where
  commits : Dictionary.Grows s.commits t.commits
  createdCheckpoints : Dictionary.Grows s.createdCheckpoints t.createdCheckpoints
  restoreCheckpoints : Dictionary.Grows s.restoreCheckpoints t.restoreCheckpoints
  restoreReceipts : Dictionary.Grows s.restoreReceipts t.restoreReceipts
  createdRollbackReceipts : Dictionary.Grows s.createdRollbackReceipts t.createdRollbackReceipts

theorem Grows.refl (s : Phase8TransactionModel) : Grows s s :=
  ⟨.refl _, .refl _, .refl _, .refl _, .refl _⟩

theorem Grows.trans {s t u : Phase8TransactionModel} (h : Grows s t) (h' : Grows t u) :
    Grows s u :=
  ⟨h.commits.trans h'.commits, h.createdCheckpoints.trans h'.createdCheckpoints,
    h.restoreCheckpoints.trans h'.restoreCheckpoints, h.restoreReceipts.trans h'.restoreReceipts,
    h.createdRollbackReceipts.trans h'.createdRollbackReceipts⟩

theorem Committed.grows {s s' : Phase8TransactionModel} {record : CadManagedCommitRecord}
    {created : Option CadCreatedOutputCheckpointV1} {checkpoint : Option CadRollbackCheckpointV2}
    (h : Committed s record created checkpoint s') : Grows s s' where
  commits := h.commits ▸ Dictionary.grows_insert h.new
  createdCheckpoints := Dictionary.grows_addEach h.created
  restoreCheckpoints := Dictionary.grows_addEach h.restore
  restoreReceipts := h.restoreReceipts ▸ .refl _
  createdRollbackReceipts := h.createdRollbackReceipts ▸ .refl _

/-- A call fails and leaves the model alone, or loses no record. -/
theorem perform_cases (s : Phase8TransactionModel) (call : Call) :
    (∃ e, Eff.exec (perform call) s = (.error e, s)) ∨
      ∃ s', Eff.exec (perform call) s = (.ok (), s') ∧ Grows s s' := by
  cases call with
  | seed entityId fingerprint =>
      simp only [perform, seed, Eff.exec_bind, exec_get, exec_require]
      split_ifs
      · exact .inr ⟨_, rfl, .refl _, .refl _, .refl _, .refl _, .refl _⟩
      · exact .inl ⟨_, rfl⟩
  | commit record created checkpoint fail =>
      simp only [perform, exec_discard]
      cases hstored : s.commits.lookup record.receipt.receiptId with
      | some existing =>
          rw [commit_stored hstored]
          split_ifs
          · exact .inr ⟨s, rfl, .refl s⟩
          · exact .inl ⟨_, rfl⟩
      | none =>
          rcases commit_new created checkpoint fail hstored
            with ⟨e, he⟩ | ⟨s', hs', hcommitted⟩
          · rw [he]
            exact .inl ⟨e, rfl⟩
          · rw [hs']
            exact .inr ⟨s', rfl, hcommitted.grows⟩
  | restore checkpoint receipt fail =>
      simp only [perform, exec_discard]
      cases hstored : s.restoreReceipts.lookup receipt.restoreReceiptId with
      | some existing =>
          rw [restore_stored hstored]
          split_ifs
          · exact .inr ⟨s, rfl, .refl s⟩
          · exact .inl ⟨_, rfl⟩
      | none =>
          rcases restore_new checkpoint fail hstored
            with ⟨e, he⟩ | ⟨entities, -, hs'⟩
          · rw [he]
            exact .inl ⟨e, rfl⟩
          · rw [hs']
            exact .inr ⟨_, rfl, .refl _, .refl _, .refl _, Dictionary.grows_insert hstored,
              .refl _⟩
  | rollbackCreated checkpoint receipt fail =>
      simp only [perform, exec_discard]
      cases hstored : s.createdRollbackReceipts.lookup receipt.rollbackReceiptId with
      | some existing =>
          rw [rollback_stored hstored]
          split_ifs
          · exact .inr ⟨s, rfl, .refl s⟩
          · exact .inl ⟨_, rfl⟩
      | none =>
          rcases rollback_new checkpoint fail hstored
            with ⟨e, he⟩ | ⟨entities, -, hs'⟩
          · rw [he]
            exact .inl ⟨e, rfl⟩
          · rw [hs']
            exact .inr ⟨_, rfl, .refl _, .refl _, .refl _, .refl _,
              Dictionary.grows_insert hstored⟩

theorem perform_grows {s s' : Phase8TransactionModel} {call : Call}
    (h : Eff.exec (perform call) s = (.ok (), s')) : Grows s s' := by
  rcases perform_cases s call with ⟨e, he⟩ | ⟨s'', hs'', hgrows⟩
  · rw [he] at h
    cases h
  · rw [hs''] at h
    cases h
    exact hgrows

theorem step_grows (s : Phase8TransactionModel) (call : Call) : Grows s (step s call) := by
  unfold step
  rcases perform_cases s call with ⟨e, he⟩ | ⟨s', hs', hgrows⟩
  · rw [he]
    exact .refl s
  · rw [hs']
    exact hgrows

theorem run_grows (s : Phase8TransactionModel) (calls : List Call) :
    Grows s (runFrom step s calls) :=
  runFrom_relates Grows Grows.refl (fun _ _ _ => Grows.trans) step_grows s calls

/-- A call that throws leaves the model as it is. -/
theorem perform_atomic {s s' : Phase8TransactionModel} {call : Call} {e : HostException}
    (h : Eff.exec (perform call) s = (.error e, s')) : s' = s := by
  rcases perform_cases s call with ⟨e', he⟩ | ⟨s'', hs'', -⟩
  · rw [he] at h
    cases h
    rfl
  · rw [hs''] at h
    cases h

/-- The two calls carry one record, whatever their checkpoints are. -/
def Call.Repeats : Call → Call → Prop
  | .commit record _ _ _, .commit record' _ _ _ => record' = record
  | .restore _ receipt _, .restore _ receipt' _ => receipt' = receipt
  | .rollbackCreated _ receipt _, .rollbackCreated _ receipt' _ => receipt' = receipt
  | _, _ => False

/-- The record of a completed call is stored, under its digest. -/
def Call.Stored (s : Phase8TransactionModel) : Call → Prop
  | .seed .. => True
  | .commit record _ _ _ => ∃ existing, s.commits.lookup record.receipt.receiptId = some existing ∧
      existing.receiptDigest = record.receiptDigest
  | .restore _ receipt _ => ∃ existing,
      s.restoreReceipts.lookup receipt.restoreReceiptId = some existing ∧
        existing.receiptDigest = receipt.receiptDigest
  | .rollbackCreated _ receipt _ => ∃ existing,
      s.createdRollbackReceipts.lookup receipt.rollbackReceiptId = some existing ∧
        existing.receiptDigest = receipt.receiptDigest

theorem perform_stored {s s' : Phase8TransactionModel} {call : Call}
    (h : Eff.exec (perform call) s = (.ok (), s')) : call.Stored s' := by
  cases call with
  | seed entityId fingerprint => trivial
  | commit record created checkpoint fail =>
      simp only [perform, exec_discard] at h
      cases hstored : s.commits.lookup record.receipt.receiptId with
      | some existing =>
          rw [commit_stored hstored] at h
          split_ifs at h with hdigest
          · cases h
            exact ⟨existing, hstored, hdigest⟩
          · cases h
      | none =>
          rcases commit_new created checkpoint fail hstored
            with ⟨e, he⟩ | ⟨s'', hs'', hcommitted⟩
          · rw [he] at h
            cases h
          · rw [hs''] at h
            cases h
            exact ⟨record, hcommitted.commits ▸ Finmap.lookup_insert _, rfl⟩
  | restore checkpoint receipt fail =>
      simp only [perform, exec_discard] at h
      cases hstored : s.restoreReceipts.lookup receipt.restoreReceiptId with
      | some existing =>
          rw [restore_stored hstored] at h
          split_ifs at h with hdigest
          · cases h
            exact ⟨existing, hstored, hdigest⟩
          · cases h
      | none =>
          rcases restore_new checkpoint fail hstored
            with ⟨e, he⟩ | ⟨entities, -, hs''⟩
          · rw [he] at h
            cases h
          · rw [hs''] at h
            cases h
            exact ⟨receipt, Finmap.lookup_insert _, rfl⟩
  | rollbackCreated checkpoint receipt fail =>
      simp only [perform, exec_discard] at h
      cases hstored : s.createdRollbackReceipts.lookup receipt.rollbackReceiptId with
      | some existing =>
          rw [rollback_stored hstored] at h
          split_ifs at h with hdigest
          · cases h
            exact ⟨existing, hstored, hdigest⟩
          · cases h
      | none =>
          rcases rollback_new checkpoint fail hstored
            with ⟨e, he⟩ | ⟨entities, -, hs''⟩
          · rw [he] at h
            cases h
          · rw [hs''] at h
            cases h
            exact ⟨receipt, Finmap.lookup_insert _, rfl⟩

theorem Call.Stored.mono {s t : Phase8TransactionModel} {call : Call} (h : call.Stored s)
    (hgrows : Grows s t) : call.Stored t := by
  cases call with
  | seed entityId fingerprint => trivial
  | commit record created checkpoint fail =>
      obtain ⟨existing, hlookup, hdigest⟩ := h
      exact ⟨existing, hgrows.commits _ _ hlookup, hdigest⟩
  | restore checkpoint receipt fail =>
      obtain ⟨existing, hlookup, hdigest⟩ := h
      exact ⟨existing, hgrows.restoreReceipts _ _ hlookup, hdigest⟩
  | rollbackCreated checkpoint receipt fail =>
      obtain ⟨existing, hlookup, hdigest⟩ := h
      exact ⟨existing, hgrows.createdRollbackReceipts _ _ hlookup, hdigest⟩

/-- Repeating a stored record succeeds and changes nothing. -/
theorem Call.Stored.replay {s : Phase8TransactionModel} {call again : Call} (h : call.Stored s)
    (hrepeats : call.Repeats again) : Eff.exec (perform again) s = (.ok (), s) := by
  cases call <;> cases again <;> simp only [Call.Repeats] at hrepeats
  case commit.commit =>
      subst hrepeats
      obtain ⟨existing, hlookup, hdigest⟩ := h
      rw [perform, exec_discard, commit_stored hlookup, if_pos hdigest]
      rfl
  case restore.restore =>
      subst hrepeats
      obtain ⟨existing, hlookup, hdigest⟩ := h
      rw [perform, exec_discard, restore_stored hlookup, if_pos hdigest]
      rfl
  case rollbackCreated.rollbackCreated =>
      subst hrepeats
      obtain ⟨existing, hlookup, hdigest⟩ := h
      rw [perform, exec_discard, rollback_stored hlookup, if_pos hdigest]
      rfl

end Phase8TransactionModel

end AutocadMcp.Host
