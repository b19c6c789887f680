import AutocadMcp.Gateway.Store

/-!
# Connections and the dispatch policy

`AgentConnection` with the fields that dispatching reads, and the decisions of
`_require_dispatch_capability`: which failure a queued job gets when its device,
its binding or the connected Agent does not allow the command to be sent.
-/

namespace AutocadMcp.Gateway

/-- An `AgentConnection`. -/
structure Connection where
  deviceId : DeviceId
  sessionId : SessionId
  capabilities : List String
  paused : Bool
  packages : List Json
  capabilityManifest : Option Json
  capabilityManifestHash : Option String
  operationRegistryHash : Option String
  registryVersion : Option String
  writeLockEnabled : Bool
  hardPause : Bool
  activeDocumentId : Option String
  activeDocumentRevision : Option String
  deriving DecidableEq

/-- The settings of the job service that the decisions read. -/
structure Policy where
  requiredPackage : Json
  programPolicyVersion : Option String
  managedWriteEnabled : Bool
  allowedWriteDeviceIds : List DeviceId

/-- A failure code and its summary. -/
abbrev Refusal := String × String

/-- `value.get(key)`, where a missing field is `None`. -/
def field (value : Json) (key : String) : Json :=
  (value.get? key).getD .null

/-- A text, or `None`. -/
def textOrNone : Option String → Json
  | some text => .str text
  | none => .null

/-- `str(value.get(key, "")).removeprefix("sha256:")`; hashes are texts. -/
def bareHash (value : Json) (key : String) : String :=
  match (value.get? key).bind Json.str? with
  | some text => (text.dropPrefix "sha256:").toString
  | none => ""

/-- The hash that a connection advertises, with its prefix. -/
def prefixedHash (hash : Option String) : String :=
  let hash := hash.getD ""
  if hash.startsWith "sha256:" then hash else "sha256:" ++ hash

/-- The advertised capability manifest, registry and registry version are those of the pins. -/
def advertises (connection : Connection) (pins : Json) (registryVersionKey : String) : Bool :=
  field pins "capability_manifest_hash" = .str (prefixedHash connection.capabilityManifestHash) &&
  field pins "operation_registry_hash" = .str (prefixedHash connection.operationRegistryHash) &&
  field pins registryVersionKey = textOrNone connection.registryVersion

/-- The package entry that the pins ask for. -/
def pinnedPackage (pins : Json) : Json :=
  .obj [("package_id", field pins "package_id"), ("sha256", .str (bareHash pins "package_hash")),
    ("version", field pins "package_version")]

/-- The product's runtime is the pinned one. -/
def matchesRuntime (pins item : Json) : Bool :=
  match item.dict? "runtime" with
  | some runtime =>
      runtime.get? "id" = pins.get? "runtime_id" &&
      runtime.get? "role" = pins.get? "runtime_role" &&
      runtime.get? "host_family" = pins.get? "host_family" &&
      runtime.get? "host_version" = pins.get? "host_version" &&
      item.get? "edition" = some (.str "full")
  | none => false

/-- The products of the manifest whose runtime is the pinned one. -/
def matchingProducts (connection : Connection) (pins : Json) : List Json :=
  match connection.capabilityManifest.bind (·.get? "cad_products") with
  | some (.arr items) => items.filter (matchesRuntime pins)
  | _ => []

/-- The execution pins of a Program payload, and the name of their registry version. -/
def programPins (payload : Json) : Option Json × String :=
  match payload.dict? "binding" with
  | some binding =>
      if binding.get? "schema_version" = some (.str "cad.execution-binding/1") then
        ((payload.dict? "execution_plan").bind (·.dict? "execution_pins"),
          "operation_registry_version")
      else
        ((payload.dict? "execution").bind (·.dict? "pins"), "registry_version")
  | none => ((payload.dict? "execution").bind (·.dict? "pins"), "registry_version")

/-- `_program_dispatch_failure`. -/
def programDispatchFailure (policy : Policy) (kind : JobKind) (payload : Json) :
    Option Connection → Option Refusal
  | none => some ("device_offline", "Agent is not connected")
  | some connection =>
      match programPins payload with
      | (none, _) => some ("binding_mismatch", "Program execution binding is missing")
      | (some pins, registryVersionKey) =>
          let managed := kind = .programPreview ∨ kind = .programCommit
          if policy.programPolicyVersion = none ∨
              field pins "policy_version" ≠ textOrNone policy.programPolicyVersion then
            some ("policy_mismatch", "Gateway policy changed after preparation")
          else if managed ∧ (policy.managedWriteEnabled = false ∨
              connection.deviceId ∉ policy.allowedWriteDeviceIds) then
            some ("feature_disabled", "Managed write is not enabled for this device")
          else if connection.hardPause ∨ connection.paused then
            some ("paused_by_user", "Agent hard pause is active")
          else if managed ∧ connection.writeLockEnabled = false then
            some ("write_lock_disabled", "Agent write lock is disabled")
          else if advertises connection pins registryVersionKey = false then
            some ("binding_mismatch", "Capability or registry evidence changed")
          else if pinnedPackage pins ∉ connection.packages then
            some ("package_mismatch", "Managed Host package evidence changed")
          else if (matchingProducts connection pins).length ≠ 1 then
            some ("runtime_mismatch", "Managed R25 runtime evidence changed")
          else
            none

/-- `_rollback_dispatch_failure`. -/
def rollbackDispatchFailure (policy : Policy) (kind : JobKind) (payload : Json) :
    Option Connection → Option Refusal
  | none => some ("device_offline", "Agent is not connected")
  | some connection =>
      match payload.dict? "binding" with
      | none => some ("binding_mismatch", "Rollback execution binding is missing")
      | some binding =>
          if policy.programPolicyVersion = none ∨
              field binding "policy_version" ≠ textOrNone policy.programPolicyVersion then
            some ("policy_mismatch", "Gateway policy changed after rollback preview")
          else if field binding "runtime_id" ≠ .str "managed_dotnet" ∨
              field binding "runtime_role" ≠ .str "primary" ∨
              field binding "host_family" ≠ .str "R25" then
            some ("runtime_mismatch", "Rollback requires exact Managed .NET R25")
          else if kind = .rollbackCommit ∧ (policy.managedWriteEnabled = false ∨
              connection.deviceId ∉ policy.allowedWriteDeviceIds) then
            some ("feature_disabled", "Managed rollback is not enabled for this device")
          else if connection.hardPause ∨ connection.paused then
            some ("paused_by_user", "Agent hard pause is active")
          else if kind = .rollbackCommit ∧ connection.writeLockEnabled = false then
            some ("write_lock_disabled", "Agent write lock is disabled")
          else if textOrNone connection.activeDocumentId ≠ field binding "document_id" ∨
              textOrNone connection.activeDocumentRevision ≠ field binding "document_revision" then
            some ("stale_revision", "Active document changed after rollback preview")
          else if advertises connection binding "operation_registry_version" = false then
            some ("binding_mismatch", "Rollback capability or registry evidence changed")
          else if pinnedPackage binding ∉ connection.packages then
            some ("package_mismatch", "Rollback Managed Host package evidence changed")
          else if (matchingProducts connection binding).length ≠ 1 then
            some ("runtime_mismatch", "Rollback Managed R25 runtime evidence changed")
          else
            none

/-- The manifest check of the other kinds. -/
def packageFailure (policy : Policy) (payload : Json) (packages : List Json) : Option Refusal :=
  let required := ((payload.get? "package").filter Json.truthy).getD policy.requiredPackage
  if required.truthy ∧ required ∉ packages then
    some ("package_mismatch", "Agent package does not match the required manifest")
  else
    none

/-- The capability a kind needs. -/
def requiredCapability : JobKind → String
  | .observe | .writeFixture => "observe"
  | kind => kind.name

/-- The decision of `_require_dispatch_capability`, on the connection or else on the stored
device. -/
def dispatchFailure (policy : Policy) (job : JobRow) (connection : Option Connection)
    (device : Option DeviceRow) : Option Refusal :=
  let capabilities := match connection with
    | some connection => connection.capabilities
    | none => (device.map DeviceRow.capabilities).getD []
  let packages := match connection with
    | some connection => connection.packages
    | none => (device.map DeviceRow.packages).getD []
  if requiredCapability job.kind ∉ capabilities then
    some ("capability_missing", "Agent does not advertise the required capability")
  else if connection.any Connection.paused then
    some ("paused_by_user", "Agent is paused by the local user")
  else if job.kind.isProgram then
    programDispatchFailure policy job.kind job.payload connection
  else if job.kind.isRollback then
    rollbackDispatchFailure policy job.kind job.payload connection
  else
    packageFailure policy job.payload packages

/-! ## What a passed decision says -/

/-- A Program command that passes is bound to the connected Agent; a preview or a commit also to
a device that may write and whose write lock is on. -/
theorem programDispatchFailure_none {policy : Policy} {kind : JobKind} {payload : Json}
    {connection : Option Connection}
    (h : programDispatchFailure policy kind payload connection = none) :
    ∃ c pins, connection = some c ∧ (programPins payload).1 = some pins ∧
      c.paused = false ∧ c.hardPause = false ∧ pinnedPackage pins ∈ c.packages ∧
      (kind = .programPreview ∨ kind = .programCommit →
        policy.managedWriteEnabled = true ∧ c.deviceId ∈ policy.allowedWriteDeviceIds ∧
          c.writeLockEnabled = true) := by
  unfold programDispatchFailure at h
  split at h
  · cases h
  · rename_i c
    split at h
    · cases h
    · rename_i pins registryVersionKey hpins
      dsimp only at h
      split_ifs at h with hpolicy henabled hpaused hlock hadvertised hpackage hproducts
      obtain ⟨hhard, hpause⟩ := not_or.mp hpaused
      refine ⟨c, pins, rfl, by rw [hpins], by simpa using hpause, by simpa using hhard,
        by simpa using hpackage, ?_⟩
      intro hmanaged
      have hallowed := fun hoff => henabled ⟨hmanaged, hoff⟩
      obtain ⟨hon, hdevice⟩ := not_or.mp hallowed
      have hlocked := fun hoff => hlock ⟨hmanaged, hoff⟩
      exact ⟨by simpa using hon, by simpa using hdevice, by simpa using hlocked⟩

end AutocadMcp.Gateway
