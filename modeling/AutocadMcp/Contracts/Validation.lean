import AutocadMcp.Contracts.Messages

/-!
# What the Gateway accepts from the wire

The validators of the Agent's messages. Whether a successful payload has the
class that its kind and binding ask for is decided by the payload models, which
are a parameter.
-/

namespace AutocadMcp

/-- Whether a result is of the class that a kind with a binding expects. -/
abbrev PayloadFits := JobKind → Json → Json → Bool

def hasText (text : Option String) : Bool :=
  text ≠ none && text ≠ some ""

/-- `_terminal_fields_match_status`. -/
def ResultMessage.valid (m : ResultMessage) : Bool :=
  match m.status with
  | .failed => hasText m.errorCode
  | .succeeded | .cancelled => m.errorCode = none
  | .outcomeUnknown => false

/-- `_terminal_fields_match_status_and_kind` and `_rollback_terminal_fields_match`; `commit` is
the kind that may have an unknown outcome. -/
def TypedResultMessage.valid (fits : PayloadFits) (commit : JobKind) (m : TypedResultMessage) :
    Bool :=
  match m.status with
  | .succeeded => m.result.any (fits m.kind m.binding) && m.errorCode = none
  | .failed => m.result = none && m.errorCode ≠ none
  | .cancelled => m.result = none
  | .outcomeUnknown => m.result = none && m.kind = commit

def TypedResultMessage.validProgram (fits : PayloadFits) (m : TypedResultMessage) : Bool :=
  m.kind.isProgram && m.valid fits .programCommit

def TypedResultMessage.validRollback (fits : PayloadFits) (m : TypedResultMessage) : Bool :=
  m.kind.isRollback && m.valid fits .rollbackCommit

/-- `_reconcile_fields_match_status`. -/
def ReconcileResultMessage.valid (m : ReconcileResultMessage) : Bool :=
  match m.status with
  | .terminal =>
      (match m.resultStatus with
        | some .failed => hasText m.errorCode
        | some .succeeded | some .cancelled => m.errorCode = none
        | some .outcomeUnknown | none => false) &&
      m.kind.isNone = m.binding.isNone &&
      m.kind.all (fun kind => kind.isProgram || kind.isRollback)
  | .notStarted | .started =>
      m.resultStatus = none && m.result = none && m.errorCode = none && m.kind = none &&
        m.binding = none

def AgentMessage.valid (fits : PayloadFits) (m : AgentMessage) : Bool :=
  1 ≤ m.envelope.sequence &&
  match m with
  | .ack _ => true
  | .progress p => p.phase ≠ "" && 0 ≤ p.percent && p.percent ≤ 100
  | .result r => r.valid
  | .programResult r => r.validProgram fits
  | .rollbackResult r => r.validRollback fits
  | .reconcileResult r => r.valid

end AutocadMcp
