import YunXi.Protocol.Json

/-!
# Tool calls, results and approvals

The wire types of the tool loop.  Their Rust fields are private and every
constructor and deserializer validates, so a value that fails validation cannot
be built; here each such type carries that fact as its last field.  Outcomes and
approval states are public enumerations and can be invalid.
-/

namespace YunXi
namespace Protocol

def toolProtocolVersion : Nat := 1
def maxToolRounds : Nat := 32
def maxToolCallsPerRound : Nat := 16
def maxToolArgumentBytes : Nat := 256 * 1024
def maxToolResultBytes : Nat := 1024 * 1024
def maxApprovalGrants : Nat := 8
def maxToolDefinitions : Nat := 64
def maxToolSchemaBytes : Nat := 256 * 1024

/-- Build a checked value, or return the error of its check. -/
def build {α : Type} :
    (check : Except ToolProtocolError Unit) →
      (check = .ok () → α) → Except ToolProtocolError α
  | .ok (), make => .ok (make rfl)
  | .error error, _ => .error error

/-- A passing check lets the value be built. -/
theorem build_of_ok {α : Type} {check : Except ToolProtocolError Unit}
    (passes : check = .ok ()) (make : check = .ok () → α) :
    build check make = .ok (make passes) := by
  subst passes
  rfl

/-- A value that was built passed its check. -/
theorem build_eq_ok {α : Type} {check : Except ToolProtocolError Unit}
    {make : check = .ok () → α} {value : α} (built : build check make = .ok value) :
    ∃ passes, make passes = value := by
  match check, make, built with
  | .ok (), make, built => exact ⟨rfl, by injection built⟩

def validateCallId (value : String) : Except ToolProtocolError Unit :=
  validateToken "tool call id" value maxToolCallIdBytes callIdCharacter

def validateToolName (value : String) : Except ToolProtocolError Unit :=
  validateToken "tool name" value maxToolNameBytes toolNameCharacter

structure ToolCallId where
  text : String
  valid : validateCallId text = .ok ()
  deriving DecidableEq

structure ToolName where
  text : String
  valid : validateToolName text = .ok ()
  deriving DecidableEq

def ToolName.new (value : String) : Except ToolProtocolError ToolName :=
  build (validateToolName value) fun valid => ⟨value, valid⟩

def validateArguments (arguments : Value) : Except ToolProtocolError Unit :=
  if arguments.encodedSize > maxToolArgumentBytes then
    .error (.argumentsTooLarge arguments.encodedSize maxToolArgumentBytes)
  else .ok ()

structure ToolCall where
  id : ToolCallId
  name : ToolName
  arguments : Value
  valid : validateArguments arguments = .ok ()

def ToolCall.validate (call : ToolCall) : Except ToolProtocolError Unit :=
  validateArguments call.arguments

def validateDefinition (description : String) (inputSchema : Value) :
    Except ToolProtocolError Unit := do
  validateText "tool description" description
  if !inputSchema.isObject then .error .toolSchemaMustBeObject
  else if inputSchema.encodedSize > maxToolSchemaBytes then
    .error (.schemaTooLarge inputSchema.encodedSize maxToolSchemaBytes)
  else .ok ()

structure ToolDefinition where
  name : ToolName
  description : String
  inputSchema : Value
  valid : validateDefinition description inputSchema = .ok ()

def validateVersion (version : Nat) : Except ToolProtocolError Unit :=
  if version ≠ toolProtocolVersion then
    .error (.unsupportedVersion version toolProtocolVersion)
  else .ok ()

/-- The name-uniqueness scan of `ToolCatalog::validate`. -/
def validateDefinitions : List ToolName → List ToolDefinition → Except ToolProtocolError Unit
  | _, [] => .ok ()
  | names, tool :: tools =>
      if tool.name ∈ names then .error (.duplicateToolDefinition tool.name.text)
      else validateDefinitions (tool.name :: names) tools

variable (protocolVersion : Nat)

def validateCatalog (tools : List ToolDefinition) :
    Except ToolProtocolError Unit := do
  validateVersion protocolVersion
  if tools.length > maxToolDefinitions then
    .error (.tooManyToolDefinitions tools.length maxToolDefinitions)
  else validateDefinitions [] tools

structure ToolCatalog where
  protocolVersion : Nat
  tools : List ToolDefinition
  valid : validateCatalog protocolVersion tools = .ok ()

variable (round : Nat)

def validateRound : Except ToolProtocolError Unit :=
  if round = 0 then .error .zeroRound
  else if round > maxToolRounds then .error (.roundLimitExceeded round maxToolRounds)
  else .ok ()

/-- The id-uniqueness scan of `validate_calls`. -/
def validateCallIds : List ToolCallId → List ToolCall → Except ToolProtocolError Unit
  | _, [] => .ok ()
  | ids, call :: calls => do
      call.validate
      if call.id ∈ ids then .error (.duplicateCallId call.id.text)
      else validateCallIds (call.id :: ids) calls

def validateCalls (calls : List ToolCall) (maximum : Nat) :
    Except ToolProtocolError Unit :=
  if calls.isEmpty then .error .emptyCallBatch
  else if calls.length > maximum then .error (.tooManyCalls calls.length maximum)
  else validateCallIds [] calls

def validateBatch (calls : List ToolCall) :
    Except ToolProtocolError Unit := do
  validateVersion protocolVersion
  validateRound round
  validateCalls calls maxToolCallsPerRound

structure ToolCallBatch where
  protocolVersion : Nat
  round : Nat
  calls : List ToolCall
  valid : validateBatch protocolVersion round calls = .ok ()

namespace ToolCallBatch

def new (calls : List ToolCall) :
    Except ToolProtocolError ToolCallBatch :=
  build (validateBatch toolProtocolVersion round calls) fun valid =>
    ⟨toolProtocolVersion, round, calls, valid⟩

def validate (batch : ToolCallBatch) : Except ToolProtocolError Unit :=
  validateBatch batch.protocolVersion batch.round batch.calls

end ToolCallBatch

/-- Round and call limits of the tool loop. -/
structure ToolLoopPolicy where
  maxRounds : Nat
  maxCallsPerRound : Nat
  deriving DecidableEq, Repr

def ToolLoopPolicy.validate (policy : ToolLoopPolicy) : Except ToolProtocolError Unit :=
  if policy.maxRounds = 0 ∨ policy.maxRounds > maxToolRounds then
    .error (.invalidPolicy "max rounds" policy.maxRounds maxToolRounds)
  else if policy.maxCallsPerRound = 0 ∨
      policy.maxCallsPerRound > maxToolCallsPerRound then
    .error (.invalidPolicy "max calls per round" policy.maxCallsPerRound
      maxToolCallsPerRound)
  else .ok ()

def ToolCallBatch.validateWithPolicy (batch : ToolCallBatch) (policy : ToolLoopPolicy) :
    Except ToolProtocolError Unit := do
  batch.validate
  policy.validate
  if batch.round > policy.maxRounds then
    .error (.roundLimitExceeded batch.round policy.maxRounds)
  else if batch.calls.length > policy.maxCallsPerRound then
    .error (.tooManyCalls batch.calls.length policy.maxCallsPerRound)
  else .ok ()

inductive ToolResultOutcome
  | completed (output : Value)
  | failed (code message : String) (retryable : Bool)
  | rejected (code message : String)
  | cancelled (reason : String)

namespace ToolResultOutcome

/-- The shared check of failed and rejected outcomes. -/
def validateFailure (code message : String) : Except ToolProtocolError Unit := do
  validateToken "tool error code" code maxToolNameBytes toolNameCharacter
  validateText "tool error message" message

def validate : ToolResultOutcome → Except ToolProtocolError Unit
  | completed output =>
      if output.encodedSize > maxToolResultBytes then
        .error (.resultTooLarge output.encodedSize maxToolResultBytes)
      else .ok ()
  | failed code message _ => validateFailure code message
  | rejected code message => validateFailure code message
  | cancelled reason => validateText "cancellation reason" reason

/-- `ToolResultOutcome::failed`. -/
def newFailed (code message : String) (retryable : Bool) :
    Except ToolProtocolError ToolResultOutcome :=
  build (failed code message retryable).validate fun _ => failed code message retryable

/-- `ToolResultOutcome::rejected`. -/
def newRejected (code message : String) : Except ToolProtocolError ToolResultOutcome :=
  build (rejected code message).validate fun _ => rejected code message

end ToolResultOutcome

def validateResult (outcome : ToolResultOutcome) :
    Except ToolProtocolError Unit := do
  validateVersion protocolVersion
  validateRound round
  outcome.validate

structure ToolResult where
  protocolVersion : Nat
  round : Nat
  callId : ToolCallId
  toolName : ToolName
  outcome : ToolResultOutcome
  valid : validateResult protocolVersion round outcome = .ok ()

def ToolResult.new (callId : ToolCallId) (toolName : ToolName)
    (outcome : ToolResultOutcome) : Except ToolProtocolError ToolResult :=
  build (validateResult toolProtocolVersion round outcome) fun valid =>
    ⟨toolProtocolVersion, round, callId, toolName, outcome, valid⟩

def ToolResult.validate (result : ToolResult) : Except ToolProtocolError Unit :=
  validateResult result.protocolVersion result.round result.outcome

/-- The repetition scan of `validate_grants`. -/
def validateDistinctGrants : List GrantKind → List GrantKind → Except ToolProtocolError Unit
  | _, [] => .ok ()
  | seen, grant :: grants =>
      if grant ∈ seen then .error (.duplicateApprovalGrant grant)
      else validateDistinctGrants (grant :: seen) grants

def validateGrants (grants : List GrantKind) : Except ToolProtocolError Unit :=
  if grants.isEmpty then .error .noApprovalGrants
  else if grants.length > maxApprovalGrants then
    .error (.tooManyApprovalGrants grants.length maxApprovalGrants)
  else validateDistinctGrants [] grants

def validateApprovalRequestFields (summary : String)
    (requestedGrants : List GrantKind) : Except ToolProtocolError Unit := do
  validateVersion protocolVersion
  validateRound round
  validateText "approval summary" summary
  validateGrants requestedGrants

structure ToolApprovalRequest where
  protocolVersion : Nat
  round : Nat
  callId : ToolCallId
  toolName : ToolName
  summary : String
  requestedGrants : List GrantKind
  valid : validateApprovalRequestFields protocolVersion round summary requestedGrants =
    .ok ()
  deriving DecidableEq

namespace ToolApprovalRequest

def new (callId : ToolCallId) (toolName : ToolName) (summary : String)
    (requestedGrants : List GrantKind) : Except ToolProtocolError ToolApprovalRequest :=
  build (validateApprovalRequestFields toolProtocolVersion round summary requestedGrants)
    fun valid =>
      ⟨toolProtocolVersion, round, callId, toolName, summary, requestedGrants, valid⟩

def validate (request : ToolApprovalRequest) : Except ToolProtocolError Unit :=
  validateApprovalRequestFields request.protocolVersion request.round request.summary
    request.requestedGrants

@[simp] theorem validate_ok (request : ToolApprovalRequest) : request.validate = .ok () :=
  request.valid

end ToolApprovalRequest

inductive ToolApprovalState
  | approved (ticket : String)
  | denied (reason : String)
  deriving DecidableEq

def ToolApprovalState.validate : ToolApprovalState → Except ToolProtocolError Unit
  | approved ticket =>
      validateToken "approval ticket" ticket maxToolTextBytes callIdCharacter
  | denied reason => validateText "approval denial reason" reason

/-- The state is an approval, whatever its ticket. -/
def ToolApprovalState.isApproved : ToolApprovalState → Bool
  | approved _ => true
  | denied _ => false

def validateDecision (state : ToolApprovalState) :
    Except ToolProtocolError Unit := do
  validateVersion protocolVersion
  validateRound round
  state.validate

structure ToolApprovalDecision where
  protocolVersion : Nat
  round : Nat
  callId : ToolCallId
  toolName : ToolName
  state : ToolApprovalState
  valid : validateDecision protocolVersion round state = .ok ()
  deriving DecidableEq

namespace ToolApprovalDecision

def validate (decision : ToolApprovalDecision) : Except ToolProtocolError Unit :=
  validateDecision decision.protocolVersion decision.round decision.state

@[simp] theorem validate_ok (decision : ToolApprovalDecision) :
    decision.validate = .ok () :=
  decision.valid

end ToolApprovalDecision

end Protocol
end YunXi
