import YunXi.Protocol.Mcp
import YunXi.Protocol.Serde
import YunXi.Session.Settled

/-!
# Asking for a call

A call that is decoded and has to be approved is put to the user with a summary of what it asks
for.  The summary of a shell command holds the command itself, which may be longer than a summary.
-/

namespace YunXi
namespace Session

open Protocol

/-- `ToolCallError`, as far as binding a tool returns it. -/
inductive BindingError
  | invalidMcpToolName (remoteName message : String)
  deriving DecidableEq, Repr

/-- `McpToolBinding::from_descriptor`. -/
def McpToolBinding.fromDescriptor (serverName : String) (descriptor : McpToolDescriptor) :
    Except BindingError McpToolBinding := do
  let invalid (error : ToolProtocolError) : BindingError :=
    .invalidMcpToolName descriptor.name error.display
  let modelName ← (ToolName.new ("mcp." ++ serverName ++ "." ++ descriptor.name)).mapError invalid
  let description :=
    if isBlank descriptor.description then
      "Call MCP tool `" ++ descriptor.name ++ "` on server `" ++ serverName ++ "`."
    else "MCP `" ++ serverName ++ "` tool: " ++ descriptor.description
  (build (validateDefinition description descriptor.inputSchema) fun valid =>
    McpToolBinding.mk modelName serverName descriptor.name description descriptor.inputSchema
      valid).mapError invalid

/-- Bindings are only built from descriptors. -/
def McpToolBinding.Bound (binding : McpToolBinding) : Prop :=
  ∃ serverName descriptor, fromDescriptor serverName descriptor = .ok binding

theorem ToolName.new_eq_ok {text : String} {name : ToolName} (built : ToolName.new text = .ok name) :
    name.text = text := by
  obtain ⟨_, rfl⟩ := build_eq_ok built
  rfl

/-- The name the model calls a tool by has the names of its server and of the tool in it. -/
theorem McpToolBinding.Bound.modelName {binding : McpToolBinding} (bound : binding.Bound) :
    binding.modelName.text = "mcp." ++ binding.serverName ++ "." ++ binding.remoteName := by
  obtain ⟨serverName, descriptor, built⟩ := bound
  unfold fromDescriptor at built
  obtain ⟨modelName, named, built⟩ := Except.bind_eq_ok.mp built
  obtain ⟨_, rfl⟩ := build_eq_ok (Except.mapError_eq_ok.mp built)
  exact ToolName.new_eq_ok (Except.mapError_eq_ok.mp named)

/-- `SpineToolBroker::approval_request`. -/
def approvalRequest (capabilities : Capabilities) (round : Nat) (call : ToolCall)
    (action : ToolAction) : Except ToolProtocolError ToolApprovalRequest :=
  ToolApprovalRequest.new round call.id call.name action.summary
    (capabilities.requestedGrants action)

/-- The calls that have to be approved, by the tool they are of. -/
inductive Asks (call : ToolCall) (object : List (String × Value)) (mcpTools : List McpToolBinding) :
    ToolAction → Prop
  | shell {command : String} {timeout : Nat} (named : call.name.text = shellToolName)
      (text : requiredText object "command" maxShellArgumentBytes = .ok command)
      (time : optionalTimeout object = .ok timeout) : Asks call object mcpTools (.shell command timeout)
  | patch {patch : String} {timeout : Nat} (other : call.name.text ≠ shellToolName)
      (text : requiredText object "patch" maxPatchArgumentBytes = .ok patch)
      (time : optionalTimeout object = .ok timeout) : Asks call object mcpTools (.patch patch timeout)
  | agentSpawn {task : String} {name parentId : Option String}
      (other : call.name.text ≠ shellToolName)
      (text : requiredText object "task" MultiAgent.maxAgentMessageBytes = .ok task)
      (named : optionalText object "name" 64 = .ok name)
      (parent : optionalText object "parent_id" 128 = .ok parentId) :
      Asks call object mcpTools (.agentSpawn task name parentId)
  | agentMessage {agentId message : String} (other : call.name.text ≠ shellToolName)
      (agent : requiredText object "agent_id" 128 = .ok agentId)
      (text : requiredText object "message" MultiAgent.maxAgentMessageBytes = .ok message) :
      Asks call object mcpTools (.agentMessage agentId message)
  | mcp {binding : McpToolBinding} (other : call.name.text ≠ shellToolName)
      (named : binding.modelName.text = call.name.text) (among : binding ∈ mcpTools) :
      Asks call object mcpTools (.mcp binding call.arguments)

variable {mcpTools : List McpToolBinding}

theorem asks_of_decoded {call : ToolCall} {multiAgent : Bool}
    {skillTools : List SkillToolBinding} {action : ToolAction}
    (decoded : decodeCallWithSkills call multiAgent mcpTools skillTools = .ok action)
    (approved : requiresApproval action = true) :
    ∃ object, call.arguments.asObject = some object ∧ Asks call object mcpTools action := by
  unfold decodeCallWithSkills at decoded
  split at decoded
  · cases decoded
  · next object isObject =>
    refine ⟨object, isObject, ?_⟩
    dsimp only at decoded
    split at decoded
    · next isShell =>
      obtain ⟨command, text, decoded⟩ := Except.bind_eq_ok.mp decoded
      obtain ⟨timeout, time, decoded⟩ := Except.bind_eq_ok.mp decoded
      cases decoded
      exact .shell isShell text time
    next notShell =>
    split at decoded
    · obtain ⟨patch, text, decoded⟩ := Except.bind_eq_ok.mp decoded
      obtain ⟨timeout, time, decoded⟩ := Except.bind_eq_ok.mp decoded
      cases decoded
      exact .patch notShell text time
    split at decoded
    · obtain ⟨query, text, decoded⟩ := Except.bind_eq_ok.mp decoded
      obtain ⟨path, named, decoded⟩ := Except.bind_eq_ok.mp decoded
      cases decoded
      cases approved
    split at decoded
    · obtain ⟨path, named, decoded⟩ := Except.bind_eq_ok.mp decoded
      cases decoded
      cases approved
    split at decoded
    · obtain ⟨task, text, decoded⟩ := Except.bind_eq_ok.mp decoded
      obtain ⟨name, named, decoded⟩ := Except.bind_eq_ok.mp decoded
      obtain ⟨parentId, parent, decoded⟩ := Except.bind_eq_ok.mp decoded
      cases decoded
      exact .agentSpawn notShell text named parent
    split at decoded
    · cases decoded
      cases approved
    split at decoded
    · obtain ⟨agentId, agent, decoded⟩ := Except.bind_eq_ok.mp decoded
      obtain ⟨message, text, decoded⟩ := Except.bind_eq_ok.mp decoded
      cases decoded
      exact .agentMessage notShell agent text
    split at decoded
    · obtain ⟨agentId, agent, decoded⟩ := Except.bind_eq_ok.mp decoded
      obtain ⟨recursive, flag, decoded⟩ := Except.bind_eq_ok.mp decoded
      cases decoded
      cases approved
    split at decoded
    · next binding found =>
      have named := List.find?_some found
      cases decoded
      exact .mcp notShell (eq_of_beq named) (List.mem_of_find?_eq_some found)
    · split at decoded
      · cases decoded
        cases approved
      · cases decoded

variable {object : List (String × Value)}

theorem utf8ByteSize_of_requiredText {field text : String}
    {maximum : Nat} (read : requiredText object field maximum = .ok text) :
    text.utf8ByteSize ≤ maximum := by
  unfold requiredText at read
  split at read
  · cases read
  · split at read
    · cases read
    · split at read
      · cases read
      · split at read
        · cases read
        · next fits =>
          cases read
          exact not_lt.mp fits

theorem utf8ByteSize_of_optionalText {field : String}
    {text : Option String} {maximum : Nat} (read : optionalText object field maximum = .ok text)
    {default : String} (short : default.utf8ByteSize ≤ maximum) :
    (text.getD default).utf8ByteSize ≤ maximum := by
  unfold optionalText at read
  split at read
  · cases read
    exact short
  · cases isText : requiredText object field maximum with
    | error error =>
        rw [isText] at read
        cases read
    | ok value =>
        rw [isText] at read
        cases read
        exact utf8ByteSize_of_requiredText isText

theorem optionalTimeout_le {timeout : Nat}
    (read : optionalTimeout object = .ok timeout) : timeout ≤ maxModelToolTimeoutMillis := by
  unfold optionalTimeout at read
  split at read
  · cases read
    exact le_rfl
  · split at read
    · cases read
    · split at read
      · cases read
      · next within =>
        cases read
        exact not_lt.mp (not_or.mp within).2

theorem utf8ByteSize_toolName (name : ToolName) : name.text.utf8ByteSize ≤ maxToolNameBytes := by
  have valid := name.valid
  unfold validateToolName validateToken at valid
  split at valid
  · cases valid
  · split at valid
    · cases valid
    · next fits => exact not_lt.mp fits

/-- The summary of a shell command holds the command and the digits of its timeout. -/
theorem utf8ByteSize_summary_shell (command : String) (timeout : Nat) :
    (ToolAction.shell command timeout).summary.utf8ByteSize =
      command.utf8ByteSize + (toString timeout).utf8ByteSize + 24 := by
  have opening : ("command: " : String).utf8ByteSize = 9 := by decide
  have middle : (" (timeout: " : String).utf8ByteSize = 11 := by decide
  have closing : (" ms)" : String).utf8ByteSize = 4 := by decide
  simp only [ToolAction.summary_shell, String.utf8ByteSize_append, opening, middle, closing]
  omega

/-- Of every other call that has to be approved, the summary fits. -/
theorem utf8ByteSize_summary_le {call : ToolCall}
    {action : ToolAction}
    (asks : Asks call object mcpTools action) (other : call.name.text ≠ shellToolName)
    (bound : ∀ binding ∈ mcpTools, binding.Bound) :
    action.summary.utf8ByteSize ≤ maxToolTextBytes := by
  cases asks with
  | shell named => exact absurd named other
  | patch _ text time =>
      have size := Value.utf8ByteSize_toString_le (show 0 < 7 by decide)
        ((utf8ByteSize_of_requiredText text).trans_lt (show maxPatchArgumentBytes < 10 ^ 7 by decide))
      have digits := Value.utf8ByteSize_toString_le (show 0 < 6 by decide)
        ((optionalTimeout_le time).trans_lt (show maxModelToolTimeoutMillis < 10 ^ 6 by decide))
      have texts : ("patch bytes: " : String).utf8ByteSize = 13 ∧
          (" (timeout: " : String).utf8ByteSize = 11 ∧ (" ms)" : String).utf8ByteSize = 4 := by
        decide
      simp only [ToolAction.summary_patch, String.utf8ByteSize_append, texts, maxToolTextBytes]
      omega
  | agentSpawn _ text named parent =>
      have size := Value.utf8ByteSize_toString_le (show 0 < 5 by decide)
        ((utf8ByteSize_of_requiredText text).trans_lt
          (show MultiAgent.maxAgentMessageBytes < 10 ^ 5 by decide))
      have child := utf8ByteSize_of_optionalText named
        (show ("automatic" : String).utf8ByteSize ≤ 64 by decide)
      have parentSize := utf8ByteSize_of_optionalText parent
        (show MultiAgent.rootAgentId.utf8ByteSize ≤ 128 by decide)
      have texts : ("task: " : String).utf8ByteSize = 6 ∧
          (" bytes | name: " : String).utf8ByteSize = 15 ∧
          (" | parent: " : String).utf8ByteSize = 11 := by
        decide
      simp only [ToolAction.summary_agentSpawn, String.utf8ByteSize_append, texts, maxToolTextBytes]
      omega
  | agentMessage _ agent text =>
      have size := Value.utf8ByteSize_toString_le (show 0 < 5 by decide)
        ((utf8ByteSize_of_requiredText text).trans_lt
          (show MultiAgent.maxAgentMessageBytes < 10 ^ 5 by decide))
      have agentSize := utf8ByteSize_of_requiredText agent
      have texts : ("agent: " : String).utf8ByteSize = 7 ∧
          (" | message: " : String).utf8ByteSize = 12 ∧ (" bytes" : String).utf8ByteSize = 6 := by
        decide
      simp only [ToolAction.summary_agentMessage, String.utf8ByteSize_append, texts, maxToolTextBytes]
      omega
  | @mcp binding _ named among =>
      have fits : call.arguments.encodedSize ≤ maxToolArgumentBytes := by
        have valid := call.valid
        unfold validateArguments at valid
        split at valid
        · cases valid
        · next fits => exact not_lt.mp fits
      have size := Value.utf8ByteSize_toString_le (show 0 < 6 by decide)
        (fits.trans_lt (show maxToolArgumentBytes < 10 ^ 6 by decide))
      have names : 4 + binding.serverName.utf8ByteSize + 1 + binding.remoteName.utf8ByteSize ≤ 128 := by
        have whole := utf8ByteSize_toolName binding.modelName
        rw [(bound binding among).modelName] at whole
        simp only [String.utf8ByteSize_append] at whole
        exact whole
      have texts : ("server: " : String).utf8ByteSize = 8 ∧
          (" | tool: " : String).utf8ByteSize = 9 ∧
          (" | arguments: " : String).utf8ByteSize = 14 ∧ (" bytes" : String).utf8ByteSize = 6 := by
        decide
      simp only [ToolAction.summary_mcp, String.utf8ByteSize_append, texts, maxToolTextBytes]
      omega

/-- A command and its timeout fit into a summary, if the call is of a shell command. -/
def FitsSummary (call : ToolCall) : Prop :=
  call.name.text = shellToolName → ∀ object command timeout,
    call.arguments.asObject = some object →
      requiredText object "command" maxShellArgumentBytes = .ok command →
        optionalTimeout object = .ok timeout →
          command.utf8ByteSize + (toString timeout).utf8ByteSize + 24 ≤ maxToolTextBytes

theorem approvalRequest_eq_approvalFor (capabilities : Capabilities) (round : Nat)
    (call : ToolCall) (action : ToolAction) :
    approvalRequest capabilities round call action = approvalFor capabilities round call action := by
  unfold approvalRequest approvalFor
  cases action <;> rfl

/-- A call that is decoded and has to be approved is put to the user exactly if a shell command
fits into the summary. -/
theorem approvalRequest_iff (capabilities : Capabilities) (batch : ToolCallBatch) {call : ToolCall}
    {multiAgent : Bool} {skillTools : List SkillToolBinding}
    {action : ToolAction} (bound : ∀ binding ∈ mcpTools, binding.Bound)
    (decoded : decodeCallWithSkills call multiAgent mcpTools skillTools = .ok action)
    (approved : requiresApproval action = true) :
    (∃ approval, approvalRequest capabilities batch.round call action = .ok approval ∧
      approval.validate = .ok ()) ↔ FitsSummary call := by
  obtain ⟨object, isObject, asks⟩ := asks_of_decoded decoded approved
  have asked : runsUnasked action = false := by
    cases asks <;> rfl
  simp only [ToolApprovalRequest.validate_ok, and_true, approvalRequest_eq_approvalFor]
  rw [approvalFor_isOk_iff asked]
  by_cases isShell : call.name.text = shellToolName
  · cases asks with
    | @shell command timeout _ text time =>
        rw [utf8ByteSize_summary_shell]
        constructor
        · intro fits _ other command' timeout' isOther text' time'
          rw [isObject] at isOther
          cases isOther
          rw [text] at text'
          rw [time] at time'
          cases text'
          cases time'
          exact fits
        · exact fun fits => fits isShell object command timeout isObject text time
    | patch other | agentSpawn other | agentMessage other | mcp other => exact absurd isShell other
  · exact iff_of_true (utf8ByteSize_summary_le asks isShell bound) fun isShell' =>
      absurd isShell' isShell

theorem validate_shellToolName : validateToolName shellToolName = .ok () := by decide

/-- A call of a shell command. -/
def commandCall (command : String)
    (valid : validateArguments (.object [("command", .string command)]) = .ok ()) : ToolCall :=
  ⟨⟨"call-1", validateCallId_first⟩, ⟨shellToolName, validate_shellToolName⟩,
    .object [("command", .string command)], valid⟩

theorem decode_commandCall {command : String}
    (valid : validateArguments (.object [("command", .string command)]) = .ok ())
    (said : isBlank command = false) (short : command.utf8ByteSize ≤ maxShellArgumentBytes) :
    decodeCallWithSkills (commandCall command valid) false [] [] =
      .ok (.shell command defaultModelToolTimeoutMillis) := by
  have text : requiredText [("command", .string command)] "command" maxShellArgumentBytes =
      .ok command := by
    change (if isBlank command = true then _ else if _ then _ else _) = _
    rw [said, if_neg Bool.false_ne_true, if_neg (not_lt.mpr short)]
  change (requiredText [("command", .string command)] "command" maxShellArgumentBytes >>= _) = _
  rw [text]
  rfl

/-- One batch of a call that delegates a task. -/
def spawnBatch : ToolCallBatch := ⟨toolProtocolVersion, 1, [spawnCall], by decide⟩

/-- A short command is put to the user. -/
theorem approvalRequest_list :
    ∃ approval, approvalRequest (sampleCapabilities true) spawnBatch.round
      (commandCall "ls" (by decide)) (.shell "ls" defaultModelToolTimeoutMillis) = .ok approval ∧
        approval.validate = .ok () := by
  refine (approvalRequest_iff (sampleCapabilities true) spawnBatch
    (List.forall_mem_nil _) (decode_commandCall (by decide) (by decide) (by decide)) rfl).mpr ?_
  intro _ object command timeout isObject text time
  cases isObject
  cases text
  cases time
  decide

/-- A command of as many letters. -/
def crosses (count : Nat) : String := String.ofList (List.replicate count 'x')

theorem utf8ByteSize_crosses (count : Nat) : (crosses count).utf8ByteSize = count :=
  Strings.utf8ByteSize_replicate rfl count

theorem isBlank_crosses (count : Nat) : isBlank (crosses (count + 1)) = false := by
  rw [isBlank, crosses, String.toList_ofList, List.replicate_succ, List.all_cons,
    show isWhiteSpace 'x' = false from rfl, Bool.false_and]

/-- A command as long as a summary is accepted, but cannot be put to the user. -/
theorem not_approvalRequest_long : ¬ ∀ (capabilities : Capabilities) (batch : ToolCallBatch)
    (call : ToolCall) (multiAgent : Bool) (mcpTools : List McpToolBinding)
    (skillTools : List SkillToolBinding) (action : ToolAction),
    (∀ binding ∈ mcpTools, binding.Bound) →
      decodeCallWithSkills call multiAgent mcpTools skillTools = .ok action →
        requiresApproval action = true →
          ∃ approval, approvalRequest capabilities batch.round call action = .ok approval ∧
            approval.validate = .ok () := by
  intro asks
  obtain ⟨command, said, size⟩ : ∃ command, isBlank command = false ∧
      command.utf8ByteSize = 4096 := ⟨_, isBlank_crosses 4095, utf8ByteSize_crosses _⟩
  have valid : validateArguments (.object [("command", .string command)]) = .ok () := by
    have text := Value.encodedSize_string_le command
    have whole := Value.encodedSize_object_le [("command", .string command)]
    rw [List.map_singleton, List.sum_singleton, Value.memberBound] at whole
    change _ ≤ 2 + (6 * 7 + 4 + (Value.string command).encodedSize) at whole
    exact if_neg (not_lt.mpr (whole.trans (show _ ≤ 262144 by omega)))
  obtain ⟨approval, built, -⟩ := asks (sampleCapabilities true) spawnBatch _ false [] [] _
    (List.forall_mem_nil _) (decode_commandCall valid said (by rw [size]; decide)) rfl
  rw [approvalRequest_eq_approvalFor] at built
  have fits := (approvalFor_isOk_iff rfl).mp ⟨approval, built⟩
  rw [utf8ByteSize_summary_shell, size] at fits
  exact absurd fits (by decide)

end Session
end YunXi
