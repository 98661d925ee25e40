import YunXi.Program.SortedMap
import YunXi.Program.Strings
import YunXi.WebContract.Rpc
import YunXi.WebGateway.Projection
import Mathlib.Data.List.Infix

/-!
# Unary requests the gateway answers

Every request gets a result: a view of the projection, or an error of bounded shape.  Only a
view that is too large cannot be sent.
-/

namespace YunXi
namespace WebGateway

open Protocol (Value isBlank)
open WebContract

def agentPresetListMethod : String := "agentPreset.list"
def commandsListMethod : String := "commands/list"
def credentialsDescribeMethod : String := "credentials.describe"
def dynamicCordisInventoryMethod : String := "dynamicCordisRunner/inventory"
def dynamicCordisSyncInspectMethod : String := "dynamicCordisRunner/syncInspectManifest"
def healthStatusMethod : String := "health.status"
def hostDescribeMethod : String := "host.describe"
def llmProvidersMethod : String := "llm.providers"
def pluginInventoryListMethod : String := "pluginInventory/list"
def settingsDescribeMethod : String := "settings.describe"
def settingsMutateMethod : String := "settings.mutate"
def settingsReplaceMethod : String := "settings.replace"
def settingsUpdateMethod : String := "settings.update"
def sessionListMethod : String := "session.list"
def sessionCreateMethod : String := "session.create"
def sessionHistoryMethod : String := "session.history"
def sessionModelsMethod : String := "session.models"
def sessionPromptMethod : String := "session.prompt"
def skillListMethod : String := "skill.list"
def subagentListMethod : String := "subagent.list"
def subagentHistoryMethod : String := "subagent.history"
def workspaceListMethod : String := "workspace.list"

def defaultWorkspaceId : String := "yunxi-default"
def dshWelcomeNoticeVersion : String := "2026-08-13.1"
def packageVersion : String := "0.1.0"

/-- `rpc_error`, whose `expect` holds by the bounds of what it is given. -/
def rpcError (code message : String) (details : Value)
    (bounded : validateError code message details = .ok ()) : RpcError :=
  ⟨code, message, details, bounded⟩

theorem validateError_eq_ok {code message : String} {details : Value} :
    validateError code message details = .ok () ↔
      validateToken "error code" code maxMethodBytes = .ok () ∧ isBlank message = false ∧
        message.utf8ByteSize ≤ maxErrorMessageBytes ∧
        details.encodedSize ≤ maxDetailsBytes ∧ details.isObject = true := by
  unfold validateError
  simp [Except.exists_unit_eq_ok, validateJson_eq_ok]

variable (request : ClientRequest)

/-- A method that was accepted is short enough to be repeated in an error. -/
theorem methodDetails_fit :
    (Value.object [("method", .string request.method)]).encodedSize ≤ maxDetailsBytes := by
  have short := (validateToken_eq_ok.mp request.validMethod).2.1
  have objectSize := Value.encodedSize_object_le [("method", .string request.method)]
  have textSize := Value.encodedSize_string_le request.method
  have keySize : ("method" : String).utf8ByteSize = 6 := by decide
  simp only [List.map_cons, List.map_nil, List.sum_cons, List.sum_nil, Value.memberBound,
    keySize] at objectSize
  unfold maxMethodBytes at short
  unfold maxDetailsBytes
  omega

theorem methodError_bounded {code message : String}
    (validCode : validateToken "error code" code maxMethodBytes = .ok ())
    (notBlank : isBlank message = false)
    (short : message.utf8ByteSize ≤ maxErrorMessageBytes) :
    validateError code message (.object [("method", .string request.method)]) = .ok () :=
  validateError_eq_ok.mpr ⟨validCode, notBlank, short, methodDetails_fit request, rfl⟩

/-- `object_payload`. -/
def objectPayload : Except RpcError Unit :=
  refuseIf (request.payload.isObject = false)
    (rpcError "invalid-payload" "the RPC payload must be a JSON object"
      (.object [("method", .string request.method)])
      (methodError_bounded request (by decide) (by decide) (by decide)))

section Views

variable (projection : GatewayProjection)

def hostDescription : Value :=
  .object ([("attachedSessions",
      .ofNat (projection.sessions.filter fun session => session.running).length),
    ("canOpenPath", .bool false), ("cwd", .string projection.cwd),
    ("home", .string projection.home)] ++
    Protocol.optionalMember "model" (projection.status.model.map .string) ++
    Protocol.optionalMember "provider" (projection.status.provider.map .string) ++
    [("version", .string packageVersion)])

def isCredentialStart (character : Char) : Bool :=
  character == '_' || Protocol.isAsciiLowercase character || Protocol.isAsciiUppercase character

/-- `valid_credential_ref`. -/
def validCredentialRef (value : Value) : Bool :=
  match value with
  | .string text =>
      match text.toList with
      | [] => false
      | first :: rest =>
          isCredentialStart first &&
            rest.all fun character => character == '_' || Protocol.isAsciiAlphanumeric character
  | _ => false

/-- The credential that the configured provider uses. -/
def expectedCredential : Option String :=
  match projection.status.provider with
  | some provider =>
      if "deepseek".toList <:+: provider.toList.map Char.toLower then some "DEEPSEEK_API_KEY"
      else none
  | none => none

def credentialDescriptor (configured : Bool) : Value :=
  .object ([("configured", .bool configured)] ++
    (if configured then [("source", .string "host")] else []) ++ [("writable", .bool false)])

/-- The descriptors of the references that are asked for. -/
def credentialsView (refs : List Value) : Value :=
  let credentials : SortedMap String Value := .ofList ((refs.filterMap Value.asStr).map
    fun reference =>
      (reference, credentialDescriptor (expectedCredential projection = some reference)))
  .object [("credentials", .object credentials.entries)]

/-- `credentials_description`. -/
def credentialsDescription (request : ClientRequest) : Except RpcError Value := do
  objectPayload request
  match request.payload.get "refs" |>.bind Value.asArray with
  | none => throw (rpcError "invalid-payload" "credentials.describe requires a refs array"
      (.object [("field", .string "refs"), ("method", .string credentialsDescribeMethod)])
      (validateError_eq_ok.mpr (by decide)))
  | some refs => do
      refuseIf (refs.length > 64 ∨ refs.any fun reference => !validCredentialRef reference)
        (rpcError "invalid-payload"
          "credentials.describe refs must contain at most 64 environment-style names"
          (.object [("field", .string "refs"), ("method", .string credentialsDescribeMethod)])
          (validateError_eq_ok.mpr (by decide)))
      return credentialsView projection refs

def llmProviders : Value :=
  let provider := projection.status.provider.getD "yunxi"
  .object [("providers", .array [.object [("active", .bool true), ("declared", .bool true),
    ("displayName", .string provider), ("provider", .string provider),
    ("settingsNs", .string ""), ("settingsPath", .array [])]])]

def sessionModels : Value :=
  let status := projection.status
  let named (value : Option String) : Bool := value.any fun text => !isBlank text
  let routable := status.protocolReady && named status.provider && named status.model
  let provider := status.provider.getD "yunxi"
  let model := status.model.getD "default"
  .object [("current", .object [("model", .string model), ("provider", .string provider)]),
    ("failures", .array []),
    ("groups", .array [.object [("id", .string provider),
      ("models", .array [.object [("id", .string model), ("name", .string model)]]),
      ("name", .string provider)]]),
    ("routable", .bool routable)]

/-- `Path::file_name` as text. -/
def fileName (path : String) : Option String :=
  let parts := (path.toList.splitOn '/').map String.ofList
  match (parts.filter fun part => part ≠ "" ∧ part ≠ ".").getLast? with
  | some ".." | none => none
  | some name => some name

/-- `workspace_list` at a time of the clock. -/
def workspaceList (now : UInt64) : Value :=
  let updatedAt := ((projection.sessions.map fun session => session.updatedAt).max?).getD now
  let timestamp := unixMillisRfc3339 updatedAt
  .object [("archivedSessionIds", .array []),
    ("items", .array [.object [("createdAt", .string timestamp), ("path", .string projection.cwd),
      ("sessionIds", .array (projection.sessions.map fun session => .string session.sessionId)),
      ("title", .string ((fileName projection.cwd).getD "YunXi Next")),
      ("updatedAt", .string timestamp), ("workspaceId", .string defaultWorkspaceId)]])]

/-- The namespace that greets a new user. -/
def onboardingNamespace : Value :=
  .object [("applies", .string "live"), ("ns", .string "ui-onboarding"),
    ("revision", .ofNat 0),
    ("schema", .object [
      ("properties", .object [
        ("welcomeNoticeVersion", .object [("type", .string "string")])]),
      ("type", .string "object")]),
    ("secrets", .array []),
    ("value", .object [("welcomeNoticeVersion", .string dshWelcomeNoticeVersion)])]

/-- `session_list_payload`. -/
def sessionListPayload : Except RpcError Unit := do
  objectPayload request
  refuseIf (request.payload.get "cursor" |>.any fun cursor => cursor.asStr.isNone)
    (rpcError "invalid-payload" "session.list cursor must be a string"
      (.object [("field", .string "cursor"), ("method", .string sessionListMethod)])
      (validateError_eq_ok.mpr (by decide)))

end Views

/-- A view that needs nothing but an object as its payload. -/
def viewOf (view : Value) : Except RpcError Value := do
  objectPayload request
  return view

/-- The result `Gateway::dispatch` gives a request at a time of the clock. -/
def gatewayResult (projection : GatewayProjection) (now : UInt64) (request : ClientRequest) :
    Except RpcError Value :=
  let method := request.method
  if method = agentPresetListMethod then
    viewOf request (.object [("authorable", .bool false), ("hasDocument", .bool false),
      ("presets", .array [])])
  else if method = commandsListMethod then viewOf request (.array [])
  else if method = credentialsDescribeMethod then credentialsDescription projection request
  else if method = dynamicCordisInventoryMethod then viewOf request (.array [])
  else if method = dynamicCordisSyncInspectMethod then viewOf request .null
  else if method = healthStatusMethod then viewOf request projection.status.toJson
  else if method = hostDescribeMethod then viewOf request (hostDescription projection)
  else if method = llmProvidersMethod then viewOf request (llmProviders projection)
  else if method = pluginInventoryListMethod then viewOf request projection.dshInventory
  else if method = sessionListMethod then do
    sessionListPayload request
    return .object [("items", .array (projection.sessions.map GatewaySessionSummary.toJson))]
  else if method = sessionModelsMethod then viewOf request (sessionModels projection)
  else if method = settingsDescribeMethod then
    viewOf request (.object [("hasDocument", .bool false),
      ("namespaces", .array [onboardingNamespace]), ("writable", .bool false)])
  else if method = skillListMethod then viewOf request (.object [("skills", .array [])])
  else if method = subagentListMethod then
    viewOf request (.object [("entries", .array []), ("parentAvailable", .bool true)])
  else if method = subagentHistoryMethod then
    viewOf request (.object [("events", .array []), ("hasMore", .bool false)])
  else if method = workspaceListMethod then viewOf request (workspaceList projection now)
  else if method = eventsMuxMethod ∨ method = eventsHostMethod then
    .error (rpcError "stream-only-method"
      "event channels are exposed by the event carrier, not unary RPC"
      (.object [("method", .string request.method)])
      (methodError_bounded request (by decide) (by decide) (by decide)))
  else
    .error (rpcError "method-not-supported"
      "the requested Web RPC method is not enabled by this Gateway"
      (.object [("method", .string request.method)])
      (methodError_bounded request (by decide) (by decide) (by decide)))

end WebGateway
end YunXi
