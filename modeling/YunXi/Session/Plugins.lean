import YunXi.Protocol.Chat
import YunXi.Program.Strings

/-!
# Calls of plugins and what a tool call makes of them

A call of a plugin through the host returns the plugin's result or says why there is none.
A tool call turns either into an outcome, and a text that does not fit an outcome into one
that does.
-/

namespace YunXi
namespace Session

open Protocol

/-- `PluginCallError`; an error of another crate is given by its text. -/
inductive PluginCallError
  | route (error : String)
  | codec (error : String)
  | unavailable (pluginId message : String)
  | rejected (pluginId code message : String) (retryable : Bool)
  | protocolViolation (pluginId message : String)
  deriving DecidableEq, Repr

/-- `fmt::Display for PluginCallError`. -/
def PluginCallError.display : PluginCallError → String
  | route error | codec error => error
  | unavailable pluginId message =>
      "plugin `" ++ pluginId ++ "` is unavailable: " ++ message
  | rejected pluginId code message retryable =>
      "plugin `" ++ pluginId ++ "` rejected the request (" ++ code ++ "): " ++ message ++
        if retryable then " [retryable]" else ""
  | protocolViolation pluginId message =>
      "plugin `" ++ pluginId ++ "` violated the protocol: " ++ message

/-- `call_lost_route`. -/
def callLostRoute : PluginCallError → Bool
  | .route _ | .unavailable .. | .protocolViolation .. => true
  | .codec _ | .rejected .. => false

/-- `completed_rejection`. -/
def completedRejection (code message : String) : ToolResultOutcome :=
  match ToolResultOutcome.newRejected code message with
  | .ok outcome => outcome
  | .error _ => .cancelled "tool result was invalid"

/-- `failed_outcome`. -/
def failedOutcome (code message : String) (retryable : Bool) : ToolResultOutcome :=
  match ToolResultOutcome.newFailed code message retryable with
  | .ok outcome => outcome
  | .error _ => .cancelled "tool failure was invalid"

/-- `serialized_outcome`, of a value that is already serialized. -/
def serializedOutcome (value : Value) (invalidMessage : String) : ToolResultOutcome :=
  if (ToolResultOutcome.completed value).validate = .ok () then .completed value
  else completedRejection "invalid_tool_result" invalidMessage

end Session
end YunXi
