import YunXi.Protocol.Chat

/-!
# Errors and cancellation of the agent spine

Component errors normalize their code and bound their message when they are
built.  A cancellation token remembers the argument of the first `cancel` call;
its reason is bounded once when it is stored and once more when a check turns
it into an error.
-/

namespace YunXi
namespace AgentSpine

open Protocol

def maxErrorCodeBytes : Nat := 128
def maxErrorMessageBytes : Nat := 4096
def maxCancellationReasonBytes : Nat := 4096

/-- Largest value of a `u64` or of a 64-bit `usize`. -/
def maxWord : Nat := 2 ^ 64 - 1

/-- `checked_add` on 64-bit words. -/
def checkedAdd (left right : Nat) : Option Nat :=
  if left + right ≤ maxWord then some (left + right) else none

/-- `saturating_add` for an unsigned type with the given largest value. -/
def saturatingAdd (largest left right : Nat) : Nat :=
  min (left + right) largest

/-- Every character but the first may also be a digit or punctuation. -/
def isErrorCode (characters : List Char) : Bool :=
  match characters with
  | [] => false
  | first :: rest => isAsciiLowercase first && rest.all toolNameCharacter

def normalizeCode (value : String) : String :=
  let value := truncate value maxErrorCodeBytes
  if isErrorCode value.toList then value else "component_error"

def boundedMessage (value : String) : String :=
  let value := truncate value maxErrorMessageBytes
  if value.toList.isEmpty then "component operation failed" else value

/-- A structured error of a model, context or tool component.  Besides `new`, the
derived deserializer builds it from any fields. -/
structure ComponentError where
  code : String
  message : String
  retryable : Bool
  deriving DecidableEq

def ComponentError.new (code message : String) (retryable : Bool) : ComponentError :=
  ⟨normalizeCode code, boundedMessage message, retryable⟩

def boundedReason (value : String) : String :=
  if isBlank value then "cancelled" else truncate value maxCancellationReasonBytes

/-- What a read of a token's cells sees: the argument of the `cancel` call that
set the reason, once the token is cancelled. -/
structure CancellationToken where
  requested : Option String

/-- `CancellationToken::reason`. -/
def CancellationToken.reason (token : CancellationToken) : Option String :=
  token.requested.map boundedReason

/-- A cancellation seen by a check; its reason was bounded by `new`. -/
structure CancellationError where
  reason : String
  bounded : ∃ raw, reason = boundedReason raw
  deriving DecidableEq

def CancellationError.new (reason : String) : CancellationError :=
  ⟨boundedReason reason, reason, rfl⟩

/-- `CancellationToken::check`. -/
def CancellationToken.check (token : CancellationToken) : Except CancellationError Unit :=
  match token.reason with
  | none => .ok ()
  | some reason => .error (.new reason)

inductive AgentState
  | ready
  | running
  | awaitingApproval
  deriving DecidableEq, Repr

def AgentState.display : AgentState → String
  | ready => "ready"
  | running => "running"
  | awaitingApproval => "awaiting_approval"

inductive BudgetKind
  | rounds
  | modelCalls
  | toolCalls
  deriving DecidableEq, Repr

def BudgetKind.display : BudgetKind → String
  | rounds => "rounds"
  | modelCalls => "model_calls"
  | toolCalls => "tool_calls"

inductive SessionError
  | invalidLimit (field : String) (value : Nat)
  | invalidEvent (message : String)
  | invalidSeed (message : String)
  | eventTooLarge (size maximum : Nat)
  | eventLimitReached (maximum : Nat)
  | byteLimitReached (used incoming maximum : Nat)
  | sequenceExhausted
  deriving DecidableEq, Repr

namespace SessionError

def code : SessionError → String
  | invalidLimit _ _ => "invalid_session_limit"
  | invalidEvent _ => "invalid_session_event"
  | invalidSeed _ => "invalid_session_seed"
  | eventTooLarge _ _ => "session_event_too_large"
  | eventLimitReached _ => "session_event_limit"
  | byteLimitReached _ _ _ => "session_byte_limit"
  | sequenceExhausted => "session_sequence_exhausted"

/-- `fmt::Display for SessionError`. -/
def display : SessionError → String
  | invalidLimit field value =>
      "session limit " ++ field ++ " has invalid value " ++ toString value
  | invalidEvent message => "invalid session event: " ++ message
  | invalidSeed message => "invalid session seed: " ++ message
  | eventTooLarge size maximum =>
      "session event is " ++ toString size ++ " bytes; maximum is " ++ toString maximum
  | eventLimitReached maximum =>
      "session event limit of " ++ toString maximum ++ " has been reached"
  | byteLimitReached used incoming maximum =>
      "session byte limit exceeded: " ++ toString used ++ " + " ++ toString incoming ++
        " > " ++ toString maximum
  | sequenceExhausted => "session event sequence is exhausted"

end SessionError

inductive AgentError
  | invalidInput (error : ComponentError)
  | invalidState (operation : String) (state : AgentState)
  | session (error : SessionError)
  | context (error : ComponentError)
  | model (error : ComponentError)
  | tool (error : ComponentError)
  | budgetExceeded (kind : BudgetKind) (limit used : Nat)
  | cancelled (error : CancellationError)
  | protocol (error : ComponentError)
  deriving DecidableEq

namespace AgentError

def newInvalidInput (code message : String) : AgentError :=
  invalidInput (.new code message false)

def newProtocol (code message : String) : AgentError :=
  protocol (.new code message false)

def code : AgentError → String
  | invalidInput error | context error | model error | tool error | protocol error =>
      error.code
  | invalidState _ _ => "invalid_state"
  | session error => error.code
  | budgetExceeded _ _ _ => "budget_exceeded"
  | cancelled _ => "cancelled"

def message : AgentError → String
  | invalidInput error | context error | model error | tool error | protocol error =>
      error.message
  | invalidState operation state =>
      "cannot " ++ operation ++ " while agent is " ++ state.display
  | session error => error.display
  | budgetExceeded kind limit used =>
      kind.display ++ " budget exhausted: used " ++ toString used ++ ", limit " ++
        toString limit
  | cancelled error => error.reason

def retryable : AgentError → Bool
  | context error | model error | tool error => error.retryable
  | _ => false

def cancellationReason : AgentError → Option String
  | cancelled error => some error.reason
  | _ => none

end AgentError

end AgentSpine
end YunXi
