import YunXi.PluginHost.Host

/-!
# The loop of a plugin

Every plugin receives the messages of its host one after the other.  It handles an invocation,
sends the answer, and goes on; it ends when it is told to, or with an error.  What holds of every
such loop is stated here once, for any way of handling invocations.
-/

namespace YunXi
namespace PluginHost

open Protocol (Value)

/-- The message that `InvocationResponse::encode` makes. -/
def completed (requestId : Nat) (payload : Value) : Except InvocationCodecError PluginMessage :=
  if requestId = 0 then .error .zeroRequestId
  else .ok (.invocationCompleted requestId payload)

/-- The message of `send_failure`. -/
def failure (requestId : Nat) (code message : String) : PluginMessage :=
  .invocationFailed requestId code message false

/-- A message that answers an invocation. -/
inductive Answers (requestId : Nat) : PluginMessage → Prop
  | completed (payload : Value) : Answers requestId (.invocationCompleted requestId payload)
  | failed (code message : String) :
      Answers requestId (.invocationFailed requestId code message false)

theorem answers_of_completed {requestId : Nat} {payload : Value} {response : PluginMessage}
    (encoded : completed requestId payload = .ok response) : Answers requestId response := by
  unfold completed at encoded
  rw [Except.ite_error_eq_ok] at encoded
  cases encoded.2
  exact .completed payload

/-- `fmt::Display for InvocationCodecError`. -/
def InvocationCodecError.display : InvocationCodecError → String
  | .zeroRequestId => "request id must be greater than zero"
  | .emptyOperation => "operation cannot be empty"
  | .operationTooLong length maximum =>
      "operation is " ++ toString length ++ " bytes; maximum is " ++ toString maximum
  | .invalidOperationCharacter index character =>
      "operation contains unsupported character `" ++ character.toString ++ "` at byte " ++
        toString index
  | .serialize message => "failed to encode invocation payload: " ++ message

/-- What the session of a plugin receives. -/
inductive HostInput
  | message (message : HostMessage)
  | welcome
  | failed (error : SessionError)

/-- The invocations that a session receives. -/
def invocationsOf (inputs : List HostInput) : List InvocationRequest :=
  inputs.filterMap fun input =>
    match input with
    | .message (.invoke request) => some request
    | _ => none

/-- How the loop of a plugin ends on its own. -/
structure PluginErrors (ε : Type) where
  protocol : SessionError → ε
  unexpectedHostMessage : String → ε

/-- A plugin, with what its next sends end with; a send that is not listed succeeds. -/
structure ServingPlugin (σ : Type) where
  state : σ
  sends : List (Option SessionError)
  sent : List PluginMessage

variable {σ ε : Type}

/-- The loop of a plugin, up to its end or to where it waits for the next message. -/
def serve (errors : PluginErrors ε)
    (handle : σ → InvocationRequest → Except ε PluginMessage × σ) (plugin : ServingPlugin σ) :
    List HostInput → Option (Except ε Unit) × ServingPlugin σ
  | [] => (none, plugin)
  | .failed error :: _ => (some (.error (errors.protocol error)), plugin)
  | .welcome :: _ =>
      (some (.error (errors.unexpectedHostMessage "received a second welcome after readiness")),
        plugin)
  | .message .shutdown :: _ => (some (.ok ()), plugin)
  | .message (.invoke request) :: later =>
      match handle plugin.state request with
      | (.error error, state) => (some (.error error), { plugin with state })
      | (.ok response, state) =>
          match plugin.sends with
          | some error :: sends =>
              (some (.error (errors.protocol error)), { plugin with state, sends })
          | none :: sends =>
              serve errors handle
                { plugin with state, sends, sent := plugin.sent ++ [response] } later
          | [] =>
              serve errors handle { plugin with state, sent := plugin.sent ++ [response] } later

section Loop

variable {errors : PluginErrors ε}
  {handle : σ → InvocationRequest → Except ε PluginMessage × σ}

/-- If each response is an answer to its invocation, a plugin answers the invocations it receives
in their order, each of them once, and leaves none unanswered while it runs. -/
theorem serve_answers {Answer : InvocationRequest → PluginMessage → Prop}
    (plugin : ServingPlugin σ) (inputs : List HostInput)
    (answers : ∀ state, ∀ request ∈ invocationsOf inputs, ∀ response,
      (handle state request).1 = .ok response → Answer request response) :
    ∃ (answered unanswered : List InvocationRequest) (responses : List PluginMessage),
      invocationsOf inputs = answered ++ unanswered ∧
      (serve errors handle plugin inputs).2.sent = plugin.sent ++ responses ∧
      List.Forall₂ Answer answered responses ∧
      ((serve errors handle plugin inputs).1 = none → unanswered = []) := by
  fun_induction serve errors handle plugin inputs with
  | case1 plugin => exact ⟨[], [], [], rfl, (List.append_nil _).symm, .nil, fun _ => rfl⟩
  | case2 plugin error later =>
      exact ⟨[], _, [], rfl, (List.append_nil _).symm, .nil, by rintro ⟨⟩⟩
  | case3 plugin later =>
      exact ⟨[], _, [], rfl, (List.append_nil _).symm, .nil, by rintro ⟨⟩⟩
  | case4 plugin later =>
      exact ⟨[], _, [], rfl, (List.append_nil _).symm, .nil, by rintro ⟨⟩⟩
  | case5 plugin request later error state ended =>
      exact ⟨[], _, [], rfl, (List.append_nil _).symm, .nil, by rintro ⟨⟩⟩
  | case6 plugin request later response state handled error sends refused =>
      exact ⟨[], _, [], rfl, (List.append_nil _).symm, .nil, by rintro ⟨⟩⟩
  | case7 plugin request later response state handled sends accepted ih =>
      obtain ⟨answered, unanswered, responses, split, sent, each, all⟩ := ih
        fun state request member => answers state request (List.mem_cons_of_mem _ member)
      have first := answers plugin.state request List.mem_cons_self response
        (congrArg Prod.fst handled)
      refine ⟨request :: answered, unanswered, response :: responses,
        congrArg (List.cons request) split, ?_, .cons first each, all⟩
      rw [sent, List.append_assoc]
      rfl
  | case8 plugin request later response state handled noSends ih =>
      obtain ⟨answered, unanswered, responses, split, sent, each, all⟩ := ih
        fun state request member => answers state request (List.mem_cons_of_mem _ member)
      have first := answers plugin.state request List.mem_cons_self response
        (congrArg Prod.fst handled)
      refine ⟨request :: answered, unanswered, response :: responses,
        congrArg (List.cons request) split, ?_, .cons first each, all⟩
      rw [sent, List.append_assoc]
      rfl

/-- Induction rule: what every invocation keeps, given the invocations seen so far, holds when the
loop ends or waits. -/
theorem serve_keeps (invariant : List InvocationRequest → σ → Prop)
    (mono : ∀ {seen more state}, seen ⊆ more → invariant seen state → invariant more state)
    (keeps : ∀ seen state request, request ∈ seen → invariant seen state →
      invariant seen (handle state request).2)
    {seen : List InvocationRequest} (plugin : ServingPlugin σ)
    (atStart : invariant seen plugin.state) (inputs : List HostInput) :
    invariant (seen ++ invocationsOf inputs) (serve errors handle plugin inputs).2.state := by
  induction inputs generalizing seen plugin with
  | nil => exact mono (List.subset_append_left seen _) atStart
  | cons input later ih =>
      have kept := mono (List.subset_append_left seen (invocationsOf (input :: later))) atStart
      cases input with
      | failed error => exact kept
      | welcome => exact kept
      | message message =>
          cases message with
          | shutdown => exact kept
          | invoke request =>
              have after := keeps (seen ++ [request]) plugin.state request
                (List.mem_append_right seen (List.mem_singleton_self request))
                (mono (List.subset_append_left seen [request]) atStart)
              have split : seen ++ invocationsOf (.message (.invoke request) :: later) =
                  (seen ++ [request]) ++ invocationsOf later := by
                rw [List.append_assoc]
                rfl
              rw [split]
              unfold serve
              split
              · next ended =>
                  rw [ended] at after
                  exact mono (List.subset_append_left _ _) after
              · next handled =>
                  rw [handled] at after
                  split
                  · exact mono (List.subset_append_left _ _) after
                  · exact ih _ after
                  · exact ih _ after

end Loop

end PluginHost
end YunXi
