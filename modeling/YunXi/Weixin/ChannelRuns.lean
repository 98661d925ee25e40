import YunXi.Program.Run
import YunXi.Weixin.Loopback
import Mathlib.Data.List.Dedup

/-!
# The store of the Weixin channel

What a request can do to the stored messages, what therefore holds after any sequence of
requests, and how the loopback follows the plugin.
-/

namespace YunXi
namespace Weixin

open Fallible

theorem ChannelMessage.sameEnvelope_iff {left right : MessageEnvelope} :
    sameEnvelope left right = true ↔ left = { right with delivery := left.delivery } := by
  obtain ⟨_, _, _, _, _, _, _, _, _, _⟩ := left
  simp [sameEnvelope, and_assoc]

/-- Two messages are the same when they go in one direction and differ in nothing but their
deliveries. -/
theorem ChannelMessage.sameMessage_iff {left right : ChannelMessage} :
    left.sameMessage right = true ↔
      left.envelope = { right.envelope with delivery := left.envelope.delivery } := by
  cases left with
  | inbound left =>
      cases right with
      | inbound right => exact sameEnvelope_iff
      | outbound right =>
          refine iff_of_false (by simp [sameMessage]) fun equal => ?_
          have directions := congrArg MessageEnvelope.direction equal
          simp [envelope, left.direction_envelope, right.direction_envelope] at directions
  | outbound left =>
      cases right with
      | inbound right =>
          refine iff_of_false (by simp [sameMessage]) fun equal => ?_
          have directions := congrArg MessageEnvelope.direction equal
          simp [envelope, left.direction_envelope, right.direction_envelope] at directions
      | outbound right => exact sameEnvelope_iff

variable {message : ChannelMessage}

namespace ChannelMessage

theorem idempotencyKey_eq (message : ChannelMessage) :
    message.idempotencyKey = message.envelope.idempotencyKey.value := by
  cases message <;> rfl

theorem validate_envelope (message : ChannelMessage) :
    message.envelope.validate = .ok () := by
  cases message with
  | inbound message => exact message.validate_envelope
  | outbound message => exact message.validate_envelope

theorem idempotencyKey_of_sameMessage {left right : ChannelMessage}
    (same : left.sameMessage right = true) : left.idempotencyKey = right.idempotencyKey := by
  rw [idempotencyKey_eq, idempotencyKey_eq, sameMessage_iff.mp same]

/-- A mutation changes nothing but the delivery. -/
theorem sameMessage_of_mutate {mutated : ChannelMessage}
    {operation : StatusProgram Unit} (returned : message.mutate operation = .ok mutated) :
    mutated.sameMessage message = true := by
  rw [sameMessage_iff]
  cases message with
  | inbound message =>
      obtain ⟨changed, succeeded, built⟩ := Except.bind_eq_ok.mp returned
      rw [Except.pure_eq_ok] at built
      subst built
      rw [envelope, envelope, DirectedMessage.envelope_of_mutate succeeded]
  | outbound message =>
      obtain ⟨changed, succeeded, built⟩ := Except.bind_eq_ok.mp returned
      rw [Except.pure_eq_ok] at built
      subst built
      rw [envelope, envelope, DirectedMessage.envelope_of_mutate succeeded]

end ChannelMessage

/-- The message that a request wants to register. -/
def ChannelRequest.registered : ChannelRequest → Option ChannelMessage
  | .inbound message => some (.inbound message)
  | .outbound message => some (.outbound message)
  | .fixture direction => (fixtureMessage direction).toOption
  | _ => none

/-- The ways a request can go. -/
inductive Handled (runtime : ChannelRuntime) (request : ChannelRequest) :
    Except WeixinPluginError WeixinPluginResponse × ChannelRuntime → Prop
  | refused (error : WeixinPluginError) : Handled runtime request (.error error, runtime)
  | described (plugin capability contract mode : String) (realWeixin : Bool) :
      Handled runtime request
        (.ok (.description plugin capability contract mode realWeixin), runtime)
  | duplicate {message stored : ChannelMessage}
      (registers : request.registered = some message)
      (found : runtime.messages.lookup? message.idempotencyKey = some stored)
      (same : stored.sameMessage message = true) :
      Handled runtime request (.ok (.accepted message.idempotencyKey true stored), runtime)
  | accepted {message : ChannelMessage} (registers : request.registered = some message)
      (free : runtime.messages.lookup? message.idempotencyKey = none)
      (room : runtime.messages.size < maxStoredMessages) :
      Handled runtime request (.ok (.accepted message.idempotencyKey false message),
        ⟨runtime.messages.insert message.idempotencyKey message⟩)
  | mutated (operation : String) {key : String} {stored message : ChannelMessage}
      (found : runtime.messages.lookup? key = some stored)
      (same : message.sameMessage stored = true) :
      Handled runtime request (.ok (.mutated operation key message),
        ⟨runtime.messages.insert key message⟩)

theorem exec_register (runtime : ChannelRuntime) (message : ChannelMessage) :
    (ChannelRuntime.register message).exec runtime =
      match runtime.messages.lookup? message.idempotencyKey with
      | some existing =>
          if existing.sameMessage message then
            (.ok (.accepted message.idempotencyKey true existing), runtime)
          else (.error (.idempotencyConflict message.idempotencyKey), runtime)
      | none =>
          if runtime.messages.size ≥ maxStoredMessages then
            (.error (.capacityExceeded maxStoredMessages), runtime)
          else (.ok (.accepted message.idempotencyKey false message),
            ⟨runtime.messages.insert message.idempotencyKey message⟩) := by
  unfold ChannelRuntime.register
  rw [exec_get_bind]
  dsimp only
  cases runtime.messages.lookup? message.idempotencyKey with
  | some existing =>
      dsimp only
      by_cases same : existing.sameMessage message
      · rw [if_pos same, if_pos same]
        rfl
      · rw [if_neg same, if_neg same]
        rfl
  | none =>
      dsimp only
      rw [exec_bind]
      unfold throwIf
      by_cases full : runtime.messages.size ≥ maxStoredMessages
      · rw [if_pos full, if_pos full]
        rfl
      · rw [if_neg full, if_neg full]
        rfl

variable {runtime : ChannelRuntime}

theorem handled_register {request : ChannelRequest}
    (registers : request.registered = some message) :
    Handled runtime request ((ChannelRuntime.register message).exec runtime) := by
  rw [exec_register]
  cases found : runtime.messages.lookup? message.idempotencyKey with
  | some existing =>
      dsimp only
      split
      case isTrue same => exact .duplicate registers found same
      case isFalse => exact .refused _
  | none =>
      dsimp only
      split
      case isTrue => exact .refused _
      case isFalse room => exact .accepted registers found (Nat.lt_of_not_ge room)

theorem exec_mutate (runtime : ChannelRuntime) (request : MessageMutationRequest)
    (operation : String) (action : StatusProgram Unit) :
    (ChannelRuntime.mutate request operation action).exec runtime =
      match runtime.messages.lookup? request.idempotencyKey.value with
      | none => (.error (.unknownMessage request.idempotencyKey.value), runtime)
      | some stored =>
          match stored.mutate action with
          | .error error => (.error (.contract error), runtime)
          | .ok message =>
              (.ok (.mutated operation request.idempotencyKey.value message),
                ⟨runtime.messages.insert request.idempotencyKey.value message⟩) := by
  unfold ChannelRuntime.mutate
  rw [exec_get_bind]
  dsimp only
  cases runtime.messages.lookup? request.idempotencyKey.value with
  | none => rfl
  | some stored =>
      dsimp only
      rw [exec_bind]
      cases stored.mutate action <;> rfl

theorem handled_mutate (runtime : ChannelRuntime) (handling : ChannelRequest)
    (request : MessageMutationRequest) (operation : String) (action : StatusProgram Unit) :
    Handled runtime handling ((ChannelRuntime.mutate request operation action).exec runtime) := by
  rw [exec_mutate]
  cases found : runtime.messages.lookup? request.idempotencyKey.value with
  | none => exact .refused _
  | some stored =>
      dsimp only
      cases returned : stored.mutate action with
      | error error => exact .refused _
      | ok message =>
          exact .mutated operation found (ChannelMessage.sameMessage_of_mutate returned)

theorem handled_reason (runtime : ChannelRuntime) (handling : ChannelRequest)
    (request : MessageMutationRequest) (operation : String)
    (action : String → StatusProgram Unit) :
    Handled runtime handling (Fallible.exec (do
        let reason ← Fallible.ofExcept (request.reasonFor operation)
        ChannelRuntime.mutate request operation (action reason)) runtime) := by
  rw [exec_bind]
  cases request.reasonFor operation with
  | error error => exact .refused _
  | ok reason => exact handled_mutate runtime handling request operation (action reason)

theorem handled_performRequest (runtime : ChannelRuntime) (request : ChannelRequest) :
    Handled runtime request ((performRequest request).exec runtime) := by
  cases request with
  | inbound message => exact handled_register rfl
  | outbound message => exact handled_register rfl
  | fixture direction =>
      rw [performRequest, exec_bind]
      cases built : fixtureMessage direction with
      | error error => exact .refused _
      | ok message =>
          exact handled_register (by rw [ChannelRequest.registered, built]; rfl)
  | ack request => exact handled_mutate runtime _ request _ _
  | cancel request => exact handled_reason runtime _ request "cancel" cancelDelivery
  | fail request => exact handled_reason runtime _ request "fail" DeliveryStatus.markFailed
  | describe => exact .described _ _ _ _ _

/-- Messages under their own keys, valid, and not too many. -/
structure ChannelRuntime.Consistent (runtime : ChannelRuntime) : Prop where
  own : ∀ key message, runtime.messages.lookup? key = some message →
    message.idempotencyKey = key
  valid : ∀ key message, runtime.messages.lookup? key = some message →
    message.envelope.validate = .ok ()
  bounded : runtime.messages.size ≤ maxStoredMessages

/-- What is stored stays under its key, and all of it but the delivery as it was. -/
def Keeps (before after : ChannelRuntime) : Prop :=
  ∀ key message, before.messages.lookup? key = some message →
    ∃ later, after.messages.lookup? key = some later ∧
      later.envelope = { message.envelope with delivery := later.envelope.delivery }

theorem Keeps.refl (runtime : ChannelRuntime) : Keeps runtime runtime :=
  fun _ message found => ⟨message, found, rfl⟩

theorem Keeps.trans {first second third : ChannelRuntime} (left : Keeps first second)
    (right : Keeps second third) : Keeps first third := by
  intro key message found
  obtain ⟨middle, foundMiddle, sameMiddle⟩ := left key message found
  obtain ⟨later, foundLater, sameLater⟩ := right key middle foundMiddle
  refine ⟨later, foundLater, ?_⟩
  rw [sameLater, sameMiddle]

namespace Handled

variable {runtime : ChannelRuntime} {request : ChannelRequest}
variable {outcome : Except WeixinPluginError WeixinPluginResponse × ChannelRuntime}

theorem consistent (handled : Handled runtime request outcome)
    (consistent : runtime.Consistent) : outcome.2.Consistent := by
  have inserted : ∀ {key : String} {message : ChannelMessage}, message.idempotencyKey = key →
      (runtime.messages.insert key message).size ≤ maxStoredMessages →
        ChannelRuntime.Consistent ⟨runtime.messages.insert key message⟩ := by
    intro key message named bounded
    have stored : ∀ other found,
        (runtime.messages.insert key message).lookup? other = some found →
          found.idempotencyKey = other := by
      intro other found holds
      by_cases here : other = key
      · rw [here, SortedMap.lookup?_insert_self, Option.some_inj] at holds
        rw [← holds, named, here]
      · rw [SortedMap.lookup?_insert_of_ne _ here] at holds
        exact consistent.own other found holds
    exact ⟨stored, fun _ found _ => found.validate_envelope, bounded⟩
  cases handled with
  | refused | described | duplicate => exact consistent
  | accepted registers free room =>
      exact inserted rfl ((SortedMap.size_insert_le _ _ _).trans room)
  | mutated operation found same =>
      refine inserted ?_ ?_
      · rw [ChannelMessage.idempotencyKey_of_sameMessage same]
        exact consistent.own _ _ found
      · rw [SortedMap.size_insert_of_mem (SortedMap.mem_keys_iff.mpr ⟨_, found⟩)]
        exact consistent.bounded

theorem keeps (handled : Handled runtime request outcome) : Keeps runtime outcome.2 := by
  cases handled with
  | refused | described | duplicate => exact .refl runtime
  | accepted registers free room =>
      intro key message found
      refine ⟨message, ?_, rfl⟩
      rw [SortedMap.lookup?_insert_of_ne, found]
      rintro rfl
      rw [found] at free
      cases free
  | @mutated operation key stored changed found same =>
      intro other message holds
      by_cases here : other = key
      · subst here
        rw [found, Option.some_inj] at holds
        subst holds
        exact ⟨changed, SortedMap.lookup?_insert_self _ _ _,
          ChannelMessage.sameMessage_iff.mp same⟩
      · exact ⟨message, by rw [SortedMap.lookup?_insert_of_ne _ here, holds], rfl⟩

theorem keys (handled : Handled runtime request outcome) {used : List String}
    (known : ∀ key ∈ runtime.messages.keys, key ∈ used)
    (uses : ∀ message ∈ request.registered, message.idempotencyKey ∈ used) :
    ∀ key ∈ outcome.2.messages.keys, key ∈ used := by
  cases handled with
  | refused | described | duplicate => exact known
  | accepted registers free room =>
      intro key member
      rcases SortedMap.mem_keys_insert member with rfl | member
      · exact uses _ registers
      · exact known key member
  | mutated operation found same =>
      intro key member
      rcases SortedMap.mem_keys_insert member with rfl | member
      · exact known _ (SortedMap.mem_keys_iff.mpr ⟨_, found⟩)
      · exact known key member

end Handled

section Invocations

variable (decoder : PayloadDecoder)

/-- An invocation that does not decode is refused, and any other is handled. -/
theorem dispatch_cases (runtime : ChannelRuntime) (request : InvocationRequest) :
    (∃ error, decodeRequest decoder request = .error error ∧
        (dispatch decoder request).exec runtime = (.error error, runtime)) ∨
      ∃ decoded, decodeRequest decoder request = .ok decoded ∧
        (dispatch decoder request).exec runtime = (performRequest decoded).exec runtime := by
  unfold dispatch
  rw [exec_bind]
  cases decodeRequest decoder request with
  | error error => exact .inl ⟨error, rfl, rfl⟩
  | ok decoded => exact .inr ⟨decoded, rfl, rfl⟩

/-- How the runtime answers: a refusal changes nothing, a message that is stored already is
reported as it is stored, and a message that is accepted is stored as it is. -/
structure Lawful (runtime : ChannelRuntime) (request : InvocationRequest) : Prop where
  refused : ∀ error, ((dispatch decoder request).exec runtime).1 = .error error →
    channelStep decoder runtime request = runtime
  duplicate : ∀ decoded message stored, decodeRequest decoder request = .ok decoded →
    decoded.registered = some message →
    runtime.messages.lookup? message.idempotencyKey = some stored →
    stored.envelope = { message.envelope with delivery := stored.envelope.delivery } →
      (dispatch decoder request).exec runtime =
        (.ok (.accepted message.idempotencyKey true stored), runtime)
  accepted : ∀ key message,
    ((dispatch decoder request).exec runtime).1 = .ok (.accepted key false message) →
      (channelStep decoder runtime request).messages.lookup? key = some message

/-- A request that registers a message runs `register` on it. -/
theorem performRequest_of_registered {request : ChannelRequest}
    (registers : request.registered = some message) (runtime : ChannelRuntime) :
    (performRequest request).exec runtime = (ChannelRuntime.register message).exec runtime := by
  cases request with
  | inbound message => cases registers; rfl
  | outbound message => cases registers; rfl
  | fixture direction =>
      have built := Except.toOption_eq_some.mp registers
      rw [performRequest, exec_bind, built]
      rfl
  | _ => cases registers

theorem lawful (runtime : ChannelRuntime) (request : InvocationRequest) :
    Lawful decoder runtime request := by
  rcases dispatch_cases decoder runtime request with
    ⟨error, undecoded, ran⟩ | ⟨decoded, isDecoded, ran⟩
  · refine ⟨?_, ?_, ?_⟩
    · intro _ _
      rw [channelStep, ran]
    · intro decoded _ _ isDecoded
      rw [undecoded] at isDecoded
      cases isDecoded
    · intro _ _ returned
      rw [ran] at returned
      cases returned
  · have handled := handled_performRequest runtime decoded
    rw [← ran] at handled
    refine ⟨?_, ?_, ?_⟩
    · intro error returned
      unfold channelStep
      generalize (dispatch decoder request).exec runtime = outcome at handled returned
      cases handled with
      | refused => rfl
      | _ => cases returned
    · intro other message stored otherDecoded registers found same
      rw [isDecoded, Except.ok.injEq] at otherDecoded
      subst otherDecoded
      rw [ran, performRequest_of_registered registers, exec_register, found]
      exact if_pos (ChannelMessage.sameMessage_iff.mpr same)
    · intro key message returned
      unfold channelStep
      generalize (dispatch decoder request).exec runtime = outcome at handled returned
      cases handled with
      | accepted registers free room =>
          cases returned
          exact SortedMap.lookup?_insert_self _ _ _
      | _ => cases returned

theorem consistent_channelStep (consistent : runtime.Consistent)
    (request : InvocationRequest) : (channelStep decoder runtime request).Consistent := by
  unfold channelStep
  rcases dispatch_cases decoder runtime request with ⟨error, -, ran⟩ | ⟨decoded, -, ran⟩
  · rw [ran]
    exact consistent
  · rw [ran]
    exact (handled_performRequest runtime decoded).consistent consistent

theorem keeps_channelStep (runtime : ChannelRuntime) (request : InvocationRequest) :
    Keeps runtime (channelStep decoder runtime request) := by
  unfold channelStep
  rcases dispatch_cases decoder runtime request with ⟨error, -, ran⟩ | ⟨decoded, -, ran⟩
  · rw [ran]
    exact .refl runtime
  · rw [ran]
    exact (handled_performRequest runtime decoded).keeps

theorem keeps_run (runtime : ChannelRuntime) (requests : List InvocationRequest) :
    Keeps runtime (finalState (channelStep decoder) runtime requests) := by
  induction requests generalizing runtime with
  | nil => exact .refl runtime
  | cons request requests ih =>
      exact (keeps_channelStep decoder runtime request).trans (ih _)

theorem consistent_empty : ChannelRuntime.empty.Consistent :=
  ⟨fun _ _ impossible => (nomatch impossible), fun _ _ impossible => (nomatch impossible),
    Nat.zero_le _⟩

end Invocations

namespace Loopback

def StoredMessage.toChannel : StoredMessage → ChannelMessage
  | inbound message => .inbound message
  | outbound message => .outbound message

theorem idempotencyKey_toChannel (message : StoredMessage) :
    message.toChannel.idempotencyKey = message.idempotencyKey := by
  cases message <;> rfl

theorem sameMessage_toChannel (left right : StoredMessage) :
    left.toChannel.sameMessage right.toChannel = left.sameMessage right := by
  cases left <;> cases right <;> rfl

theorem mutate_toChannel (message : StoredMessage) (operation : StatusProgram Unit) :
    message.toChannel.mutate operation =
      (message.changed operation).map StoredMessage.toChannel := by
  cases message with
  | inbound message =>
      unfold StoredMessage.toChannel StoredMessage.changed ChannelMessage.mutate
      dsimp only
      cases message.mutate operation <;> rfl
  | outbound message =>
      unfold StoredMessage.toChannel StoredMessage.changed ChannelMessage.mutate
      dsimp only
      cases message.mutate operation <;> rfl

theorem fixtureMessage_toChannel (direction : FixtureDirection) :
    Weixin.fixtureMessage direction =
      (FixtureRuntime.fixtureMessage direction).map StoredMessage.toChannel := by
  cases direction with
  | inbound =>
      unfold Weixin.fixtureMessage FixtureRuntime.fixtureMessage
      dsimp only
      cases inboundFixture <;> rfl
  | outbound =>
      unfold Weixin.fixtureMessage FixtureRuntime.fixtureMessage
      dsimp only
      cases outboundFixture <;> rfl

/-- Both runtimes store the same messages under the same keys. -/
def SameStore (runtime : ChannelRuntime) (loopback : FixtureRuntime) : Prop :=
  ∀ key, runtime.messages.lookup? key =
    (loopback.messages.lookup? key).map StoredMessage.toChannel

/-- An answer of the loopback that is not an error. -/
def Accepts (response : Protocol.Value) : Prop :=
  response.get "ok" = some (.bool true)

variable {loopback : FixtureRuntime}

theorem SameStore.insert
    (same : SameStore runtime loopback) (key : String) (message : StoredMessage) :
    SameStore ⟨runtime.messages.insert key message.toChannel⟩
      ⟨loopback.messages.insert key message⟩ := by
  intro other
  by_cases here : other = key
  · subst here
    rw [SortedMap.lookup?_insert_self, SortedMap.lookup?_insert_self]
    rfl
  · rw [SortedMap.lookup?_insert_of_ne _ here, SortedMap.lookup?_insert_of_ne _ here]
    exact same other

/-- One answer of each runtime: both accept or both refuse, and then store the same. -/
def Agree (plugin : Except WeixinPluginError WeixinPluginResponse × ChannelRuntime)
    (loopback : Protocol.Value × FixtureRuntime) : Prop :=
  (plugin.1.isOk = true ↔ Accepts loopback.1) ∧ SameStore plugin.2 loopback.2

theorem agree_accepted {response : WeixinPluginResponse}
    {value : Protocol.Value} (accepts : Accepts value)
    (same : SameStore runtime loopback) : Agree (.ok response, runtime) (value, loopback) :=
  ⟨iff_of_true rfl accepts, same⟩

theorem agree_refused {error : WeixinPluginError}
    {members : List (String × Protocol.Value)}
    (same : SameStore runtime loopback) :
    Agree (.error error, runtime) (.object (("ok", .bool false) :: members), loopback) := by
  refine ⟨iff_of_false Bool.false_ne_true ?_, same⟩
  intro accepts
  simp [Accepts, Protocol.Value.get] at accepts

theorem accepts_object (members : List (String × Protocol.Value)) :
    Accepts (.object (("ok", .bool true) :: members)) := by
  simp [Accepts, Protocol.Value.get]

variable {runtime : ChannelRuntime} {loopback : FixtureRuntime}

theorem agree_register (same : SameStore runtime loopback) (message : StoredMessage)
    (room : runtime.messages.size < maxStoredMessages) :
    Agree ((ChannelRuntime.register message.toChannel).exec runtime)
      (loopback.register message) := by
  have stored := same message.idempotencyKey
  rw [exec_register, idempotencyKey_toChannel, FixtureRuntime.register]
  cases found : loopback.messages.lookup? message.idempotencyKey with
  | some existing =>
      rw [found] at stored
      rw [stored]
      dsimp only [Option.map_some]
      rw [sameMessage_toChannel]
      split
      · exact agree_accepted (accepts_object _) same
      · exact agree_refused same
  | none =>
      rw [found] at stored
      rw [stored]
      dsimp only [Option.map_none]
      rw [if_neg (not_le_of_gt room)]
      exact agree_accepted (accepts_object _) (same.insert _ message)

theorem agree_mutate (same : SameStore runtime loopback) (request : MessageMutationRequest)
    (operation : String) (action : StatusProgram Unit) :
    Agree ((ChannelRuntime.mutate request operation action).exec runtime)
      (loopback.mutate request.idempotencyKey (·.changed action) operation) := by
  have stored := same request.idempotencyKey.value
  rw [exec_mutate, FixtureRuntime.mutate]
  cases found : loopback.messages.lookup? request.idempotencyKey.value with
  | none =>
      rw [found] at stored
      rw [stored]
      exact agree_refused same
  | some existing =>
      rw [found] at stored
      rw [stored]
      dsimp only [Option.map_some]
      rw [mutate_toChannel]
      cases existing.changed action with
      | error error => exact agree_refused same
      | ok message => exact agree_accepted (accepts_object _) (same.insert _ message)

/-- The line of the loopback for a request of the plugin; one without a reason that its command
requires does not decode. -/
def commandFor (refusal : String) : ChannelRequest → Except String Command
  | .inbound message => .ok (.inbound message)
  | .outbound message => .ok (.outbound message)
  | .fixture direction => .ok (.fixture direction)
  | .ack request => .ok (.ack request.idempotencyKey)
  | .cancel request =>
      match request.reason with
      | some reason => .ok (.cancel request.idempotencyKey reason)
      | none => .error refusal
  | .fail request =>
      match request.reason with
      | some reason => .ok (.fail request.idempotencyKey reason)
      | none => .error refusal
  | .describe => .ok .describe

theorem agree_performRequest (same : SameStore runtime loopback) (refusal : String)
    (request : ChannelRequest) (room : runtime.messages.size < maxStoredMessages) :
    Agree ((performRequest request).exec runtime)
      (serve loopback (commandFor refusal request)) := by
  cases request with
  | inbound message => exact agree_register same (.inbound message) room
  | outbound message => exact agree_register same (.outbound message) room
  | fixture direction =>
      rw [performRequest, exec_bind]
      have built := fixtureMessage_toChannel direction
      simp only [commandFor, serve, FixtureRuntime.dispatch]
      cases loaded : FixtureRuntime.fixtureMessage direction with
      | error error =>
          rw [loaded] at built
          rw [built]
          exact agree_refused same
      | ok message =>
          rw [loaded] at built
          rw [built]
          exact agree_register same message room
  | ack request => exact agree_mutate same request "ack" DeliveryStatus.acknowledge
  | cancel request =>
      obtain ⟨key, reason⟩ := request
      rw [performRequest, exec_bind]
      cases reason with
      | none => exact agree_refused same
      | some reason => exact agree_mutate same ⟨key, some reason⟩ "cancel" (cancelDelivery reason)
  | fail request =>
      obtain ⟨key, reason⟩ := request
      rw [performRequest, exec_bind]
      cases reason with
      | none => exact agree_refused same
      | some reason => exact agree_mutate same ⟨key, some reason⟩ "fail" (DeliveryStatus.markFailed reason)
  | describe => exact agree_accepted (accepts_object _) same

end Loopback

section Runs

variable (decoder : PayloadDecoder) (refusal : InvocationRequest → String)

/-- The line of the loopback for an invocation of the plugin. -/
def lineFor (request : InvocationRequest) : Except String Loopback.Command :=
  match decodeRequest decoder request with
  | .ok decoded => Loopback.commandFor (refusal request) decoded
  | .error _ => .error (refusal request)

/-- Both runtimes, after a request to each. -/
def bothStep (both : ChannelRuntime × Loopback.FixtureRuntime) (request : InvocationRequest) :
    ChannelRuntime × Loopback.FixtureRuntime :=
  (channelStep decoder both.1 request,
    (Loopback.serve both.2 (lineFor decoder refusal request)).2)

/-- Both runtimes accept or refuse a request, and then store the same. -/
def AgreeOn (both : ChannelRuntime × Loopback.FixtureRuntime) (request : InvocationRequest) :
    Prop :=
  Loopback.Agree ((dispatch decoder request).exec both.1)
    (Loopback.serve both.2 (lineFor decoder refusal request))

/-- The message that an invocation wants to register. -/
def registeredBy (request : InvocationRequest) : Option ChannelMessage :=
  (decodeRequest decoder request).toOption.bind ChannelRequest.registered

/-- The keys that a run registers messages under. -/
def usedKeys (requests : List InvocationRequest) : List String :=
  requests.filterMap fun request =>
    (registeredBy decoder request).map ChannelMessage.idempotencyKey

theorem agreeOn {both : ChannelRuntime × Loopback.FixtureRuntime}
    (same : Loopback.SameStore both.1 both.2) (request : InvocationRequest)
    (room : both.1.messages.size < maxStoredMessages) :
    AgreeOn decoder refusal both request := by
  unfold AgreeOn lineFor
  rcases dispatch_cases decoder both.1 request with
    ⟨error, undecoded, ran⟩ | ⟨decoded, isDecoded, ran⟩
  · rw [ran, undecoded]
    exact Loopback.agree_refused same
  · rw [ran, isDecoded]
    exact Loopback.agree_performRequest same (refusal request) decoded room

theorem keys_channelStep {request : InvocationRequest}
    {used : List String} (known : ∀ key ∈ runtime.messages.keys, key ∈ used)
    (uses : ∀ message ∈ registeredBy decoder request, message.idempotencyKey ∈ used) :
    ∀ key ∈ (channelStep decoder runtime request).messages.keys, key ∈ used := by
  unfold channelStep
  rcases dispatch_cases decoder runtime request with ⟨error, -, ran⟩ | ⟨decoded, isDecoded, ran⟩
  · rw [ran]
    exact known
  · rw [ran]
    refine (handled_performRequest runtime decoded).keys known ?_
    intro message registers
    refine uses message ?_
    rw [registeredBy, isDecoded]
    exact registers

/-- While the keys of a run are fewer than the plugin stores, the runtimes agree. -/
theorem agreeOn_run {used : List String} (few : used.length < maxStoredMessages)
    {both : ChannelRuntime × Loopback.FixtureRuntime}
    (same : Loopback.SameStore both.1 both.2)
    (known : ∀ key ∈ both.1.messages.keys, key ∈ used) (requests : List InvocationRequest)
    (uses : ∀ key ∈ usedKeys decoder requests, key ∈ used) :
    EachStep (bothStep decoder refusal) (AgreeOn decoder refusal) both requests := by
  induction requests generalizing both with
  | nil => trivial
  | cons request requests ih =>
      have room := (SortedMap.size_le_of_keys_subset known).trans_lt few
      have agree := agreeOn decoder refusal same request room
      refine ⟨agree, ih agree.2 (keys_channelStep decoder known ?_) ?_⟩
      · intro message registers
        refine uses _ (List.mem_filterMap.mpr ⟨request, List.mem_cons_self, ?_⟩)
        rw [registers]
        rfl
      · intro key member
        obtain ⟨other, present, named⟩ := List.mem_filterMap.mp member
        exact uses key (List.mem_filterMap.mpr ⟨other, List.mem_cons_of_mem _ present, named⟩)

/-- The store of the channel over any requests, and the loopback beside it. -/
theorem channelStore (requests : List InvocationRequest) :
    Throughout (channelStep decoder) ChannelRuntime.Consistent .empty requests ∧
      (∀ earlier later, earlier ++ later = requests →
        Keeps (finalState (channelStep decoder) .empty earlier)
          (finalState (channelStep decoder) .empty requests)) ∧
      EachStep (channelStep decoder) (Lawful decoder) .empty requests ∧
      ((usedKeys decoder requests).dedup.length < maxStoredMessages →
        EachStep (bothStep decoder refusal) (AgreeOn decoder refusal) (.empty, .empty)
          requests) := by
  refine ⟨?_, ?_, ?_, ?_⟩
  · exact throughout_of_invariant ChannelRuntime.Consistent
      (fun _ request consistent => consistent_channelStep decoder consistent request)
      consistent_empty requests
  · rintro earlier later rfl
    rw [finalState_append]
    exact keeps_run decoder _ later
  · exact eachStep_of_forall_mem (fun request _ runtime => lawful decoder runtime request) _
  · intro few
    have nothing : ∀ key ∈ ChannelRuntime.empty.messages.keys,
        key ∈ (usedKeys decoder requests).dedup :=
      fun _ impossible => absurd impossible List.not_mem_nil
    exact agreeOn_run decoder refusal few (fun _ => rfl) nothing requests
      fun key member => List.mem_dedup.mpr member

end Runs

end Weixin
end YunXi
