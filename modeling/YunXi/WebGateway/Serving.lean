import YunXi.WebGateway.BadRequests

/-!
# Serving connections

The server accepts one connection after the other and answers one request on each.  An error
of a connection leaves the loop, as does an error of the listener.
-/

namespace YunXi
namespace WebGateway

variable {β : Type}

inductive IoErrorKind
  | wouldBlock
  | timedOut
  | connectionReset
  | connectionAborted
  | brokenPipe
  | interrupted
  | other
  deriving DecidableEq, Repr

structure IoError where
  kind : IoErrorKind
  rawOsError : Option Int
  deriving DecidableEq, Repr

/-- `is_would_block`. -/
def isWouldBlock (error : IoError) : Bool :=
  error.kind = .wouldBlock || error.rawOsError = some 10035

abbrev IoResult := Except IoError Unit

/-- What a connection does when it is served: the outcome of every operation on its socket.
Once its reads are used up, it is closed. -/
structure Peer where
  nonblocking : IoResult
  readTimeout : IoResult
  reads : List (Except IoError (List UInt8))
  write : IoResult
  flush : IoResult

inductive ReadRequestError
  | parse (error : HttpParseError)
  | io (error : IoError)

/-- The bytes after which a request that is still incomplete is given up. -/
def maxRequestBytes : Nat := maxHttpHeaderBytes + maxHttpBodyBytes + 4

/-- What the bytes so far are, unless more are needed. -/
def requestSoFar (bytes : List UInt8) : Option (Except ReadRequestError HttpRequest) :=
  match parseRequest bytes with
  | .ok request => some (.ok request)
  | .error .incomplete =>
      if bytes.length > maxRequestBytes then
        some (.error (.parse (.tooLarge "HTTP request" maxRequestBytes)))
      else none
  | .error error => some (.error (.parse error))

/-- `read_request`, after some bytes. -/
def readRequest (bytes : List UInt8) :
    List (Except IoError (List UInt8)) → Except ReadRequestError HttpRequest
  | [] => (requestSoFar bytes).getD (.error (.parse .incomplete))
  | read :: rest =>
      match requestSoFar bytes with
      | some result => result
      | none =>
          match read with
          | .error error => .error (.io error)
          | .ok chunk =>
              if chunk = [] then .error (.parse .incomplete)
              else readRequest (bytes ++ chunk) rest

/-- How serving a connection stops short. -/
inductive ServeStop
  | io (error : IoError)
  | panic (panic : Panic)

/-- Programs of the server over the state of the backend. -/
abbrev ServeProgram (β : Type) := Fallible β ServeStop

/-- An operation on a socket. -/
def socket (result : IoResult) : ServeProgram β Unit :=
  .ofExcept (result.mapError .io)

/-- A handler of the carrier as a part of serving. -/
def handled {α : Type} (program : CarrierProgram β α) : ServeProgram β α :=
  .embed .panic id (fun after _ => after) program

namespace HttpCarrier

variable (carrier : HttpCarrier β)

/-- `serve_connection`; the outcome of the shutdown at its end is ignored. -/
def serveConnection (peer : Peer) : ServeProgram β Unit := do
  socket peer.nonblocking
  socket peer.readTimeout
  let _response ← match readRequest [] peer.reads with
    | .ok request => handled (carrier.handleRequest request)
    | .error (.parse error) => pure (parseErrorResponse error)
    | .error (.io error) => throw (.io error)
  socket peer.write
  socket peer.flush

end HttpCarrier

/-- A turn of the accept loop: the shutdown token as it is read, and what accepting gives. -/
structure Turn where
  shutdown : Bool
  accept : Except IoError Peer

/-- How far a server got: it serves on, it returned, or it panicked. -/
inductive Outcome
  | serving
  | returned (result : IoResult)
  | panicked

namespace HttpCarrier

variable (carrier : HttpCarrier β)

/-- The accept loop of `serve_until` over some turns, with the turns it did not get past. -/
def acceptLoop : List Turn → β → Outcome × List Turn × β
  | [], state => (.serving, [], state)
  | turn :: rest, state =>
      if turn.shutdown then (.returned (.ok ()), turn :: rest, state)
      else
        match turn.accept with
        | .ok peer =>
            match (carrier.serveConnection peer).exec state with
            | (.ok (), after) => acceptLoop rest after
            | (.error (.io error), after) => (.returned (.error error), turn :: rest, after)
            | (.error (.panic _), after) => (.panicked, turn :: rest, after)
        | .error error =>
            if isWouldBlock error then acceptLoop rest state
            else (.returned (.error error), turn :: rest, state)

/-- `serve_until` with a listener that can be made nonblocking or not. -/
def serveUntil (listener : IoResult) (turns : List Turn) (state : β) :
    Outcome × List Turn × β :=
  match listener with
  | .ok () => carrier.acceptLoop turns state
  | .error error => (.returned (.error error), turns, state)

end HttpCarrier

/-- A server that got past all its turns serves on.  One that stopped was told to shut down in
the turn it stopped at, or its listener failed. -/
inductive StopsLawfully (listener : IoResult) : Outcome → List Turn → Prop
  | serving : StopsLawfully listener .serving []
  | shutdown (turn : Turn) (rest : List Turn) (told : turn.shutdown = true) :
      StopsLawfully listener (.returned (.ok ())) (turn :: rest)
  | unusable (error : IoError) (turns : List Turn) (failed : listener = .error error) :
      StopsLawfully listener (.returned (.error error)) turns
  | listenerFailed (error : IoError) (turn : Turn) (rest : List Turn)
      (failed : turn.accept = .error error) (fails : isWouldBlock error = false) :
      StopsLawfully listener (.returned (.error error)) (turn :: rest)

/-- No read fails while the request is incomplete. -/
def ReadsThrough (bytes : List UInt8) : List (Except IoError (List UInt8)) → Prop
  | [] => True
  | .error _ :: _ => (requestSoFar bytes).isSome = true
  | .ok chunk :: rest =>
      (requestSoFar bytes).isSome = true ∨ chunk = [] ∨ ReadsThrough (bytes ++ chunk) rest

/-- A connection whose request can be read and answered. -/
structure Serviceable (carrier : HttpCarrier β) (peer : Peer) : Prop where
  nonblocking : peer.nonblocking = .ok ()
  readTimeout : peer.readTimeout = .ok ()
  reads : ReadsThrough [] peer.reads
  fits : ∀ request, readRequest [] peer.reads = .ok request → ¬ carrier.RefusedAtLength request
  write : peer.write = .ok ()
  flush : peer.flush = .ok ()

/-- The connections that are accepted before the server is told to stop or its listener
fails. -/
def accepted : List Turn → List Peer
  | [] => []
  | turn :: rest =>
      if turn.shutdown then []
      else
        match turn.accept with
        | .ok peer => peer :: accepted rest
        | .error error => if isWouldBlock error then accepted rest else []

theorem requestSoFar_ne_io {bytes : List UInt8} (error : IoError) :
    requestSoFar bytes ≠ some (.error (.io error)) := by
  unfold requestSoFar
  intro same
  split at same
  · cases same
  · split at same <;> cases same
  · cases same

theorem readsThrough_iff (bytes : List UInt8) (reads : List (Except IoError (List UInt8))) :
    ReadsThrough bytes reads ↔ ∀ error, readRequest bytes reads ≠ .error (.io error) := by
  induction reads generalizing bytes with
  | nil =>
      refine iff_of_true trivial fun error same => ?_
      unfold readRequest at same
      cases decided : requestSoFar bytes with
      | none =>
          rw [decided] at same
          cases same
      | some result =>
          rw [decided, Option.getD_some] at same
          exact requestSoFar_ne_io error (decided.trans (congrArg some same))
  | cons read rest ih =>
      unfold readRequest
      cases decided : requestSoFar bytes with
      | some result =>
          have through : ReadsThrough bytes (read :: rest) := by
            cases read with
            | error error => exact congrArg Option.isSome decided
            | ok chunk => exact .inl (congrArg Option.isSome decided)
          refine iff_of_true through fun error same => ?_
          exact requestSoFar_ne_io error (decided.trans (congrArg some same))
      | none =>
          cases read with
          | error error =>
              refine iff_of_false (fun through => ?_) fun ok => ok error rfl
              have some_ : (requestSoFar bytes).isSome = true := through
              rw [decided] at some_
              cases some_
          | ok chunk =>
              unfold ReadsThrough
              rw [decided]
              by_cases closed : chunk = []
              · simp only [if_pos closed]
                exact iff_of_true (.inr (.inl closed)) fun error same => nomatch same
              · simp only [if_neg closed]
                rw [← ih]
                constructor
                · rintro (impossible | impossible | through)
                  · cases impossible
                  · exact absurd impossible closed
                  · exact through
                · exact fun through => .inr (.inr through)

theorem exec_socket (result : IoResult) {next : Unit → ServeProgram β Unit} (state : β) :
    (socket result >>= next).exec state =
      match result with
      | .ok () => (next ()).exec state
      | .error error => (.error (.io error), state) := by
  unfold socket
  rw [Fallible.exec_bind, Fallible.exec_ofExcept]
  cases result <;> rfl

/-- The end of a connection: what was found for the request is written out. -/
theorem exec_writeOut (peer : Peer) (state : β) :
    (do socket peer.write; socket peer.flush : ServeProgram β Unit).exec state =
      match peer.write, peer.flush with
      | .ok (), .ok () => (.ok (), state)
      | .ok (), .error error => (.error (.io error), state)
      | .error error, _ => (.error (.io error), state) := by
  rw [exec_socket]
  cases peer.write with
  | error error => rfl
  | ok _ => cases written : peer.flush <;> simp only [socket] <;> rfl

theorem writeOut_eq_ok_iff (peer : Peer) (state : β) :
    ((do socket peer.write; socket peer.flush : ServeProgram β Unit).exec state).1 = .ok () ↔
      peer.write = .ok () ∧ peer.flush = .ok () := by
  rw [exec_writeOut]
  cases peer.write with
  | error error => exact ⟨fun failed => (nomatch failed), fun ⟨failed, _⟩ => (nomatch failed)⟩
  | ok _ =>
      cases peer.flush with
      | error error => exact ⟨fun failed => (nomatch failed), fun ⟨_, failed⟩ => (nomatch failed)⟩
      | ok _ => exact ⟨fun _ => ⟨rfl, rfl⟩, fun _ => rfl⟩

namespace HttpCarrier

variable {carrier : HttpCarrier β}

/-- A connection is served to its end exactly when it is serviceable, whatever the state of
the backend. -/
theorem serveConnection_eq_ok_iff
    (indexed : (carrier.embeddedWebAsset "/index.html").isSome = true) (peer : Peer)
    (state : β) :
    ((carrier.serveConnection peer).exec state).1 = .ok () ↔ Serviceable carrier peer := by
  unfold serveConnection
  rw [exec_socket]
  cases nonblocking : peer.nonblocking with
  | error error =>
      refine iff_of_false (fun served => nomatch served) fun serviceable => ?_
      rw [serviceable.nonblocking] at nonblocking
      cases nonblocking
  | ok _ =>
  simp only
  rw [exec_socket]
  cases readTimeout : peer.readTimeout with
  | error error =>
      refine iff_of_false (fun served => nomatch served) fun serviceable => ?_
      rw [serviceable.readTimeout] at readTimeout
      cases readTimeout
  | ok _ =>
  simp only
  cases read : readRequest [] peer.reads with
  | error failure =>
      cases failure with
      | io error =>
          refine iff_of_false (fun served => nomatch served) fun serviceable => ?_
          exact (readsThrough_iff [] peer.reads).mp serviceable.reads error read
      | parse error =>
          have through : ReadsThrough [] peer.reads := by
            refine (readsThrough_iff [] peer.reads).mpr fun other same => ?_
            rw [read] at same
            cases same
          refine (writeOut_eq_ok_iff peer state).trans ⟨fun written => ?_, fun serviceable => ?_⟩
          · refine ⟨nonblocking, readTimeout, through, fun request same => ?_, written.1,
              written.2⟩
            rw [read] at same
            cases same
          · exact ⟨serviceable.write, serviceable.flush⟩
  | ok request =>
      have through : ReadsThrough [] peer.reads := by
        refine (readsThrough_iff [] peer.reads).mpr fun other same => ?_
        rw [read] at same
        cases same
      have returns := carrier.returns_handleRequest_iff indexed request state
      unfold Returns at returns
      have handledExec : (handled (carrier.handleRequest request)).exec state =
          (((carrier.handleRequest request).exec state).1.mapError .panic,
            ((carrier.handleRequest request).exec state).2) := rfl
      simp only
      rw [Fallible.exec_bind, handledExec]
      rcases ran : (carrier.handleRequest request).exec state with ⟨result, after⟩
      rw [ran] at returns
      cases result with
      | error panic =>
          refine iff_of_false (fun served => nomatch served) fun serviceable => ?_
          obtain ⟨_, impossible⟩ := returns.mpr (serviceable.fits request read)
          cases impossible
      | ok response =>
          refine (writeOut_eq_ok_iff peer after).trans ⟨fun written => ?_, fun serviceable => ?_⟩
          · refine ⟨nonblocking, readTimeout, through, fun other same => ?_, written.1, written.2⟩
            rw [read] at same
            cases same
            exact returns.mp ⟨response, rfl⟩
          · exact ⟨serviceable.write, serviceable.flush⟩

/-- Over the turns of a server: it stops lawfully exactly when every connection it accepts is
serviceable. -/
theorem acceptLoop_iff (indexed : (carrier.embeddedWebAsset "/index.html").isSome = true)
    (turns : List Turn) (state : β) :
    StopsLawfully (.ok ()) (carrier.acceptLoop turns state).1
        (carrier.acceptLoop turns state).2.1 ↔
      ∀ peer ∈ accepted turns, Serviceable carrier peer := by
  induction turns generalizing state with
  | nil => exact iff_of_true .serving fun peer member => nomatch member
  | cons turn rest ih =>
      obtain ⟨shutdown, accept⟩ := turn
      unfold acceptLoop accepted
      cases shutdown with
      | true => exact iff_of_true (.shutdown _ _ rfl) fun peer member => nomatch member
      | false =>
      simp only [Bool.false_eq_true, if_false]
      cases accept with
      | error error =>
          simp only
          cases blocks : isWouldBlock error with
          | true => exact ih state
          | false =>
              exact iff_of_true (.listenerFailed error _ _ rfl blocks)
                fun peer member => nomatch member
      | ok peer =>
          have served := serveConnection_eq_ok_iff indexed peer state
          simp only
          rw [List.forall_mem_cons]
          rcases ran : (carrier.serveConnection peer).exec state with ⟨result, after⟩
          rw [ran] at served
          cases result with
          | ok _ =>
              simp only
              rw [ih after]
              exact ⟨fun rest => ⟨served.mp rfl, rest⟩, fun both => both.2⟩
          | error stop =>
              have unserviceable : ¬ Serviceable carrier peer := fun serviceable =>
                nomatch served.mpr serviceable
              refine iff_of_false (fun lawful => ?_) fun both => unserviceable both.1
              cases stop with
              | io error =>
                  cases lawful with
                  | unusable _ _ failed => cases failed
                  | listenerFailed _ _ _ failed => cases failed
              | panic panic => cases lawful

/-- Every server serves on over all its turns, or stops where it is told to or where its
listener fails, exactly when the requests of the connections it accepts can be read and
answered. -/
theorem serveUntil_iff (indexed : (carrier.embeddedWebAsset "/index.html").isSome = true)
    (listener : IoResult) (turns : List Turn) (state : β) :
    StopsLawfully listener (carrier.serveUntil listener turns state).1
        (carrier.serveUntil listener turns state).2.1 ↔
      (listener = .ok () → ∀ peer ∈ accepted turns, Serviceable carrier peer) := by
  unfold serveUntil
  cases listener with
  | error error =>
      exact iff_of_true (.unusable error turns rfl) fun works => nomatch works
  | ok _ =>
      simp only
      rw [acceptLoop_iff indexed turns state]
      exact ⟨fun all _ => all, fun all => all trivial⟩

end HttpCarrier

/-- A client that sends nothing until reading times out. -/
def silentPeer : Peer where
  nonblocking := .ok ()
  readTimeout := .ok ()
  reads := [.error ⟨.wouldBlock, some 11⟩]
  write := .ok ()
  flush := .ok ()

/-- A client that closes its connection at once. -/
def closingPeer : Peer := { silentPeer with reads := [] }

def plainCarrier : HttpCarrier Unit := quotingCarrier (.object [])

/-- The server stops at a silent client, and does not get to the next connection. -/
theorem serveUntil_silent :
    ¬ StopsLawfully (.ok ())
      (plainCarrier.serveUntil (.ok ()) [⟨false, .ok silentPeer⟩, ⟨false, .ok closingPeer⟩] ()).1
      (plainCarrier.serveUntil (.ok ()) [⟨false, .ok silentPeer⟩, ⟨false, .ok closingPeer⟩]
        ()).2.1 := by
  change ¬ StopsLawfully (.ok ()) (.returned (.error ⟨.wouldBlock, some 11⟩))
    [⟨false, .ok silentPeer⟩, ⟨false, .ok closingPeer⟩]
  intro lawful
  cases lawful with
  | unusable _ _ failed => cases failed
  | listenerFailed _ _ _ failed => cases failed

/-- A client that closes early is answered, and the server goes on to the shutdown. -/
theorem serveUntil_closing :
    StopsLawfully (.ok ())
      (plainCarrier.serveUntil (.ok ()) [⟨false, .ok closingPeer⟩, ⟨true, .ok silentPeer⟩] ()).1
      (plainCarrier.serveUntil (.ok ()) [⟨false, .ok closingPeer⟩, ⟨true, .ok silentPeer⟩]
        ()).2.1 := by
  refine (HttpCarrier.serveUntil_iff (show (plainCarrier.embeddedWebAsset _).isSome = true by rfl)
    (.ok ()) _ ()).mpr fun _ peer member => ?_
  rw [List.mem_singleton.mp member]
  exact ⟨rfl, rfl, trivial, fun request same => (nomatch same), rfl, rfl⟩

end WebGateway
end YunXi
