import YaServiceBus.Proto

/-! The connection actor of `connection.rs`: its state, the messages it handles and what
handling one of them does. Each message to the actor is one `Event`; the futures the actor
spawns for inbound calls are tasks in the state, and their progress is an event of its own.
`SinkWrite::write` gives a frame back only once the writer is closing, and the connection never
closes its writer, so every write is queued; a frame the transport then fails to send reaches
`io::WriteHandler::error`, which stops the actor. -/
namespace YaServiceBus

/-- `gen_id`: a random `u64` masked to its low 53 bits. -/
def genId (draw : UInt64) : UInt64 := draw &&& 0x001fffffffffffff

/-- The request id `format!("{}", gen_id())` for a given random draw. -/
def requestIdOf (draw : UInt64) : String := toString (genId draw)

/-- `ClientInfo`, with the semantic version as its printed form. -/
structure ClientInfo where
  name : String
  version : Option String
  instanceId : Bytes

/-- `CallRequestHandler`: the items of the reply stream `do_call` returns, or the panic
raised while building it. -/
structure CallRequestHandler where
  doCall : (requestId caller address : String) → Bytes → Bool →
    Except Panic (List (Except Error ResponseChunk))

/-- A oneshot reply waiter pushed by `send_cmd_async`, named by the command it answers. -/
abbrev Waiter := Nat

/-- A reply sink (`mpsc::Sender`) registered in `call_reply`, named by its channel. -/
abbrev Sink := Nat

/-- The five commands answered through a reply queue. -/
inductive CmdKind
  | register
  | unregister
  | subscribe
  | unsubscribe
  | broadcast
  deriving DecidableEq, Repr

/-- The future `handle_call_request` spawns: what is left of the handler's reply stream and
the fold's accumulator, whether the last reply written was final. -/
structure CallTask where
  requestId : String
  rest : List (Except Error ResponseChunk)
  gotEos : Bool

/-- `Connection`, with the actor context's spawned call futures and its stopped flag. -/
structure Connection where
  registerReply : List Waiter
  unregisterReply : List Waiter
  subscribeReply : List Waiter
  unsubscribeReply : List Waiter
  callReply : String → Option Sink
  broadcastReply : List Waiter
  handler : CallRequestHandler
  clientInfo : ClientInfo
  serverInfo : Option Hello
  tasks : List CallTask
  stopped : Bool

/-- What handling a message does outside the actor's state. -/
inductive Effect
  | write (m : GsbMessage)
  | deliver (k : Sink) (item : Except Error ResponseChunk)
  | resolve (kind : CmdKind) (w : Waiter) (r : Except Error Unit)
  | event (caller topic : String) (data : Bytes)
  | panic (p : Panic)
  | disconnect
  deriving DecidableEq, Repr

/-- The messages the actor handles: a frame from the transport, its own calls and commands,
a step of one of its call futures, and the error of a frame the transport failed to send. -/
inductive Event
  | inbound (item : Except ProtocolError GsbMessage)
  | rawCall (draw : UInt64) (msg : RpcRawCall) (sink : Sink)
  | rawStreamCall (draw : UInt64) (caller addr : String) (body : Bytes) (reply : Sink)
  | bind (addr : String) (w : Waiter)
  | unbind (addr : String) (w : Waiter)
  | subscribe (topic : String) (w : Waiter)
  | unsubscribe (topic : String) (w : Waiter)
  | bcastCall (caller topic : String) (body : Bytes) (w : Waiter)
  | callTask (i : Nat)
  | writeError (err : ProtocolError)

/-- The replies the `handle_*_reply` closures give a waiter for each code. -/
def registerResult (msg : String) : RegisterReplyCode → Except Error Unit
  | .registeredOk => .ok ()
  | .registerBadRequest => .error (.gsbBadRequest msg)
  | .registerConflict => .error (.gsbAlreadyRegistered msg)

def unregisterResult : UnregisterReplyCode → Except Error Unit
  | .unregisteredOk => .ok ()
  | .notRegistered => .error (.gsbBadRequest "unregister")

def subscribeResult (msg : String) : SubscribeReplyCode → Except Error Unit
  | .subscribedOk => .ok ()
  | .subscribeBadRequest => .error (.gsbBadRequest msg)

def unsubscribeResult : UnsubscribeReplyCode → Except Error Unit
  | .unsubscribedOk => .ok ()
  | .notSubscribed => .error (.gsbBadRequest "unsubscribed")

def broadcastResult (msg : String) : BroadcastReplyCode → Except Error Unit
  | .broadcastOk => .ok ()
  | .broadcastBadRequest => .error (.gsbBadRequest msg)

namespace Connection

/-- `Connection::new`. -/
def new (clientInfo : ClientInfo) (handler : CallRequestHandler) : Connection :=
  ⟨[], [], [], [], fun _ => none, [], handler, clientInfo, none, [], false⟩

/-- `Actor::started`: the `Hello` frame. -/
def started (c : Connection) : List Effect :=
  [.write (.hello ⟨c.clientInfo.name, c.clientInfo.version.getD "", c.clientInfo.instanceId⟩)]

/-- `ctx.stop()`; `Actor::stopped` calls the handler's `on_disconnect`. -/
def stop (c : Connection) : Connection × List Effect := ({ c with stopped := true }, [.disconnect])

def queue (c : Connection) : CmdKind → List Waiter
  | .register => c.registerReply
  | .unregister => c.unregisterReply
  | .subscribe => c.subscribeReply
  | .unsubscribe => c.unsubscribeReply
  | .broadcast => c.broadcastReply

def setQueue (c : Connection) : CmdKind → List Waiter → Connection
  | .register, q => { c with registerReply := q }
  | .unregister, q => { c with unregisterReply := q }
  | .subscribe, q => { c with subscribeReply := q }
  | .unsubscribe, q => { c with unsubscribeReply := q }
  | .broadcast, q => { c with broadcastReply := q }

@[simp] theorem queue_setQueue (c : Connection) (k j : CmdKind) (q : List Waiter) :
    (c.setQueue k q).queue j = if j = k then q else c.queue j := by
  cases k <;> cases j <;> rfl

@[simp] theorem setQueue_callReply (c : Connection) (k : CmdKind) (q : List Waiter) :
    (c.setQueue k q).callReply = c.callReply := by cases k <;> rfl

@[simp] theorem setQueue_stopped (c : Connection) (k : CmdKind) (q : List Waiter) :
    (c.setQueue k q).stopped = c.stopped := by cases k <;> rfl

@[simp] theorem setQueue_tasks (c : Connection) (k : CmdKind) (q : List Waiter) :
    (c.setQueue k q).tasks = c.tasks := by cases k <;> rfl

/-- `handle_reply`: the oldest waiter of the queue gets `replyMsg`; with none waiting, the
reply is unmatched and the connection stops. -/
def handleReply (k : CmdKind) (replyMsg : Except Error Unit) (c : Connection) :
    Connection × List Effect :=
  match c.queue k with
  | r :: rest => (c.setQueue k rest, [.resolve k r replyMsg])
  | [] => c.stop

def handleUnregisterReply (code : UnregisterReplyCode) (c : Connection) :=
  c.handleReply .unregister (unregisterResult code)

def handleBroadcastReply (code : BroadcastReplyCode) (msg : String) (c : Connection) :=
  c.handleReply .broadcast (broadcastResult msg code)

def handleRegisterReply (code : RegisterReplyCode) (msg : String) (c : Connection) :=
  c.handleReply .register (registerResult msg code)

def handleSubscribeReply (code : SubscribeReplyCode) (msg : String) (c : Connection) :=
  c.handleReply .subscribe (subscribeResult msg code)

def handleUnsubscribeReply (code : UnsubscribeReplyCode) (c : Connection) :=
  c.handleReply .unsubscribe (unsubscribeResult code)

end Connection

def registerReplyCode (code : Int) : Option RegisterReplyCode :=
  if code = 0 then some .registeredOk
  else if code = 400 then some .registerBadRequest
  else if code = 409 then some .registerConflict
  else none

def unregisterReplyCode (code : Int) : Option UnregisterReplyCode :=
  if code = 0 then some .unregisteredOk else if code = 404 then some .notRegistered else none

def subscribeReplyCode (code : Int) : Option SubscribeReplyCode :=
  if code = 0 then some .subscribedOk else if code = 400 then some .subscribeBadRequest else none

def unsubscribeReplyCode (code : Int) : Option UnsubscribeReplyCode :=
  if code = 0 then some .unsubscribedOk else if code = 404 then some .notSubscribed else none

def broadcastReplyCode (code : Int) : Option BroadcastReplyCode :=
  if code = 0 then some .broadcastOk else if code = 400 then some .broadcastBadRequest else none

/-- The chunk `handle_reply` builds from a reply frame: `Part` for a partial reply type,
`Full` for any other. -/
def chunkOf (replyType : Int) (data : Bytes) : ResponseChunk :=
  if replyType = CallReplyType.partialReply.toInt then .part data else .full data

/-- The item `handle_reply` sends to a call's sink; `none` where one of its `?` fails (a
code outside `CallReplyCode`, or an error text that is not UTF-8). -/
def callReplyItem (u : Utf8) (code : Int) (chunk : ResponseChunk) :
    Option (Except Error ResponseChunk) :=
  match CallReplyCode.tryFrom code with
  | some .callReplyOk => some (.ok chunk)
  | some .callReplyBadRequest => (u.fromUtf8 chunk.intoBytes).map (.error ∘ .gsbBadRequest)
  | some .serviceFailure => (u.fromUtf8 chunk.intoBytes).map (.error ∘ .gsbFailure)
  | none => none

/-- The reply frame the fold of `handle_call_request` writes for one item of the handler's
stream, with whether it ends the call. -/
def callReplyOf (u : Utf8) (display : Error → String) (requestId : String) :
    Except Error ResponseChunk → Bool × CallReply
  | .ok data => (data.replyType.toInt == 0,
      ⟨requestId, CallReplyCode.callReplyOk.toInt, data.replyType.toInt, data.intoVec⟩)
  | .error e => (true, ⟨requestId, CallReplyCode.serviceFailure.toInt, 0, u.intoBytes (display e)⟩)

/-- The empty `Full` reply that ends a stream whose last reply was partial. -/
def eosReply (requestId : String) : CallReply := ⟨requestId, 0, 0, []⟩

/-- The reply the caller of an `RpcRawCall` gets from the first item of its channel. -/
def fetchResponse : List (Except Error ResponseChunk) → Except Error Bytes
  | .ok (.full data) :: _ => .ok data
  | .error e :: _ => .error e
  | .ok (.part _) :: _ => .error (.gsbFailure "streaming response")
  | [] => .error (.gsbFailure "unexpected EOS")

namespace Connection

variable (u : Utf8) (display : Error → String)

/-- A panic in the handler unwinds the actor, which stops: `Actor::stopped` calls the
handler's `on_disconnect`. -/
def panicked (c : Connection) (p : Panic) : Connection × List Effect :=
  ({ c with stopped := true }, [.panic p, .disconnect])

/-- `handle_call_request`: spawn the fold over the handler's reply stream. -/
def handleCallRequest (r : CallRequest) (c : Connection) : Connection × List Effect :=
  match c.handler.doCall r.requestId r.caller r.address r.data false with
  | .ok s => ({ c with tasks := c.tasks ++ [⟨r.requestId, s, false⟩] }, [])
  | .error p => c.panicked p

/-- `handle_push_request`: the handler's outputs are discarded. -/
def handlePushRequest (r : CallRequest) (c : Connection) : Connection × List Effect :=
  match c.handler.doCall r.requestId r.caller r.address r.data true with
  | .ok _ => (c, [])
  | .error p => c.panicked p

/-- `Connection::handle_reply`: send the translated frame to the call's sink and forget the
call after a non-partial frame; `none` is the `Err` that stops the connection. -/
def handleCallReply (requestId : String) (code replyType : Int) (data : Bytes)
    (c : Connection) : Option (Connection × List Effect) :=
  let chunk := chunkOf replyType data
  let c' := if chunk.isFull then { c with callReply := Function.update c.callReply requestId none }
    else c
  match c.callReply requestId with
  | some k => (callReplyItem u code chunk).map fun item => (c', [.deliver k item])
  | none => some (c', [])

/-- `StreamHandler::handle`, one inbound frame. -/
def handleFrame (item : Except ProtocolError GsbMessage) (c : Connection) :
    Connection × List Effect :=
  match item with
  | .error _ => c.stop
  | .ok (.registerReply code msg) =>
    match registerReplyCode code with
    | some code => c.handleRegisterReply code msg
    | none => c.stop
  | .ok (.unregisterReply code) =>
    match unregisterReplyCode code with
    | some code => c.handleUnregisterReply code
    | none => c.stop
  | .ok (.subscribeReply code msg) =>
    match subscribeReplyCode code with
    | some code => c.handleSubscribeReply code msg
    | none => c.stop
  | .ok (.unsubscribeReply code) =>
    match unsubscribeReplyCode code with
    | some code => c.handleUnsubscribeReply code
    | none => c.stop
  | .ok (.broadcastReply code msg) =>
    match broadcastReplyCode code with
    | some code => c.handleBroadcastReply code msg
    | none => c.stop
  | .ok (.callRequest r) => if r.noReply then c.handlePushRequest r else c.handleCallRequest r
  | .ok (.callReply r) =>
    match c.handleCallReply u r.requestId r.code r.replyType r.data with
    | some res => res
    | none => c.stop
  | .ok (.broadcastRequest caller topic data) => (c, [.event caller topic data])
  | .ok .ping => (c, [.write .pong])
  | .ok (.hello h) => if c.serverInfo.isSome then c.stop else ({ c with serverInfo := some h }, [])
  | .ok _ => c.stop

/-- `Handler<RpcRawCall>`: register a reply channel unless `no_reply`, then write the call. -/
def handleRawCall (draw : UInt64) (msg : RpcRawCall) (k : Sink) (c : Connection) :
    Connection × List Effect :=
  let requestId := requestIdOf draw
  (if msg.noReply then c else { c with callReply := Function.update c.callReply requestId (some k) },
    [.write (.callRequest ⟨requestId, msg.caller, msg.addr, msg.body, msg.noReply⟩)])

/-- `Handler<RpcRawStreamCall>`: register the caller's sink, then write the call. -/
def handleRawStreamCall (draw : UInt64) (caller addr : String) (body : Bytes) (k : Sink)
    (c : Connection) : Connection × List Effect :=
  let requestId := requestIdOf draw
  ({ c with callReply := Function.update c.callReply requestId (some k) },
    [.write (.callRequest ⟨requestId, caller, addr, body, false⟩)])

/-- `send_cmd_async`: queue the waiter, then write the command. -/
def sendCmdAsync (k : CmdKind) (msg : GsbMessage) (w : Waiter) (c : Connection) :
    Connection × List Effect :=
  (c.setQueue k (c.queue k ++ [w]), [.write msg])

def handleBind (addr : String) := sendCmdAsync .register (.registerRequest addr)

def handleUnbind (addr : String) := sendCmdAsync .unregister (.unregisterRequest addr)

def handleSubscribe (topic : String) := sendCmdAsync .subscribe (.subscribeRequest topic)

def handleUnsubscribe (topic : String) := sendCmdAsync .unsubscribe (.unsubscribeRequest topic)

def handleBcastCall (caller topic : String) (body : Bytes) :=
  sendCmdAsync .broadcast (.broadcastRequest caller topic body)

/-- One step of the `i`-th spawned call future: the reply for the next item of the stream,
or, when the stream is done, the empty terminating reply unless the last one was final. -/
def stepTask (i : Nat) (c : Connection) : Connection × List Effect :=
  match c.tasks[i]? with
  | none => (c, [])
  | some t =>
    match t.rest with
    | x :: xs =>
      ({ c with tasks := c.tasks.set i { t with rest := xs, gotEos := (callReplyOf u display
          t.requestId x).1 } },
        [.write (.callReply (callReplyOf u display t.requestId x).2)])
    | [] =>
      ({ c with tasks := c.tasks.eraseIdx i },
        if t.gotEos then [] else [.write (.callReply (eosReply t.requestId))])

/-- The actor handling one event; a stopped actor handles nothing. For a frame the transport
failed to send, `io::WriteHandler::error` returns `Running::Stop` and the actor stops. -/
def handle (c : Connection) (e : Event) : Connection × List Effect :=
  if c.stopped then (c, []) else
  match e with
  | .inbound item => c.handleFrame u item
  | .rawCall draw msg k => c.handleRawCall draw msg k
  | .rawStreamCall draw caller addr body k => c.handleRawStreamCall draw caller addr body k
  | .bind addr w => handleBind addr w c
  | .unbind addr w => handleUnbind addr w c
  | .subscribe topic w => handleSubscribe topic w c
  | .unsubscribe topic w => handleUnsubscribe topic w c
  | .bcastCall caller topic body w => handleBcastCall caller topic body w c
  | .callTask i => c.stepTask u display i
  | .writeError _ => c.stop

/-- A run: the events in order, with everything they did outside the actor. -/
def run (c : Connection) : List Event → Connection × List Effect
  | [] => (c, [])
  | e :: es =>
    let r := c.handle u display e
    let r' := run r.1 es
    (r'.1, r.2 ++ r'.2)

@[simp] theorem run_nil (c : Connection) : c.run u display [] = (c, []) := rfl

@[simp] theorem run_cons (c : Connection) (e : Event) (es : List Event) :
    c.run u display (e :: es) =
      (((c.handle u display e).1.run u display es).1,
        (c.handle u display e).2 ++ ((c.handle u display e).1.run u display es).2) := rfl

end Connection

end YaServiceBus
