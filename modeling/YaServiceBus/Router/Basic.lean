import YaServiceBus.Router.Slot
import YaServiceBus.Router.Bag
import YaServiceBus.Connection.Basic

/-! The `Router` of `local_router.rs`: its slots in a `PrefixLookupBag`, the `bind*` family and
`unbind`, and the forwarding entry points. An entry point calls the slot the lookup finds, or
else the `RemoteRouter`, which is not in the repository and is a parameter here: its answer to
an `RpcRawCall`, and what the reply channel of an `RpcRawStreamCall` receives. -/
namespace YaServiceBus

variable {τ : Type} [DecidableEq τ] {M : τ → MessageType}

/-- `Router`. -/
structure Router (M : τ → MessageType) where
  handlers : PrefixLookupBag (Slot M)

/-- `UpdateService`: what the router tells the `RemoteRouter` about its keys. -/
inductive UpdateService
  | add (addr : String)
  | remove (addr : String)
  deriving DecidableEq, Repr

/-- The `RemoteRouter`'s answer to an `RpcRawCall`. -/
abbrev RemoteCall := RpcRawCall → Except MailboxError (Except Error Bytes)

/-- The `RemoteRouter` sent an `RpcRawStreamCall`: what its reply channel receives, and
whether `send` reached it. -/
abbrev RemoteStreamCall :=
  String → String → Bytes → List (Except Error ResponseChunk) × Except MailboxError Unit

/-- The key of a typed binding, `format!("{}/{}", addr, T::ID)`. -/
def typedKey (addr : String) (T : MessageType) : String := addr ++ "/" ++ T.ID

/-- Modelled from the spec: `RpcRawCall::from_envelope_addr`, the request serialized for the
raw paths. The spec does not say what a failed serialization does; here it fails the call. -/
def fromEnvelopeAddr (T : MessageType) (caller : String) (body : T.Msg) (addr : String)
    (noReply : Bool) : Except Error RpcRawCall :=
  (T.msgCodec.toVec body).map fun b => ⟨caller, addr, b, noReply⟩

/-- What `forward` makes of the bytes a serializing path returns: an empty reply is refused,
any other deserialized. -/
def replyOfBytes {α : Type} (c : Codec α) : Except Error Bytes → Except Error α
  | .ok b => if b.isEmpty then .error (.gsbFailure "empty response from remote service")
    else c.fromSlice b
  | .error e => .error e

namespace Router

/-- `Router::new`. -/
def new : Router M := ⟨PrefixLookupBag.empty⟩

/-- What every `bind*` does: insert the slot under its key, and announce the key. -/
def bindSlot (key : String) (slot : Slot M) (r : Router M) : Router M × UpdateService :=
  (⟨r.handlers.insert key slot⟩, .add key)

def bind (addr : String) (t : τ) (endpoint : EnvelopeRecipient (M t)) :=
  bindSlot (typedKey addr (M t)) ⟨.envelope t endpoint⟩

def bindStream (addr : String) (t : τ) (endpoint : StreamCallRecipient (M t)) :=
  bindSlot (typedKey addr (M t)) ⟨.streamCall t endpoint⟩

def bindStreamActor (addr : String) (t : τ) (endpoint : StreamCallRecipient (M t)) :=
  bindSlot (typedKey addr (M t)) ⟨.streamCall t endpoint⟩

def bindActor (addr : String) (t : τ) (endpoint : EnvelopeRecipient (M t)) :=
  bindSlot (typedKey addr (M t)) ⟨.envelope t endpoint⟩

def bindRaw (addr : String) (endpoint : RawCallRecipient) :=
  bindSlot addr (⟨.raw endpoint⟩ : Slot M)

def bindRawDual (addr : String) (rpc : RawCallRecipient) (stream : RawStreamRecipient) :=
  bindSlot addr (⟨.dual rpc stream⟩ : Slot M)

/-- The keys `unbind` removes: those under `addr/`. -/
def unbindPattern (addr : String) : String :=
  if addr.data.getLast? = some '/' then addr else addr ++ "/"

/-- `Router::unbind`: remove every key under the pattern, and give the keys removed, whose
removal the returned future announces. -/
def unbind (addr : String) (r : Router M) : Router M × List String :=
  let addrs := r.handlers.keys.filter fun a => (unbindPattern addr).data.isPrefixOf a.data
  (⟨addrs.foldl PrefixLookupBag.remove r.handlers⟩, addrs)

/-- The future `unbind` returns: announce each removal in turn, then whether any key went. -/
def unbindResult (send : String → Except MailboxError Unit) (addrs : List String) :
    Except Error Bool :=
  (addrs.mapM fun a => (send a).mapError (.fromAddr a)).map fun _ => !addrs.isEmpty

/-- `Router::forward`. -/
def forward (r : Router M) (remote : RemoteCall) (addr : String) (t : τ) (caller : String)
    (msg : (M t).Msg) : Except Error (M t).Reply :=
  let addr := typedKey addr (M t)
  match r.handlers.getMut addr with
  | some slot =>
    match slot.recipient t with
    | some h => (h caller msg).mapError (.fromAddr addr)
    | none => fromEnvelopeAddr (M t) caller msg addr false >>= fun raw =>
      replyOfBytes (M t).replyCodec (slot.send raw)
  | none => fromEnvelopeAddr (M t) caller msg addr false >>= fun raw =>
    replyOfBytes (M t).replyCodec (match remote raw with
      | .ok v => v
      | .error e => .error (.fromAddr addr e))

/-- `Router::push`. -/
def push (r : Router M) (remote : RemoteCall) (addr : String) (t : τ) (caller : String)
    (msg : (M t).Msg) : Except Error Unit :=
  let addr := typedKey addr (M t)
  match r.handlers.getMut addr with
  | some slot =>
    match slot.recipient t with
    | some h =>
      match h caller msg with
      | .ok _ => .ok ()
      | .error e => .error (.fromAddr addr e)
    | none => fromEnvelopeAddr (M t) caller msg addr true >>= fun raw =>
      (slot.send raw).map fun _ => ()
  | none => fromEnvelopeAddr (M t) caller msg addr true >>= fun raw =>
    match remote raw with
    | .ok _ => .ok ()
    | .error e => .error (.fromAddr addr e)

/-- `Router::streaming_forward`, with the caller `"local"`. -/
def streamingForward (r : Router M) (remote : RemoteStreamCall) (addr : String) (t : τ)
    (msg : (M t).Msg) : Except Panic (List (Except Error (M t).Reply)) :=
  let caller := "local"
  let addr := typedKey addr (M t)
  match r.handlers.getMut addr with
  | some slot => slot.streamingForward t caller addr msg
  | none => (unwrap ((M t).msgCodec.toVec msg)).map fun body =>
    decodeChunks (M t).replyCodec (remote caller addr body).1

/-- `Router::forward_bytes`. -/
def forwardBytes (r : Router M) (remote : RemoteCall) (addr caller : String) (msg : Bytes)
    (noReply : Bool) : Except Error Bytes :=
  match r.handlers.getMut addr with
  | some slot => slot.send ⟨caller, addr, msg, noReply⟩
  | none =>
    match remote ⟨caller, addr, msg, noReply⟩ with
    | .ok v => v
    | .error e => .error (.fromAddr addr e)

/-- `Router::streaming_forward_bytes`. -/
def streamingForwardBytes (r : Router M) (remote : RemoteStreamCall) (addr caller : String)
    (msg : Bytes) : Except Panic (List (Except Error ResponseChunk)) :=
  match r.handlers.getMut addr with
  | some slot => slot.sendStreaming ⟨caller, addr, msg, false⟩
  | none =>
    .ok (match (remote caller addr msg).2 with
      | .ok _ => (remote caller addr msg).1
      | .error e => [.error (.mailbox e)])

/-- `Router::forward_bytes_local`: no remote fallback. -/
def forwardBytesLocal (r : Router M) (addr caller : String) (msg : Bytes) (noReply : Bool) :
    Except Panic (List (Except Error ResponseChunk)) :=
  match r.handlers.getMut addr with
  | some slot =>
    if noReply then .ok [(slot.send ⟨caller, addr, msg, noReply⟩).map .full]
    else slot.sendStreaming ⟨caller, addr, msg, noReply⟩
  | none => .ok [.error (.noEndpoint addr)]

end Router

/-- `LocalRouterHandler::do_call`: the router's `forward_bytes_local`, run under its mutex. -/
def localRouterHandler (r : Router M) : CallRequestHandler :=
  ⟨fun _ caller address data noReply => r.forwardBytesLocal address caller data noReply⟩

end YaServiceBus
