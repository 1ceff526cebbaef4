import YaServiceBus.Router.Basic

/-! The legacy router of `bus/src/local_router.rs`: unary and raw slots only, on futures 0.1.
Its `RpcRawCall` has no `no_reply`, and its unary adapter decodes the request with `unwrap`. -/
namespace YaServiceBus

namespace Legacy

/-- The legacy `RpcRawCall`. -/
structure RpcRawCall where
  caller : String
  addr : String
  body : Bytes

/-- The legacy crate's `Error`, whose definition is not in the repository, with the kinds this
router builds: `Error::NoEndpoint`, `Error::from(MailboxError)`, and a codec error. -/
inductive Error
  | noEndpoint
  | mailbox (e : MailboxError)
  | codec (e : YaServiceBus.Error)

/-- A legacy `Recipient<RpcRawCall>`. -/
abbrev RawCallRecipient := RpcRawCall → Except MailboxError (Except Error Bytes)

variable {τ : Type} [DecidableEq τ] {M : τ → MessageType}

/-- What a legacy `Slot` holds. -/
inductive Endpoint (M : τ → MessageType)
  | envelope (t : τ) (r : EnvelopeRecipient (M t))
  | raw (r : RawCallRecipient)

namespace Endpoint

/-- `RawEndpoint::send` for `Recipient<RpcEnvelope<T>>`: the request is decoded with
`unwrap`. -/
def envelopeSend {T : MessageType} (r : EnvelopeRecipient T) (msg : RpcRawCall) :
    Except Panic (Except Error Bytes) :=
  (unwrap (T.msgCodec.fromSlice msg.body)).map fun body =>
    match r msg.caller body with
    | .error e => .error (.mailbox e)
    | .ok reply => (T.replyCodec.toVec reply).mapError .codec

/-- `RawEndpoint::send` for `Recipient<RpcRawCall>`. -/
def rawSend (r : RawCallRecipient) (msg : RpcRawCall) : Except Error Bytes :=
  match r msg with
  | .error e => .error (.mailbox e)
  | .ok v => v

def send : Endpoint M → RpcRawCall → Except Panic (Except Error Bytes)
  | envelope _ r, msg => envelopeSend r msg
  | raw r, msg => .ok (rawSend r msg)

end Endpoint

/-- The legacy `Slot`. -/
structure Slot (M : τ → MessageType) where
  inner : Endpoint M

namespace Slot

/-- `Slot::recipient::<T>`. -/
def recipient (t : τ) (s : Slot M) : Option (EnvelopeRecipient (M t)) :=
  match s.inner with
  | .envelope t' r => if h : t' = t then some (h ▸ r) else none
  | .raw _ => none

/-- `Slot::send`. -/
def send (s : Slot M) (msg : RpcRawCall) : Except Panic (Except Error Bytes) := s.inner.send msg

end Slot

/-- The legacy `Router`. -/
structure Router (M : τ → MessageType) where
  handlers : PrefixLookupBag (Slot M)

namespace Router

def new : Router M := ⟨PrefixLookupBag.empty⟩

def bindSlot (key : String) (slot : Slot M) (r : Router M) : Router M × UpdateService :=
  (⟨r.handlers.insert key slot⟩, .add key)

def bind (addr : String) (t : τ) (endpoint : EnvelopeRecipient (M t)) :=
  bindSlot (typedKey addr (M t)) ⟨.envelope t endpoint⟩

def bindActor (addr : String) (t : τ) (endpoint : EnvelopeRecipient (M t)) :=
  bindSlot (typedKey addr (M t)) ⟨.envelope t endpoint⟩

def bindRaw (addr : String) (endpoint : RawCallRecipient) :=
  bindSlot addr (⟨.raw endpoint⟩ : Slot M)

/-- Legacy `Router::forward`, with the caller `"local"`; the request is serialized with
`unwrap` on the raw paths, and the reply deserialized with no check for an empty one. -/
def forward (r : Router M) (remote : RpcRawCall → Except MailboxError (Except Error Bytes))
    (addr : String) (t : τ) (msg : (M t).Msg) : Except Panic (Except Error (M t).Reply) :=
  let caller := "local"
  let addr := typedKey addr (M t)
  let decode := fun (b : Bytes) => ((M t).replyCodec.fromSlice b).mapError Error.codec
  match r.handlers.getMut addr with
  | some slot =>
    match slot.recipient t with
    | some h => .ok ((h caller msg).mapError .mailbox)
    | none => (unwrap ((M t).msgCodec.toVec msg)).bind fun body =>
      (slot.send ⟨caller, addr, body⟩).map (· >>= decode)
  | none => (unwrap ((M t).msgCodec.toVec msg)).map fun body =>
    (match remote ⟨caller, addr, body⟩ with
      | .ok v => v
      | .error e => .error (.mailbox e)) >>= decode

/-- Legacy `Router::forward_bytes`; its `from` is the caller. -/
def forwardBytes (r : Router M) (remote : RpcRawCall → Except MailboxError (Except Error Bytes))
    (addr caller : String) (msg : Bytes) : Except Panic (Except Error Bytes) :=
  match r.handlers.getMut addr with
  | some slot => slot.send ⟨caller, addr, msg⟩
  | none =>
    .ok (match remote ⟨caller, addr, msg⟩ with
      | .ok v => v
      | .error e => .error (.mailbox e))

/-- Legacy `Router::forward_bytes_local`. -/
def forwardBytesLocal (r : Router M) (addr caller : String) (msg : Bytes) :
    Except Panic (Except Error Bytes) :=
  match r.handlers.getMut addr with
  | some slot => slot.send ⟨caller, addr, msg⟩
  | none => .ok (.error .noEndpoint)

end Router

end Legacy

end YaServiceBus
