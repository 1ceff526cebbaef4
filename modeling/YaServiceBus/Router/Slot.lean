import YaServiceBus.Proto

/-! The slots of `local_router.rs`. A slot holds one recipient behind `Box<dyn RawEndpoint>`:
a typed recipient of some message type, a raw one, or a raw pair. Its `RawEndpoint` impl
serves calls on bytes, and the typed paths of the router first try a checked downcast to the
caller's own message type, which skips serialization. Message types are indexed by `τ`, the
Rust `TypeId`s, so that two types may share an `ID` and still fail each other's downcast. -/
namespace YaServiceBus

/-- A serde codec of one type: `crate::serialization::{to_vec, from_slice}`, with their errors
given as the `Error` they convert to. -/
structure Codec (α : Type) where
  toVec : α → Except Error Bytes
  fromSlice : Bytes → Except Error α

namespace Codec

variable {α : Type}

/-- Deserialization inverts serialization: every value serializes, and reads back. -/
def Inverts (c : Codec α) : Prop := ∀ x, ∃ b, c.toVec x = .ok b ∧ c.fromSlice b = .ok x

/-- A serialized value is never empty. -/
def NonEmpty (c : Codec α) : Prop := ∀ x b, c.toVec x = .ok b → b ≠ []

/-- A one-byte codec, lawful in both senses. -/
def byte : Codec UInt8 where
  toVec x := .ok [x]
  fromSlice
    | [x] => .ok x
    | _ => .error (.serialization "expected one byte")

theorem byte_inverts : byte.Inverts := fun x => ⟨[x], rfl, rfl⟩

theorem byte_nonEmpty : byte.NonEmpty := by
  rintro x b ⟨⟩
  exact List.cons_ne_nil _ _

end Codec

/-- A message type, `RpcMessage` or `RpcStreamMessage`: its `ID`, the request type, and
`Result<Item, Error>`, the type of its reply (of each item, for a streaming one), with their
codecs. -/
structure MessageType where
  ID : String
  Msg : Type
  Reply : Type
  msgCodec : Codec Msg
  replyCodec : Codec Reply

/-- A message type of one byte each way. -/
def MessageType.byte (id : String) : MessageType := ⟨id, UInt8, UInt8, Codec.byte, Codec.byte⟩

/-- A `Recipient<RpcEnvelope<T>>`: the handler's reply to a caller's request, or the
`MailboxError` of `send`. -/
abbrev EnvelopeRecipient (T : MessageType) := String → T.Msg → Except MailboxError T.Reply

/-- A `Recipient<RpcStreamCall<T>>`: for a caller, an address and a request, the items the
handler sends on the reply channel before it drops it, and what `send` returns. -/
abbrev StreamCallRecipient (T : MessageType) :=
  String → String → T.Msg → List T.Reply × Except MailboxError (Except Error Unit)

/-- A `Recipient<RpcRawCall>`. -/
abbrev RawCallRecipient := RpcRawCall → Except MailboxError (Except Error Bytes)

/-- A `Recipient<RpcRawStreamCall>`: for a caller, an address and a body, the chunks it sends
on the reply channel. What its `send` returns is only printed. -/
abbrev RawStreamRecipient := String → String → Bytes → List (Except Error ResponseChunk)

variable {τ : Type} [DecidableEq τ] {M : τ → MessageType}

/-- What a `Slot` holds behind `Box<dyn RawEndpoint>`, one constructor per `RawEndpoint`
impl; a typed recipient carries its message type. -/
inductive Endpoint (M : τ → MessageType)
  | envelope (t : τ) (r : EnvelopeRecipient (M t))
  | streamCall (t : τ) (r : StreamCallRecipient (M t))
  | raw (r : RawCallRecipient)
  | rawStream (r : RawStreamRecipient)
  | dual (rpc : RawCallRecipient) (stream : RawStreamRecipient)

namespace Endpoint

section Impls

variable {T : MessageType}

/-- `RawEndpoint::send` for `Recipient<RpcEnvelope<T>>`. -/
def envelopeSend (r : EnvelopeRecipient T) (msg : RpcRawCall) : Except Error Bytes :=
  match T.msgCodec.fromSlice msg.body with
  | .error e => .error e
  | .ok body =>
    match r msg.caller body with
    | .error e => .error (.fromAddr msg.addr e)
    | .ok reply => T.replyCodec.toVec reply

/-- `RawEndpoint::call_stream` for `Recipient<RpcEnvelope<T>>`: one item. -/
def envelopeCallStream (r : EnvelopeRecipient T) (msg : RpcRawCall) :
    List (Except Error ResponseChunk) :=
  match T.msgCodec.fromSlice msg.body with
  | .error e => [.error e]
  | .ok body =>
    [match r msg.caller body with
      | .error e => .error (.fromAddr msg.addr e)
      | .ok reply => (T.replyCodec.toVec reply).map .full]

/-- `RawEndpoint::send` for `Recipient<RpcStreamCall<T>>`: refused. -/
def streamCallSend (msg : RpcRawCall) : Except Error Bytes :=
  .error (.gsbBadRequest ("non-streaming-request on streaming endpoint: " ++ msg.addr))

/-- What the call spawned by the streaming `call_stream` sends on its error channel: the
mailbox or handler error of a failed call, nothing for a call that succeeded. -/
def callError (addr : String) : Except MailboxError (Except Error Unit) → Option Error
  | .error e => some (.fromAddr addr e)
  | .ok (.error e) => some e
  | .ok (.ok ()) => none

/-- `RawEndpoint::call_stream` for `Recipient<RpcStreamCall<T>>`: the request is decoded with
`unwrap`; each item the handler sends becomes a `Part` of its serialized form, and the error
of a failed call follows them. -/
def streamCallCallStream (r : StreamCallRecipient T) (msg : RpcRawCall) :
    Except Panic (List (Except Error ResponseChunk)) :=
  (unwrap (T.msgCodec.fromSlice msg.body)).map fun body =>
    (r msg.caller msg.addr body).1.map (fun y => (T.replyCodec.toVec y).map .part) ++
      (callError msg.addr (r msg.caller msg.addr body).2).toList.map .error

end Impls

/-- `RawEndpoint::send` for `Recipient<RpcRawCall>`. -/
def rawSend (r : RawCallRecipient) (msg : RpcRawCall) : Except Error Bytes :=
  match r msg with
  | .error e => .error (.fromAddr msg.addr e)
  | .ok v => v

/-- `RawEndpoint::call_stream` for `Recipient<RpcRawCall>`: one `Full` item. -/
def rawCallStream (r : RawCallRecipient) (msg : RpcRawCall) : List (Except Error ResponseChunk) :=
  [match r msg with
    | .error e => .error (.fromAddr msg.addr e)
    | .ok v => v.map .full]

/-- `RawEndpoint::send` for `Recipient<RpcRawStreamCall>`: the first chunk of the channel. -/
def rawStreamSend (r : RawStreamRecipient) (msg : RpcRawCall) : Except Error Bytes :=
  match r msg.caller msg.addr msg.body with
  | .ok (.full v) :: _ => .ok v
  | .ok (.part _) :: _ => .error (.gsbBadRequest "partial response")
  | .error e :: _ => .error e
  | [] => .error (.gsbBadRequest "unexpected EOS")

/-- `RawEndpoint::call_stream` for `Recipient<RpcRawStreamCall>`: the channel itself. -/
def rawStreamCallStream (r : RawStreamRecipient) (msg : RpcRawCall) :
    List (Except Error ResponseChunk) :=
  r msg.caller msg.addr msg.body

/-- `RawEndpoint::send`; `DualRawEndpoint` delegates to its unary side. -/
def send : Endpoint M → RpcRawCall → Except Error Bytes
  | envelope _ r => envelopeSend r
  | streamCall _ _ => streamCallSend
  | raw r => rawSend r
  | rawStream r => rawStreamSend r
  | dual rpc _ => rawSend rpc

/-- `RawEndpoint::call_stream`; `DualRawEndpoint` delegates to its streaming side. -/
def callStream : Endpoint M → RpcRawCall → Except Panic (List (Except Error ResponseChunk))
  | envelope _ r, msg => .ok (envelopeCallStream r msg)
  | streamCall _ r, msg => streamCallCallStream r msg
  | raw r, msg => .ok (rawCallStream r msg)
  | rawStream r, msg => .ok (rawStreamCallStream r msg)
  | dual _ stream, msg => .ok (rawStreamCallStream stream msg)

end Endpoint

/-- `Slot`. -/
structure Slot (M : τ → MessageType) where
  inner : Endpoint M

/-- The typed items the serializing paths of `streaming_forward` make of a chunk stream: the
end-of-stream marker is dropped, every other chunk deserialized and every error kept. -/
def decodeChunks {α : Type} (c : Codec α) (chunks : List (Except Error ResponseChunk)) :
    List (Except Error α) :=
  (chunks.filter fun s => match s with
    | .ok s => !s.isEos
    | .error _ => true).map fun
    | .ok (.part chunk) => c.fromSlice chunk
    | .ok (.full chunk) => c.fromSlice chunk
    | .error e => .error e

namespace Slot

/-- `Slot::recipient::<T>`: the typed recipient, when the slot holds an `RpcEnvelope`
recipient of this very type. -/
def recipient (t : τ) (s : Slot M) : Option (EnvelopeRecipient (M t)) :=
  match s.inner with
  | .envelope t' r => if h : t' = t then some (h ▸ r) else none
  | _ => none

/-- `Slot::stream_recipient::<T>`. -/
def streamRecipient (t : τ) (s : Slot M) : Option (StreamCallRecipient (M t)) :=
  match s.inner with
  | .streamCall t' r => if h : t' = t then some (h ▸ r) else none
  | _ => none

/-- `Slot::raw_stream_recipient`: the streaming side of a raw pair, or a raw stream
recipient. -/
def rawStreamRecipient (s : Slot M) : Option RawStreamRecipient :=
  match s.inner with
  | .dual _ stream => some stream
  | .rawStream r => some r
  | _ => none

/-- `Slot::send`. -/
def send (s : Slot M) (msg : RpcRawCall) : Except Error Bytes := s.inner.send msg

/-- `Slot::send_streaming`. -/
def sendStreaming (s : Slot M) (msg : RpcRawCall) :
    Except Panic (List (Except Error ResponseChunk)) :=
  s.inner.callStream msg

/-- `Slot::streaming_forward`: the typed fast path passes the handler's items on and only
logs how its call ended; the other two paths serialize the request and decode the chunks. -/
def streamingForward (s : Slot M) (t : τ) (caller addr : String) (body : (M t).Msg) :
    Except Panic (List (Except Error (M t).Reply)) :=
  match s.streamRecipient t with
  | some h => .ok ((h caller addr body).1.map .ok)
  | none =>
    match s.rawStreamRecipient with
    | some h =>
      match (M t).msgCodec.toVec body with
      | .error e => .ok [.error e]
      | .ok body => .ok (decodeChunks (M t).replyCodec (h caller addr body))
    | none =>
      match (M t).msgCodec.toVec body with
      | .error e => .ok [.error e]
      | .ok body =>
        (s.sendStreaming ⟨caller, addr, body, false⟩).map (decodeChunks (M t).replyCodec)

end Slot

end YaServiceBus
