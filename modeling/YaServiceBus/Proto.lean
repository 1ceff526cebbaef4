import Mathlib

/-! Wire data of the service bus as `connection.rs` and `local_router.rs` read and write it:
payloads, frames, reply codes, response chunks, errors and panics. -/
namespace YaServiceBus

/-- `Vec<u8>`. -/
abbrev Bytes := List UInt8

/-- `String::into_bytes` and `String::from_utf8`: decoding the bytes of a string gives the
string back. -/
structure Utf8 where
  intoBytes : String → Bytes
  fromUtf8 : Bytes → Option String
  fromUtf8_intoBytes : ∀ s, fromUtf8 (intoBytes s) = some s

attribute [simp] Utf8.fromUtf8_intoBytes

namespace Utf8

private theorem char_toNat_lt (c : Char) : c.toNat < 1114112 := by
  rcases c.valid with h | h
  · have : c.val.toNat < 55296 := h
    simp only [Char.toNat]; omega
  · have : c.val.toNat < 1114112 := h.2
    simp only [Char.toNat]; omega

/-- The three big-endian bytes of a character's code point. -/
def wideChar (c : Char) : Bytes :=
  [(c.toNat / 65536).toUInt8, (c.toNat / 256 % 256).toUInt8, (c.toNat % 256).toUInt8]

def wideChars : Bytes → Option (List Char)
  | a :: b :: c :: rest =>
    (Char.ofNat (a.toNat * 65536 + b.toNat * 256 + c.toNat) :: ·) <$> wideChars rest
  | [] => some []
  | _ => none

theorem wideChars_flatMap (l : List Char) : wideChars (l.flatMap wideChar) = some l := by
  induction l with
  | nil => rfl
  | cons c l ih =>
    have hc := char_toNat_lt c
    have h1 : (c.toNat / 65536).toUInt8.toNat = c.toNat / 65536 :=
      UInt8.toNat_ofNat_of_lt (by show _ < 256; omega)
    have h2 : (c.toNat / 256 % 256).toUInt8.toNat = c.toNat / 256 % 256 :=
      UInt8.toNat_ofNat_of_lt (by show _ < 256; omega)
    have h3 : (c.toNat % 256).toUInt8.toNat = c.toNat % 256 :=
      UInt8.toNat_ofNat_of_lt (by show _ < 256; omega)
    have hn : c.toNat / 65536 * 65536 + c.toNat / 256 % 256 * 256 + c.toNat % 256 = c.toNat := by
      omega
    rw [List.flatMap_cons]
    simp only [wideChar, List.cons_append, wideChars, h1, h2, h3, hn, Char.ofNat_toNat]
    change (c :: ·) <$> wideChars (l.flatMap wideChar) = _
    rw [ih]
    rfl

/-- A stand-in for UTF-8 in concrete runs: each character as three bytes. -/
def wide : Utf8 where
  intoBytes s := s.toList.flatMap wideChar
  fromUtf8 b := (wideChars b).map String.mk
  fromUtf8_intoBytes s := by cases s; simp [wideChars_flatMap]

end Utf8

instance exceptDecidableEq {ε α : Type} [DecidableEq ε] [DecidableEq α] :
    DecidableEq (Except ε α)
  | .error a, .error b => decidable_of_iff (a = b) (by simp)
  | .ok a, .ok b => decidable_of_iff (a = b) (by simp)
  | .error _, .ok _ => isFalse (by simp)
  | .ok _, .error _ => isFalse (by simp)

/-- A Rust panic, with its message. -/
structure Panic where
  msg : String
  deriving DecidableEq, Repr

/-- The panic of `Result::unwrap` on an `Err`. -/
def unwrapPanic : Panic := ⟨"called Result::unwrap() on an Err value"⟩

/-- `Result::unwrap`. -/
def unwrap {ε α : Type} : Except ε α → Except Panic α
  | .ok a => .ok a
  | .error _ => .error unwrapPanic

@[simp] theorem unwrap_ok {ε α : Type} (a : α) : unwrap (.ok a : Except ε α) = .ok a := rfl

@[simp] theorem unwrap_error {ε α : Type} (e : ε) :
    unwrap (.error e : Except ε α) = .error unwrapPanic := rfl

/-- actix's `MailboxError`: the message did not reach the actor, or its reply did not come. -/
inductive MailboxError
  | closed
  | timeout
  deriving DecidableEq, Repr

/-- Modelled from the spec: `crate::Error`, the kinds of section 7. `fromAddr` is
`Error::from_addr`, a mailbox failure annotated with the target address, and `mailbox` the
plain conversion `Error::from`; `serialization` is a codec failure. -/
inductive Error
  | noEndpoint (addr : String)
  | gsbBadRequest (msg : String)
  | gsbAlreadyRegistered (msg : String)
  | gsbFailure (msg : String)
  | cancelled
  | serialization (msg : String)
  | fromAddr (addr : String) (e : MailboxError)
  | mailbox (e : MailboxError)
  deriving DecidableEq, Repr

/-- Modelled from the spec: `ResponseChunk`, one frame of a streaming reply. -/
inductive ResponseChunk
  | part (data : Bytes)
  | full (data : Bytes)
  deriving DecidableEq, Repr

/-- Modelled from the spec: `CallReplyType`, `Full = 0` and `Partial = 1`. -/
inductive CallReplyType
  | full
  | partialReply
  deriving DecidableEq, Repr

def CallReplyType.toInt : CallReplyType → Int
  | full => 0
  | partialReply => 1

namespace ResponseChunk

/-- Modelled from the spec: `is_full`. -/
def isFull : ResponseChunk → Bool
  | full _ => true
  | part _ => false

/-- Modelled from the spec: `is_eos`; an empty `Full` marks the end of a stream. -/
def isEos : ResponseChunk → Bool
  | full d => d.isEmpty
  | part _ => false

/-- Modelled from the spec: `into_bytes`. -/
def intoBytes : ResponseChunk → Bytes
  | full d => d
  | part d => d

/-- `reply_type`. -/
def replyType : ResponseChunk → CallReplyType
  | full _ => .full
  | part _ => .partialReply

/-- `into_vec`. -/
def intoVec : ResponseChunk → Bytes
  | full v => v
  | part v => v

end ResponseChunk

/-- Modelled from the spec: `CallReplyCode` with its `TryFrom<i32>`. -/
inductive CallReplyCode
  | callReplyOk
  | callReplyBadRequest
  | serviceFailure
  deriving DecidableEq, Repr

def CallReplyCode.toInt : CallReplyCode → Int
  | callReplyOk => 0
  | callReplyBadRequest => 400
  | serviceFailure => 500

def CallReplyCode.tryFrom (code : Int) : Option CallReplyCode :=
  if code = 0 then some .callReplyOk
  else if code = 400 then some .callReplyBadRequest
  else if code = 500 then some .serviceFailure
  else none

/-- Modelled from the spec: the reply codes of the five commands (section 6). -/
inductive RegisterReplyCode
  | registeredOk
  | registerBadRequest
  | registerConflict
  deriving DecidableEq, Repr

inductive UnregisterReplyCode
  | unregisteredOk
  | notRegistered
  deriving DecidableEq, Repr

inductive SubscribeReplyCode
  | subscribedOk
  | subscribeBadRequest
  deriving DecidableEq, Repr

inductive UnsubscribeReplyCode
  | unsubscribedOk
  | notSubscribed
  deriving DecidableEq, Repr

inductive BroadcastReplyCode
  | broadcastOk
  | broadcastBadRequest
  deriving DecidableEq, Repr

/-- Modelled from the spec: `Hello`. -/
structure Hello where
  name : String
  version : String
  instanceId : Bytes
  deriving DecidableEq, Repr

/-- Modelled from the spec: `CallRequest`. -/
structure CallRequest where
  requestId : String
  caller : String
  address : String
  data : Bytes
  noReply : Bool
  deriving DecidableEq, Repr

/-- Modelled from the spec: `CallReply`; `code` and `replyType` are the raw `i32`s. -/
structure CallReply where
  requestId : String
  code : Int
  replyType : Int
  data : Bytes
  deriving DecidableEq, Repr

/-- Modelled from the spec: `GsbMessage`, the frames of section 6 with the fields the
connection reads or writes. -/
inductive GsbMessage
  | hello (h : Hello)
  | registerRequest (serviceId : String)
  | registerReply (code : Int) (message : String)
  | unregisterRequest (serviceId : String)
  | unregisterReply (code : Int)
  | subscribeRequest (topic : String)
  | subscribeReply (code : Int) (message : String)
  | unsubscribeRequest (topic : String)
  | unsubscribeReply (code : Int)
  | broadcastRequest (caller topic : String) (data : Bytes)
  | broadcastReply (code : Int) (message : String)
  | callRequest (r : CallRequest)
  | callReply (r : CallReply)
  | ping
  | pong
  deriving DecidableEq, Repr

/-- The codec's `ProtocolError`. -/
structure ProtocolError where
  msg : String
  deriving DecidableEq, Repr

/-- Modelled from the spec: `RpcRawCall`, a call on raw bytes. -/
structure RpcRawCall where
  caller : String
  addr : String
  body : Bytes
  noReply : Bool
  deriving DecidableEq, Repr

end YaServiceBus
