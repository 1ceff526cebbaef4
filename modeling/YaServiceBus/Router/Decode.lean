import YaServiceBus.Router.Legacy

/-! Requests whose bytes do not decode into the message type of the slot they reach. The unary
adapter turns the decode failure into an `Err`; the streaming adapter's `call_stream` and the
legacy unary `send` call `unwrap` on it, so every entry point on bytes that reaches them
panics, and so does a connection whose `LocalRouterHandler` serves such a request. -/
namespace YaServiceBus

variable {τ : Type} {M : τ → MessageType}

namespace Endpoint

/-- `call_stream` panics exactly on a streaming recipient, for a body that does not decode. -/
theorem callStream_panics_iff {e : Endpoint M} {msg : RpcRawCall} :
    (∃ p, e.callStream msg = .error p) ↔
      ∃ t r ex, e = .streamCall t r ∧ (M t).msgCodec.fromSlice msg.body = .error ex := by
  constructor
  · rintro ⟨p, hp⟩
    cases e with
    | streamCall t r =>
      cases h : (M t).msgCodec.fromSlice msg.body with
      | error ex => exact ⟨t, r, ex, rfl, h⟩
      | ok v => simp [callStream, streamCallCallStream, h, Except.map] at hp
    | _ => simp [callStream] at hp
  · rintro ⟨t, r, ex, rfl, hex⟩
    exact ⟨unwrapPanic, by simp [callStream, streamCallCallStream, hex, Except.map]⟩

theorem streamCall_callStream_of_error {t : τ} {r : StreamCallRecipient (M t)} {msg : RpcRawCall}
    {ex : Error} (h : (M t).msgCodec.fromSlice msg.body = .error ex) :
    (Endpoint.streamCall t r).callStream msg = .error unwrapPanic := by
  simp [callStream, streamCallCallStream, h, Except.map]

/-- The unary adapter answers an undecodable request with the decoder's error alone. -/
theorem envelopeCallStream_of_error {T : MessageType} {r : EnvelopeRecipient T}
    {msg : RpcRawCall} {ex : Error} (h : T.msgCodec.fromSlice msg.body = .error ex) :
    envelopeCallStream r msg = [.error ex] := by
  simp [envelopeCallStream, h]

end Endpoint

namespace Router

/-- `forward_bytes_local` panics exactly when the lookup finds a streaming recipient, the
request wants replies, and its body does not decode into the recipient's message type. -/
theorem forwardBytesLocal_panics_iff (r : Router M) (addr caller : String) (body : Bytes)
    (noReply : Bool) :
    (∃ p, r.forwardBytesLocal addr caller body noReply = .error p) ↔
      noReply = false ∧ ∃ t h ex, r.handlers.getMut addr = some ⟨.streamCall t h⟩ ∧
        (M t).msgCodec.fromSlice body = .error ex := by
  unfold forwardBytesLocal
  cases hs : r.handlers.getMut addr with
  | none => exact ⟨fun ⟨_, hp⟩ => (by cases hp), fun ⟨_, _, _, _, h, _⟩ => (by cases h)⟩
  | some slot =>
    obtain ⟨e⟩ := slot
    cases noReply with
    | true => exact ⟨fun ⟨_, hp⟩ => (by cases hp), fun ⟨h, _⟩ => (by cases h)⟩
    | false =>
      refine Endpoint.callStream_panics_iff.trans ⟨fun ⟨t, h, ex, he, hb⟩ => ⟨rfl, t, h, ex,
        congrArg (fun e => some (Slot.mk e)) he, hb⟩, fun ⟨_, t, h, ex, he, hb⟩ => ⟨t, h, ex, ?_, hb⟩⟩
      cases he
      rfl

/-- A unary slot answers an undecodable body with a single `Err`, the decoder's. -/
theorem forwardBytesLocal_envelope_of_error (r : Router M) {addr caller : String}
    {body : Bytes} {t : τ} {h : EnvelopeRecipient (M t)} {ex : Error}
    (hs : r.handlers.getMut addr = some ⟨.envelope t h⟩)
    (hb : (M t).msgCodec.fromSlice body = .error ex) (noReply : Bool) :
    r.forwardBytesLocal addr caller body noReply = .ok [.error ex] := by
  cases noReply <;>
    simp [forwardBytesLocal, hs, Slot.send, Slot.sendStreaming, Endpoint.send,
      Endpoint.callStream, Endpoint.envelopeSend, Endpoint.envelopeCallStream, hb, Except.map]

end Router

/-- A body that does not decode, sent to a streaming slot of the router or a unary slot of the
legacy router, makes the entry points on bytes panic, and a running connection whose handler
is the router's `LocalRouterHandler` stops with that panic on such a `CallRequest`, and the
handler's `on_disconnect` runs. -/
theorem undecodable_request_panics (r : Router M) (remote : RemoteStreamCall)
    (lr : Legacy.Router M)
    (lremote : Legacy.RpcRawCall → Except MailboxError (Except Legacy.Error Bytes))
    (addr caller : String) (body : Bytes) (t t' : τ) (h : StreamCallRecipient (M t))
    (h' : EnvelopeRecipient (M t')) (e e' : Error)
    (hslot : r.handlers.getMut addr = some ⟨.streamCall t h⟩)
    (hbody : (M t).msgCodec.fromSlice body = .error e)
    (hslot' : lr.handlers.getMut addr = some ⟨.envelope t' h'⟩)
    (hbody' : (M t').msgCodec.fromSlice body = .error e') :
    r.forwardBytesLocal addr caller body false = .error unwrapPanic ∧
      r.streamingForwardBytes remote addr caller body = .error unwrapPanic ∧
      lr.forwardBytes lremote addr caller body = .error unwrapPanic ∧
      lr.forwardBytesLocal addr caller body = .error unwrapPanic ∧
      ∀ (u : Utf8) display (c : Connection) requestId,
        c.handler = localRouterHandler r → c.stopped = false →
        c.handle u display (.inbound (.ok (.callRequest ⟨requestId, caller, addr, body, false⟩))) =
          ({ c with stopped := true }, [.panic unwrapPanic, .disconnect]) := by
  have hs : r.forwardBytesLocal addr caller body false = .error unwrapPanic := by
    simpa [Router.forwardBytesLocal, hslot, Slot.sendStreaming] using
      @Endpoint.streamCall_callStream_of_error _ _ t h ⟨caller, addr, body, false⟩ e hbody
  have hl : ∀ m : Legacy.RpcRawCall, m.body = body →
      (⟨.envelope t' h'⟩ : Legacy.Slot M).send m = .error unwrapPanic := by
    rintro m rfl
    simp [Legacy.Slot.send, Legacy.Endpoint.send, Legacy.Endpoint.envelopeSend, hbody', Except.map]
  refine ⟨hs, ?_, ?_, ?_, fun u display c requestId hc hst => ?_⟩
  · simpa [Router.streamingForwardBytes, hslot, Router.forwardBytesLocal, Slot.sendStreaming]
      using hs
  · simpa [Legacy.Router.forwardBytes, hslot'] using hl ⟨caller, addr, body⟩ rfl
  · simpa [Legacy.Router.forwardBytesLocal, hslot'] using hl ⟨caller, addr, body⟩ rfl
  · simp [Connection.handle, hst, Connection.handleFrame, Connection.handleCallRequest, hc,
      localRouterHandler, hs, Connection.panicked]

theorem empty_body_panics_byte_slots :
    let M := fun _ : Unit => MessageType.byte "B"
    let r := ((Router.new : Router M).bindStream "/s" () fun _ _ _ => ([], .ok (.ok ()))).1
    let lr := ((Legacy.Router.new : Legacy.Router M).bind "/s" () fun _ x => .ok x).1
    r.forwardBytesLocal (typedKey "/s" (M ())) "me" [] false = .error unwrapPanic ∧
      lr.forwardBytesLocal (typedKey "/s" (M ())) "me" [] = .error unwrapPanic := by
  intro M r lr
  have := undecodable_request_panics r (fun _ _ _ => ([], .ok ())) lr (fun _ => .ok (.ok []))
    (typedKey "/s" (M ())) "me" [] () () _ _ _ _ (PrefixLookupBag.getMut_insert_self _ _ _) rfl
    (PrefixLookupBag.getMut_insert_self _ _ _) rfl
  exact ⟨this.1, this.2.2.2.1⟩

end YaServiceBus
