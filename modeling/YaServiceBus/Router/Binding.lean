import YaServiceBus.Router.Streams

/-! What binding and unbinding do to the router's lookup. A typed binding puts the handler
under `addr/T::ID`, where `forward` finds it and calls it without serializing, and where
`streaming_forward`, which has no such fast path for a unary handler, gets the same answer by
serializing both ways; `unbind` takes away exactly the keys under the pattern it is given, and
reports them. -/
namespace YaServiceBus

namespace PrefixLookupBag

variable {α : Type}

theorem keys_foldl_remove (b : PrefixLookupBag α) (ks : List String) :
    (ks.foldl remove b).keys = b.keys.filter fun a => a ∉ ks := by
  induction ks generalizing b with
  | nil => simp
  | cons k ks ih =>
    rw [List.foldl_cons, ih, keys_remove, List.filter_filter]
    congr 1
    funext a
    by_cases h : a = k <;> simp [h, and_comm]

end PrefixLookupBag

variable {τ : Type} {M : τ → MessageType}

namespace Router

/-- `unbind` keeps exactly the keys not under its pattern, and gives back the others. -/
theorem unbind_keys (r : Router M) (addr : String) :
    (r.unbind addr).1.handlers.keys =
        r.handlers.keys.filter (fun a => !(unbindPattern addr).data.isPrefixOf a.data) ∧
      (r.unbind addr).2 =
        r.handlers.keys.filter (fun a => (unbindPattern addr).data.isPrefixOf a.data) := by
  refine ⟨?_, rfl⟩
  simp only [unbind, PrefixLookupBag.keys_foldl_remove]
  apply List.filter_congr
  intro a ha
  cases h : (unbindPattern addr).data.isPrefixOf a.data <;>
    simp_all [← List.isPrefixOf_iff_prefix]

variable [DecidableEq τ]

/-- The fast path: a slot of the caller's own message type is called directly. -/
theorem forward_local (r : Router M) (remote : RemoteCall) {addr : String} {t : τ}
    {h : EnvelopeRecipient (M t)}
    (hs : r.handlers.getMut (typedKey addr (M t)) = some ⟨.envelope t h⟩)
    (caller : String) (msg : (M t).Msg) :
    r.forward remote addr t caller msg =
      (h caller msg).mapError (.fromAddr (typedKey addr (M t))) := by
  simp [forward, hs, Slot.recipient]

/-- `streaming_forward` to a unary handler bound at `addr`, with codecs that round-trip and
replies that never serialize to nothing, gives one item: what `forward` gives. The streaming
entry point has no fast path for a unary slot and serializes both ways, and agrees with the
fast path of `forward`. -/
theorem streamingForward_envelope_agrees (r : Router M) (remote : RemoteCall)
    (sremote : RemoteStreamCall) {addr : String} {t : τ} {h : EnvelopeRecipient (M t)}
    (hs : r.handlers.getMut (typedKey addr (M t)) = some ⟨.envelope t h⟩)
    (hmsg : (M t).msgCodec.Inverts) (hrep : (M t).replyCodec.Inverts)
    (hne : (M t).replyCodec.NonEmpty) (msg : (M t).Msg) :
    r.streamingForward sremote addr t msg = .ok [r.forward remote addr t "local" msg] := by
  obtain ⟨b, hb, hd⟩ := hmsg msg
  rw [forward_local r remote hs]
  simp only [streamingForward, hs, Slot.streamingForward, Slot.streamRecipient,
    Slot.rawStreamRecipient, hb, Slot.sendStreaming, Endpoint.callStream,
    Endpoint.envelopeCallStream, hd, Except.map]
  cases h "local" msg with
  | error e => rfl
  | ok reply =>
    obtain ⟨b', hb', hd'⟩ := hrep reply
    simp [hb', hd', hne reply b' hb', Except.map, Except.mapError, decodeChunks,
      ResponseChunk.isEos]

theorem unary_handler_streams_its_reply :
    let M := fun _ : Unit => MessageType.byte "B"
    let h : EnvelopeRecipient (M ()) := fun _ x => .ok x
    let r := ((Router.new : Router M).bind "/s" () h).1
    r.handlers.getMut (typedKey "/s" (M ())) = some ⟨.envelope () h⟩ ∧
    r.streamingForward (fun _ _ _ => ([], .ok ())) "/s" () (7 : UInt8) =
      .ok [r.forward (fun _ => .ok (.ok [])) "/s" () "local" (7 : UInt8)] := by
  intro M h r
  have hs : r.handlers.getMut (typedKey "/s" (M ())) = some ⟨.envelope () h⟩ :=
    PrefixLookupBag.getMut_insert_self _ _ _
  exact ⟨hs, streamingForward_envelope_agrees r (fun _ => .ok (.ok []))
    (fun _ _ _ => ([], .ok ())) hs Codec.byte_inverts Codec.byte_inverts Codec.byte_nonEmpty
    (7 : UInt8)⟩

end Router

end YaServiceBus
