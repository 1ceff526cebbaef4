import YaServiceBus.Router.Basic

/-! Streaming calls to a local streaming handler, on the router's two paths to it: the typed
fast path of `Slot::streaming_forward`, and the slot's `RawEndpoint::call_stream`, which
serializes. With codecs that round-trip, both pass on the handler's items in order; only the
serializing path passes on how the call ended, the fast path logs a failed call and ends the
stream as if it had succeeded. -/
namespace YaServiceBus

variable {τ : Type} {M : τ → MessageType}

section Decode

variable {α : Type}

@[simp] theorem decodeChunks_nil (c : Codec α) : decodeChunks c [] = [] := rfl

@[simp] theorem decodeChunks_append (c : Codec α) (xs ys : List (Except Error ResponseChunk)) :
    decodeChunks c (xs ++ ys) = decodeChunks c xs ++ decodeChunks c ys := by
  simp [decodeChunks]

@[simp] theorem decodeChunks_errors (c : Codec α) (es : List Error) :
    decodeChunks c (es.map .error) = es.map .error := by
  induction es with
  | nil => rfl
  | cons e es ih => simpa [decodeChunks] using ih

/-- Serialized items sent as `Part`s decode back to themselves. -/
theorem decodeChunks_parts {c : Codec α} (hc : c.Inverts) (ys : List α) :
    decodeChunks c (ys.map fun y => (c.toVec y).map .part) = ys.map .ok := by
  induction ys with
  | nil => rfl
  | cons y ys ih =>
    obtain ⟨b, hb, hf⟩ := hc y
    simpa [decodeChunks, hb, hf, Except.map, ResponseChunk.isEos] using ih

end Decode

/-- The serializing path through a streaming slot, decoded as `streaming_forward` decodes:
the handler's items, then the error of a failed call. -/
theorem Endpoint.streamCall_callStream_decoded {t : τ} (h : StreamCallRecipient (M t))
    {msg : (M t).Msg} {caller addr : String} {body : Bytes}
    (hmsg : (M t).msgCodec.fromSlice body = .ok msg) (hrep : (M t).replyCodec.Inverts) :
    ((Endpoint.streamCall t h).callStream ⟨caller, addr, body, false⟩).map
        (decodeChunks (M t).replyCodec) =
      .ok ((h caller addr msg).1.map .ok ++
        (Endpoint.callError addr (h caller addr msg).2).toList.map .error) := by
  simp only [Endpoint.callStream, Endpoint.streamCallCallStream, hmsg, unwrap_ok]
  change Except.ok (decodeChunks _ (_ ++ _)) = _
  rw [decodeChunks_append, decodeChunks_parts hrep, decodeChunks_errors]

variable [DecidableEq τ]

/-- The typed fast path: the handler's items, whatever its call returned. -/
theorem Slot.streamingForward_streamCall (t : τ) (h : StreamCallRecipient (M t))
    (caller addr : String) (body : (M t).Msg) :
    (⟨.streamCall t h⟩ : Slot M).streamingForward t caller addr body =
      .ok ((h caller addr body).1.map .ok) := by
  simp [Slot.streamingForward, Slot.streamRecipient]

/-- For a streaming handler bound at `addr`, with codecs that round-trip: the router's typed
`streaming_forward` yields the handler's items and nothing else, while the same call made on
the slot's `call_stream` (what `streaming_forward_bytes` and a remote peer reach) yields the
items and then the error of a failed call. -/
theorem streaming_fast_path_drops_failure (r : Router M) (remote : RemoteStreamCall)
    (addr : String) (t : τ) (h : StreamCallRecipient (M t)) (msg : (M t).Msg) (body : Bytes)
    (hslot : r.handlers.getMut (typedKey addr (M t)) = some ⟨.streamCall t h⟩)
    (hmsg : (M t).msgCodec.toVec msg = .ok body) (hinv : (M t).msgCodec.Inverts)
    (hrep : (M t).replyCodec.Inverts) :
    r.streamingForward remote addr t msg =
        .ok ((h "local" (typedKey addr (M t)) msg).1.map .ok) ∧
      (r.streamingForwardBytes remote (typedKey addr (M t)) "local" body).map
          (decodeChunks (M t).replyCodec) =
        .ok ((h "local" (typedKey addr (M t)) msg).1.map .ok ++
          (Endpoint.callError (typedKey addr (M t))
            (h "local" (typedKey addr (M t)) msg).2).toList.map .error) := by
  obtain ⟨b, hb, hf⟩ := hinv msg
  rw [hmsg, Except.ok.injEq] at hb
  subst hb
  refine ⟨?_, ?_⟩
  · simp only [Router.streamingForward, hslot, Slot.streamingForward_streamCall]
  · simp only [Router.streamingForwardBytes, hslot, Slot.sendStreaming]
    exact Endpoint.streamCall_callStream_decoded h hf hrep

theorem failing_stream_handler_diverges :
    let M := fun _ : Unit => MessageType.byte "B"
    let h : StreamCallRecipient (M ()) := fun _ _ _ => ([], .ok (.error (.gsbFailure "boom")))
    let r := ((Router.new : Router M).bindStream "/s" () h).1
    r.streamingForward (fun _ _ _ => ([], .ok ())) "/s" () (7 : UInt8) = .ok [] ∧
      (r.streamingForwardBytes (fun _ _ _ => ([], .ok ())) (typedKey "/s" (M ())) "local"
        [7]).map (decodeChunks (M ()).replyCodec) = .ok [.error (.gsbFailure "boom")] := by
  intro M h r
  exact streaming_fast_path_drops_failure r _ "/s" () h (7 : UInt8) [7]
    (PrefixLookupBag.getMut_insert_self _ _ _) rfl Codec.byte_inverts Codec.byte_inverts

end YaServiceBus
