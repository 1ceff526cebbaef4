import YaServiceBus.Link.Remote
import YaServiceBus.Router.Binding

/-! Typed calls on the two paths of `Router::forward` and `Router::streaming_forward`: the
fast path of a slot bound at the address, which calls the handler without serializing, and the
remote path, where the request is serialized and crosses the link to a peer whose
`LocalRouterHandler` serves it from the same handler. With codecs that round-trip and replies
that never serialize to nothing, a unary call returns `Ok` of the handler's reply on both paths
exactly when it has one; a streaming call on the remote path yields the handler's items and
then the error of a failed call. The remote path is a run of the link completed by its drain. -/
namespace YaServiceBus

variable {τ : Type} {M : τ → MessageType}

/-- A peer whose router holds a unary slot at `a` answers a request for `a` with the single
item of the slot's `call_stream`. -/
theorem localRouterHandler_envelope {rB : Router M} {a : String} {t : τ}
    {h : EnvelopeRecipient (M t)} (hB : rB.handlers.getMut a = some ⟨.envelope t h⟩)
    (rid caller : String) (body : Bytes) :
    (localRouterHandler rB).doCall rid caller a body false =
      .ok (Endpoint.envelopeCallStream h ⟨caller, a, body, false⟩) := by
  simp [localRouterHandler, Router.forwardBytesLocal, hB, Slot.sendStreaming, Endpoint.callStream]

/-- What `forward` makes of the first item the remote call of a unary request gets: `Ok` of
the handler's reply exactly when the handler replies. -/
theorem replyOfBytes_fetchResponse_envelope (display : Error → String) {T : MessageType}
    {h : EnvelopeRecipient T} {caller a : String} {body : Bytes} {msg : T.Msg}
    (hmsg : T.msgCodec.fromSlice body = .ok msg) (hrep : T.replyCodec.Inverts)
    (hne : T.replyCodec.NonEmpty) (y : T.Reply) :
    replyOfBytes T.replyCodec (fetchResponse (clientView display
        (Endpoint.envelopeCallStream h ⟨caller, a, body, false⟩))) = .ok y ↔
      h caller msg = .ok y := by
  simp only [Endpoint.envelopeCallStream, hmsg]
  cases hr : h caller msg with
  | error e => simp [clientView, fetchResponse, replyOfBytes]
  | ok v =>
    obtain ⟨b, hb, hf⟩ := hrep v
    simp [hb, Except.map, clientView, fetchResponse, replyOfBytes, hne v b hb, hf]

/-- Serialized items sent as parts come back decoded through `clientView`. -/
theorem decodeChunks_clientView_items {α : Type} (display : Error → String) {c : Codec α}
    (hc : c.Inverts) (ys : List α) (rest : List (Except Error ResponseChunk)) :
    decodeChunks c (clientView display ((ys.map fun y => (c.toVec y).map .part) ++ rest)) =
      ys.map .ok ++ decodeChunks c (clientView display rest) := by
  induction ys with
  | nil => rfl
  | cons y ys ih =>
    obtain ⟨b, hb, hf⟩ := hc y
    simpa [hb, Except.map, clientView, decodeChunks, ResponseChunk.isEos, hf] using ih

/-- A peer whose router holds a streaming slot at `a` answers a request for `a` that decodes
with the handler's items as parts, then the error of a failed call. -/
theorem localRouterHandler_streamCall {rB : Router M} {a : String} {t : τ}
    {h : StreamCallRecipient (M t)} (hB : rB.handlers.getMut a = some ⟨.streamCall t h⟩)
    {body : Bytes} {msg : (M t).Msg} (hmsg : (M t).msgCodec.fromSlice body = .ok msg)
    (rid caller : String) :
    (localRouterHandler rB).doCall rid caller a body false =
      .ok ((h caller a msg).1.map (fun y => ((M t).replyCodec.toVec y).map .part) ++
        (Endpoint.callError a (h caller a msg).2).toList.map .error) := by
  simp [localRouterHandler, Router.forwardBytesLocal, hB, Slot.sendStreaming, Endpoint.callStream,
    Endpoint.streamCallCallStream, hmsg, Except.map]

variable [DecidableEq τ]

namespace Router

/-- The remote path: with no slot at the address, the serialized request goes to the remote
router and its answer is read by `replyOfBytes`. -/
theorem forward_remote (r : Router M) {remote : RemoteCall} {addr : String} {t : τ}
    (hs : r.handlers.getMut (typedKey addr (M t)) = none) {caller : String} {msg : (M t).Msg}
    {raw : RpcRawCall} (hraw : fromEnvelopeAddr (M t) caller msg (typedKey addr (M t)) false = .ok raw)
    {v : Except Error Bytes} (hv : remote raw = .ok v) :
    r.forward remote addr t caller msg = replyOfBytes (M t).replyCodec v := by
  simp only [forward, hs, hraw]
  change replyOfBytes _ (match remote raw with
    | .ok v => v
    | .error e => .error (.fromAddr _ e)) = _
  rw [hv]

end Router

/-- The two paths of `forward` to a unary handler `h` agree. A router holding `h` at `addr`
returns `Ok y` exactly when `h` replies `y`; so does a router with no slot there, whose remote
router sends the serialized request `raw` through the link, on a run from two connections just
joined to a peer whose router holds `h` at the same key, completed by the drain with the peer
still running, and answers with what the call's channel gives first. -/
theorem forward_paths_agree (u : Utf8) (display : Error → String) (rA rA' rB : Router M)
    (remote remote' : RemoteCall) (addr : String) (t : τ) (h : EnvelopeRecipient (M t))
    (caller : String) (msg : (M t).Msg) (ciA ciB : ClientInfo) (hA : CallRequestHandler)
    (pre post : List LinkEvent) (draw : UInt64) (k : Sink) (raw : RpcRawCall)
    (hinv : (M t).msgCodec.Inverts) (hrep : (M t).replyCodec.Inverts)
    (hne : (M t).replyCodec.NonEmpty)
    (hlocal : rA.handlers.getMut (typedKey addr (M t)) = some ⟨.envelope t h⟩)
    (hnone : rA'.handlers.getMut (typedKey addr (M t)) = none)
    (hpeer : rB.handlers.getMut (typedKey addr (M t)) = some ⟨.envelope t h⟩)
    (hraw : fromEnvelopeAddr (M t) caller msg (typedKey addr (M t)) false = .ok raw)
    (hids : (callIds (pre ++ .call draw raw k :: post)).Nodup)
    (hsinks : (callSinks (pre ++ .call draw raw k :: post)).Nodup)
    (hstop : ((Link.new (.new ciA hA) (.new ciB (localRouterHandler rB))).runDrained u display
      (pre ++ .call draw raw k :: post)).1.b.stopped = false)
    (hremote : remote' raw = .ok (fetchResponse (deliveries k
      ((Link.new (.new ciA hA) (.new ciB (localRouterHandler rB))).runDrained u display
        (pre ++ .call draw raw k :: post)).2))) (y : (M t).Reply) :
    (rA.forward remote addr t caller msg = .ok y ↔ h caller msg = .ok y) ∧
      (rA'.forward remote' addr t caller msg = .ok y ↔ h caller msg = .ok y) := by
  refine ⟨?_, ?_⟩
  · rw [Router.forward_local rA remote hlocal]
    cases h caller msg <;> simp [Except.mapError]
  · obtain ⟨body, hb, hf⟩ := hinv msg
    have hraw' := hraw
    simp only [fromEnvelopeAddr, hb, Except.map, Except.ok.injEq] at hraw'
    subst hraw'
    have hd := @Link.new_runDrained_call u display ciA ciB hA (localRouterHandler rB) pre post
      (.call draw ⟨caller, typedKey addr (M t), body, false⟩ k)
      ⟨requestIdOf draw, caller, typedKey addr (M t), body, false⟩ k _ rfl rfl
      (localRouterHandler_envelope hpeer _ _ _) hids hsinks hstop
    rw [Router.forward_remote rA' hnone hraw hremote, hd]
    exact replyOfBytes_fetchResponse_envelope display hf hrep hne y

/-- The remote path of `streaming_forward`: with no slot at the address, the request crosses the
link to a peer whose router holds a streaming handler `h` at the same key. On a run completed
by the drain with the peer still running, when the remote router's channel holds what the
call's sink got, the typed stream is `h`'s items and then, when `h`'s call failed, its error
as a `GsbFailure`. -/
theorem remote_stream_keeps_failure (u : Utf8) (display : Error → String) (rA rB : Router M)
    (remote : RemoteStreamCall) (addr : String) (t : τ) (h : StreamCallRecipient (M t))
    (msg : (M t).Msg) (ciA ciB : ClientInfo) (hA : CallRequestHandler)
    (pre post : List LinkEvent) (draw : UInt64) (k : Sink) (body : Bytes)
    (hinv : (M t).msgCodec.Inverts) (hrep : (M t).replyCodec.Inverts)
    (hnone : rA.handlers.getMut (typedKey addr (M t)) = none)
    (hpeer : rB.handlers.getMut (typedKey addr (M t)) = some ⟨.streamCall t h⟩)
    (hbody : (M t).msgCodec.toVec msg = .ok body)
    (hids : (callIds (pre ++ .streamCall draw "local" (typedKey addr (M t)) body k :: post)).Nodup)
    (hsinks :
      (callSinks (pre ++ .streamCall draw "local" (typedKey addr (M t)) body k :: post)).Nodup)
    (hstop : ((Link.new (.new ciA hA) (.new ciB (localRouterHandler rB))).runDrained u display
      (pre ++ .streamCall draw "local" (typedKey addr (M t)) body k :: post)).1.b.stopped = false)
    (hremote : (remote "local" (typedKey addr (M t)) body).1 = deliveries k
      ((Link.new (.new ciA hA) (.new ciB (localRouterHandler rB))).runDrained u display
        (pre ++ .streamCall draw "local" (typedKey addr (M t)) body k :: post)).2) :
    rA.streamingForward remote addr t msg =
      .ok ((h "local" (typedKey addr (M t)) msg).1.map .ok ++
        (Endpoint.callError (typedKey addr (M t)) (h "local" (typedKey addr (M t)) msg).2).toList.map
          fun e => .error (.gsbFailure (display e))) := by
  obtain ⟨b, hb, hf⟩ := hinv msg
  rw [hbody, Except.ok.injEq] at hb
  subst hb
  have hd := @Link.new_runDrained_call u display ciA ciB hA (localRouterHandler rB) pre post
    (.streamCall draw "local" (typedKey addr (M t)) body k)
    ⟨requestIdOf draw, "local", typedKey addr (M t), body, false⟩ k _ rfl rfl
    (localRouterHandler_streamCall hpeer hf _ _) hids hsinks hstop
  simp only [Router.streamingForward, hnone, hbody, unwrap_ok]
  change Except.ok (decodeChunks _ (remote _ _ body).1) = _
  rw [hremote, hd, decodeChunks_clientView_items display hrep]
  cases Endpoint.callError (typedKey addr (M t)) (h "local" (typedKey addr (M t)) msg).2 <;>
    simp [clientView, decodeChunks, ResponseChunk.isEos]

theorem remote_stream_ends_with_its_failure :
    let M := fun _ : Unit => MessageType.byte "B"
    (Router.new : Router M).streamingForward
        (fun _ _ _ => ([.ok (.part [3]), .error (.gsbFailure "boom")], .ok ())) "/s" ()
        (7 : UInt8) =
      .ok [.ok (3 : UInt8), .error (.gsbFailure "boom")] := by
  intro M
  let h : StreamCallRecipient (M ()) :=
    fun _ _ _ => ([(3 : UInt8)], .ok (.error (.gsbFailure "boom")))
  exact remote_stream_keeps_failure Utf8.wide (fun _ => "boom") Router.new
    ((Router.new : Router M).bindStream "/s" () h).1 _ "/s" () h (7 : UInt8) ⟨"", none, []⟩
    ⟨"", none, []⟩ ⟨fun _ _ _ _ _ => .ok []⟩ [] [.relayRequest, .serve 0] 5 3 [7]
    Codec.byte_inverts Codec.byte_inverts rfl (PrefixLookupBag.getMut_insert_self _ _ _) rfl
    (by decide) (by decide) (by decide) (by decide)

theorem echo_handler_agrees_across_link :
    let M := fun _ : Unit => MessageType.byte "B"
    let h : EnvelopeRecipient (M ()) := fun _ x => .ok x
    let r := ((Router.new : Router M).bind "/s" () h).1
    (r.forward (fun _ => .ok (.ok [])) "/s" () "me" (7 : UInt8) = .ok (7 : UInt8) ↔
        h "me" (7 : UInt8) = .ok (7 : UInt8)) ∧
      ((Router.new : Router M).forward (fun _ => .ok (.ok [7])) "/s" () "me" (7 : UInt8) =
        .ok (7 : UInt8) ↔ h "me" (7 : UInt8) = .ok (7 : UInt8)) := by
  intro M h r
  exact forward_paths_agree Utf8.wide (fun _ => "") r Router.new r (fun _ => .ok (.ok []))
    (fun _ => .ok (.ok [7])) "/s" () h "me" (7 : UInt8) ⟨"", none, []⟩ ⟨"", none, []⟩
    ⟨fun _ _ _ _ _ => .ok []⟩ [] [.relayRequest] 5 3
    ⟨"me", typedKey "/s" (M ()), [7], false⟩ Codec.byte_inverts Codec.byte_inverts
    Codec.byte_nonEmpty (PrefixLookupBag.getMut_insert_self _ _ _) rfl
    (PrefixLookupBag.getMut_insert_self _ _ _) rfl (by decide) (by decide) (by decide)
    (by decide) (7 : UInt8)

end YaServiceBus
