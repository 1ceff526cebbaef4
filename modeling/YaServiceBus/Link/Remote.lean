import YaServiceBus.Link.Drain

/-! A remote call from end to end. Two connections are joined, `a` makes calls with distinct
ids and sinks, and the broker and `b`'s futures move in any interleaving: the sink of each call
gets, in order, items from the front of `clientView` of the stream `b`'s handler makes for it,
and all of it once the drain has emptied the link. -/
namespace YaServiceBus

/-- Events that make no call under `r` and register no sink `k`. -/
theorem LinkEvent.other_of_not_mem {es : List LinkEvent} {r : String} {k : Sink}
    (hr : r ∉ callIds es) (hk : k ∉ callSinks es) : ∀ e ∈ es, e.Other r k := by
  intro e he
  refine ⟨fun q hq h => hr ?_, fun p hp h => hk ?_⟩
  · simp only [callIds, List.mem_filterMap]
    exact ⟨e, he, by simp [Option.mem_def.1 hq, h]⟩
  · simp only [callSinks, List.mem_filterMap]
    exact ⟨e, he, by simp [Option.mem_def.1 hp, h]⟩

/-- With distinct ids and sinks, the events around a call are other events to it. -/
theorem LinkEvent.other_of_nodup {pre post : List LinkEvent} {e : LinkEvent} {q : CallRequest}
    {k : Sink} (hq : e.request = some q) (hk : e.registers = some (q.requestId, k))
    (hids : (callIds (pre ++ e :: post)).Nodup) (hsinks : (callSinks (pre ++ e :: post)).Nodup) :
    (∀ e' ∈ pre, e'.Other q.requestId k) ∧ ∀ e' ∈ post, e'.Other q.requestId k := by
  simp only [callIds, callSinks, List.filterMap_append, List.filterMap_cons, hq, hk,
    Option.map_some', List.nodup_append, List.nodup_cons, List.disjoint_cons_right] at hids hsinks
  exact ⟨other_of_not_mem hids.2.2.1 hsinks.2.2.1, other_of_not_mem hids.2.1.1 hsinks.2.1.1⟩

namespace Link

variable {u : Utf8} {display : Error → String}

theorem new_good {a b : Connection} (ha : a.stopped = false) : (Link.new a b).Good u :=
  ⟨by simp [Link.new], by simp [Link.new], ha⟩

theorem new_fresh (ciA : ClientInfo) (hA : CallRequestHandler) {b : Connection}
    (hb : b.tasks = []) (r : String) (k : Sink) :
    (Link.new (.new ciA hA) b).Fresh u display r k :=
  ⟨by simp [Link.new, Connection.new], rfl, by simp [pending, Link.new, hb],
    by simp [tokens, Link.new, hb]⟩

/-- The calling side of the link never stops, whatever the peer's handler and the
interleaving: every frame the peer writes is one it can read. -/
theorem new_run_a_running (ciA : ClientInfo) (hA : CallRequestHandler) (b : Connection)
    (es : List LinkEvent) : ((Link.new (.new ciA hA) b).run u display es).1.a.stopped = false :=
  (run_good (new_good rfl) es).running

/-- A whole run around a call: what its sink gets, followed by what it has still to receive,
is `clientView` of the stream the handler makes of its request. -/
theorem run_call {L : Link} (hL : L.Good u) {pre post : List LinkEvent} {e : LinkEvent}
    {q : CallRequest} {k : Sink} {s : List (Except Error ResponseChunk)}
    (hF : L.Fresh u display q.requestId k) (hq : e.request = some q)
    (hk : e.registers = some (q.requestId, k))
    (hs : L.b.handler.doCall q.requestId q.caller q.address q.data false = .ok s)
    (hpre : ∀ e' ∈ pre, e'.Other q.requestId k) (hpost : ∀ e' ∈ post, e'.Other q.requestId k)
    (hrun : (L.run u display (pre ++ e :: post)).1.b.stopped = false) :
    deliveries k (L.run u display (pre ++ e :: post)).2 ++
        (L.run u display (pre ++ e :: post)).1.remaining u display q.requestId k =
      clientView display s := by
  rw [run_append] at hrun ⊢
  simp only [run_cons] at hrun ⊢
  obtain ⟨hd1, hF1, hG1, hh1⟩ :=
    run_fresh hL hF hpre (b_stopped_of_step (b_stopped_of_run hrun))
  obtain ⟨hd2, hr2, hH2⟩ := step_register hG1 hF1 hq hk (hh1 ▸ hs)
  simp only [deliveries_append, hd1, hd2, List.nil_append, List.append_assoc]
  rw [run_holds (step_good hG1 e) hH2 hpost hrun, hr2]

/-- A run of two connections just joined, around a call with an id and a sink of its own:
what the sink gets, followed by what it has still to receive, is `clientView` of the stream
`b`'s handler makes of the request. -/
theorem new_run_call {ciA ciB : ClientInfo} {hA hB : CallRequestHandler}
    {pre post : List LinkEvent} {e : LinkEvent} {q : CallRequest} {k : Sink}
    {s : List (Except Error ResponseChunk)} (hq : e.request = some q)
    (hk : e.registers = some (q.requestId, k))
    (hs : hB.doCall q.requestId q.caller q.address q.data false = .ok s)
    (hids : (callIds (pre ++ e :: post)).Nodup) (hsinks : (callSinks (pre ++ e :: post)).Nodup)
    (hrun : ((Link.new (.new ciA hA) (.new ciB hB)).run u display
      (pre ++ e :: post)).1.b.stopped = false) :
    deliveries k ((Link.new (.new ciA hA) (.new ciB hB)).run u display (pre ++ e :: post)).2 ++
        ((Link.new (.new ciA hA) (.new ciB hB)).run u display
          (pre ++ e :: post)).1.remaining u display q.requestId k =
      clientView display s := by
  obtain ⟨hpre, hpost⟩ := LinkEvent.other_of_nodup hq hk hids hsinks
  exact run_call (new_good rfl) (@new_fresh u display ciA hA (.new ciB hB) rfl q.requestId k) hq hk
    hs hpre hpost hrun

/-- A run of two connections just joined, around a call with an id and a sink of its own,
followed by the drain: with `b` still running, the sink has got all of `clientView` of the
stream `b`'s handler makes of the request. -/
theorem new_runDrained_call {ciA ciB : ClientInfo} {hA hB : CallRequestHandler}
    {pre post : List LinkEvent} {e : LinkEvent} {q : CallRequest} {k : Sink}
    {s : List (Except Error ResponseChunk)} (hq : e.request = some q)
    (hk : e.registers = some (q.requestId, k))
    (hs : hB.doCall q.requestId q.caller q.address q.data false = .ok s)
    (hids : (callIds (pre ++ e :: post)).Nodup) (hsinks : (callSinks (pre ++ e :: post)).Nodup)
    (hd : ((Link.new (.new ciA hA) (.new ciB hB)).runDrained u display
      (pre ++ e :: post)).1.b.stopped = false) :
    deliveries k ((Link.new (.new ciA hA) (.new ciB hB)).runDrained u display
      (pre ++ e :: post)).2 = clientView display s := by
  obtain ⟨hpre, hpost⟩ := LinkEvent.other_of_nodup hq hk hids hsinks
  have hd' := hd
  rw [runDrained, run_append] at hd'
  have hQ := drain_quiet (run_good (@new_good u _ _ rfl) (pre ++ e :: post)) hd'
  have hsplit : ∀ d : List LinkEvent, pre ++ e :: post ++ d = pre ++ e :: (post ++ d) := by simp
  have h := run_call (new_good rfl) (@new_fresh u display ciA hA (.new ciB hB) rfl q.requestId k)
    hq hk hs hpre (fun e' he' => (List.mem_append.1 he').elim (hpost e') (drain_other _ e'))
    (by rw [← hsplit]; exact hd)
  rw [← hsplit, run_append, remaining_of_quiet hQ.toA hQ.tasks hQ.toB, List.append_nil] at h
  rw [runDrained, run_append]
  exact h

end Link

/-- Two connections just joined: `a` makes calls with distinct ids and sinks, and the broker
relays frames and `b`'s futures step in any interleaving. For the call `e`, whose request
`b`'s handler answers with the stream `s`, the sink gets a prefix of `clientView display s` for
as long as `b` runs; and the drain, which hands on every frame in flight and runs `b`'s futures
to their end, gives it all of it, unless `b` stopped meanwhile. -/
theorem remote_call_reproduces_stream (u : Utf8) (display : Error → String)
    (ciA ciB : ClientInfo) (hA hB : CallRequestHandler) (pre post : List LinkEvent)
    (e : LinkEvent) (q : CallRequest) (k : Sink) (s : List (Except Error ResponseChunk))
    (hq : e.request = some q) (hk : e.registers = some (q.requestId, k))
    (hs : hB.doCall q.requestId q.caller q.address q.data false = .ok s)
    (hids : (callIds (pre ++ e :: post)).Nodup) (hsinks : (callSinks (pre ++ e :: post)).Nodup)
    (hrun : ((Link.new (.new ciA hA) (.new ciB hB)).run u display
      (pre ++ e :: post)).1.b.stopped = false) :
    deliveries k ((Link.new (.new ciA hA) (.new ciB hB)).run u display (pre ++ e :: post)).2 <+:
        clientView display s ∧
      (((Link.new (.new ciA hA) (.new ciB hB)).runDrained u display
          (pre ++ e :: post)).1.b.stopped = false →
        deliveries k ((Link.new (.new ciA hA) (.new ciB hB)).runDrained u display
          (pre ++ e :: post)).2 = clientView display s) :=
  ⟨⟨_, Link.new_run_call hq hk hs hids hsinks hrun⟩,
    Link.new_runDrained_call hq hk hs hids hsinks⟩

theorem interleaved_calls_get_their_streams :
    let hB : CallRequestHandler := ⟨fun _ _ _ _ _ => .ok [.ok (.part [1]), .ok (.full [2])]⟩
    let L := Link.new (.new ⟨"", none, []⟩ ⟨fun _ _ _ _ _ => .ok []⟩) (.new ⟨"", none, []⟩ hB)
    let pre := [LinkEvent.streamCall 9 "" "/b" [] 8]
    let e := LinkEvent.streamCall 5 "" "/a" [] 7
    let post := [LinkEvent.relayRequest, .relayRequest, .serve 1, .serve 0, .relayReply]
    deliveries 7 (L.run Utf8.wide (fun _ => "") (pre ++ e :: post)).2 <+:
        clientView (fun _ => "") [.ok (.part [1]), .ok (.full [2])] ∧
      deliveries 7 (L.runDrained Utf8.wide (fun _ => "") (pre ++ e :: post)).2 =
        clientView (fun _ => "") [.ok (.part [1]), .ok (.full [2])] := by
  intro hB L pre e post
  have h := remote_call_reproduces_stream Utf8.wide (fun _ => "") ⟨"", none, []⟩ ⟨"", none, []⟩
    ⟨fun _ _ _ _ _ => .ok []⟩ hB pre post e ⟨requestIdOf 5, "", "/a", [], false⟩ 7 _ rfl rfl rfl
    (by decide) (by decide) (by decide)
  exact ⟨h.1, h.2 (by decide)⟩

/-- The future of a unary call reads only the first item of its channel. -/
theorem fetchResponse_append {l : List (Except Error ResponseChunk)} (hl : l ≠ [])
    (l' : List (Except Error ResponseChunk)) : fetchResponse (l ++ l') = fetchResponse l := by
  obtain ⟨x, xs, rfl⟩ := List.exists_cons_of_ne_nil hl
  rcases x with e | d | d <;> rfl

/-- A unary `RpcRawCall` of `a` across the link, with the peer still running and the call's
channel holding an item: the caller
gets `Ok d` when `b`'s handler first yields `Full d`, `Ok []` when it yields nothing, a
`GsbFailure` of the displayed error when it first yields an error (whatever its kind), and
`GsbFailure("streaming response")` when it first yields a part. -/
theorem remote_raw_call_returns_first_item (u : Utf8) (display : Error → String)
    (ciA ciB : ClientInfo) (hA hB : CallRequestHandler) (pre post : List LinkEvent)
    (draw : UInt64) (msg : RpcRawCall) (k : Sink) (s : List (Except Error ResponseChunk))
    (L : Link) (out : List Effect) (hn : msg.noReply = false)
    (hs : hB.doCall (requestIdOf draw) msg.caller msg.addr msg.body false = .ok s)
    (hids : (callIds (pre ++ .call draw msg k :: post)).Nodup)
    (hsinks : (callSinks (pre ++ .call draw msg k :: post)).Nodup)
    (hrun : (Link.new (.new ciA hA) (.new ciB hB)).run u display
      (pre ++ .call draw msg k :: post) = (L, out))
    (hstop : L.b.stopped = false) (hne : deliveries k out ≠ []) :
    fetchResponse (deliveries k out) = match s with
      | [] => .ok []
      | .ok (.full d) :: _ => .ok d
      | .ok (.part _) :: _ => .error (.gsbFailure "streaming response")
      | .error e :: _ => .error (.gsbFailure (display e)) := by
  have h := @Link.new_run_call u display ciA ciB hA hB pre post (.call draw msg k)
    ⟨requestIdOf draw, msg.caller, msg.addr, msg.body, msg.noReply⟩ k s rfl
    (by simp [LinkEvent.registers, hn]) (by simpa [hn] using hs) hids hsinks
    (by rw [hrun]; exact hstop)
  rw [hrun] at h
  rw [← fetchResponse_append hne, h]
  rcases s with _ | ⟨e | d | d, s⟩ <;> rfl

theorem bad_request_arrives_as_failure :
    let hB : CallRequestHandler := ⟨fun _ _ _ _ _ => .ok [.error (.gsbBadRequest "bad")]⟩
    let L := Link.new (.new ⟨"", none, []⟩ ⟨fun _ _ _ _ _ => .ok []⟩) (.new ⟨"", none, []⟩ hB)
    fetchResponse (deliveries 3 (L.run Utf8.wide (fun _ => "bad")
        [.call 5 ⟨"me", "/a", [], false⟩ 3, .relayRequest, .serve 0, .serve 0, .relayReply]).2) =
      .error (.gsbFailure "bad") := by
  exact remote_raw_call_returns_first_item Utf8.wide (fun _ => "bad") _ _ _
    ⟨fun _ _ _ _ _ => .ok [.error (.gsbBadRequest "bad")]⟩ []
    [.relayRequest, .serve 0, .serve 0, .relayReply] 5 ⟨"me", "/a", [], false⟩ 3 _ _ _ rfl rfl
    (by decide) (by decide) rfl (by decide) (by decide)

end YaServiceBus
