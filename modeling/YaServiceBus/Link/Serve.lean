import YaServiceBus.Link.Pipeline

/-! The serving side of a connection on its own. Whatever else the actor handles meanwhile (its
own calls and commands, other requests and their futures, control frames), the reply frames
it writes for a request are, in order, a prefix of the fold `handle_call_request` makes of the
handler's stream: only the request's own future writes them, and one step of it writes the
next frame of the fold. They are all of it once the future is done. -/
namespace YaServiceBus

/-- Whether an event is the request for `r` wanting replies, the one that spawns its future. -/
def Event.serves (r : String) : Event → Bool
  | .inbound (.ok m) => (m.requestFor r).isSome
  | _ => false

namespace Connection

/-- The reply frames for `r` a run writes, in order. -/
def repliesFor (u : Utf8) (display : Error → String) (r : String) (c : Connection)
    (es : List Event) : List CallReply :=
  (written (c.run u display es).2).filterMap (GsbMessage.replyFor r)

variable {u : Utf8} {display : Error → String} {c : Connection}

@[simp] theorem setQueue_handler (k : CmdKind) (q : List Waiter) :
    (c.setQueue k q).handler = c.handler := by cases k <;> rfl

theorem handleReply_tasks (K : CmdKind) (r : Except Error Unit) :
    (c.handleReply K r).1.tasks = c.tasks ∧ (c.handleReply K r).1.handler = c.handler ∧
      written (c.handleReply K r).2 = [] := by
  rw [handleReply_eq]; split <;> simp [stop]

/-- The frame handler spawns a future only for a request wanting replies, keeps the handler,
and writes nothing but a pong. -/
theorem handleFrame_tasks (item : Except ProtocolError GsbMessage) :
    (∃ new, (c.handleFrame u item).1.tasks = c.tasks ++ new ∧
      ∀ t ∈ new, (Event.inbound item).serves t.requestId = true) ∧
    (c.handleFrame u item).1.handler = c.handler ∧
    ∀ m ∈ written (c.handleFrame u item).2, m = .pong := by
  have keep : ∀ {d : Connection × List Effect}, d.1.tasks = c.tasks → ∃ new,
      d.1.tasks = c.tasks ++ new ∧ ∀ t ∈ new, (Event.inbound item).serves t.requestId = true :=
    fun h => ⟨[], by rw [h, List.append_nil], nofun⟩
  rcases item with _ | m
  · exact ⟨keep rfl, rfl, by simp [handleFrame, stop]⟩
  cases hm : m.cmdReply with
  | some p =>
    obtain ⟨K, o⟩ := p
    rw [handleFrame_cmdReply hm]
    cases o with
    | none => exact ⟨keep rfl, rfl, by simp [stop]⟩
    | some r =>
      obtain ⟨h1, h2, h3⟩ := @handleReply_tasks c K r
      exact ⟨keep h1, h2, by simp [Option.elim, h3]⟩
  | none =>
    cases m with
    | callRequest q =>
      simp only [handleFrame, handleCallRequest, handlePushRequest]
      cases hn : q.noReply
      · simp only [Bool.false_eq_true, if_false]
        split
        · exact ⟨⟨_, rfl, by simp [Event.serves, GsbMessage.requestFor, hn]⟩, rfl, nofun⟩
        · exact ⟨keep rfl, rfl, by simp⟩
      · simp only [if_true]
        split <;> exact ⟨keep rfl, rfl, by simp⟩
    | callReply f =>
      simp only [handleFrame]
      cases hr : c.handleCallReply u f.requestId f.code f.replyType f.data with
      | none => exact ⟨keep rfl, rfl, by simp [stop]⟩
      | some res =>
        obtain ⟨h1, h2⟩ := handleCallReply_spec hr
        refine ⟨keep (by rw [h1]), by rw [h1], ?_⟩
        rw [h2]; split <;> simp
    | hello _ => simp only [handleFrame]; split <;> exact ⟨keep rfl, rfl, by simp [stop]⟩
    | ping => exact ⟨keep rfl, rfl, by simp [handleFrame]⟩
    | broadcastRequest => exact ⟨keep rfl, rfl, by simp [handleFrame]⟩
    | _ =>
      first
        | (simp [GsbMessage.cmdReply] at hm; done)
        | exact ⟨keep rfl, rfl, by simp [handleFrame, stop]⟩

theorem handle_handler (e : Event) : (c.handle u display e).1.handler = c.handler := by
  cases hc : c.stopped
  swap
  · simp [handle_of_stopped e hc]
  cases e with
  | inbound item => rw [handle_inbound hc]; exact (handleFrame_tasks item).2.1
  | callTask i => rw [handle_callTask hc]; exact stepTask_handler i
  | rawCall draw msg k => cases hn : msg.noReply <;> simp [handle, hc, handleRawCall, hn]
  | _ => simp [handle, hc, handleRawStreamCall, handleBind, handleUnbind, handleSubscribe,
      handleUnsubscribe, handleBcastCall, sendCmdAsync, stop]

theorem run_handler (es : List Event) : (c.run u display es).1.handler = c.handler := by
  induction es generalizing c with
  | nil => rfl
  | cons e es ih => simp [ih, handle_handler]

/-- Only the call futures write reply frames, and only a request wanting replies spawns one. -/
theorem handle_of_ne_callTask {e : Event} (hne : ∀ i, e ≠ .callTask i) :
    (∃ new, (c.handle u display e).1.tasks = c.tasks ++ new ∧
      ∀ t ∈ new, e.serves t.requestId = true) ∧
    ∀ m ∈ written (c.handle u display e).2, ∀ f, m ≠ .callReply f := by
  cases hc : c.stopped
  swap
  · simp only [handle_of_stopped e hc]; exact ⟨⟨[], (List.append_nil _).symm, nofun⟩, nofun⟩
  cases e with
  | inbound item =>
    rw [handle_inbound hc]
    obtain ⟨h1, -, h3⟩ := handleFrame_tasks (u := u) (c := c) item
    exact ⟨h1, fun m hm f => by rw [h3 m hm]; nofun⟩
  | callTask i => exact absurd rfl (hne i)
  | rawCall draw msg k =>
    refine ⟨⟨[], ?_, nofun⟩, ?_⟩ <;> cases hn : msg.noReply <;>
      simp [handle, hc, handleRawCall, hn]
  | _ =>
    refine ⟨⟨[], ?_, nofun⟩, ?_⟩ <;> simp [handle, hc, handleRawStreamCall, handleBind,
      handleUnbind, handleSubscribe, handleUnsubscribe, handleBcastCall, sendCmdAsync, stop]

theorem written_append (a b : List Effect) : written (a ++ b) = written a ++ written b :=
  List.filterMap_append _ _ _

theorem repliesFor_cons (r : String) (e : Event) (es : List Event) :
    c.repliesFor u display r (e :: es) =
      (written (c.handle u display e).2).filterMap (GsbMessage.replyFor r) ++
        (c.handle u display e).1.repliesFor u display r es := by
  simp only [repliesFor, run_cons, written_append, List.filterMap_append]

theorem repliesFor_append (r : String) (es es' : List Event) :
    c.repliesFor u display r (es ++ es') =
      c.repliesFor u display r es ++ (c.run u display es).1.repliesFor u display r es' := by
  simp only [repliesFor, run_append, written_append, List.filterMap_append]

/-- One step of the connection, when at most one future serves `r` and the step is not the
request for `r`: the frames for `r` it writes are the next ones its futures had still to
write, and no future for `r` appears. -/
theorem handle_framesFor {r : String} {e : Event} (hr : c.tasks.countP (·.requestId = r) ≤ 1)
    (he : e.serves r = false) :
    (written (c.handle u display e).2).filterMap (GsbMessage.replyFor r) ++
        (c.handle u display e).1.tasks.flatMap (CallTask.framesFor u display r) =
      c.tasks.flatMap (CallTask.framesFor u display r) ∧
      (c.handle u display e).1.tasks.countP (·.requestId = r) ≤
        c.tasks.countP (·.requestId = r) := by
  by_cases hne : ∀ i, e ≠ .callTask i
  · obtain ⟨⟨new, hT, hnew⟩, hW⟩ := @handle_of_ne_callTask u display c e hne
    have h0 : new.countP (·.requestId = r) = 0 :=
      List.countP_eq_zero.2 fun t ht h => by simp [← of_decide_eq_true h, hnew t ht] at he
    have hW' : (written (c.handle u display e).2).filterMap (GsbMessage.replyFor r) = [] :=
      List.filterMap_eq_nil_iff.2 fun m hm => by
        cases m <;> first | rfl | exact absurd rfl (hW _ hm _)
    rw [hW', hT, List.flatMap_append, flatMap_framesFor_of_countP h0, List.countP_append, h0]
    exact ⟨List.append_nil _, le_refl _⟩
  · push_neg at hne
    obtain ⟨i, rfl⟩ := hne
    cases hc : c.stopped
    · rw [handle_callTask hc]
      exact @stepTask_framesFor u display c r i hr
    · simp [handle_of_stopped _ hc]

/-- A run before the request for `r`: nothing is written for `r` and no future for it
appears. -/
theorem run_unserved {r : String} {es : List Event} (h0 : c.tasks.countP (·.requestId = r) = 0)
    (hes : ∀ e ∈ es, e.serves r = false) :
    c.repliesFor u display r es = [] ∧
      (c.run u display es).1.tasks.countP (·.requestId = r) = 0 := by
  induction es generalizing c with
  | nil => exact ⟨rfl, h0⟩
  | cons e es ih =>
    obtain ⟨hd, hn⟩ := @handle_framesFor u display c r e (by omega) (hes e (.head _))
    rw [flatMap_framesFor_of_countP h0, List.append_eq_nil] at hd
    obtain ⟨ih1, ih2⟩ := @ih (c.handle u display e).1 (by omega) fun e' he' => hes e' (.tail _ he')
    exact ⟨by rw [repliesFor_cons, hd.1, ih1]; rfl, ih2⟩

/-- A run after the request for `r`: the frames written for `r`, followed by those the futures
have still to write, are those the futures had to write. -/
theorem run_serving {r : String} {es : List Event} (hr : c.tasks.countP (·.requestId = r) ≤ 1)
    (hes : ∀ e ∈ es, e.serves r = false) :
    c.repliesFor u display r es ++ (c.run u display es).1.tasks.flatMap (CallTask.framesFor u display r) =
      c.tasks.flatMap (CallTask.framesFor u display r) := by
  induction es generalizing c with
  | nil => rfl
  | cons e es ih =>
    obtain ⟨hd, hn⟩ := @handle_framesFor u display c r e hr (hes e (.head _))
    rw [repliesFor_cons, List.append_assoc, run_cons,
      ih (hn.trans hr) fun e' he' => hes e' (.tail _ he'), hd]

/-- The request for `r`, to a connection with no future for it: a running connection spawns
the future that is to write the fold of the handler's stream; a stopped one does nothing. -/
theorem handle_request_framesFor {q : CallRequest}
    {s : List (Except Error ResponseChunk)} (hq : q.noReply = false)
    (hs : c.handler.doCall q.requestId q.caller q.address q.data false = .ok s)
    (h0 : c.tasks.countP (·.requestId = q.requestId) = 0) :
    (c.handle u display (.inbound (.ok (.callRequest q)))).1.tasks.flatMap
        (CallTask.framesFor u display q.requestId) =
      (if c.stopped then [] else serveFrames u display q.requestId s false) ∧
    (c.handle u display (.inbound (.ok (.callRequest q)))).1.tasks.countP
      (·.requestId = q.requestId) ≤ 1 := by
  cases hc : c.stopped
  · rw [handle_inbound hc]
    simp [handleFrame, hq, handleCallRequest, hs, flatMap_framesFor_of_countP h0, h0,
      CallTask.framesFor]
  · simp [handle_of_stopped _ hc, flatMap_framesFor_of_countP h0, h0]

variable (u display)

/-- The serving side of a connection, over any run: whatever else it handles meanwhile, the
reply frames it writes for a request are, in order, a prefix of the fold of
`handle_call_request` over the handler's stream for it, and all of it once the request's
future is done. -/
theorem served_frames_follow_stream (c : Connection) (pre post : List Event) (q : CallRequest)
    (s : List (Except Error ResponseChunk)) (hq : q.noReply = false)
    (hs : c.handler.doCall q.requestId q.caller q.address q.data false = .ok s)
    (hfresh : ∀ t ∈ c.tasks, t.requestId ≠ q.requestId)
    (honce : ∀ e ∈ pre ++ post, e.serves q.requestId = false) :
    c.repliesFor u display q.requestId (pre ++ .inbound (.ok (.callRequest q)) :: post) <+:
        serveFrames u display q.requestId s false ∧
      ((c.run u display (pre ++ .inbound (.ok (.callRequest q)) :: post)).1.stopped = false →
        (∀ t ∈ (c.run u display (pre ++ .inbound (.ok (.callRequest q)) :: post)).1.tasks,
          t.requestId ≠ q.requestId) →
        c.repliesFor u display q.requestId (pre ++ .inbound (.ok (.callRequest q)) :: post) =
          serveFrames u display q.requestId s false) := by
  have h0 : c.tasks.countP (·.requestId = q.requestId) = 0 :=
    List.countP_eq_zero.2 fun t ht h => hfresh t ht (of_decide_eq_true h)
  obtain ⟨hW1, h1⟩ := @run_unserved u display c q.requestId pre h0
    fun e he => honce e (List.mem_append_left _ he)
  have hs1 := (@run_handler u display c pre).symm ▸ hs
  obtain ⟨hF, hn⟩ := @handle_request_framesFor u display _ q s hq hs1 h1
  have hd := @run_serving u display _ _ _ hn fun e he => honce e (List.mem_append_right _ he)
  have hstop := @stopped_of_run_append u display c pre (.inbound (.ok (.callRequest q)) :: post)
  have hout : c.repliesFor u display q.requestId (pre ++ .inbound (.ok (.callRequest q)) :: post) =
      ((c.run u display pre).1.handle u display (.inbound (.ok (.callRequest q)))).1.repliesFor
        u display q.requestId post := by
    rw [repliesFor_append, hW1, repliesFor_cons, written_handle_callRequest]; rfl
  simp only [hout, run_append, run_cons] at hstop ⊢
  rw [hF] at hd
  cases hc : (c.run u display pre).1.stopped
  · rw [hc, if_neg Bool.false_ne_true] at hd
    refine ⟨hd ▸ List.prefix_append _ _, fun _ hT => ?_⟩
    rw [← hd, flatMap_framesFor_of_countP (List.countP_eq_zero.2 fun t ht h =>
      hT t ht (of_decide_eq_true h)), List.append_nil]
  · rw [hc, if_pos rfl, List.append_eq_nil] at hd
    exact ⟨by simp [hd.1], fun hst => absurd (hstop hst) (by simp [hc])⟩

end Connection

theorem interleaved_serving_writes_the_fold :
    let c := Connection.new ⟨"", none, []⟩
      ⟨fun _ _ _ _ _ => .ok [.ok (.part [1]), .ok (.full [2])]⟩
    let pre := [Event.inbound (.ok .ping)]
    let post := [Event.callTask 0, .bind "/x" 3, .callTask 0, .callTask 0]
    let q : CallRequest := ⟨"7", "", "/a", [], false⟩
    c.repliesFor Utf8.wide (fun _ => "") "7" (pre ++ .inbound (.ok (.callRequest q)) :: post) <+:
        serveFrames Utf8.wide (fun _ => "") "7" [.ok (.part [1]), .ok (.full [2])] false ∧
      ((c.run Utf8.wide (fun _ => "") (pre ++ .inbound (.ok (.callRequest q)) :: post)).1.stopped = false →
        (∀ t ∈ (c.run Utf8.wide (fun _ => "") (pre ++ .inbound (.ok (.callRequest q)) :: post)).1.tasks,
          t.requestId ≠ "7") →
        c.repliesFor Utf8.wide (fun _ => "") "7" (pre ++ .inbound (.ok (.callRequest q)) :: post) =
          serveFrames Utf8.wide (fun _ => "") "7" [.ok (.part [1]), .ok (.full [2])] false) := by
  exact Connection.served_frames_follow_stream Utf8.wide (fun _ => "")
    (.new ⟨"", none, []⟩ ⟨fun _ _ _ _ _ => .ok [.ok (.part [1]), .ok (.full [2])]⟩)
    [Event.inbound (.ok .ping)] [Event.callTask 0, .bind "/x" 3, .callTask 0, .callTask 0]
    ⟨"7", "", "/a", [], false⟩ _ rfl rfl nofun (by decide)

namespace Connection

variable (u display)

/-- A request with `no_reply` gets no reply: over any run, from a connection with no future
for its id, as long as no request for the id wants replies, no reply frame for it is
written, whatever its handler's stream. -/
theorem push_request_gets_no_reply (c : Connection) (es : List Event) (r : String)
    (hfresh : ∀ t ∈ c.tasks, t.requestId ≠ r)
    (hpush : ∀ e ∈ es, ∀ q, e = .inbound (.ok (.callRequest q)) → q.requestId = r →
      q.noReply = true) :
    c.repliesFor u display r es = [] := by
  refine (run_unserved (List.countP_eq_zero.2 fun t ht h => hfresh t ht (of_decide_eq_true h))
    fun e he => ?_).1
  cases e with
  | inbound item =>
    rcases item with _ | m
    · rfl
    cases m with
    | callRequest q =>
      have hq := hpush _ he q rfl
      show (if q.requestId = r ∧ q.noReply = false then some q else none).isSome = false
      rw [if_neg fun h => absurd ((hq h.1).symm.trans h.2) Bool.noConfusion]
      rfl
    | _ => rfl
  | _ => rfl

end Connection

theorem push_of_streaming_handler_writes_nothing :
    let c := Connection.new ⟨"", none, []⟩
      ⟨fun _ _ _ _ _ => .ok [.ok (.part [1]), .ok (.full [2])]⟩
    let es := [Event.inbound (.ok (.callRequest ⟨"7", "", "/a", [], true⟩)),
      .callTask 0, .inbound (.ok .ping), .callTask 0]
    (∀ t ∈ c.tasks, t.requestId ≠ "7") ∧
    (∀ e ∈ es, ∀ q, e = .inbound (.ok (.callRequest q)) → q.requestId = "7" →
      q.noReply = true) ∧
    c.repliesFor Utf8.wide (fun _ => "") "7" es = [] := by
  intro c es
  have hfresh : ∀ t ∈ c.tasks, t.requestId ≠ "7" := nofun
  have hpush : ∀ e ∈ es, ∀ q, e = .inbound (.ok (.callRequest q)) →
      q.requestId = "7" → q.noReply = true := by
    simp only [es, List.mem_cons, List.mem_singleton, List.not_mem_nil, or_false]
    rintro e (rfl | rfl | rfl | rfl) q he <;> cases he
    exact fun _ => rfl
  exact ⟨hfresh, hpush, Connection.push_request_gets_no_reply _ _ c es "7" hfresh hpush⟩

end YaServiceBus
