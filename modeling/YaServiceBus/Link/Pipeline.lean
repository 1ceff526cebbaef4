import YaServiceBus.Link.Basic

/-! The pipeline of one call across the link. Its reply frames are, at every moment, in flight
to `a`, still to be written by `b`'s future for it, or still to be made by `b`'s handler for a
request in flight to `b`; what the call's sink has received, followed by what `a` makes of
those frames, is always `clientView` of the handler's stream. Every step of the link
keeps this, whatever the interleaving of the calls, so at quiescence the sink has it all. -/
namespace YaServiceBus

/-- The reply frame for `r` a frame on the link is. -/
def GsbMessage.replyFor (r : String) : GsbMessage → Option CallReply
  | .callReply f => if f.requestId = r then some f else none
  | _ => none

/-- The request for `r`, with replies wanted, a frame on the link is. -/
def GsbMessage.requestFor (r : String) : GsbMessage → Option CallRequest
  | .callRequest q => if q.requestId = r ∧ q.noReply = false then some q else none
  | _ => none

/-- The reply frames a future of `b` has still to write for `r`. -/
def CallTask.framesFor (u : Utf8) (display : Error → String) (r : String) (t : CallTask) :
    List CallReply :=
  if t.requestId = r then serveFrames u display r t.rest t.gotEos else []

theorem List.eq_take_cons_drop {α : Type} {l : List α} {i : Nat} {a : α} (h : l[i]? = some a) :
    l = l.take i ++ a :: l.drop (i + 1) := by
  obtain ⟨hi, rfl⟩ := List.getElem?_eq_some_iff.1 h
  rw [← List.drop_eq_getElem_cons hi, List.take_append_drop]

namespace Connection

variable {u : Utf8} {display : Error → String} {c : Connection}

theorem handle_inbound (hc : c.stopped = false) (item : Except ProtocolError GsbMessage)
    : c.handle u display (.inbound item) = c.handleFrame u item := by
  simp [handle, hc]

theorem handle_callTask (hc : c.stopped = false) (i : Nat) :
    c.handle u display (.callTask i) = c.stepTask u display i := by
  simp [handle, hc]

/-- `b` handling a request: it writes nothing. -/
theorem written_handle_callRequest (q : CallRequest) :
    written (c.handle u display (.inbound (.ok (.callRequest q)))).2 = [] := by
  cases hc : c.stopped
  · rw [handle_inbound hc]
    simp only [handleFrame, handleCallRequest, handlePushRequest]
    split <;> split <;> rfl
  · simp [handle_of_stopped _ hc]

/-- `b` handling a request it wants replies for, and not stopping: the handler's stream
becomes a new future. -/
theorem handle_callRequest_tasks {q : CallRequest} (hq : q.noReply = false)
    (h : (c.handle u display (.inbound (.ok (.callRequest q)))).1.stopped = false) :
    ∃ s, c.handler.doCall q.requestId q.caller q.address q.data false = .ok s ∧
      (c.handle u display (.inbound (.ok (.callRequest q)))).1 =
        { c with tasks := c.tasks ++ [⟨q.requestId, s, false⟩] } := by
  have hc := stopped_of_handle h
  rw [handle_inbound hc] at h ⊢
  simp only [handleFrame, hq, Bool.false_eq_true, if_false, handleCallRequest] at h ⊢
  split at h
  · exact ⟨_, ‹_›, by simp [*]⟩
  · simp at h

/-- `b` handling a request it wants no reply for keeps its futures, or stops. -/
theorem handle_pushRequest_tasks {q : CallRequest} (hq : q.noReply = true) :
    (c.handle u display (.inbound (.ok (.callRequest q)))).1 = c ∨
      (c.handle u display (.inbound (.ok (.callRequest q)))).1.stopped = true := by
  cases hc : c.stopped
  · rw [handle_inbound hc]
    simp only [handleFrame, hq, if_true, handlePushRequest]
    split <;> simp
  · simp [handle_of_stopped _ hc]

theorem callReplyOf_requestId (r : String) (x : Except Error ResponseChunk) :
    (callReplyOf u display r x).2.requestId = r := by
  cases x <;> rfl

theorem flatMap_framesFor_of_countP {l : List CallTask} {r : String}
    (h : l.countP (·.requestId = r) = 0) : l.flatMap (CallTask.framesFor u display r) = [] :=
  List.flatMap_eq_nil_iff.2 fun t ht => if_neg (by simpa using List.countP_eq_zero.1 h t ht)

@[simp] theorem stepTask_handler (i : Nat) :
    (c.stepTask u display i).1.handler = c.handler := by
  unfold stepTask
  split
  · rfl
  · split <;> rfl

theorem stepTask_cons {i : Nat} {t : CallTask} {x : Except Error ResponseChunk}
    {xs : List (Except Error ResponseChunk)} (h : c.tasks[i]? = some t) (hx : t.rest = x :: xs)
    :
    c.stepTask u display i =
      ({ c with
          tasks := c.tasks.set i
            { t with rest := xs, gotEos := (callReplyOf u display t.requestId x).1 } },
        [.write (.callReply (callReplyOf u display t.requestId x).2)]) := by
  simp only [stepTask, h, hx]

theorem stepTask_nil {i : Nat} {t : CallTask} (h : c.tasks[i]? = some t) (hx : t.rest = [])
    :
    c.stepTask u display i =
      ({ c with tasks := c.tasks.eraseIdx i },
        if t.gotEos then [] else [.write (.callReply (eosReply t.requestId))]) := by
  simp only [stepTask, h, hx]

/-- One step of `b`'s `i`-th future, when at most one future serves `r`: the frames for `r` it
writes, followed by those its futures have still to write, are those they had still to
write; and no future for `r` appears. -/
theorem stepTask_framesFor {r : String} {i : Nat} (hr : c.tasks.countP (·.requestId = r) ≤ 1) :
    (written (c.stepTask u display i).2).filterMap (GsbMessage.replyFor r) ++
        (c.stepTask u display i).1.tasks.flatMap (CallTask.framesFor u display r) =
      c.tasks.flatMap (CallTask.framesFor u display r) ∧
    (c.stepTask u display i).1.tasks.countP (·.requestId = r) ≤
      c.tasks.countP (·.requestId = r) := by
  cases h : c.tasks[i]? with
  | none => simp [stepTask, h]
  | some t =>
    obtain ⟨A, B, hAB, rfl⟩ : ∃ A B, c.tasks = A ++ t :: B ∧ A.length = i :=
      ⟨_, _, List.eq_take_cons_drop h,
        List.length_take_of_le (List.getElem?_eq_some_iff.1 h).1.le⟩
    by_cases ht : t.requestId = r
    · have hc : A.countP (·.requestId = r) = 0 ∧ B.countP (·.requestId = r) = 0 := by
        simp only [hAB, List.countP_append, List.countP_cons, ht, decide_True, if_true] at hr
        omega
      rcases hx : t.rest with _ | ⟨x, xs⟩
      · rw [stepTask_nil h hx]
        simp only [hAB, List.eraseIdx_append_of_length_le (le_refl _), Nat.sub_self,
          List.eraseIdx_cons_zero, List.flatMap_append, List.flatMap_cons,
          flatMap_framesFor_of_countP hc.1, flatMap_framesFor_of_countP hc.2,
          List.countP_append, List.countP_cons, CallTask.framesFor, ht, hx, if_true,
          serveFrames]
        cases t.gotEos <;> simp [GsbMessage.replyFor, eosReply, ht]
      · rw [stepTask_cons h hx]
        simp [hAB, ht, hx, flatMap_framesFor_of_countP hc.1, flatMap_framesFor_of_countP hc.2,
          CallTask.framesFor, serveFrames, GsbMessage.replyFor, callReplyOf_requestId]
    · rcases hx : t.rest with _ | ⟨x, xs⟩
      · rw [stepTask_nil h hx]
        simp only [hAB, List.eraseIdx_append_of_length_le (le_refl _), Nat.sub_self,
          List.eraseIdx_cons_zero, List.flatMap_append, List.flatMap_cons,
          List.countP_append, List.countP_cons, CallTask.framesFor, ht, if_false]
        cases t.gotEos <;> simp [GsbMessage.replyFor, eosReply, ht]
      · rw [stepTask_cons h hx]
        simp [hAB, ht, CallTask.framesFor, GsbMessage.replyFor, callReplyOf_requestId]

/-- `b` handling a request keeps its handler. -/
theorem handle_callRequest_handler (q : CallRequest) :
    (c.handle u display (.inbound (.ok (.callRequest q)))).1.handler = c.handler := by
  cases hc : c.stopped
  · rw [handle_inbound hc]
    simp only [handleFrame, handleCallRequest, handlePushRequest]
    split <;> split <;> rfl
  · simp [handle_of_stopped _ hc]

theorem handle_callTask_handler (i : Nat) :
    (c.handle u display (.callTask i)).1.handler = c.handler := by
  cases hc : c.stopped
  · rw [handle_callTask hc]
    unfold stepTask
    split
    · rfl
    · split <;> rfl
  · simp [handle_of_stopped _ hc]

/-- `a` reading a reply frame it can read: it keeps running and writes nothing. -/
theorem handle_callReply_running (hc : c.stopped = false) {f : CallReply}
    (hf : (replyTranslation u f).isSome) :
    (c.handle u display (.inbound (.ok (.callReply f)))).1.stopped = false ∧
      written (c.handle u display (.inbound (.ok (.callReply f)))).2 = [] := by
  rw [handle_inbound hc]
  simp only [handleFrame]
  cases hr : c.handleCallReply u f.requestId f.code f.replyType f.data with
  | none =>
    unfold handleCallReply at hr
    split at hr
    · simp only [callReplyItem_eq, Option.map_eq_none'] at hr
      simp [hr] at hf
    · simp at hr
  | some res =>
    obtain ⟨h1, h2⟩ := handleCallReply_spec hr
    refine ⟨by rw [h1]; split <;> exact hc, ?_⟩
    rw [h2]
    split <;> rfl

/-- `a` making a call: it keeps running and writes the request. -/
theorem handle_rawCall_written (hc : c.stopped = false) (draw : UInt64) (msg : RpcRawCall)
    (k : Sink) :
    (c.handle u display (.rawCall draw msg k)).1.stopped = false ∧
      written (c.handle u display (.rawCall draw msg k)).2 =
        [.callRequest ⟨requestIdOf draw, msg.caller, msg.addr, msg.body, msg.noReply⟩] := by
  simp only [handle, hc, Bool.false_eq_true, if_false, handleRawCall]
  exact ⟨by split <;> simp [hc], by simp⟩

theorem handle_rawStreamCall_written (hc : c.stopped = false) (draw : UInt64)
    (caller addr : String) (body : Bytes) (k : Sink) :
    (c.handle u display (.rawStreamCall draw caller addr body k)).1.stopped = false ∧
      written (c.handle u display (.rawStreamCall draw caller addr body k)).2 =
        [.callRequest ⟨requestIdOf draw, caller, addr, body, false⟩] := by
  simp [handle, hc, handleRawStreamCall]

theorem callReplyOf_valid (r : String) (x : Except Error ResponseChunk) :
    (replyTranslation u (callReplyOf u display r x).2).isSome :=
  serveFrames_valid u display r [x] false _ (List.mem_cons_self _ _)

/-- Every frame a step of one of `b`'s futures writes is one `a` can read. -/
theorem written_callTask_valid {i : Nat} {m : GsbMessage}
    (hm : m ∈ written (c.handle u display (.callTask i)).2) :
    ∃ f, m = .callReply f ∧ (replyTranslation u f).isSome := by
  cases hc : c.stopped
  · rw [handle_callTask hc] at hm
    unfold stepTask at hm
    split at hm
    · simp at hm
    · split at hm
      · simp at hm
        exact ⟨_, hm, callReplyOf_valid _ _⟩
      · split at hm
        · simp at hm
        · simp at hm
          exact ⟨_, hm, by simp [eosReply, replyTranslation]⟩
  · simp [handle_of_stopped _ hc] at hm

theorem handle_rawCall_callReply (hc : c.stopped = false) (draw : UInt64) (msg : RpcRawCall)
    (k : Sink) :
    (c.handle u display (.rawCall draw msg k)).1.callReply =
        (if msg.noReply then c.callReply
          else Function.update c.callReply (requestIdOf draw) (some k)) ∧
      ∀ k', deliveries k' (c.handle u display (.rawCall draw msg k)).2 = [] := by
  simp only [handle, hc, Bool.false_eq_true, if_false, handleRawCall]
  exact ⟨by split <;> rfl, by simp⟩

theorem handle_rawStreamCall_callReply (hc : c.stopped = false) (draw : UInt64)
    (caller addr : String) (body : Bytes) (k : Sink) :
    (c.handle u display (.rawStreamCall draw caller addr body k)).1.callReply =
        Function.update c.callReply (requestIdOf draw) (some k) ∧
      ∀ k', deliveries k' (c.handle u display (.rawStreamCall draw caller addr body k)).2 = [] := by
  simp [handle, hc, handleRawStreamCall]

/-- `a` reading a reply frame it can read: the item goes to the sink its id holds, and a frame
that is not partial forgets the id. -/
theorem handle_callReply_callReply (hc : c.stopped = false) {f : CallReply}
    (hf : (replyTranslation u f).isSome) :
    (c.handle u display (.inbound (.ok (.callReply f)))).1.callReply =
        (if f.replyType = 1 then c.callReply else Function.update c.callReply f.requestId none) ∧
      ∀ k, deliveries k (c.handle u display (.inbound (.ok (.callReply f)))).2 =
        if c.callReply f.requestId = some k then (replyTranslation u f).toList else [] := by
  obtain ⟨h1, h2⟩ := handle_callStep (.inbound (.ok (.callReply f)))
    (handle_callReply_running hc hf).1
  obtain ⟨item, hi⟩ := Option.isSome_iff_exists.1 hf
  refine ⟨by rw [h1]; by_cases hr : f.replyType = 1 <;> simp [callStep, Event.registers,
    Event.reply?, hr], fun k => ?_⟩
  rw [h2]
  simp only [callStep, Event.registers, Event.reply?, callReplyItem_eq, hi]
  cases hk : c.callReply f.requestId <;> simp [hk]
  split <;> simp

end Connection

/-- An event that is not the call under `r` and does not register the sink `k`. -/
def LinkEvent.Other (r : String) (k : Sink) (e : LinkEvent) : Prop :=
  (∀ q ∈ e.request, q.requestId ≠ r) ∧ ∀ p ∈ e.registers, p.2 ≠ k

namespace Link

variable (u : Utf8) (display : Error → String)

/-- The reply frames for `r` that have still to reach `a`: those in flight to it, those a
future of `b` has still to write, and those `b`'s handler will make it write for a request in
flight to `b`. -/
def pending (L : Link) (r : String) : List CallReply :=
  L.toA.filterMap (GsbMessage.replyFor r) ++ L.b.tasks.flatMap (CallTask.framesFor u display r) ++
    (L.toB.filterMap (GsbMessage.requestFor r)).flatMap fun q =>
      match L.b.handler.doCall q.requestId q.caller q.address q.data false with
      | .ok s => serveFrames u display r s false
      | .error _ => []

/-- The requests for `r` in flight to `b` or served there. -/
def tokens (L : Link) (r : String) : Nat :=
  L.b.tasks.countP (·.requestId = r) + (L.toB.filterMap (GsbMessage.requestFor r)).length

/-- What the sink `k` of the call under `r` has still to receive. -/
def remaining (L : Link) (r : String) (k : Sink) : List (Except Error ResponseChunk) :=
  if L.a.callReply r = some k then clientItems u (L.pending u display r) else []

/-- What holds of every link along a run: only requests in flight to `b`, only reply frames
`a` can read in flight to `a`, and `a` running. -/
structure Good (L : Link) : Prop where
  requests : ∀ m ∈ L.toB, ∃ q, m = .callRequest q
  replies : ∀ m ∈ L.toA, ∃ f, m = .callReply f ∧ (replyTranslation u f).isSome
  running : L.a.stopped = false

variable {u display}

theorem step_good {L : Link} (hL : L.Good u) (e : LinkEvent) :
    (L.step u display e).1.Good u := by
  cases e with
  | call draw msg k =>
    obtain ⟨h1, h2⟩ := @Connection.handle_rawCall_written u display L.a hL.running draw msg k
    refine ⟨?_, hL.replies, h1⟩
    simp only [step, h2, List.mem_append, List.mem_singleton]
    rintro m (hm | rfl)
    exacts [hL.requests m hm, ⟨_, rfl⟩]
  | streamCall draw caller addr body k =>
    obtain ⟨h1, h2⟩ :=
      @Connection.handle_rawStreamCall_written u display L.a hL.running draw caller addr body k
    refine ⟨?_, hL.replies, h1⟩
    simp only [step, h2, List.mem_append, List.mem_singleton]
    rintro m (hm | rfl)
    exacts [hL.requests m hm, ⟨_, rfl⟩]
  | relayRequest =>
    cases hB : L.toB with
    | nil => simpa [step, hB] using hL
    | cons m rest =>
      obtain ⟨q, rfl⟩ := hL.requests m (by simp [hB])
      refine ⟨fun m' hm' => hL.requests m' (by simp_all [step]), ?_, by simp [step, hB, hL.running]⟩
      simpa [step, hB, Connection.written_handle_callRequest] using hL.replies
  | serve i =>
    refine ⟨hL.requests, ?_, hL.running⟩
    simp only [step, List.mem_append]
    rintro m (hm | hm)
    exacts [hL.replies m hm, Connection.written_callTask_valid hm]
  | relayReply =>
    cases hA : L.toA with
    | nil => simpa [step, hA] using hL
    | cons m rest =>
      obtain ⟨f, rfl, hf⟩ := hL.replies m (by simp [hA])
      obtain ⟨h1, h2⟩ := @Connection.handle_callReply_running u display L.a hL.running f hf
      refine ⟨?_, fun m' hm' => hL.replies m' (by simp_all [step]), ?_⟩
      · simpa [step, hA, h2] using hL.requests
      · simpa [step, hA] using h1

theorem run_good {L : Link} (hL : L.Good u) (es : List LinkEvent) : (L.run u display es).1.Good u := by
  induction es generalizing L with
  | nil => exact hL
  | cons e es ih => exact ih (step_good hL e)

/-- The invariant of the call under `r` with sink `k`: at most one request for it on `b`'s
side, its key holds its sink or is gone, and no other key holds its sink. -/
structure Holds (L : Link) (r : String) (k : Sink) : Prop where
  tokens : L.tokens r ≤ 1
  key : L.a.callReply r = some k ∨ L.a.callReply r = none
  sink : ∀ r', r' ≠ r → L.a.callReply r' ≠ some k

variable {L : Link} {r : String} {k : Sink}

/-- A call under another id leaves the call under `r` as it was, and gives `k` nothing. -/
theorem step_call_frame (hL : L.Good u) {draw : UInt64} {msg : RpcRawCall} {k' : Sink}
    (hid : requestIdOf draw ≠ r) :
    deliveries k (L.step u display (.call draw msg k')).2 = [] ∧
      (L.step u display (.call draw msg k')).1.a.callReply r = L.a.callReply r ∧
      (L.step u display (.call draw msg k')).1.pending u display r = L.pending u display r ∧
      (L.step u display (.call draw msg k')).1.tokens r = L.tokens r ∧
      ∀ r', (L.step u display (.call draw msg k')).1.a.callReply r' = L.a.callReply r' ∨
        (L.step u display (.call draw msg k')).1.a.callReply r' = some k' ∧ msg.noReply = false := by
  obtain ⟨h1, h2⟩ := @Connection.handle_rawCall_callReply u display L.a hL.running draw msg k'
  have hw := (@Connection.handle_rawCall_written u display L.a hL.running draw msg k').2
  refine ⟨h2 k, ?_, ?_, ?_, fun r' => ?_⟩
  · simp only [step, h1]; split <;> simp [Function.update_noteq (Ne.symm hid)]
  · simp [step, pending, hw, GsbMessage.requestFor, hid]
  · simp [step, tokens, hw, GsbMessage.requestFor, hid]
  · simp only [step, h1]
    split
    · exact .inl rfl
    · rw [Function.update_apply]; split <;> simp_all

theorem step_streamCall_frame (hL : L.Good u) {draw : UInt64} {caller addr : String}
    {body : Bytes} {k' : Sink} (hid : requestIdOf draw ≠ r) :
    deliveries k (L.step u display (.streamCall draw caller addr body k')).2 = [] ∧
      (L.step u display (.streamCall draw caller addr body k')).1.a.callReply r =
        L.a.callReply r ∧
      (L.step u display (.streamCall draw caller addr body k')).1.pending u display r =
        L.pending u display r ∧
      (L.step u display (.streamCall draw caller addr body k')).1.tokens r = L.tokens r ∧
      ∀ r', (L.step u display (.streamCall draw caller addr body k')).1.a.callReply r' =
          L.a.callReply r' ∨
        (L.step u display (.streamCall draw caller addr body k')).1.a.callReply r' = some k' := by
  obtain ⟨h1, h2⟩ :=
    @Connection.handle_rawStreamCall_callReply u display L.a hL.running draw caller addr body k'
  have hw :=
    (@Connection.handle_rawStreamCall_written u display L.a hL.running draw caller addr body k').2
  refine ⟨h2 k, ?_, ?_, ?_, fun r' => ?_⟩
  · simp [step, h1, Function.update_noteq (Ne.symm hid)]
  · simp [step, pending, hw, GsbMessage.requestFor, hid]
  · simp [step, tokens, hw, GsbMessage.requestFor, hid]
  · simp only [step, h1, Function.update_apply]; split <;> simp

/-- The broker hands `b` a frame: `a` is untouched, and the frames for `r` still to come are
the same ones; a request for `r` only moves from the link to a future of `b`. -/
theorem step_relayRequest (hL : L.Good u)
    (hs : (L.step u display .relayRequest).1.b.stopped = false) :
    (L.step u display .relayRequest).2 = [] ∧ (L.step u display .relayRequest).1.a = L.a ∧
      (L.step u display .relayRequest).1.toA = L.toA ∧
      (L.step u display .relayRequest).1.pending u display r = L.pending u display r ∧
      (L.step u display .relayRequest).1.tokens r = L.tokens r := by
  cases hB : L.toB with
  | nil => simp [step, hB]
  | cons m rest =>
    obtain ⟨q, rfl⟩ := hL.requests m (by simp [hB])
    simp only [step, hB, Connection.written_handle_callRequest, List.append_nil, true_and] at hs ⊢
    cases hq : q.noReply
    · obtain ⟨s, hdo, hb⟩ := Connection.handle_callRequest_tasks hq hs
      rw [hb]
      by_cases hid : q.requestId = r
      · subst hid
        simp [pending, tokens, hB, hq, hdo, GsbMessage.requestFor, CallTask.framesFor,
          List.countP_append]
        omega
      · simp [pending, tokens, hB, hq, hid, GsbMessage.requestFor, CallTask.framesFor,
          List.countP_append]
    · rcases @Connection.handle_pushRequest_tasks u display L.b q hq with hb | hb
      · simp [pending, tokens, hB, hb, hq, GsbMessage.requestFor]
      · simp [hb] at hs

/-- One of `b`'s futures makes a step: `a` is untouched, and when at most one request for `r`
is on `b`'s side the frames for `r` still to come are the same ones. -/
theorem step_serve (i : Nat) (hT : L.tokens r ≤ 1) :
    (L.step u display (.serve i)).2 = [] ∧ (L.step u display (.serve i)).1.a = L.a ∧
      (L.step u display (.serve i)).1.pending u display r = L.pending u display r ∧
      (L.step u display (.serve i)).1.tokens r ≤ L.tokens r := by
  refine ⟨rfl, rfl, ?_⟩
  cases hb : L.b.stopped
  · obtain ⟨h1, h2⟩ := @Connection.stepTask_framesFor u display L.b r i (by unfold tokens at hT; omega)
    simp only [step, Connection.handle_callTask hb, pending, tokens, List.filterMap_append,
      List.append_assoc, Connection.stepTask_handler]
    refine ⟨?_, by omega⟩
    rw [← h1, List.append_assoc]
  · simp [step, Connection.handle_of_stopped _ hb]

/-- What an event that is not the call under `r` with sink `k` does to that call: `k` gets
items from the front of what it has still to receive, the key of `r` stays or goes, no other
key comes to hold `k`, and the frames and requests for `r` only get fewer. -/
structure Advance (u : Utf8) (display : Error → String) (L L' : Link) (out : List Effect)
    (r : String) (k : Sink) : Prop where
  deliver : deliveries k out ++ L'.remaining u display r k = L.remaining u display r k
  key : L'.a.callReply r = L.a.callReply r ∨ L'.a.callReply r = none
  sink : ∀ r', r' ≠ r → L.a.callReply r' ≠ some k → L'.a.callReply r' ≠ some k
  pending : L'.pending u display r <:+ L.pending u display r
  tokens : L'.tokens r ≤ L.tokens r

/-- The invariant of the link before the call under `r` with sink `k` is made: no key holds
`k`, `r` is no key, and nothing for `r` is on the link. -/
structure Fresh (u : Utf8) (display : Error → String) (L : Link) (r : String) (k : Sink) :
    Prop where
  sink : ∀ r', L.a.callReply r' ≠ some k
  key : L.a.callReply r = none
  pending : L.pending u display r = []
  tokens : L.tokens r = 0

theorem Advance.holds {L' : Link} {out : List Effect} (hA : L.Advance u display L' out r k)
    (hH : L.Holds r k) : L'.Holds r k := by
  refine ⟨hA.tokens.trans hH.tokens, ?_, fun r' hr' => hA.sink r' hr' (hH.sink r' hr')⟩
  rcases hA.key with h | h <;> rw [h]
  exacts [hH.key, .inr rfl]

theorem Advance.fresh {L' : Link} {out : List Effect} (hA : L.Advance u display L' out r k)
    (hF : L.Fresh u display r k) : deliveries k out = [] ∧ L'.Fresh u display r k := by
  have hkey : L'.a.callReply r = none := by rcases hA.key with h | h <;> simp [h, hF.key]
  have hd := hA.deliver
  simp only [remaining, hF.key, hkey, reduceCtorEq, if_false, List.append_nil] at hd
  refine ⟨hd, fun r' => ?_, hkey, List.suffix_nil.1 (hF.pending ▸ hA.pending),
    by have := hA.tokens; rw [hF.tokens] at this; omega⟩
  by_cases hr' : r' = r
  · subst hr'; simp [hkey]
  · exact hA.sink r' hr' (hF.sink r')

theorem Fresh.holds (hF : L.Fresh u display r k) : L.Holds r k :=
  ⟨by rw [hF.tokens]; omega, .inr hF.key, fun r' _ => hF.sink r'⟩

/-- An event that gives `k` nothing and leaves the key of `r` and its frames as they were. -/
theorem advance_of_frame {L' : Link} {out : List Effect} (hd : deliveries k out = [])
    (hc : L'.a.callReply r = L.a.callReply r)
    (hp : L'.pending u display r = L.pending u display r) (ht : L'.tokens r ≤ L.tokens r)
    (hs : ∀ r', r' ≠ r → L.a.callReply r' ≠ some k → L'.a.callReply r' ≠ some k) :
    L.Advance u display L' out r k :=
  ⟨by simp [remaining, hd, hc, hp], .inl hc, hs, hp ▸ List.suffix_refl _, ht⟩

/-- The broker hands `a` a frame: `k` gets the item of a frame for `r` while `r` holds it. -/
theorem relayReply_advance (hL : L.Good u) (hH : L.Holds r k) :
    L.Advance u display (L.step u display .relayReply).1 (L.step u display .relayReply).2 r k := by
  cases hA : L.toA with
  | nil =>
    simp only [step, hA]
    exact advance_of_frame rfl rfl rfl le_rfl fun _ _ h => h
  | cons m rest =>
    obtain ⟨f, rfl, hf⟩ := hL.replies m (by simp [hA])
    obtain ⟨h1, h2⟩ := @Connection.handle_callReply_callReply u display L.a hL.running f hf
    have hw := (@Connection.handle_callReply_running u display L.a hL.running f hf).2
    have hkeys : ∀ r', (L.a.handle u display (.inbound (.ok (.callReply f)))).1.callReply r' =
        L.a.callReply r' ∨
          (L.a.handle u display (.inbound (.ok (.callReply f)))).1.callReply r' = none := by
      intro r'
      rw [h1]
      split
      · exact .inl rfl
      · rw [Function.update_apply]; split <;> simp
    have hP : L.pending u display r = ((GsbMessage.callReply f).replyFor r).toList ++
        (L.step u display .relayReply).1.pending u display r := by
      simp only [pending, step, hA, hw, List.append_nil, List.filterMap_cons]
      cases GsbMessage.replyFor r (.callReply f) <;> simp
    refine ⟨?_, by simpa only [step, hA] using hkeys r, fun r' _ hk => ?_,
      hP ▸ List.suffix_append _ _, by simp [step, hA, hw, tokens]⟩
    · rw [remaining, remaining, hP]
      simp only [step, hA, h2, GsbMessage.replyFor]
      by_cases hid : f.requestId = r
      · subst hid
        by_cases hr : f.replyType = 1 <;> rcases hH.key with hk | hk <;>
          simp [h1, hk, hr, clientItems]
      · have hk : L.a.callReply f.requestId ≠ some k := hH.sink _ hid
        simp only [hid, if_false, hk, Option.toList_none, List.nil_append]
        rw [h1]
        split <;> simp [Function.update_noteq (Ne.symm hid)]
    · simp only [step, hA]
      rcases hkeys r' with h | h <;> rw [h]
      exacts [hk, by simp]

/-- Every event that is not the call under `r` with sink `k` advances that call, while `b`
keeps running. -/
theorem step_advance (hL : L.Good u) (hH : L.Holds r k) {e : LinkEvent} (he : e.Other r k)
    (hs : (L.step u display e).1.b.stopped = false) :
    L.Advance u display (L.step u display e).1 (L.step u display e).2 r k := by
  cases e with
  | call draw msg k' =>
    obtain ⟨h1, h2, h3, h4, h5⟩ := @step_call_frame u display L r k hL draw msg k'
      (he.1 _ rfl)
    refine advance_of_frame h1 h2 h3 h4.le fun r' _ hk => ?_
    rcases h5 r' with h | ⟨h, hn⟩ <;> rw [h]
    · exact hk
    · simpa using he.2 (requestIdOf draw, k') (by simp [LinkEvent.registers, hn])
  | streamCall draw caller addr body k' =>
    obtain ⟨h1, h2, h3, h4, h5⟩ :=
      @step_streamCall_frame u display L r k hL draw caller addr body k' (he.1 _ rfl)
    refine advance_of_frame h1 h2 h3 h4.le fun r' _ hk => ?_
    rcases h5 r' with h | h <;> rw [h]
    · exact hk
    · simpa using he.2 (requestIdOf draw, k') rfl
  | relayRequest =>
    obtain ⟨h1, h2, -, h4, h5⟩ := @step_relayRequest u display L r hL hs
    rw [h1]
    exact advance_of_frame rfl (by rw [h2]) h4 h5.le fun _ _ h => by rwa [h2]
  | serve i =>
    obtain ⟨h1, h2, h3, h4⟩ := @step_serve u display L r i hH.tokens
    rw [h1]
    exact advance_of_frame rfl (by rw [h2]) h3 h4 fun _ _ h => by rwa [h2]
  | relayReply => exact relayReply_advance hL hH

/-- `a` writes the request of the call under `r` with sink `k` and registers it: from then on
`k` has to receive `clientView` of the stream `b`'s handler makes of the request. -/
theorem register_of_frame (hF : L.Fresh u display r k) {a' : Connection} {q : CallRequest}
    (hq : q.requestId = r) (hn : q.noReply = false)
    {s : List (Except Error ResponseChunk)}
    (hs : L.b.handler.doCall q.requestId q.caller q.address q.data false = .ok s)
    (hc : a'.callReply = Function.update L.a.callReply r (some k)) :
    ({ L with a := a', toB := L.toB ++ [.callRequest q] } : Link).remaining u display r k =
        clientView display s ∧
      ({ L with a := a', toB := L.toB ++ [.callRequest q] } : Link).Holds r k := by
  have hT := hF.tokens
  have hP := hF.pending
  simp only [tokens, pending, Nat.add_eq_zero, List.length_eq_zero, List.append_eq_nil] at hT hP
  subst hq
  refine ⟨?_, ⟨?_, by simp [hc], fun r' hr' => ?_⟩⟩
  · simp [remaining, pending, hc, hP.1.1, hP.1.2, hT.2, GsbMessage.requestFor, hn, hs,
      clientItems_serveFrames]
  · simp [tokens, hT.1, hT.2, GsbMessage.requestFor, hn]
  · simpa [hc, Function.update_noteq hr'] using hF.sink r'

/-- The step that makes the call under `r` with sink `k`. -/
theorem step_register (hL : L.Good u) (hF : L.Fresh u display r k) {e : LinkEvent}
    {q : CallRequest} (hq : e.request = some q) (hreg : e.registers = some (r, k))
    {s : List (Except Error ResponseChunk)}
    (hs : L.b.handler.doCall q.requestId q.caller q.address q.data false = .ok s) :
    deliveries k (L.step u display e).2 = [] ∧
      (L.step u display e).1.remaining u display r k = clientView display s ∧
      (L.step u display e).1.Holds r k := by
  cases e with
  | call draw msg k' =>
    simp only [LinkEvent.request, Option.some.injEq] at hq
    subst hq
    simp only [LinkEvent.registers] at hreg
    split at hreg
    · simp at hreg
    · rename_i hn
      obtain ⟨rfl, rfl⟩ := Prod.mk.inj (Option.some.inj hreg)
      obtain ⟨h1, h2⟩ := @Connection.handle_rawCall_callReply u display L.a hL.running draw msg k'
      rw [if_neg hn] at h1
      simp only [step, (@Connection.handle_rawCall_written u display L.a hL.running draw msg k').2]
      exact ⟨h2 k', register_of_frame hF rfl (by simpa using hn) hs h1⟩
  | streamCall draw caller addr body k' =>
    simp only [LinkEvent.request, Option.some.injEq] at hq
    subst hq
    obtain ⟨rfl, rfl⟩ := Prod.mk.inj (Option.some.inj hreg)
    obtain ⟨h1, h2⟩ :=
      @Connection.handle_rawStreamCall_callReply u display L.a hL.running draw caller addr body k'
    simp only [step,
      (@Connection.handle_rawStreamCall_written u display L.a hL.running draw caller addr body k').2]
    exact ⟨h2 k', register_of_frame hF rfl rfl hs h1⟩
  | relayRequest | serve _ | relayReply => simp [LinkEvent.request] at hq

/-- `b` stopped stays stopped. -/
theorem b_stopped_of_step {e : LinkEvent} (h : (L.step u display e).1.b.stopped = false) :
    L.b.stopped = false := by
  cases e with
  | call | streamCall => exact h
  | relayRequest =>
    simp only [step] at h
    split at h
    exacts [Connection.stopped_of_handle h, h]
  | serve => exact Connection.stopped_of_handle h
  | relayReply =>
    simp only [step] at h
    split at h <;> exact h

theorem b_stopped_of_run {es : List LinkEvent} (h : (L.run u display es).1.b.stopped = false) :
    L.b.stopped = false := by
  induction es generalizing L with
  | nil => exact h
  | cons e es ih => exact b_stopped_of_step (ih h)

/-- `b` keeps its handler. -/
theorem step_handler (hL : L.Good u) (e : LinkEvent) :
    (L.step u display e).1.b.handler = L.b.handler := by
  cases e with
  | call | streamCall => rfl
  | relayRequest =>
    cases hB : L.toB with
    | nil => simp [step, hB]
    | cons m rest =>
      obtain ⟨q, rfl⟩ := hL.requests m (by simp [hB])
      simp [step, hB, Connection.handle_callRequest_handler]
  | serve => exact Connection.handle_callTask_handler _
  | relayReply =>
    simp only [step]
    split <;> rfl

/-- Before the call under `r` with sink `k` is made, `k` gets nothing and nothing for `r` is
on the link, whatever else runs. -/
theorem run_fresh (hL : L.Good u) (hF : L.Fresh u display r k) {es : List LinkEvent}
    (he : ∀ e ∈ es, e.Other r k) (hs : (L.run u display es).1.b.stopped = false) :
    deliveries k (L.run u display es).2 = [] ∧ (L.run u display es).1.Fresh u display r k ∧
      (L.run u display es).1.Good u ∧ (L.run u display es).1.b.handler = L.b.handler := by
  induction es generalizing L with
  | nil => exact ⟨rfl, hF, hL, rfl⟩
  | cons e es ih =>
    simp only [List.mem_cons, forall_eq_or_imp] at he
    have hs' : (L.step u display e).1.b.stopped = false := b_stopped_of_run hs
    obtain ⟨hd, hF'⟩ := (step_advance hL hF.holds he.1 hs').fresh hF
    obtain ⟨h1, h2, h3, h4⟩ := ih (step_good hL e) hF' he.2 hs
    exact ⟨by simp [hd, h1], h2, h3, h4.trans (step_handler hL e)⟩

/-- After the call under `r` with sink `k` is made, what `k` gets, followed by what it has
still to receive, is what it had still to receive, whatever else runs. -/
theorem run_holds (hL : L.Good u) (hH : L.Holds r k) {es : List LinkEvent}
    (he : ∀ e ∈ es, e.Other r k) (hs : (L.run u display es).1.b.stopped = false) :
    deliveries k (L.run u display es).2 ++ (L.run u display es).1.remaining u display r k =
      L.remaining u display r k := by
  induction es generalizing L with
  | nil => rfl
  | cons e es ih =>
    simp only [List.mem_cons, forall_eq_or_imp] at he
    have hA := step_advance hL hH he.1 (b_stopped_of_run hs)
    simp only [run_cons, deliveries_append, List.append_assoc]
    rw [ih (step_good hL e) (hA.holds hH) he.2 hs, hA.deliver]

/-- With nothing in flight and no future of `b` left, nothing is still to come. -/
theorem remaining_of_quiet (hA : L.toA = []) (hT : L.b.tasks = []) (hB : L.toB = []) :
    L.remaining u display r k = [] := by
  simp [remaining, pending, hA, hT, hB, clientItems]

end Link

end YaServiceBus
