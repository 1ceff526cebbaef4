import YaServiceBus.Connection.Basic

/-! What one handled message does to the call sinks and to the reply queues. The run-level
results cite these inversion lemmas and never unfold `Connection.handle` again. -/
namespace YaServiceBus

/-- The item an effect sends to sink `k`. -/
def Effect.sentTo (k : Sink) : Effect → Option (Except Error ResponseChunk)
  | .deliver k' item => if k' = k then some item else none
  | _ => none

/-- The items sent to sink `k`, in order. -/
def deliveries (k : Sink) (effs : List Effect) : List (Except Error ResponseChunk) :=
  effs.filterMap (Effect.sentTo k)

attribute [simp] Effect.sentTo

/-- The waiter of kind `K` an effect resolves, with its reply. -/
def Effect.resolvedBy (K : CmdKind) : Effect → Option (Waiter × Except Error Unit)
  | .resolve K' w r => if K' = K then some (w, r) else none
  | _ => none

attribute [simp] Effect.resolvedBy

/-- The waiters of kind `K` resolved, in order. -/
def resolutions (K : CmdKind) (effs : List Effect) : List (Waiter × Except Error Unit) :=
  effs.filterMap (Effect.resolvedBy K)

@[simp] theorem deliveries_nil (k : Sink) : deliveries k [] = [] := rfl

@[simp] theorem deliveries_cons (k : Sink) (e : Effect) (es : List Effect) :
    deliveries k (e :: es) = (e.sentTo k).toList ++ deliveries k es := by
  simp only [deliveries, List.filterMap_cons]; cases e.sentTo k <;> rfl

@[simp] theorem deliveries_append (k : Sink) (a b : List Effect) :
    deliveries k (a ++ b) = deliveries k a ++ deliveries k b := List.filterMap_append ..

@[simp] theorem resolutions_nil (K : CmdKind) : resolutions K [] = [] := rfl

@[simp] theorem resolutions_cons (K : CmdKind) (e : Effect) (es : List Effect) :
    resolutions K (e :: es) = (e.resolvedBy K).toList ++ resolutions K es := by
  simp only [resolutions, List.filterMap_cons]; cases e.resolvedBy K <;> rfl

/-- The call an event registers in `call_reply`: its request id and sink. -/
def Event.registers : Event → Option (String × Sink)
  | .rawCall draw msg k => if msg.noReply then none else some (requestIdOf draw, k)
  | .rawStreamCall draw _ _ _ k => some (requestIdOf draw, k)
  | _ => none

/-- The call reply frame an event brings in. -/
def Event.reply? : Event → Option CallReply
  | .inbound (.ok (.callReply f)) => some f
  | _ => none

/-- The command a reply frame answers, with the reply its code gives the waiter; `none` for
a code outside the command's table. -/
def GsbMessage.cmdReply : GsbMessage → Option (CmdKind × Option (Except Error Unit))
  | .registerReply code msg => some (.register, (registerReplyCode code).map (registerResult msg))
  | .unregisterReply code => some (.unregister, (unregisterReplyCode code).map unregisterResult)
  | .subscribeReply code msg =>
    some (.subscribe, (subscribeReplyCode code).map (subscribeResult msg))
  | .unsubscribeReply code => some (.unsubscribe, (unsubscribeReplyCode code).map unsubscribeResult)
  | .broadcastReply code msg =>
    some (.broadcast, (broadcastReplyCode code).map (broadcastResult msg))
  | _ => none

/-- What an event that does not stop the connection does to `call_reply`, with the item a
reply frame sends to the sink it reaches. -/
def callStep (u : Utf8) (m : String → Option Sink) (e : Event) :
    (String → Option Sink) × List Effect :=
  match e.registers, e.reply? with
  | some (r, k), _ => (Function.update m r (some k), [])
  | none, some f =>
    (if (chunkOf f.replyType f.data).isFull then Function.update m f.requestId none else m,
      match m f.requestId, callReplyItem u f.code (chunkOf f.replyType f.data) with
      | some k, some item => [.deliver k item]
      | _, _ => [])
  | none, none => (m, [])

namespace Connection

variable {u : Utf8} {display : Error → String} {c : Connection}

@[simp] theorem stop_fst_stopped : c.stop.1.stopped = true := rfl
@[simp] theorem stop_fst_callReply : c.stop.1.callReply = c.callReply := rfl
@[simp] theorem stop_fst_queue (K : CmdKind) : c.stop.1.queue K = c.queue K := by cases K <;> rfl
@[simp] theorem stop_snd : c.stop.2 = [.disconnect] := rfl
@[simp] theorem panicked_fst (p : Panic) : (c.panicked p).1 = { c with stopped := true } := rfl
@[simp] theorem panicked_snd (p : Panic) : (c.panicked p).2 = [.panic p, .disconnect] := rfl

@[simp] theorem queue_with_tasks (ts : List CallTask) (K : CmdKind) :
    ({ c with tasks := ts }).queue K = c.queue K := by cases K <;> rfl

@[simp] theorem queue_with_serverInfo (h : Option Hello) (K : CmdKind) :
    ({ c with serverInfo := h }).queue K = c.queue K := by cases K <;> rfl

@[simp] theorem queue_with_stopped (b : Bool) (K : CmdKind) :
    ({ c with stopped := b }).queue K = c.queue K := by cases K <;> rfl

theorem handle_of_stopped (e : Event) (h : c.stopped = true) :
    c.handle u display e = (c, []) := by simp [handle, h]

theorem handleReply_eq (K : CmdKind) (r : Except Error Unit) :
    c.handleReply K r = match c.queue K with
      | w :: rest => (c.setQueue K rest, [.resolve K w r])
      | [] => c.stop := rfl

@[simp] theorem handleReply_callReply (K : CmdKind) (r : Except Error Unit) :
    (c.handleReply K r).1.callReply = c.callReply := by
  rw [handleReply_eq]; split <;> simp

@[simp] theorem deliveries_handleReply (k : Sink) (K : CmdKind) (r : Except Error Unit) :
    deliveries k (c.handleReply K r).2 = [] := by
  rw [handleReply_eq]; split <;> rfl

theorem handleFrame_cmdReply {m : GsbMessage} {K : CmdKind} {o : Option (Except Error Unit)}
    (h : m.cmdReply = some (K, o)) :
    c.handleFrame u (.ok m) = o.elim c.stop (c.handleReply K) := by
  cases m <;> simp only [GsbMessage.cmdReply, Option.some.injEq, Prod.mk.injEq,
    reduceCtorEq] at h <;> obtain ⟨rfl, rfl⟩ := h <;> simp only [handleFrame] <;> split <;>
    simp_all [handleRegisterReply, handleUnregisterReply, handleSubscribeReply,
      handleUnsubscribeReply, handleBroadcastReply]

theorem stopped_of_handle {e : Event} (h : (c.handle u display e).1.stopped = false) :
    c.stopped = false := by
  cases hs : c.stopped
  · rfl
  · simp [handle_of_stopped e hs, hs] at h

theorem stepTask_callReply (i : Nat) :
    (c.stepTask u display i).1.callReply = c.callReply ∧
      ∀ k, deliveries k (c.stepTask u display i).2 = [] := by
  unfold stepTask
  split
  · simp
  · split
    · simp
    · split <;> simp

theorem handleCallReply_spec {r : String} {code rt : Int} {data : Bytes}
    {res : Connection × List Effect} (h : c.handleCallReply u r code rt data = some res) :
    res.1 = { c with callReply := if (chunkOf rt data).isFull then
      Function.update c.callReply r none else c.callReply } ∧
    res.2 = match c.callReply r, callReplyItem u code (chunkOf rt data) with
      | some k, some item => [.deliver k item]
      | _, _ => [] := by
  unfold handleCallReply at h
  split at h <;> rename_i hk <;> cases hi : callReplyItem u code (chunkOf rt data) <;>
    simp only [hi, Option.map_none', Option.map_some', Option.some.injEq, reduceCtorEq] at h <;>
    subst h <;> split <;> simp [hk, hi]

@[simp] theorem handleCallRequest_queue (r : CallRequest) (K : CmdKind) :
    (c.handleCallRequest r).1.queue K = c.queue K := by
  unfold handleCallRequest; split <;> simp

@[simp] theorem handleCallRequest_callReply (r : CallRequest) :
    (c.handleCallRequest r).1.callReply = c.callReply := by
  unfold handleCallRequest; split <;> rfl

@[simp] theorem handlePushRequest_queue (r : CallRequest) (K : CmdKind) :
    (c.handlePushRequest r).1.queue K = c.queue K := by
  unfold handlePushRequest; split <;> simp

@[simp] theorem handlePushRequest_callReply (r : CallRequest) :
    (c.handlePushRequest r).1.callReply = c.callReply := by
  unfold handlePushRequest; split <;> rfl

@[simp] theorem deliveries_handleCallRequest (r : CallRequest) (k : Sink) :
    deliveries k (c.handleCallRequest r).2 = [] := by
  unfold handleCallRequest; split <;> simp

@[simp] theorem resolutions_handleCallRequest (r : CallRequest) (K : CmdKind) :
    resolutions K (c.handleCallRequest r).2 = [] := by
  unfold handleCallRequest; split <;> simp

@[simp] theorem deliveries_handlePushRequest (r : CallRequest) (k : Sink) :
    deliveries k (c.handlePushRequest r).2 = [] := by
  unfold handlePushRequest; split <;> simp

@[simp] theorem resolutions_handlePushRequest (r : CallRequest) (K : CmdKind) :
    resolutions K (c.handlePushRequest r).2 = [] := by
  unfold handlePushRequest; split <;> simp

private theorem handleFrame_callStep {item : Except ProtocolError GsbMessage}
    (h : (c.handleFrame u item).1.stopped = false) :
    (c.handleFrame u item).1.callReply = (callStep u c.callReply (.inbound item)).1 ∧
      ∀ k, deliveries k (c.handleFrame u item).2 =
        deliveries k (callStep u c.callReply (.inbound item)).2 := by
  rcases item with p | m
  · simp [handleFrame] at h
  cases hm : m.cmdReply with
  | some p =>
    obtain ⟨K, o⟩ := p
    have hr : (Event.inbound (.ok m)).reply? = none := by
      cases m <;> first | rfl | simp [GsbMessage.cmdReply] at hm
    rw [handleFrame_cmdReply hm]
    simp only [callStep, Event.registers, hr]
    cases o <;> simp
  | none =>
    cases m with
    | callRequest r =>
      simp only [handleFrame] at h ⊢
      split <;> simp [callStep, Event.registers, Event.reply?]
    | callReply r =>
      simp only [handleFrame] at h ⊢
      cases hr : c.handleCallReply u r.requestId r.code r.replyType r.data with
      | none => simp [hr] at h
      | some res =>
        obtain ⟨h1, h2⟩ := handleCallReply_spec hr
        simp [hr, h1, h2, callStep, Event.registers, Event.reply?]
    | hello _ =>
      simp only [handleFrame] at h ⊢
      split at h <;> simp_all [callStep, Event.registers, Event.reply?]
    | ping | broadcastRequest => simp [handleFrame, callStep, Event.registers, Event.reply?]
    | _ => simp_all [handleFrame, GsbMessage.cmdReply]

/-- What one event does to `call_reply` and the call sinks, when it leaves the connection
running. -/
theorem handle_callStep (e : Event) (h : (c.handle u display e).1.stopped = false) :
    (c.handle u display e).1.callReply = (callStep u c.callReply e).1 ∧
      ∀ k, deliveries k (c.handle u display e).2 = deliveries k (callStep u c.callReply e).2 := by
  have hc := stopped_of_handle h
  simp only [handle, hc, Bool.false_eq_true, if_false] at h ⊢
  cases e with
  | inbound item => exact handleFrame_callStep h
  | rawCall draw msg k =>
    cases hn : msg.noReply <;> simp [handleRawCall, callStep, Event.registers, Event.reply?, hn]
  | rawStreamCall => simp [handleRawStreamCall, callStep, Event.registers, Event.reply?]
  | callTask i =>
    simpa [callStep, Event.registers, Event.reply?] using stepTask_callReply i
  | writeError => simp at h
  | _ => simp [handleBind, handleUnbind, handleSubscribe, handleUnsubscribe, handleBcastCall,
      sendCmdAsync, callStep, Event.registers, Event.reply?]

theorem run_of_stopped (es : List Event) (h : c.stopped = true) :
    c.run u display es = (c, []) := by
  induction es with
  | nil => rfl
  | cons e es ih => simp [handle_of_stopped e h, ih]

theorem run_append (es es' : List Event) :
    c.run u display (es ++ es') =
      (((c.run u display es).1.run u display es').1,
        (c.run u display es).2 ++ ((c.run u display es).1.run u display es').2) := by
  induction es generalizing c with
  | nil => simp
  | cons e es ih => simp [ih]

/-- A step that stops the connection keeps `call_reply` as it was (no `?` that stops it
removes a call) and sends nothing to a call's sink. -/
theorem handle_of_stopping (e : Event) (h : (c.handle u display e).1.stopped = true) :
    (c.handle u display e).1.callReply = c.callReply ∧
      ∀ k, deliveries k (c.handle u display e).2 = [] := by
  cases hc : c.stopped
  swap
  · simp [handle_of_stopped e hc]
  cases e with
  | inbound item =>
    simp only [handle, hc, Bool.false_eq_true, if_false] at h ⊢
    rcases item with p | m
    · simp [handleFrame]
    cases hm : m.cmdReply with
    | some p => rw [handleFrame_cmdReply hm]; cases p.2 <;> simp
    | none =>
      cases m with
      | callRequest r => simp only [handleFrame]; split <;> simp
      | callReply r =>
        simp only [handleFrame] at h ⊢
        cases hr : c.handleCallReply u r.requestId r.code r.replyType r.data with
        | none => simp
        | some res => simp [hr, (handleCallReply_spec hr).1, hc] at h
      | hello _ => simp only [handleFrame]; split <;> simp
      | ping | broadcastRequest => simp [handleFrame]
      | _ => first | simp [handleFrame]; done | simp [GsbMessage.cmdReply] at hm
  | rawCall draw msg k => cases hn : msg.noReply <;> simp_all [handle, handleRawCall]
  | rawStreamCall => simp_all [handle, handleRawStreamCall]
  | callTask i => simpa [handle, hc] using @stepTask_callReply u display c i
  | _ => simp [handle, hc, handleBind, handleUnbind, handleSubscribe, handleUnsubscribe,
      handleBcastCall, sendCmdAsync]

/-- A run that ends running passes through running states only. -/
theorem stopped_of_run {e : Event} {es : List Event}
    (h : (c.run u display (e :: es)).1.stopped = false) :
    (c.handle u display e).1.stopped = false := by
  cases hs : (c.handle u display e).1.stopped
  · rfl
  · simp [run_of_stopped es hs, hs] at h

end Connection

end YaServiceBus
