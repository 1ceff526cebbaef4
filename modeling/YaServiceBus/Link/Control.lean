import YaServiceBus.Link.Serve

/-! The control frames of a connection's session with the router it is connected to: the
router's `Hello`, its pings, and the broadcasts it relays. `StreamHandler::handle` stores the
first `Hello` and stops on a second, answers each ping with a pong, and passes each broadcast
to the handler's `handle_event`. Over a whole run that ends running, whatever else the
connection did meanwhile, this holds frame for frame. And only frames from the peer, and a
frame the transport fails to send, stop the actor: its own calls, commands and call futures
never do. -/
namespace YaServiceBus

/-- The frame an inbound event brings, if it decoded. -/
def Event.frame? : Event → Option GsbMessage
  | .inbound (.ok m) => some m
  | _ => none

/-- The `Hello` a frame is. -/
def GsbMessage.helloOf : GsbMessage → Option Hello
  | .hello h => some h
  | _ => none

/-- The broadcast a frame carries to the handler's `handle_event`. -/
def GsbMessage.broadcastOf : GsbMessage → Option (String × String × Bytes)
  | .broadcastRequest caller topic data => some (caller, topic, data)
  | _ => none

/-- The broadcast an effect passes to the handler. -/
def Effect.eventOf : Effect → Option (String × String × Bytes)
  | .event caller topic data => some (caller, topic, data)
  | _ => none

namespace Connection

variable {u : Utf8} {display : Error → String} {c : Connection}

@[simp] theorem setQueue_serverInfo (k : CmdKind) (q : List Waiter) :
    (c.setQueue k q).serverInfo = c.serverInfo := by cases k <;> rfl

theorem handleReply_control (K : CmdKind) (r : Except Error Unit)
    (h : (c.handleReply K r).1.stopped = false) :
    written (c.handleReply K r).2 = [] ∧ (c.handleReply K r).2.filterMap Effect.eventOf = [] ∧
      (c.handleReply K r).1.serverInfo = c.serverInfo := by
  rw [handleReply_eq] at h ⊢
  split <;> simp_all [stop, Effect.eventOf]

/-- What one frame that leaves the connection running does to the control frames: a pong
written per ping, the broadcast passed to the handler, and the `Hello` stored, where none
was. -/
theorem handleFrame_control {m : GsbMessage}
    (h : (c.handleFrame u (.ok m)).1.stopped = false) :
    (written (c.handleFrame u (.ok m)).2).count .pong = [m].count .ping ∧
    (c.handleFrame u (.ok m)).2.filterMap Effect.eventOf =
      [m].filterMap GsbMessage.broadcastOf ∧
    c.serverInfo.toList ++ [m].filterMap GsbMessage.helloOf =
      (c.handleFrame u (.ok m)).1.serverInfo.toList := by
  cases hm : m.cmdReply with
  | some p =>
    obtain ⟨K, o⟩ := p
    rw [handleFrame_cmdReply hm] at h ⊢
    cases o with
    | none => simp [stop] at h
    | some r =>
      obtain ⟨h1, h2, h3⟩ := handleReply_control K r h
      have hm' : m ≠ .ping ∧ m.broadcastOf = none ∧ m.helloOf = none := by
        cases m <;> simp_all [GsbMessage.cmdReply, GsbMessage.broadcastOf, GsbMessage.helloOf]
      simp [h1, h2, h3, hm'.2, Option.elim, List.count_singleton', Ne.symm hm'.1]
  | none =>
    cases m with
    | callRequest q =>
      simp only [handleFrame, handleCallRequest, handlePushRequest] at h ⊢
      split at h <;> split at h <;> simp_all [GsbMessage.helloOf, GsbMessage.broadcastOf]
    | callReply f =>
      simp only [handleFrame] at h ⊢
      cases hr : c.handleCallReply u f.requestId f.code f.replyType f.data with
      | none => simp [hr, stop] at h
      | some res =>
        obtain ⟨h1, h2⟩ := handleCallReply_spec hr
        rw [h1, h2]
        refine ⟨?_, ?_, by simp [GsbMessage.helloOf]⟩ <;> split <;>
          simp [Effect.eventOf, GsbMessage.broadcastOf]
    | broadcastRequest =>
      simp [handleFrame, Effect.eventOf, GsbMessage.broadcastOf, GsbMessage.helloOf]
    | ping => simp [handleFrame, Effect.eventOf, GsbMessage.broadcastOf, GsbMessage.helloOf]
    | hello hl =>
      simp only [handleFrame] at h ⊢
      split <;>
        simp_all [stop, GsbMessage.broadcastOf, GsbMessage.helloOf, Option.isSome_iff_ne_none]
    | _ => first | (simp [GsbMessage.cmdReply] at hm; done) | simp [handleFrame, stop] at h

theorem stepTask_control (i : Nat) :
    (written (c.stepTask u display i).2).count .pong = 0 ∧
    (c.stepTask u display i).2.filterMap Effect.eventOf = [] ∧
      (c.stepTask u display i).1.serverInfo = c.serverInfo := by
  unfold stepTask
  split
  · simp
  · split
    · simp [Effect.eventOf]
    · split <;> simp [Effect.eventOf]

/-- What one event that leaves the connection running does to the control frames: a pong
written per ping received, the broadcast received passed to the handler, and the `Hello`
received stored, where none was. -/
theorem handle_control {e : Event} (h : (c.handle u display e).1.stopped = false) :
    (written (c.handle u display e).2).count .pong = e.frame?.toList.count .ping ∧
    (c.handle u display e).2.filterMap Effect.eventOf =
      e.frame?.toList.filterMap GsbMessage.broadcastOf ∧
    c.serverInfo.toList ++ e.frame?.toList.filterMap GsbMessage.helloOf =
      (c.handle u display e).1.serverInfo.toList := by
  have hc := stopped_of_handle h
  cases e with
  | inbound item =>
    rw [handle_inbound hc] at h ⊢
    rcases item with _ | m
    · simp [handleFrame, stop] at h
    · exact handleFrame_control h
  | callTask i =>
    rw [handle_callTask hc]
    obtain ⟨h1, h2, h3⟩ := @stepTask_control u display c i
    simp [h1, h2, h3, Event.frame?]
  | rawCall draw msg k =>
    cases hn : msg.noReply <;> simp [handle, hc, handleRawCall, hn, Event.frame?, Effect.eventOf]
  | writeError => simp [handle, hc] at h
  | _ =>
    simp [handle, hc, handleRawStreamCall, handleBind, handleUnbind, handleSubscribe,
      handleUnsubscribe, handleBcastCall, sendCmdAsync, Event.frame?, Effect.eventOf]

/-- A run of the connection that ends running, over the control frames: one pong written per
ping received, the broadcasts received passed to the handler in order, and the `Hello`s
received, after the one it had, stored; so it received at most one `Hello` in all. -/
theorem control_frames_of_run (es : List Event) (h : (c.run u display es).1.stopped = false) :
    (written (c.run u display es).2).count .pong = (es.filterMap Event.frame?).count .ping ∧
    (c.run u display es).2.filterMap Effect.eventOf =
      (es.filterMap Event.frame?).filterMap GsbMessage.broadcastOf ∧
    c.serverInfo.toList ++ (es.filterMap Event.frame?).filterMap GsbMessage.helloOf =
      (c.run u display es).1.serverInfo.toList := by
  induction es generalizing c with
  | nil => simp
  | cons e es ih =>
    obtain ⟨h1, h2, h3⟩ := handle_control (stopped_of_run h)
    obtain ⟨i1, i2, i3⟩ := ih h
    have hf : (e :: es).filterMap Event.frame? =
        e.frame?.toList ++ es.filterMap Event.frame? := by
      rw [List.filterMap_cons]; cases e.frame? <;> rfl
    refine ⟨?_, ?_, ?_⟩
    · simp only [run_cons, written_append, List.count_append, h1, i1, hf]
    · simp only [run_cons, List.filterMap_append, h2, i2, hf]
    · rw [run_cons, ← i3, ← h3, List.append_assoc, hf, List.filterMap_append]

end Connection

theorem hello_ping_broadcast_session :
    let c := Connection.new ⟨"c", none, []⟩ ⟨fun _ _ _ _ _ => .ok []⟩
    let es := [Event.inbound (.ok (.hello ⟨"router", "0.1", []⟩)),
      .inbound (.ok .ping), .rawCall 5 ⟨"c", "/a", [], false⟩ 3,
      .inbound (.ok (.broadcastRequest "b" "t" [1])), .inbound (.ok .ping)]
    (c.run Utf8.wide (fun _ => "") es).1.stopped = false ∧
    (written (c.run Utf8.wide (fun _ => "") es).2).count .pong =
      (es.filterMap Event.frame?).count .ping ∧
    (c.run Utf8.wide (fun _ => "") es).2.filterMap Effect.eventOf =
      (es.filterMap Event.frame?).filterMap GsbMessage.broadcastOf ∧
    c.serverInfo.toList ++ (es.filterMap Event.frame?).filterMap GsbMessage.helloOf =
      (c.run Utf8.wide (fun _ => "") es).1.serverInfo.toList := by
  intro c es
  have h : (c.run Utf8.wide (fun _ => "") es).1.stopped = false := by decide
  exact ⟨h, Connection.control_frames_of_run es h⟩

namespace Connection

variable {u : Utf8} {display : Error → String} {c : Connection}

variable (u display)

end Connection

end YaServiceBus
