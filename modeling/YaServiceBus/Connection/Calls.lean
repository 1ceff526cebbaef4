import YaServiceBus.Connection.Step

/-! The calls in flight, `call_reply`: which reply frames reach which sink over a whole run,
when a call is forgotten, and what a request id that collides with a call in flight does. -/
namespace YaServiceBus

theorem genId_lt (draw : UInt64) : (genId draw).toNat < 2 ^ 53 := by
  rw [genId, UInt64.and_toNat]
  exact Nat.and_lt_two_pow _ (by decide)

@[simp] theorem chunkOf_intoBytes (rt : Int) (d : Bytes) : (chunkOf rt d).intoBytes = d := by
  unfold chunkOf; split <;> rfl

@[simp] theorem chunkOf_isFull (rt : Int) (d : Bytes) : (chunkOf rt d).isFull = !decide (rt = 1) := by
  unfold chunkOf; split <;> simp_all [CallReplyType.toInt, ResponseChunk.isFull]

/-- The item a reply frame stands for: code 0 gives `Ok(Part d)` for a partial reply type
and `Ok(Full d)` for any other; 400 and 500 give `GsbBadRequest` and `GsbFailure` of the data
read as UTF-8. -/
def replyTranslation (u : Utf8) (f : CallReply) : Option (Except Error ResponseChunk) :=
  if f.code = 0 then some (.ok (if f.replyType = 1 then .part f.data else .full f.data))
  else if f.code = 400 then (u.fromUtf8 f.data).map (.error ∘ .gsbBadRequest)
  else if f.code = 500 then (u.fromUtf8 f.data).map (.error ∘ .gsbFailure)
  else none

theorem callReplyItem_eq (u : Utf8) (f : CallReply) :
    callReplyItem u f.code (chunkOf f.replyType f.data) = replyTranslation u f := by
  unfold callReplyItem replyTranslation CallReplyCode.tryFrom
  by_cases h0 : f.code = 0
  · simp [h0, chunkOf, CallReplyType.toInt]
  by_cases h4 : f.code = 400
  · simp [h4]
  by_cases h5 : f.code = 500 <;> simp [h0, h4, h5]

/-- The items the call registered under `r` is meant to get from the events after its
registration: the items of the reply frames for `r`, in order, up to and including the first
that is not partial. -/
def callItems (u : Utf8) (r : String) : List Event → List (Except Error ResponseChunk)
  | [] => []
  | e :: es =>
    match e.reply? with
    | some f =>
      if f.requestId = r then
        (replyTranslation u f).toList ++ if f.replyType = 1 then callItems u r es else []
      else callItems u r es
    | none => callItems u r es

/-- The sinks the run registers. -/
def registeredSinks (es : List Event) : List Sink := (es.filterMap Event.registers).map Prod.snd

theorem not_mem_registeredSinks_cons {k : Sink} {e : Event} {es : List Event} :
    k ∉ registeredSinks (e :: es) ↔ (∀ p ∈ e.registers, p.2 ≠ k) ∧ k ∉ registeredSinks es := by
  cases h : e.registers <;> simp [registeredSinks, h, eq_comm]

theorem registeredSinks_append (es es' : List Event) :
    registeredSinks (es ++ es') = registeredSinks es ++ registeredSinks es' := by
  simp [registeredSinks]

theorem Event.reply?_of_registers {e : Event} {p : String × Sink} (h : e.registers = some p) :
    e.reply? = none := by
  cases e <;> simp_all [Event.registers, Event.reply?]

/-- Whether the event is the reply frame that ends the call under `r`. -/
def Event.ends (r : String) (e : Event) : Bool :=
  match e.reply? with
  | some f => f.requestId = r && f.replyType ≠ 1
  | none => false

/-- What the event is meant to send to the call under `r`. -/
def Event.itemsFor (u : Utf8) (r : String) (e : Event) : List (Except Error ResponseChunk) :=
  match e.reply? with
  | some f => if f.requestId = r then (replyTranslation u f).toList else []
  | none => []

theorem callItems_cons (u : Utf8) (r : String) (e : Event) (es : List Event) :
    callItems u r (e :: es) = e.itemsFor u r ++ if e.ends r then [] else callItems u r es := by
  simp only [callItems]
  split
  · rename_i f hrep
    by_cases h : f.requestId = r <;> by_cases hp : f.replyType = 1 <;>
      simp [Event.itemsFor, Event.ends, hrep, h, hp]
  · rename_i hrep
    simp [Event.itemsFor, Event.ends, hrep]

variable {u : Utf8}

/-- What a reply frame sends to sink `k` when `m` maps its id to a sink other than `k`. -/
private theorem deliveries_other {m : String → Option Sink} {f : CallReply} {k : Sink}
    (hk : m f.requestId ≠ some k) (i : Option (Except Error ResponseChunk)) :
    deliveries k (match m f.requestId, i with
      | some k, some item => [Effect.deliver k item]
      | _, _ => []) = [] := by
  cases hm : m f.requestId with
  | none => rfl
  | some k0 => cases i <;> simp_all

/-- A sink no key maps to, and that the event does not register, gets nothing and stays so. -/
theorem callStep_idle {m : String → Option Sink} {e : Event} {k : Sink}
    (hk : ∀ r, m r ≠ some k) (he : ∀ p ∈ e.registers, p.2 ≠ k) :
    deliveries k (callStep u m e).2 = [] ∧ ∀ r, (callStep u m e).1 r ≠ some k := by
  unfold callStep
  split
  · rename_i r' k' hreg
    refine ⟨rfl, fun r => ?_⟩
    dsimp only
    rw [Function.update_apply]
    split
    · simpa using he _ hreg
    · exact hk r
  · rename_i f _ _
    refine ⟨deliveries_other (hk _) _, fun r => ?_⟩
    split
    · dsimp only; rw [Function.update_apply]; split <;> simp [hk r]
    · exact hk r
  · exact ⟨rfl, hk⟩

/-- While the call under `r` holds sink `k` alone, one event sends it what `itemsFor` says,
and keeps it in flight unless the event is its final reply. -/
theorem callStep_inflight {m : String → Option Sink} {e : Event} {r : String} {k : Sink}
    (hr : m r = some k) (hu : ∀ r', m r' = some k → r' = r)
    (hf : ∀ p ∈ e.registers, m p.1 = none) (he : ∀ p ∈ e.registers, p.2 ≠ k) :
    deliveries k (callStep u m e).2 = e.itemsFor u r ∧
      (if e.ends r then ∀ r', (callStep u m e).1 r' ≠ some k
        else (callStep u m e).1 r = some k ∧ ∀ r', (callStep u m e).1 r' = some k → r' = r) := by
  unfold callStep
  split
  · rename_i r' k' hreg
    have hr' : r ≠ r' := fun h => by simp [h, hf _ hreg] at hr
    have hk' : some k' ≠ some k := by simpa using he _ hreg
    simp only [Event.itemsFor, Event.ends, Event.reply?_of_registers hreg, deliveries_nil,
      Bool.false_eq_true, if_false, true_and, Function.update_noteq hr', hr]
    intro r'' h''
    rw [Function.update_apply] at h''
    split at h'' <;> simp_all
  · rename_i f _ hrep
    simp only [Event.itemsFor, Event.ends, hrep, callReplyItem_eq, chunkOf_isFull]
    by_cases hfr : f.requestId = r
    · subst hfr
      refine ⟨by cases replyTranslation u f <;> simp [hr], ?_⟩
      by_cases hp : f.replyType = 1
      · simp only [hp, decide_True, Bool.not_true, Bool.false_eq_true, if_false, ne_eq,
          not_true_eq_false, decide_False, Bool.and_false]
        exact ⟨hr, hu⟩
      · simp only [hp, decide_False, Bool.not_false, if_true, ne_eq, not_false_eq_true,
          decide_True, Bool.and_self]
        intro r'
        rw [Function.update_apply]
        split
        · simp
        · exact fun h => ‹¬r' = f.requestId› (hu r' h)
    · have hk : m f.requestId ≠ some k := fun h => hfr (hu _ h)
      refine ⟨by simpa [hfr] using deliveries_other hk _, ?_⟩
      simp only [hfr, decide_False, Bool.false_and, Bool.false_eq_true, if_false]
      split
      · rw [Function.update_noteq (Ne.symm hfr)]
        refine ⟨hr, fun r' h' => ?_⟩
        rw [Function.update_apply] at h'
        split at h' <;> simp_all
      · exact ⟨hr, hu⟩
  · rename_i hreg hrep
    simpa [Event.itemsFor, Event.ends, hrep, hr] using hu

theorem callStep_registers {m : String → Option Sink} {e : Event} {r : String} {k : Sink}
    (h : e.registers = some (r, k)) : callStep u m e = (Function.update m r (some k), []) := by
  simp [callStep, h]

/-- A key stays a key under any event but the final reply for it. -/
theorem callStep_keeps {m : String → Option Sink} {e : Event} {r : String}
    (hr : (m r).isSome) (he : e.ends r = false) : ((callStep u m e).1 r).isSome := by
  unfold callStep
  split
  · rename_i r' k' _
    dsimp only
    rw [Function.update_apply]
    split <;> simp [hr]
  · rename_i f _ hrep
    simp only [Event.ends, hrep, Bool.and_eq_false_iff, decide_eq_false_iff_not, ne_eq,
      Decidable.not_not] at he
    simp only [chunkOf_isFull]
    split
    · rename_i hfull
      rw [Function.update_apply]
      split
      · rename_i hid; subst hid; simp_all
      · exact hr
    · exact hr
  · exact hr

namespace Connection

variable (u) (display : Error → String)

/-- Whether every call the events register gets an id that is not a key of `call_reply` when
it is registered: the calls in flight have pairwise distinct ids. -/
def freshIds (c : Connection) : List Event → Bool
  | [] => true
  | e :: es =>
    (match e.registers with
      | some (r, _) => (c.callReply r).isNone
      | none => true) && (c.handle u display e).1.freshIds es

variable {u display} {c : Connection}

theorem freshIds_cons {e : Event} {es : List Event} :
    c.freshIds u display (e :: es) = true ↔ (∀ p ∈ e.registers, c.callReply p.1 = none) ∧
      (c.handle u display e).1.freshIds u display es = true := by
  cases h : e.registers <;> simp [freshIds, h]

theorem freshIds_append {es es' : List Event} :
    c.freshIds u display (es ++ es') = true ↔
      c.freshIds u display es = true ∧ (c.run u display es).1.freshIds u display es' = true := by
  induction es generalizing c with
  | nil => simp [freshIds]
  | cons e es ih => simp [freshIds_cons, ih, and_assoc]

theorem stopped_of_run_append {es es' : List Event}
    (h : (c.run u display (es ++ es')).1.stopped = false) : (c.run u display es).1.stopped = false := by
  rw [run_append] at h
  cases hs : (c.run u display es).1.stopped
  · rfl
  · simp [run_of_stopped es' hs, hs] at h

theorem handle_registers_running {e : Event} {p : String × Sink} (h : e.registers = some p)
    (hc : c.stopped = false) : (c.handle u display e).1.stopped = false := by
  cases e <;> simp_all [Event.registers, handle, handleRawCall, handleRawStreamCall]

/-- A sink no key maps to, and that the event does not register, gets nothing and stays so. -/
theorem handle_idle {e : Event} {k : Sink} (hk : ∀ r, c.callReply r ≠ some k)
    (he : ∀ p ∈ e.registers, p.2 ≠ k) :
    deliveries k (c.handle u display e).2 = [] ∧
      ∀ r, (c.handle u display e).1.callReply r ≠ some k := by
  cases hs : (c.handle u display e).1.stopped
  · obtain ⟨h1, h2⟩ := handle_callStep e hs
    rw [h1, h2]
    exact callStep_idle hk he
  · obtain ⟨h1, h2⟩ := handle_of_stopping e hs
    rw [h1, h2]
    exact ⟨rfl, hk⟩

theorem run_idle {es : List Event} {k : Sink} (hk : ∀ r, c.callReply r ≠ some k)
    (he : k ∉ registeredSinks es) :
    deliveries k (c.run u display es).2 = [] ∧ ∀ r, (c.run u display es).1.callReply r ≠ some k := by
  induction es generalizing c with
  | nil => exact ⟨rfl, hk⟩
  | cons e es ih =>
    rw [not_mem_registeredSinks_cons] at he
    obtain ⟨h1, h2⟩ := @handle_idle u display _ _ _ hk he.1
    obtain ⟨ih1, ih2⟩ := ih h2 he.2
    simp [h1, ih1, ih2]

theorem handle_keeps {e : Event} {r : String} (hr : (c.callReply r).isSome)
    (he : e.ends r = false) : ((c.handle u display e).1.callReply r).isSome := by
  cases hs : (c.handle u display e).1.stopped
  · rw [(handle_callStep e hs).1]
    exact callStep_keeps hr he
  · rwa [(handle_of_stopping e hs).1]

/-- While the call under `r` holds sink `k` alone, a run that leaves the connection running
sends `k` what `callItems` says, and `r` keeps `k` exactly until the final reply for it. -/
theorem run_inflight {es : List Event} {r : String} {k : Sink} (hr : c.callReply r = some k)
    (hu : ∀ r', c.callReply r' = some k → r' = r) (hf : c.freshIds u display es = true)
    (he : k ∉ registeredSinks es) (hs : (c.run u display es).1.stopped = false) :
    deliveries k (c.run u display es).2 = callItems u r es ∧
      ((c.run u display es).1.callReply r = some k ↔ ∀ e ∈ es, e.ends r = false) := by
  induction es generalizing c with
  | nil => simp [callItems, hr]
  | cons e es ih =>
    rw [not_mem_registeredSinks_cons] at he
    rw [freshIds_cons] at hf
    obtain ⟨hc1, hc2⟩ := handle_callStep e (stopped_of_run hs)
    obtain ⟨hi, hn⟩ := @callStep_inflight u _ _ _ _ hr hu hf.1 he.1
    rw [← hc1, ← hc2] at *
    rw [run_cons] at hs ⊢
    rw [callItems_cons, deliveries_append, hi]
    cases hend : e.ends r
    · simp only [hend, Bool.false_eq_true, if_false] at hn
      obtain ⟨ih1, ih2⟩ := ih hn.1 hn.2 hf.2 he.2 hs
      simp [ih1, ih2, hend]
    · simp only [hend, if_true] at hn
      obtain ⟨h1, h2⟩ := @run_idle u display _ _ _ hn he.2
      simp [h1, h2, hend]

/-- Over any run of a connection, from `Connection::new` through whatever came before, in
which every call gets an id that is not in flight and its own sink, and which leaves the
connection running: a call registered under `r` with sink `k` gets exactly the readings of
the reply frames for `r` after it, up to and including the first that is not partial, and
nothing else; and `r` holds `k` exactly until that frame. -/
theorem call_gets_replies_until_final (ci : ClientInfo) (h : CallRequestHandler)
    (pre post : List Event) (e : Event) (r : String) (k : Sink)
    (hreg : e.registers = some (r, k))
    (hfresh : (new ci h).freshIds u display (pre ++ e :: post) = true)
    (hsinks : (registeredSinks (pre ++ e :: post)).Nodup)
    (hrun : ((new ci h).run u display (pre ++ e :: post)).1.stopped = false) :
    deliveries k ((new ci h).run u display (pre ++ e :: post)).2 = callItems u r post ∧
      ∀ mid rest, post = mid ++ rest →
        (((new ci h).run u display (pre ++ e :: mid)).1.callReply r = some k ↔
          ∀ e' ∈ mid, e'.ends r = false) := by
  set c := ((new ci h).run u display pre).1
  have hsinks' : k ∉ registeredSinks pre ∧ k ∉ registeredSinks post ∧
      (registeredSinks post).Nodup := by
    simp_all [registeredSinks_append, registeredSinks, List.nodup_append, List.nodup_cons]
  obtain ⟨hpre, hk⟩ := @run_idle u display (new ci h) _ _
    (fun _ => by simp [new]) hsinks'.1
  rw [freshIds_append, freshIds_cons] at hfresh
  have hs := stopped_of_run (@run_append u display (new ci h) pre (e :: post) ▸ hrun)
  obtain ⟨hc1, hc2⟩ := handle_callStep e hs
  rw [callStep_registers hreg] at hc1 hc2
  dsimp only at hc1 hc2
  have hr : (c.handle u display e).1.callReply r = some k := by simp [hc1]
  have hu : ∀ r', (c.handle u display e).1.callReply r' = some k → r' = r := by
    intro r' h'
    rw [hc1, Function.update_apply] at h'
    split at h'
    · assumption
    · exact absurd h' (hk r')
  have hpost := fun mid rest (hm : post = mid ++ rest) =>
    @run_inflight u display _ mid _ _ hr hu (freshIds_append.1 (hm ▸ hfresh.2.2)).1
      (fun hmem => hsinks'.2.1 (hm ▸ registeredSinks_append mid rest ▸ List.mem_append_left _ hmem))
      (stopped_of_run_append (hm ▸ @run_append u display (new ci h) pre (e :: post) ▸ hrun))
  refine ⟨?_, fun mid rest hm => by simpa [run_append] using (hpost mid rest hm).2⟩
  simpa [run_append, hpre, hc2] using (hpost post [] (List.append_nil _).symm).1

theorem stream_call_gets_its_replies :
    let c := new ⟨"", none, []⟩ ⟨fun _ _ _ _ _ => .ok []⟩
    let pre := [Event.rawStreamCall 9 "" "/b" [] 8]
    let e := Event.rawStreamCall 5 "" "/a" [] 7
    let post := [Event.inbound (.ok (.callReply ⟨requestIdOf 5, 0, 1, [1]⟩)),
      .inbound (.ok (.callReply ⟨requestIdOf 9, 0, 0, [2]⟩)),
      .inbound (.ok (.callReply ⟨requestIdOf 5, 400, 0, Utf8.wide.intoBytes "no"⟩)),
      .inbound (.ok (.callReply ⟨requestIdOf 5, 0, 0, [3]⟩))]
    deliveries 7 (c.run Utf8.wide (fun _ => "") (pre ++ e :: post)).2 =
        callItems Utf8.wide (requestIdOf 5) post ∧
      ∀ mid rest, post = mid ++ rest →
        ((c.run Utf8.wide (fun _ => "") (pre ++ e :: mid)).1.callReply (requestIdOf 5) = some 7 ↔
          ∀ e' ∈ mid, e'.ends (requestIdOf 5) = false) := by
  intro c pre e post
  exact call_gets_replies_until_final _ _ pre post e _ 7 rfl (by decide) (by decide) (by decide)

/-- The id a call gets is a draw of 53 random bits, and nothing compares it with the calls in
flight: registering sets its entry whatever it held, and a call that held that id, with a
sink of its own, gets nothing from then on. -/
theorem registration_replaces_inflight_sink (c : Connection) (e : Event) (post : List Event)
    (draw : UInt64) (k k₀ : Sink) (hreg : e.registers = some (requestIdOf draw, k))
    (hc : c.stopped = false) (hu : ∀ r', c.callReply r' = some k₀ → r' = requestIdOf draw)
    (hk₀ : k₀ ∉ registeredSinks (e :: post)) :
    (genId draw).toNat < 2 ^ 53 ∧
      (c.handle u display e).1.callReply = Function.update c.callReply (requestIdOf draw) (some k) ∧
      deliveries k₀ (c.run u display (e :: post)).2 = [] := by
  rw [not_mem_registeredSinks_cons] at hk₀
  obtain ⟨hc1, hc2⟩ := handle_callStep e (@handle_registers_running u display _ _ _ hreg hc)
  rw [callStep_registers hreg] at hc1 hc2
  dsimp only at hc1 hc2
  have hidle : ∀ r, (c.handle u display e).1.callReply r ≠ some k₀ := by
    intro r
    rw [hc1, Function.update_apply]
    split
    · simpa using hk₀.1 _ hreg
    · exact fun h => ‹¬r = _› (hu r h)
  refine ⟨genId_lt draw, hc1, ?_⟩
  simp [hc2, (run_idle hidle hk₀.2).1]

theorem colliding_draw_replaces_sink :
    let c := ((new ⟨"", none, []⟩ ⟨fun _ _ _ _ _ => .ok []⟩).run Utf8.wide (fun _ => "")
      [.rawStreamCall 5 "" "/a" [] 1]).1
    let post := [Event.inbound (.ok (.callReply ⟨requestIdOf 5, 0, 0, [1]⟩))]
    c.callReply (requestIdOf 5) = some 1 ∧
      (c.handle Utf8.wide (fun _ => "") (.rawStreamCall 5 "" "/b" [] 2)).1.callReply =
        Function.update c.callReply (requestIdOf 5) (some 2) ∧
      deliveries 1 (c.run Utf8.wide (fun _ => "") (.rawStreamCall 5 "" "/b" [] 2 :: post)).2 = [] := by
  intro c post
  refine ⟨by decide, (registration_replaces_inflight_sink c (.rawStreamCall 5 "" "/b" [] 2)
    post 5 2 1 rfl (by decide) (fun r' h => ?_) (by decide)).2⟩
  simpa [c, new, handle, handleRawStreamCall, Function.update_apply] using h

/-- Two calls whose draws agree: the second id is a key of `call_reply` when it is assigned,
and the first call never gets the reply. -/
theorem colliding_draw_loses_call :
    let c := new ⟨"", none, []⟩ ⟨fun _ _ _ _ _ => .ok []⟩
    let es := [Event.rawStreamCall 5 "" "/a" [] 1, .rawStreamCall 5 "" "/b" [] 2,
      .inbound (.ok (.callReply ⟨requestIdOf 5, 0, 0, [1]⟩))]
    (c.run Utf8.wide (fun _ => "") (es.take 1)).1.callReply (requestIdOf 5) = some 1 ∧
      (c.run Utf8.wide (fun _ => "") es).1.stopped = false ∧
      deliveries 1 (c.run Utf8.wide (fun _ => "") es).2 = [] ∧
      deliveries 2 (c.run Utf8.wide (fun _ => "") es).2 = [.ok (.full [1])] := by
  decide

/-- An entry of `call_reply` goes only with a non-partial reply frame for its id: over any
run, stopped or not, a key that no such frame answers stays a key, whatever became of the
caller's receiver. -/
theorem call_entry_persists (c : Connection) (es : List Event) (r : String)
    (hr : (c.callReply r).isSome) (hes : ∀ e ∈ es, e.ends r = false) :
    ((c.run u display es).1.callReply r).isSome := by
  induction es generalizing c with
  | nil => exact hr
  | cons e es ih =>
    exact ih _ (handle_keeps hr (hes e (.head _))) fun e' he' => hes e' (.tail _ he')

theorem abandoned_call_stays_registered :
    let c := ((new ⟨"", none, []⟩ ⟨fun _ _ _ _ _ => .ok []⟩).run Utf8.wide (fun _ => "")
      [.rawCall 5 ⟨"", "/a", [], false⟩ 7]).1
    let es := [Event.inbound (.ok (.callReply ⟨requestIdOf 5, 0, 1, []⟩))]
    ((c.run Utf8.wide (fun _ => "") es).1.callReply (requestIdOf 5)).isSome := by
  intro c es
  exact call_entry_persists c es _ (by decide) (by decide)

/-- A unary call whose first reply is partial: its caller is answered and drops the receiver,
yet its id stays a key of `call_reply`. -/
theorem partial_reply_leaves_unary_entry :
    let c := new ⟨"", none, []⟩ ⟨fun _ _ _ _ _ => .ok []⟩
    let es := [Event.rawCall 5 ⟨"", "/a", [], false⟩ 7,
      .inbound (.ok (.callReply ⟨requestIdOf 5, 0, 1, []⟩))]
    fetchResponse (deliveries 7 (c.run Utf8.wide (fun _ => "") es).2) =
        .error (.gsbFailure "streaming response") ∧
      (c.run Utf8.wide (fun _ => "") es).1.stopped = false ∧
      (c.run Utf8.wide (fun _ => "") es).1.callReply (requestIdOf 5) = some 7 := by
  decide

end Connection

end YaServiceBus
