import YaServiceBus.Connection.Calls

/-! Two connections joined by a broker. The broker relays, in order, the frames `a` writes to
`b` and those `b` writes to `a`; `a` makes calls, and `b` serves them with the futures its
`handle_call_request` spawns. Here are the link, its runs under any interleaving, and the two
folds a call goes through: `b`'s, from the handler's stream to reply frames, and `a`'s, from
reply frames to the items of the call's sink. -/
namespace YaServiceBus

/-- The frame an effect writes. -/
def Effect.written : Effect → Option GsbMessage
  | .write m => some m
  | _ => none

attribute [simp] Effect.written

/-- The frames written, in order. -/
def written (effs : List Effect) : List GsbMessage := effs.filterMap Effect.written

@[simp] theorem written_nil : written [] = [] := rfl

@[simp] theorem written_cons (e : Effect) (effs : List Effect) :
    written (e :: effs) = (e.written).toList ++ written effs := by
  simp only [written, List.filterMap_cons]; cases e.written <;> rfl

/-- The reply frames `b` writes, through the fold of `handle_call_request`, for the rest of a
handler's stream, given whether the last frame it wrote was final. -/
def serveFrames (u : Utf8) (display : Error → String) (r : String) :
    List (Except Error ResponseChunk) → Bool → List CallReply
  | [], gotEos => if gotEos then [] else [eosReply r]
  | x :: xs, _ => (callReplyOf u display r x).2 :: serveFrames u display r xs (callReplyOf u display r x).1

/-- The items the sink of a call gets from its reply frames, by `handle_reply`: each frame's
item, up to and including the first frame that is not partial. -/
def clientItems (u : Utf8) : List CallReply → List (Except Error ResponseChunk)
  | [] => []
  | f :: fs => (replyTranslation u f).toList ++ if f.replyType = 1 then clientItems u fs else []

/-- What the sink of a remote call is meant to receive, for the handler's stream `s`: `s` up to
and including its first terminal item (a `Full` or an `Err`), an `Err e` becoming
`GsbFailure(e.to_string())`, and one empty `Full` after a stream with no terminal item. -/
def clientView (display : Error → String) :
    List (Except Error ResponseChunk) → List (Except Error ResponseChunk)
  | [] => [.ok (.full [])]
  | .ok (.part d) :: s => .ok (.part d) :: clientView display s
  | .ok (.full d) :: _ => [.ok (.full d)]
  | .error e :: _ => [.error (.gsbFailure (display e))]

section Folds

variable (u : Utf8) (display : Error → String) (r : String)

/-- The two folds compose to the reading of the stream the sink is meant to receive. -/
theorem clientItems_serveFrames (s : List (Except Error ResponseChunk)) :
    clientItems u (serveFrames u display r s false) = clientView display s := by
  induction s with
  | nil => simp [serveFrames, eosReply, clientItems, replyTranslation, clientView]
  | cons x s ih =>
    rcases x with e | d | d
    · simp [serveFrames, callReplyOf, clientItems, replyTranslation, clientView,
        CallReplyCode.toInt]
    · simpa [serveFrames, callReplyOf, clientItems, replyTranslation, clientView,
        CallReplyCode.toInt, ResponseChunk.replyType, ResponseChunk.intoVec,
        CallReplyType.toInt] using ih
    · simp [serveFrames, callReplyOf, clientItems, replyTranslation, clientView,
        CallReplyCode.toInt, ResponseChunk.replyType, ResponseChunk.intoVec, CallReplyType.toInt]

/-- Every frame `b` writes for a call is one `a` can read. -/
theorem serveFrames_valid (s : List (Except Error ResponseChunk)) (gotEos : Bool) :
    ∀ f ∈ serveFrames u display r s gotEos, (replyTranslation u f).isSome := by
  induction s generalizing gotEos with
  | nil => cases gotEos <;> simp [serveFrames, eosReply, replyTranslation]
  | cons x s ih =>
    simp only [serveFrames, List.mem_cons, forall_eq_or_imp]
    refine ⟨?_, ih _⟩
    rcases x with e | d | d <;> simp [callReplyOf, replyTranslation, CallReplyCode.toInt]

/-- Whatever the handler's stream, `clientView` of it is parts followed by exactly one item
that is not a part: every call ends with one terminal item, and it comes last. -/
theorem clientView_terminal_last (s : List (Except Error ResponseChunk)) :
    ∃ (ds : List Bytes) (last : Except Error ResponseChunk),
      clientView display s = ds.map (fun d => .ok (.part d)) ++ [last] ∧
        ∀ d, last ≠ .ok (.part d) := by
  induction s with
  | nil => exact ⟨[], _, rfl, by simp⟩
  | cons x s ih =>
    rcases x with e | d | d
    · exact ⟨[], _, rfl, by simp⟩
    · obtain ⟨ds, last, h, hl⟩ := ih
      exact ⟨d :: ds, last, by simp [clientView, h], hl⟩
    · exact ⟨[], _, rfl, by simp⟩

end Folds

/-- Two connections joined by a broker, with the frames in flight each way. -/
structure Link where
  a : Connection
  b : Connection
  toB : List GsbMessage
  toA : List GsbMessage

/-- What can happen next on a link: `a` handles a call, the broker hands the oldest frame in
flight to one side, or one of `b`'s call futures makes a step. -/
inductive LinkEvent
  | call (draw : UInt64) (msg : RpcRawCall) (sink : Sink)
  | streamCall (draw : UInt64) (caller addr : String) (body : Bytes) (sink : Sink)
  | relayRequest
  | serve (i : Nat)
  | relayReply

/-- The request frame `a` writes for a call. -/
def LinkEvent.request : LinkEvent → Option CallRequest
  | .call draw msg _ => some ⟨requestIdOf draw, msg.caller, msg.addr, msg.body, msg.noReply⟩
  | .streamCall draw caller addr body _ => some ⟨requestIdOf draw, caller, addr, body, false⟩
  | _ => none

/-- The call a link event registers on `a`: its id and sink. -/
def LinkEvent.registers : LinkEvent → Option (String × Sink)
  | .call draw msg k => if msg.noReply then none else some (requestIdOf draw, k)
  | .streamCall draw _ _ _ k => some (requestIdOf draw, k)
  | _ => none

/-- The ids of the calls the events make. -/
def callIds (es : List LinkEvent) : List String :=
  es.filterMap fun e => e.request.map CallRequest.requestId

/-- The sinks of the calls the events make. -/
def callSinks (es : List LinkEvent) : List Sink :=
  es.filterMap fun e => e.registers.map Prod.snd

namespace Link

/-- Two connections just joined, with nothing in flight. -/
def new (a b : Connection) : Link := ⟨a, b, [], []⟩

variable (u : Utf8) (display : Error → String)

/-- One event on the link, with what `a` did outside its state. -/
def step (L : Link) : LinkEvent → Link × List Effect
  | .call draw msg k =>
    let r := L.a.handle u display (.rawCall draw msg k)
    ({ L with a := r.1, toB := L.toB ++ written r.2 }, r.2)
  | .streamCall draw caller addr body k =>
    let r := L.a.handle u display (.rawStreamCall draw caller addr body k)
    ({ L with a := r.1, toB := L.toB ++ written r.2 }, r.2)
  | .relayRequest =>
    match L.toB with
    | m :: rest =>
      let r := L.b.handle u display (.inbound (.ok m))
      ({ L with b := r.1, toB := rest, toA := L.toA ++ written r.2 }, [])
    | [] => (L, [])
  | .serve i =>
    let r := L.b.handle u display (.callTask i)
    ({ L with b := r.1, toA := L.toA ++ written r.2 }, [])
  | .relayReply =>
    match L.toA with
    | m :: rest =>
      let r := L.a.handle u display (.inbound (.ok m))
      ({ L with a := r.1, toA := rest, toB := L.toB ++ written r.2 }, r.2)
    | [] => (L, [])

/-- A run of the link, with everything `a` did outside its state. -/
def run (L : Link) : List LinkEvent → Link × List Effect
  | [] => (L, [])
  | e :: es =>
    let r := L.step u display e
    let r' := run r.1 es
    (r'.1, r.2 ++ r'.2)

@[simp] theorem run_nil (L : Link) : L.run u display [] = (L, []) := rfl

@[simp] theorem run_cons (L : Link) (e : LinkEvent) (es : List LinkEvent) :
    L.run u display (e :: es) =
      (((L.step u display e).1.run u display es).1,
        (L.step u display e).2 ++ ((L.step u display e).1.run u display es).2) := rfl

theorem run_append (L : Link) (es es' : List LinkEvent) :
    L.run u display (es ++ es') =
      (((L.run u display es).1.run u display es').1,
        (L.run u display es).2 ++ ((L.run u display es).1.run u display es').2) := by
  induction es generalizing L with
  | nil => simp
  | cons e es ih => simp [ih]

end Link

end YaServiceBus
