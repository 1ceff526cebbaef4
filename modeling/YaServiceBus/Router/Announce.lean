import YaServiceBus.Router.Binding

/-! What the `RemoteRouter` is told about the router's keys. Every `bind*` sends
`UpdateService::Add` of its key at once, with `do_send`. `unbind` takes its keys away at once,
but the removals are announced by the future it returns: when run, it sends
`UpdateService::Remove` of each key in turn and stops at the first send that fails. The
announcements say a key is served when the last of them about it is an `Add`. Over any
interleaving of router calls and steps of those futures, with every send delivered, a key
announced as served is bound, or its removal has still to be sent; when each future is run to
its end before the next call, the keys announced are exactly the keys bound. -/
namespace YaServiceBus

/-- What an announcement says of `k`, after `b`. -/
def UpdateService.serves (k : String) (b : Bool) : UpdateService → Bool
  | .add a => if a = k then true else b
  | .remove a => if a = k then false else b

/-- Whether the announcements, in order, leave `k` served. -/
def announced (k : String) (log : List UpdateService) : Bool :=
  log.foldl (UpdateService.serves k) false

@[simp] theorem announced_nil (k : String) : announced k [] = false := rfl

@[simp] theorem announced_add (k a : String) (log : List UpdateService) :
    announced k (log ++ [.add a]) = (decide (a = k) || announced k log) := by
  simp only [announced, List.foldl_append, List.foldl_cons, List.foldl_nil, UpdateService.serves]
  split <;> simp [*]

@[simp] theorem announced_remove (k a : String) (log : List UpdateService) :
    announced k (log ++ [.remove a]) = (!decide (a = k) && announced k log) := by
  simp only [announced, List.foldl_append, List.foldl_cons, List.foldl_nil, UpdateService.serves]
  split <;> simp [*]

variable {τ : Type} {M : τ → MessageType}

/-- The router calls that change its keys. -/
inductive RouterOp (M : τ → MessageType)
  | bind (addr : String) (t : τ) (endpoint : EnvelopeRecipient (M t))
  | bindStream (addr : String) (t : τ) (endpoint : StreamCallRecipient (M t))
  | bindStreamActor (addr : String) (t : τ) (endpoint : StreamCallRecipient (M t))
  | bindActor (addr : String) (t : τ) (endpoint : EnvelopeRecipient (M t))
  | bindRaw (addr : String) (endpoint : RawCallRecipient)
  | bindRawDual (addr : String) (rpc : RawCallRecipient) (stream : RawStreamRecipient)
  | unbind (addr : String)

/-- The router behind its mutex, the futures `unbind` returned that are not done, each with
the removals it has still to send, and the announcements the `RemoteRouter` got, in order. -/
structure Registry (M : τ → MessageType) where
  router : Router M
  pending : List (List String)
  log : List UpdateService

/-- What happens to the registry: a router call, or one step of the `j`-th pending future,
whose send is delivered or fails. -/
inductive RegistryEvent (M : τ → MessageType)
  | call (o : RouterOp M)
  | poll (j : Nat) (delivered : Bool)

namespace Registry

/-- `router()` before any call. -/
def new : Registry M := ⟨Router.new, [], []⟩

/-- A `bind*`: the router it gives, and its announcement sent with `do_send`. -/
def bound (s : Registry M) (p : Router M × UpdateService) : Registry M :=
  ⟨p.1, s.pending, s.log ++ [p.2]⟩

/-- One event: a call under the router's mutex, or one send of a pending future of `unbind`;
a future whose send fails ends there, with the rest of its removals never sent. -/
def step (s : Registry M) : RegistryEvent M → Registry M
  | .call (.bind addr t h) => s.bound (s.router.bind addr t h)
  | .call (.bindStream addr t h) => s.bound (s.router.bindStream addr t h)
  | .call (.bindStreamActor addr t h) => s.bound (s.router.bindStreamActor addr t h)
  | .call (.bindActor addr t h) => s.bound (s.router.bindActor addr t h)
  | .call (.bindRaw addr h) => s.bound (s.router.bindRaw addr h)
  | .call (.bindRawDual addr rpc stream) => s.bound (s.router.bindRawDual addr rpc stream)
  | .call (.unbind addr) =>
    ⟨(s.router.unbind addr).1, s.pending ++ [(s.router.unbind addr).2], s.log⟩
  | .poll j delivered =>
    match s.pending[j]? with
    | some (a :: rest) =>
      if delivered then ⟨s.router, s.pending.set j rest, s.log ++ [.remove a]⟩
      else ⟨s.router, s.pending.eraseIdx j, s.log⟩
    | some [] => ⟨s.router, s.pending.eraseIdx j, s.log⟩
    | none => s

/-- A run: the events in order. -/
def run (s : Registry M) : List (RegistryEvent M) → Registry M
  | [] => s
  | e :: es => (s.step e).run es

@[simp] theorem run_nil (s : Registry M) : s.run [] = s := rfl

@[simp] theorem run_cons (s : Registry M) (e : RegistryEvent M) (es : List (RegistryEvent M)) :
    s.run (e :: es) = (s.step e).run es := rfl

theorem run_append (s : Registry M) (es es' : List (RegistryEvent M)) :
    s.run (es ++ es') = (s.run es).run es' := by
  induction es generalizing s with
  | nil => rfl
  | cons e es ih => exact ih _

/-- Every call but `unbind` binds a slot under a key and announces it. -/
theorem step_call_bind (s : Registry M) {o : RouterOp M} (ho : ∀ addr, o ≠ .unbind addr) :
    ∃ key slot, s.step (.call o) = s.bound (s.router.bindSlot key slot) := by
  cases o <;> first | exact ⟨_, _, rfl⟩ | exact absurd rfl (ho _)

theorem keys_bound (s : Registry M) (key : String) (slot : Slot M) :
    (s.bound (s.router.bindSlot key slot)).router.handlers.keys =
      key :: s.router.handlers.keys.filter (· != key) :=
  PrefixLookupBag.keys_insert _ _ _

end Registry

namespace Router

theorem mem_keys_unbind {r : Router M} {addr k : String} :
    k ∈ (r.unbind addr).1.handlers.keys ↔
      k ∈ r.handlers.keys ∧ k ∉ (r.unbind addr).2 := by
  simp only [unbind, PrefixLookupBag.keys_foldl_remove, List.mem_filter, decide_eq_true_eq]

end Router

/-- Sending the next removal of a pending future leaves every other removal pending. -/
theorem mem_flatten_set {P : List (List String)} {j : Nat} {a k : String} {rest : List String}
    (h : P[j]? = some (a :: rest)) (hk : k ∈ P.flatten) (hka : a ≠ k) :
    k ∈ (P.set j rest).flatten := by
  obtain ⟨x, hx, hkx⟩ := List.mem_flatten.1 hk
  obtain ⟨i, hi⟩ := List.mem_iff_getElem?.1 hx
  refine List.mem_flatten.2 ?_
  by_cases hij : j = i
  · subst hij
    obtain rfl : a :: rest = x := Option.some.inj (h.symm.trans hi)
    exact ⟨rest, List.mem_iff_getElem?.2 ⟨j, List.getElem?_set_self
      (List.getElem?_eq_some_iff.1 h).1⟩, (List.mem_cons.1 hkx).resolve_left (Ne.symm hka)⟩
  · exact ⟨x, List.mem_iff_getElem?.2 ⟨i, by rw [List.getElem?_set_ne hij, hi]⟩, hkx⟩

/-- A future with nothing left to send goes without taking a removal with it. -/
theorem mem_flatten_eraseIdx {P : List (List String)} {j : Nat} {k : String}
    (h : P[j]? = some []) (hk : k ∈ P.flatten) : k ∈ (P.eraseIdx j).flatten := by
  obtain ⟨x, hx, hkx⟩ := List.mem_flatten.1 hk
  obtain ⟨i, hi⟩ := List.mem_iff_getElem?.1 hx
  have hij : i ≠ j := by rintro rfl; rw [h, Option.some.injEq] at hi; subst hi; cases hkx
  exact List.mem_flatten.2 ⟨x, List.mem_eraseIdx_iff_getElem?.2 ⟨i, hij, hi⟩, hkx⟩

namespace Registry

/-- What the `RemoteRouter` was told is served is bound, or its removal is still to be
sent. -/
def Safe (s : Registry M) : Prop :=
  ∀ k, announced k s.log = true → k ∈ s.router.handlers.keys ∨ k ∈ s.pending.flatten

theorem new_safe : (new : Registry M).Safe := fun _ h => absurd h (by simp [new])

theorem step_safe {s : Registry M} (hs : s.Safe) {e : RegistryEvent M}
    (he : ∀ j, e ≠ .poll j false) : (s.step e).Safe := by
  intro k hk
  cases e with
  | call o =>
    by_cases ho : ∃ addr, o = .unbind addr
    · obtain ⟨addr, rfl⟩ := ho
      simp only [step] at hk ⊢
      by_cases hka : k ∈ (s.router.unbind addr).2
      · exact .inr (by simp [hka])
      · rcases hs k hk with h | h
        · exact .inl (Router.mem_keys_unbind.2 ⟨h, hka⟩)
        · exact .inr (by simp [h])
    · push_neg at ho
      obtain ⟨key, slot, hst⟩ := step_call_bind s ho
      rw [hst] at hk
      rw [hst, keys_bound]
      simp only [bound, Router.bindSlot, announced_add, Bool.or_eq_true, decide_eq_true_eq] at hk
      by_cases hkey : key = k
      · exact .inl (hkey ▸ List.mem_cons_self _ _)
      · rcases hs k (hk.resolve_left hkey) with h | h
        · exact .inl (List.mem_cons_of_mem _
            (List.mem_filter.2 ⟨h, by simpa using Ne.symm hkey⟩))
        · exact .inr h
  | poll j d =>
    obtain rfl : d = true := by cases d; exact absurd rfl (he j); rfl
    simp only [step] at hk ⊢
    split at hk
    · rename_i a rest hP
      simp only [if_true, announced_remove, Bool.and_eq_true, Bool.not_eq_true',
        decide_eq_false_iff_not] at hk ⊢
      rcases hs k hk.2 with h | h
      · exact .inl h
      · exact .inr (mem_flatten_set hP h hk.1)
    · rename_i hP
      rcases hs k hk with h | h
      · exact .inl h
      · exact .inr (mem_flatten_eraseIdx hP h)
    · exact hs k hk

/-- The `j`-th future run to its end, every send delivered: its removals are announced in
turn, and it goes. -/
theorem run_polls (r : Router M) (P : List (List String)) (addrs : List String)
    (log : List UpdateService) :
    (⟨r, P ++ [addrs], log⟩ : Registry M).run
        (List.replicate (addrs.length + 1) (.poll P.length true)) =
      ⟨r, P, log ++ addrs.map .remove⟩ := by
  induction addrs generalizing log with
  | nil => simp [step, List.eraseIdx_append_of_length_le]
  | cons a rest ih =>
    have hs : (⟨r, P ++ [a :: rest], log⟩ : Registry M).step (.poll P.length true) =
        ⟨r, P ++ [rest], log ++ [.remove a]⟩ := by
      simp [step, List.set_append]
    rw [List.length_cons, List.replicate_succ, run_cons, hs, ih, List.append_assoc,
      List.singleton_append, List.map_cons]

theorem run_safe {s : Registry M} (hs : s.Safe) {es : List (RegistryEvent M)}
    (hes : ∀ e ∈ es, ∀ j, e ≠ .poll j false) : (s.run es).Safe := by
  induction es generalizing s with
  | nil => exact hs
  | cons e es ih =>
    exact ih (step_safe hs (hes e (.head _))) fun e' he' => hes e' (.tail _ he')

end Registry

/-- Whatever the interleaving of router calls and steps of the futures `unbind` returns, while
every send reaches the `RemoteRouter` each key it was told is served is bound in the router,
or its removal has still to be sent: the `RemoteRouter` is never left routing to a key this
router dropped, once the futures are done. -/
theorem announced_bound_or_pending (es : List (RegistryEvent M))
    (hes : ∀ e ∈ es, ∀ j, e ≠ .poll j false) (k : String)
    (hk : announced k ((Registry.new : Registry M).run es).log = true) :
    k ∈ ((Registry.new : Registry M).run es).router.handlers.keys ∨
      k ∈ ((Registry.new : Registry M).run es).pending.flatten :=
  Registry.run_safe Registry.new_safe hes k hk

theorem unbound_key_awaits_removal :
    let h : RawCallRecipient := fun _ => .ok (.ok [])
    let es : List (RegistryEvent fun _ : Unit => MessageType.byte "B") :=
      [.call (.bindRaw "/a/x" h), .call (.unbind "/a")]
    (∀ e ∈ es, ∀ j, e ≠ .poll j false) ∧ announced "/a/x" (Registry.new.run es).log = true ∧
      ("/a/x" ∈ (Registry.new.run es).router.handlers.keys ∨
        "/a/x" ∈ (Registry.new.run es).pending.flatten) := by
  intro h es
  have hes : ∀ e ∈ es, ∀ j, e ≠ .poll j false := by simp [es]
  have hk : announced "/a/x" (Registry.new.run es).log = true := by decide
  exact ⟨hes, hk, announced_bound_or_pending es hes "/a/x" hk⟩

namespace Registry

/-- The events of a router call whose future, if it returns one, is run to its end at once,
every send delivered. -/
def awaited (s : Registry M) : RouterOp M → List (RegistryEvent M)
  | .unbind addr => .call (.unbind addr) ::
      List.replicate ((s.router.unbind addr).2.length + 1) (.poll s.pending.length true)
  | o => [.call o]

/-- Router calls, each awaited before the next. -/
def runAwaited (s : Registry M) : List (RouterOp M) → Registry M
  | [] => s
  | o :: os => (s.run (s.awaited o)).runAwaited os

/-- No removal is pending, and the keys announced are the keys bound. -/
def Exact (s : Registry M) : Prop :=
  s.pending = [] ∧ ∀ k, announced k s.log = true ↔ k ∈ s.router.handlers.keys

theorem announced_removes (k : String) (log : List UpdateService) (addrs : List String) :
    announced k (log ++ addrs.map .remove) = (!decide (k ∈ addrs) && announced k log) := by
  induction addrs generalizing log with
  | nil => simp
  | cons a rest ih =>
    rw [List.map_cons, ← List.singleton_append, ← List.append_assoc, ih, announced_remove]
    by_cases h : a = k
    · simp [h]
    · simp [h, Ne.symm h]

theorem awaited_exact {s : Registry M} (hs : s.Exact) (o : RouterOp M) :
    (s.run (s.awaited o)).Exact := by
  by_cases ho : ∃ addr, o = .unbind addr
  · obtain ⟨addr, rfl⟩ := ho
    have hrun := run_polls (s.router.unbind addr).1 s.pending (s.router.unbind addr).2 s.log
    simp only [awaited, run_cons, step] at hrun ⊢
    rw [hrun]
    refine ⟨hs.1, fun k => ?_⟩
    rw [announced_removes, Router.mem_keys_unbind, ← hs.2 k]
    simp [and_comm]
  · push_neg at ho
    obtain ⟨key, slot, hst⟩ := step_call_bind s ho
    have ha : s.awaited o = [.call o] := by cases o <;> first | rfl | exact absurd rfl (ho _)
    rw [ha, run_cons, run_nil, hst]
    refine ⟨hs.1, fun k => ?_⟩
    rw [keys_bound]
    simp only [bound, Router.bindSlot, announced_add, Bool.or_eq_true, decide_eq_true_eq,
      hs.2 k, List.mem_cons, List.mem_filter, bne_iff_ne]
    by_cases h : key = k <;> simp [h, eq_comm]

end Registry

/-- When each router call is awaited before the next (every future `unbind` returns run to its
end, every send delivered), the keys the `RemoteRouter` was told are served are exactly the
keys bound in the router, after any sequence of calls. -/
theorem awaited_calls_announce_keys (os : List (RouterOp M)) :
    ((Registry.new : Registry M).runAwaited os).pending = [] ∧
      ∀ k, announced k ((Registry.new : Registry M).runAwaited os).log = true ↔
        k ∈ ((Registry.new : Registry M).runAwaited os).router.handlers.keys := by
  suffices h : ∀ s : Registry M, s.Exact → (s.runAwaited os).Exact from
    h _ ⟨rfl, fun k => by simp [Registry.new, Router.new, PrefixLookupBag.empty,
      PrefixLookupBag.keys]⟩
  induction os with
  | nil => exact fun _ hs => hs
  | cons o os ih => exact fun s hs => ih _ (Registry.awaited_exact hs o)

/-- A future of `unbind` that runs after the key it removes is bound again withdraws the key
from the `RemoteRouter`, which is left not routing to a key the router serves. -/
theorem removal_after_rebind_withdraws_key (s : Registry M) (addr k : String)
    (h : RawCallRecipient) (hk : k ∈ (s.router.unbind addr).2) :
    k ∈ ((s.run [.call (.unbind addr), .call (.bindRaw k h)]).run
        (List.replicate ((s.router.unbind addr).2.length + 1)
          (.poll s.pending.length true))).router.handlers.keys ∧
      announced k ((s.run [.call (.unbind addr), .call (.bindRaw k h)]).run
        (List.replicate ((s.router.unbind addr).2.length + 1)
          (.poll s.pending.length true))).log = false := by
  have hrun := Registry.run_polls ((s.router.unbind addr).1.bindRaw k h).1 s.pending
    (s.router.unbind addr).2 (s.log ++ [.add k])
  simp only [Registry.run_cons, Registry.run_nil, Registry.step, Registry.bound,
    Router.bindRaw, Router.bindSlot] at hrun ⊢
  rw [hrun, Registry.announced_removes]
  simp [hk]

theorem rebound_key_withdrawn_by_stale_removal :
    let h : RawCallRecipient := fun _ => .ok (.ok [])
    let s := (Registry.new : Registry fun _ : Unit => MessageType.byte "B").run
      [.call (.bindRaw "/a/x" h)]
    "/a/x" ∈ (s.router.unbind "/a").2 ∧
    "/a/x" ∈ ((s.run [.call (.unbind "/a"), .call (.bindRaw "/a/x" h)]).run
        (List.replicate ((s.router.unbind "/a").2.length + 1)
          (.poll s.pending.length true))).router.handlers.keys ∧
      announced "/a/x" ((s.run [.call (.unbind "/a"), .call (.bindRaw "/a/x" h)]).run
        (List.replicate ((s.router.unbind "/a").2.length + 1)
          (.poll s.pending.length true))).log = false := by
  intro h s
  have hk : "/a/x" ∈ (s.router.unbind "/a").2 := by decide
  exact ⟨hk, removal_after_rebind_withdraws_key s "/a" "/a/x" h hk⟩

end YaServiceBus
