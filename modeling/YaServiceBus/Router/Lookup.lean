import YaServiceBus.Router.Announce

/-! The router's lookup over whole runs of router calls. `get_mut` finds the longest key an
address falls under, and an address falls under no key longer than itself: so a key that is
bound is found by its own address, whatever else is bound, shorter keys it falls under
included. A binding thus stays in force through every call that neither binds its key again
nor unbinds a pattern that covers it. -/
namespace YaServiceBus

namespace PrefixLookupBag

variable {α : Type}

/-- A key that is bound is found by its own address. -/
theorem getMut_of_mem {b : PrefixLookupBag α} {k : String} {v : α} (h : (k, v) ∈ b.entries) :
    b.getMut k = some v :=
  getMut_of_longest h (keyMatches_self k) fun _ _ he => by
    simpa only [String.length_data] using (prefix_of_keyMatches he).length_le

theorem mem_entries_foldl_remove {b : PrefixLookupBag α} {k : String} {v : α}
    (h : (k, v) ∈ b.entries) {ks : List String} (hk : k ∉ ks) :
    (k, v) ∈ (ks.foldl remove b).entries := by
  induction ks generalizing b with
  | nil => exact h
  | cons a ks ih =>
    rw [List.mem_cons, not_or] at hk
    exact ih (List.mem_filter.2 ⟨h, by simpa using hk.1⟩) hk.2

end PrefixLookupBag

variable {τ : Type} {M : τ → MessageType}

/-- The key a call binds. -/
def RouterOp.boundKey : RouterOp M → Option String
  | .bind addr t _ | .bindStream addr t _ | .bindStreamActor addr t _ | .bindActor addr t _ =>
    some (typedKey addr (M t))
  | .bindRaw addr _ | .bindRawDual addr _ _ => some addr
  | .unbind _ => none

/-- Whether an event leaves the binding of `k` alone: it binds another key, or unbinds a
pattern that does not cover `k`, or is a step of a future. -/
def RegistryEvent.keeps (k : String) : RegistryEvent M → Bool
  | .call (.unbind addr) => !(Router.unbindPattern addr).data.isPrefixOf k.data
  | .call o => o.boundKey != some k
  | .poll _ _ => true

namespace Registry

theorem step_call_boundKey (s : Registry M) {o : RouterOp M} {key : String}
    (hk : o.boundKey = some key) :
    ∃ slot, s.step (.call o) = s.bound (s.router.bindSlot key slot) := by
  cases o <;> simp only [RouterOp.boundKey, Option.some.injEq, reduceCtorEq] at hk <;>
    exact hk ▸ ⟨_, rfl⟩

theorem step_poll_router (s : Registry M) (j : Nat) (d : Bool) :
    (s.step (.poll j d)).router = s.router := by
  simp only [step]
  split <;> (try split) <;> rfl

/-- An event that leaves the binding of `k` alone keeps its entry. -/
theorem step_keeps {s : Registry M} {k : String} {v : Slot M}
    (h : (k, v) ∈ s.router.handlers.entries) {e : RegistryEvent M} (he : e.keeps k = true) :
    (k, v) ∈ (s.step e).router.handlers.entries := by
  rcases e with o | ⟨j, d⟩
  · cases hb : o.boundKey with
    | some key =>
      obtain ⟨slot, hst⟩ := step_call_boundKey s hb
      have hne : key ≠ k := by
        cases o <;> simp_all [RegistryEvent.keeps, RouterOp.boundKey]
      rw [hst]
      exact List.mem_cons_of_mem _ (List.mem_filter.2 ⟨h, by simpa using Ne.symm hne⟩)
    | none =>
      obtain ⟨addr, rfl⟩ : ∃ addr, o = .unbind addr := by
        cases o <;> simp_all [RouterOp.boundKey]
      refine PrefixLookupBag.mem_entries_foldl_remove h fun hk => ?_
      simp_all [RegistryEvent.keeps, Router.unbind]
  · rwa [step_poll_router]

theorem run_keeps {s : Registry M} {k : String} {v : Slot M}
    (h : (k, v) ∈ s.router.handlers.entries) {es : List (RegistryEvent M)}
    (hes : ∀ e ∈ es, e.keeps k = true) : (k, v) ∈ (s.run es).router.handlers.entries := by
  induction es generalizing s with
  | nil => exact h
  | cons e es ih => exact ih (step_keeps h (hes e (.head _))) fun e' he' => hes e' (.tail _ he')

end Registry

variable [DecidableEq τ]

/-- After `bind` or `bind_actor` of a handler for `T` at `addr`, `forward` of a `T` to `addr`
calls that handler through every later event that leaves `addr/T::ID` bound. -/
theorem Registry.forward_after_bind (s : Registry M) (remote : RemoteCall) {addr : String}
    {t : τ} {h : EnvelopeRecipient (M t)} {o : RouterOp M}
    (ho : o = .bind addr t h ∨ o = .bindActor addr t h) (es : List (RegistryEvent M))
    (hes : ∀ e ∈ es, e.keeps (typedKey addr (M t)) = true) (caller : String) (msg : (M t).Msg) :
    ((s.step (.call o)).run es).router.forward remote addr t caller msg =
      (h caller msg).mapError (.fromAddr (typedKey addr (M t))) := by
  have hmem : (typedKey addr (M t), ⟨.envelope t h⟩) ∈ (s.step (.call o)).router.handlers.entries := by
    rcases ho with rfl | rfl <;> exact List.mem_cons_self _ _
  exact Router.forward_local _ remote (PrefixLookupBag.getMut_of_mem (Registry.run_keeps hmem hes))
    caller msg

/-- After `bind` or `bind_actor` of a handler for `T` at `addr`, `forward` of a `T` to `addr`
calls that handler, whatever was bound before, and announces the new key. -/
theorem Router.bind_forward (r : Router M) (remote : RemoteCall) (addr : String) (t : τ)
    (h : EnvelopeRecipient (M t)) (caller : String) (msg : (M t).Msg) :
    (r.bind addr t h).1.forward remote addr t caller msg =
        (h caller msg).mapError (.fromAddr (typedKey addr (M t))) ∧
      (r.bindActor addr t h).1.forward remote addr t caller msg =
        (h caller msg).mapError (.fromAddr (typedKey addr (M t))) ∧
      (r.bind addr t h).2 = .add (typedKey addr (M t)) :=
  ⟨Registry.forward_after_bind ⟨r, [], []⟩ remote (.inl rfl) [] nofun caller msg,
    Registry.forward_after_bind ⟨r, [], []⟩ remote (.inr rfl) [] nofun caller msg, rfl⟩

/-- After `bind` of a handler for `T` at `addr`, `forward` of a `T` to `addr` calls that
handler through every later router call that neither binds `addr/T::ID` again nor unbinds a
pattern covering it, and every step of the futures of `unbind`: other bindings, under a
shorter key the address falls under included, do not take its place. -/
theorem forward_keeps_binding (s : Registry M) (remote : RemoteCall) (addr : String) (t : τ)
    (h : EnvelopeRecipient (M t)) (es : List (RegistryEvent M))
    (hes : ∀ e ∈ es, e.keeps (typedKey addr (M t)) = true) (caller : String) (msg : (M t).Msg) :
    ((s.step (.call (.bind addr t h))).run es).router.forward remote addr t caller msg =
      (h caller msg).mapError (.fromAddr (typedKey addr (M t))) :=
  Registry.forward_after_bind s remote (.inl rfl) es hes caller msg

theorem parent_binding_does_not_shadow :
    let M := fun _ : Unit => MessageType.byte "B"
    let h : EnvelopeRecipient (M ()) := fun _ x => .ok x
    let raw : RawCallRecipient := fun _ => .ok (.ok [])
    let es : List (RegistryEvent M) := [.call (.bindRaw "/a" raw), .call (.unbind "/a/y"),
      .poll 0 true, .call (.bindRawDual "/a/x" raw fun _ _ _ => [])]
    (∀ e ∈ es, e.keeps (typedKey "/a/x" (M ())) = true) ∧
    (((Registry.new : Registry M).step (.call (.bind "/a/x" () h))).run es).router.forward
        (fun _ => .ok (.ok [])) "/a/x" () "me" (7 : UInt8) =
      (h "me" (7 : UInt8)).mapError (.fromAddr (typedKey "/a/x" (M ()))) := by
  intro M h raw es
  have hes : ∀ e ∈ es, e.keeps (typedKey "/a/x" (M ())) = true := by decide
  exact ⟨hes, forward_keeps_binding .new (fun _ => .ok (.ok [])) "/a/x" () h es hes "me"
    (7 : UInt8)⟩

end YaServiceBus
