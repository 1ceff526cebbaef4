import YaServiceBus.Link.Pipeline

/-! Progress on the link. With no new call, the broker and `b`'s futures empty it: hand `b`
every request in flight, step `b`'s oldest future until none is left, then hand `a` every
reply. Each phase takes as many steps as its queue holds, so the drain is a list computed from
the link, and after it nothing is in flight and `b` has no future left, as long as `b` runs. -/
namespace YaServiceBus

/-- The steps `b`'s futures have still to take: one per item of a stream still to fold, and
one to end it. -/
def CallTask.work (ts : List CallTask) : Nat := (ts.map fun t => t.rest.length + 1).sum

@[simp] theorem CallTask.work_nil : CallTask.work [] = 0 := rfl

@[simp] theorem CallTask.work_cons (t : CallTask) (ts : List CallTask) :
    CallTask.work (t :: ts) = t.rest.length + 1 + CallTask.work ts := by
  simp [CallTask.work]

namespace Connection

variable {u : Utf8} {display : Error → String} {c : Connection}

@[simp] theorem stepTask_stopped (i : Nat) : (c.stepTask u display i).1.stopped = c.stopped := by
  unfold stepTask
  split
  · rfl
  · split <;> rfl

/-- A step of the oldest future takes one step off the work of them all. -/
theorem stepTask_zero_work {t : CallTask} {ts : List CallTask} (h : c.tasks = t :: ts) :
    CallTask.work (c.stepTask u display 0).1.tasks + 1 = CallTask.work c.tasks := by
  rcases hx : t.rest with _ | ⟨x, xs⟩
  · rw [stepTask_nil (by simp [h]) hx]
    simp [h, hx]
    omega
  · rw [stepTask_cons (by simp [h]) hx]
    simp [h, hx]
    omega

end Connection

namespace Link

variable (u : Utf8) (display : Error → String)

/-- The steps that empty the link with no new call: every request in flight handed to `b`,
then `b`'s oldest future stepped until none is left, then every reply handed to `a`. -/
def drain (L : Link) : List LinkEvent :=
  let L₁ := (L.run u display (List.replicate L.toB.length .relayRequest)).1
  let L₂ := (L₁.run u display (List.replicate (CallTask.work L₁.b.tasks) (.serve 0))).1
  List.replicate L.toB.length .relayRequest ++ List.replicate (CallTask.work L₁.b.tasks) (.serve 0) ++
    List.replicate L₂.toA.length .relayReply

/-- A run of the link followed by the drain of the link it leaves. -/
def runDrained (L : Link) (es : List LinkEvent) : Link × List Effect :=
  L.run u display (es ++ (L.run u display es).1.drain u display)

/-- Nothing in flight either way, and no future of `b` left. -/
structure Quiet (L : Link) : Prop where
  toA : L.toA = []
  tasks : L.b.tasks = []
  toB : L.toB = []

variable {u display}

theorem run_replicate_succ (L : Link) (e : LinkEvent) (n : Nat) :
    L.run u display (List.replicate (n + 1) e) =
      (((L.step u display e).1.run u display (List.replicate n e)).1,
        (L.step u display e).2 ++ ((L.step u display e).1.run u display (List.replicate n e)).2) :=
  rfl

/-- Handing `b` every request in flight empties the way to `b`. -/
theorem run_relayRequests {L : Link} {n : Nat} (hn : L.toB.length = n) :
    (L.run u display (List.replicate n .relayRequest)).1.toB = [] := by
  induction n generalizing L with
  | zero => exact List.length_eq_zero.1 hn
  | succ n ih =>
    obtain ⟨m, rest, hB⟩ := List.exists_cons_of_length_eq_add_one hn
    rw [run_replicate_succ]
    exact ih (by simp only [step, hB]; simpa [hB] using hn)

/-- With `b` running, stepping its oldest future as often as they have work ends them all, and
leaves the way to `b` as it was. -/
theorem run_serves {L : Link} {n : Nat} (hb : L.b.stopped = false)
    (hn : CallTask.work L.b.tasks = n) :
    (L.run u display (List.replicate n (.serve 0))).1.b.tasks = [] ∧
      (L.run u display (List.replicate n (.serve 0))).1.toB = L.toB := by
  induction n generalizing L with
  | zero =>
    refine ⟨?_, rfl⟩
    cases hT : L.b.tasks with
    | nil => exact hT
    | cons t ts => simp [hT] at hn
  | succ n ih =>
    obtain ⟨t, ts, hT⟩ : ∃ t ts, L.b.tasks = t :: ts := by
      cases hT : L.b.tasks with
      | nil => simp [hT] at hn
      | cons t ts => exact ⟨t, ts, rfl⟩
    have hw := @Connection.stepTask_zero_work u display L.b t ts hT
    rw [run_replicate_succ]
    exact ih (by simp [step, Connection.handle_callTask hb, hb])
      (by simp only [step, Connection.handle_callTask hb]; omega)

/-- Handing `a` every reply in flight, once nothing is on the way to `b`, empties the link and
leaves `b` alone. -/
theorem run_relayReplies {L : Link} {n : Nat} (hL : L.Good u) (hB : L.toB = [])
    (hn : L.toA.length = n) :
    (L.run u display (List.replicate n .relayReply)).1.toA = [] ∧
      (L.run u display (List.replicate n .relayReply)).1.toB = [] ∧
      (L.run u display (List.replicate n .relayReply)).1.b = L.b := by
  induction n generalizing L with
  | zero => exact ⟨List.length_eq_zero.1 hn, hB, rfl⟩
  | succ n ih =>
    obtain ⟨m, rest, hA⟩ := List.exists_cons_of_length_eq_add_one hn
    obtain ⟨f, rfl, hf⟩ := hL.replies m (by simp [hA])
    have hw := (@Connection.handle_callReply_running u display L.a hL.running f hf).2
    rw [run_replicate_succ]
    have h := ih (@step_good u display L hL .relayReply) (by simp [step, hA, hw, hB])
      (by simp only [step, hA]; simpa [hA] using hn)
    simpa only [step, hA] using h

/-- The drain empties the link, as long as `b` runs to its end. -/
theorem drain_quiet {L : Link} (hL : L.Good u)
    (hb : (L.run u display (L.drain u display)).1.b.stopped = false) :
    (L.run u display (L.drain u display)).1.Quiet := by
  simp only [drain, run_append] at hb ⊢
  have h₁ := @run_relayRequests u display L _ rfl
  obtain ⟨h₂, h₂'⟩ := @run_serves u display _ _ (b_stopped_of_run (b_stopped_of_run hb)) rfl
  obtain ⟨h₃, h₃', h₃''⟩ := run_relayReplies (run_good (run_good hL _) _) (h₂'.trans h₁) rfl
  exact ⟨h₃, by rw [h₃'', h₂], h₃'⟩

/-- The drain makes no call. -/
theorem drain_other (L : Link) {r : String} {k : Sink} :
    ∀ e ∈ L.drain u display, e.Other r k := by
  intro e he
  simp only [drain, List.mem_append, List.mem_replicate] at he
  rcases he with (⟨-, rfl⟩ | ⟨-, rfl⟩) | ⟨-, rfl⟩ <;> exact ⟨nofun, nofun⟩

theorem callIds_drain (L : Link) : callIds (L.drain u display) = [] := by
  simp [callIds, drain, LinkEvent.request, List.filterMap_replicate]

theorem callSinks_drain (L : Link) : callSinks (L.drain u display) = [] := by
  simp [callSinks, drain, LinkEvent.registers, List.filterMap_replicate]

end Link

end YaServiceBus
