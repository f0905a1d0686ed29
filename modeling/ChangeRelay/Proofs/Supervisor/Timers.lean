import ChangeRelay.Proofs.Supervisor.Schedule
import ChangeRelay.Proofs.Worker.Backoff

/-!
# Sleeping tasks wake at their deadline or at shutdown

A task that waits sleeps on a timer. The scheduler makes it ready again in two ways only: waking
the tasks due at a time moves the clock to that time and readies the timers whose deadline it
reached, and the shutdown signal readies every sleeping task. Every other move of the scheduler
readies nothing, apart from `start`, which readies the tasks it starts (`Supervisor.Move`).

So a move readies a task only when the task's deadline has passed on the clock the move leaves,
or shutdown is signalled (`Supervisor.Move.woken`). The clock and the signal only move forward
(`Supervisor.forward_of_moves`), so the task, when it runs, still sees one or the other, and a
worker resumed after the signal stops at once. A worker's task goes to sleep only while shutdown
is not signalled, so no sleep begins that the signal could no longer end. Every call on the
supervisor is a chain of such moves (`Supervisor.Call.moves`).
-/

namespace ChangeRelay

namespace Supervisor

open Relation

variable {s s' : Supervisor}

/-! ## What a task's run leaves of the scheduler -/

/-- A worker's task leaves the clock where it was. -/
theorem workerTask_now (fuel : Nat) (w : Worker) (world : World) :
    (workerTask fuel w world).2.1.now = world.now := by
  obtain ⟨r, hr, heq⟩ := workerTask_eq fuel w world
  rw [heq]
  rcases hr with rfl | rfl
  · exact Worker.run_now fuel w world
  · exact Worker.wake_now fuel w world

/-- A worker's task puts its worker to sleep only while shutdown is not signalled. -/
theorem workerTask_sleep_unsignalled {fuel d : Nat} {w : Worker} {world : World}
    (h : (workerTask fuel w world).2.2 = .sleep d) :
    (workerTask fuel w world).2.1.shutdown = false := by
  obtain ⟨r, hr, heq⟩ := workerTask_eq fuel w world
  rw [heq] at h ⊢
  rcases hr with rfl | rfl
  · exact Worker.run_sleep_unsignalled h
  · exact Worker.wake_sleep_unsignalled h

theorem park_queue (s : Supervisor) (i : Nat) (w : Worker) (wait : Wait) :
    (s.park i w wait).queue = s.queue := by
  cases wait with
  | sleep t => rfl
  | forever => rfl
  | done =>
    simp only [park]
    split <;> rfl

theorem runCheckpoint_clock (s : Supervisor) :
    s.runCheckpoint.queue = s.queue ∧ s.runCheckpoint.world.now = s.world.now := by
  unfold runCheckpoint
  split
  · exact ⟨rfl, rfl⟩
  · split <;> exact ⟨rfl, rfl⟩
  · exact ⟨rfl, rfl⟩

/-- Running a task readies no other task, and the clock does not move. -/
theorem runTask_clock (s : Supervisor) (t : TaskId) :
    (s.runTask t).queue = s.queue ∧ (s.runTask t).world.now = s.world.now := by
  cases t with
  | checkpoint => exact runCheckpoint_clock s
  | worker i =>
    rw [runTask]
    cases hw : s.workers[i]? with
    | none =>
      unfold runWorker
      rw [show s.worker? i = none from hw]
      exact ⟨rfl, rfl⟩
    | some w =>
      rw [runWorker_some hw]
      refine ⟨park_queue _ _ _ _, ?_⟩
      rw [park_world]
      exact workerTask_now _ _ _

/-- Starting readies the checkpoint task and the workers' tasks, and touches neither the timers,
the clock nor the signal; a supervisor that was not `Created` stays as it was. -/
theorem start_clock (s : Supervisor) :
    s.start.1.timers = s.timers ∧ s.start.1.world.now = s.world.now ∧
      s.start.1.world.shutdown = s.world.shutdown ∧
      (s.start.1.queue = s.queue ∨ s.state = .created) := by
  by_cases hc : s.state = .created
  · unfold start
    rw [if_neg (by simp [hc])]
    dsimp only
    split <;> exact ⟨rfl, rfl, rfl, .inr hc⟩
  · rw [start_refused hc]
    exact ⟨rfl, rfl, rfl, .inl rfl⟩

/-! ## The moves of the scheduler -/

/-- The moves of the scheduler, each with what it does to the ready queue, the timers, the clock
and the shutdown signal. -/
inductive Move : Supervisor → Supervisor → Prop
  /-- Runs the ready task at the head of the queue until it waits again. -/
  | run {s : Supervisor} {t : TaskId} {rest : List TaskId} :
      s.queue = t :: rest → Move s ({ s with queue := rest }.runTask t)
  /-- Moves the clock to `d` and readies the tasks due then. -/
  | wake (s : Supervisor) (d : Nat) : Move s (s.wakeAt d)
  /-- Moves the clock forward to `d`, readying nothing. -/
  | tick (s : Supervisor) (d : Nat) :
      Move s { s with world := { s.world with now := max s.world.now d } }
  /-- Signals shutdown, which readies every sleeping task. -/
  | signal (s : Supervisor) : Move s s.signalShutdown
  /-- Starts the supervisor, which readies the tasks it starts. -/
  | start (s : Supervisor) : Move s s.start.1
  /-- Keeps the books: the timers, the clock and the signal stay as they were, and tasks may only
  leave the queue. -/
  | keep {s s' : Supervisor} : s'.timers = s.timers → s'.queue.Sublist s.queue →
      s'.world.now = s.world.now → s'.world.shutdown = s.world.shutdown → Move s s'

/-- A move that changes the state and nothing else the scheduler reads. -/
theorem setState_move (s : Supervisor) (state : SupervisorState) : Move s (s.setState state) :=
  .keep rfl (List.Sublist.refl _) rfl rfl

/-- No move turns the clock back or lowers the shutdown signal. -/
theorem Move.forward (h : Move s s') :
    s.world.now ≤ s'.world.now ∧ (s.world.shutdown = true → s'.world.shutdown = true) := by
  cases h with
  | @run t rest hq =>
    exact ⟨Nat.le_of_eq (runTask_clock { s with queue := rest } t).2.symm,
      respects_signalled.runTask hq⟩
  | wake d | tick d => exact ⟨Nat.le_max_left _ _, id⟩
  | signal => exact ⟨Nat.le_refl _, fun _ => rfl⟩
  | start =>
    obtain ⟨-, hn, hs, -⟩ := start_clock s
    exact ⟨Nat.le_of_eq hn.symm, fun h => hs.trans h⟩
  | keep _ _ hn hs => exact ⟨Nat.le_of_eq hn.symm, fun h => hs.trans h⟩

/-- A move readies a task only when the task slept on a timer whose deadline the clock the move
leaves has reached, or when shutdown is signalled, or when the supervisor starts. -/
theorem Move.woken (h : Move s s') {t : TaskId} (ht : t ∈ s'.queue) (hn : t ∉ s.queue) :
    (∃ tm ∈ s.timers, tm.task = t ∧
      (tm.deadline ≤ s'.world.now ∨ s'.world.shutdown = true)) ∨ s.state = .created := by
  cases h with
  | run hq =>
    rw [(runTask_clock _ _).1] at ht
    exact absurd (hq ▸ List.mem_cons_of_mem _ ht) hn
  | wake d =>
    simp only [wakeAt, List.mem_append, List.mem_map, List.mem_mergeSort, List.mem_filter,
      decide_eq_true_eq] at ht
    rcases ht with ht | ⟨tm, ⟨hm, hd⟩, rfl⟩
    · exact absurd ht hn
    · exact .inl ⟨tm, hm, rfl, .inl (Nat.le_trans hd (Nat.le_max_right _ _))⟩
  | tick => exact absurd ht hn
  | signal =>
    simp only [signalShutdown, List.mem_append, List.mem_map, List.mem_mergeSort] at ht
    rcases ht with ht | ⟨tm, hm, rfl⟩
    · exact absurd ht hn
    · exact .inl ⟨tm, hm, rfl, .inr rfl⟩
  | start =>
    rcases (start_clock s).2.2.2 with hq | hc
    · rw [hq] at ht
      exact absurd ht hn
    · exact .inr hc
  | keep _ hq _ _ => exact absurd (hq.subset ht) hn

/-- Along moves the clock and the shutdown signal only move forward, so a task readied at its
deadline or by the signal still sees it when it runs. -/
theorem forward_of_moves (h : ReflTransGen Move s s') :
    s.world.now ≤ s'.world.now ∧ (s.world.shutdown = true → s'.world.shutdown = true) := by
  induction h with
  | refl => exact ⟨Nat.le_refl _, id⟩
  | tail _ hm ih =>
    have hf := hm.forward
    exact ⟨Nat.le_trans ih.1 hf.1, hf.2 ∘ ih.2⟩

/-! ## Every call is a chain of moves -/

/-- Each move of the scheduler's loops is a move, so each loop is a chain of moves. -/
theorem respects_moves : Respects (ReflTransGen Move) where
  refl _ := .refl
  trans h₁ h₂ := h₁.trans h₂
  runTask hq := .single (.run hq)
  wakeAt s d := .single (.wake s d)
  clock s d := .single (.tick s d)
  forget _ _ _ _ := .single (.keep rfl (List.Sublist.refl _) rfl rfl)

/-- Draining is a chain of moves: the signal, the wait for the workers, the workers' tasks that
still wait dropped, and the checkpoint task's last run. -/
theorem drain_moves (n : Nat) (s : Supervisor) : ReflTransGen Move s (drain n s) := by
  have h₁ : ReflTransGen Move s (s.signalShutdown.setState .shuttingDown) :=
    (ReflTransGen.single (.signal s)).tail (setState_move _ _)
  unfold drain
  dsimp only
  refine h₁.trans ((respects_moves.wait
    ((s.signalShutdown.setState .shuttingDown).world.now +
      (s.signalShutdown.setState .shuttingDown).shutdownTimeout.nanos) n _).trans ?_)
  generalize drain.wait _ n _ = s₁
  let s₂ : Supervisor := { s₁ with running := [], queue := s₁.queue.filter (· == .checkpoint) }
  have h₂ : Move s₁ s₂ := .keep rfl List.filter_sublist rfl rfl
  refine (ReflTransGen.single h₂).trans ((respects_moves.settle s₂.budget s₂).trans ?_)
  split <;> exact .single (.keep rfl (List.Sublist.refl _) rfl rfl)

/-- The call moves neither the clock nor the shutdown signal by hand: a call that changes the
world directly leaves both as they were. -/
def Call.KeepsClock : Call → Prop
  | .world f => ∀ world, (f world).now = world.now ∧ (f world).shutdown = world.shutdown
  | _ => True

/-- Every call that moves neither the clock nor the signal by hand is a chain of moves of the
scheduler. -/
theorem Call.moves (c : Call) (s : Supervisor) (hc : c.KeepsClock) :
    ReflTransGen Move s (c.apply s) := by
  cases c with
  | start => exact .single (.start s)
  | runUntil deadline fuel =>
    show ReflTransGen Move s (s.runUntil deadline fuel).1
    rw [runUntil_eq]
    exact (respects_moves.go deadline fuel s).trans ((drain_moves fuel _).tail (setState_move _ _))
  | shutdown fuel =>
    show ReflTransGen Move s (s.shutdown fuel)
    unfold Supervisor.shutdown
    split
    · exact .refl
    · exact (drain_moves fuel s).tail (setState_move _ _)
  | pause fuel ms => exact respects_moves.sleepUntil _ _ s
  | world f => exact .single (.keep rfl (List.Sublist.refl _) (hc s.world).1 (hc s.world).2)

end Supervisor

open Supervisor Worker in
/-- The waits of a worker follow its retry schedule, and each ends early only at shutdown.

Running a worker extends its history, and along every history of a worker built with schedule
`retry` and poll interval `poll`: a failed pull that is not fatal waits the schedule's delay for
the pulls failed since the last pull that answered a batch, empty or not, this one included; an
empty batch waits the poll interval; a refused offer waits the schedule's delay for the refusals
of the batch offered, this one included, whatever the pull counter holds.

A worker's task goes to sleep only while shutdown is not signalled, and a worker resumed after
the signal stops at once. Each move of the scheduler readies a task only when its deadline has
passed or shutdown is signalled (or when the supervisor starts), the clock and the signal only
move forward, and every call on the supervisor is made of such moves. -/
theorem waits_follow_retry_schedule :
    (∀ sourceId p poll retry w ms, History (Worker.new sourceId p poll retry) w ms →
      (∀ fuel world,
        ∃ ms', History (Worker.new sourceId p poll retry) (w.run fuel world).1 ms') ∧
      ∀ world : World,
        (∀ e, w.meets world = some (.reply (.fail e)) → e.isFatal = false →
          Waits (retry.delayFor (Met.failedPulls (ms ++ [.reply (.fail e)]))) world.now
            (w.step world)) ∧
        (∀ b, w.meets world = some (.reply (.batch b)) → b.events = [] →
          Waits (.ok poll) world.now (w.step world)) ∧
        (w.meets world = some (.delivery .fail) →
          Waits (retry.delayFor (Met.refusals (ms ++ [.delivery .fail]))) world.now
            (w.step world))) ∧
    (∀ fuel w world d, (workerTask fuel w world).2.2 = .sleep d →
      (workerTask fuel w world).2.1.shutdown = false) ∧
    (∀ fuel (w : Worker) (world : World), world.shutdown = true →
      w.wake fuel world = (w.stop, world, .done)) ∧
    (∀ s s', Move s s' → ∀ t ∈ s'.queue, t ∉ s.queue →
      (∃ tm ∈ s.timers, tm.task = t ∧
        (tm.deadline ≤ s'.world.now ∨ s'.world.shutdown = true)) ∨ s.state = .created) ∧
    (∀ s s', Relation.ReflTransGen Move s s' →
      s.world.now ≤ s'.world.now ∧ (s.world.shutdown = true → s'.world.shutdown = true)) ∧
    (∀ (c : Call) s, c.KeepsClock → Relation.ReflTransGen Move s (c.apply s)) :=
  ⟨fun _ _ _ _ _ _ h => ⟨h.run, h.waits⟩, fun _ _ _ _ => workerTask_sleep_unsignalled,
    fun fuel w _ => wake_of_shutdown fuel w, fun _ _ h _ => h.woken, fun _ _ => forward_of_moves,
    fun c s => c.moves s⟩

end ChangeRelay
