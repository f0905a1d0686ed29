import ChangeRelay.Proofs.Supervisor.Lifecycle
import ChangeRelay.Proofs.Worker.Execution
import Mathlib.Data.List.Perm.Subperm

/-!
# How the supervisor schedules its tasks

The loops of the supervisor (`settle`, `sleepUntil`, the wait of `drain` and the supervising loop
of `runUntil`) are made of a few moves of the scheduler: running a ready task, waking the tasks
due at a time, moving the clock, and collecting or forgetting ended workers. A relation between
supervisors that these moves respect (`Respects`) holds across every loop, so each fact about the
scheduler is proved once per move and never by unfolding a loop again.

The main such fact is that the scheduler keeps its tasks well (`WellFormed`): no task waits twice,
a worker whose run ended waits no more, every exit not yet collected is the exit of its worker, a
worker whose run panicked shows `Faulted`, and before `start` nothing waits and no worker has
ended. Every call keeps it (`Call.wellFormed`), and a worker whose run ended is never run again
(`KeepsEnded`). Draining signals shutdown to every worker for good (`drain_shutdown`).
-/

namespace ChangeRelay

namespace Worker

variable {w : Worker} {world : World}

/-- A worker waiting where shutdown can reach it has not ended. -/
theorem Waiting.exit_eq_none (h : w.Waiting) : w.exit? = none := by
  rcases h with h | h | ⟨ns, next, bo, h⟩ <;> simp [exit?, h]

/-- A run that ends in a sleep leaves the worker waiting where shutdown can reach it. -/
theorem run_waiting {fuel d : Nat} (h : (w.run fuel world).2.2 = .sleep d) :
    (w.run fuel world).1.Waiting := by
  induction fuel generalizing w world with
  | zero => cases h
  | succ fuel ih =>
    rcases hs : w.step world with ⟨w₁, world₁, o⟩
    rcases o with _ | (d' | _ | _) <;> simp only [run, hs] at h ⊢
    · exact ih h
    · by_cases hsd : world₁.shutdown = true
      · rw [if_pos hsd] at h
        cases h
      · rw [if_neg hsd] at h ⊢
        exact Step.waiting_of_sleep (step_spec hs)
    · cases h
    · cases h

theorem wake_waiting {fuel d : Nat} (h : (w.wake fuel world).2.2 = .sleep d) :
    (w.wake fuel world).1.Waiting := by
  unfold wake at h ⊢
  split at h
  · cases h
  · next hs =>
    rw [if_neg hs]
    exact run_waiting h

/-! ## The shutdown signal stays up -/

theorem shutdown_of_pull {world' : World} {p : String} {c : Option String} {r : Reply}
    (h : world.pull p c = (r, world')) (hs : world.shutdown = true) : world'.shutdown = true := by
  simp only [World.pull] at h
  split at h
  · split at h
    · simp only [Prod.mk.injEq] at h
      obtain ⟨-, rfl⟩ := h
      unfold World.applyCue
      split <;> split <;> exact hs
    · simp only [Prod.mk.injEq] at h
      obtain ⟨-, rfl⟩ := h
      split
      · rfl
      · exact hs
  · simp only [Prod.mk.injEq] at h
    obtain ⟨-, rfl⟩ := h
    exact hs

theorem shutdown_of_publish {world' : World} {p topic : String} {ns : List Notification}
    {d : Delivery} (h : world.publish p topic ns = (d, world')) :
    world'.shutdown = world.shutdown := by
  obtain ⟨_, rfl⟩ := World.world_of_publish h
  split <;> rfl

theorem shutdown_of_persist {world' : World} {c : String} {failed : Bool}
    (h : w.persist world c = (failed, world')) : world'.shutdown = world.shutdown := by
  rw [world_of_persist h]

theorem shutdown_of_stamp {world' : World} {b : SourceBatch}
    {r : Except String (List Notification)} (h : w.stamp world b = some (r, world')) :
    world'.shutdown = world.shutdown := by
  rw [world_of_stamp h]

theorem Admits.shutdown {world' : World} (h : Admits world world') :
    world'.shutdown = world.shutdown := by
  obtain rfl | ⟨l, rfl⟩ := h <;> rfl

/-- No step of a worker lowers the shutdown signal. -/
theorem Step.shutdown_mono {w' : Worker} {world' : World} {o : Option Wait}
    (h : Step w world w' world' o) (hs : world.shutdown = true) : world'.shutdown = true := by
  cases h with
  | loadFailed | loaded | stopped | stuck | ended => exact hs
  | rewrote _ _ _ _ hp ha =>
    rw [ha.shutdown, shutdown_of_persist hp]
    exact hs
  | admitted _ _ _ ha =>
    rw [ha.shutdown]
    exact hs
  | pullPanicked _ _ hr | pullFaulted _ _ hr | backedOff _ _ hr | backoffPanicked _ _ hr
  | idled _ _ hr | stalled _ _ hr | drawWaits _ _ hr => exact shutdown_of_pull hr hs
  | bookmarked _ _ hr _ _ _ hp =>
    rw [shutdown_of_persist hp]
    exact shutdown_of_pull hr hs
  | stampPanicked _ _ hr _ _ _ hst | held _ _ hr _ _ _ hst =>
    rw [shutdown_of_stamp hst]
    exact shutdown_of_pull hr hs
  | unmapped _ _ hr _ _ _ hst hp =>
    rw [shutdown_of_persist hp, shutdown_of_stamp hst]
    exact shutdown_of_pull hr hs
  | acknowledged _ hpub hp =>
    rw [shutdown_of_persist hp, shutdown_of_publish hpub]
    exact hs
  | acknowledgedAlone _ hpub | hung _ hpub | refused _ hpub | refusalPanicked _ hpub =>
    rw [shutdown_of_publish hpub]
    exact hs

theorem Moves.shutdown_mono {w' : Worker} {world' : World} (h : Moves w world w' world')
    (hs : world.shutdown = true) : world'.shutdown = true := by
  cases h with
  | step hst => exact (step_spec hst).shutdown_mono hs
  | stop => exact hs

theorem run_shutdown {fuel : Nat} (hs : world.shutdown = true) :
    (w.run fuel world).2.1.shutdown = true := by
  have hchain : ∀ r : Worker × World,
      Relation.ReflTransGen (fun a b : Worker × World => Moves a.1 a.2 b.1 b.2) (w, world) r →
      r.2.shutdown = true := by
    intro r hr
    induction hr with
    | refl => exact hs
    | tail _ hm ih => exact hm.shutdown_mono ih
  exact hchain _ (run_moves fuel w world)

theorem wake_shutdown {fuel : Nat} (hs : world.shutdown = true) :
    (w.wake fuel world).2.1.shutdown = true := by
  unfold wake
  rw [if_pos hs]
  exact hs

end Worker

namespace Supervisor

open SupervisorState

/-! ## The worker's task -/

section WorkerTask

variable {fuel : Nat} {w : Worker} {world : World}

@[simp] theorem reported_phase (w : Worker) : (reported w).phase = w.phase := by
  unfold reported
  split <;> rfl

theorem reported_of_not_panicked (h : ∀ p, w.phase ≠ .panicked p) : reported w = w := by
  unfold reported
  split
  · next p hp => exact absurd hp (h p)
  · rfl

theorem reported_panicked {p : Option String} (h : w.phase = .panicked p) :
    (reported w).state = .faulted := by
  simp only [reported, h]

/-- The run inside a worker's task: from the start, or resumed after a sleep. -/
theorem workerTask_eq (fuel : Nat) (w : Worker) (world : World) :
    ∃ r : Worker × World × Wait, (r = w.run fuel world ∨ r = w.wake fuel world) ∧
      workerTask fuel w world = (reported r.1, r.2.1, r.2.2) := by
  unfold workerTask
  split
  · exact ⟨_, .inl rfl, rfl⟩
  · exact ⟨_, .inr rfl, rfl⟩

/-- A task that puts its worker to sleep leaves it waiting where shutdown can reach it. -/
theorem workerTask_waiting {d : Nat} (h : (workerTask fuel w world).2.2 = .sleep d) :
    (workerTask fuel w world).1.Waiting := by
  obtain ⟨r, hr, heq⟩ := workerTask_eq fuel w world
  rw [heq] at h ⊢
  have hw : r.1.Waiting := by
    rcases hr with rfl | rfl
    · exact Worker.run_waiting h
    · exact Worker.wake_waiting h
  rw [reported_of_not_panicked]
  · exact hw
  · intro p hp
    rcases hw with hw | hw | ⟨ns, next, bo, hw⟩ <;> rw [hw] at hp <;> cases hp

/-- A worker whose run panicked leaves its task `Faulted`. -/
theorem workerTask_panicked {p : Option String}
    (h : (workerTask fuel w world).1.phase = .panicked p) :
    (workerTask fuel w world).1.state = .faulted := by
  obtain ⟨r, -, heq⟩ := workerTask_eq fuel w world
  rw [heq] at h ⊢
  rw [reported_phase] at h
  exact reported_panicked h

end WorkerTask

/-! ## Moves of the scheduler -/

/-- The tasks waiting to run: the ready ones in order, then the sleeping ones. -/
def pending (s : Supervisor) : List TaskId := s.queue ++ s.timers.map (·.task)

/-- Collecting ended workers forgets some of them: the supervisor differs only in the workers it
runs and in a suffix of its exits. -/
theorem collectFrom_eq (s : Supervisor) (es : List (Nat × WorkerExit)) :
    ∃ running exits, exits <:+ es ∧ (s.collectFrom es).1 = { s with running, exits } := by
  induction es generalizing s with
  | nil => exact ⟨s.running, [], List.nil_suffix, rfl⟩
  | cons e es ih =>
    obtain ⟨i, x⟩ := e
    unfold collectFrom
    dsimp only
    have hrest : ∀ s' : Supervisor, (∃ running exits, exits <:+ es ∧
        (s'.collectFrom es).1 = { s' with running, exits }) →
        ∃ running exits, exits <:+ (i, x) :: es ∧
          (s'.collectFrom es).1 = { s' with running, exits } := by
      rintro s' ⟨running, exits, hsuf, heq⟩
      exact ⟨running, exits, hsuf.trans (List.suffix_cons _ _), heq⟩
    split
    · split
      · exact ⟨_, es, List.suffix_cons _ _, rfl⟩
      · exact hrest _ (ih _)
    · exact hrest _ (ih _)

/-- A relation between supervisors that the moves of the scheduler respect: running a ready task,
waking the tasks due at a time, moving the clock forward, and forgetting ended workers. -/
structure Respects (R : Supervisor → Supervisor → Prop) : Prop where
  refl : ∀ s, R s s
  trans : ∀ {s₁ s₂ s₃}, R s₁ s₂ → R s₂ s₃ → R s₁ s₃
  runTask : ∀ {s t rest}, s.queue = t :: rest → R s ({ s with queue := rest }.runTask t)
  wakeAt : ∀ s d, R s (s.wakeAt d)
  clock : ∀ s d, R s { s with world := { s.world with now := max s.world.now d } }
  forget : ∀ s running exits, exits <:+ s.exits → R s { s with running, exits }

namespace Respects

variable {R : Supervisor → Supervisor → Prop} (h : Respects R)
include h

theorem settle (n : Nat) (s : Supervisor) : R s (settle n s) := by
  induction n generalizing s with
  | zero => exact h.refl s
  | succ n ih =>
    unfold Supervisor.settle
    split
    · exact h.refl s
    · next t rest hq => exact h.trans (h.runTask hq) (ih _)

theorem collect (s : Supervisor) : R s s.collect.1 := by
  obtain ⟨running, exits, hsuf, heq⟩ := collectFrom_eq s s.exits
  rw [Supervisor.collect, heq]
  exact h.forget s running exits hsuf

theorem sleepUntil (deadline n : Nat) (s : Supervisor) : R s (sleepUntil deadline n s) := by
  induction n generalizing s with
  | zero => exact h.refl s
  | succ n ih =>
    unfold Supervisor.sleepUntil
    dsimp only
    have hs := h.settle s.budget s
    split
    · split
      · exact h.trans hs (h.trans (h.wakeAt _ _) (ih _))
      · exact h.trans hs (h.clock _ _)
    · exact h.trans hs (h.clock _ _)

theorem wait (deadline n : Nat) (s : Supervisor) : R s (drain.wait deadline n s) := by
  induction n generalizing s with
  | zero => exact h.refl s
  | succ n ih =>
    unfold drain.wait
    dsimp only
    have hs : R s { Supervisor.settle s.budget s with
        running := (Supervisor.settle s.budget s).running.filter
          fun i => !(Supervisor.settle s.budget s).exits.any (·.1 == i)
        exits := [] } :=
      h.trans (h.settle s.budget s) (h.forget _ _ [] List.nil_suffix)
    split
    · exact hs
    · split
      · split
        · exact h.trans hs (h.trans (h.wakeAt _ _) (ih _))
        · exact h.trans hs (h.clock _ _)
      · exact h.trans hs (h.clock _ _)

theorem go (deadline n : Nat) (s : Supervisor) : R s (runUntil.go deadline n s).1 := by
  induction n generalizing s with
  | zero => exact h.refl s
  | succ n ih =>
    unfold runUntil.go
    dsimp only
    have hc := h.trans (h.settle s.budget s) (h.collect (Supervisor.settle s.budget s))
    split
    · next s' e heq =>
      rw [heq] at hc
      exact hc
    · next s' heq =>
      rw [heq] at hc
      split
      · exact hc
      · split
        · split
          · exact h.trans hc (h.trans (h.wakeAt _ _) (ih _))
          · exact h.trans hc (h.clock _ _)
        · exact h.trans hc (h.clock _ _)

end Respects

/-! ## Waiting tasks -/

theorem pending_wakeAt (s : Supervisor) (d : Nat) : List.Perm (s.wakeAt d).pending s.pending := by
  simp only [pending, wakeAt, List.append_assoc]
  refine List.Perm.append_left _ ?_
  calc List.Perm _ ((s.timers.filter (·.deadline ≤ d)).map (·.task) ++
          (s.timers.filter (d < ·.deadline)).map (·.task)) :=
        ((List.mergeSort_perm _ _).map _).append_right _
    _ = (s.timers.filter (·.deadline ≤ d) ++
          s.timers.filter (fun t => !decide (t.deadline ≤ d))).map (·.task) := by
        have hf : s.timers.filter (d < ·.deadline) =
            s.timers.filter (fun t => !decide (t.deadline ≤ d)) :=
          List.filter_congr fun t _ => by simp only [← decide_not, Nat.not_le]
        rw [List.map_append, hf]
    List.Perm _ (s.timers.map (·.task)) := (List.filter_append_perm _ _).map _

theorem pending_signalShutdown (s : Supervisor) :
    List.Perm s.signalShutdown.pending s.pending := by
  simp only [pending, signalShutdown, List.map_nil, List.append_nil]
  exact ((List.mergeSort_perm _ _).map _).append_left _

/-- The task popped from the queue waits no more. -/
theorem pending_pop {s : Supervisor} {t : TaskId} {rest : List TaskId} (hq : s.queue = t :: rest) :
    s.pending = t :: (rest ++ s.timers.map (·.task)) := by
  simp [pending, hq]

theorem pending_sleep (s : Supervisor) (t : TaskId) (d : Nat) :
    (s.sleep t d).pending = s.pending ++ [t] := by
  simp [pending, sleep]

theorem runCheckpoint_frame (s : Supervisor) :
    s.runCheckpoint.workers = s.workers ∧ s.runCheckpoint.exits = s.exits ∧
      s.runCheckpoint.state = s.state ∧
      (s.runCheckpoint.pending = s.pending ∨
        s.runCheckpoint.pending = s.pending ++ [.checkpoint]) := by
  unfold runCheckpoint
  split
  · exact ⟨rfl, rfl, rfl, .inr (by simp [pending, sleep, flushSequence])⟩
  · split
    · exact ⟨rfl, rfl, rfl, .inl rfl⟩
    · exact ⟨rfl, rfl, rfl, .inr (by simp [pending, sleep, flushSequence])⟩
  · exact ⟨rfl, rfl, rfl, .inl rfl⟩

/-- Where `park` leaves the task of worker `i`: asleep again, or gone with its exit recorded when
its run ended. -/
theorem park_frame (s : Supervisor) (i : Nat) (w : Worker) (wait : Wait) :
    (s.park i w wait).workers = s.workers ∧ (s.park i w wait).state = s.state ∧
      ((∃ d, wait = .sleep d ∧ (s.park i w wait).pending = s.pending ++ [.worker i] ∧
          (s.park i w wait).exits = s.exits) ∨
        ((s.park i w wait).pending = s.pending ∧
          ((s.park i w wait).exits = s.exits ∨
            ∃ e, w.exit? = some e ∧ (s.park i w wait).exits = s.exits ++ [(i, e)]))) := by
  cases wait with
  | sleep d => exact ⟨rfl, rfl, .inl ⟨d, rfl, pending_sleep _ _ _, rfl⟩⟩
  | forever => exact ⟨rfl, rfl, .inr ⟨rfl, .inl rfl⟩⟩
  | done =>
    simp only [park]
    split
    · next e he => exact ⟨rfl, rfl, .inr ⟨rfl, .inr ⟨e, he, rfl⟩⟩⟩
    · exact ⟨rfl, rfl, .inr ⟨rfl, .inl rfl⟩⟩

/-! ## Well-kept tasks -/

/-- The scheduler keeps its tasks well: no task waits twice, a worker whose run ended waits no
more, every exit not yet collected is the exit of its worker, a worker whose run panicked shows
`Faulted`, and before `start` nothing waits and no worker has ended. -/
structure WellFormed (s : Supervisor) : Prop where
  nodup : s.pending.Nodup
  ended : ∀ {i : Nat} {w : Worker}, s.workers[i]? = some w → w.exit?.isSome →
    TaskId.worker i ∉ s.pending
  exits : ∀ {i : Nat} {x : WorkerExit}, (i, x) ∈ s.exits →
    ∃ w, s.workers[i]? = some w ∧ w.exit? = some x
  panicked : ∀ {i : Nat} {w : Worker} {p : Option String}, s.workers[i]? = some w →
    w.phase = .panicked p → w.state = .faulted
  created : s.state = .created →
    s.pending = [] ∧ ∀ {i : Nat} {w : Worker}, s.workers[i]? = some w → w.exit? = none

/-- `s'` keeps every worker whose run ended in `s`. -/
def KeepsEnded (s s' : Supervisor) : Prop :=
  ∀ {i : Nat} {w : Worker}, s.workers[i]? = some w → w.exit?.isSome → s'.workers[i]? = some w

/-- Well-kept tasks stay so, and ended workers are kept. -/
def Keeps (s s' : Supervisor) : Prop := s.WellFormed → s'.WellFormed ∧ KeepsEnded s s'

theorem Keeps.refl (s : Supervisor) : Keeps s s := fun h => ⟨h, fun hi _ => hi⟩

theorem Keeps.trans {s₁ s₂ s₃ : Supervisor} (h₁ : Keeps s₁ s₂) (h₂ : Keeps s₂ s₃) :
    Keeps s₁ s₃ := by
  intro h
  obtain ⟨h', k₁⟩ := h₁ h
  obtain ⟨h'', k₂⟩ := h₂ h'
  exact ⟨h'', fun hi hx => k₂ (k₁ hi hx) hx⟩

/-- A move that reorders or drops waiting tasks, forgets exits and leaves the workers alone keeps
the tasks well, as long as it does not move to `Created`. -/
theorem keeps_of_frame {s s' : Supervisor} (hp : List.Subperm s'.pending s.pending)
    (hw : s'.workers = s.workers) (he : List.Sublist s'.exits s.exits)
    (hs : s'.state = .created → s.state = .created) : Keeps s s' := by
  intro h
  refine ⟨⟨?_, ?_, ?_, ?_, ?_⟩, fun hi _ => hw ▸ hi⟩
  · obtain ⟨l, hperm, hsub⟩ := hp
    exact hperm.nodup_iff.1 (h.nodup.sublist hsub)
  · intro i w hi hx hm
    rw [hw] at hi
    exact h.ended hi hx (hp.subset hm)
  · intro i x hx
    rw [hw]
    exact h.exits (he.subset hx)
  · intro i w p hi hp'
    rw [hw] at hi
    exact h.panicked hi hp'
  · intro hc
    obtain ⟨hnil, hfresh⟩ := h.created (hs hc)
    rw [hnil] at hp
    refine ⟨List.subperm_nil.1 hp, fun hi => ?_⟩
    rw [hw] at hi
    exact hfresh hi

/-- Running the checkpoint task keeps the tasks well. -/
theorem runCheckpoint_keeps {s : Supervisor} {rest : List TaskId}
    (hq : s.queue = .checkpoint :: rest) : Keeps s { s with queue := rest }.runCheckpoint := by
  intro h
  have hpop := pending_pop hq
  obtain ⟨hw, he, hs, hp⟩ := runCheckpoint_frame { s with queue := rest }
  have hp' : List.Subperm { s with queue := rest }.runCheckpoint.pending s.pending := by
    rw [hpop]
    rcases hp with hp | hp <;> rw [hp]
    · exact (List.sublist_cons_self _ _).subperm
    · exact (List.perm_append_singleton _ _).subperm
  refine keeps_of_frame hp' hw (by rw [he]) (fun hc => hs ▸ hc) h

/-- Replacing a worker that exists changes what is read at its position and nowhere else. -/
theorem getElem?_set_worker {ws : List Worker} {i : Nat} {w : Worker} (w' : Worker)
    (hi : ws[i]? = some w) (j : Nat) :
    (ws.set i w')[j]? = if j = i then some w' else ws[j]? := by
  have hlt : i < ws.length := (List.getElem?_eq_some_iff.1 hi).1
  by_cases hj : j = i
  · subst hj
    simp [hlt]
  · simp [hj, List.getElem?_set_ne (Ne.symm hj)]

/-- Running worker `i` that exists: its task runs, the worker and the world are replaced by
what the task left, and `park` leaves the task as the run ended. -/
theorem runWorker_some {s : Supervisor} {i : Nat} {w : Worker} (hw : s.workers[i]? = some w) :
    s.runWorker i =
      ({ s with workers := s.workers.set i (workerTask s.budget w s.world).1
                world := (workerTask s.budget w s.world).2.1 } : Supervisor).park i
        (workerTask s.budget w s.world).1 (workerTask s.budget w s.world).2.2 := by
  unfold runWorker
  rw [show s.worker? i = some w from hw]
  rfl

/-- Leaving the task of worker `i`, which was waiting and has run, keeps the tasks well: the
worker had not ended, since its task was waiting; only it changes; and its task waits again only
if it went to sleep, which a worker that ended does not do. -/
theorem park_keeps {s : Supervisor} {i : Nat} {rest : List TaskId} {w w' : Worker}
    {world' : World} {wait : Wait} (h : s.WellFormed) (hq : s.queue = .worker i :: rest)
    (hw : s.workers[i]? = some w) (hsleep : ∀ d, wait = .sleep d → w'.Waiting)
    (hpanic : ∀ p, w'.phase = .panicked p → w'.state = .faulted) :
    Keeps s (({ s with queue := rest, workers := s.workers.set i w', world := world' } :
      Supervisor).park i w' wait) := by
  intro _
  have hpop := pending_pop hq
  have hnd := h.nodup
  rw [hpop] at hnd
  obtain ⟨hnotin, hnd₀⟩ := List.nodup_cons.1 hnd
  have hfresh : w.exit? = none := by
    cases hx : w.exit? with
    | none => rfl
    | some x => exact absurd (hpop ▸ List.mem_cons_self) (h.ended hw (by simp [hx]))
  obtain ⟨hW, hS, hPE⟩ := park_frame
    ({ s with queue := rest, workers := s.workers.set i w', world := world' } : Supervisor) i w' wait
  generalize (({ s with queue := rest, workers := s.workers.set i w', world := world' } :
    Supervisor).park i w' wait) = s' at hW hS hPE ⊢
  dsimp only at hW hS
  have hlook := getElem?_set_worker w' hw
  have hold : ∀ {j x}, (j, x) ∈ s.exits →
      ∃ w'', (if j = i then some w' else s.workers[j]?) = some w'' ∧ w''.exit? = some x := by
    intro j x hjx
    obtain ⟨w'', hj, hx⟩ := h.exits hjx
    have hji : j ≠ i := by
      rintro rfl
      rw [hw] at hj
      cases hj
      rw [hfresh] at hx
      cases hx
    exact ⟨w'', by rw [if_neg hji]; exact hj, hx⟩
  refine ⟨⟨?_, ?_, ?_, ?_, ?_⟩, ?_⟩
  · rcases hPE with ⟨d, -, hp, -⟩ | ⟨hp, -⟩ <;> rw [hp]
    · exact (List.perm_append_singleton _ _).nodup_iff.2 hnd
    · exact hnd₀
  · intro j w'' hj hx hm
    rw [hW, hlook] at hj
    split at hj
    · next hji =>
      subst hji
      cases hj
      rcases hPE with ⟨d, hd, -, -⟩ | ⟨hp, -⟩
      · rw [(hsleep d hd).exit_eq_none] at hx
        cases hx
      · rw [hp] at hm
        exact hnotin hm
    · next hji =>
      have hout := h.ended hj hx
      rw [hpop] at hout
      rcases hPE with ⟨d, -, hp, -⟩ | ⟨hp, -⟩ <;> rw [hp] at hm
      · rcases List.mem_append.1 hm with hm | hm
        · exact hout (List.mem_cons_of_mem _ hm)
        · simp only [List.mem_singleton, TaskId.worker.injEq] at hm
          exact hji hm
      · exact hout (List.mem_cons_of_mem _ hm)
  · intro j x hjx
    rw [hW, hlook]
    rcases hPE with ⟨d, -, -, he⟩ | ⟨-, he | ⟨e, hx, he⟩⟩ <;> rw [he] at hjx
    · exact hold hjx
    · exact hold hjx
    · rcases List.mem_append.1 hjx with hjx | hjx
      · exact hold hjx
      · simp only [List.mem_singleton, Prod.mk.injEq] at hjx
        obtain ⟨rfl, rfl⟩ := hjx
        exact ⟨w', if_pos rfl, hx⟩
  · intro j w'' p hj hp
    rw [hW, hlook] at hj
    split at hj
    · cases hj
      exact hpanic p hp
    · exact h.panicked hj hp
  · intro hc
    rw [hS] at hc
    have hnil := (h.created hc).1
    rw [hpop] at hnil
    cases hnil
  · intro j w'' hj hx
    have hji : j ≠ i := by
      rintro rfl
      rw [hw] at hj
      cases hj
      rw [hfresh] at hx
      cases hx
    rw [hW, hlook, if_neg hji]
    exact hj

theorem runWorker_keeps {s : Supervisor} {i : Nat} {rest : List TaskId}
    (hq : s.queue = .worker i :: rest) : Keeps s ({ s with queue := rest }.runWorker i) := by
  intro h
  cases hw : s.workers[i]? with
  | none =>
    have hnone : ({ s with queue := rest } : Supervisor).runWorker i = { s with queue := rest } := by
      unfold runWorker
      rw [show ({ s with queue := rest } : Supervisor).worker? i = none from hw]
    rw [hnone]
    refine keeps_of_frame ?_ rfl (.refl _) id h
    rw [pending_pop hq]
    exact (List.sublist_cons_self _ _).subperm
  | some w =>
    rw [runWorker_some (s := { s with queue := rest }) hw]
    exact park_keeps (s := s) h hq hw (fun d hd => workerTask_waiting hd)
      (fun p hp => workerTask_panicked hp) h

theorem respects_keeps : Respects Keeps where
  refl := Keeps.refl
  trans := Keeps.trans
  runTask := by
    intro s t rest hq
    cases t with
    | checkpoint => exact runCheckpoint_keeps hq
    | worker i => exact runWorker_keeps hq
  wakeAt s d := keeps_of_frame (pending_wakeAt s d).subperm rfl (.refl _) id
  clock _ _ := keeps_of_frame (List.Subperm.refl _) rfl (.refl _) id
  forget _ _ _ hsuf := keeps_of_frame (List.Subperm.refl _) rfl hsuf.sublist id

/-- Draining keeps the tasks well: it wakes every sleeping task, drops the workers' tasks that
are still waiting and lets the checkpoint task finish. -/
theorem drain_keeps (n : Nat) (s : Supervisor) : Keeps s (drain n s) := by
  have h₁ : Keeps s (s.signalShutdown.setState .shuttingDown) :=
    keeps_of_frame (pending_signalShutdown s).subperm rfl (.refl _) (fun hc => by cases hc)
  unfold drain
  dsimp only
  refine h₁.trans (Keeps.trans (respects_keeps.wait
    ((s.signalShutdown.setState .shuttingDown).world.now +
      (s.signalShutdown.setState .shuttingDown).shutdownTimeout.nanos) n _) ?_)
  generalize drain.wait _ n _ = s₁
  have h₂ : Keeps s₁ { s₁ with running := [], queue := s₁.queue.filter (· == .checkpoint) } :=
    keeps_of_frame (List.filter_sublist.append (.refl _)).subperm rfl (.refl _) id
  refine h₂.trans (Keeps.trans (respects_keeps.settle
    ({ s₁ with running := [], queue := s₁.queue.filter (· == .checkpoint) } : Supervisor).budget
    { s₁ with running := [], queue := s₁.queue.filter (· == .checkpoint) }) ?_)
  split <;> exact keeps_of_frame (List.Subperm.refl _) rfl (.refl _) id

/-- Starting keeps the tasks well: from `Created` nothing waits and no worker has ended, so the
checkpoint task and one task per worker wait once each. -/
theorem start_keeps (s : Supervisor) : Keeps s s.start.1 := by
  intro h
  by_cases hc : s.state = .created
  · obtain ⟨hnil, hfresh⟩ := h.created hc
    unfold start
    rw [if_neg (by simp [hc])]
    dsimp only
    split
    · exact keeps_of_frame (List.Subperm.refl _) rfl (.refl _) (fun hc' => by cases hc') h
    · have hq : s.queue = [] := (List.append_eq_nil_iff.1 hnil).1
      have ht : s.timers = [] := List.map_eq_nil_iff.1 (List.append_eq_nil_iff.1 hnil).2
      refine ⟨⟨?_, ?_, h.exits, h.panicked, fun hc' => by cases hc'⟩, fun hi _ => hi⟩
      · simp only [pending, setState, hq, ht, List.nil_append, List.map_nil, List.append_nil]
        refine List.nodup_cons.2 ⟨by simp, ?_⟩
        exact List.Pairwise.map TaskId.worker (fun a b hab h => hab (TaskId.worker.inj h))
          List.nodup_range
      · intro i w hi hx
        rw [hfresh hi] at hx
        cases hx
  · rw [start_refused hc]
    exact ⟨h, fun hi _ => hi⟩

/-- Every call keeps the tasks well and never changes a worker whose run ended. -/
theorem Call.keeps (c : Call) (s : Supervisor) : Keeps s (c.apply s) := by
  cases c with
  | start => exact start_keeps s
  | runUntil deadline fuel =>
    show Keeps s (s.runUntil deadline fuel).1
    rw [runUntil_eq]
    refine (respects_keeps.go deadline fuel s).trans
      ((drain_keeps fuel (runUntil.go deadline fuel s).1).trans ?_)
    exact keeps_of_frame (List.Subperm.refl _) rfl (.refl _) (fun hc => by split at hc <;> cases hc)
  | shutdown fuel =>
    show Keeps s (s.shutdown fuel)
    unfold Supervisor.shutdown
    split
    · exact Keeps.refl s
    · exact (drain_keeps fuel s).trans
        (keeps_of_frame (List.Subperm.refl _) rfl (.refl _) (fun hc => by cases hc))
  | pause fuel ms => exact respects_keeps.sleepUntil _ _ s
  | world f => exact keeps_of_frame (List.Subperm.refl _) rfl (.refl _) id

/-- Any sequence of calls keeps a supervisor's tasks as they were kept. -/
theorem applyAll_keeps (s : Supervisor) (cs : List Call) : Keeps s (applyAll s cs) := by
  induction cs generalizing s with
  | nil => exact Keeps.refl s
  | cons c cs ih => exact (c.keeps s).trans (ih _)

/-- A supervisor as it is built keeps its tasks well: nothing waits, nothing ended, and every
worker is about to load its cursor. -/
theorem wellFormed_of_built {s : Supervisor} (hq : s.queue = [])
    (ht : s.timers = []) (he : s.exits = []) (hw : ∀ w ∈ s.workers, w.phase = .load) :
    s.WellFormed := by
  have hpending : s.pending = [] := by simp [pending, hq, ht]
  have hload : ∀ {i : Nat} {w : Worker}, s.workers[i]? = some w → w.phase = .load :=
    fun hi => hw _ (List.mem_of_getElem? hi)
  refine ⟨by simp [hpending], fun _ _ hm => by simp [hpending] at hm, fun hx => by simp [he] at hx,
    fun hi hp => ?_, fun _ => ⟨hpending, fun hi => by simp [Worker.exit?, hload hi]⟩⟩
  rw [hload hi] at hp
  cases hp

/-! ## The shutdown signal -/

/-- Once shutdown is signalled it stays signalled. -/
def Signalled (s s' : Supervisor) : Prop := s.world.shutdown = true → s'.world.shutdown = true

theorem workerTask_shutdown {fuel : Nat} {w : Worker} {world : World}
    (hs : world.shutdown = true) : (workerTask fuel w world).2.1.shutdown = true := by
  obtain ⟨r, hr, heq⟩ := workerTask_eq fuel w world
  rw [heq]
  rcases hr with rfl | rfl
  · exact Worker.run_shutdown hs
  · exact Worker.wake_shutdown hs

@[simp] theorem park_world (s : Supervisor) (i : Nat) (w : Worker) (wait : Wait) :
    (s.park i w wait).world = s.world := by
  cases wait with
  | sleep t => rfl
  | forever => rfl
  | done =>
    simp only [park]
    split <;> rfl

theorem runCheckpoint_shutdown (s : Supervisor) :
    s.runCheckpoint.world.shutdown = s.world.shutdown := by
  unfold runCheckpoint
  split
  · rfl
  · split <;> rfl
  · rfl

theorem respects_signalled : Respects Signalled where
  refl _ := id
  trans h₁ h₂ := h₂ ∘ h₁
  runTask := fun {s t rest} _ hs => by
    cases t with
    | checkpoint =>
      show ({ s with queue := rest } : Supervisor).runCheckpoint.world.shutdown = true
      rw [runCheckpoint_shutdown]
      exact hs
    | worker i =>
      show (({ s with queue := rest } : Supervisor).runWorker i).world.shutdown = true
      cases hw : s.workers[i]? with
      | none =>
        unfold runWorker
        rw [show ({ s with queue := rest } : Supervisor).worker? i = none from hw]
        exact hs
      | some w =>
        rw [runWorker_some (s := { s with queue := rest }) hw, park_world]
        exact workerTask_shutdown hs
  wakeAt _ _ := id
  clock _ _ := id
  forget _ _ _ _ := id

/-- Draining signals shutdown, and nothing after lowers the signal. -/
theorem drain_shutdown (n : Nat) (s : Supervisor) : (drain n s).world.shutdown = true := by
  unfold drain
  dsimp only
  have h₁ : (s.signalShutdown.setState .shuttingDown).world.shutdown = true := rfl
  have h₂ := respects_signalled.wait ((s.signalShutdown.setState .shuttingDown).world.now +
    (s.signalShutdown.setState .shuttingDown).shutdownTimeout.nanos) n _ h₁
  generalize drain.wait _ n _ = s₁ at h₂ ⊢
  have h₃ := respects_signalled.settle
    ({ s₁ with running := [], queue := s₁.queue.filter (· == .checkpoint) } : Supervisor).budget
    { s₁ with running := [], queue := s₁.queue.filter (· == .checkpoint) } h₂
  split <;> exact h₃

end Supervisor

end ChangeRelay
