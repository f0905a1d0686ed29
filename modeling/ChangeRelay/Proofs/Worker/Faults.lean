import ChangeRelay.Proofs.Worker.Delivery

/-!
# How a worker's run ends on an error

A worker's run ends in a fault only where the loop decides so, and before the step that would
do harm:

* a cursor that cannot be read faults a new worker at once, with the world as it was: nothing
  was pulled, stamped, published or written (`run_of_load_error`);
* a fatal pull failure faults the worker; the pull left the stored cursors and the sequence
  generator as they were (`step_of_pull_fatal`). Any other failure backs off, or panics when the
  retry schedule cannot give a delay, and the next pull is given the same cursor;
* a batch with events that does not move the cursor faults the worker with a configuration
  error, before anything of the batch is stamped, published or written (`step_of_stall`); a
  batch without events never does (`step_of_empty`);
* a worker stops only on a signalled shutdown (`Moves.shutdown_of_stopped`), and the state of
  a worker whose run ended names how it ended (`Reaches.stateMatches`).

`error_paths` puts them together.
-/

namespace ChangeRelay

/-- The state a worker ends in when its run ends so. -/
def WorkerExit.state : WorkerExit → WorkerState
  | .stopped => .stopped
  | .faulted _ => .faulted

namespace Worker

variable {w₀ w w' : Worker} {world world' world₁ : World} {o : Option Wait}

/-! ## How `run` ends -/

/-- A step that ends the run ends `run` with it. -/
theorem run_of_step_done (fuel : Nat) (h : w.step world = (w', world', some .done)) :
    w.run (fuel + 1) world = (w', world', .done) := by
  simp [run, h]

/-- A step after which the worker sleeps ends `run` with the sleep, or with a stop when shutdown
was signalled. -/
theorem run_of_step_sleep (fuel : Nat) {d : Nat}
    (h : w.step world = (w', world', some (.sleep d))) :
    w.run (fuel + 1) world =
      if world'.shutdown then (w'.stop, world', .done) else (w', world', .sleep d) := by
  simp [run, h]

/-! ## The steps that fail -/

/-- A cursor that cannot be read faults the worker and leaves the world as it was. -/
theorem run_of_load_error (fuel : Nat) {e : RelayError} (hp : w.phase = .load)
    (hg : world.store.get w.partition = .error e) :
    w.run (fuel + 1) world = (w.fault e, world, .done) :=
  run_of_step_done fuel (by simp [step, hp, load, hg])

/-- A fatal pull failure faults the worker. -/
theorem step_of_pull_fatal {e : RelayError} (hp : w.phase = .pull) (hs : world.shutdown = false)
    (hr : world.pull w.partition w.cursor = (.fail e, world₁)) (he : e.isFatal = true) :
    w.step world = (w.fault e, world₁, some .done) := by
  simp [step, hp, pullNext, hs, hr, he]

/-- Any other pull failure backs off. -/
theorem step_of_pull_retry {e : RelayError} (hp : w.phase = .pull) (hs : world.shutdown = false)
    (hr : world.pull w.partition w.cursor = (.fail e, world₁)) (he : e.isFatal = false) :
    w.step world = w.backOff world₁ := by
  simp [step, hp, pullNext, hs, hr, he]

/-- A batch with events that does not move the cursor faults the worker as soon as it is
pulled. -/
theorem step_of_stall {b : SourceBatch} (hp : w.phase = .pull) (hs : world.shutdown = false)
    (hr : world.pull w.partition w.cursor = (.batch b, world₁)) (he : b.events ≠ [])
    (hc : b.nextCursor = none ∨ b.nextCursor = w.cursor) :
    w.step world =
      ({ w with backoff := w.backoff.reset }.fault (stalled b.events.length w.cursor), world₁,
        some .done) := by
  have hne : b.isEmpty = false := by simpa [SourceBatch.isEmpty] using he
  simp only [step, hp, pullNext, hs, hr, received, hne, Bool.false_eq_true, ↓reduceIte]
  rcases hc with hc | hc
  · simp [hc]
  · rw [hc]
    cases hcur : w.cursor <;> simp

/-- A batch without events leaves the worker at the top of its loop, in the state it was in. -/
theorem step_of_empty {b : SourceBatch} (hp : w.phase = .pull) (hs : world.shutdown = false)
    (hr : world.pull w.partition w.cursor = (.batch b, world₁)) (he : b.events = []) :
    (w.step world).1.phase = .top ∧ (w.step world).1.state = w.state := by
  have hem : b.isEmpty = true := by simpa [SourceBatch.isEmpty] using he
  simp only [step, hp, pullNext, hs, hr, received, hem, idle, Bool.false_eq_true, ↓reduceIte]
  split
  · split <;> simp
  · simp

/-! ## Stopping -/

/-- A step that stops a running worker starts where shutdown was signalled. -/
theorem Step.shutdown_of_stopped (h : Step w world w' world' o)
    (h' : w'.phase = .finished .stopped) (hne : w.phase ≠ .finished .stopped) :
    world.shutdown = true := by
  cases h with
  | stopped _ hs => exact hs
  | stuck | ended => exact absurd h' hne
  | _ => cases h'

theorem Moves.shutdown_of_stopped (h : Moves w world w' world')
    (h' : w'.phase = .finished .stopped) (hne : w.phase ≠ .finished .stopped) :
    world.shutdown = true := by
  cases h with
  | step hs => exact (step_spec hs).shutdown_of_stopped h' hne
  | stop _ hs => exact hs

/-- The state of a worker whose run ended names how it ended. -/
def StateMatches (w : Worker) : Prop :=
  ∀ x, w.phase = .finished x → w.state = x.state

theorem Step.stateMatches (h : Step w world w' world' o) (hm : w.StateMatches) :
    w'.StateMatches := by
  intro x hx
  cases h with
  | loadFailed | pullFaulted | stalled =>
    simp only [fault_phase, Phase.finished.injEq] at hx
    subst hx
    rfl
  | stopped =>
    simp only [stop_phase, Phase.finished.injEq] at hx
    subst hx
    rfl
  | stuck | ended => exact hm x hx
  | _ => cases hx

theorem Moves.stateMatches (h : Moves w world w' world') (hm : w.StateMatches) :
    w'.StateMatches := by
  cases h with
  | step hs => exact (step_spec hs).stateMatches hm
  | stop =>
    intro x hx
    simp only [stop_phase, Phase.finished.injEq] at hx
    subst hx
    rfl

theorem Reaches.stateMatches (h : Reaches w₀ w) (h₀ : w₀.phase = .load) : w.StateMatches := by
  induction h with
  | refl =>
    intro x hx
    rw [h₀] at hx
    cases hx
  | tail _ hm ih => exact hm.stateMatches ih

/-- The error paths of a worker's run:
* a new worker whose cursor cannot be read faults at once with the world as it was;
* at a pull that fails, a fatal failure faults the worker, leaving the stored cursors and the
  sequence generator as they were; any other backs off, stopping if shutdown was signalled, or
  panics when the retry schedule cannot give a delay; and the next pull is given the same cursor;
* a batch with events that does not move the cursor faults the worker with a fatal error before
  anything of it is stamped, published or written, and a batch without events never faults it;
* a worker stops only on a signalled shutdown, and a worker whose run ended is in the state that
  names how. -/
theorem error_paths {sourceId p : String} {poll : Duration} {retry : RetryPolicy} :
    (∀ fuel world e, world.store.get p = .error e →
      (Worker.new sourceId p poll retry).run (fuel + 1) world =
        ((Worker.new sourceId p poll retry).fault e, world, .done)) ∧
    (∀ (w : Worker) world world₁ e fuel, w.phase = .pull → world.shutdown = false →
      world.pull w.partition w.cursor = (.fail e, world₁) →
      (e.isFatal = true →
        w.run (fuel + 1) world = (w.fault e, world₁, .done) ∧
          world₁.store.entries = world.store.entries ∧ world₁.sequence = world.sequence) ∧
      (e.isFatal = false →
        (∀ d b, w.backoff.next = (.ok d, b) →
          w.run (fuel + 1) world =
            if world₁.shutdown then ({ w with backoff := b, phase := .top }.stop, world₁, .done)
            else ({ w with backoff := b, phase := .top }, world₁, .sleep (world₁.now + d.nanos))) ∧
        (∀ m b, w.backoff.next = (.error m, b) →
          w.run (fuel + 1) world = ({ w with phase := .panicked (some m) }, world₁, .done)))) ∧
    (∀ (Env : World → World → Prop) (e : Execution (Worker.new sourceId p poll retry) Env)
      t₁ t₂ err, t₁ < t₂ → e.Pulls t₁ → e.Pulls t₂ → (∀ t, t₁ < t → t < t₂ → ¬ e.Pulls t) →
      e.reply t₁ = .fail err → (e.worker t₂).cursor = (e.worker t₁).cursor) ∧
    (∀ (w : Worker) world world₁ b fuel, w.phase = .pull → world.shutdown = false →
      world.pull w.partition w.cursor = (.batch b, world₁) → b.events ≠ [] →
      (b.nextCursor = none ∨ b.nextCursor = w.cursor) →
      w.run (fuel + 1) world =
          ({ w with backoff := w.backoff.reset }.fault (stalled b.events.length w.cursor), world₁,
            .done) ∧
        (stalled b.events.length w.cursor).isFatal = true ∧
        world₁.sequence = world.sequence ∧ world₁.store.entries = world.store.entries ∧
        world₁.attempts = world.attempts ∧ world₁.published = world.published) ∧
    (∀ (w : Worker) world world₁ b, w.phase = .pull → world.shutdown = false →
      world.pull w.partition w.cursor = (.batch b, world₁) → b.events = [] →
      (w.step world).1.phase = .top ∧ (w.step world).1.state = w.state) ∧
    (∀ w world w' world', Moves w world w' world' → w'.phase = .finished .stopped →
      w.phase ≠ .finished .stopped → world.shutdown = true) ∧
    (∀ w, Reaches (Worker.new sourceId p poll retry) w →
      ∀ x, w.phase = .finished x → w.state = x.state) := by
  refine ⟨fun fuel world e hg => run_of_load_error fuel rfl hg,
    fun w world world₁ e fuel hp hs hr => ⟨fun he => ?_, fun he => ⟨?_, ?_⟩⟩,
    fun Env e t₁ t₂ err hlt h₁ h₂ hb hr => ?_, fun w world world₁ b fuel hp hs hr he hc => ?_,
    fun w world world₁ b hp hs hr he => step_of_empty hp hs hr he,
    fun w world w' world' hm h' hne => hm.shutdown_of_stopped h' hne,
    fun w hw => hw.stateMatches rfl⟩
  · exact ⟨run_of_step_done fuel (step_of_pull_fatal hp hs hr he), World.entries_of_pull hr,
      World.sequence_of_pull hr⟩
  · intro d b hb
    exact run_of_step_sleep fuel (by rw [step_of_pull_retry hp hs hr he, backOff, hb])
  · intro m b hb
    exact run_of_step_done fuel (by rw [step_of_pull_retry hp hs hr he, backOff, hb])
  · rw [e.next_pull hlt h₁ h₂ hb, hr]
    rfl
  · exact ⟨run_of_step_done fuel (step_of_stall hp hs hr he hc), rfl, World.sequence_of_pull hr,
      World.entries_of_pull hr, World.attempts_of_pull hr, World.published_of_pull hr⟩

end Worker

end ChangeRelay
