import ChangeRelay.Proofs.Worker.Step
import Mathlib.Logic.Relation

/-!
# Executions of a worker

A worker moves in two ways: it takes a step (`Worker.Step`), or, while it waits where shutdown can
reach it (at the top of its loop, before a pull, between two publish attempts), it stops because
shutdown was signalled. `Worker.run` and `Worker.wake`, which the supervisor and the commands use
to run a worker, are chains of such moves (`run_moves`, `wake_moves`).

Between two moves of a worker the rest of the process moves too: other workers, the checkpoint
task, the shutdown signal, the clock, a store that fails or recovers, a publisher that refuses.
An `Execution` interleaves the moves of one worker with moves of the world that a relation `Env`
allows, so a theorem over executions holds for every schedule and every failure pattern that
`Env` admits. A crash is an execution in which the worker stops moving.

`Reaches w₀ w` says that `w₀` becomes `w` by its own moves, whatever the world is at each of
them: invariants of the worker alone are proved along `Reaches`.
-/

namespace ChangeRelay

namespace Worker

/-- Whether the worker waits where shutdown can end its run. -/
def Waiting (w : Worker) : Prop :=
  w.phase = .top ∨ w.phase = .pull ∨ ∃ ns next bo, w.phase = .publish ns next bo

/-- A move of a worker: a step, or the stop that a signalled shutdown causes while it waits. -/
inductive Moves : Worker → World → Worker → World → Prop
  | step {w world w' world' o} : w.step world = (w', world', o) → Moves w world w' world'
  | stop {w world} : w.Waiting → world.shutdown = true → Moves w world w.stop world

/-- The workers `w₀` becomes by its own moves, whatever the world is at each of them. -/
inductive Reaches (w₀ : Worker) : Worker → Prop
  | refl : Reaches w₀ w₀
  | tail {w world w' world'} : Reaches w₀ w → Moves w world w' world' → Reaches w₀ w'

/-- An execution of a worker from `w₀` among the other tasks of the process: at each instant the
worker moves, or the world moves on without it as `Env` allows. -/
structure Execution (w₀ : Worker) (Env : World → World → Prop) where
  worker : Nat → Worker
  world : Nat → World
  start : worker 0 = w₀
  next : ∀ t, Moves (worker t) (world t) (worker (t + 1)) (world (t + 1)) ∨
    worker (t + 1) = worker t ∧ Env (world t) (world (t + 1))

variable {w₀ w w' : Worker} {world world' : World} {o : Option Wait}
  {Env : World → World → Prop}

theorem Execution.reaches (e : Execution w₀ Env) (t : Nat) : Reaches w₀ (e.worker t) := by
  induction t with
  | zero => rw [e.start]; exact .refl
  | succ t ih =>
    rcases e.next t with hm | ⟨hw, -⟩
    · exact ih.tail hm
    · rw [hw]; exact ih

/-- A step after which the worker sleeps leaves it waiting where shutdown can reach it. -/
theorem Step.waiting_of_sleep {d : Nat} (h : Step w world w' world' (some (.sleep d))) :
    w'.Waiting := by
  cases h with
  | rewrote | admitted => exact .inr (.inl rfl)
  | backedOff | bookmarked | idled => exact .inl rfl
  | refused => exact .inr (.inr ⟨_, _, _, rfl⟩)

/-- A run of a worker until it waits is a chain of its moves. -/
theorem run_moves (fuel : Nat) (w : Worker) (world : World) :
    Relation.ReflTransGen (fun a b : Worker × World => Moves a.1 a.2 b.1 b.2) (w, world)
      ((w.run fuel world).1, (w.run fuel world).2.1) := by
  induction fuel generalizing w world with
  | zero => exact .refl
  | succ fuel ih =>
    rcases hs : w.step world with ⟨w₁, world₁, o⟩
    have hm : Moves w world w₁ world₁ := .step hs
    rcases o with _ | (d | _ | _) <;> simp only [run, hs]
    · exact .head hm (ih w₁ world₁)
    · split
      · next hsd =>
        have hstop : Moves w₁ world₁ w₁.stop world₁ :=
          .stop (Step.waiting_of_sleep (step_spec hs)) hsd
        exact .tail (.single hm)
          (show (fun a b : Worker × World => Moves a.1 a.2 b.1 b.2) (w₁, world₁) (w₁.stop, world₁)
            from hstop)
      · exact .single hm
    · exact .single hm
    · exact .single hm

/-- Waking a worker that waits is a chain of its moves. -/
theorem wake_moves (fuel : Nat) (hw : w.Waiting) (world : World) :
    Relation.ReflTransGen (fun a b : Worker × World => Moves a.1 a.2 b.1 b.2) (w, world)
      ((w.wake fuel world).1, (w.wake fuel world).2.1) := by
  unfold wake
  split
  · next hs => exact .single (.stop hw hs)
  · exact run_moves fuel w world

end Worker

end ChangeRelay
