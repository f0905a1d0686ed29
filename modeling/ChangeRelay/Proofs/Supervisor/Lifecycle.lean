import ChangeRelay.Relay.Supervisor

/-!
# The lifecycle of the supervisor

The supervisor announces each of its states on its state channel. Its lifecycle is a graph
(`SupervisorState.Step`): `start` leads from `Created` through `Starting` to `Running` or
`Failed`, draining leads from `Created` or `Running` to `ShuttingDown` and from there to
`Stopped` or `Failed`, and `Stopped` and `Failed` are final.

The tasks the scheduler runs never touch the lifecycle (`settle_lifecycle` and its kin), so each
call from outside announces a fixed sequence of states (`start_announces`, `drain_announces`,
`runUntil_announces`, `shutdown_announces`). Between calls the supervisor is at rest, in
`Created`, `Running`, `Stopped` or `Failed`.

`shutdown` does nothing once the supervisor is final, and `start` refuses to run but from
`Created`; `runUntil` has no such guard, and drains again a supervisor that has already stopped or
failed (`rerun_after_failed_start`). Over runs of calls that never supervise again a final
supervisor, the announced states form a path of the graph from `Created`, and a final state is
never left (`lifecycle_path`).
-/

namespace ChangeRelay

namespace SupervisorState

/-- The transitions of the lifecycle. -/
inductive Step : SupervisorState → SupervisorState → Prop
  | start : Step .created .starting
  | shutDownUnstarted : Step .created .shuttingDown
  | started : Step .starting .running
  | startFailed : Step .starting .failed
  | shutDown : Step .running .shuttingDown
  | stopped : Step .shuttingDown .stopped
  | failed : Step .shuttingDown .failed

/-- `Path a l b`: from `a`, the states of `l` follow one another by transitions of the lifecycle,
and the last state is `b`. -/
inductive Path : SupervisorState → List SupervisorState → SupervisorState → Prop
  | nil {a} : Path a [] a
  | cons {a b c l} : Step a b → Path b l c → Path a (b :: l) c

theorem Path.append {a b c : SupervisorState} {l l' : List SupervisorState} (h : Path a l b)
    (h' : Path b l' c) : Path a (l ++ l') c := by
  induction h with
  | nil => exact h'
  | cons hs _ ih => exact .cons hs (ih h')

theorem Path.pair {a b c : SupervisorState} (h₁ : Step a b) (h₂ : Step b c) : Path a [b, c] c :=
  .cons h₁ (.cons h₂ .nil)

/-- The states a call from outside leaves the supervisor in. -/
inductive AtRest : SupervisorState → Prop
  | created : AtRest .created
  | running : AtRest .running
  | stopped : AtRest .stopped
  | failed : AtRest .failed

/-- Draining starts from a supervisor at rest that is not final. -/
theorem step_shuttingDown {a : SupervisorState} (h : AtRest a) (hf : a.isFinal = false) :
    Step a .shuttingDown := by
  cases h with
  | created => exact .shutDownUnstarted
  | running => exact .shutDown
  | stopped | failed => cases hf

end SupervisorState

namespace Supervisor

open SupervisorState

/-! ## The tasks leave the lifecycle alone -/

/-- The current state and the states announced so far. -/
def lifecycle (s : Supervisor) : SupervisorState × List SupervisorState := (s.state, s.announced)

theorem flushSequence_lifecycle (s : Supervisor) : s.flushSequence.lifecycle = s.lifecycle := rfl

theorem runCheckpoint_lifecycle (s : Supervisor) : s.runCheckpoint.lifecycle = s.lifecycle := by
  unfold runCheckpoint
  split
  · rfl
  · split <;> rfl
  · rfl

theorem park_lifecycle (s : Supervisor) (i : Nat) (w : Worker) (wait : Wait) :
    (s.park i w wait).lifecycle = s.lifecycle := by
  cases wait with
  | sleep t => rfl
  | forever => rfl
  | done =>
    simp only [park]
    split <;> rfl

theorem runWorker_lifecycle (s : Supervisor) (i : Nat) :
    (s.runWorker i).lifecycle = s.lifecycle := by
  unfold runWorker
  split
  · rfl
  · exact park_lifecycle _ _ _ _

theorem runTask_lifecycle (s : Supervisor) (t : TaskId) :
    (s.runTask t).lifecycle = s.lifecycle := by
  cases t with
  | checkpoint => exact runCheckpoint_lifecycle s
  | worker i => exact runWorker_lifecycle s i

theorem settle_lifecycle (n : Nat) (s : Supervisor) : (settle n s).lifecycle = s.lifecycle := by
  induction n generalizing s with
  | zero => rfl
  | succ n ih =>
    unfold settle
    split
    · rfl
    · rw [ih, runTask_lifecycle]
      rfl

theorem sleepUntil_lifecycle (deadline n : Nat) (s : Supervisor) :
    (sleepUntil deadline n s).lifecycle = s.lifecycle := by
  induction n generalizing s with
  | zero => rfl
  | succ n ih =>
    unfold sleepUntil
    dsimp only
    split
    · split
      · rw [ih]
        exact settle_lifecycle _ s
      · exact settle_lifecycle _ s
    · exact settle_lifecycle _ s

theorem collectFrom_lifecycle (s : Supervisor) (es : List (Nat × WorkerExit)) :
    (s.collectFrom es).1.lifecycle = s.lifecycle := by
  induction es generalizing s with
  | nil => rfl
  | cons e es ih =>
    obtain ⟨i, x⟩ := e
    unfold collectFrom
    dsimp only
    split
    · split
      · rfl
      · exact ih _
    · exact ih _

theorem collect_lifecycle (s : Supervisor) : s.collect.1.lifecycle = s.lifecycle :=
  collectFrom_lifecycle s s.exits

theorem wait_lifecycle (deadline n : Nat) (s : Supervisor) :
    (drain.wait deadline n s).lifecycle = s.lifecycle := by
  induction n generalizing s with
  | zero => rfl
  | succ n ih =>
    unfold drain.wait
    dsimp only
    split
    · exact settle_lifecycle _ s
    · split
      · split
        · rw [ih]
          exact settle_lifecycle _ s
        · exact settle_lifecycle _ s
      · exact settle_lifecycle _ s

theorem go_lifecycle (deadline n : Nat) (s : Supervisor) :
    (runUntil.go deadline n s).1.lifecycle = s.lifecycle := by
  induction n generalizing s with
  | zero => rfl
  | succ n ih =>
    unfold runUntil.go
    dsimp only
    have hc := collect_lifecycle (settle s.budget s)
    rw [settle_lifecycle] at hc
    split
    · next s' e heq =>
      rw [heq] at hc
      exact hc
    · next s' heq =>
      rw [heq] at hc
      split
      · exact hc
      · split
        · split
          · rw [ih]
            exact hc
          · exact hc
        · exact hc

/-! ## What each call announces -/

theorem drain_announces (n : Nat) (s : Supervisor) :
    (drain n s).lifecycle = (.shuttingDown, s.announced ++ [.shuttingDown]) := by
  unfold drain
  dsimp only
  split
  · next h =>
    rw [flushSequence_lifecycle, settle_lifecycle]
    exact wait_lifecycle _ _ _
  · rw [flushSequence_lifecycle]
    show (settle _ _).lifecycle = _
    rw [settle_lifecycle]
    exact wait_lifecycle _ _ _

/-- `start` refuses a supervisor that is not `Created` and leaves it as it is. -/
theorem start_refused {s : Supervisor} (h : s.state ≠ .created) :
    s.start = (s, some (.invalidState "Created" s.state.name)) := by
  unfold start
  rw [if_pos (by simpa using h)]

/-- From `Created`, `start` announces `Starting`, then `Running` if the checkpoint loads and
`Failed`, with the error, if it does not. -/
theorem start_announces {s : Supervisor} (h : s.state = .created) :
    (s.start.2 = none ∧
      s.start.1.lifecycle = (.running, s.announced ++ [.starting, .running])) ∨
    (s.start.2.isSome ∧
      s.start.1.lifecycle = (.failed, s.announced ++ [.starting, .failed])) := by
  unfold start
  rw [if_neg (by simp [h])]
  dsimp only
  split
  · right
    exact ⟨rfl, by simp [lifecycle, setState]⟩
  · left
    exact ⟨rfl, by simp [lifecycle, setState]⟩

/-- Supervising drains whatever the state: it announces `ShuttingDown`, then `Failed` on a fatal
fault and `Stopped` otherwise. -/
theorem runUntil_announces (deadline n : Nat) (s : Supervisor) :
    ((s.runUntil deadline n).2.isSome ∧
      (s.runUntil deadline n).1.lifecycle =
        (.failed, s.announced ++ [.shuttingDown, .failed])) ∨
    ((s.runUntil deadline n).2 = none ∧
      (s.runUntil deadline n).1.lifecycle =
        (.stopped, s.announced ++ [.shuttingDown, .stopped])) := by
  have hg := go_lifecycle deadline n s
  unfold runUntil
  generalize runUntil.go deadline n s = p at hg
  obtain ⟨s', fault⟩ := p
  have hd := drain_announces n s'
  simp only [lifecycle, Prod.mk.injEq] at hg hd
  cases fault with
  | none => simp [lifecycle, setState, hd, hg]
  | some e => simp [lifecycle, setState, hd, hg]

theorem shutdown_final {s : Supervisor} (h : s.state.isFinal = true) (n : Nat) :
    s.shutdown n = s := by
  simp [shutdown, h]

/-- Unless the supervisor is final, `shutdown` drains it and announces `ShuttingDown` then
`Stopped`. -/
theorem shutdown_announces {s : Supervisor} (h : s.state.isFinal = false) (n : Nat) :
    (s.shutdown n).lifecycle = (.stopped, s.announced ++ [.shuttingDown, .stopped]) := by
  have hd := drain_announces n s
  simp only [lifecycle, Prod.mk.injEq] at hd
  simp [shutdown, h, lifecycle, setState, hd]

theorem pause_lifecycle (n ms : Nat) (s : Supervisor) : (s.pause n ms).lifecycle = s.lifecycle :=
  sleepUntil_lifecycle _ _ _

theorem runUntil_fault (deadline n : Nat) (s : Supervisor) :
    (s.runUntil deadline n).2 = (runUntil.go deadline n s).2 := by
  unfold runUntil
  generalize runUntil.go deadline n s = p
  obtain ⟨s', fault⟩ := p
  cases fault <;> rfl

/-- After its loop, `runUntil` drains and announces how the loop ended. -/
theorem runUntil_eq (deadline n : Nat) (s : Supervisor) :
    (s.runUntil deadline n).1 = (drain n (runUntil.go deadline n s).1).setState
      (if (runUntil.go deadline n s).2.isSome then .failed else .stopped) := by
  unfold runUntil
  generalize runUntil.go deadline n s = p
  obtain ⟨s', fault⟩ := p
  cases fault <;> rfl

/-- A supervisor with no workers over `store`, as it is built. -/
def bare (store : Store.MemoryStore) : Supervisor :=
  { world := { wallMs := 0, store, sources := [], stopWhenDone := false }
    workers := [], flushInterval := ⟨0⟩, shutdownTimeout := ⟨0⟩, budget := 1 }

/-- The supervisor with no workers over a store whose reads fail. -/
def unreadable : Supervisor := bare { failReads := true }

/-- A supervisor whose start failed is drained again by supervising it: it announces
`ShuttingDown` after `Failed`, and ends `Stopped`. -/
theorem rerun_after_failed_start :
    unreadable.start.1.lifecycle = (.failed, [.starting, .failed]) ∧
    (unreadable.start.1.runUntil 0 1).1.lifecycle =
      (.stopped, [.starting, .failed, .shuttingDown, .stopped]) := by
  have hf : (runUntil.go 0 1 unreadable.start.1).2 = none := rfl
  refine ⟨rfl, ?_⟩
  rcases runUntil_announces 0 1 unreadable.start.1 with ⟨h, _⟩ | ⟨_, h⟩
  · rw [runUntil_fault, hf] at h
    cases h
  · exact h

/-! ## Runs of calls -/

/-- A call from outside: the supervisor's three operations, a pause that lets its tasks run, and
a change of the world around it (such as the store's failure switches). -/
inductive Call where
  | start
  | runUntil (deadline fuel : Nat)
  | shutdown (fuel : Nat)
  | pause (fuel ms : Nat)
  | world (f : World → World)

namespace Call

/-- The supervisor after the call. -/
def apply : Call → Supervisor → Supervisor
  | .start, s => s.start.1
  | .runUntil deadline fuel, s => (s.runUntil deadline fuel).1
  | .shutdown fuel, s => s.shutdown fuel
  | .pause fuel ms, s => s.pause fuel ms
  | .world f, s => { s with world := f s.world }

/-- Whether the call supervises again a supervisor that already stopped or failed. -/
def reruns : Call → Supervisor → Bool
  | .runUntil _ _, s => s.state.isFinal
  | _, _ => false

end Call

/-- The supervisor after the calls, in order. -/
def applyAll (s : Supervisor) : List Call → Supervisor
  | [] => s
  | c :: cs => applyAll (c.apply s) cs

/-- Whether some call of the run supervises again a supervisor that already stopped or failed. -/
def rerunsAny : Supervisor → List Call → Bool
  | _, [] => false
  | s, c :: cs => c.reruns s || rerunsAny (c.apply s) cs

theorem applyAll_append (s : Supervisor) (cs₁ cs₂ : List Call) :
    applyAll s (cs₁ ++ cs₂) = applyAll (applyAll s cs₁) cs₂ := by
  induction cs₁ generalizing s with
  | nil => rfl
  | cons c cs ih => exact ih (c.apply s)

theorem rerunsAny_append (s : Supervisor) (cs₁ cs₂ : List Call) :
    rerunsAny s (cs₁ ++ cs₂) = (rerunsAny s cs₁ || rerunsAny (applyAll s cs₁) cs₂) := by
  induction cs₁ generalizing s with
  | nil => rfl
  | cons c cs ih => simp only [List.cons_append, rerunsAny, ih, applyAll, Bool.or_assoc]

/-- What a run of calls does to the lifecycle: it announces a path of the lifecycle from the
state it found and leaves the supervisor at rest, and from a final state it changes nothing. -/
structure Advances (s s' : Supervisor) : Prop where
  path : ∃ l, s'.announced = s.announced ++ l ∧ Path s.state l s'.state
  rest : AtRest s'.state
  final : s.state.isFinal = true → s'.lifecycle = s.lifecycle

theorem Advances.of_lifecycle {s s' : Supervisor} (h : s'.lifecycle = s.lifecycle)
    (hs : AtRest s.state) : Advances s s' := by
  simp only [lifecycle, Prod.mk.injEq] at h
  refine ⟨⟨[], by simp [h.2], ?_⟩, h.1 ▸ hs, fun _ => by simp [lifecycle, h]⟩
  rw [h.1]
  exact .nil

theorem Advances.trans {s s' s'' : Supervisor} (h : Advances s s') (h' : Advances s' s'') :
    Advances s s'' := by
  obtain ⟨l, hl, hp⟩ := h.path
  obtain ⟨l', hl', hp'⟩ := h'.path
  refine ⟨⟨l ++ l', by rw [hl', hl, List.append_assoc], hp.append hp'⟩, h'.rest,
    fun hf => ?_⟩
  have hs' := h.final hf
  have hf' : s'.state.isFinal = true := by
    simp only [lifecycle, Prod.mk.injEq] at hs'
    rw [hs'.1]
    exact hf
  rw [h'.final hf', hs']

/-- A supervisor announces `x` after draining when it ends in `x`, `Stopped` or `Failed`. -/
theorem advances_of_drain {s s' : Supervisor} {x : SupervisorState} (hs : AtRest s.state)
    (hf : s.state.isFinal = false) (hx : x = .stopped ∨ x = .failed)
    (h : s'.lifecycle = (x, s.announced ++ [.shuttingDown, x])) : Advances s s' := by
  simp only [lifecycle, Prod.mk.injEq] at h
  have hstep : Step .shuttingDown x := by
    rcases hx with rfl | rfl
    · exact .stopped
    · exact .failed
  refine ⟨⟨_, h.2, ?_⟩, ?_, fun h' => by simp [hf] at h'⟩
  · rw [h.1]
    exact .cons (step_shuttingDown hs hf) (.cons hstep .nil)
  · rcases hx with rfl | rfl <;> rw [h.1]
    · exact .stopped
    · exact .failed

/-- One call: from a supervisor at rest, unless it supervises again a final supervisor, the call
advances along the lifecycle. -/
theorem Call.advances {c : Call} {s : Supervisor} (hr : c.reruns s = false)
    (hs : AtRest s.state) : Advances s (c.apply s) := by
  cases c with
  | start =>
    change Advances s s.start.1
    by_cases hc : s.state = .created
    · have hnf : s.state.isFinal = false := by rw [hc]; rfl
      rcases start_announces hc with ⟨_, h⟩ | ⟨_, h⟩
      all_goals
        simp only [lifecycle, Prod.mk.injEq] at h
        refine ⟨⟨_, h.2, ?_⟩, ?_, fun h' => by simp [hnf] at h'⟩
      · rw [hc, h.1]
        exact .pair .start .started
      · rw [h.1]
        exact .running
      · rw [hc, h.1]
        exact .pair .start .startFailed
      · rw [h.1]
        exact .failed
    · exact .of_lifecycle (by rw [start_refused hc]) hs
  | runUntil deadline fuel =>
    have hf : s.state.isFinal = false := by simpa [reruns] using hr
    rcases runUntil_announces deadline fuel s with ⟨_, h⟩ | ⟨_, h⟩
    · exact advances_of_drain hs hf (.inr rfl) h
    · exact advances_of_drain hs hf (.inl rfl) h
  | shutdown fuel =>
    cases hf : s.state.isFinal
    · exact advances_of_drain hs hf (.inl rfl) (shutdown_announces hf fuel)
    · exact .of_lifecycle (show (s.shutdown fuel).lifecycle = _ by rw [shutdown_final hf]) hs
  | pause fuel ms => exact .of_lifecycle (pause_lifecycle fuel ms s) hs
  | world f => exact .of_lifecycle rfl hs

/-- A run of calls that never supervises again a final supervisor advances along the lifecycle. -/
theorem applyAll_advances {s : Supervisor} {cs : List Call} (hr : rerunsAny s cs = false)
    (hs : AtRest s.state) : Advances s (applyAll s cs) := by
  induction cs generalizing s with
  | nil => exact .of_lifecycle rfl hs
  | cons c cs ih =>
    simp only [rerunsAny, Bool.or_eq_false_iff] at hr
    have hc := Call.advances hr.1 hs
    exact hc.trans (ih hr.2 hc.rest)

/-- The lifecycle of a supervisor: over any run of calls on a supervisor as it is built, in which
no call supervises again a supervisor that already stopped or failed, the announced states form
a path of the lifecycle from `Created`, a final state reached after some of the calls is never
left, and `start` succeeds only from `Created`. -/
theorem lifecycle_path {s : Supervisor} (hs : s.lifecycle = (.created, [])) {cs : List Call}
    (hr : rerunsAny s cs = false) :
    Path .created (applyAll s cs).announced (applyAll s cs).state ∧
    (∀ cs₁ cs₂, cs = cs₁ ++ cs₂ → (applyAll s cs₁).state.isFinal = true →
      (applyAll s cs).lifecycle = (applyAll s cs₁).lifecycle) ∧
    ∀ t : Supervisor, t.start.2 = none → t.state = .created := by
  simp only [lifecycle, Prod.mk.injEq] at hs
  have hrest : AtRest s.state := hs.1 ▸ .created
  refine ⟨?_, fun cs₁ cs₂ hcs hf => ?_, fun t ht => ?_⟩
  · obtain ⟨l, hl, hp⟩ := (applyAll_advances hr hrest).path
    rw [hl, hs.2, List.nil_append, ← hs.1]
    exact hp
  · subst hcs
    rw [rerunsAny_append, Bool.or_eq_false_iff] at hr
    have h₁ := applyAll_advances hr.1 hrest
    rw [applyAll_append]
    exact (applyAll_advances hr.2 h₁.rest).final hf
  · by_cases hc : t.state = .created
    · exact hc
    · rw [start_refused hc] at ht
      cases ht

/-- Starting a supervisor over an empty store, supervising it and shutting it down. -/
theorem lifecycle_path_bare :
    rerunsAny (bare {}) [.start, .runUntil 0 1, .shutdown 1] = false ∧
    Path .created (applyAll (bare {}) [.start, .runUntil 0 1, .shutdown 1]).announced
      (applyAll (bare {}) [.start, .runUntil 0 1, .shutdown 1]).state :=
  ⟨rfl, (lifecycle_path rfl rfl).1⟩

end Supervisor

end ChangeRelay
