import ChangeRelay.Proofs.Supervisor.Schedule

/-!
# The fault policy of the supervisor

`runUntil` supervises in rounds: the ready tasks run, then the workers that ended are taken in,
in the order they ended, up to the first fatal fault. `Supervises` lists how the loop goes, one
rule per way a round ends, with the exits the loop takes in; `go_supervises` shows that the loop
follows it.

Over any schedule and any outcome of the workers, the loop ends with a fault exactly when it took
in a fatal one, and then the fault is the first fatal exit it took in, the last it looked at
(`Supervises.result`, `Supervises.stops_at_fault`). Without a fatal fault it ends only once every
worker was collected, at the deadline, or when its rounds run out with a task waking before the
deadline in each (`Supervises.ends`): a worker that faults on a transient error never ends it.
`fault_policy` adds what draining does: the supervisor is `Failed` after a fault and `Stopped`
otherwise, shutdown is signalled to every worker, a worker whose exit was taken in still shows
it, and a worker whose run panicked shows `Faulted`, its exit an internal fault.
-/

namespace ChangeRelay

namespace WorkerExit

/-- The fatal fault an exit reports, if it reports one. -/
def fatal? : WorkerExit → Option RelayError
  | .faulted e => if e.isFatal then some e else none
  | .stopped => none

theorem fatal?_eq_some {x : WorkerExit} {e : RelayError} :
    x.fatal? = some e ↔ x = .faulted e ∧ e.isFatal = true := by
  cases x with
  | stopped => simp [fatal?]
  | faulted e' =>
    by_cases h : e'.isFatal = true
    · simp only [fatal?, h, if_true, Option.some.injEq, faulted.injEq]
      constructor
      · rintro rfl
        exact ⟨rfl, h⟩
      · rintro ⟨rfl, -⟩
        rfl
    · simp only [fatal?, h, if_false, reduceCtorEq, false_iff, not_and, faulted.injEq]
      rintro rfl
      exact h

end WorkerExit

namespace Supervisor

/-! ## Taking in ended workers -/

/-- The first fatal fault among exits, in order. -/
def firstFatal (es : List (Nat × WorkerExit)) : Option RelayError := es.findSome? (·.2.fatal?)

/-- The exits up to the first fatal one, included: the ones a collection takes in. -/
def upToFatal : List (Nat × WorkerExit) → List (Nat × WorkerExit)
  | [] => []
  | e :: es => if e.2.fatal?.isSome then [e] else e :: upToFatal es

@[simp] theorem firstFatal_nil : firstFatal [] = none := rfl

theorem firstFatal_cons (e : Nat × WorkerExit) (es : List (Nat × WorkerExit)) :
    firstFatal (e :: es) = (e.2.fatal?).or (firstFatal es) := by
  simp only [firstFatal, List.findSome?_cons]
  cases e.2.fatal? <;> rfl

theorem firstFatal_append (es es' : List (Nat × WorkerExit)) :
    firstFatal (es ++ es') = (firstFatal es).or (firstFatal es') := by
  induction es with
  | nil => rfl
  | cons e es ih => rw [List.cons_append, firstFatal_cons, firstFatal_cons, ih, Option.or_assoc]

/-- A collection reports the first fatal fault among the exits it goes through. -/
theorem collectFrom_fault (s : Supervisor) (es : List (Nat × WorkerExit)) :
    (s.collectFrom es).2 = firstFatal es := by
  induction es generalizing s with
  | nil => rfl
  | cons e es ih =>
    obtain ⟨i, x⟩ := e
    unfold collectFrom
    dsimp only
    rw [firstFatal_cons]
    split
    · next err =>
      by_cases h : err.isFatal = true
      · simp [h, WorkerExit.fatal?]
      · simp only [h, Bool.false_eq_true, if_false, WorkerExit.fatal?, Option.none_or]
        exact ih _
    · exact ih _

theorem firstFatal_upToFatal (es : List (Nat × WorkerExit)) :
    firstFatal (upToFatal es) = firstFatal es := by
  induction es with
  | nil => rfl
  | cons e es ih =>
    unfold upToFatal
    split
    · next h =>
      obtain ⟨e', he'⟩ := Option.isSome_iff_exists.1 h
      simp [firstFatal_cons, he']
    · rw [firstFatal_cons, firstFatal_cons, ih]

theorem upToFatal_sublist (es : List (Nat × WorkerExit)) : (upToFatal es).Sublist es := by
  induction es with
  | nil => exact .slnil
  | cons e es ih =>
    unfold upToFatal
    split
    · exact (List.nil_sublist es).cons_cons e
    · exact ih.cons_cons e

/-- Taken in up to its first fatal fault, a list of exits ends with that fault, and nothing
before it is fatal. -/
theorem upToFatal_of_some {es : List (Nat × WorkerExit)} {e : RelayError}
    (h : firstFatal es = some e) : e.isFatal = true ∧
      ∃ pre i, upToFatal es = pre ++ [(i, .faulted e)] ∧ firstFatal pre = none := by
  induction es with
  | nil => cases h
  | cons x es ih =>
    rw [firstFatal_cons] at h
    unfold upToFatal
    cases hx : x.2.fatal? with
    | some e' =>
      rw [hx] at h
      cases h
      obtain ⟨hx', hfatal⟩ := WorkerExit.fatal?_eq_some.1 hx
      refine ⟨hfatal, [], x.1, ?_, rfl⟩
      simp only [Option.isSome_some, if_true, List.nil_append, ← hx']
    | none =>
      rw [hx, Option.none_or] at h
      obtain ⟨hfatal, pre, i, hup, hpre⟩ := ih h
      refine ⟨hfatal, x :: pre, i, ?_, ?_⟩
      · simp [hup]
      · rw [firstFatal_cons, hx, hpre]
        rfl

/-! ## The supervising loop -/

/-- Each of the `n` rounds of the loop from `s` woke a sleeping task before the deadline: the loop
ran out of rounds. -/
inductive WokeThrough (deadline : Nat) : Nat → Supervisor → Prop
  | zero {s} : WokeThrough deadline 0 s
  | wake {n s s' d} : (settle s.budget s).collect = (s', none) → s'.allCollected = false →
      s'.nextDeadline? = some d → d < deadline → WokeThrough deadline n (s'.wakeAt d) →
      WokeThrough deadline (n + 1) s

/-- How the supervising loop goes from `s` with `n` rounds left: the exits it takes in, in order,
and how it ends. A round runs the ready tasks, then takes in the workers that ended, in the order
they ended, up to the first fatal fault. -/
inductive Supervises (deadline : Nat) :
    Nat → Supervisor → List (Nat × WorkerExit) → Supervisor × Option RelayError → Prop
  /-- Out of rounds. -/
  | exhausted {s} : Supervises deadline 0 s [] (s, none)
  /-- A worker faulted fatally: the loop ends with its fault. -/
  | fault {n s s' e} : (settle s.budget s).collect = (s', some e) →
      Supervises deadline (n + 1) s (upToFatal (settle s.budget s).exits) (s', some e)
  /-- Every worker was collected. -/
  | allEnded {n s s'} : (settle s.budget s).collect = (s', none) → s'.allCollected = true →
      Supervises deadline (n + 1) s (settle s.budget s).exits (s', none)
  /-- No task wakes before the deadline: the loop waits for it. -/
  | timedOut {n s s'} : (settle s.budget s).collect = (s', none) → s'.allCollected = false →
      (∀ d, s'.nextDeadline? = some d → deadline ≤ d) →
      Supervises deadline (n + 1) s (settle s.budget s).exits
        ({ s' with world := { s'.world with now := max s'.world.now deadline } }, none)
  /-- A sleeping task wakes before the deadline: the next round starts then. -/
  | wake {n s s' d obs r} : (settle s.budget s).collect = (s', none) → s'.allCollected = false →
      s'.nextDeadline? = some d → d < deadline → Supervises deadline n (s'.wakeAt d) obs r →
      Supervises deadline (n + 1) s ((settle s.budget s).exits ++ obs) r

/-- The loop of `runUntil` follows `Supervises`. -/
theorem go_supervises (deadline n : Nat) (s : Supervisor) :
    ∃ obs, Supervises deadline n s obs (runUntil.go deadline n s) := by
  induction n generalizing s with
  | zero => exact ⟨[], .exhausted⟩
  | succ n ih =>
    unfold runUntil.go
    dsimp only
    split
    · next s' e heq => exact ⟨_, .fault heq⟩
    · next s' heq =>
      split
      · next hc => exact ⟨_, .allEnded heq hc⟩
      · next hc =>
        have hc : s'.allCollected = false := by simpa using hc
        split
        · next d hd =>
          split
          · next hlt =>
            obtain ⟨obs, h⟩ := ih (s'.wakeAt d)
            exact ⟨_, .wake heq hc hd hlt h⟩
          · next hge =>
            refine ⟨_, .timedOut heq hc fun d' hd' => ?_⟩
            rw [hd] at hd'
            cases hd'
            exact Nat.le_of_not_lt hge
        · next hd =>
          refine ⟨_, .timedOut heq hc fun d' hd' => ?_⟩
          rw [hd] at hd'
          cases hd'

variable {deadline n : Nat} {s : Supervisor} {obs : List (Nat × WorkerExit)}
  {r : Supervisor × Option RelayError}

/-- The loop ends with the first fatal fault it took in, if any. -/
theorem Supervises.result (h : Supervises deadline n s obs r) : r.2 = firstFatal obs := by
  induction h with
  | exhausted => rfl
  | fault heq =>
    rw [firstFatal_upToFatal, ← collectFrom_fault, ← collect, heq]
  | allEnded heq | timedOut heq =>
    rw [← collectFrom_fault, ← collect, heq]
  | wake heq _ _ _ _ ih =>
    rw [firstFatal_append, ← collectFrom_fault, ← collect, heq, ih]
    rfl

/-- A loop that ends with a fault stops at it: the fault is fatal, it is the last exit the loop
took in, and no exit before it is fatal. -/
theorem Supervises.stops_at_fault (h : Supervises deadline n s obs r) {e : RelayError}
    (he : r.2 = some e) : e.isFatal = true ∧
      ∃ pre i, obs = pre ++ [(i, .faulted e)] ∧ firstFatal pre = none := by
  induction h with
  | exhausted | allEnded | timedOut => cases he
  | @fault n s s' e' heq =>
    cases he
    have hff : firstFatal (settle s.budget s).exits = some e := by
      rw [← collectFrom_fault, ← collect, heq]
    exact upToFatal_of_some hff
  | @wake n s s' d obs r heq _ _ _ _ ih =>
    obtain ⟨hfatal, pre, i, hobs, hpre⟩ := ih he
    have hnone : firstFatal (settle s.budget s).exits = none := by
      rw [← collectFrom_fault, ← collect, heq]
    refine ⟨hfatal, _ ++ pre, i, by rw [hobs, List.append_assoc], ?_⟩
    rw [firstFatal_append, hnone, hpre]
    rfl

/-- A loop that ends without a fault ends once every worker was collected, at the deadline, or
when its rounds run out with a task waking before the deadline in each. -/
theorem Supervises.ends (h : Supervises deadline n s obs r) (hr : r.2 = none) :
    r.1.allCollected = true ∨ deadline ≤ r.1.world.now ∨ WokeThrough deadline n s := by
  induction h with
  | exhausted => exact .inr (.inr .zero)
  | fault => cases hr
  | allEnded _ hc => exact .inl hc
  | timedOut => exact .inr (.inl (Nat.le_max_right _ _))
  | wake heq hc hd hlt _ ih =>
    rcases ih hr with h | h | h
    · exact .inl h
    · exact .inr (.inl h)
    · exact .inr (.inr (.wake heq hc hd hlt h))

/-- The loop keeps the tasks well and never changes a worker whose run ended. -/
theorem Supervises.keeps (h : Supervises deadline n s obs r) : Keeps s r.1 := by
  induction h with
  | @fault n s s' e heq | @allEnded n s s' heq =>
    have hc := respects_keeps.collect (settle s.budget s)
    rw [heq] at hc
    exact (respects_keeps.settle _ _).trans hc
  | @timedOut n s s' heq =>
    have hc := respects_keeps.collect (settle s.budget s)
    rw [heq] at hc
    exact (respects_keeps.settle _ _).trans (hc.trans (respects_keeps.clock _ _))
  | @wake n s s' d obs r heq _ _ _ _ ih =>
    have hc := respects_keeps.collect (settle s.budget s)
    rw [heq] at hc
    exact (respects_keeps.settle _ _).trans (hc.trans ((respects_keeps.wakeAt _ _).trans ih))
  | exhausted => exact Keeps.refl _

/-- An exit not yet collected belongs to its worker, and a later supervisor that keeps the tasks
well still has that worker with that exit. -/
theorem exits_recorded {s s' : Supervisor} (hs : s.WellFormed) (hk : Keeps s s')
    {p : Nat × WorkerExit} (hp : p ∈ s.exits) :
    ∃ w, s'.workers[p.1]? = some w ∧ w.exit? = some p.2 := by
  obtain ⟨w, hw, hx⟩ := hs.exits hp
  exact ⟨w, (hk hs).2 hw (by simp [hx]), hx⟩

/-- Every exit the loop took in is the exit of its worker, which still has it when the loop
ends. -/
theorem Supervises.recorded (h : Supervises deadline n s obs r) (hs : s.WellFormed) :
    ∀ p ∈ obs, ∃ w, r.1.workers[p.1]? = some w ∧ w.exit? = some p.2 := by
  induction h with
  | exhausted => intro p hp; cases hp
  | @fault n s s' e heq =>
    intro p hp
    have hc := respects_keeps.collect (settle s.budget s)
    rw [heq] at hc
    exact exits_recorded (respects_keeps.settle _ _ hs).1 hc ((upToFatal_sublist _).subset hp)
  | @allEnded n s s' heq =>
    intro p hp
    have hc := respects_keeps.collect (settle s.budget s)
    rw [heq] at hc
    exact exits_recorded (respects_keeps.settle _ _ hs).1 hc hp
  | @timedOut n s s' heq =>
    intro p hp
    have hc := respects_keeps.collect (settle s.budget s)
    rw [heq] at hc
    exact exits_recorded (respects_keeps.settle _ _ hs).1 (hc.trans (respects_keeps.clock _ _)) hp
  | @wake n s s' d obs r heq _ _ _ hrest ih =>
    intro p hp
    have hc := respects_keeps.collect (settle s.budget s)
    rw [heq] at hc
    rcases List.mem_append.1 hp with hp | hp
    · exact exits_recorded (respects_keeps.settle _ _ hs).1
        (hc.trans ((respects_keeps.wakeAt _ _).trans hrest.keeps)) hp
    · exact ih ((respects_keeps.settle _ _).trans (hc.trans (respects_keeps.wakeAt _ _)) hs).1 p hp

/-! ## The fault policy -/

/-- The task reports a panic of a worker's run as an internal fault, which is fatal. -/
theorem exit_of_panicked {w : Worker} {p : Option String} (h : w.phase = .panicked p) :
    w.exit? = some (.faulted (.internal ("worker panicked: " ++ p.getD "non-string panic payload"))) := by
  simp [Worker.exit?, h]

/-- What supervising from `s` until `deadline`, in at most `fuel` rounds, does, where `obs` are
the exits the loop took in, in order. -/
structure FaultPolicy (deadline fuel : Nat) (s : Supervisor) (obs : List (Nat × WorkerExit)) :
    Prop where
  /-- The loop goes as `Supervises` says, taking in `obs`. -/
  loop : Supervises deadline fuel s obs (runUntil.go deadline fuel s)
  /-- The result is the first fatal fault the loop took in. -/
  result : (s.runUntil deadline fuel).2 = firstFatal obs
  /-- A fault is fatal and ended the loop: it is the last exit taken in. -/
  stops : ∀ e, (s.runUntil deadline fuel).2 = some e → e.isFatal = true ∧
    ∃ pre i, obs = pre ++ [(i, .faulted e)] ∧ firstFatal pre = none
  /-- Without a fault the loop ended once every worker was collected, at the deadline, or out of
  rounds. -/
  ends : (s.runUntil deadline fuel).2 = none →
    (runUntil.go deadline fuel s).1.allCollected = true ∨
      deadline ≤ (runUntil.go deadline fuel s).1.world.now ∨ WokeThrough deadline fuel s
  /-- `Failed` after a fault, `Stopped` otherwise. -/
  state : (s.runUntil deadline fuel).1.state = .failed ∧ (s.runUntil deadline fuel).2.isSome ∨
    (s.runUntil deadline fuel).1.state = .stopped ∧ (s.runUntil deadline fuel).2 = none
  /-- Every worker was signalled to stop. -/
  signalled : (s.runUntil deadline fuel).1.world.shutdown = true
  /-- A worker whose exit was taken in still has it. -/
  recorded : ∀ p ∈ obs,
    ∃ w, (s.runUntil deadline fuel).1.workers[p.1]? = some w ∧ w.exit? = some p.2
  /-- A worker whose run panicked shows `Faulted`, its exit an internal fault. -/
  panicked : ∀ (i : Nat) (w : Worker) (p : Option String),
    (s.runUntil deadline fuel).1.workers[i]? = some w →
    w.phase = .panicked p → w.state = .faulted ∧
      w.exit? = some (.faulted (.internal ("worker panicked: " ++ p.getD "non-string panic payload")))
  /-- A worker whose run had ended before is left as it was. -/
  ended : KeepsEnded s (s.runUntil deadline fuel).1

/-- The fault policy of the supervisor, for any workers, any schedule of their tasks and any way
their runs end, against any deadline. -/
theorem fault_policy {s : Supervisor} (hs : s.WellFormed) (deadline fuel : Nat) :
    ∃ obs, FaultPolicy deadline fuel s obs := by
  obtain ⟨obs, h⟩ := go_supervises deadline fuel s
  have hfault := runUntil_fault deadline fuel s
  have hgo := h.keeps
  have hafter : Keeps (runUntil.go deadline fuel s).1 (s.runUntil deadline fuel).1 := by
    rw [runUntil_eq]
    exact (drain_keeps fuel _).trans
      (keeps_of_frame (List.Subperm.refl _) rfl (.refl _) (fun hc => by split at hc <;> cases hc))
  obtain ⟨hwf, hke⟩ := (Keeps.trans hgo hafter) hs
  refine ⟨obs, h, hfault ▸ h.result, fun e he => h.stops_at_fault (hfault ▸ he),
    fun hn => h.ends (hfault ▸ hn), ?_, ?_, ?_, ?_, hke⟩
  · rcases runUntil_announces deadline fuel s with ⟨hsome, hl⟩ | ⟨hnone, hl⟩
    · exact .inl ⟨congrArg Prod.fst hl, hsome⟩
    · exact .inr ⟨congrArg Prod.fst hl, hnone⟩
  · rw [runUntil_eq]
    exact drain_shutdown _ _
  · intro p hp
    obtain ⟨w, hw, hx⟩ := h.recorded hs p hp
    exact ⟨w, (hafter (hgo hs).1).2 hw (by simp [hx]), hx⟩
  · intro i w p hw hp
    exact ⟨hwf.panicked hw hp, exit_of_panicked hp⟩

/-- Supervising, for one round, a supervisor with no workers as it is built. -/
theorem fault_policy_bare : (bare {}).WellFormed ∧ ∃ obs, FaultPolicy 0 1 (bare {}) obs := by
  have h : (bare {}).WellFormed := wellFormed_of_built rfl rfl rfl (by simp [bare])
  exact ⟨h, fault_policy h 0 1⟩

end Supervisor

end ChangeRelay
