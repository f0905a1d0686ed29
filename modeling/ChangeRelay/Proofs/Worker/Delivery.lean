import ChangeRelay.Proofs.Worker.Cursor
import ChangeRelay.Proofs.Worker.Stamp

/-!
# The delivery trace of a worker

The world keeps a record of every pull, every publish attempt and every list the publisher took.
Along an execution of a worker among tasks that leave alone what the publisher took for its
partition, these records follow the worker's loop:

* the lists the publisher took are, in order, the lists the worker took up for publication, but
  for the last one while the worker still offers it, or after it gave up on it (`Delivered`);
* a list is taken up only from a pulled batch with events that moves the cursor, and it is that
  batch's changes stamped with consecutive sequence numbers from the generator's next value;
  every such batch is taken up, unless the counter would pass its largest value;
* each publish attempt offers the list the worker holds, a refused list is offered again as it
  is, and the worker lets go of it only when the publisher takes it, when shutdown was
  signalled, or when the attempt never completes or its delay cannot be computed;
* a pull happens only once the publisher took every list taken up, and it is given the cursor
  the worker holds: at the first pull the cursor read at the start, and at each later one the
  next cursor of the batch the previous pull answered, or the previous cursor when there is none
  (`due`).

The bookkeeping of lists is a matter of phases: a move takes up a list when it goes from a pull
to offering one (`takesUp`) and hands one over when it goes from offering it back to the top of
the loop (`handsOver`). `delivery_trace` states all of it over every execution of a new worker.
-/

namespace ChangeRelay

/-- The cursor a reply moves a puller to: the next cursor of a batch, and none for a failure or a
panic. -/
def Reply.nextCursor : Reply → Option String
  | .batch b => b.nextCursor
  | _ => none

/-- The lists the publisher took for partition `p`, in order. -/
def World.acknowledged (world : World) (p : String) : List (List Notification) :=
  (world.published.filter (·.1 == p)).map (·.2)

theorem World.acknowledged_of_published {world world' : World} {p : String}
    {ns : List Notification} (h : world'.published = world.published ++ [(p, ns)]) :
    world'.acknowledged p = world.acknowledged p ++ [ns] := by
  simp [acknowledged, h]

namespace Worker

variable {w₀ w w' : Worker} {world world' world₁ : World} {o : Option Wait}

/-! ## The lists a move takes up and hands over -/

/-- The list a move from phase `φ` to phase `φ'` takes up for publication: the list a pull
stamped and now holds for the publisher. -/
def takesUp (φ φ' : Phase) : Option (List Notification) :=
  match φ, φ' with
  | .pull, .publish ns _ _ => some ns
  | _, _ => none

/-- The list a move from phase `φ` to phase `φ'` hands over to the publisher: the list it
offered, when it goes back to the top of its loop. -/
def handsOver (φ φ' : Phase) : List (List Notification) :=
  match φ, φ' with
  | .publish ns _ _, .top => [ns]
  | _, _ => []

theorem takesUp_self (φ : Phase) : takesUp φ φ = none := by
  cases φ <;> rfl

theorem handsOver_self (φ : Phase) : handsOver φ φ = [] := by
  cases φ <;> rfl

theorem takesUp_finished (φ : Phase) (x : WorkerExit) : takesUp φ (.finished x) = none := by
  cases φ <;> rfl

theorem handsOver_finished (φ : Phase) (x : WorkerExit) : handsOver φ (.finished x) = [] := by
  cases φ <;> rfl

/-- How the lists the publisher took, `acked`, stand to the lists the worker took up, `taken`, in
phase `φ`: equal while the worker holds no list, one short of them (the list held) while it
offers one, and equal or one short once its run ended. -/
def Delivered (φ : Phase) (acked taken : List (List Notification)) : Prop :=
  match φ with
  | .load | .top | .pull => taken = acked
  | .publish ns _ _ => taken = acked ++ [ns]
  | .hung | .finished _ | .panicked _ => taken = acked ∨ ∃ ns, taken = acked ++ [ns]

/-! ## What a step records -/

/-- The world after a write differs only in the store. -/
theorem published_of_persist {c : String} {failed : Bool}
    (h : w.persist world c = (failed, world')) : world'.published = world.published := by
  rw [world_of_persist h]

theorem published_of_stamp {b : SourceBatch} {r : Except String (List Notification)}
    (h : w.stamp world b = some (r, world')) : world'.published = world.published := by
  rw [world_of_stamp h]

theorem Admits.published (h : Admits world world') : world'.published = world.published := by
  obtain rfl | ⟨l, rfl⟩ := h <;> rfl

/-- The publisher's record of the worker's partition grows by the list a step hands over, and by
nothing else. -/
theorem Step.acknowledged_eq (h : Step w world w' world' o) :
    world'.acknowledged w.partition =
      world.acknowledged w.partition ++ handsOver w.phase w'.phase := by
  cases h with
  | loadFailed hp | loaded hp => simp [handsOver, hp]
  | stopped hp => rcases hp with hp | hp <;> simp [handsOver, hp]
  | rewrote hp _ _ _ hw ha =>
    simp [handsOver, hp, World.acknowledged, ha.published, published_of_persist hw]
  | admitted hp _ _ ha => simp [handsOver, hp, World.acknowledged, ha.published]
  | pullPanicked hp _ hr | pullFaulted hp _ hr | backedOff hp _ hr | backoffPanicked hp _ hr
  | idled hp _ hr | stalled hp _ hr | drawWaits hp _ hr =>
    simp [handsOver, hp, World.acknowledged, World.published_of_pull hr]
  | bookmarked hp _ hr _ _ _ hw =>
    simp [handsOver, hp, World.acknowledged, published_of_persist hw, World.published_of_pull hr]
  | stampPanicked hp _ hr _ _ _ hst | held hp _ hr _ _ _ hst =>
    simp [handsOver, hp, World.acknowledged, published_of_stamp hst, World.published_of_pull hr]
  | unmapped hp _ hr _ _ _ hst hw =>
    simp [handsOver, hp, World.acknowledged, published_of_persist hw, published_of_stamp hst,
      World.published_of_pull hr]
  | acknowledged hp hd hw =>
    rw [hp, World.acknowledged_of_published]
    · rfl
    · rw [published_of_persist hw, World.published_of_publish hd, if_pos rfl]
  | acknowledgedAlone hp hd =>
    rw [hp, World.acknowledged_of_published]
    · rfl
    · rw [World.published_of_publish hd, if_pos rfl]
  | hung hp hd | refused hp hd | refusalPanicked hp hd =>
    simp [handsOver, hp, World.acknowledged, World.published_of_publish hd]
  | stuck hp => simp [handsOver, hp]
  | ended hp => rw [handsOver_self, List.append_nil]

/-- The record a pull of `w` in `world` leaves. -/
def pullRecord (w : Worker) (world : World) : PullRecord :=
  ⟨w.partition, world.now, w.cursor, world.store.entries.get? w.partition⟩

/-- A step records a pull exactly when it starts before a pull and shutdown was not signalled. -/
theorem Step.pulls (h : Step w world w' world' o) :
    (w.phase = .pull ∧ world.shutdown = false ∧ world'.pulls = world.pulls ++ [w.pullRecord world]) ∨
      ((w.phase ≠ .pull ∨ world.shutdown = true) ∧ world'.pulls = world.pulls) := by
  cases h with
  | loadFailed hp | loaded hp => exact .inr ⟨.inl (by rw [hp]; nofun), rfl⟩
  | stopped _ hs => exact .inr ⟨.inr hs, rfl⟩
  | rewrote hp _ _ _ hw ha =>
    refine .inr ⟨.inl (by rw [hp]; nofun), ?_⟩
    obtain rfl | ⟨l, rfl⟩ := ha <;> rw [world_of_persist hw]
  | admitted hp _ _ ha =>
    refine .inr ⟨.inl (by rw [hp]; nofun), ?_⟩
    obtain rfl | ⟨l, rfl⟩ := ha <;> rfl
  | pullPanicked hp hs hr | pullFaulted hp hs hr | backedOff hp hs hr | backoffPanicked hp hs hr
  | idled hp hs hr | stalled hp hs hr | drawWaits hp hs hr =>
    exact .inl ⟨hp, hs, World.pulls_of_pull hr⟩
  | bookmarked hp hs hr _ _ _ hw =>
    have hpulls := World.pulls_of_pull hr
    exact .inl ⟨hp, hs, by rw [world_of_persist hw]; exact hpulls⟩
  | stampPanicked hp hs hr _ _ _ hst | held hp hs hr _ _ _ hst =>
    have hpulls := World.pulls_of_pull hr
    exact .inl ⟨hp, hs, by rw [world_of_stamp hst]; exact hpulls⟩
  | unmapped hp hs hr _ _ _ hst hw =>
    have hpulls := World.pulls_of_pull hr
    exact .inl ⟨hp, hs, by rw [world_of_persist hw, world_of_stamp hst]; exact hpulls⟩
  | acknowledged hp hd hw =>
    have hpulls := World.pulls_of_publish hd
    exact .inr ⟨.inl (by rw [hp]; nofun), by rw [world_of_persist hw]; exact hpulls⟩
  | acknowledgedAlone hp hd | hung hp hd | refused hp hd | refusalPanicked hp hd =>
    exact .inr ⟨.inl (by rw [hp]; nofun), World.pulls_of_publish hd⟩
  | stuck hp => exact .inr ⟨.inl (by rw [hp]; nofun), rfl⟩
  | ended hp =>
    refine .inr ⟨.inl ?_, rfl⟩
    rcases hp with ⟨x, hp⟩ | ⟨m, hp⟩ <;> rw [hp] <;> nofun

/-- A step that offers a list makes one publish attempt with it, recorded with its sequence
numbers. Taken, the list is handed over and the worker goes back to the top of its loop; refused,
the same list is offered again, unless the delay cannot be computed; an attempt that never
completes leaves the worker hung. -/
theorem Step.offers {ns : List Notification} {next : Option String} {bo : Backoff}
    (h : Step w world w' world' o) (hp : w.phase = .publish ns next bo) :
    ∃ d, world'.attempts =
        world.attempts ++ [⟨w.partition, world.now, w.topic, d, ns.map (·.sequence)⟩] ∧
      (d = .ok ∧ w'.phase = .top ∨
        d = .fail ∧ ((∃ bo', w'.phase = .publish ns next bo') ∨ ∃ m, w'.phase = .panicked m) ∨
        d = .hang ∧ w'.phase = .hung) := by
  cases h with
  | acknowledged hp' hd hw =>
    rw [hp] at hp'
    cases hp'
    have ha := World.attempts_of_publish hd
    exact ⟨.ok, by rw [world_of_persist hw]; exact ha, .inl ⟨rfl, rfl⟩⟩
  | acknowledgedAlone hp' hd =>
    rw [hp] at hp'
    cases hp'
    exact ⟨.ok, World.attempts_of_publish hd, .inl ⟨rfl, rfl⟩⟩
  | refused hp' hd =>
    rw [hp] at hp'
    cases hp'
    exact ⟨.fail, World.attempts_of_publish hd, .inr (.inl ⟨rfl, .inl ⟨_, rfl⟩⟩)⟩
  | refusalPanicked hp' hd =>
    rw [hp] at hp'
    cases hp'
    exact ⟨.fail, World.attempts_of_publish hd, .inr (.inl ⟨rfl, .inr ⟨_, rfl⟩⟩)⟩
  | hung hp' hd =>
    rw [hp] at hp'
    cases hp'
    exact ⟨.hang, World.attempts_of_publish hd, .inr (.inr ⟨rfl, rfl⟩)⟩
  | loadFailed hp' | loaded hp' | rewrote hp' | admitted hp' | pullPanicked hp' | pullFaulted hp'
  | backedOff hp' | backoffPanicked hp' | bookmarked hp' | idled hp' | stalled hp'
  | stampPanicked hp' | drawWaits hp' | unmapped hp' | held hp' | stuck hp' =>
    rw [hp] at hp'
    cases hp'
  | stopped hp' => rcases hp' with hp' | hp' <;> rw [hp] at hp' <;> cases hp'
  | ended hp' => rcases hp' with ⟨_, hp'⟩ | ⟨_, hp'⟩ <;> rw [hp] at hp' <;> cases hp'

/-! ## Taking lists up and handing them over -/

/-- A step keeps `Delivered`, with the list it takes up added to the lists taken up and the list
it hands over added to the lists the publisher took. -/
theorem Step.delivered {acked taken : List (List Notification)} (h : Step w world w' world' o)
    (hd : Delivered w.phase acked taken) :
    Delivered w'.phase (acked ++ handsOver w.phase w'.phase)
      (taken ++ (takesUp w.phase w'.phase).toList) := by
  cases h with
  | loaded hp | rewrote hp | admitted hp | backedOff hp | bookmarked hp | idled hp | unmapped hp
  | held hp | acknowledged hp | acknowledgedAlone hp | refused hp =>
    simpa [Delivered, takesUp, handsOver, hp] using hd
  | loadFailed hp | pullPanicked hp | pullFaulted hp | backoffPanicked hp | stalled hp
  | stampPanicked hp | drawWaits hp =>
    simp only [Delivered, takesUp, handsOver, hp] at hd ⊢
    simp [hd]
  | stopped hp =>
    rcases hp with hp | hp <;> simp only [Delivered, takesUp, handsOver, hp] at hd ⊢ <;> simp [hd]
  | hung hp | refusalPanicked hp =>
    simp only [Delivered, takesUp, handsOver, hp] at hd ⊢
    simp [hd]
  | stuck | ended => simpa [takesUp_self, handsOver_self] using hd

/-- A move keeps `Delivered`: shutdown ends a wait and leaves the list held, if any,
unpublished. -/
theorem Moves.delivered {acked taken : List (List Notification)} (h : Moves w world w' world')
    (hd : Delivered w.phase acked taken) :
    Delivered w'.phase (acked ++ handsOver w.phase w'.phase)
      (taken ++ (takesUp w.phase w'.phase).toList) := by
  cases h with
  | step hs => exact (step_spec hs).delivered hd
  | stop hw =>
    simp only [stop_phase, takesUp_finished, handsOver_finished, Option.toList_none,
      List.append_nil]
    rcases hw with hp | hp | ⟨ns, next, bo, hp⟩ <;> simp only [Delivered, hp] at hd ⊢
    · exact .inl hd
    · exact .inl hd
    · exact .inr ⟨ns, hd⟩

theorem Moves.acknowledged_eq (h : Moves w world w' world') :
    world'.acknowledged w.partition =
      world.acknowledged w.partition ++ handsOver w.phase w'.phase := by
  cases h with
  | step hs => exact (step_spec hs).acknowledged_eq
  | stop => rw [stop_phase, handsOver_finished, List.append_nil]

/-- Only a pull that stamps a batch with events, moving the cursor, takes a list up: the list
stamped, with a change in it. -/
theorem Step.takesUp_eq_some {ns : List Notification} (h : Step w world w' world' o)
    (ht : takesUp w.phase w'.phase = some ns) :
    w.phase = .pull ∧ ∃ b world₁ world₂ c,
      world.pull w.partition w.cursor = (.batch b, world₁) ∧ b.events ≠ [] ∧
      b.nextCursor = some c ∧ w.cursor ≠ some c ∧ w.stamp world₁ b = some (.ok ns, world₂) ∧
      ns ≠ [] := by
  cases h with
  | held hp _ hr he hc hne hst hns =>
    simp only [takesUp, hp, Option.some.injEq] at ht
    subst ht
    exact ⟨hp, _, _, _, _, hr, he, hc, hne, hst, hns⟩
  | stuck | ended => simp [takesUp_self] at ht
  | stopped hp => rcases hp with hp | hp <;> simp [takesUp, hp] at ht
  | loadFailed hp | loaded hp | rewrote hp | admitted hp | pullPanicked hp | pullFaulted hp
  | backedOff hp | backoffPanicked hp | bookmarked hp | idled hp | stalled hp | stampPanicked hp
  | drawWaits hp | unmapped hp | acknowledged hp | acknowledgedAlone hp | hung hp | refused hp
  | refusalPanicked hp => simp [takesUp, hp] at ht

/-- A pull answered by a batch with events that moves the cursor takes up the list stamped from
the batch, when that list has a change in it. -/
theorem Step.takesUp_of_stamp {b : SourceBatch} {c : String} {ns : List Notification}
    {world₂ : World} (h : Step w world w' world' o) (hp : w.phase = .pull)
    (hs : world.shutdown = false) (hr : world.pull w.partition w.cursor = (.batch b, world₁))
    (he : b.events ≠ []) (hc : b.nextCursor = some c) (hne : w.cursor ≠ some c)
    (hst : w.stamp world₁ b = some (.ok ns, world₂)) (hns : ns ≠ []) :
    takesUp w.phase w'.phase = some ns := by
  cases h with
  | held _ _ hr' _ _ _ hst' =>
    rw [hr] at hr'
    cases hr'
    rw [hst'] at hst
    cases hst
    simp [takesUp, hp]
  | pullPanicked _ _ hr' | pullFaulted _ _ hr' | backedOff _ _ hr' | backoffPanicked _ _ hr' =>
    rw [hr] at hr'
    cases hr'
  | bookmarked _ _ hr' he' | idled _ _ hr' he' =>
    rw [hr] at hr'
    cases hr'
    exact absurd he' he
  | stalled _ _ hr' _ hc' =>
    rw [hr] at hr'
    cases hr'
    rcases hc' with hc' | hc' <;> rw [hc] at hc'
    · cases hc'
    · exact absurd hc'.symm hne
  | stampPanicked _ _ hr' _ _ _ hst' | drawWaits _ _ hr' _ _ _ hst' =>
    rw [hr] at hr'
    cases hr'
    rw [hst'] at hst
    cases hst
  | unmapped _ _ hr' _ _ _ hst' =>
    rw [hr] at hr'
    cases hr'
    rw [hst'] at hst
    cases hst
    exact absurd rfl hns
  | stopped _ hs' =>
    rw [hs] at hs'
    cases hs'
  | loadFailed hp' | loaded hp' | rewrote hp' | admitted hp' | acknowledged hp'
  | acknowledgedAlone hp' | hung hp' | refused hp' | refusalPanicked hp' | stuck hp' =>
    rw [hp] at hp'
    cases hp'
  | ended hp' => rcases hp' with ⟨_, hp'⟩ | ⟨_, hp'⟩ <;> rw [hp] at hp' <;> cases hp'

theorem Moves.takesUp_eq_some {ns : List Notification} (h : Moves w world w' world')
    (ht : takesUp w.phase w'.phase = some ns) :
    w.phase = .pull ∧ ∃ b world₁ world₂ c,
      world.pull w.partition w.cursor = (.batch b, world₁) ∧ b.events ≠ [] ∧
      b.nextCursor = some c ∧ w.cursor ≠ some c ∧ w.stamp world₁ b = some (.ok ns, world₂) ∧
      ns ≠ [] := by
  cases h with
  | step hs => exact (step_spec hs).takesUp_eq_some ht
  | stop => simp [takesUp_finished] at ht

/-- A move that offers the list `ns` is the stop of a shutdown, or one publish attempt with it as
`Step.offers` says, after which the publisher's record grows by the list handed over. -/
theorem Moves.offers {ns : List Notification} {next : Option String} {bo : Backoff}
    (h : Moves w world w' world') (hp : w.phase = .publish ns next bo) :
    (world.shutdown = true ∧ w' = w.stop) ∨
      ∃ d, world'.attempts =
          world.attempts ++ [⟨w.partition, world.now, w.topic, d, ns.map (·.sequence)⟩] ∧
        (d = .ok ∧ w'.phase = .top ∧
            world'.acknowledged w.partition = world.acknowledged w.partition ++ [ns] ∨
          d = .fail ∧ ((∃ bo', w'.phase = .publish ns next bo') ∨ ∃ m, w'.phase = .panicked m) ∨
          d = .hang ∧ w'.phase = .hung) := by
  cases h with
  | stop _ hs => exact .inl ⟨hs, rfl⟩
  | step hs =>
    have hstep := step_spec hs
    obtain ⟨d, ha, hd⟩ := hstep.offers hp
    refine .inr ⟨d, ha, ?_⟩
    rcases hd with ⟨hok, htop⟩ | hd
    · refine .inl ⟨hok, htop, ?_⟩
      rw [hstep.acknowledged_eq, hp, htop]
      rfl
    · exact .inr hd

/-! ## The cursor of the next pull -/

/-- The cursor the worker will pull with next: the cursor it holds, or, while it offers a list,
the cursor after that list's batch, which it takes once the publisher took the list. -/
def due (w : Worker) : Option String :=
  match w.phase with
  | .publish _ next _ => next.or w.cursor
  | _ => w.cursor

theorem due_of_pull (hp : w.phase = .pull) : w.due = w.cursor := by
  simp [due, hp]

/-- A step away from the start and from a pull keeps the cursor of the next pull, while the
worker runs on. -/
theorem Step.due (h : Step w world w' world' o) (hl : w.phase ≠ .load)
    (hp : w.phase = .pull → world.shutdown = true) (hw : w'.Waiting) : w'.due = w.due := by
  cases h with
  | rewrote hp' | admitted hp' | acknowledgedAlone hp' | refused hp' => simp [Worker.due, hp']
  | acknowledged hp' => simp [Worker.due, hp']
  | stuck | ended => rfl
  | loadFailed hp' | loaded hp' => exact absurd hp' hl
  | pullPanicked hp' hs | pullFaulted hp' hs | backedOff hp' hs | backoffPanicked hp' hs
  | bookmarked hp' hs | idled hp' hs | stalled hp' hs | stampPanicked hp' hs | drawWaits hp' hs
  | unmapped hp' hs | held hp' hs =>
    rw [hp hp'] at hs
    cases hs
  | stopped | hung | refusalPanicked => simp [Waiting] at hw

/-- After a pull, the cursor of the next pull is the next cursor of the batch pulled, or the
cursor pulled with when there is none, while the worker runs on. -/
theorem Step.due_of_pull (h : Step w world w' world' o) (hp : w.phase = .pull)
    (hw : w'.Waiting) : w'.due = (world.pull w.partition w.cursor).1.nextCursor.or w.cursor := by
  cases h with
  | backedOff _ _ hr => simp [Worker.due, hr, Reply.nextCursor]
  | bookmarked _ _ hr _ hc | unmapped _ _ hr _ hc | held _ _ hr _ hc =>
    simp [Worker.due, hr, Reply.nextCursor, hc]
  | idled _ _ hr _ hc => rcases hc with hc | hc <;> simp [Worker.due, hr, Reply.nextCursor, hc]
  | loadFailed hp' | loaded hp' | rewrote hp' | admitted hp' | acknowledged hp'
  | acknowledgedAlone hp' | hung hp' | refused hp' | refusalPanicked hp' | stuck hp' =>
    rw [hp] at hp'
    cases hp'
  | ended hp' => rcases hp' with ⟨_, hp'⟩ | ⟨_, hp'⟩ <;> rw [hp] at hp' <;> cases hp'
  | stopped | pullPanicked | pullFaulted | backoffPanicked | stalled | stampPanicked | drawWaits =>
    simp [Waiting] at hw

/-- The start reads the cursor of the first pull: the stored one, or else the source's initial
one. -/
theorem Step.due_of_load (h : Step w world w' world' o) (hp : w.phase = .load)
    (hw : w'.Waiting) :
    ∃ stored, world.store.get w.partition = .ok stored ∧
      w'.due = stored.or ((world.source? w.partition).bind (·.initialCursor)) := by
  cases h with
  | loaded _ hg => exact ⟨_, hg, rfl⟩
  | loadFailed => simp [Waiting] at hw
  | stopped hp' => rcases hp' with hp' | hp' <;> rw [hp] at hp' <;> cases hp'
  | rewrote hp' | admitted hp' | pullPanicked hp' | pullFaulted hp' | backedOff hp'
  | backoffPanicked hp' | bookmarked hp' | idled hp' | stalled hp' | stampPanicked hp'
  | drawWaits hp' | unmapped hp' | held hp' | acknowledged hp' | acknowledgedAlone hp' | hung hp'
  | refused hp' | refusalPanicked hp' | stuck hp' =>
    rw [hp] at hp'
    cases hp'
  | ended hp' => rcases hp' with ⟨_, hp'⟩ | ⟨_, hp'⟩ <;> rw [hp] at hp' <;> cases hp'

/-- A move while shutdown is not signalled is a step. -/
theorem Moves.exists_step (h : Moves w world w' world') (hs : world.shutdown = false) :
    ∃ o, Step w world w' world' o := by
  cases h with
  | step hs' => exact ⟨_, step_spec hs'⟩
  | stop _ hs' =>
    rw [hs] at hs'
    cases hs'

theorem Moves.due (h : Moves w world w' world') (hl : w.phase ≠ .load)
    (hp : w.phase = .pull → world.shutdown = true) (hw : w'.Waiting) : w'.due = w.due := by
  cases h with
  | step hs => exact (step_spec hs).due hl hp hw
  | stop => simp [Waiting] at hw

theorem Moves.due_of_load (h : Moves w world w' world') (hp : w.phase = .load)
    (hw : w'.Waiting) :
    ∃ stored, world.store.get w.partition = .ok stored ∧
      w'.due = stored.or ((world.source? w.partition).bind (·.initialCursor)) := by
  cases h with
  | step hs => exact (step_spec hs).due_of_load hp hw
  | stop => simp [Waiting] at hw

/-- No move goes back to the start. -/
theorem Moves.phase_ne_load (h : Moves w world w' world') : w'.phase ≠ .load := by
  cases h with
  | stop => nofun
  | step hs =>
    cases step_spec hs with
    | stuck hp => rw [hp]; nofun
    | ended hp => rcases hp with ⟨_, hp⟩ | ⟨_, hp⟩ <;> rw [hp] <;> nofun
    | _ => nofun

/-- A worker whose run ended no longer moves. -/
theorem Moves.eq_of_not_waiting (h : Moves w world w' world') (hl : w.phase ≠ .load)
    (hw : ¬ w.Waiting) : w' = w := by
  cases h with
  | stop hw' => exact absurd hw' hw
  | step hs =>
    cases step_spec hs with
    | stuck | ended => rfl
    | loadFailed hp | loaded hp => exact absurd hp hl
    | stopped hp => exact absurd (hp.elim .inl (.inr ∘ .inl)) hw
    | rewrote hp | admitted hp => exact absurd (.inl hp) hw
    | pullPanicked hp | pullFaulted hp | backedOff hp | backoffPanicked hp | bookmarked hp
    | idled hp | stalled hp | stampPanicked hp | drawWaits hp | unmapped hp | held hp =>
      exact absurd (.inr (.inl hp)) hw
    | acknowledged hp | acknowledgedAlone hp | hung hp | refused hp | refusalPanicked hp =>
      exact absurd (.inr (.inr ⟨_, _, _, hp⟩)) hw

/-- A step keeps the worker's source. -/
theorem Step.sourceId (h : Step w world w' world' o) : w'.sourceId = w.sourceId := by
  cases h <;> rfl

theorem Reaches.sourceId (h : Reaches w₀ w) : w.sourceId = w₀.sourceId := by
  induction h with
  | refl => rfl
  | tail _ hm ih =>
    cases hm with
    | step hs => exact ((step_spec hs).sourceId).trans ih
    | stop => exact ih

/-! ## Along an execution -/

/-- The rest of the process moved on without changing what the publisher took for partition
`p`. -/
def KeepsAcknowledged (p : String) (world world' : World) : Prop :=
  world'.acknowledged p = world.acknowledged p

section
variable {Env : World → World → Prop}

/-- The lists the worker took up for publication before instant `t`, in order. -/
def Execution.takenUp (e : Execution w₀ Env) : Nat → List (List Notification)
  | 0 => []
  | t + 1 => e.takenUp t ++ (takesUp (e.worker t).phase (e.worker (t + 1)).phase).toList

/-- What a pull at instant `t` answers. -/
def Execution.reply (e : Execution w₀ Env) (t : Nat) : Reply :=
  ((e.world t).pull (e.worker t).partition (e.worker t).cursor).1

/-- The worker pulls at instant `t`. -/
def Execution.Pulls (e : Execution w₀ Env) (t : Nat) : Prop :=
  (e.worker t).phase = .pull ∧ (e.world t).shutdown = false ∧
    Moves (e.worker t) (e.world t) (e.worker (t + 1)) (e.world (t + 1))

/-- Once the worker left the start it never comes back to it. -/
theorem Execution.phase_ne_load (e : Execution w₀ Env) {t : Nat}
    (hl : (e.worker t).phase ≠ .load) (n : Nat) : (e.worker (t + n)).phase ≠ .load := by
  induction n with
  | zero => exact hl
  | succ n ih =>
    show (e.worker (t + n + 1)).phase ≠ .load
    rcases e.next (t + n) with hm | ⟨hw, -⟩
    · exact hm.phase_ne_load
    · rw [hw]
      exact ih

/-- From an instant after the start, a worker whose run ended stays as it is. -/
theorem Execution.stays (e : Execution w₀ Env) {t : Nat} (hl : (e.worker t).phase ≠ .load)
    (hw : ¬ (e.worker t).Waiting) (n : Nat) : e.worker (t + n) = e.worker t := by
  induction n with
  | zero => rfl
  | succ n ih =>
    show e.worker (t + n + 1) = e.worker t
    rcases e.next (t + n) with hm | ⟨hs, -⟩
    · rw [ih] at hm
      exact hm.eq_of_not_waiting hl hw
    · rw [hs, ih]

/-- A worker that still runs at an instant ran at every instant before it, from the start on. -/
theorem Execution.waiting_of_le (e : Execution w₀ Env) {t t' : Nat}
    (hl : (e.worker t).phase ≠ .load) (hle : t ≤ t') (hw : (e.worker t').Waiting) :
    (e.worker t).Waiting := by
  by_contra hn
  obtain ⟨n, rfl⟩ := Nat.exists_eq_add_of_le hle
  rw [e.stays hl hn n] at hw
  exact hn hw

/-- Between two instants after the start with no pull in between, the cursor of the next pull
stays, while the worker runs on. -/
theorem Execution.due_eq (e : Execution w₀ Env) {t : Nat} (hl : (e.worker t).phase ≠ .load)
    (n : Nat) (hnp : ∀ k < n, ¬ e.Pulls (t + k)) (hw : (e.worker (t + n)).Waiting) :
    (e.worker (t + n)).due = (e.worker t).due := by
  induction n with
  | zero => rfl
  | succ n ih =>
    have hw' : (e.worker (t + n)).Waiting :=
      e.waiting_of_le (e.phase_ne_load hl n) (by omega) hw
    rw [← ih (fun k hk => hnp k (by omega)) hw']
    show (e.worker (t + n + 1)).due = (e.worker (t + n)).due
    rcases e.next (t + n) with hm | ⟨hs, -⟩
    · refine hm.due (e.phase_ne_load hl n) (fun hp => ?_) hw
      by_contra hs
      exact hnp n (by omega) ⟨hp, by simpa using hs, hm⟩
    · rw [hs]

/-- A list taken up at instant `t` is the list stamped from the batch pulled then: its changes,
with sequence numbers from the generator's next value on. -/
theorem Execution.takenUp_stamped (e : Execution w₀ Env) {t : Nat} {ns : List Notification}
    (ht : takesUp (e.worker t).phase (e.worker (t + 1)).phase = some ns) :
    ∃ b c, e.reply t = .batch b ∧ b.events ≠ [] ∧ b.nextCursor = some c ∧
      (e.worker t).cursor ≠ some c ∧ ns ≠ [] ∧
      ns = stampFrom w₀.sourceId w₀.partition b.nextCursor ((e.world t).sequence.value + 1)
        (b.changes (e.world t).wallMs) := by
  rcases e.next t with hm | ⟨hw, -⟩
  · obtain ⟨-, b, world₁, world₂, c, hr, he, hc, hne, hst, hns⟩ := hm.takesUp_eq_some ht
    obtain ⟨hstamp, -⟩ := stamp_eq_ok _ b (loaded_of_stamp _ b hst hns) hst
    rw [World.sequence_of_pull hr, World.wallMs_of_pull hr, (e.reaches t).sourceId,
      (e.reaches t).partition] at hstamp
    exact ⟨b, c, by simp [Execution.reply, hr], he, hc, hne, hns, hstamp⟩
  · rw [hw, takesUp_self] at ht
    cases ht

/-- A pull of a batch with events that moves the cursor takes up the batch's changes, stamped
from the generator's next value, when there is a change and the counter has room for them. -/
theorem Execution.takenUp_of_pull (e : Execution w₀ Env) {t : Nat} {b : SourceBatch} {c : String}
    (hpull : e.Pulls t) (hr : e.reply t = .batch b) (he : b.events ≠ [])
    (hc : b.nextCursor = some c) (hne : (e.worker t).cursor ≠ some c)
    (hch : b.changes (e.world t).wallMs ≠ []) (hl : (e.world t).sequence.loaded = true)
    (hv : (e.world t).sequence.value + (b.changes (e.world t).wallMs).length ≤ sequenceMax) :
    takesUp (e.worker t).phase (e.worker (t + 1)).phase =
      some (stampFrom w₀.sourceId w₀.partition (some c) ((e.world t).sequence.value + 1)
        (b.changes (e.world t).wallMs)) := by
  obtain ⟨hp, hs, hm⟩ := hpull
  obtain ⟨o, hstep⟩ := hm.exists_step hs
  rcases hpr : (e.world t).pull (e.worker t).partition (e.worker t).cursor with ⟨r, world₁⟩
  simp only [Execution.reply, hpr] at hr
  subst hr
  have hseq := World.sequence_of_pull hpr
  have hwall := World.wallMs_of_pull hpr
  have hst := stamp_of_le (e.worker t) b world₁ (by rw [hseq]; exact hl)
    (fun _ => by rw [hseq, hwall]; exact hv)
  rw [← hseq, ← hwall, ← (e.reaches t).sourceId, ← (e.reaches t).partition, ← hc]
  refine hstep.takesUp_of_stamp hp hs hpr he hc hne hst ?_
  rw [← List.length_pos_iff, length_stampFrom, hwall, List.length_pos_iff]
  exact hch

/-- The worker leaves the start at some instant before any instant where it stands elsewhere. -/
theorem Execution.exists_leaves_load (e : Execution w₀ Env) (h₀ : w₀.phase = .load) {t : Nat}
    (ht : (e.worker t).phase ≠ .load) :
    ∃ t₀ < t, (e.worker t₀).phase = .load ∧ (e.worker (t₀ + 1)).phase ≠ .load := by
  induction t with
  | zero =>
    rw [e.start] at ht
    exact absurd h₀ ht
  | succ t ih =>
    by_cases hl : (e.worker t).phase = .load
    · exact ⟨t, by omega, hl, ht⟩
    · obtain ⟨t₀, hlt, h⟩ := ih hl
      exact ⟨t₀, by omega, h⟩

/-- The first pull is given the cursor read at the start: the stored one, or else the source's
initial one. -/
theorem Execution.first_pull (e : Execution w₀ Env) (h₀ : w₀.phase = .load) {t : Nat}
    (hpull : e.Pulls t) (hfirst : ∀ t' < t, ¬ e.Pulls t') :
    ∃ t₀ < t, ∃ stored, (e.worker t₀).phase = .load ∧
      (e.world t₀).store.get w₀.partition = .ok stored ∧
      (e.worker t).cursor =
        stored.or (((e.world t₀).source? w₀.partition).bind (·.initialCursor)) := by
  have hp := hpull.1
  have hne : (e.worker t).phase ≠ .load := by rw [hp]; nofun
  obtain ⟨t₀, hlt, hl₀, hl₁⟩ := e.exists_leaves_load h₀ hne
  have hw : (e.worker (t₀ + 1)).Waiting := e.waiting_of_le hl₁ hlt (.inr (.inl hp))
  rcases e.next t₀ with hm | ⟨hs, -⟩
  · obtain ⟨stored, hg, hdue⟩ := hm.due_of_load hl₀ hw
    rw [(e.reaches t₀).partition] at hg hdue
    refine ⟨t₀, hlt, stored, hl₀, hg, ?_⟩
    obtain ⟨n, rfl⟩ := Nat.exists_eq_add_of_lt hlt
    have hsum : t₀ + 1 + n = t₀ + n + 1 := by omega
    have hstay := e.due_eq hl₁ n (fun k hk => hfirst _ (by omega))
      (by rw [hsum]; exact .inr (.inl hp))
    rw [hsum, due_of_pull hp, hdue] at hstay
    exact hstay
  · rw [hs] at hl₁
    exact absurd hl₀ hl₁

/-- Each later pull is given the next cursor of the batch the previous pull answered, or the
previous cursor when there is none. -/
theorem Execution.next_pull (e : Execution w₀ Env) {t₁ t₂ : Nat} (hlt : t₁ < t₂)
    (h₁ : e.Pulls t₁) (h₂ : e.Pulls t₂) (hbetween : ∀ t, t₁ < t → t < t₂ → ¬ e.Pulls t) :
    (e.worker t₂).cursor = (e.reply t₁).nextCursor.or (e.worker t₁).cursor := by
  obtain ⟨hp₁, hs₁, hm₁⟩ := h₁
  obtain ⟨o, hstep⟩ := hm₁.exists_step hs₁
  have hl₁ : (e.worker (t₁ + 1)).phase ≠ .load := hm₁.phase_ne_load
  obtain ⟨n, rfl⟩ := Nat.exists_eq_add_of_lt hlt
  have hsum : t₁ + 1 + n = t₁ + n + 1 := by omega
  have hw₂ : (e.worker (t₁ + 1 + n)).Waiting := by
    rw [hsum]
    exact .inr (.inl h₂.1)
  have hstay := e.due_eq hl₁ n (fun k hk => hbetween _ (by omega) (by omega)) hw₂
  rw [hstep.due_of_pull hp₁ (e.waiting_of_le hl₁ (by omega) hw₂), hsum, due_of_pull h₂.1]
    at hstay
  exact hstay

/-- Along an execution among tasks that leave alone what the publisher took for the worker's
partition, the lists the publisher took stand to the lists taken up as `Delivered` says. -/
theorem Execution.delivered (e : Execution w₀ (KeepsAcknowledged w₀.partition))
    (h₀ : w₀.phase = .load) (t : Nat) :
    Delivered (e.worker t).phase ((e.world t).acknowledged w₀.partition)
      ((e.world 0).acknowledged w₀.partition ++ e.takenUp t) := by
  induction t with
  | zero => simp [Delivered, Execution.takenUp, e.start, h₀]
  | succ t ih =>
    rcases e.next t with hm | ⟨hw, hk⟩
    · have ha := hm.acknowledged_eq
      rw [(e.reaches t).partition] at ha
      rw [ha, Execution.takenUp, ← List.append_assoc]
      exact hm.delivered ih
    · simp only [KeepsAcknowledged] at hk
      rw [Execution.takenUp, hw, takesUp_self, hk]
      simpa using ih

end

/-- The delivery trace of a worker, over every execution of a new worker among tasks that leave
alone what the publisher took for its partition:
* the publisher took, in order, the lists the worker took up, but for the one it still offers or
  gave up on (`Delivered`);
* a list is taken up only from a pulled batch with events that moves the cursor, and it is that
  batch's changes stamped with consecutive sequence numbers from the generator's next value;
* every such batch with a change is taken up, with a loaded generator whose counter has room;
* offering a list is one publish attempt with it, recorded with its sequence numbers: taken, the
  list is handed over once; refused, the same list is offered again; or the worker stops on
  shutdown, hangs in the attempt, or panics on the delay;
* a pull happens only once every list taken up was taken, and records the cursor it is given;
* the first pull is given the cursor read at the start, each later one the next cursor of the
  batch the previous pull answered, or the previous cursor when there is none. -/
theorem delivery_trace {sourceId p : String} {poll : Duration} {retry : RetryPolicy}
    (e : Execution (Worker.new sourceId p poll retry) (KeepsAcknowledged p)) :
    (∀ t, Delivered (e.worker t).phase ((e.world t).acknowledged p)
      ((e.world 0).acknowledged p ++ e.takenUp t)) ∧
    (∀ t ns, takesUp (e.worker t).phase (e.worker (t + 1)).phase = some ns →
      ∃ b c, e.reply t = .batch b ∧ b.events ≠ [] ∧ b.nextCursor = some c ∧
        (e.worker t).cursor ≠ some c ∧ ns ≠ [] ∧
        ns = stampFrom sourceId p b.nextCursor ((e.world t).sequence.value + 1)
          (b.changes (e.world t).wallMs) ∧
        ns.map (·.sequence) = List.range' ((e.world t).sequence.value + 1) ns.length) ∧
    (∀ t b c, e.Pulls t → e.reply t = .batch b → b.events ≠ [] → b.nextCursor = some c →
      (e.worker t).cursor ≠ some c → b.changes (e.world t).wallMs ≠ [] →
      (e.world t).sequence.loaded = true →
      (e.world t).sequence.value + (b.changes (e.world t).wallMs).length ≤ sequenceMax →
      takesUp (e.worker t).phase (e.worker (t + 1)).phase =
        some (stampFrom sourceId p (some c) ((e.world t).sequence.value + 1)
          (b.changes (e.world t).wallMs))) ∧
    (∀ t ns next bo, (e.worker t).phase = .publish ns next bo →
      Moves (e.worker t) (e.world t) (e.worker (t + 1)) (e.world (t + 1)) →
      ((e.world t).shutdown = true ∧ e.worker (t + 1) = (e.worker t).stop) ∨
      ∃ d, (e.world (t + 1)).attempts = (e.world t).attempts ++
          [⟨p, (e.world t).now, (e.worker t).topic, d, ns.map (·.sequence)⟩] ∧
        (d = .ok ∧ (e.worker (t + 1)).phase = .top ∧
            (e.world (t + 1)).acknowledged p = (e.world t).acknowledged p ++ [ns] ∨
          d = .fail ∧ ((∃ bo', (e.worker (t + 1)).phase = .publish ns next bo') ∨
            ∃ m, (e.worker (t + 1)).phase = .panicked m) ∨
          d = .hang ∧ (e.worker (t + 1)).phase = .hung)) ∧
    (∀ t, e.Pulls t →
      (e.world t).acknowledged p = (e.world 0).acknowledged p ++ e.takenUp t ∧
      (e.world (t + 1)).pulls = (e.world t).pulls ++ [(e.worker t).pullRecord (e.world t)]) ∧
    (∀ t, e.Pulls t → (∀ t' < t, ¬ e.Pulls t') →
      ∃ t₀ < t, ∃ stored, (e.worker t₀).phase = .load ∧ (e.world t₀).store.get p = .ok stored ∧
        (e.worker t).cursor = stored.or (((e.world t₀).source? p).bind (·.initialCursor))) ∧
    (∀ t₁ t₂, t₁ < t₂ → e.Pulls t₁ → e.Pulls t₂ → (∀ t, t₁ < t → t < t₂ → ¬ e.Pulls t) →
      (e.worker t₂).cursor = (e.reply t₁).nextCursor.or (e.worker t₁).cursor) := by
  refine ⟨e.delivered rfl, fun t ns ht => ?_,
    fun t b c hpull hr he hc hne hch hl hv => e.takenUp_of_pull hpull hr he hc hne hch hl hv,
    fun t ns next bo hph hm => ?_, fun t hpull => ⟨?_, ?_⟩,
    fun t hpull hfirst => e.first_pull rfl hpull hfirst,
    fun t₁ t₂ hlt h₁ h₂ hb => e.next_pull hlt h₁ h₂ hb⟩
  · obtain ⟨b, c, hr, he, hc, hne, hns, rfl⟩ := e.takenUp_stamped ht
    exact ⟨b, c, hr, he, hc, hne, hns, rfl, by rw [sequences_stampFrom, length_stampFrom]⟩
  · have hoffer := hm.offers hph
    rw [(e.reaches t).partition] at hoffer
    exact hoffer
  · have hd := e.delivered rfl t
    rw [hpull.1] at hd
    exact hd.symm
  · obtain ⟨o, hstep⟩ := hpull.2.2.exists_step hpull.2.1
    rcases hstep.pulls with ⟨-, -, h⟩ | ⟨hno | hno, -⟩
    · exact h
    · exact absurd hpull.1 hno
    · rw [hpull.2.1] at hno
      cases hno

end Worker

end ChangeRelay
