import ChangeRelay.Proofs.Worker.Faults

/-!
# The retry schedule of a worker

A worker keeps two backoff counters. The pull counter lives across the loop: a failed pull that is
not fatal counts one more failure and waits the schedule's delay for that count, and any pull that
answers a batch, empty or not, starts it again. The counter of an offered batch is fresh when the
batch is taken up: each refusal of that batch counts one more and waits the schedule's delay for
it, apart from the pull counter. An empty batch waits the poll interval.

`Worker.History` is a run of a worker labelled with what each step met from outside
(`Met`): the source's reply to a pull or the publisher's answer to an offer. The counters
follow what the run met (`Worker.Counted`, kept by every step), so every wait of the run is the
one the schedule gives for the failures met since the last batch (`Worker.History.waits`). The
counters saturate as 64-bit counts; the schedule caps its exponent well below that, so the cap
never shows in a delay (`RetryPolicy.delayFor_saturate`).

A worker never moves the clock (`Worker.Step.now`): a wait ends when the scheduler wakes it, and a
worker resumed after shutdown stops at once (`Worker.wake_of_shutdown`).
-/

namespace ChangeRelay

/-! ## Capped counts -/

namespace Backoff

/-- The cap, written out: the largest 64-bit count. -/
theorem saturate_eq (n : Nat) : saturate n = min n 18446744073709551615 := rfl

theorem saturate_succ_saturate (n : Nat) : saturate (saturate n + 1) = saturate (n + 1) := by
  simp only [saturate_eq]
  omega

@[simp] theorem saturate_zero : saturate 0 = 0 := rfl

end Backoff

namespace RetryPolicy

/-- The schedule cannot tell a count from its cap: both are past the exponent's limit. -/
theorem delayFor_saturate (p : RetryPolicy) (n : Nat) :
    p.delayFor (Backoff.saturate n) = p.delayFor n := by
  by_cases hn : n ≤ 18446744073709551615
  · rw [Backoff.saturate_eq, Nat.min_eq_left hn]
  · have h₁ : Backoff.saturate n ≠ 0 := by rw [Backoff.saturate_eq]; omega
    have h₂ : n ≠ 0 := by omega
    have hexp : min (Backoff.saturate n - 1) 64 = min (n - 1) 64 := by
      rw [Backoff.saturate_eq]; omega
    simp only [delayFor, if_neg h₁, if_neg h₂, hexp]

end RetryPolicy

/-- A counter that holds `n` failures, capped, counts one more and waits the delay of `n + 1`. -/
theorem Backoff.next_counted (p : RetryPolicy) (n : Nat) :
    (⟨p, saturate n⟩ : Backoff).next = (p.delayFor (n + 1), ⟨p, saturate (n + 1)⟩) := by
  simp only [next, saturate_succ_saturate, RetryPolicy.delayFor_saturate]

namespace World

variable {world world' : World} {p : String}

/-- A pull leaves the clock where it was. -/
theorem now_of_pull {r : Reply} {c : Option String} (h : world.pull p c = (r, world')) :
    world'.now = world.now := by
  obtain ⟨_, _, _, _, rfl⟩ := world_of_pull h
  rfl

/-- An offer to the publisher leaves the clock where it was. -/
theorem now_of_publish {d : Delivery} {topic : String} {ns : List Notification}
    (h : world.publish p topic ns = (d, world')) : world'.now = world.now := by
  obtain ⟨_, rfl⟩ := world_of_publish h
  split <;> rfl

end World

/-- What a step of a worker meets from outside: the source's reply to a pull, or the publisher's
answer to an offer. -/
inductive Met where
  | reply (r : Reply)
  | delivery (d : Delivery)

namespace Met

/-- The failed pulls counted after meeting `m`: a pull that answers a batch starts the count
again, a failed pull adds one. -/
def countPulls (n : Nat) : Met → Nat
  | .reply (.batch _) => 0
  | .reply (.fail _) => n + 1
  | _ => n

/-- The refused offers counted after meeting `m`: a pull that answers a batch starts the count
again for the batch it brings, a refused offer adds one. -/
def countRefusals (n : Nat) : Met → Nat
  | .reply (.batch _) => 0
  | .delivery .fail => n + 1
  | _ => n

/-- The pulls that failed since the last pull that answered a batch. -/
def failedPulls (ms : List Met) : Nat := ms.foldl countPulls 0

/-- The offers refused since the last pull that answered a batch: the refusals of the batch it
brought. -/
def refusals (ms : List Met) : Nat := ms.foldl countRefusals 0

@[simp] theorem failedPulls_nil : failedPulls [] = 0 := rfl

@[simp] theorem refusals_nil : refusals [] = 0 := rfl

@[simp] theorem failedPulls_append (ms : List Met) (m : Met) :
    failedPulls (ms ++ [m]) = countPulls (failedPulls ms) m := by
  simp [failedPulls]

@[simp] theorem refusals_append (ms : List Met) (m : Met) :
    refusals (ms ++ [m]) = countRefusals (refusals ms) m := by
  simp [refusals]

example (e : RelayError) (b b' : SourceBatch) :
    failedPulls [.reply (.fail e), .reply (.fail e), .reply (.batch b), .reply (.fail e)] = 1 ∧
    refusals [.reply (.batch b), .delivery .fail, .delivery .fail, .reply (.batch b'),
      .delivery .fail] = 1 := ⟨rfl, rfl⟩

end Met

namespace Worker

variable {w w' : Worker} {world world' world₁ : World} {o : Option Wait}

/-- What the worker's next step meets at `world`: the reply to its pull or the answer to its
offer, and nothing when it neither pulls nor offers. -/
def meets (w : Worker) (world : World) : Option Met :=
  match w.phase with
  | .pull => if world.shutdown then none else some (.reply (world.pull w.partition w.cursor).1)
  | .publish ns _ _ => some (.delivery (world.publish w.partition w.topic ns).1)
  | _ => none

theorem meets_of_pull {r : Reply} (hp : w.phase = .pull) (hs : world.shutdown = false)
    (hr : world.pull w.partition w.cursor = (r, world₁)) : w.meets world = some (.reply r) := by
  simp [meets, hp, hs, hr]

theorem meets_of_offer {ns : List Notification} {next : Option String} {bo : Backoff}
    {d : Delivery} (hp : w.phase = .publish ns next bo)
    (hd : world.publish w.partition w.topic ns = (d, world₁)) :
    w.meets world = some (.delivery d) := by
  simp [meets, hp, hd]

/-- A run of a worker from `w₀` to `w`, with what its steps met in order. The world at each step
is any world, as the rest of the process leaves it, and a worker that waits stops once shutdown
is signalled. -/
inductive History (w₀ : Worker) : Worker → List Met → Prop
  | start : History w₀ w₀ []
  | step {w world w' world' o ms} : History w₀ w ms → w.step world = (w', world', o) →
      History w₀ w' (ms ++ (w.meets world).toList)
  | stop {w : Worker} {world : World} {ms} : History w₀ w ms → w.Waiting →
      world.shutdown = true → History w₀ w.stop ms

/-- The counters of a worker run with the schedule `retry`, after meeting `ms`: its schedule is
`retry`; while its run goes on, its pull counter holds the failed pulls since the last batch;
the counter of a batch it offers holds the refusals of that batch; both counts capped as 64-bit
counts. -/
structure Counted (retry : RetryPolicy) (w : Worker) (ms : List Met) : Prop where
  schedule : w.retry = retry
  pulls : w.exit? = none → w.backoff = ⟨retry, Backoff.saturate (Met.failedPulls ms)⟩
  offers : ∀ {ns next bo}, w.phase = .publish ns next bo →
    bo = ⟨retry, Backoff.saturate (Met.refusals ms)⟩

variable {retry : RetryPolicy} {ms : List Met}

/-- A worker whose run ended keeps only its schedule to account for. -/
theorem Counted.of_ended (hr : w.retry = retry) (hx : w.exit? ≠ none) : Counted retry w ms where
  schedule := hr
  pulls h := absurd h hx
  offers hp := by simp [exit?, hp] at hx

/-- A step keeps the counters in step with what the run met. -/
theorem Step.counted (h : Step w world w' world' o) (hc : Counted retry w ms) :
    Counted retry w' (ms ++ (w.meets world).toList) := by
  cases h with
  | loadFailed | stopped | pullPanicked | backoffPanicked | stampPanicked | refusalPanicked
  | pullFaulted | stalled =>
    exact .of_ended hc.schedule (by simp [exit?])
  | loaded hp _ | rewrote hp _ _ _ _ _ | admitted hp _ _ _ =>
    rw [show w.meets world = none by simp [meets, hp], Option.toList_none, List.append_nil]
    exact ⟨hc.schedule, fun _ => hc.pulls (by simp [exit?, hp]), fun h => by cases h⟩
  | backedOff hp hs hr _ hb =>
    rw [meets_of_pull hp hs hr]
    have hw := hc.pulls (by simp [exit?, hp])
    rw [hw, Backoff.next_counted] at hb
    obtain ⟨-, rfl⟩ := Prod.mk.inj hb
    exact ⟨hc.schedule, fun _ => by simp [Met.countPulls], fun h => by cases h⟩
  | bookmarked hp hs hr | idled hp hs hr | unmapped hp hs hr | drawWaits hp hs hr =>
    rw [meets_of_pull hp hs hr]
    have hw := hc.pulls (by simp [exit?, hp])
    refine ⟨hc.schedule, fun _ => ?_, fun h => by cases h⟩
    simp [hw, Backoff.reset, Met.countPulls]
  | held hp hs hr =>
    rw [meets_of_pull hp hs hr]
    have hw := hc.pulls (by simp [exit?, hp])
    refine ⟨hc.schedule, fun _ => ?_, fun h => ?_⟩
    · simp [hw, Backoff.reset, Met.countPulls]
    · cases h
      simp [Backoff.new, hc.schedule, Met.countRefusals]
  | acknowledged hp hd _ | acknowledgedAlone hp hd | hung hp hd =>
    rw [meets_of_offer hp hd]
    refine ⟨hc.schedule, fun _ => ?_, fun h => by cases h⟩
    simpa [Met.countPulls] using hc.pulls (by simp [exit?, hp])
  | refused hp hd hb =>
    rw [meets_of_offer hp hd]
    rw [hc.offers hp, Backoff.next_counted] at hb
    obtain ⟨-, rfl⟩ := Prod.mk.inj hb
    refine ⟨hc.schedule, fun _ => ?_, fun h => ?_⟩
    · simpa [Met.countPulls] using hc.pulls (by simp [exit?, hp])
    · cases h
      simp [Met.countRefusals]
  | stuck hp =>
    rw [show w.meets world = none by simp [meets, hp], Option.toList_none, List.append_nil]
    exact hc
  | ended hx =>
    have hm : w.meets world = none := by
      rcases hx with ⟨x, hp⟩ | ⟨m, hp⟩ <;> simp [meets, hp]
    rw [hm, Option.toList_none, List.append_nil]
    exact hc

/-- A worker run from a new one keeps its counters in step with what it met. -/
theorem History.counted {sourceId p : String} {poll : Duration}
    (h : History (Worker.new sourceId p poll retry) w ms) : Counted retry w ms := by
  induction h with
  | start => exact ⟨rfl, fun _ => rfl, fun h => by cases h⟩
  | step _ hs ih => exact (step_spec hs).counted ih
  | stop _ _ _ ih => exact .of_ended ih.schedule (by simp [exit?])

/-- Running a worker extends its history: the steps of the run, and the stop of a sleep that would
begin after shutdown was signalled. -/
theorem History.run {w₀ : Worker} (h : History w₀ w ms) (fuel : Nat) (world : World) :
    ∃ ms', History w₀ (w.run fuel world).1 ms' := by
  induction fuel generalizing w world ms with
  | zero => exact ⟨ms, h⟩
  | succ fuel ih =>
    rcases hs : w.step world with ⟨w₁, world₁, o⟩
    have h₁ := h.step hs
    rcases o with _ | (d | _ | _) <;> simp only [Worker.run, hs]
    · exact ih h₁ world₁
    · split
      · next hsd => exact ⟨_, h₁.stop (Step.waiting_of_sleep (step_spec hs)) hsd⟩
      · exact ⟨_, h₁⟩
    · exact ⟨_, h₁⟩
    · exact ⟨_, h₁⟩

/-- Waking a waiting worker extends its history. -/
theorem History.wake {w₀ : Worker} (h : History w₀ w ms) (hw : w.Waiting) (fuel : Nat)
    (world : World) : ∃ ms', History w₀ (w.wake fuel world).1 ms' := by
  unfold Worker.wake
  split
  · next hs => exact ⟨ms, h.stop hw hs⟩
  · exact h.run fuel world

/-- Every step keeps the poll interval. -/
theorem Step.pollInterval (h : Step w world w' world' o) : w'.pollInterval = w.pollInterval := by
  cases h <;> rfl

theorem History.pollInterval {sourceId p : String} {poll : Duration}
    (h : History (Worker.new sourceId p poll retry) w ms) : w.pollInterval = poll := by
  induction h with
  | start => rfl
  | step _ hs ih => exact ((step_spec hs).pollInterval).trans ih
  | stop _ _ _ ih => exact ih

/-! ## The waits of a step -/

/-- A step's outcome waits `delay` from `now`: it sleeps that long, or panics with the message
when the delay cannot be computed. -/
def Waits (delay : Except String Duration) (now : Nat) (out : Outcome) : Prop :=
  match delay with
  | .ok d => out.2.2 = some (.sleep (now + d.nanos))
  | .error m => out.1.phase = .panicked (some m) ∧ out.2.2 = some .done

/-- A step meets a reply only when it pulls. -/
theorem meets_eq_reply {r : Reply} (hm : w.meets world = some (.reply r)) :
    w.phase = .pull ∧ world.shutdown = false ∧
      ∃ world₁, world.pull w.partition w.cursor = (r, world₁) := by
  unfold meets at hm
  split at hm
  · next hp =>
    split at hm
    · cases hm
    · next hs =>
      simp only [Option.some.injEq, Met.reply.injEq] at hm
      exact ⟨hp, by simpa using hs, _, by rw [← hm]⟩
  · cases hm
  · cases hm

/-- A step meets the publisher's answer only when it offers a batch. -/
theorem meets_eq_delivery {d : Delivery} (hm : w.meets world = some (.delivery d)) :
    ∃ ns next bo, w.phase = .publish ns next bo ∧
      ∃ world₁, world.publish w.partition w.topic ns = (d, world₁) := by
  unfold meets at hm
  split at hm
  · split at hm <;> cases hm
  · next ns next bo hp =>
    simp only [Option.some.injEq, Met.delivery.injEq] at hm
    exact ⟨ns, next, bo, hp, _, by rw [← hm]⟩
  · cases hm

@[simp] theorem persist_now (w : Worker) (world : World) (c : String) :
    (w.persist world c).2.now = world.now := by
  rw [persist_world]

/-- Backing off waits the pull counter's next delay. -/
theorem backOff_waits (w : Worker) (world : World) :
    Waits w.backoff.next.1 world.now (w.backOff world) := by
  unfold backOff
  rcases w.backoff.next with ⟨m | d, b⟩
  · exact ⟨rfl, rfl⟩
  · exact rfl

/-- A failed pull that is not fatal is followed by the pull counter's next delay. -/
theorem step_waits_failed_pull {e : RelayError} (hm : w.meets world = some (.reply (.fail e)))
    (he : e.isFatal = false) : Waits w.backoff.next.1 world.now (w.step world) := by
  obtain ⟨hp, hs, world₁, hr⟩ := meets_eq_reply hm
  rw [step_of_pull_retry hp hs hr he]
  have hnow := World.now_of_pull hr
  rw [← hnow]
  exact backOff_waits w world₁

/-- A batch without events is followed by the poll interval. -/
theorem step_waits_empty_batch {b : SourceBatch} (hm : w.meets world = some (.reply (.batch b)))
    (he : b.events = []) : Waits (.ok w.pollInterval) world.now (w.step world) := by
  obtain ⟨hp, hs, world₁, hr⟩ := meets_eq_reply hm
  have hem : b.isEmpty = true := by simpa [SourceBatch.isEmpty] using he
  have hnow := World.now_of_pull hr
  simp only [step, hp, pullNext, hs, hr, received, hem, idle, Bool.false_eq_true, ↓reduceIte]
  split
  · split <;> simp [Waits, hnow]
  · simp [Waits, hnow]

/-- A refused offer is followed by the offered batch's counter's next delay. -/
theorem step_waits_refusal (hm : w.meets world = some (.delivery .fail)) :
    ∃ ns next bo, w.phase = .publish ns next bo ∧ Waits bo.next.1 world.now (w.step world) := by
  obtain ⟨ns, next, bo, hp, world₁, hd⟩ := meets_eq_delivery hm
  refine ⟨ns, next, bo, hp, ?_⟩
  have hnow := World.now_of_publish hd
  simp only [step, hp, offer, hd]
  rcases bo.next with ⟨m | d, b⟩
  · exact ⟨rfl, rfl⟩
  · simp [Waits, hnow]

/-- Along every run of a new worker with schedule `retry` and poll interval `poll`: a pull that
fails, and not fatally, is followed by the schedule's delay for the pulls failed since the last
batch, this one included; a batch without events by the poll interval; and a refused offer by
the schedule's delay for the refusals of the batch offered, this one included. -/
theorem History.waits {sourceId p : String} {poll : Duration}
    (h : History (Worker.new sourceId p poll retry) w ms) (world : World) :
    (∀ e, w.meets world = some (.reply (.fail e)) → e.isFatal = false →
      Waits (retry.delayFor (Met.failedPulls (ms ++ [.reply (.fail e)]))) world.now
        (w.step world)) ∧
    (∀ b, w.meets world = some (.reply (.batch b)) → b.events = [] →
      Waits (.ok poll) world.now (w.step world)) ∧
    (w.meets world = some (.delivery .fail) →
      Waits (retry.delayFor (Met.refusals (ms ++ [.delivery .fail]))) world.now
        (w.step world)) := by
  have hc := h.counted
  refine ⟨fun e hm he => ?_, fun b hm he => ?_, fun hm => ?_⟩
  · obtain ⟨hp, -, -⟩ := meets_eq_reply hm
    have hw := step_waits_failed_pull hm he
    rw [hc.pulls (by simp [exit?, hp]), Backoff.next_counted] at hw
    rw [Met.failedPulls_append]
    exact hw
  · rw [← h.pollInterval]
    exact step_waits_empty_batch hm he
  · obtain ⟨ns, next, bo, hp, hw⟩ := step_waits_refusal hm
    rw [hc.offers hp, Backoff.next_counted] at hw
    rw [Met.refusals_append]
    exact hw

/-! ## The clock and the shutdown signal -/

theorem Admits.now (h : Admits world world') : world'.now = world.now := by
  obtain rfl | ⟨l, rfl⟩ := h <;> rfl

/-- A worker never moves the clock: time passes only in the scheduler. -/
theorem Step.now (h : Step w world w' world' o) : world'.now = world.now := by
  cases h with
  | loadFailed | loaded | stopped | stuck | ended => rfl
  | rewrote _ _ _ _ hp ha => rw [ha.now, world_of_persist hp]
  | admitted _ _ _ ha => exact ha.now
  | pullPanicked _ _ hr | pullFaulted _ _ hr | backedOff _ _ hr | backoffPanicked _ _ hr
  | idled _ _ hr | stalled _ _ hr | drawWaits _ _ hr => exact World.now_of_pull hr
  | bookmarked _ _ hr _ _ _ hp => rw [world_of_persist hp, World.now_of_pull hr]
  | stampPanicked _ _ hr _ _ _ hst | held _ _ hr _ _ _ hst =>
    rw [world_of_stamp hst, World.now_of_pull hr]
  | unmapped _ _ hr _ _ _ hst hp =>
    rw [world_of_persist hp, world_of_stamp hst, World.now_of_pull hr]
  | acknowledged _ hd hp => rw [world_of_persist hp, World.now_of_publish hd]
  | acknowledgedAlone _ hd | hung _ hd | refused _ hd | refusalPanicked _ hd =>
    exact World.now_of_publish hd

theorem Moves.now (h : Moves w world w' world') : world'.now = world.now := by
  cases h with
  | step hs => exact (step_spec hs).now
  | stop => rfl

/-- A run of a worker leaves the clock where it was. -/
theorem run_now (fuel : Nat) (w : Worker) (world : World) :
    (w.run fuel world).2.1.now = world.now := by
  have hchain : ∀ r : Worker × World,
      Relation.ReflTransGen (fun a b : Worker × World => Moves a.1 a.2 b.1 b.2) (w, world) r →
      r.2.now = world.now := by
    intro r hr
    induction hr with
    | refl => rfl
    | tail _ hm ih => exact hm.now.trans ih
  exact hchain _ (run_moves fuel w world)

theorem wake_now (fuel : Nat) (w : Worker) (world : World) :
    (w.wake fuel world).2.1.now = world.now := by
  unfold wake
  split
  · rfl
  · exact run_now fuel w world

/-- A run ends in a sleep only while shutdown is not signalled: a sleep that would begin after the
signal ends the run instead. -/
theorem run_sleep_unsignalled {fuel d : Nat} (h : (w.run fuel world).2.2 = .sleep d) :
    (w.run fuel world).2.1.shutdown = false := by
  induction fuel generalizing w world with
  | zero => cases h
  | succ fuel ih =>
    rcases hs : w.step world with ⟨w₁, world₁, o⟩
    rcases o with _ | (d' | _ | _) <;> simp only [run, hs] at h ⊢
    · exact ih h
    · by_cases hsd : world₁.shutdown = true
      · rw [if_pos hsd] at h
        cases h
      · rw [if_neg hsd]
        simpa using hsd
    · cases h
    · cases h

theorem wake_sleep_unsignalled {fuel d : Nat} (h : (w.wake fuel world).2.2 = .sleep d) :
    (w.wake fuel world).2.1.shutdown = false := by
  unfold wake at h ⊢
  split at h
  · cases h
  · next hs =>
    rw [if_neg hs]
    exact run_sleep_unsignalled h

/-- Resumed after shutdown was signalled, a worker stops at once. -/
theorem wake_of_shutdown (fuel : Nat) (w : Worker) (hs : world.shutdown = true) :
    w.wake fuel world = (w.stop, world, .done) := by
  rw [wake, if_pos hs]

end Worker

end ChangeRelay
