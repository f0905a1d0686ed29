import ChangeRelay.Relay.Worker

/-!
# What one step of a worker does

`Worker.step` runs one stretch of the worker's loop from where the worker stands. `Worker.Step`
lists its outcomes, one rule per branch of the loop: the guard of the branch, the operations it
performs on the world, and the worker, world and wait it ends with. `step_spec` shows that every
step follows one of the rules, so the invariants of the worker are proved by a case analysis on
the rules and never by unfolding the loop again. The rule for the rate limiter keeps only what
the invariants need: it changes the limiter and nothing else.

The operations on the world are framed. A pull records itself, plays its script and sets the
store's failure switches; stamping only draws from the sequence generator; a publish attempt
records itself; and `persist` writes the partition's key and nothing else.
-/

namespace ChangeRelay

open Store

namespace Store.Entries

theorem get?_put_of_ne (es : Entries) {key k : String} (token : String) (h : k ≠ key) :
    (es.put key token).get? k = es.get? k := by
  induction es with
  | nil => simp [put, get?, Ne.symm h]
  | cons e es ih =>
    obtain ⟨k', t⟩ := e
    simp only [get?] at ih
    by_cases hk : k' = key
    · subst hk
      simp [put, get?, Ne.symm h]
    · by_cases hk' : k' = k <;> simp [put, get?, hk, hk', h, ih]

end Store.Entries

namespace World

variable (world : World) (p : String) (c : Option String)

@[simp] theorem applyCue_entries (q : Cue) :
    (world.applyCue q).store.entries = world.store.entries := by
  unfold applyCue; split <;> split <;> rfl

@[simp] theorem applyCue_sequence (q : Cue) : (world.applyCue q).sequence = world.sequence := rfl

@[simp] theorem applyCue_published (q : Cue) : (world.applyCue q).published = world.published :=
  rfl

/-- A pull records itself and plays its source's script: besides the record it changes at most
the sources, the store's failure switches and the shutdown signal. -/
theorem pull_world : ∃ sources failReads failWrites shutdown,
    (world.pull p c).2 =
      { world with
        pulls := world.pulls ++ [⟨p, world.now, c, world.store.entries.get? p⟩]
        sources, shutdown, store := { world.store with failReads, failWrites } } := by
  simp only [pull]
  split
  · split
    · unfold applyCue
      split <;> split <;> exact ⟨_, _, _, _, rfl⟩
    · split <;> exact ⟨_, _, _, _, rfl⟩
  · exact ⟨_, _, _, _, rfl⟩

@[simp] theorem pull_entries : (world.pull p c).2.store.entries = world.store.entries := by
  obtain ⟨_, _, _, _, h⟩ := pull_world world p c
  rw [h]

@[simp] theorem pull_sequence : (world.pull p c).2.sequence = world.sequence := by
  obtain ⟨_, _, _, _, h⟩ := pull_world world p c
  rw [h]

@[simp] theorem pull_published : (world.pull p c).2.published = world.published := by
  obtain ⟨_, _, _, _, h⟩ := pull_world world p c
  rw [h]

variable {world world' : World} {p : String} {c : Option String}

/-- A publish attempt takes the next outcome, records itself, and records the list as published
when the outcome is a success; it changes nothing else of the world. -/
theorem world_of_publish {topic : String} {ns : List Notification} {d : Delivery}
    (h : world.publish p topic ns = (d, world')) :
    ∃ rest, world' =
      if d = .ok then
        { world with
          deliveries := rest
          attempts := world.attempts ++ [⟨p, world.now, topic, d, ns.map (·.sequence)⟩]
          published := world.published ++ [(p, ns)] }
      else
        { world with
          deliveries := rest
          attempts := world.attempts ++ [⟨p, world.now, topic, d, ns.map (·.sequence)⟩] } := by
  unfold publish at h
  split at h
  next d₀ rest _ =>
    simp only [Prod.mk.injEq] at h
    obtain ⟨rfl, rfl⟩ := h
    exact ⟨rest, by simp⟩

theorem world_of_pull {r : Reply} (h : world.pull p c = (r, world')) :
    ∃ sources failReads failWrites shutdown, world' =
      { world with
        pulls := world.pulls ++ [⟨p, world.now, c, world.store.entries.get? p⟩]
        sources, shutdown, store := { world.store with failReads, failWrites } } := by
  have := pull_world world p c
  rwa [h] at this

theorem entries_of_pull {r : Reply} (h : world.pull p c = (r, world')) :
    world'.store.entries = world.store.entries := by
  obtain ⟨_, _, _, _, rfl⟩ := world_of_pull h
  rfl

theorem sequence_of_pull {r : Reply} (h : world.pull p c = (r, world')) :
    world'.sequence = world.sequence := by
  obtain ⟨_, _, _, _, rfl⟩ := world_of_pull h
  rfl

theorem store_of_publish {topic : String} {ns : List Notification} {d : Delivery}
    (h : world.publish p topic ns = (d, world')) : world'.store = world.store := by
  obtain ⟨_, rfl⟩ := world_of_publish h
  split <;> rfl

/-- A pull records itself, with the cursor it was given and the partition's stored cursor. -/
theorem pulls_of_pull {r : Reply} (h : world.pull p c = (r, world')) :
    world'.pulls = world.pulls ++ [⟨p, world.now, c, world.store.entries.get? p⟩] := by
  obtain ⟨_, _, _, _, rfl⟩ := world_of_pull h
  rfl

theorem attempts_of_pull {r : Reply} (h : world.pull p c = (r, world')) :
    world'.attempts = world.attempts := by
  obtain ⟨_, _, _, _, rfl⟩ := world_of_pull h
  rfl

theorem published_of_pull {r : Reply} (h : world.pull p c = (r, world')) :
    world'.published = world.published := by
  obtain ⟨_, _, _, _, rfl⟩ := world_of_pull h
  rfl

theorem wallMs_of_pull {r : Reply} (h : world.pull p c = (r, world')) :
    world'.wallMs = world.wallMs := by
  obtain ⟨_, _, _, _, rfl⟩ := world_of_pull h
  rfl

/-- A publish attempt records itself, with the sequence numbers of the list it offered. -/
theorem attempts_of_publish {topic : String} {ns : List Notification} {d : Delivery}
    (h : world.publish p topic ns = (d, world')) :
    world'.attempts = world.attempts ++ [⟨p, world.now, topic, d, ns.map (·.sequence)⟩] := by
  obtain ⟨_, rfl⟩ := world_of_publish h
  split <;> rfl

/-- The publisher's record grows by the list it took, and only when it took it. -/
theorem published_of_publish {topic : String} {ns : List Notification} {d : Delivery}
    (h : world.publish p topic ns = (d, world')) :
    world'.published = if d = .ok then world.published ++ [(p, ns)] else world.published := by
  obtain ⟨_, rfl⟩ := world_of_publish h
  by_cases hd : d = .ok <;> simp [hd]

theorem pulls_of_publish {topic : String} {ns : List Notification} {d : Delivery}
    (h : world.publish p topic ns = (d, world')) : world'.pulls = world.pulls := by
  obtain ⟨_, rfl⟩ := world_of_publish h
  split <;> rfl

theorem sequence_of_publish {topic : String} {ns : List Notification} {d : Delivery}
    (h : world.publish p topic ns = (d, world')) : world'.sequence = world.sequence := by
  obtain ⟨_, rfl⟩ := world_of_publish h
  split <;> rfl

/-- A publish attempt leaves the store as it was. -/
@[simp] theorem publish_store (world : World) (p topic : String) (ns : List Notification) :
    (world.publish p topic ns).2.store = world.store := by
  rcases h : world.publish p topic ns with ⟨d, world'⟩
  exact store_of_publish h

/-- A publish attempt leaves the sequence generator as it was. -/
@[simp] theorem publish_sequence (world : World) (p topic : String) (ns : List Notification) :
    (world.publish p topic ns).2.sequence = world.sequence := by
  rcases h : world.publish p topic ns with ⟨d, world'⟩
  exact sequence_of_publish h

end World

namespace Worker

/-! ## The operations of a step -/

@[simp] theorem stop_cursor (w : Worker) : w.stop.cursor = w.cursor := rfl
@[simp] theorem stop_partition (w : Worker) : w.stop.partition = w.partition := rfl
@[simp] theorem stop_phase (w : Worker) : w.stop.phase = .finished .stopped := rfl
@[simp] theorem stop_state (w : Worker) : w.stop.state = .stopped := rfl
@[simp] theorem fault_cursor (w : Worker) (e : RelayError) : (w.fault e).cursor = w.cursor := rfl
@[simp] theorem fault_partition (w : Worker) (e : RelayError) :
    (w.fault e).partition = w.partition := rfl
@[simp] theorem fault_phase (w : Worker) (e : RelayError) :
    (w.fault e).phase = .finished (.faulted e) := rfl
@[simp] theorem fault_state (w : Worker) (e : RelayError) : (w.fault e).state = .faulted := rfl

/-- Writing a cursor changes the store and nothing else of the world. -/
theorem persist_world (w : Worker) (world : World) (c : String) :
    (w.persist world c).2 = { world with store := (world.store.set w.partition c).1 } := by
  unfold persist
  split <;> rename_i h <;> simp [h]

/-- A write fails exactly while the store refuses writes. -/
theorem persist_failed (w : Worker) (world : World) (c : String) :
    (w.persist world c).1 = world.store.failWrites := by
  unfold persist MemoryStore.set at *
  split <;> rename_i h <;> split at h <;> simp_all

/-- A write puts the cursor under the partition's key, unless writes fail. -/
theorem persist_entries (w : Worker) (world : World) (c : String) :
    (w.persist world c).2.store.entries =
      if world.store.failWrites then world.store.entries
      else world.store.entries.put w.partition c := by
  rw [persist_world]
  unfold MemoryStore.set
  split <;> rfl

theorem stamp_eq (w : Worker) (world : World) (b : SourceBatch) :
    w.stamp world b = b.events.foldlM (w.stampStep b) (.ok [], world) := rfl

/-- Stamping one event changes the sequence generator and nothing else of the world. -/
theorem world_of_stampStep {w : Worker} {b : SourceBatch}
    {acc acc' : Except String (List Notification) × World} {ev : SourceEvent}
    (h : w.stampStep b acc ev = some acc') : acc'.2 = { acc.2 with sequence := acc'.2.sequence } := by
  obtain ⟨r, world⟩ := acc
  cases r with
  | error m =>
    cases h
    rfl
  | ok ns =>
    simp only [stampStep] at h
    split at h
    · split at h <;> cases h <;> rfl
    · cases h
      rfl

/-- A stamping that ends changes the sequence generator and nothing else of the world. -/
theorem world_of_stamp {w : Worker} {world world' : World} {b : SourceBatch}
    {r : Except String (List Notification)} (h : w.stamp world b = some (r, world')) :
    world' = { world with sequence := world'.sequence } := by
  rw [stamp_eq] at h
  suffices ∀ (evs : List SourceEvent) (acc acc' : Except String (List Notification) × World),
      evs.foldlM (w.stampStep b) acc = some acc' → acc'.2 = { acc.2 with sequence := acc'.2.sequence } from
    this b.events _ _ h
  intro evs
  induction evs with
  | nil =>
    intro acc acc' h
    cases h
    rfl
  | cons ev evs ih =>
    intro acc acc' h
    rw [List.foldlM_cons] at h
    obtain ⟨acc₁, h₁, h₂⟩ := Option.bind_eq_some_iff.1 h
    rw [ih acc₁ acc' h₂, world_of_stampStep h₁]

theorem world_of_persist {w : Worker} {world world' : World} {c : String} {failed : Bool}
    (h : w.persist world c = (failed, world')) :
    world' = { world with store := (world.store.set w.partition c).1 } := by
  have := persist_world w world c
  rwa [h] at this

theorem store_of_stamp {w : Worker} {world world' : World} {b : SourceBatch}
    {r : Except String (List Notification)} (h : w.stamp world b = some (r, world')) :
    world'.store = world.store := by
  rw [world_of_stamp h]

/-- A write leaves the store's entries as they were, or puts the cursor under the partition. -/
theorem entries_of_persist {w : Worker} {world world' : World} {c : String} {failed : Bool}
    (h : w.persist world c = (failed, world')) :
    world'.store.entries = world.store.entries ∨
      world'.store.entries = world.store.entries.put w.partition c := by
  have he := persist_entries w world c
  rw [h] at he
  rw [he]
  split
  · exact .inl rfl
  · exact .inr rfl

/-! ## The rules of a step -/

/-- The world after the rate limiter handed out a token: only the limiter changed. -/
def Admits (world world' : World) : Prop :=
  world' = world ∨ ∃ l, world' = { world with limiter := some l }

theorem Admits.store {world world' : World} (h : Admits world world') : world'.store = world.store := by
  obtain rfl | ⟨l, rfl⟩ := h <;> rfl

/-- One step of a worker, by the branch of the loop it takes. -/
inductive Step : Worker → World → Worker → World → Option Wait → Prop
  /-- The cursor cannot be read: the worker faults and the world stays as it was. -/
  | loadFailed {w world e} : w.phase = .load → world.store.get w.partition = .error e →
      Step w world (w.fault e) world (some .done)
  /-- The worker resumes from the stored cursor, or else from its source's initial one. -/
  | loaded {w world stored} : w.phase = .load → world.store.get w.partition = .ok stored →
      Step w world
        { w with
          cursor := stored.or ((world.source? w.partition).bind (·.initialCursor))
          state := .streaming, phase := .top } world none
  /-- Shutdown was signalled: the worker stops before its next pull. -/
  | stopped {w world} : w.phase = .top ∨ w.phase = .pull → world.shutdown = true →
      Step w world w.stop world (some .done)
  /-- At the top of the loop the worker writes again a cursor whose write failed, then takes a
  token from the rate limiter. -/
  | rewrote {w world world₁ world₂ c failed o} : w.phase = .top → world.shutdown = false →
      w.unpersisted = true → w.cursor = some c → w.persist world c = (failed, world₁) →
      Admits world₁ world₂ → Step w world { w with unpersisted := failed, phase := .pull } world₂ o
  /-- With nothing to write again it only takes a token. -/
  | admitted {w world world₂ o} : w.phase = .top → world.shutdown = false →
      (w.unpersisted = false ∨ w.cursor = none) → Admits world world₂ →
      Step w world { w with phase := .pull } world₂ o
  /-- The pull panics. -/
  | pullPanicked {w world world₁ m} : w.phase = .pull → world.shutdown = false →
      world.pull w.partition w.cursor = (.panic m, world₁) →
      Step w world { w with phase := .panicked m } world₁ (some .done)
  /-- A fatal failure of the pull faults the worker. -/
  | pullFaulted {w world world₁ e} : w.phase = .pull → world.shutdown = false →
      world.pull w.partition w.cursor = (.fail e, world₁) → e.isFatal = true →
      Step w world (w.fault e) world₁ (some .done)
  /-- Any other failure of the pull backs off, to pull again after the delay. -/
  | backedOff {w world world₁ e d b} : w.phase = .pull → world.shutdown = false →
      world.pull w.partition w.cursor = (.fail e, world₁) → e.isFatal = false →
      w.backoff.next = (.ok d, b) →
      Step w world { w with backoff := b, phase := .top } world₁
        (some (.sleep (world₁.now + d.nanos)))
  /-- The delay of a backoff cannot be computed: the worker panics. -/
  | backoffPanicked {w world world₁ e m b} : w.phase = .pull → world.shutdown = false →
      world.pull w.partition w.cursor = (.fail e, world₁) → e.isFatal = false →
      w.backoff.next = (.error m, b) →
      Step w world { w with phase := .panicked (some m) } world₁ (some .done)
  /-- An empty batch that moves the cursor: the worker takes and writes it, then sleeps. -/
  | bookmarked {w world world₁ world₂ b c failed} : w.phase = .pull → world.shutdown = false →
      world.pull w.partition w.cursor = (.batch b, world₁) → b.events = [] →
      b.nextCursor = some c → w.cursor ≠ some c → w.persist world₁ c = (failed, world₂) →
      Step w world
        { w with
          backoff := w.backoff.reset, unpersisted := failed, cursor := some c, phase := .top }
        world₂ (some (.sleep (world₂.now + w.pollInterval.nanos)))
  /-- An empty batch that leaves the cursor where it is: the worker sleeps. -/
  | idled {w world world₁ b} : w.phase = .pull → world.shutdown = false →
      world.pull w.partition w.cursor = (.batch b, world₁) → b.events = [] →
      (b.nextCursor = none ∨ b.nextCursor = w.cursor) →
      Step w world { w with backoff := w.backoff.reset, phase := .top } world₁
        (some (.sleep (world₁.now + w.pollInterval.nanos)))
  /-- A batch with events that does not move the cursor faults the worker. -/
  | stalled {w world world₁ b} : w.phase = .pull → world.shutdown = false →
      world.pull w.partition w.cursor = (.batch b, world₁) → b.events ≠ [] →
      (b.nextCursor = none ∨ b.nextCursor = w.cursor) →
      Step w world ({ w with backoff := w.backoff.reset }.fault (stalled b.events.length w.cursor))
        world₁ (some .done)
  /-- Stamping the batch panics: the sequence counter overflowed. -/
  | stampPanicked {w world world₁ world₂ b c m} : w.phase = .pull → world.shutdown = false →
      world.pull w.partition w.cursor = (.batch b, world₁) → b.events ≠ [] →
      b.nextCursor = some c → w.cursor ≠ some c → w.stamp world₁ b = some (.error m, world₂) →
      Step w world { w with backoff := w.backoff.reset, phase := .panicked (some m) } world₂
        (some .done)
  /-- A change of the batch waits for a sequence generator that is not loaded, for ever. -/
  | drawWaits {w world world₁ b c} : w.phase = .pull → world.shutdown = false →
      world.pull w.partition w.cursor = (.batch b, world₁) → b.events ≠ [] →
      b.nextCursor = some c → w.cursor ≠ some c → w.stamp world₁ b = none →
      Step w world { w with backoff := w.backoff.reset, phase := .hung } world₁ (some .forever)
  /-- No event of the batch maps to a change: the worker takes and writes the cursor at once. -/
  | unmapped {w world world₁ world₂ world₃ b c failed} : w.phase = .pull →
      world.shutdown = false → world.pull w.partition w.cursor = (.batch b, world₁) →
      b.events ≠ [] → b.nextCursor = some c → w.cursor ≠ some c →
      w.stamp world₁ b = some (.ok [], world₂) → w.persist world₂ c = (failed, world₃) →
      Step w world
        { w with
          backoff := w.backoff.reset, unpersisted := failed, cursor := some c, phase := .top }
        world₃ none
  /-- The worker holds the stamped batch for the publisher. -/
  | held {w world world₁ world₂ b c ns} : w.phase = .pull → world.shutdown = false →
      world.pull w.partition w.cursor = (.batch b, world₁) → b.events ≠ [] →
      b.nextCursor = some c → w.cursor ≠ some c → w.stamp world₁ b = some (.ok ns, world₂) →
      ns ≠ [] →
      Step w world
        { w with
          backoff := w.backoff.reset, phase := .publish ns (some c) (Backoff.new w.retry) }
        world₂ none
  /-- The publisher took the batch: the worker takes and writes the cursor after it. -/
  | acknowledged {w world world₁ world₂ ns c bo failed} : w.phase = .publish ns (some c) bo →
      world.publish w.partition w.topic ns = (.ok, world₁) → w.persist world₁ c = (failed, world₂) →
      Step w world { w with unpersisted := failed, cursor := some c, phase := .top } world₂ none
  /-- The publisher took a batch held without a cursor after it. -/
  | acknowledgedAlone {w world world₁ ns bo} : w.phase = .publish ns none bo →
      world.publish w.partition w.topic ns = (.ok, world₁) →
      Step w world { w with phase := .top } world₁ none
  /-- The publish never completes. -/
  | hung {w world world₁ ns next bo} : w.phase = .publish ns next bo →
      world.publish w.partition w.topic ns = (.hang, world₁) →
      Step w world { w with phase := .hung } world₁ (some .forever)
  /-- The publisher refused the batch: the worker offers the same batch after the delay. -/
  | refused {w world world₁ ns next bo d bo'} : w.phase = .publish ns next bo →
      world.publish w.partition w.topic ns = (.fail, world₁) → bo.next = (.ok d, bo') →
      Step w world { w with phase := .publish ns next bo' } world₁
        (some (.sleep (world₁.now + d.nanos)))
  /-- The delay after a refusal cannot be computed: the worker panics. -/
  | refusalPanicked {w world world₁ ns next bo m bo'} : w.phase = .publish ns next bo →
      world.publish w.partition w.topic ns = (.fail, world₁) → bo.next = (.error m, bo') →
      Step w world { w with phase := .panicked (some m) } world₁ (some .done)
  /-- A worker stuck in a publish stays stuck. -/
  | stuck {w world} : w.phase = .hung → Step w world w world (some .forever)
  /-- A worker whose run ended stays as it is. -/
  | ended {w world} : (∃ x, w.phase = .finished x) ∨ (∃ m, w.phase = .panicked m) →
      Step w world w world (some .done)

variable {w w' : Worker} {world world' world₁ : World} {o : Option Wait}

theorem load_spec (hp : w.phase = .load) (h : w.load world = (w', world', o)) :
    Step w world w' world' o := by
  unfold load at h
  split at h
  · next e he =>
    simp only [Prod.mk.injEq] at h
    obtain ⟨rfl, rfl, rfl⟩ := h
    exact .loadFailed hp he
  · next stored hs =>
    simp only [Prod.mk.injEq] at h
    obtain ⟨rfl, rfl, rfl⟩ := h
    have := Step.loaded hp hs
    cases stored <;> exact this

theorem top_spec (hp : w.phase = .top) (h : w.top world = (w', world', o)) :
    Step w world w' world' o := by
  unfold top at h
  split at h
  · next hs =>
    simp only [Prod.mk.injEq] at h
    obtain ⟨rfl, rfl, rfl⟩ := h
    exact .stopped (.inl hp) hs
  · next hs =>
    simp only [Bool.not_eq_true] at hs
    split at h
    next w₁ world₁ hr =>
    have hl : w' = { w₁ with phase := .pull } ∧ Admits world₁ world' := by
      split at h
      · split at h
        dsimp only at h
        split at h <;> simp only [Prod.mk.injEq] at h <;> obtain ⟨rfl, rfl, rfl⟩ := h <;>
          exact ⟨rfl, .inr ⟨_, rfl⟩⟩
      · simp only [Prod.mk.injEq] at h
        obtain ⟨rfl, rfl, rfl⟩ := h
        exact ⟨rfl, .inl rfl⟩
    obtain ⟨rfl, ha⟩ := hl
    split at hr
    · next c hu hc =>
      rcases hpw : w.persist world c with ⟨failed, world₂⟩
      rw [hpw] at hr
      simp only [Prod.mk.injEq] at hr
      obtain ⟨rfl, rfl⟩ := hr
      exact .rewrote hp hs hu hc hpw ha
    · next hno =>
      simp only [Prod.mk.injEq] at hr
      obtain ⟨rfl, rfl⟩ := hr
      refine .admitted hp hs ?_ ha
      cases hu : w.unpersisted <;> cases hc : w.cursor <;> simp_all

theorem received_spec {b : SourceBatch} (hp : w.phase = .pull) (hs : world.shutdown = false)
    (hr : world.pull w.partition w.cursor = (.batch b, world₁))
    (h : w.received world₁ b = (w', world', o)) : Step w world w' world' o := by
  unfold received at h
  split at h
  · next he =>
    have he : b.events = [] := by simpa [SourceBatch.isEmpty] using he
    unfold idle at h
    split at h
    · next c hc =>
      dsimp only at h
      split at h
      · next heq =>
        simp only [Prod.mk.injEq] at h
        obtain ⟨rfl, rfl, rfl⟩ := h
        exact .idled hp hs hr he (.inr (by simpa [hc] using (beq_iff_eq.1 heq).symm))
      · next hne =>
        rcases hpw : w.persist world₁ c with ⟨failed, world₃⟩
        rw [show ({ w with backoff := w.backoff.reset } : Worker).persist world₁ c =
          w.persist world₁ c from rfl, hpw] at h
        simp only [Prod.mk.injEq] at h
        obtain ⟨rfl, rfl, rfl⟩ := h
        exact .bookmarked hp hs hr he hc (by simpa using hne) hpw
    · next hc =>
      dsimp only at h
      simp only [Prod.mk.injEq] at h
      obtain ⟨rfl, rfl, rfl⟩ := h
      exact .idled hp hs hr he (.inl hc)
  · next he =>
    have he : b.events ≠ [] := by simpa [SourceBatch.isEmpty] using he
    dsimp only at h
    split at h
    · next c hc =>
      split at h
      · next heq =>
        simp only [Prod.mk.injEq] at h
        obtain ⟨rfl, rfl, rfl⟩ := h
        exact .stalled hp hs hr he (.inr (by simpa [hc] using (beq_iff_eq.1 heq).symm))
      · next hne =>
        have hne : w.cursor ≠ some c := by simpa using hne
        unfold deliver at h
        rw [show ({ w with backoff := w.backoff.reset } : Worker).stamp world₁ b =
          w.stamp world₁ b from rfl] at h
        split at h
        · next hst =>
          simp only [Prod.mk.injEq] at h
          obtain ⟨rfl, rfl, rfl⟩ := h
          exact .drawWaits hp hs hr he hc hne hst
        · next m world₂ hst =>
          simp only [Prod.mk.injEq] at h
          obtain ⟨rfl, rfl, rfl⟩ := h
          exact .stampPanicked hp hs hr he hc hne hst
        · next world₂ hst =>
          rw [hc] at h
          dsimp only at h
          rcases hpw : w.persist world₂ c with ⟨failed, world₃⟩
          rw [show ({ w with backoff := w.backoff.reset } : Worker).persist world₂ c =
            w.persist world₂ c from rfl, hpw] at h
          simp only [Prod.mk.injEq] at h
          obtain ⟨rfl, rfl, rfl⟩ := h
          exact .unmapped hp hs hr he hc hne hst hpw
        · next ns world₂ hns hst =>
          simp only [Prod.mk.injEq] at h
          obtain ⟨rfl, rfl, rfl⟩ := h
          rw [hc]
          exact .held hp hs hr he hc hne hst hns
    · next hc =>
      simp only [Prod.mk.injEq] at h
      obtain ⟨rfl, rfl, rfl⟩ := h
      exact .stalled hp hs hr he (.inl hc)

theorem pullNext_spec (hp : w.phase = .pull) (h : w.pullNext world = (w', world', o)) :
    Step w world w' world' o := by
  unfold pullNext at h
  split at h
  · next hs =>
    simp only [Prod.mk.injEq] at h
    obtain ⟨rfl, rfl, rfl⟩ := h
    exact .stopped (.inr hp) hs
  · next hs =>
    simp only [Bool.not_eq_true] at hs
    split at h
    · next m world₁ hr =>
      simp only [Prod.mk.injEq] at h
      obtain ⟨rfl, rfl, rfl⟩ := h
      exact .pullPanicked hp hs hr
    · next e world₁ hr =>
      split at h
      · next he =>
        simp only [Prod.mk.injEq] at h
        obtain ⟨rfl, rfl, rfl⟩ := h
        exact .pullFaulted hp hs hr he
      · next he =>
        simp only [Bool.not_eq_true] at he
        unfold backOff at h
        split at h
        · next d b hb =>
          simp only [Prod.mk.injEq] at h
          obtain ⟨rfl, rfl, rfl⟩ := h
          exact .backedOff hp hs hr he hb
        · next m b hb =>
          simp only [Prod.mk.injEq] at h
          obtain ⟨rfl, rfl, rfl⟩ := h
          exact .backoffPanicked hp hs hr he hb
    · next b world₁ hr => exact received_spec hp hs hr h

theorem offer_spec {ns : List Notification} {next : Option String} {bo : Backoff}
    (hp : w.phase = .publish ns next bo) (h : w.offer world ns next bo = (w', world', o)) :
    Step w world w' world' o := by
  unfold offer at h
  split at h
  · next world₁ hd =>
    split at h
    · next c =>
      rcases hpw : w.persist world₁ c with ⟨failed, world₂⟩
      rw [hpw] at h
      simp only [Prod.mk.injEq] at h
      obtain ⟨rfl, rfl, rfl⟩ := h
      exact .acknowledged hp hd hpw
    · simp only [Prod.mk.injEq] at h
      obtain ⟨rfl, rfl, rfl⟩ := h
      exact .acknowledgedAlone hp hd
  · next world₁ hd =>
    simp only [Prod.mk.injEq] at h
    obtain ⟨rfl, rfl, rfl⟩ := h
    exact .hung hp hd
  · next world₁ hd =>
    split at h
    · next d bo' hb =>
      simp only [Prod.mk.injEq] at h
      obtain ⟨rfl, rfl, rfl⟩ := h
      exact .refused hp hd hb
    · next m bo' hb =>
      simp only [Prod.mk.injEq] at h
      obtain ⟨rfl, rfl, rfl⟩ := h
      exact .refusalPanicked hp hd hb

/-- Every step of a worker follows one of the rules of `Step`. -/
theorem step_spec (h : w.step world = (w', world', o)) : Step w world w' world' o := by
  unfold step at h
  split at h
  · next hp => exact load_spec hp h
  · next hp => exact top_spec hp h
  · next hp => exact pullNext_spec hp h
  · next ns next bo hp => exact offer_spec hp h
  · next hp =>
    simp only [Prod.mk.injEq] at h
    obtain ⟨rfl, rfl, rfl⟩ := h
    exact .stuck hp
  · next x hp =>
    simp only [Prod.mk.injEq] at h
    obtain ⟨rfl, rfl, rfl⟩ := h
    exact .ended (.inl ⟨x, hp⟩)
  · next m hp =>
    simp only [Prod.mk.injEq] at h
    obtain ⟨rfl, rfl, rfl⟩ := h
    exact .ended (.inr ⟨m, hp⟩)

end Worker

end ChangeRelay
