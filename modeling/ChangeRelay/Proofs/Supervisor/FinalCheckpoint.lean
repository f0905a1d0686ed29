import ChangeRelay.Proofs.Supervisor.Schedule
import ChangeRelay.Proofs.Worker.Numbering

/-!
# The checkpoint a drained supervisor leaves

When the supervisor drains, at the end of `runUntil` or on `shutdown`, it flushes the counter a
last time, after its workers stopped or were abandoned. Main statement (`final_checkpoint`): after
a drain of a supervisor as built, whose generator was loaded and whose store takes the final
write, the store holds a checkpoint at least every number stamped in the run, so that a new
supervisor started on that store stamps only larger numbers; and a supervisor whose generator
was never loaded leaves the checkpoint as it found it.

The proof sees the whole run from the generator's side (`Draws`): every move of the scheduler is a
sequential run of the generator and its store whose calls of `next` answered every number stamped,
and the theory of sequential runs does the rest. The counter needs room (`World.Room`) for every
event the sources deliver: past its largest value it starts again from 0, and the last checkpoint
is then below numbers already stamped.
-/

namespace ChangeRelay

namespace Sequence

open Store

/-- A flush leaves the store's failure switches, the gate and the counter; on a store that takes
writes it succeeds. -/
theorem flush_writable {g g' : Sequence} {s s' : MemoryStore} {r : Except RelayError Bool}
    (h : g.flush s = (s', r, g')) :
    s'.failWrites = s.failWrites ∧ g'.loaded = g.loaded ∧ g'.value = g.value ∧
      (s.failWrites = false → ∃ b, r = .ok b) := by
  unfold flush at h
  split at h
  · simp only [Prod.mk.injEq] at h
    obtain ⟨rfl, rfl, rfl⟩ := h
    exact ⟨rfl, rfl, rfl, fun _ => ⟨false, rfl⟩⟩
  · cases hw : s.failWrites with
    | true =>
      simp only [MemoryStore.cursorStore_set, MemoryStore.set, hw, if_true, Prod.mk.injEq] at h
      obtain ⟨rfl, -, rfl⟩ := h
      exact ⟨hw, rfl, rfl, fun h' => by cases h'⟩
    | false =>
      simp only [MemoryStore.cursorStore_set, MemoryStore.set, hw, Bool.false_eq_true, if_false,
        Prod.mk.injEq] at h
      obtain ⟨rfl, rfl, rfl⟩ := h
      exact ⟨rfl, rfl, rfl, fun _ => ⟨true, rfl⟩⟩

end Sequence

namespace World

open Store Sequence

/-- A flush keeps the room: it moves no counter, and a checkpoint it writes is the counter. -/
theorem Room.flush {world : World} {store' : MemoryStore} {r : Except RelayError Bool}
    {g' : Sequence} (h : world.sequence.flush world.store = (store', r, g')) (hr : world.Room) :
    ({ world with store := store', sequence := g' } : World).Room := by
  rcases flush_cases h with ⟨-, rfl, -, rfl⟩ | ⟨-, -, rfl, rfl, -⟩ | ⟨hl, -, rfl, -, rfl⟩
  · exact hr
  · exact hr
  · have hv := hr.counter hl
    refine ⟨fun _ => hv, fun p hp => ?_⟩
    have hw := holds_put world.store (n := world.sequence.value) (by omega)
    obtain rfl := hp.unique hw
    show max world.sequence.value world.sequence.value + world.remaining ≤ sequenceMax
    omega

/-- A world that is `world` once its store is put back keeps the counter, the numbers on record
and the sources of `world`. -/
theorem keeps_of_store_back {world world' : World}
    (h : { world' with store := world.store } = world) :
    world'.sequence = world.sequence ∧ world'.attempts = world.attempts ∧
      world'.published = world.published ∧ world'.sources = world.sources := by
  rw [← h]
  exact ⟨rfl, rfl, rfl, rfl⟩

end World

namespace Supervisor

open Store Sequence World

/-- A number stamped on a change in the run so far: on a batch offered to the publisher (every
published batch was offered), or on the batch a worker holds for its next offer. -/
def Stamped (s : Supervisor) (n : Nat) : Prop := n ∈ s.world.stamped ∨ ∃ w ∈ s.workers, n ∈ w.held

/-- The partitions as the configuration's checks leave them: no worker writes under the
checkpoint's key, and no two sources answer for one partition. -/
structure Reserved (s : Supervisor) : Prop where
  keys : ∀ w ∈ s.workers, w.partition ≠ sequenceKey
  distinct : s.world.Distinct

/-- How a stretch of the supervisor's run draws from the generator: the generator and its store
take a sequential run, whose calls of `next` answered every number stamped on the way; with room
in the counter they answered numbers only, and the counter keeps its room. -/
def Draws (s s' : Supervisor) : Prop :=
  s.Reserved → s'.Reserved ∧ ∃ as, Run s.world.generator as s'.world.generator ∧
    (∀ n, Stamped s' n → Stamped s n ∨ .ok n ∈ as) ∧
    (s.world.Room → s'.world.Room ∧ ∃ ns : List Nat, as = ns.map .ok)

theorem Draws.refl (s : Supervisor) : Draws s s :=
  fun h => ⟨h, [], .refl, fun _ hn => .inl hn, fun hr => ⟨hr, [], rfl⟩⟩

theorem Draws.trans {s₁ s₂ s₃ : Supervisor} (h₁ : Draws s₁ s₂) (h₂ : Draws s₂ s₃) :
    Draws s₁ s₃ := by
  intro hr₁
  obtain ⟨hr₂, as, hrun₁, hn₁, hroom₁⟩ := h₁ hr₁
  obtain ⟨hr₃, bs, hrun₂, hn₂, hroom₂⟩ := h₂ hr₂
  refine ⟨hr₃, as ++ bs, hrun₁.append hrun₂, fun n hn => ?_, fun hr => ?_⟩
  · rcases hn₂ n hn with h | h
    · rcases hn₁ n h with h' | h'
      · exact .inl h'
      · exact .inr (List.mem_append_left _ h')
    · exact .inr (List.mem_append_right _ h)
  · obtain ⟨hr', ns₁, rfl⟩ := hroom₁ hr
    obtain ⟨hr'', ns₂, rfl⟩ := hroom₂ hr'
    exact ⟨hr'', ns₁ ++ ns₂, by simp⟩

/-- A move that the generator does not see: the workers, the counter, the stored entries, the
numbers on record and the sources stay. -/
theorem draws_of_frame {s s' : Supervisor} (hw : s'.workers = s.workers)
    (hs : s'.world.sequence = s.world.sequence)
    (he : s'.world.store.entries = s.world.store.entries)
    (hst : s'.world.stamped = s.world.stamped) (hsrc : s'.world.sources = s.world.sources) :
    Draws s s' := by
  intro hr
  have hf : Frame s.world s'.world [] :=
    { sequence := hs
      checkpoint := by rw [he]
      stamped := fun n h => .inl (hst ▸ h)
      sources := fun hd => ⟨by rw [World.Distinct, hsrc]; exact hd, by simp [remaining, hsrc]⟩ }
  refine ⟨⟨hw ▸ hr.keys, (hf.sources hr.distinct).1⟩, [], hf.move.run, fun n hn => .inl ?_,
    fun hroom => ⟨hf.room hr.distinct hroom, [], rfl⟩⟩
  rw [Stamped, hw, hst] at hn
  exact hn

/-- A move that changes nothing but the scheduler's own fields and the clock. -/
theorem draws_of_same {s s' : Supervisor} (hw : s'.workers = s.workers)
    (hg : s'.world = { s.world with now := s'.world.now, shutdown := s'.world.shutdown }) :
    Draws s s' :=
  draws_of_frame hw (by rw [hg]) (by rw [hg]) (by rw [hg]; rfl) (by rw [hg])

/-! ## The checkpoint task -/

theorem flushSequence_draws (s : Supervisor) : Draws s s.flushSequence := by
  rcases hf : s.world.sequence.flush s.world.store with ⟨store', r, g'⟩
  have heq :
      s.flushSequence = { s with world := { s.world with store := store', sequence := g' } } := by
    simp only [flushSequence, hf]
  rw [heq]
  intro hr
  refine ⟨⟨hr.keys, hr.distinct⟩, [], (Move.flush hf).run, fun n hn => .inl hn,
    fun hroom => ⟨hroom.flush hf, [], rfl⟩⟩

theorem runCheckpoint_draws (s : Supervisor) : Draws s s.runCheckpoint := by
  unfold runCheckpoint
  split
  · exact (flushSequence_draws s).trans (draws_of_same rfl rfl)
  · split
    · exact (flushSequence_draws s).trans (draws_of_same rfl rfl)
    · exact (flushSequence_draws s).trans (draws_of_same rfl rfl)
  · exact Draws.refl s

/-! ## The workers' tasks -/

section WorkerTask

variable {w : Worker} {world : World}

@[simp] theorem reported_held (w : Worker) : (reported w).held = w.held := by
  simp [Worker.held]

@[simp] theorem reported_partition (w : Worker) : (reported w).partition = w.partition := by
  unfold reported
  split <;> rfl

/-- A worker's task, seen from the generator: a chain of the worker's moves, or a stop. -/
theorem workerTask_draws (fuel : Nat) (hk : w.partition ≠ sequenceKey) (hd : world.Distinct) :
    (workerTask fuel w world).1.partition = w.partition ∧ (workerTask fuel w world).2.1.Distinct ∧
      ∃ as, Worker.Draws (w, world)
        ((workerTask fuel w world).1, (workerTask fuel w world).2.1) as := by
  obtain ⟨r, hr, heq⟩ := workerTask_eq fuel w world
  rw [heq]
  have hheld : ∀ {y : Worker} {world' : World} {as}, Worker.Draws (w, world) (y, world') as →
      Worker.Draws (w, world) (reported y, world') as := fun h =>
    ⟨h.run, by simpa using h.answered, h.room⟩
  obtain ⟨hp, hd', as, hx⟩ := Worker.chain_draws (Worker.run_moves fuel w world) hk hd
  rcases hr with rfl | rfl
  · exact ⟨by simpa using hp, hd', as, hheld hx⟩
  · unfold Worker.wake
    split
    · exact ⟨rfl, hd, [], hheld (Worker.draws_stop hd)⟩
    · exact ⟨by simpa using hp, hd', as, hheld hx⟩

end WorkerTask

theorem runWorker_draws (s : Supervisor) (i : Nat) : Draws s (s.runWorker i) := by
  cases hw : s.workers[i]? with
  | none =>
    unfold runWorker
    rw [show s.worker? i = none from hw]
    exact Draws.refl s
  | some w =>
    rw [runWorker_some hw]
    intro hr
    have hmem : w ∈ s.workers := List.mem_of_getElem? hw
    obtain ⟨hp, hd, as, hx⟩ := workerTask_draws s.budget (hr.keys w hmem) hr.distinct
    generalize workerTask s.budget w s.world = t at hp hd hx
    obtain ⟨w', world', wait⟩ := t
    obtain ⟨hws, -⟩ := park_frame ({ s with workers := s.workers.set i w', world := world' } :
      Supervisor) i w' wait
    have hset : ∀ v ∈ s.workers.set i w', v ∈ s.workers ∨ v = w' := fun v hv =>
      List.mem_or_eq_of_mem_set hv
    refine ⟨⟨fun v hv => ?_, ?_⟩, as, ?_, fun n hn => ?_, fun hroom => ?_⟩
    · rw [hws] at hv
      rcases hset v hv with hv | rfl
      · exact hr.keys v hv
      · rw [hp]
        exact hr.keys w hmem
    · rw [park_world]
      exact hd
    · rw [park_world]
      exact hx.run
    · rw [Stamped, park_world, hws] at hn
      have hans : n ∈ w'.held ++ world'.stamped → Stamped s n ∨ .ok n ∈ as := fun h =>
        (hx.answered n h).imp_left fun h' => (List.mem_append.1 h').elim
          (fun h'' => .inr ⟨w, hmem, h''⟩) .inl
      rcases hn with hn | ⟨v, hv, hn⟩
      · exact hans (List.mem_append_right _ hn)
      · rcases hset v hv with hv | rfl
        · exact .inl (.inr ⟨v, hv, hn⟩)
        · exact hans (List.mem_append_left _ hn)
    · rw [park_world]
      exact hx.room hroom

/-- Every move of the scheduler draws from the generator as a sequential run. -/
theorem respects_draws : Respects Draws where
  refl := Draws.refl
  trans := Draws.trans
  runTask := fun {s t rest} _ => by
    have hpop : Draws s { s with queue := rest } := draws_of_same rfl rfl
    cases t with
    | checkpoint => exact hpop.trans (runCheckpoint_draws _)
    | worker i => exact hpop.trans (runWorker_draws _ i)
  wakeAt _ _ := draws_of_same rfl rfl
  clock _ _ := draws_of_same rfl rfl
  forget _ _ _ _ := draws_of_same rfl rfl

/-! ## Draining, starting, and the calls from outside -/

/-- Draining ends with a flush, after a stretch that draws from the generator. -/
theorem drain_flushes (n : Nat) (s : Supervisor) :
    ∃ t, Draws s t ∧ drain n s = t.flushSequence := by
  unfold drain
  dsimp only
  refine ⟨_, ?_, rfl⟩
  have h₁ : Draws s (s.signalShutdown.setState .shuttingDown) := draws_of_same rfl rfl
  refine h₁.trans (Draws.trans (respects_draws.wait
    ((s.signalShutdown.setState .shuttingDown).world.now +
      (s.signalShutdown.setState .shuttingDown).shutdownTimeout.nanos) n _) ?_)
  generalize drain.wait _ n _ = s₁
  have h₂ : Draws s₁ { s₁ with running := [], queue := s₁.queue.filter (· == .checkpoint) } :=
    draws_of_same rfl rfl
  refine h₂.trans (Draws.trans (respects_draws.settle
    ({ s₁ with running := [], queue := s₁.queue.filter (· == .checkpoint) } : Supervisor).budget
    { s₁ with running := [], queue := s₁.queue.filter (· == .checkpoint) }) ?_)
  split <;> exact draws_of_same rfl rfl

theorem drain_draws (n : Nat) (s : Supervisor) : Draws s (drain n s) := by
  obtain ⟨t, ht, heq⟩ := drain_flushes n s
  rw [heq]
  exact ht.trans (flushSequence_draws t)

/-- Starting loads the generator, or leaves it as it was. A load takes the checkpoint, which had
room, as the counter's floor. -/
theorem start_draws (s : Supervisor) : Draws s s.start.1 := by
  by_cases hc : s.state = .created
  · unfold start
    rw [if_neg (by simp [hc])]
    dsimp only
    intro hr
    split
    · next e he =>
      exact ⟨⟨hr.keys, hr.distinct⟩, [], (Move.loadFailed he).run, fun n hn => .inl hn,
        fun hroom => ⟨hroom, [], rfl⟩⟩
    · next p g he =>
      refine ⟨⟨hr.keys, hr.distinct⟩, [], (Move.load he).run, fun n hn => .inl hn,
        fun hroom => ⟨?_, [], rfl⟩⟩
      obtain ⟨⟨t, ht, hp⟩, -, rfl⟩ := load_eq_ok_iff.1 he
      have ht' : CursorStore.get s.world.store sequenceKey = .ok t := ht
      have hh : Holds s.world.store p := by
        unfold Holds
        rw [MemoryStore.entries_of_get ht']
        exact hp
      have hv := hroom.checkpoint p hh
      refine ⟨fun _ => hv, fun q hq => ?_⟩
      obtain rfl := hq.unique hh
      show max (max s.world.sequence.value q) q + s.world.remaining ≤ sequenceMax
      omega
  · rw [start_refused hc]
    exact Draws.refl s

/-- A call from outside that leaves the world to the supervisor, but for the store's failure
switches: a change of the world keeps all of it but the store, and the store's entries. -/
def Call.Admissible : Call → Prop
  | .world f => ∀ world, { f world with store := world.store } = world ∧
      (f world).store.entries = world.store.entries
  | _ => True

theorem Call.draws {c : Call} (hc : c.Admissible) (s : Supervisor) : Draws s (c.apply s) := by
  cases c with
  | start => exact start_draws s
  | runUntil deadline fuel =>
    show Draws s (s.runUntil deadline fuel).1
    rw [runUntil_eq]
    exact (respects_draws.go deadline fuel s).trans
      ((drain_draws fuel _).trans (draws_of_same rfl rfl))
  | shutdown fuel =>
    show Draws s (s.shutdown fuel)
    unfold Supervisor.shutdown
    split
    · exact Draws.refl s
    · exact (drain_draws fuel s).trans (draws_of_same rfl rfl)
  | pause fuel ms => exact respects_draws.sleepUntil _ _ s
  | world f =>
    obtain ⟨hf, he⟩ := hc s.world
    obtain ⟨hs, ha, hp, hsrc⟩ := keeps_of_store_back hf
    exact draws_of_frame rfl hs he (by simp only [apply, stamped, ha, hp]) hsrc

/-- The supervisor `s` is `s₀` after calls from outside that leave the world to the supervisor,
but for the store's failure switches. -/
def Called (s₀ s : Supervisor) : Prop :=
  ∃ cs : List Call, (∀ c ∈ cs, c.Admissible) ∧ s = applyAll s₀ cs

/-- Whether a call drains the supervisor: `runUntil` always does, `shutdown` unless the
supervisor already reached a final state. -/
def Call.Drains (c : Call) (s : Supervisor) : Prop :=
  (∃ deadline fuel, c = .runUntil deadline fuel) ∨
    ∃ fuel, c = .shutdown fuel ∧ s.state.isFinal = false

/-- The supervisor `s` is `s₀` after such calls, the last of which drained it. -/
def Drained (s₀ s : Supervisor) : Prop :=
  ∃ (t : Supervisor) (c : Call), Called s₀ t ∧ c.Drains t ∧ s = c.apply t

theorem Called.draws {s₀ s : Supervisor} (h : Called s₀ s) : Draws s₀ s := by
  obtain ⟨cs, hcs, rfl⟩ := h
  induction cs generalizing s₀ with
  | nil => exact Draws.refl s₀
  | cons c cs ih =>
    exact (Call.draws (hcs c List.mem_cons_self) s₀).trans
      (ih fun c' hc' => hcs c' (List.mem_cons_of_mem c hc'))

/-- A drained supervisor is, but for its state, the flush that ended its drain. -/
theorem Drained.flushes {s₀ s : Supervisor} (h : Drained s₀ s) :
    ∃ t st, Draws s₀ t ∧ s = t.flushSequence.setState st := by
  obtain ⟨t, c, ht, hc, rfl⟩ := h
  rcases hc with ⟨deadline, fuel, rfl⟩ | ⟨fuel, rfl, hf⟩
  · obtain ⟨t', ht', heq⟩ := drain_flushes fuel (runUntil.go deadline fuel t).1
    refine ⟨t', if (runUntil.go deadline fuel t).2.isSome then .failed else .stopped,
      ht.draws.trans ((respects_draws.go deadline fuel t).trans ht'), ?_⟩
    show (t.runUntil deadline fuel).1 = _
    rw [runUntil_eq, heq]
  · obtain ⟨t', ht', heq⟩ := drain_flushes fuel t
    refine ⟨t', .stopped, ht.draws.trans ht', ?_⟩
    show t.shutdown fuel = _
    rw [Supervisor.shutdown, if_neg (by simp [hf]), heq]

/-! ## The final checkpoint -/

/-- A supervisor as it is built: a fresh generator, nothing offered to the publisher, every
worker about to load its cursor, and partitions as the configuration's checks leave them. -/
structure Fresh (s : Supervisor) : Prop where
  sequence : s.world.sequence = {}
  attempts : s.world.attempts = []
  published : s.world.published = []
  load : ∀ w ∈ s.workers, w.phase = .load
  reserved : s.Reserved

theorem Fresh.not_stamped {s : Supervisor} (h : s.Fresh) (n : Nat) : ¬ Stamped s n := by
  rintro (hn | ⟨w, hw, hn⟩)
  · simp [stamped, h.attempts, h.published] at hn
  · simp [Worker.held, h.load w hw, Phase.held] at hn

/-- The checkpoint a drain leaves. From a supervisor as built, after calls from outside the last
of which drained it: when the counter had room for every event of the sources, the generator was
loaded and the store takes the final write, the store holds a checkpoint at least every number
stamped in the run, and a new supervisor started on that store, with room of its own, stamps only
larger numbers; and when the generator was never loaded, the checkpoint is as the run found it. -/
theorem final_checkpoint {s₀ s : Supervisor} (h₀ : s₀.Fresh) (hs : Drained s₀ s) :
    (s₀.world.Room → s.world.sequence.loaded = true → s.world.store.failWrites = false →
      ∃ v, Holds s.world.store v ∧ (∀ n, Stamped s n → n ≤ v) ∧
        ∀ {t₀ t : Supervisor}, t₀.Fresh → t₀.world.store = s.world.store → t₀.world.Room →
          Called t₀ t → ∀ m, Stamped t m → ∀ n, Stamped s n → n < m) ∧
    (s.world.sequence.loaded = false →
      s.world.store.entries.get? sequenceKey = s₀.world.store.entries.get? sequenceKey) := by
  obtain ⟨t, st, hdraw, rfl⟩ := hs.flushes
  obtain ⟨-, as, hrun, hans, hroom⟩ := hdraw h₀.reserved
  rcases hf : t.world.sequence.flush t.world.store with ⟨store', r, g'⟩
  obtain ⟨hsw, hgl, -, hok⟩ := flush_writable hf
  have hworld : (t.flushSequence.setState st).world =
      { t.world with store := store', sequence := g' } := by
    simp only [setState, flushSequence, hf]
  have hstamped : ∀ n, Stamped (t.flushSequence.setState st) n → Stamped t n := by
    intro n hn
    unfold Stamped at hn
    rw [hworld] at hn
    exact hn
  have hstart : s₀.world.generator = (({} : Sequence), s₀.world.store) := by
    simp only [generator, h₀.sequence]
  rw [hstart] at hrun
  refine ⟨fun hr hl hw => ?_, fun hl => ?_⟩
  · rw [hworld] at hl hw ⊢
    obtain ⟨-, ns, rfl⟩ := hroom hr
    have hlt : t.world.sequence.loaded = true := hgl ▸ hl
    obtain ⟨b, rfl⟩ := hok (hsw ▸ hw)
    have hv : Holds store' t.world.sequence.value :=
      flush_ok_holds hf (hrun.agrees (agrees_fresh _)) hlt
    have hle : ∀ n, Stamped (t.flushSequence.setState st) n → n ≤ t.world.sequence.value := by
      intro n hn
      rcases hans n (hstamped n hn) with h | h
      · exact absurd h (h₀.not_stamped n)
      · exact (hrun.issued_le.2 n (by simpa using h)).2
    refine ⟨t.world.sequence.value, hv, hle, @fun t₀ t' ht₀ hstore hroom₀ hcall m hm n hn => ?_⟩
    obtain ⟨-, ms, hrun₀, hans₀, hroom₀'⟩ := hcall.draws ht₀.reserved
    obtain ⟨-, ms, rfl⟩ := hroom₀' hroom₀
    have hstart₀ : t₀.world.generator = (({} : Sequence), store') := by
      rw [generator, ht₀.sequence, hstore]
    rw [hstart₀] at hrun₀
    have hm' : m ∈ ms := by
      rcases hans₀ m hm with h | h
      · exact absurd h (ht₀.not_stamped m)
      · simpa using h
    have habove := (hrun₀.above (v := t.world.sequence.value)
      ⟨fun _ => hv, fun h => Bool.noConfusion h⟩).2 m hm'
    exact Nat.lt_of_le_of_lt (hle n hn) habove
  · rw [hworld] at hl ⊢
    exact (hrun.append (Move.flush hf).run).key_of_unloaded hl

/-- A run of `start`, then `runUntil`, drains the supervisor. -/
theorem drained_runUntil (s : Supervisor) (deadline fuel : Nat) :
    Drained s (s.start.1.runUntil deadline fuel).1 :=
  ⟨s.start.1, .runUntil deadline fuel, ⟨[.start], by simp [Call.Admissible], rfl⟩,
    .inl ⟨deadline, fuel, rfl⟩, rfl⟩

/-- A row created in the table `orders`, as a relational capture reports it. -/
def rowEvent (id : String) : SourceEvent :=
  .relational .create "orders" none (some (Json.mkObj [("id", .str id)])) 1000

/-- A batch of one row, with the cursor after it. -/
def rowCue (id cursor : String) : Cue :=
  { reply := .batch { events := [rowEvent id], nextCursor := some cursor } }

/-- A supervisor as built over one partition whose source plays `script`, on a store holding
`entries`, with the intervals of the test configuration. -/
def scripted (entries : Entries) (script : List Cue) : Supervisor :=
  { world := { wallMs := 0, store := { entries }
               sources := [{ partition := "p0", script }]
               stopWhenDone := false }
    workers := [Worker.new "src" "p0" ⟨10000000⟩ ⟨⟨5000000⟩, ⟨50000000⟩, 2.0⟩]
    flushInterval := ⟨20000000⟩, shutdownTimeout := ⟨1000000000⟩, budget := 16 }

theorem scripted_fresh (entries : Entries) (script : List Cue) :
    (scripted entries script).Fresh where
  sequence := rfl
  attempts := rfl
  published := rfl
  load w hw := by
    simp only [scripted, List.mem_singleton] at hw
    subst hw
    rfl
  reserved :=
    ⟨fun w hw => by
      simp only [scripted, List.mem_singleton] at hw
      subst hw
      decide, by simp [World.Distinct, scripted]⟩

/-- One row over an empty store: the counter has room, the run loads the generator and stamps the
row, and the final checkpoint covers its number. -/
theorem final_checkpoint_one_row :
    (scripted [] [rowCue "1" "T1"]).world.Room ∧
      ∃ v, Holds ((scripted [] [rowCue "1" "T1"]).start.1.runUntil 5000000000 1).1.world.store v ∧
        ∀ n, Stamped ((scripted [] [rowCue "1" "T1"]).start.1.runUntil 5000000000 1).1 n → n ≤ v := by
  have hroom : (scripted [] [rowCue "1" "T1"]).world.Room := by
    refine ⟨fun h => Bool.noConfusion h, fun p hp => ?_⟩
    have hp' : some 0 = some p := hp
    obtain rfl := Option.some.inj hp'
    decide +kernel
  obtain ⟨v, hv, hle, -⟩ := (final_checkpoint (scripted_fresh _ _)
    (drained_runUntil _ 5000000000 1)).1 hroom (by decide +kernel) (by decide +kernel)
  exact ⟨hroom, v, hv, hle⟩

/-- Without room in the counter the final checkpoint falls below a stamped number: from the
checkpoint one below the largest value, the second row finds the counter at its largest value,
which wraps to 0 and faults the worker, and the drain writes 0, although the first row was
published with the largest value. -/
theorem checkpoint_below_stamped :
    ¬ (scripted [("sequence", "18446744073709551614")] [rowCue "1" "T1", rowCue "2" "T2"]).world.Room ∧
      let s := ((scripted [("sequence", "18446744073709551614")]
        [rowCue "1" "T1", rowCue "2" "T2"]).start.1.runUntil 5000000000 1).1
      s.world.sequence.loaded = true ∧ s.world.store.failWrites = false ∧ Holds s.world.store 0 ∧
        Stamped s sequenceMax := by
  refine ⟨fun h => ?_, by decide +kernel, by decide +kernel, by unfold Holds; decide +kernel,
    .inl (by decide +kernel)⟩
  have := h.checkpoint 18446744073709551614 (by unfold Holds; decide +kernel)
  exact absurd this (by decide +kernel)

end Supervisor

end ChangeRelay
