import ChangeRelay.Proofs.Sequence.Checkpoint
import ChangeRelay.Proofs.Worker.Cursor
import ChangeRelay.Proofs.Worker.Stamp
import Mathlib

/-!
# The numbers a worker stamps, as calls of the generator

Every change a worker publishes carries a number drawn from the sequence generator that the
workers share. Seen from the generator and its store, whatever a worker does is a sequential run
of the checkpoint's theory (`Sequence.Run`): stamping a batch calls `next` once for each change,
and every write of the worker goes under its own partition, which is not the checkpoint's key.
`Moves.draws` proves this projection for every move of a worker, so what is proved of sequential
runs holds of the workers too.

* `Worker.held` and `World.stamped` are the numbers stamped so far: on the batch a worker holds
  for its next offer, on the batches offered to the publisher, and on those it published.
* `World.Room`: the counter has room for a number for every event the sources have yet to
  deliver. The guard is needed: past the counter's largest value the stamping fails and the
  counter starts again from 0, so that later numbers repeat earlier ones.
-/

namespace ChangeRelay

open Store Sequence

/-- The events a reply of a source delivers. -/
def Reply.events : Reply → Nat
  | .batch b => b.events.length
  | _ => 0

/-- The events a source's script has yet to deliver. -/
def ScriptedSource.events (src : ScriptedSource) : Nat := (src.script.map (·.reply.events)).sum

namespace World

/-- The events the sources have yet to deliver. -/
def remaining (world : World) : Nat := (world.sources.map ScriptedSource.events).sum

/-- No two sources answer for the same partition. -/
def Distinct (world : World) : Prop := (world.sources.map (·.partition)).Nodup

/-- The generator and its store, as the runs of the checkpoint's theory see them. -/
def generator (world : World) : Sequence × MemoryStore := (world.sequence, world.store)

/-- The numbers on the batches offered to the publisher and on the batches it published. -/
def stamped (world : World) : List Nat :=
  world.attempts.flatMap (·.sequences) ++ world.published.flatMap fun b => b.2.map (·.sequence)

/-- The counter has room for a number for every event the sources have yet to deliver: past its
value once it is loaded, and past the checkpoint that a load would take. -/
structure Room (world : World) : Prop where
  counter : world.sequence.loaded = true → world.sequence.value + world.remaining ≤ sequenceMax
  checkpoint : ∀ p, Holds world.store p →
    max world.sequence.value p + world.remaining ≤ sequenceMax

@[simp] theorem applyCue_sources (world : World) (q : Cue) :
    (world.applyCue q).sources = world.sources := rfl

variable {world world' : World}

/-- Room is a matter of the counter, the checkpoint and the events left. -/
theorem Room.of_frame (h : world.Room) (hs : world'.sequence = world.sequence)
    (hk : world'.store.entries.get? sequenceKey = world.store.entries.get? sequenceKey)
    (hr : world'.remaining ≤ world.remaining) : world'.Room where
  counter hl := by
    have := h.counter (hs ▸ hl)
    rw [hs]
    omega
  checkpoint p hp := by
    have := h.checkpoint p ((holds_congr hk p).1 hp)
    rw [hs]
    omega

/-- Playing the first cue of a partition's source takes that cue's events from the sources,
when no other source answers for the partition. -/
theorem events_played {srcs : List ScriptedSource} {p : String} {src : ScriptedSource} {q : Cue}
    {rest : List Cue} (hd : (srcs.map (·.partition)).Nodup)
    (hf : srcs.find? (·.partition == p) = some src) (hs : src.script = q :: rest) :
    ((srcs.map fun s => if s.partition == p then { s with script := rest } else s).map
        ScriptedSource.events).sum + q.reply.events = (srcs.map ScriptedSource.events).sum := by
  induction srcs with
  | nil => simp at hf
  | cons x xs ih =>
    rw [List.map_cons, List.nodup_cons] at hd
    by_cases hx : x.partition = p
    · simp only [List.find?_cons, hx, beq_self_eq_true, Option.some.injEq] at hf
      subst hf
      have hxs :
          (xs.map fun s => if s.partition == p then { s with script := rest } else s) = xs := by
        refine (List.map_congr_left fun y hy => if_neg ?_).trans (List.map_id' xs)
        rintro hyp
        exact hd.1 (List.mem_map.2 ⟨y, hy, by rw [beq_iff_eq] at hyp; rw [hyp, hx]⟩)
      simp only [List.map_cons, hx, beq_self_eq_true, if_true, hxs, List.sum_cons,
        ScriptedSource.events, hs]
      omega
    · have hf' : xs.find? (·.partition == p) = some src := by
        simpa [List.find?_cons, hx] using hf
      simp only [List.map_cons, beq_iff_eq, hx, if_false, List.sum_cons]
      have := ih hd.2 hf'
      simp only [beq_iff_eq] at this
      omega

/-- A pull plays at most one cue of the scripts, and its reply delivers that cue's events. -/
theorem pull_remaining {p : String} {c : Option String} {r : Reply} (hd : world.Distinct)
    (h : world.pull p c = (r, world')) :
    world'.Distinct ∧ world'.remaining + r.events ≤ world.remaining := by
  unfold pull source? at h
  dsimp only at h
  split at h
  · next src hf =>
    split at h
    · next q rest hs =>
      simp only [Prod.mk.injEq] at h
      obtain ⟨rfl, rfl⟩ := h
      constructor
      · have hp : ∀ s : ScriptedSource,
            (if s.partition == p then { s with script := rest } else s).partition =
              s.partition := by
          intro s
          split <;> rfl
        simp only [Distinct, applyCue_sources, List.map_map, Function.comp_def, hp]
        exact hd
      · have := events_played hd hf hs
        simp only [remaining, applyCue_sources]
        omega
    · next hs =>
      simp only [Prod.mk.injEq] at h
      obtain ⟨rfl, rfl⟩ := h
      split <;> exact ⟨hd, by simp [Reply.events, remaining]⟩
  · next hf =>
    simp only [Prod.mk.injEq] at h
    obtain ⟨rfl, rfl⟩ := h
    exact ⟨hd, by simp [Reply.events, remaining]⟩

/-! ## Changes of the world that the generator does not see -/

/-- A change of the world that the generator does not see: the counter and the checkpoint stay,
the numbers on record grow by at most `offered`, and the sources keep their partitions and
deliver no event they did not have. -/
structure Frame (world world' : World) (offered : List Nat) : Prop where
  sequence : world'.sequence = world.sequence
  checkpoint : world'.store.entries.get? sequenceKey = world.store.entries.get? sequenceKey
  stamped : ∀ n ∈ world'.stamped, n ∈ world.stamped ∨ n ∈ offered
  sources : world.Distinct → world'.Distinct ∧ world'.remaining ≤ world.remaining

theorem Frame.refl (world : World) : Frame world world [] where
  sequence := rfl
  checkpoint := rfl
  stamped _ h := .inl h
  sources h := ⟨h, Nat.le_refl _⟩

theorem Frame.trans {world₁ world₂ world₃ : World} {o₁ o₂ : List Nat} (h₁ : Frame world₁ world₂ o₁)
    (h₂ : Frame world₂ world₃ o₂) : Frame world₁ world₃ (o₁ ++ o₂) where
  sequence := h₂.sequence.trans h₁.sequence
  checkpoint := h₂.checkpoint.trans h₁.checkpoint
  stamped n hn := by
    rcases h₂.stamped n hn with h | h
    · rcases h₁.stamped n h with h' | h'
      · exact .inl h'
      · exact .inr (List.mem_append_left _ h')
    · exact .inr (List.mem_append_right _ h)
  sources hd := by
    obtain ⟨hd₂, hr₂⟩ := h₁.sources hd
    obtain ⟨hd₃, hr₃⟩ := h₂.sources hd₂
    exact ⟨hd₃, Nat.le_trans hr₃ hr₂⟩

/-- To the generator such a change is another caller that leaves the checkpoint alone. -/
theorem Frame.move {o : List Nat} (h : Frame world world' o) :
    Move world.generator [] world'.generator := by
  show Move (world.sequence, world.store) [] (world'.sequence, world'.store)
  rw [h.sequence]
  exact .other h.checkpoint

theorem Frame.room {o : List Nat} (h : Frame world world' o) (hd : world.Distinct)
    (hr : world.Room) : world'.Room :=
  hr.of_frame h.sequence h.checkpoint (h.sources hd).2

variable {p : String} {c : Option String} {r : Reply}

theorem stamped_of_pull (h : world.pull p c = (r, world')) : world'.stamped = world.stamped := by
  simp only [stamped, attempts_of_pull h, published_of_pull h]

/-- A pull sets at most the store's failure switches. -/
theorem frame_of_pull (h : world.pull p c = (r, world')) : Frame world world' [] where
  sequence := sequence_of_pull h
  checkpoint := by rw [entries_of_pull h]
  stamped n hn := .inl (stamped_of_pull h ▸ hn)
  sources hd := by
    obtain ⟨hd', hr⟩ := pull_remaining hd h
    exact ⟨hd', by omega⟩

variable {topic : String} {ns : List Notification} {d : Delivery}

/-- A publish attempt stamps nothing: it offers, and may publish, the numbers of its batch. -/
theorem frame_of_publish (h : world.publish p topic ns = (d, world')) :
    Frame world world' (ns.map (·.sequence)) where
  sequence := sequence_of_publish h
  checkpoint := by rw [store_of_publish h]
  stamped n hn := by
    simp only [stamped, attempts_of_publish h, published_of_publish h] at hn ⊢
    split at hn <;> simp only [List.flatMap_append, List.mem_append, List.flatMap_cons,
      List.flatMap_nil, List.append_nil] at hn ⊢ <;> grind
  sources hd := by
    obtain ⟨_, rfl⟩ := world_of_publish h
    split <;> exact ⟨hd, Nat.le_refl _⟩

end World

namespace Sequence

/-- Two sequential runs, one after the other, are one. -/
theorem Run.append {x y z : Sequence × MemoryStore} {as bs : List (Except String Nat)}
    (h₁ : Run x as y) (h₂ : Run y bs z) : Run x (as ++ bs) z := by
  induction h₂ with
  | refl => simpa using h₁
  | tail _ hm ih => simpa [List.append_assoc] using ih.tail hm

end Sequence

/-- The numbers of the batch a phase holds for the publisher. -/
def Phase.held : Phase → List Nat
  | .publish ns _ _ => ns.map (·.sequence)
  | .load | .top | .pull | .hung | .finished _ | .panicked _ => []

namespace Worker

open World

/-- The numbers of the batch a worker holds for its next offer to the publisher. -/
def held (w : Worker) : List Nat := w.phase.held

variable {w : Worker} {world world' : World}

/-- A write of the worker's cursor goes under its partition, which is not the checkpoint's key. -/
theorem frame_of_persist {c : String} {failed : Bool} (hk : w.partition ≠ sequenceKey)
    (h : w.persist world c = (failed, world')) : Frame world world' [] where
  sequence := by rw [world_of_persist h]
  checkpoint := by
    rcases entries_of_persist h with he | he
    · rw [he]
    · rw [he, Entries.get?_put_of_ne _ _ (Ne.symm hk)]
  stamped n hn := by
    rw [world_of_persist h] at hn
    exact .inl hn
  sources hd := by
    rw [world_of_persist h]
    exact ⟨hd, Nat.le_refl _⟩

/-- A token of the rate limiter changes only the limiter. -/
theorem Admits.frame (h : Admits world world') : Frame world world' [] := by
  obtain rfl | ⟨l, rfl⟩ := h
  · exact .refl _
  · exact { sequence := rfl, checkpoint := rfl, stamped := fun _ h => .inl h,
            sources := fun h => ⟨h, Nat.le_refl _⟩ }

variable (w) (b : SourceBatch)

/-- Stamping one event: no call of the generator, or one call of `next`, whose answer is the
number the change gets. -/
theorem stampStep_run {acc acc' : Except String (List Notification) × World} {ev : SourceEvent}
    (h : w.stampStep b acc ev = some acc') :
    ∃ as, Run acc.2.generator as acc'.2.generator ∧
      ∀ ns ns', acc.1 = .ok ns → acc'.1 = .ok ns' →
        ∃ k, ns' = ns ++ k ∧ as = (k.map (·.sequence)).map .ok := by
  obtain ⟨r, world⟩ := acc
  cases r with
  | error m =>
    cases h
    exact ⟨[], .refl, fun _ _ h => by cases h⟩
  | ok ns =>
    simp only [stampStep] at h
    split at h
    · split at h
      · next n g hn =>
        cases h
        refine ⟨[.ok n], (Move.next hn).run, ?_⟩
        rintro ns₁ ns' ⟨⟩ ⟨⟩
        exact ⟨_, rfl, rfl⟩
      · next m g hn =>
        cases h
        exact ⟨[.error m], (Move.next hn).run, fun _ _ _ h => by cases h⟩
      · cases h
    · cases h
      exact ⟨[], .refl, fun ns₁ ns' h h' => ⟨[], by simp_all, rfl⟩⟩

theorem foldl_stampStep_run (evs : List SourceEvent) :
    ∀ {acc acc' : Except String (List Notification) × World},
      evs.foldlM (w.stampStep b) acc = some acc' →
      ∃ as, Run acc.2.generator as acc'.2.generator ∧
        ∀ ns ns', acc.1 = .ok ns → acc'.1 = .ok ns' →
          ∃ k, ns' = ns ++ k ∧ as = (k.map (·.sequence)).map .ok := by
  induction evs with
  | nil =>
    intro acc acc' h
    cases h
    exact ⟨[], .refl, fun ns ns' h h' => ⟨[], by simp_all, rfl⟩⟩
  | cons ev evs ih =>
    intro acc acc' h
    rw [List.foldlM_cons] at h
    obtain ⟨acc₁, h₁, h₂⟩ := Option.bind_eq_some_iff.1 h
    obtain ⟨as₁, hrun₁, hk₁⟩ := stampStep_run w b h₁
    obtain ⟨as₂, hrun₂, hk₂⟩ := ih h₂
    refine ⟨as₁ ++ as₂, hrun₁.append hrun₂, fun ns ns' h h' => ?_⟩
    cases hm : acc₁.1 with
    | error m =>
      rw [show acc₁ = (.error m, acc₁.2) from Prod.ext hm rfl, foldl_stampStep_error] at h₂
      cases h₂
      cases h'
    | ok ns₁ =>
      obtain ⟨k₁, rfl, rfl⟩ := hk₁ ns ns₁ h hm
      obtain ⟨k₂, rfl, rfl⟩ := hk₂ _ ns' hm h'
      exact ⟨k₁ ++ k₂, by simp, by simp⟩

/-- Stamping a batch is a run of calls of `next`, whose answers are the numbers stamped when the
stamping succeeds. -/
theorem stamp_run {world world' : World} {r : Except String (List Notification)}
    (h : w.stamp world b = some (r, world')) :
    ∃ as, Run world.generator as world'.generator ∧
      ∀ ns, r = .ok ns → as = (ns.map (·.sequence)).map .ok := by
  obtain ⟨as, hrun, hk⟩ := foldl_stampStep_run w b b.events h
  refine ⟨as, hrun, fun ns hns => ?_⟩
  obtain ⟨k, rfl, rfl⟩ := hk [] ns rfl hns
  rfl

/-! ## Moves of a worker, seen from the generator -/

/-- What a stretch of a worker's moves does to the generator and to the numbers stamped on
changes: the generator and its store take a sequential run, whose calls of `next` answered every
number stamped on the way; with room in the counter they answered numbers only, and the counter
keeps its room. -/
structure Draws (x y : Worker × World) (as : List (Except String Nat)) : Prop where
  run : Run x.2.generator as y.2.generator
  answered : ∀ n ∈ y.1.held ++ y.2.stamped, n ∈ x.1.held ++ x.2.stamped ∨ .ok n ∈ as
  room : x.2.Room → y.2.Room ∧ ∃ ns : List Nat, as = ns.map .ok

variable {w}

/-- A stretch whose world changes as a frame, offering only numbers the worker held. -/
theorem draws_of_frame {x y : Worker × World} {offered : List Nat} (hf : Frame x.2 y.2 offered)
    (hd : x.2.Distinct) (ho : ∀ n ∈ offered, n ∈ x.1.held) (hh : ∀ n ∈ y.1.held, n ∈ x.1.held) :
    Draws x y [] where
  run := by simpa using hf.move.run
  answered n hn := by
    refine .inl ?_
    rcases List.mem_append.1 hn with h | h
    · exact List.mem_append_left _ (hh n h)
    · rcases hf.stamped n h with h' | h'
      · exact List.mem_append_right _ h'
      · exact List.mem_append_left _ (ho n h')
  room hr := ⟨hf.room hd hr, [], rfl⟩

theorem Draws.refl (x : Worker × World) : Draws x x [] where
  run := .refl
  answered _ h := .inl h
  room hr := ⟨hr, [], rfl⟩

theorem Draws.trans {x y z : Worker × World} {as bs : List (Except String Nat)}
    (h₁ : Draws x y as) (h₂ : Draws y z bs) : Draws x z (as ++ bs) where
  run := h₁.run.append h₂.run
  answered n hn := by
    rcases h₂.answered n hn with hy | hb
    · rcases h₁.answered n hy with hx | ha
      · exact .inl hx
      · exact .inr (List.mem_append_left _ ha)
    · exact .inr (List.mem_append_right _ hb)
  room hx := by
    obtain ⟨hy, ns₁, rfl⟩ := h₁.room hx
    obtain ⟨hz, ns₂, rfl⟩ := h₂.room hy
    exact ⟨hz, ns₁ ++ ns₂, by simp⟩

/-- Pulling a batch and stamping it, seen from the generator: one call of `next` for each
change, answering the numbers stamped, of which the worker after holds some. With room in the
counter before the pull the stamping succeeds: the batch's changes are at most its events, which
the room counted. -/
theorem pull_stamp {w' : Worker} {world₁ world₂ : World} {b : SourceBatch}
    {r : Except String (List Notification)} (hd : world.Distinct)
    (hp : world.pull w.partition w.cursor = (.batch b, world₁))
    (hs : w.stamp world₁ b = some (r, world₂))
    (hh : ∀ n ∈ w'.held, ∃ ns, r = .ok ns ∧ n ∈ ns.map (·.sequence)) :
    world₂.Distinct ∧ ∃ as, Draws (w, world) (w', world₂) as := by
  obtain ⟨hd₁, hr₁⟩ := pull_remaining hd hp
  have hw₂ := world_of_stamp hs
  refine ⟨by rw [hw₂]; exact hd₁, ?_⟩
  obtain ⟨as, hrun, hans⟩ := stamp_run w b hs
  have hf := frame_of_pull hp
  refine ⟨as, ⟨by simpa using hf.move.run.append hrun, fun n hn => ?_, fun hroom => ?_⟩⟩
  · rcases List.mem_append.1 hn with h | h
    · obtain ⟨ns, rfl, hn'⟩ := hh n h
      exact .inr (by rw [hans ns rfl]; exact List.mem_map_of_mem hn')
    · rw [hw₂] at h
      rcases hf.stamped n h with h' | h'
      · exact .inl (List.mem_append_right _ h')
      · cases h'
  · change world.Room at hroom
    have hroom₁ : world₁.Room := hroom.of_frame hf.sequence hf.checkpoint (by
      simp only [Reply.events] at hr₁
      omega)
    have hv := hroom.counter
    have hc := hroom.checkpoint
    rw [← hf.sequence] at hv hc
    cases hl : world₁.sequence.loaded with
    | false =>
      have hu := foldl_stampStep_unloaded w b b.events [] world₁ hl
      rw [← stamp_eq, hs] at hu
      have hr : (r, world₂) = (.ok [], world₁) := by
        split at hu
        · exact Option.some.inj hu
        · cases hu
      obtain ⟨rfl, rfl⟩ := Prod.mk.inj hr
      obtain rfl : as = [] := by simpa using hans [] rfl
      exact ⟨hroom₁, [], rfl⟩
    | true =>
      have hcount : (b.changes world₁.wallMs).length ≤ b.events.length :=
        List.length_filterMap_le _ _
      have hv := hv hl
      simp only [Reply.events] at hr₁
      rw [stamp_of_le w b world₁ hl (fun _ => by omega)] at hs
      obtain ⟨rfl, rfl⟩ := Prod.mk.inj (Option.some.inj hs)
      refine ⟨⟨fun _ => ?_, fun q hq => ?_⟩, _, hans _ rfl⟩
      · show world₁.sequence.value + _ + world₁.remaining ≤ sequenceMax
        omega
      · have := hc q ((holds_congr hf.checkpoint q).1 hq)
        show max (world₁.sequence.value + _) q + world₁.remaining ≤ sequenceMax
        omega

/-- A worker that stops draws nothing. -/
theorem draws_stop (hd : world.Distinct) : Draws (w, world) (w.stop, world) [] :=
  draws_of_frame (.refl _) hd (by simp) (by simp [Worker.held, Phase.held])

/-- A move whose world changes as a frame keeps the partitions apart and draws nothing, when it
offers only numbers the worker held and leaves the worker holding no others. -/
theorem frame_draws {w' : Worker} {offered : List Nat} (hf : Frame world world' offered)
    (hd : world.Distinct) (ho : ∀ n ∈ offered, n ∈ w.held) (hh : ∀ n ∈ w'.held, n ∈ w.held) :
    world'.Distinct ∧ ∃ as, Draws (w, world) (w', world') as :=
  ⟨(hf.sources hd).1, [], draws_of_frame hf hd ho hh⟩

/-- One step of a worker, seen from the generator: a sequential run whose calls of `next`
answered every number the step stamped. -/
theorem Step.draws {w' : Worker} {o : Option Wait} (h : Step w world w' world' o)
    (hk : w.partition ≠ sequenceKey) (hd : world.Distinct) :
    world'.Distinct ∧ ∃ as, Draws (w, world) (w', world') as := by
  cases h with
  | loadFailed | loaded =>
    exact frame_draws (.refl _) hd (by simp) (by simp [Worker.held, Phase.held])
  | stopped => exact ⟨hd, [], draws_stop hd⟩
  | stuck | ended => exact ⟨hd, [], .refl _⟩
  | rewrote _ _ _ _ hw ha =>
    exact frame_draws ((frame_of_persist hk hw).trans ha.frame) hd (by simp)
      (by simp [Worker.held, Phase.held])
  | admitted _ _ _ ha =>
    exact frame_draws ha.frame hd (by simp) (by simp [Worker.held, Phase.held])
  | pullPanicked _ _ hp | pullFaulted _ _ hp _ | backedOff _ _ hp _ _
  | backoffPanicked _ _ hp _ _ | idled _ _ hp _ _ | stalled _ _ hp _ _ | drawWaits _ _ hp _ _ _ _ =>
    exact frame_draws (frame_of_pull hp) hd (by simp) (by simp [Worker.held, Phase.held])
  | bookmarked _ _ hp _ _ _ hw =>
    exact frame_draws ((frame_of_pull hp).trans (frame_of_persist hk hw)) hd (by simp)
      (by simp [Worker.held, Phase.held])
  | stampPanicked _ _ hp _ _ _ hs => exact pull_stamp hd hp hs (by simp [Worker.held, Phase.held])
  | @unmapped _ world₂ _ _ c failed _ _ hp _ _ _ hs hw =>
    obtain ⟨hd₂, as, hx⟩ : world₂.Distinct ∧ ∃ as, Draws (w, world) ({ w with
        backoff := w.backoff.reset, unpersisted := failed, cursor := some c, phase := .top },
        world₂) as :=
      pull_stamp hd hp hs (by simp [Worker.held, Phase.held])
    obtain ⟨hd', bs, hy⟩ := frame_draws (frame_of_persist hk hw) hd₂ (by simp) fun _ h => h
    exact ⟨hd', as ++ bs, hx.trans hy⟩
  | held _ _ hp _ _ _ hs _ =>
    exact pull_stamp hd hp hs fun n hn => ⟨_, rfl, by simpa [Worker.held, Phase.held] using hn⟩
  | acknowledged hph h₁ h₂ =>
    exact frame_draws ((frame_of_publish h₁).trans (frame_of_persist hk h₂)) hd
      (by simp [Worker.held, Phase.held, hph]) (by simp [Worker.held, Phase.held])
  | acknowledgedAlone hph h₁ | hung hph h₁ | refusalPanicked hph h₁ _ =>
    exact frame_draws (frame_of_publish h₁) hd (by simp [Worker.held, Phase.held, hph])
      (by simp [Worker.held, Phase.held])
  | refused hph h₁ _ =>
    exact frame_draws (frame_of_publish h₁) hd (by simp [Worker.held, Phase.held, hph])
      (by simp [Worker.held, Phase.held, hph])

theorem Moves.draws {w' : Worker} (h : Moves w world w' world') (hk : w.partition ≠ sequenceKey)
    (hd : world.Distinct) : world'.Distinct ∧ ∃ as, Draws (w, world) (w', world') as := by
  cases h with
  | step hs => exact (step_spec hs).draws hk hd
  | stop => exact ⟨hd, [], draws_stop hd⟩

/-- A chain of moves of a worker draws from the generator as one sequential run, and keeps the
worker's partition. -/
theorem chain_draws {x y : Worker × World}
    (h : Relation.ReflTransGen (fun a b : Worker × World => Moves a.1 a.2 b.1 b.2) x y)
    (hk : x.1.partition ≠ sequenceKey) (hd : x.2.Distinct) :
    y.1.partition = x.1.partition ∧ y.2.Distinct ∧ ∃ as, Draws x y as := by
  induction h with
  | refl => exact ⟨rfl, hd, [], .refl _⟩
  | tail _ hm ih =>
    obtain ⟨hp, hd', as, hx⟩ := ih
    obtain ⟨hd'', bs, hy⟩ := hm.draws (hp ▸ hk) hd'
    exact ⟨hm.partition.trans hp, hd'', as ++ bs, hx.trans hy⟩

end Worker

end ChangeRelay
