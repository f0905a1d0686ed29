import Mathlib.Data.List.Sort
import Mathlib.Data.String.Basic
import ChangeRelay.Relay.ControlPlane
import ChangeRelay.Proofs.Basic

/-!
# The keys of a supervisor's writers

Every worker writes its cursor under its partition, and the sequence counter writes its
checkpoint under `sequence`, all in one store. The configuration keeps these keys apart: it can
run only when every partition is named, none is the counter's key and none comes twice
(`RelayConfig.Runnable`, read off the checks one by one in `RelayConfig.validate_eq_none_iff_runnable`).
A supervisor is built only over sources whose partitions are the configured ones, counted with
multiplicity: comparing the two lists sorted is comparing them as multisets
(`Supervisor.sortedTexts_eq_iff`).

So in every supervisor that is built the workers own pairwise distinct keys, none of them the
counter's, and the keys a deprovision clears are pairwise distinct too
(`Supervisor.new_keys_distinct`).
-/

namespace ChangeRelay

namespace RelayConfig

/-- A configuration that can run: its source is named; it has partitions, each named, none of
them the sequence counter's key and none twice; no duration is zero; and the initial backoff is
no longer than the ceiling. -/
structure Runnable (c : RelayConfig) : Prop where
  sourceNamed : Text.isBlankText c.sourceId = false
  hasPartitions : c.partitions ≠ []
  partitionsNamed : ∀ p ∈ c.partitions, Text.isBlankText p = false
  unreserved : ChangeRelay.sequenceKey ∉ c.partitions
  distinct : c.partitions.Nodup
  durationsPositive : ∀ d ∈ c.durationFields, 0 < d.2.nanos
  backoffOrdered : c.retryPolicy.initialDelay.nanos ≤ c.retryPolicy.maxDelay.nanos

/-- The partition check passes exactly when every partition is named, none is the counter's key
or among those seen before, and none comes twice. -/
theorem partitionFault_eq_none_iff (seen ps : List String) :
    partitionFault seen ps = none ↔
      (∀ p ∈ ps, Text.isBlankText p = false ∧ p ≠ ChangeRelay.sequenceKey ∧ p ∉ seen) ∧
        ps.Nodup := by
  induction ps generalizing seen with
  | nil => simp [partitionFault]
  | cons p ps ih =>
    have hkey : sequenceKey = ChangeRelay.sequenceKey := rfl
    unfold partitionFault
    by_cases hb : Text.isBlankText p = true
    · simp [hb]
    by_cases hr : p = sequenceKey
    · subst hr
      rw [hkey] at hb ⊢
      simp [hb]
    by_cases hs : seen.contains p = true
    · simp_all
    · simp only [hb, hr, hs, Bool.false_eq_true, if_false, ih, ← hkey]
      simp only [List.contains_iff_mem] at hs
      simp only [List.mem_cons, not_or, List.nodup_cons]
      constructor
      · rintro ⟨hall, hnd⟩
        refine ⟨fun q hq => ?_, fun hp => (hall p hp).2.2.1 rfl, hnd⟩
        rcases hq with rfl | hq
        · exact ⟨by simpa using hb, hr, hs⟩
        · exact ⟨(hall q hq).1, (hall q hq).2.1, (hall q hq).2.2.2⟩
      · rintro ⟨hall, hp, hnd⟩
        exact ⟨fun q hq => ⟨(hall q (.inr hq)).1, (hall q (.inr hq)).2.1,
          fun h => hp (h ▸ hq), (hall q (.inr hq)).2.2⟩, hnd⟩

/-- The configuration can run exactly when no check finds a fault. -/
theorem fault_eq_none_iff (c : RelayConfig) : c.fault = none ↔ c.Runnable := by
  unfold fault
  by_cases hs : Text.isBlankText c.sourceId = true
  · simp only [hs, if_true, reduceCtorEq, false_iff]
    exact fun h => by simp [h.sourceNamed] at hs
  by_cases hp : c.partitions.isEmpty = true
  · simp only [hs, hp, if_true, if_false, Bool.false_eq_true, reduceCtorEq, false_iff]
    exact fun h => h.hasPartitions (List.isEmpty_iff.1 hp)
  simp only [hs, hp, Bool.false_eq_true, if_false]
  cases hf : partitionFault [] c.partitions with
  | some f =>
    simp only [reduceCtorEq, false_iff]
    intro h
    have := (partitionFault_eq_none_iff [] c.partitions).2
      ⟨fun p hp' => ⟨h.partitionsNamed p hp', fun he => h.unreserved (he ▸ hp'), by simp⟩,
        h.distinct⟩
    rw [hf] at this
    cases this
  | none =>
    obtain ⟨hall, hnd⟩ := (partitionFault_eq_none_iff [] c.partitions).1 hf
    cases hd : c.durationFields.find? (·.2.isZero) with
    | some d =>
      simp only [reduceCtorEq, false_iff]
      intro h
      have hz := List.find?_some hd
      have := h.durationsPositive d (List.mem_of_find?_eq_some hd)
      simp [Duration.isZero] at hz
      omega
    | none =>
      have hpos : ∀ d ∈ c.durationFields, 0 < d.2.nanos := fun d hmem => by
        have := List.find?_eq_none.1 hd d hmem
        simp [Duration.isZero] at this
        omega
      by_cases hb : c.retryPolicy.maxDelay.nanos < c.retryPolicy.initialDelay.nanos
      · simp only [hb, if_true, reduceCtorEq, false_iff]
        exact fun h => absurd h.backoffOrdered (Nat.not_le.2 hb)
      · simp only [hb, if_false, true_iff]
        exact ⟨by simpa using hs, by simpa using hp, fun p hp' => (hall p hp').1,
          fun hmem => (hall _ hmem).2.1 rfl, hnd, hpos, Nat.le_of_not_lt hb⟩

/-- `validate` accepts exactly the configurations that can run. -/
theorem validate_eq_none_iff_runnable (c : RelayConfig) : c.validate = none ↔ c.Runnable :=
  (validate_eq_none_iff c).trans (fault_eq_none_iff c)

/-- The counter's key is refused as a partition, before anything else about the partitions. -/
example : (RelayConfig.forTesting "src" ["p0", "sequence"]).validate =
    some (.config "partition id 'sequence' is reserved") := by
  rfl

end RelayConfig

namespace Supervisor

/-- Sorting two lists of texts gives one list exactly when they hold the same texts, each as
often. -/
theorem sortedTexts_eq_iff (xs ys : List String) : sortedTexts xs = sortedTexts ys ↔ xs.Perm ys := by
  constructor
  · intro h
    have hx : (sortedTexts xs).Perm xs := List.mergeSort_perm _ _
    have hy : (sortedTexts ys).Perm ys := List.mergeSort_perm _ _
    rw [h] at hx
    exact hx.symm.trans hy
  · intro h
    exact List.Perm.eq_of_sortedLE List.sortedLE_mergeSort List.sortedLE_mergeSort
      ((List.mergeSort_perm _ _).trans (h.trans (List.mergeSort_perm _ _).symm))

/-- What building a supervisor checks, and the workers it builds: one per source, in order. -/
theorem new_eq_ok_iff {config : RelayConfig} {world : World} {budget : Nat} {s : Supervisor} :
    new config world budget = .ok s ↔
      config.validate = none ∧
      (world.sources.map (·.partition)).Perm config.partitions ∧
      s = { world := { world with limiter := config.rateLimit.map Limiter.new }
            workers := world.sources.map fun src =>
              Worker.new config.sourceId src.partition config.pollInterval config.retryPolicy
            flushInterval := config.flushInterval
            shutdownTimeout := config.shutdownTimeout
            budget } := by
  rw [← sortedTexts_eq_iff]
  unfold new
  cases hv : config.validate with
  | some e => simp
  | none =>
    by_cases hp : sortedTexts (world.sources.map (·.partition)) = sortedTexts config.partitions
    · simp [hp, eq_comm]
    · simp [hp]

/-- Every writer of a supervisor owns its own key. A supervisor is built exactly when its
configuration can run and the partitions of its sources are the configured partitions, each as
often; then its workers' partitions, the keys their cursors are written under, are pairwise
distinct and none is the sequence counter's key, and the keys a deprovision of those partitions
clears are pairwise distinct. -/
theorem new_keys_distinct (config : RelayConfig) (world : World) (budget : Nat) :
    ((∃ s, new config world budget = .ok s) ↔
      config.Runnable ∧ (world.sources.map (·.partition)).Perm config.partitions) ∧
    ∀ s, new config world budget = .ok s →
      (s.workers.map (·.partition)).Nodup ∧
      (∀ w ∈ s.workers, w.partition ≠ sequenceKey) ∧
      ∀ (σ : Type) [RelayHost σ] (c : ControlPlane σ),
        ∀ keys ∈ (c.withDeprovision config.partitions).persisted, keys.Nodup := by
  refine ⟨⟨fun ⟨s, hs⟩ => ?_, fun ⟨hr, hp⟩ => ?_⟩, fun s hs => ?_⟩
  · obtain ⟨hv, hp, -⟩ := new_eq_ok_iff.1 hs
    exact ⟨(RelayConfig.validate_eq_none_iff_runnable config).1 hv, hp⟩
  · exact ⟨_, new_eq_ok_iff.2 ⟨(RelayConfig.validate_eq_none_iff_runnable config).2 hr, hp, rfl⟩⟩
  obtain ⟨hv, hp, rfl⟩ := new_eq_ok_iff.1 hs
  have hr := (RelayConfig.validate_eq_none_iff_runnable config).1 hv
  have hw : (world.sources.map fun src => (Worker.new config.sourceId src.partition
      config.pollInterval config.retryPolicy)).map (·.partition) = world.sources.map (·.partition) := by
    simp [Worker.new]
  refine ⟨?_, fun w hw' => ?_, fun σ _ c keys hk => ?_⟩
  · rw [hw]
    exact hp.nodup_iff.2 hr.distinct
  · have hmem : w.partition ∈ config.partitions := by
      rw [← hp.mem_iff, ← hw]
      exact List.mem_map_of_mem hw'
    exact fun he => hr.unreserved (he ▸ hmem)
  · simp only [ControlPlane.withDeprovision, Option.mem_def, Option.some.injEq] at hk
    subst hk
    exact List.nodup_append.2 ⟨hr.distinct, List.nodup_singleton _,
      fun a ha b hb hab => hr.unreserved (by simp_all)⟩

end Supervisor

end ChangeRelay
