import ChangeRelay.Relay.ControlPlane
import ChangeRelay.Proofs.Control.Subscription

/-!
# Deprovisioning

A control plane given the relay's partitions (`ControlPlane.withDeprovision`) clears, on
`POST /deprovision`, the cursor key of each partition and then the sequence checkpoint's key,
forgetting them one at a time and stopping at the first failure (`ControlPlane.clear`).

Over the relay's in-memory store a forget either erases its key, while the store takes writes,
or fails and changes nothing, while it refuses them. So clearing a list of keys erases exactly
those keys and keeps every other key's token (`ControlPlane.clear_writable`), or fails at once on
the first key (`ControlPlane.clear_refused`). Erasing keys that are gone changes nothing, so a
second deprovision answers as the first and leaves the store as the first left it
(`ControlPlane.deprovision_twice`).

Main statement: `deprovision_clears_its_keys`.
-/

namespace ChangeRelay

open Store Http

namespace Store.Entries

/-- Keeping the pairs of the keys that pass a test keeps their tokens and forgets the others. -/
theorem get?_filter (es : Entries) (keep : String → Bool) (k : String) :
    get? (es.filter fun p => keep p.1) k = if keep k then es.get? k else none := by
  unfold get?
  rw [List.find?_filter]
  cases hk : keep k
  · simp only [Bool.false_eq_true, if_false, Option.map_eq_none_iff, List.find?_eq_none]
    intro p _ hp
    have ⟨hkeep, hpk⟩ : keep p.1 = true ∧ p.1 = k := by simpa using hp
    rw [hpk, hk] at hkeep
    cases hkeep
  · have hsame : (fun p : String × String => decide (keep p.1 = true ∧ (p.1 == k) = true)) =
        (fun p => p.1 == k) := by
      funext p
      by_cases hp : p.1 = k <;> simp [hp, hk]
    rw [hsame, if_pos rfl]

end Store.Entries

/-- The relay with its store holding the entries `es`, everything else as it was. -/
def Supervisor.withEntries (s : Supervisor) (es : Entries) : Supervisor :=
  { s with world := { s.world with store := { s.world.store with entries := es } } }

namespace Supervisor

@[simp] theorem withEntries_entries (s : Supervisor) (es : Entries) :
    (s.withEntries es).world.store.entries = es := rfl

@[simp] theorem withEntries_failWrites (s : Supervisor) (es : Entries) :
    (s.withEntries es).world.store.failWrites = s.world.store.failWrites := rfl

@[simp] theorem withEntries_withEntries (s : Supervisor) (es es' : Entries) :
    (s.withEntries es).withEntries es' = s.withEntries es' := rfl

@[simp] theorem withEntries_self (s : Supervisor) : s.withEntries s.world.store.entries = s := rfl

/-- While its store takes writes, the relay forgets a key by erasing it from the store. -/
theorem forget_writable (s : Supervisor) (k : String) (h : s.world.store.failWrites = false) :
    RelayHost.forget s k = (s.withEntries (s.world.store.entries.erase k), .ok ()) := by
  simp [RelayHost.forget, MemoryStore.delete, h, withEntries]

/-- While its store refuses writes, forgetting a key fails and changes nothing. -/
theorem forget_refused (s : Supervisor) (k : String) (h : s.world.store.failWrites = true) :
    RelayHost.forget s k = (s, .error (.storeUnavailable k "write failure injected")) := by
  simp [RelayHost.forget, MemoryStore.delete, h]

end Supervisor

namespace ControlPlane

/-- While the store takes writes, clearing keys erases exactly them, in one go as one by one. -/
theorem clear_writable (keys : List String) :
    ∀ (s : Supervisor), s.world.store.failWrites = false →
      clear s keys = (s.withEntries (s.world.store.entries.filter (·.1 ∉ keys)), none) := by
  induction keys with
  | nil => intro s _; simp [clear]
  | cons k ks ih =>
    intro s h
    rw [clear, Supervisor.forget_writable s k h]
    dsimp only
    rw [ih _ (by simpa using h), Supervisor.withEntries_withEntries]
    congr 2
    rw [Supervisor.withEntries_entries, Entries.erase, List.filter_filter]
    congr 1
    funext p
    by_cases hp : p.1 = k <;> simp [hp]

/-- While the store refuses writes, clearing stops at the first key, having changed nothing. -/
theorem clear_refused (s : Supervisor) (k : String) (ks : List String)
    (h : s.world.store.failWrites = true) :
    clear s (k :: ks) = (s, some (.storeUnavailable k "write failure injected")) := by
  rw [clear, Supervisor.forget_refused s k h]

variable {σ : Type} [RelayHost σ]

/-- `POST /deprovision` runs the deprovision handler, whatever the request's body. -/
theorem handle_deprovision (c : ControlPlane σ) (contentType : Option String) (body : String) :
    c.handle ⟨"POST", "/deprovision", contentType, body⟩ = c.deprovision := by
  have hr : Route.dispatch "POST" "/deprovision" = .route .deprovision := by
    simp +decide [Route.dispatch, segmentsOf, pathOf, String.splitOn, String.splitOnAux]
  simp only [handle, hr]

/-- Without keys to clear, deprovisioning answers 204 and changes nothing. -/
theorem deprovision_detached (c : ControlPlane σ) (h : c.persisted = none) :
    c.deprovision = (c, .response (Response.bare 204)) := by
  simp [deprovision, h]

/-- While the store takes writes, deprovisioning erases the keys and answers 204. -/
theorem deprovision_writable (c : ControlPlane Supervisor) {keys : List String}
    (hp : c.persisted = some keys) (h : c.host.world.store.failWrites = false) :
    c.deprovision =
      ({ c with host := c.host.withEntries (c.host.world.store.entries.filter (·.1 ∉ keys)) },
        .response (Response.bare 204)) := by
  simp only [deprovision, hp, clear_writable keys c.host h]

/-- Once the keys are erased, deprovisioning again answers 204 and changes nothing. -/
theorem deprovision_twice (c : ControlPlane Supervisor) {keys : List String}
    (hp : c.persisted = some keys) (h : c.host.world.store.failWrites = false) :
    c.deprovision.1.deprovision = c.deprovision := by
  have h' : (c.host.withEntries
      (c.host.world.store.entries.filter (·.1 ∉ keys))).world.store.failWrites = false := h
  simp only [deprovision, hp, clear_writable keys c.host h, clear_writable keys _ h',
    Supervisor.withEntries_withEntries, Supervisor.withEntries_entries, List.filter_filter,
    Bool.and_self]

/-- While the store refuses writes, deprovisioning answers the failure to forget the first key
and changes nothing. -/
theorem deprovision_refused (c : ControlPlane Supervisor) {k : String} {ks : List String}
    (hp : c.persisted = some (k :: ks)) (h : c.host.world.store.failWrites = true) :
    c.deprovision =
      (c, .response (RelayError.storeUnavailable k "write failure injected").response) := by
  simp only [deprovision, hp, clear_refused c.host k ks h]
  cases c
  cases hp
  rfl

end ControlPlane

open ControlPlane in
/-- Deprovisioning the relay clears the cursors of the partitions it was given and the sequence
checkpoint, and nothing else. While the store takes writes, `POST /deprovision` answers 204, every
one of those keys is gone and every other key keeps its token, with the rest of the relay and the
plane as they were; a second call answers 204 again and changes nothing. While the store refuses
writes, it answers 500 with the failure to forget the first key, the first partition's or else
the checkpoint's, and changes nothing. A plane given no keys answers 204 and changes nothing. -/
theorem deprovision_clears_its_keys (c : ControlPlane Supervisor) (partitions : List String)
    (contentType : Option String) (body : String) :
    let req : Request := ⟨"POST", "/deprovision", contentType, body⟩
    let d := c.withDeprovision partitions
    let keys := partitions ++ [sequenceKey]
    (c.host.world.store.failWrites = false →
      (d.handle req).1 =
        { d with
          host := c.host.withEntries (c.host.world.store.entries.filter (·.1 ∉ keys)) } ∧
      (d.handle req).2.Answers 204 ∧
      (∀ k, (d.handle req).1.host.world.store.entries.get? k =
        if k ∈ keys then none else c.host.world.store.entries.get? k) ∧
      (d.handle req).1.handle req = ((d.handle req).1, (d.handle req).2)) ∧
    (c.host.world.store.failWrites = true →
      d.handle req = (d, .response
        (RelayError.storeUnavailable (partitions.headD sequenceKey)
          "write failure injected").response) ∧
      (d.handle req).2.Answers 500) ∧
    (c.persisted = none → c.handle req = (c, .response (Response.bare 204))) := by
  intro req d keys
  have hp : d.persisted = some keys := rfl
  have hhost : d.host = c.host := rfl
  refine ⟨fun h => ?_, fun h => ?_, fun h => ?_⟩
  · rw [handle_deprovision, handle_deprovision, deprovision_twice d hp h,
      deprovision_writable d hp h, hhost]
    refine ⟨rfl, ⟨_, rfl, rfl⟩, fun k => ?_, rfl⟩
    rw [Supervisor.withEntries_entries, Entries.get?_filter _ (fun x => decide (x ∉ keys)) k]
    by_cases hk : k ∈ keys <;> simp [hk]
  · obtain ⟨ks, hks⟩ : ∃ ks, keys = partitions.headD sequenceKey :: ks := by
      cases partitions with
      | nil => exact ⟨[], rfl⟩
      | cons p ps => exact ⟨ps ++ [sequenceKey], rfl⟩
    rw [handle_deprovision, deprovision_refused d (hp.trans (congrArg some hks)) h]
    exact ⟨rfl, _, rfl, rfl⟩
  · rw [handle_deprovision, deprovision_detached c h]

end ChangeRelay
