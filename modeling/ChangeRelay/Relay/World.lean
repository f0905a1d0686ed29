import ChangeRelay.Event.Batch
import ChangeRelay.Graph.Change
import ChangeRelay.Resilience.RateLimit
import ChangeRelay.Sequence
import ChangeRelay.Store.Memory

/-!
# The world the workers run in

Workers share a cursor store in memory, the sequence generator, an optional rate limiter and the
publisher, and each pulls from the change source of its partition. Here the sources answer from
scripts and the publisher from a list of deliveries, and the world keeps a record of every pull
and every publish attempt, so a run can be replayed and inspected. Time is virtual and counted
in nanoseconds; nothing waits for real.

A scripted source answers its script in order, flipping the store's failure switches a step asks
for first. A used-up script answers empty batches; a source may also ask the workers to stop at
that point (`stopWhenDone`), which ends a run once its script has been played.
-/

namespace ChangeRelay

open Store

/-- What a scripted pull answers. -/
inductive Reply where
  | batch (b : SourceBatch)
  | fail (e : RelayError)
  /-- The pull panics, with a text payload or, for none, another payload. -/
  | panic (payload : Option String)
  deriving Inhabited

/-- One answer of a scripted source, with the store switches it sets first. -/
structure Cue where
  reply : Reply
  failReads : Option Bool := none
  failWrites : Option Bool := none
  deriving Inhabited

/-- The change source of one partition, answering from a script. -/
structure ScriptedSource where
  partition : String
  initialCursor : Option String := none
  script : List Cue := []
  deriving Inhabited

/-- How a publish attempt goes. -/
inductive Delivery where
  | ok
  | fail
  /-- The attempt never completes. -/
  | hang
  deriving DecidableEq, Inhabited

/-- A pull as the source saw it. -/
structure PullRecord where
  partition : String
  at_ : Nat
  cursor : Option String
  /-- The store's token for the partition at the time of the pull. -/
  stored : Option String

/-- A publish attempt as the publisher saw it. -/
structure Attempt where
  partition : String
  at_ : Nat
  topic : String
  delivery : Delivery
  sequences : List Nat

/-- The collaborators of the workers, and what they saw. -/
structure World where
  /-- Virtual time in nanoseconds. -/
  now : Nat := 0
  /-- The wall clock in milliseconds, the time events are received at. -/
  wallMs : Nat
  store : MemoryStore := {}
  sequence : Sequence := {}
  limiter : Option Limiter := none
  /-- The outcomes of the next publish attempts; success once used up. -/
  deliveries : List Delivery := []
  sources : List ScriptedSource
  /-- Whether a used-up script asks the workers to stop. -/
  stopWhenDone : Bool
  /-- The shutdown signal. -/
  shutdown : Bool := false
  pulls : List PullRecord := []
  attempts : List Attempt := []
  /-- The batches published, each with its partition. -/
  published : List (String × List Notification) := []
  deriving Inhabited

namespace World

/-- The source of a partition. -/
def source? (w : World) (partition : String) : Option ScriptedSource :=
  w.sources.find? (·.partition == partition)

/-- Applies the store switches of a cue. -/
def applyCue (w : World) (c : Cue) : World :=
  let s := w.store
  let s := match c.failReads with
    | some b => { s with failReads := b }
    | none => s
  let s := match c.failWrites with
    | some b => { s with failWrites := b }
    | none => s
  { w with store := s }

/-- Pulls from a partition's source after `cursor`: what it answers, and the world after. -/
def pull (w : World) (partition : String) (cursor : Option String) : Reply × World :=
  let record : PullRecord :=
    { partition, at_ := w.now, cursor, stored := w.store.entries.get? partition }
  let w := { w with pulls := w.pulls ++ [record] }
  match w.source? partition with
  | some src =>
    match src.script with
    | c :: rest =>
      let played (s : ScriptedSource) : ScriptedSource :=
        if s.partition == partition then { s with script := rest } else s
      let w := { w with sources := w.sources.map played }
      (c.reply, w.applyCue c)
    | [] => (.batch {}, if w.stopWhenDone then { w with shutdown := true } else w)
  | none => (.batch {}, w)

/-- The reason the publisher gives when it refuses a batch. -/
def refusal : String := "injected failure"

/-- Offers a batch to the publisher: how the attempt goes, and the world after. -/
def publish (w : World) (partition topic : String) (batch : List Notification) : Delivery × World :=
  let (d, rest) := match w.deliveries with
    | d :: rest => (d, rest)
    | [] => (.ok, [])
  let record : Attempt :=
    { partition, at_ := w.now, topic, delivery := d, sequences := batch.map (·.sequence) }
  let w := { w with deliveries := rest, attempts := w.attempts ++ [record] }
  (d, if d == .ok then { w with published := w.published ++ [(partition, batch)] } else w)

end World

end ChangeRelay
