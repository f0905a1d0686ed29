import ChangeRelay.Yaml.Parser

/-!
# The first document of a YAML text, as a tree

Only the first document is read. Its events are taken until the document ends, the stream ends
or a fault; nodes are built from them with a stack of the open collections. A fault cuts the
document: the open collections are closed, and where the next node or the end of a collection
would have been read stands the fault (`Node.broken`, or the `tail` of a collection), so that
reading the tree meets the fault exactly where reading the events would have run out of them.
An alias names an anchor given before it; one that does not is a fault of its own. A text with
no document at all is a `void` node at the end of the stream.

Anchors are numbered as they are met by how many names were given before; a name given again
takes a new number, and that number may be given again to a later anchor of a new name, the
later node winning. `Composed.more` says whether anything but the end of the stream follows
the first document.
-/

namespace ChangeRelay.Yaml

/-- Where a document was cut short. -/
inductive Break where
  /-- A fault of the reader, scanner or parser. -/
  | problem (p : Problem)
  /-- An alias of no anchor given before it. -/
  | unknownAnchor (at_ : Mark)
  deriving Inhabited, Repr

/-- A node of a document. -/
inductive Node where
  | scalar (text : String) (style : ScalarStyle) (tag : Option String) (mark : Mark)
  /-- An alias of the anchor numbered `id`. -/
  | aliasRef (id : Nat) (mark : Mark)
  /-- A sequence; `tail` is the fault met in place of its end, if any. -/
  | seq (items : List Node) (tail : Option Break) (tag : Option String) (mark : Mark)
  /-- A mapping, its entries in order; `tail` as for a sequence. -/
  | map (entries : List (Node × Node)) (tail : Option Break) (tag : Option String) (mark : Mark)
  /-- The empty stream. -/
  | void (mark : Mark)
  /-- A fault met in place of a node. -/
  | broken (b : Break)
  deriving Inhabited, Repr

/-- Where a node begins; a fault has no place of its own. -/
def Node.mark : Node → Mark
  | .scalar _ _ _ m | .aliasRef _ m | .seq _ _ _ m | .map _ _ _ m | .void m => m
  | .broken _ => {}

/-- The anchored nodes: a number, the count of events before the anchor's, and the node. -/
abbrev Anchors := List (Nat × Nat × Node)

/-- The node of anchor number `id`: of those given it, the one whose anchor came last. -/
def Anchors.find (as : Anchors) (id : Nat) : Node :=
  let best := as.foldl (fun (acc : Option (Nat × Node)) (i, n, node) =>
    if i != id then acc
    else match acc with
      | some (m, _) => if m < n then some (n, node) else acc
      | none => some (n, node)) none
  match best with
  | some (_, node) => node
  | none => .broken (.unknownAnchor {})

/-- A document read up to its end or its first fault. -/
structure Composed where
  root : Node
  anchors : Anchors
  /-- The fault that cut the document, if any. -/
  fault : Option Break
  /-- Whether a further document, or a fault, follows the first document. -/
  more : Bool
  deriving Inhabited

/-- An open collection: an anchor is its number and the count of events before it. -/
inductive Frame where
  | seq (items : List Node) (tag : Option String) (mark : Mark) (anchor : Option (Nat × Nat))
  /-- A mapping, with a key waiting for its value. -/
  | map (entries : List (Node × Node)) (key : Option Node) (tag : Option String) (mark : Mark)
      (anchor : Option (Nat × Nat))

/-- The node of a closed collection. -/
def Frame.close (tail : Option Break) : Frame → Node × Option (Nat × Nat)
  | .seq items tag m a => (.seq items.reverse tail tag m, a)
  | .map es none tag m a => (.map es.reverse tail tag m, a)
  | .map es (some k) tag m a =>
    match tail with
    | some b => (.map ((k, .broken b) :: es).reverse tail tag m, a)
    | none => (.map es.reverse tail tag m, a)

/-- What the composer has built so far. -/
structure Composer where
  frames : List Frame := []
  root : Option Node := none
  /-- Anchor names with their numbers, the latest first. -/
  names : List (String × Nat) := []
  anchors : Anchors := []
  /-- Events taken. -/
  events : Nat := 0

namespace Composer

/-- Adds `node` to the innermost open collection, or makes it the root. -/
def attach (c : Composer) (node : Node) : Composer :=
  match c.frames with
  | [] => { c with root := some node }
  | .seq items tag m a :: fs => { c with frames := .seq (node :: items) tag m a :: fs }
  | .map es none tag m a :: fs => { c with frames := .map es (some node) tag m a :: fs }
  | .map es (some k) tag m a :: fs => { c with frames := .map ((k, node) :: es) none tag m a :: fs }

/-- Numbers an anchor named `name`, at the current event. -/
def number (c : Composer) (name : Option String) : Composer × Option (Nat × Nat) :=
  match name with
  | none => (c, none)
  | some n =>
    let id := (c.names.map (·.1)).eraseDups.length
    ({ c with names := (n, id) :: c.names }, some (id, c.events))

/-- Keeps `node` as the node of an anchor. -/
def keep (c : Composer) (anchor : Option (Nat × Nat)) (node : Node) : Composer :=
  match anchor with
  | some (id, n) => { c with anchors := (id, n, node) :: c.anchors }
  | none => c

/-- Closes the innermost open collection. -/
def closeOne (c : Composer) (tail : Option Break) : Composer :=
  match c.frames with
  | [] => c
  | f :: fs =>
    let (node, a) := Frame.close tail f
    ({ c with frames := fs }.keep a node).attach node

/-- Closes every open collection at a fault. -/
def cut (c : Composer) (b : Break) : Composer :=
  let c := (List.range c.frames.length).foldl (fun c _ => c.closeOne (some b)) c
  match c.root with
  | some _ => c
  | none => { c with root := some (.broken b) }

/-- Takes one event of the document; a fault if it is an alias of no anchor. -/
def take (c : Composer) (e : Event) : Except Break Composer :=
  let c := { c with events := c.events + 1 }
  match e.kind with
  | .aliasRef name =>
    match c.names.find? (·.1 == name) with
    | some (_, id) => .ok (c.attach (.aliasRef id e.start))
    | none => .error (.unknownAnchor e.start)
  | .scalar anchor tag text style =>
    let (c, a) := c.number anchor
    let node := Node.scalar text style tag e.start
    .ok ((c.keep a node).attach node)
  | .sequenceStart anchor tag =>
    let (c, a) := c.number anchor
    .ok { c with frames := .seq [] tag e.start a :: c.frames }
  | .mappingStart anchor tag =>
    let (c, a) := c.number anchor
    .ok { c with frames := .map [] none tag e.start a :: c.frames }
  | .sequenceEnd | .mappingEnd => .ok (c.closeOne none)
  | _ => .ok c

/-- The document as built when it ends. -/
def finish (c : Composer) (fault : Option Break) (more : Bool) (streamEnd : Mark) : Composed :=
  { root := c.root.getD (.void streamEnd), anchors := c.anchors, fault, more }

end Composer

/-- Whether anything but the end of the stream follows. -/
def followedByMore (st : Scanner × Parser) : Bool :=
  match Parse.next.run st with
  | .ok (some e, _) =>
    match e.kind with
    | .streamEnd => false
    | _ => true
  | .ok (none, _) => false
  | .error _ => true

/-- Takes the events of the first document, at most `fuel` of them. -/
def compose : Nat → Scanner × Parser → Composer → Composed
  | 0, st, c =>
    let b := Break.problem { problem := "document exceeded its event budget", mark := st.1.mark }
    (c.cut b).finish (some b) false {}
  | fuel + 1, st, c =>
    match Parse.next.run st with
    | .error p => (c.cut (.problem p)).finish (some (.problem p)) false {}
    | .ok (none, _) => c.finish none false {}
    | .ok (some e, st) =>
      match e.kind with
      | .streamEnd => c.finish none false e.start
      | .documentEnd => c.finish none (followedByMore st) e.start
      | .streamStart | .documentStart => compose fuel st c
      | _ =>
        match c.take e with
        | .ok c => compose fuel st c
        | .error b => (c.cut b).finish (some b) false {}

/-- The first document of `text`. -/
def firstDocument (text : String) : Composed :=
  compose (8 * text.length + 16) (Parser.start text) {}

end ChangeRelay.Yaml
