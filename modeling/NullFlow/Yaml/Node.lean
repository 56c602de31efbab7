import NullFlow.Yaml.Token

/-!
# Configuration files: documents

A YAML document is a **node**: a scalar, a sequence or a mapping. A node may carry an **anchor**,
and an **alias** stands for the node that carries its anchor. Anchors are numbered, and an alias is
the number of the anchor that its name stood for when it was read; what it stands for is looked up
in the whole document (`Document.resolve`), so a number that was given twice means the last node
that carries it.

A text holds one document, or none.
-/

namespace NullFlow.Yaml

/-- **A node of a document.** -/
inductive Node where
  | alias (anchor : Nat)
  | scalar (anchor : Option Nat) (tag : Option String) (text : String) (style : Style)
  | sequence (anchor : Option Nat) (items : List Node)
  | mapping (anchor : Option Nat) (entries : List (Node × Node))

namespace Node

/-- The empty scalar, which stands where nothing is written. -/
def empty : Node := .scalar none none "" .plain

/-- A node with its anchor, in a list. -/
def anchoring (n : Node) : Option Nat → List (Nat × Node)
  | some a => [(a, n)]
  | none => []

mutual

/-- The nodes with anchors, in the order in which they begin. -/
def anchored : Node → List (Nat × Node)
  | .alias _ => []
  | .scalar a t s y => anchoring (.scalar a t s y) a
  | .sequence a l => anchoring (.sequence a l) a ++ itemsAnchored l
  | .mapping a l => anchoring (.mapping a l) a ++ entriesAnchored l

/-- The nodes with anchors in the items of a sequence. -/
def itemsAnchored : List Node → List (Nat × Node)
  | [] => []
  | n :: r => n.anchored ++ itemsAnchored r

/-- The nodes with anchors in the entries of a mapping. -/
def entriesAnchored : List (Node × Node) → List (Nat × Node)
  | [] => []
  | (k, v) :: r => k.anchored ++ (v.anchored ++ entriesAnchored r)

end

end Node

/-- **A document**; the root is missing if the text has none. -/
structure Document where
  root : Option Node

namespace Document

/-- **The node that a node stands for**: itself, unless it is an alias. -/
def resolve (d : Document) : Node → Node
  | .alias a =>
    (((d.root.map (·.anchored)).getD []).reverse.lookup a).getD (.alias a)
  | n => n

end Document

/-! ## Reading the tokens -/

/-- **What is left to read**, and the names that were given to anchors and to tags. -/
structure Reader where
  tokens : List Token
  /-- The number of each anchor's name. -/
  anchors : List (String × Nat) := []
  /-- What the handles of tags stand for. -/
  handles : List (String × String) := []

/-- **A step that reads nodes.** -/
abbrev NodeReading (α : Type) := StateT Reader Option α

namespace Reader

def refuse {α : Type} : NodeReading α := fun _ => none

/-- The next token, which stays. -/
def peek : NodeReading (Option Token) := return (← get).tokens.head?

/-- Skips a token. -/
def skip : NodeReading Unit := modify fun s => { s with tokens := s.tokens.tail }

/-- Skips the token if it comes next. -/
def take (t : Token) : NodeReading Bool := do
  if (← peek) == some t then
    skip
    return true
  else return false

/-- Whether one of the tokens comes next. -/
def isAt (ts : List Token) : NodeReading Bool := return (← peek).any ts.contains

/-- Numbers the anchor of a name. A name may be given again. -/
def giveAnchor (name : String) : NodeReading Nat := do
  let number := (← get).anchors.length
  modify fun s => { s with anchors := (name, number) :: s.anchors.filter (·.1 != name) }
  return number

/-- Reads an anchor, if one comes next. -/
def anchor? : NodeReading (Option Nat) := do
  match ← peek with
  | some (.anchor name) =>
    skip
    return some (← giveAnchor name)
  | _ => return none

/-- Reads a tag, if one comes next. Its handle must stand for something. -/
def tag? : NodeReading (Option String) := do
  match ← peek with
  | some (.tag handle suffix) =>
    skip
    if handle.isEmpty then return some suffix
    match (← get).handles.lookup handle with
    | some meaning => return some (meaning ++ suffix)
    | none => refuse
  | _ => return none

/-- Reads an anchor and a tag, in either order. -/
def properties : NodeReading (Option Nat × Option String) := do
  match ← anchor? with
  | some a => return (some a, ← tag?)
  | none =>
    let tag ← tag?
    let late ← if tag.isSome then anchor? else pure none
    return (late, tag)

mutual

/-- **Reads a node.** Between brackets there are no blocks, and the dashes of a sequence may stand
in the column of the key before them. -/
def node (inBlock dashes : Bool) : (fuel : Nat) → NodeReading Node
  | 0 => refuse
  | fuel + 1 => do
    if let some (.alias name) ← peek then
      skip
      match (← get).anchors.lookup name with
      | some a => return .alias a
      | none => refuse
    let (anchor, tag) ← properties
    match ← peek with
    | some (.scalar text style) =>
      skip
      return .scalar anchor tag text style
    | some .flowSequenceStart =>
      skip
      return .sequence anchor (← flowItems true fuel)
    | some .flowMappingStart =>
      skip
      return .mapping anchor (← flowEntries true fuel)
    | t =>
      if dashes && t == some .entry then return .sequence anchor (← dashedItems fuel)
      else if inBlock && t == some .sequenceStart then
        skip
        return .sequence anchor (← blockItems fuel)
      else if inBlock && t == some .mappingStart then
        skip
        return .mapping anchor (← blockEntries fuel)
      else if anchor.isSome || tag.isSome then return .scalar anchor tag "" .plain
      else refuse

/-- Reads a node, or nothing before one of the given tokens. -/
def nodeUnless (inBlock dashes : Bool) (ends : List Token) : (fuel : Nat) → NodeReading Node
  | 0 => refuse
  | fuel + 1 => do if ← isAt ends then return .empty else node inBlock dashes fuel

/-- Reads the items of a sequence that is a block. -/
def blockItems : (fuel : Nat) → NodeReading (List Node)
  | 0 => refuse
  | fuel + 1 => do
    if ← take .entry then
      let n ← nodeUnless true false [.entry, .blockEnd] fuel
      return n :: (← blockItems fuel)
    else if ← take .blockEnd then return []
    else refuse

/-- Reads the items of a sequence whose dashes stand in the column of the key before them. -/
def dashedItems : (fuel : Nat) → NodeReading (List Node)
  | 0 => refuse
  | fuel + 1 => do
    if ← take .entry then
      let n ← nodeUnless true false [.entry, .key, .value, .blockEnd] fuel
      return n :: (← dashedItems fuel)
    else return []

/-- Reads the entries of a mapping that is a block. -/
def blockEntries : (fuel : Nat) → NodeReading (List (Node × Node))
  | 0 => refuse
  | fuel + 1 => do
    let ends : List Token := [.key, .value, .blockEnd]
    if ← take .key then
      let k ← nodeUnless true true ends fuel
      let v ← if ← take .value then nodeUnless true true ends fuel else pure .empty
      return (k, v) :: (← blockEntries fuel)
    else if ← take .blockEnd then return []
    else refuse

/-- Reads the items of a sequence in brackets. A key makes a mapping of one entry. -/
def flowItems (isFirst : Bool) : (fuel : Nat) → NodeReading (List Node)
  | 0 => refuse
  | fuel + 1 => do
    let ends : List Token := [.flowEntry, .flowSequenceEnd]
    if ← take .flowSequenceEnd then return []
    if !isFirst && !(← take .flowEntry) then refuse
    if ← take .key then
      let k ← (do
        if ← isAt (.value :: ends) then
          skip
          return .empty
        else node false false fuel)
      let v ← if ← take .value then nodeUnless false false ends fuel else pure .empty
      return .mapping none [(k, v)] :: (← flowItems false fuel)
    else if ← take .flowSequenceEnd then return []
    else
      let n ← node false false fuel
      return n :: (← flowItems false fuel)

/-- Reads the entries of a mapping in braces. -/
def flowEntries (isFirst : Bool) : (fuel : Nat) → NodeReading (List (Node × Node))
  | 0 => refuse
  | fuel + 1 => do
    let ends : List Token := [.flowEntry, .flowMappingEnd]
    if ← take .flowMappingEnd then return []
    if !isFirst && !(← take .flowEntry) then refuse
    if ← take .key then
      let k ← nodeUnless false false (.value :: ends) fuel
      let v ← if ← take .value then nodeUnless false false ends fuel else pure .empty
      return (k, v) :: (← flowEntries false fuel)
    else if ← take .flowMappingEnd then return []
    else
      let k ← node false false fuel
      return (k, .empty) :: (← flowEntries false fuel)

end

/-! ## Documents -/

/-- Reads the directives before a document; `versioned` tells whether a version was given. -/
def directives (versioned : Bool) : (fuel : Nat) → NodeReading Unit
  | 0 => refuse
  | fuel + 1 => do
    match ← peek with
    | some (.version major minor) =>
      if versioned || major != 1 || !(minor == 1 || minor == 2) then refuse
      skip
      directives true fuel
    | some (.tagHandle handle meaning) =>
      if ((← get).handles.lookup handle).isSome then refuse
      skip
      modify fun s => { s with handles := s.handles ++ [(handle, meaning)] }
      directives versioned fuel
    | _ => pure ()

/-- Reads the mark that begins a document, after its directives. -/
def beginning (fuel : Nat) : NodeReading Bool := do
  directives false fuel
  take .documentStart

/-- What the handles of tags stand for if nothing else is said. -/
def commonHandles : List (String × String) := [("!", "!"), ("!!", "tag:yaml.org,2002:")]

/-- **Reads the only document.** -/
def document (fuel : Nat) : NodeReading Document := do
  let directed := (← peek).any fun
    | .version _ _ => true
    | .tagHandle _ _ => true
    | _ => false
  let marked ← beginning fuel
  if directed && !marked then refuse
  if !marked && (← peek).isNone then return { root := none }
  modify fun s => { s with handles := s.handles ++ commonHandles }
  let atEdge := (← peek).all fun
    | .version _ _ => true
    | .tagHandle _ _ => true
    | .documentStart => true
    | .documentEnd => true
    | _ => false
  let root ← if marked && atEdge then pure .empty else node true false fuel
  modify fun s => { s with tokens := s.tokens.dropWhile (· == .documentEnd) }
  if (← peek).isSome then refuse
  return { root := some root }

end Reader

/-- **Reads a text as a document**, none if it is no text of that kind. Every step takes a token or
goes one bracket deeper. -/
def read? (text : String) : Option Document := do
  let tokens ← tokens? text
  let s : Reader := { tokens }
  return (← Reader.document (3 * tokens.length + 3) s).1

end NullFlow.Yaml
