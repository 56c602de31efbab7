import NullFlow.Toml.Scalar

/-!
# Configuration tables: documents

A TOML document is a list of lines: **headers**, which open a table, and **assignments** of a value
to a key in the table that is open. A dotted key assigns inside of tables that it creates on the
way.

Every table may be defined only once, and no key twice. What that means is said by `TableKind`: a
table that a header or a dotted key created on the way may still be defined by a header of its own,
but only a dotted key may add to a table that a dotted key created.
-/

namespace NullFlow.Toml

/-- **How a table came about.** -/
structure TableKind where
  /-- It was created on the way to another table. -/
  isImplicit : Bool := false
  /-- It was created by a dotted key. -/
  isDotted : Bool := false
  deriving DecidableEq

/-- **A document under construction.** -/
inductive Entry where
  /-- A value, to which nothing can be added. -/
  | value (v : TomlValue)
  | table (kind : TableKind) (entries : List (String × Entry))
  /-- Tables under one name; only the last can still be added to. -/
  | tables (items : List (List (String × Entry)))
  deriving Inhabited

/-- The entries of a table. -/
abbrev Entries := List (String × Entry)

/-- Replaces the entry under a key, or adds one. -/
def setEntry (key : String) (e : Entry) : Entries → Entries
  | [] => [(key, e)]
  | (k, old) :: r => if k == key then (k, e) :: r else (k, old) :: setEntry key e r

/-- **Changes the table at the end of a path**, creating tables on the way. A dotted key cannot
enter a table that a header defined. -/
def updateAt (isDotted : Bool) (change : TableKind → Entries → Option Entries) :
    (path : List String) → TableKind → Entries → Option Entries
  | [], kind, entries => change kind entries
  | key :: path, _, entries => do
    match List.lookup key entries with
    | none =>
      let kind := { isImplicit := true, isDotted }
      return setEntry key (.table kind (← updateAt isDotted change path kind [])) entries
    | some (.value _) => none
    | some (.tables items) =>
      let last ← updateAt isDotted change path {} (items.getLast?.getD [])
      return setEntry key (.tables (items.dropLast ++ [last])) entries
    | some (.table kind inner) =>
      if isDotted && !kind.isImplicit then none
      else return setEntry key (.table kind (← updateAt isDotted change path kind inner)) entries

/-- **Assigns to a key**, of which the last part must be new. -/
def assign (path : List String) (key : String) (v : TomlValue) (kind : TableKind)
    (entries : Entries) :    Option Entries :=
  updateAt true (fun kind entries =>
    if kind.isDotted == path.isEmpty || (List.lookup key entries).isSome then none
    else some (entries ++ [(key, .value v)])) path kind entries

/-- Opens a table by its header. -/
def openTable (path : List String) (key : String) (root : Entries) : Option Entries :=
  updateAt false (fun _ entries =>
    match List.lookup key entries with
    | none => some (entries ++ [(key, .table {} [])])
    | some (.table kind inner) =>
      if kind.isImplicit && !kind.isDotted then some (setEntry key (.table {} inner) entries)
      else none
    | some _ => none) path {} root

/-- Opens one more table of those under one name. -/
def openTables (path : List String) (key : String) (root : Entries) : Option Entries :=
  updateAt false (fun _ entries =>
    match List.lookup key entries with
    | none => some (entries ++ [(key, .tables [[]])])
    | some (.tables items) => some (setEntry key (.tables (items ++ [[]])) entries)
    | some _ => none) path {} root

mutual

/-- **The finished value of an entry.** -/
def Entry.toValue : Entry → TomlValue
  | .value v => v
  | .table _ entries => .table (finish entries)
  | .tables items => .list (finishAll items)

/-- The finished values of the entries of a table. -/
def finish : List (String × Entry) → List (String × TomlValue)
  | [] => []
  | (key, e) :: r => (key, e.toValue) :: finish r

/-- The finished tables. -/
def finishAll : List (List (String × Entry)) → List TomlValue
  | [] => []
  | entries :: r => .table (finish entries) :: finishAll r

end

/-! ## Reading -/

/-- How deep values and keys may nest. -/
def maxDepth : Nat := 80

/-- A key without dots. -/
def simpleKey : Reader String := do
  match ← peek with
  | some '"' => quoted '"' false
  | some '\'' => quoted '\'' false
  | _ =>
    let isBare (c : Char) : Bool := c.isAlphanum || c == '-' || c == '_'
    let first ← satisfying isBare
    return String.ofList (first :: (← run isBare))

/-- **A key**: the path to the table, and the name in it. -/
def key : Reader (List String × String) := fun s => do
  let (parts, rest) ← go (s.length + 1) s
  if parts.length < maxDepth then return ((parts.dropLast, parts.getLast?.getD ""), rest) else none
where
  /-- At most the given number of parts. -/
  go : Nat → Reader (List String)
    | 0 => fail
    | n + 1 => do
      blanks
      let part ← simpleKey
      blanks
      if (← optional (exactly ['.'])).isSome then return part :: (← go n) else return [part]

mutual

/-- **A value.** `depth` says how deep values may still nest, `fuel` bounds the number of values. -/
def readValue (depth : Nat) : (fuel : Nat) → Reader TomlValue
  | 0 => fail
  | fuel + 1 => do
    match ← peek with
    | some '[' =>
      if depth ≤ 1 then fail
      exactly ['[']
      return .list (← readItems (depth - 1) fuel)
    | some '\x7b' =>
      if depth ≤ 1 then fail
      exactly ['\x7b']
      blanks
      if (← optional (exactly ['\x7d'])).isSome then return .table []
      return .table (finish (← readFields (depth - 1) fuel []))
    | _ => scalarValue

/-- The items of a list up to its closing bracket. -/
def readItems (depth : Nat) : (fuel : Nat) → Reader (List TomlValue)
  | 0 => fail
  | fuel + 1 => do
    gap
    if (← optional (exactly [']'])).isSome then return []
    let item ← readValue depth fuel
    gap
    if (← optional (exactly [','])).isSome then return item :: (← readItems depth fuel)
    exactly [']']
    return [item]

/-- The assignments in a table on one line up to its closing brace. -/
def readFields (depth : Nat) : (fuel : Nat) → Entries → Reader Entries
  | 0, _ => fail
  | fuel + 1, entries => do
    let (path, name) ← key
    exactly ['=']
    blanks
    let v ← readValue depth fuel
    blanks
    let entries ← (assign path name v {} entries : Option Entries)
    if (← optional (exactly [','])).isSome then readFields depth fuel entries
    else
      exactly ['\x7d']
      return entries

end

/-- **A line of a document.** -/
inductive Line where
  | blank
  | header (path : List String) (name : String)
  | arrayHeader (path : List String) (name : String)
  | assignment (path : List String) (name : String) (v : TomlValue)

/-- Reads a line, which may go on as long as its value does. -/
def readLine : Reader Line := fun s =>
  (do
    blanks
    let line ← (do
      match ← peek with
      | some '[' =>
        if (← optional (exactly ['[', '['])).isSome then
          let (path, name) ← key
          exactly [']', ']']
          return .arrayHeader path name
        else
          exactly ['[']
          let (path, name) ← key
          exactly [']']
          return .header path name
      | none => return .blank
      | some c =>
        if c == '#' || c == '\n' || c == '\r' then return .blank
        let (path, name) ← key
        exactly ['=']
        blanks
        return .assignment path name (← readValue maxDepth (s.length + 1)))
    lineEnd
    return line : Reader Line) s

/-- Adds a line to the document; `opened` is the path of the open table. -/
def addLine (root : Entries) (opened : List String) : Line → Option (Entries × List String)
  | .blank => some (root, opened)
  | .header path name => do return (← openTable path name root, path ++ [name])
  | .arrayHeader path name => do return (← openTables path name root, path ++ [name])
  | .assignment path name v => do
    return (← updateAt false (assign path name v) opened {} root, opened)

/-- Reads lines up to the end of the text. -/
def readLines : (fuel : Nat) → List Char → Entries → (opened : List String) → Option Entries
  | 0, _, _, _ => none
  | fuel + 1, s, root, opened => do
    let (line, rest) ← readLine s
    let (root, opened) ← addLine root opened line
    if rest.isEmpty then return root else readLines fuel rest root opened

/-- **Reads a document.** A byte order mark at its beginning is skipped. -/
def read? (text : String) : Option TomlValue := do
  let s := match text.toList with
    | '\uFEFF' :: r => r
    | s => s
  return .table (finish (← readLines (s.length + 1) s [] []))

end NullFlow.Toml
