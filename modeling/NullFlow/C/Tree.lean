import NullFlow.C.Reading.Read

/-!
# From drafts to trees

A draft has parts for everything the grammar speaks of. The syntax tree keeps those that become
nodes, and what a group is made of becomes children of the construct around it. A part has the kind
and the role that its production gives it; a group hands its role on to its parts that have none.
Comments and errors, which no production mentions, have no role.
-/

namespace NullFlow.C

namespace Draft

/-- **The node of a draft over its children.** -/
def toNode (source : String) (i : DraftInfo) (kind : Kind) (role? : Option Role) (start : Distance)
    (children : List Node) : Node :=
  ⟨kind, role?, Automaton.slice source start (start.add i.size), start.rows + 1, start.columns + 1,
    children⟩

/-- **The nodes that a draft becomes**, in front of others. `place` is where the blanks before it
begin; `kind?` and `role?` are what its production gives it. -/
def addNodes (a : Automaton) (source : String) (place : Distance) (kind? : Option Kind)
    (role? : Option Role) : Draft → List Node → List Node
  | mk i parts, after =>
    let layout := a.layouts[i.layout]!
    match kind?.or (a.kind? i.label) with
    | some kind =>
      toNode source i kind role? (place.add i.gap) (addAll place layout none parts []) :: after
    | none => addAll place layout role? parts after
where
  /-- The nodes of several parts, with the role that those without one get. -/
  addAll (place : Distance) (layout : List Part) (role? : Option Role) :
      List Draft → List Node → List Node
    | [], after => after
    | c :: r, after =>
      let next := place.add c.total
      if c.info.isExtra then
        addNodes a source place none none c (addAll next layout role? r after)
      else
        let kind? := layout.head?.bind (·.kind?)
        let own? := layout.head?.bind (·.role?)
        addNodes a source place kind? (own?.or role?) c (addAll next layout.tail role? r after)

/-- **The syntax tree of a draft.** -/
def toTree (a : Automaton) (source : String) (d : Draft) : Option Node :=
  (addNodes a source .zero none none d []).head?

end Draft

end NullFlow.C
