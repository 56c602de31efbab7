import NullFlow.Graph.Basic

/-!
# Structured statements and what they do

The statements of a function without labels and jumps to labels form a tree, and what such a tree
does when it is executed needs no graph to be said: a loop does what its body does, again and again,
and `break` ends the innermost loop or `switch` around it. `Stmt.Runs` says it for every way in
which conditions may come out and a `switch` may select, for nothing is known about values here.

What is done is a list of **actions**: statements are executed, conditions among them, and a
condition comes out true or false.
-/

namespace NullFlow

/-- **An action of an execution.** -/
inductive Action where
  /-- A statement is executed, or a condition evaluated. -/
  | ran (s : Statement)
  /-- The condition before comes out. -/
  | decided (outcome : Bool)
  deriving DecidableEq, Repr

/-- **How a statement comes to its end.** -/
inductive Completion where
  /-- At its end, from where control goes on. -/
  | normal
  /-- In a `break` that leaves something around it. -/
  | broke
  /-- In a `continue` of a loop around it. -/
  | continued
  /-- In a `return`. -/
  | returned
  /-- In a call to a function that never returns. -/
  | halted
  deriving DecidableEq, Repr

namespace Completion

/-- Whether a loop goes on after its body came to this end. -/
def goesOn : Completion → Bool
  | .normal | .continued => true
  | _ => false

/-- The end of a loop or a `switch` that something in it brings about: a `break` in it is over. -/
def outside : Completion → Completion
  | .broke => .normal
  | o => o

end Completion

mutual

/-- **A structured statement.** The leaves are statements as a graph shows them, and so are the
conditions. -/
inductive Stmt where
  | skip
  | plain (s : Statement)
  | ret (s : Statement)
  /-- A call to a function that never returns. -/
  | halt (s : Statement)
  | brk (s : Statement)
  | cont (s : Statement)
  | seq (first second : Stmt)
  | ifThen (condition : Statement) (yes : Stmt)
  | ifElse (condition : Statement) (yes no : Stmt)
  | whileLoop (condition : Statement) (body : Stmt)
  | doLoop (body : Stmt) (condition : Statement)
  /-- A `for` loop after its first clause. -/
  | forLoop (condition update : Option Statement) (body : Stmt)
  | switch (value : Statement) (groups : Groups)

/-- **The groups of a `switch`**: what stands behind one `case` or `default`, up to the next. -/
inductive Groups where
  | none
  | group (isDefault : Bool) (body : Stmt) (rest : Groups)

end

namespace Groups

/-- What is done from the first group on, if nothing leaves the `switch`. -/
def body : Groups → Stmt
  | .none => .skip
  | .group _ s rest => .seq s rest.body

/-- **What a `switch` may do**: it starts at some group and falls through the following ones. -/
def entries : Groups → List Stmt
  | .none => []
  | .group isDefault s rest => (Groups.group isDefault s rest).body :: rest.entries

/-- Whether there is a `default`, so that some group is selected in any case. -/
def hasDefault : Groups → Bool
  | .none => false
  | .group isDefault _ rest => isDefault || rest.hasDefault

end Groups

namespace Stmt

/-- What a `for` loop does before its body: its condition comes out true, if it has one. -/
def forTest : Option Statement → List Action
  | some c => [.ran c, .decided true]
  | none => []

/-- **The executions of a statement**: what it may do and how it then ends, if every condition may
come out either way and a `switch` may select any of its groups. -/
inductive Runs : Stmt → List Action → Completion → Prop
  | skip : Runs .skip [] .normal
  | plain {s : Statement} : Runs (.plain s) [.ran s] .normal
  | ret {s : Statement} : Runs (.ret s) [.ran s] .returned
  | halt {s : Statement} : Runs (.halt s) [.ran s] .halted
  | brk {s : Statement} : Runs (.brk s) [.ran s] .broke
  | cont {s : Statement} : Runs (.cont s) [.ran s] .continued
  | seq {s t : Stmt} {as bs : List Action} {o : Completion} (h₁ : Runs s as .normal)
      (h₂ : Runs t bs o) : Runs (.seq s t) (as ++ bs) o
  | seqStop {s t : Stmt} {as : List Action} {o : Completion} (h : Runs s as o)
      (ho : o ≠ .normal) : Runs (.seq s t) as o
  | ifThen {c : Statement} {s : Stmt} {as : List Action} {o : Completion} (h : Runs s as o) :
      Runs (.ifThen c s) (.ran c :: .decided true :: as) o
  | ifThenSkip {c : Statement} {s : Stmt} :
      Runs (.ifThen c s) [.ran c, .decided false] .normal
  | ifElse {c : Statement} {s t : Stmt} {as : List Action} {o : Completion} (outcome : Bool)
      (h : Runs (if outcome then s else t) as o) :
      Runs (.ifElse c s t) (.ran c :: .decided outcome :: as) o
  | whileEnd {c : Statement} {s : Stmt} : Runs (.whileLoop c s) [.ran c, .decided false] .normal
  | whileAgain {c : Statement} {s : Stmt} {as bs : List Action} {o o' : Completion}
      (h₁ : Runs s as o) (ho : o.goesOn = true) (h₂ : Runs (.whileLoop c s) bs o') :
      Runs (.whileLoop c s) (.ran c :: .decided true :: (as ++ bs)) o'
  | whileLeave {c : Statement} {s : Stmt} {as : List Action} {o : Completion} (h : Runs s as o)
      (ho : o.goesOn = false) : Runs (.whileLoop c s) (.ran c :: .decided true :: as) o.outside
  | doEnd {c : Statement} {s : Stmt} {as : List Action} {o : Completion} (h : Runs s as o)
      (ho : o.goesOn = true) : Runs (.doLoop s c) (as ++ [.ran c, .decided false]) .normal
  | doAgain {c : Statement} {s : Stmt} {as bs : List Action} {o o' : Completion}
      (h₁ : Runs s as o) (ho : o.goesOn = true) (h₂ : Runs (.doLoop s c) bs o') :
      Runs (.doLoop s c) (as ++ .ran c :: .decided true :: bs) o'
  | doLeave {c : Statement} {s : Stmt} {as : List Action} {o : Completion} (h : Runs s as o)
      (ho : o.goesOn = false) : Runs (.doLoop s c) as o.outside
  | forEnd {c : Statement} {u : Option Statement} {s : Stmt} :
      Runs (.forLoop (some c) u s) [.ran c, .decided false] .normal
  | forAgain {c u : Option Statement} {s : Stmt} {as bs : List Action} {o o' : Completion}
      (h₁ : Runs s as o) (ho : o.goesOn = true) (h₂ : Runs (.forLoop c u s) bs o') :
      Runs (.forLoop c u s) (forTest c ++ as ++ u.toList.map .ran ++ bs) o'
  | forLeave {c u : Option Statement} {s : Stmt} {as : List Action} {o : Completion}
      (h : Runs s as o) (ho : o.goesOn = false) :
      Runs (.forLoop c u s) (forTest c ++ as) o.outside
  | switchSkip {c : Statement} {groups : Groups} (h : groups.hasDefault = false) :
      Runs (.switch c groups) [.ran c] .normal
  | switchEnter {c : Statement} {groups : Groups} {t : Stmt} {as : List Action} {o : Completion}
      (ht : t ∈ groups.entries) (h : Runs t as o) :
      Runs (.switch c groups) (.ran c :: as) o.outside

end Stmt

end NullFlow
