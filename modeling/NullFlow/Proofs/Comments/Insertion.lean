import NullFlow.Graph.OfFunction
import NullFlow.Proofs.Expression.Correspondence

/-!
# Comments in a syntax tree

`C.Commented` says that one list of nodes is another one with comments inserted in it, or at any
place below its nodes. Of the nodes that were there before, what counts is as it was. Their texts
may change, for the text of a construct covers the comments inside of it, but a name stays the same
name.

Children are looked up by role, by kind and by position. A comment has no role and a kind of its
own, so a look-up by role or kind finds in the new tree what stood in its place in the old one. A
look-up by position does not: the **first named child** may now be a comment, which hides what
stands behind it. If no comment does so (`C.Node.ShownIn`), then each node **becomes** another one
of which the same is read off (`C.Node.Becomes`).
-/

namespace NullFlow.C

namespace Node

/-- A comment: a leaf without a role. -/
structure IsComment (c : Node) : Prop where
  kind : c.kind = .comment
  role : c.role = none
  children : c.children = []

/-- **A node reads like another one** if their texts agree as far as anything depends on them: in
full where they are a name, a number or a label, and otherwise on being longer than one character
and, where they say what is called, on being the name of a function that never returns. -/
structure ReadsLike (n m : Node) : Prop where
  name : n.kind = .identifier ∨ n.kind = .numberLiteral ∨ n.role = some .label → n.text = m.text
  long : 1 < n.excerpt.utf8ByteSize ↔ 1 < m.excerpt.utf8ByteSize
  called : n.role = some .function →
    noReturnFunctions.contains n.excerpt = noReturnFunctions.contains m.excerpt

theorem ReadsLike.of_text_eq {n m : Node} (h : n.text = m.text) : n.ReadsLike m := by
  have hexcerpt : n.excerpt = m.excerpt := by
    unfold excerpt
    rw [h]
  exact ⟨fun _ => h, by rw [hexcerpt], fun _ => by rw [hexcerpt]⟩

/-- **Nodes agree**, their children apart. -/
structure Agrees (n m : Node) : Prop where
  kind : n.kind = m.kind
  role : n.role = m.role
  line : n.line = m.line
  reads : n.ReadsLike m

/-- **What stands first in a node is not hidden** in another one: if it counts what stands first and
a comment does, then one did so before. -/
def ShownIn (n m : Node) : Prop :=
  n.looksAtFirst = true → ∀ c d, n.firstNamed? = some c → m.firstNamed? = some d →
    d.kind = .comment → c.kind = .comment

end Node

/-- **Comments are inserted** among some nodes and below them, as far as it is allowed that a node
becomes another one. -/
inductive Commented (allowed : Node → Node → Prop) : List Node → List Node → Prop
  | nil : Commented allowed [] []
  | insert {c : Node} {ns ms : List Node} (hc : c.IsComment) (h : Commented allowed ns ms) :
      Commented allowed ns (c :: ms)
  | keep {n m : Node} {ns ms : List Node} (hagrees : n.Agrees m) (hallowed : allowed n m)
      (hchildren : Commented allowed n.children m.children) (h : Commented allowed ns ms) :
      Commented allowed (n :: ns) (m :: ms)

/-- **A node becomes another one** by comments inside of it that hide nothing. -/
structure Node.Becomes (n m : Node) : Prop where
  agrees : n.Agrees m
  shown : n.ShownIn m
  children : Commented Node.ShownIn n.children m.children

/-! ## Lists of nodes -/

namespace Commented

variable {ns ms : List Node} {p : Node → Bool}

/-- The first node in a role becomes the first one in that role. -/
theorem find?_role (h : Commented Node.ShownIn ns ms) (r : Role) :
    Option.Rel Node.Becomes (ns.find? (·.role == some r)) (ms.find? (·.role == some r)) := by
  induction h with
  | nil => exact .none
  | insert hc _ ih =>
    rw [List.find?_cons_of_neg (by simp [hc.role])]
    exact ih
  | @keep n m _ _ hagrees hshown hchildren _ _ ih =>
    rw [List.find?_cons, List.find?_cons, ← hagrees.role]
    cases n.role == some r with
    | true => exact .some ⟨hagrees, hshown, hchildren⟩
    | false => exact ih

/-- The first named node becomes the first one, unless a comment was inserted in front of it. -/
theorem find?_isNamed (h : Commented Node.ShownIn ns ms) :
    Option.Rel Node.Becomes (ns.find? Node.isNamed) (ms.find? Node.isNamed) ∨
      ∃ c, ms.find? Node.isNamed = some c ∧ c.kind = .comment := by
  induction h with
  | nil => exact Or.inl .none
  | @insert c _ _ hc _ _ =>
    have hnamed : c.isNamed = true := by rw [Node.isNamed, hc.kind]
    exact Or.inr ⟨c, List.find?_cons_of_pos hnamed, hc.kind⟩
  | @keep n m _ _ hagrees hshown hchildren _ _ ih =>
    have hnamed : m.isNamed = n.isNamed := by rw [Node.isNamed, Node.isNamed, hagrees.kind]
    rw [List.find?_cons, List.find?_cons, hnamed]
    cases n.isNamed with
    | true => exact Or.inl (.some ⟨hagrees, hshown, hchildren⟩)
    | false => exact ih

theorem filter (h : Commented Node.ShownIn ns ms) (hp : ∀ n m, Node.Agrees n m → p n = p m) :
    Commented Node.ShownIn (ns.filter p) (ms.filter p) := by
  induction h with
  | nil => exact .nil
  | @insert c _ _ hc _ ih =>
    rw [List.filter_cons]
    split
    · exact .insert hc ih
    · exact ih
  | keep hagrees hshown hchildren _ _ ih =>
    rw [List.filter_cons, List.filter_cons, ← hp _ _ hagrees]
    split
    · exact .keep hagrees hshown hchildren ih
    · exact ih

/-- Nodes that are picked so that no comment is among them correspond to each other. -/
theorem forall₂_filter (h : Commented Node.ShownIn ns ms)
    (hp : ∀ n m, Node.Agrees n m → p n = p m) (hcomment : ∀ c, Node.IsComment c → p c = false) :
    List.Forall₂ Node.Becomes (ns.filter p) (ms.filter p) := by
  induction h with
  | nil => exact .nil
  | insert hc _ ih =>
    rw [List.filter_cons_of_neg (Bool.eq_false_iff.mp (hcomment _ hc))]
    exact ih
  | keep hagrees hshown hchildren _ _ ih =>
    rw [List.filter_cons, List.filter_cons, ← hp _ _ hagrees]
    split
    · exact .cons ⟨hagrees, hshown, hchildren⟩ ih
    · exact ih

/-- What is collected from all nodes is the same if comments contribute nothing. -/
theorem flatMap_congr {α : Type} {f : Node → List α} (h : Commented Node.ShownIn ns ms)
    (hcomment : ∀ c, Node.IsComment c → f c = [])
    (hf : ∀ n ∈ ns, ∀ m, n.Becomes m → f n = f m) : ns.flatMap f = ms.flatMap f := by
  induction h with
  | nil => rfl
  | insert hc _ ih =>
    rw [List.flatMap_cons, hcomment _ hc]
    exact ih hf
  | keep hagrees hshown hchildren _ _ ih =>
    rw [List.flatMap_cons, List.flatMap_cons,
      hf _ List.mem_cons_self _ ⟨hagrees, hshown, hchildren⟩,
      ih fun n hn => hf n (List.mem_cons_of_mem _ hn)]

/-- What is collected from all nodes corresponds if comments contribute nothing. -/
theorem forall₂_flatMap {f : Node → List Node} (h : Commented Node.ShownIn ns ms)
    (hcomment : ∀ c, Node.IsComment c → f c = [])
    (hf : ∀ n ∈ ns, ∀ m, n.Becomes m → List.Forall₂ Node.Becomes (f n) (f m)) :
    List.Forall₂ Node.Becomes (ns.flatMap f) (ms.flatMap f) := by
  induction h with
  | nil => exact .nil
  | insert hc _ ih =>
    rw [List.flatMap_cons, hcomment _ hc]
    exact ih hf
  | keep hagrees hshown hchildren _ _ ih =>
    rw [List.flatMap_cons, List.flatMap_cons]
    exact List.rel_append (hf _ List.mem_cons_self _ ⟨hagrees, hshown, hchildren⟩)
      (ih fun n hn => hf n (List.mem_cons_of_mem _ hn))

end Commented

/-! ## Children of a node -/

namespace Node.Becomes

variable {n m : Node}

theorem kind_eq (h : n.Becomes m) : n.kind = m.kind := h.agrees.kind

theorem line_eq (h : n.Becomes m) : n.line = m.line := h.agrees.line

/-- The child in a role becomes the child in that role. -/
theorem child? (h : n.Becomes m) (r : Role) :
    n.child? r = none ∧ m.child? r = none ∨
      ∃ c d, n.child? r = some c ∧ m.child? r = some d ∧ c.Becomes d :=
  exists_of_rel (h.children.find?_role r)

theorem isSome_child? (h : n.Becomes m) (r : Role) :
    (n.child? r).isSome = (m.child? r).isSome := by
  rcases h.child? r with ⟨hn, hm⟩ | ⟨c, d, hc, hd, -⟩
  · rw [hn, hm]
  · rw [hc, hd]
    rfl

/-- What is read off the child in a role stays the same if that is so for the child. -/
theorem bind_child? {α : Type} {f : Node → Option α} (h : n.Becomes m) (r : Role)
    (hf : ∀ c d : Node, c.Becomes d → f c = f d) : (n.child? r).bind f = (m.child? r).bind f := by
  rcases h.child? r with ⟨hn, hm⟩ | ⟨c, d, hc, hd, hcd⟩
  · rw [hn, hm]
  · rw [hc, hd]
    exact hf c d hcd

/-- The name of a label stays the same. -/
theorem label_eq (h : n.Becomes m) : (n.child? .label).elim "" (·.excerpt) =
    (m.child? .label).elim "" (·.excerpt) := by
  rcases h.child? .label with ⟨hn, hm⟩ | ⟨c, d, hc, hd, hcd⟩
  · rw [hn, hm]
  · have hrole : c.role = some .label := by simpa using List.find?_some hc
    rw [hc, hd]
    exact congrArg (fun t => String.ofList (t.toList.take excerptLength))
      (hcd.agrees.reads.name (Or.inr (Or.inr hrole)))

/-- A call that never returns stays one. -/
theorem noReturn_eq (h : n.Becomes m) :
    noReturnFunctions.contains ((n.child? .function).elim "" (·.excerpt)) =
      noReturnFunctions.contains ((m.child? .function).elim "" (·.excerpt)) := by
  rcases h.child? .function with ⟨hn, hm⟩ | ⟨c, d, hc, hd, hcd⟩
  · rw [hn, hm]
  · have hrole : c.role = some .function := by simpa using List.find?_some hc
    rw [hc, hd]
    exact hcd.agrees.reads.called hrole

theorem hasOperator_eq (h : n.Becomes m) (text : String) :
    n.hasOperator text = m.hasOperator text := by
  unfold hasOperator
  rcases h.child? .operator with ⟨hn, hm⟩ | ⟨c, d, hc, hd, hcd⟩
  · rw [hn, hm]
  · simp only [hc, hd, hcd.kind_eq]

/-- **The first named child** becomes the first one where it counts, or comments stand first. -/
theorem firstNamed? (h : n.Becomes m) (hlooks : n.looksAtFirst = true) :
    (∃ c d, n.firstNamed? = some c ∧ m.firstNamed? = some d ∧ c.Becomes d) ∨
      (∀ c, n.firstNamed? = some c → c.kind = .comment) ∧
        ∀ d, m.firstNamed? = some d → d.kind = .comment := by
  rcases h.children.find?_isNamed with hrel | ⟨d, hd, hcomment⟩
  · rcases exists_of_rel hrel with ⟨hn, hm⟩ | hboth
    · refine Or.inr ⟨fun c hc => ?_, fun d hd => ?_⟩
      · cases hn.symm.trans hc
      · cases hm.symm.trans hd
    · exact Or.inl hboth
  · refine Or.inr ⟨fun c hc => h.shown hlooks c d hc hd hcomment, fun d' hd' => ?_⟩
    cases hd.symm.trans hd'
    exact hcomment

theorem namedChildren (h : n.Becomes m) :
    Commented ShownIn n.namedChildren m.namedChildren :=
  h.children.filter fun n m hnm => by rw [isNamed, isNamed, hnm.kind]

theorem childrenIn (h : n.Becomes m) (r : Role) :
    List.Forall₂ Becomes (n.childrenIn r) (m.childrenIn r) :=
  h.children.forall₂_filter (fun n m hnm => by rw [hnm.role]) fun c hc => by rw [hc.role]; rfl

/-- The arguments of a call become the arguments. -/
theorem callArguments (h : n.Becomes m) :
    List.Forall₂ Becomes n.callArguments m.callArguments := by
  unfold Node.callArguments
  rcases h.child? .arguments with ⟨hn, hm⟩ | ⟨c, d, hc, hd, hcd⟩
  · rw [hn, hm]
    exact .nil
  · rw [hc, hd]
    exact hcd.namedChildren.forall₂_filter (fun n m hnm => by rw [hnm.kind])
      fun c hc => by rw [hc.kind]; rfl

end Node.Becomes

end NullFlow.C
