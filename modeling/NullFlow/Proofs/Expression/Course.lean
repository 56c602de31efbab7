import NullFlow.Proofs.Analysis.Dereference
import NullFlow.Proofs.Condition.Evaluation

/-!
# The course of an expression

The facts of an expression leave out a dereference of which a test before it in the expression has
shown that its variable is not null. To say what that is worth, an expression is read as a `Course`:
operand by operand what its evaluation does, where it tests a variable and which operands depend on
the outcome. A run of a course is a list of occurrences, the tests among them; a dereference that
the facts leave out is one of its own.

The guards of the facts are those of the course: `Course.written` and `Course.Runs` hand them down
alike, so that each dereference in a run is the same one as in the list of what is written down.
-/

namespace NullFlow

/-- **What happens in an evaluation.** -/
inductive Occurrence where
  /-- Something that is among the facts. -/
  | fact (f : Fact)
  /-- A dereference that the facts leave out. -/
  | leftOut (v : String) (kind : DerefKind) (line : Nat)
  /-- A variable is compared with null. -/
  | test (v : String) (notNull : Bool)

namespace Occurrence

/-- A dereference, which is left out if the variable is guarded. -/
def dereference (guarded : Vars) (v : String) (kind : DerefKind) (line : Nat) : Occurrence :=
  if guarded.contains v then .leftOut v kind line else .fact (.deref v kind line)

/-- What an occurrence does, listed or not. -/
def done? : Occurrence → Option Fact
  | .fact f => some f
  | .leftOut v kind line => some (.deref v kind line)
  | .test _ _ => none

/-- What the facts list of an occurrence. -/
def listed? : Occurrence → Option Fact
  | .fact f => some f
  | .leftOut _ _ _ | .test _ _ => none

def isTest : Occurrence → Bool
  | .test _ _ => true
  | .fact _ | .leftOut _ _ _ => false

/-- The occurrence assigns to a variable. -/
def Assigns (v : String) : Occurrence → Prop
  | .fact f => f.Assigns v
  | .leftOut _ _ _ | .test _ _ => False

end Occurrence

/-- **What an expression does, and where it tests variables.** -/
inductive Course where
  | nothing
  | fact (f : Fact)
  | dereference (v : String) (kind : DerefKind) (line : Nat)
  /-- Two parts one after the other; the outcome of the whole is open. -/
  | seq (first second : Course)
  /-- A part whose outcome is that of the whole, and what comes after it. -/
  | leading (first rest : Course)
  /-- A part that may be left out. -/
  | optional (c : Course)
  /-- A part whose outcome tells of a variable: it is not null exactly if the outcome is `sense`. -/
  | test (sense : Bool) (v : String) (c : Course)
  | not (c : Course)
  /-- `l && r` if a left operand that is false decides, `l || r` if one that is true does. -/
  | junction (decisive : Bool) (l r : Course)
  /-- `c ? y : n`. -/
  | choice (c y n : Course)

namespace Course

/-- Several parts in a row. -/
def all (cs : List Course) : Course := cs.foldr .seq .nothing

/-- Several parts in a row, of which the first one gives the outcome. -/
def led : List Course → Course
  | [] => .nothing
  | c :: cs => .leading c (all cs)

/-- A part whose outcome tells of a variable, if it names one. -/
def testing (sense : Bool) : Option String → Course → Course
  | some v, c => .test sense v c
  | none, c => c

/-- **What the outcome of a course says about variables.** -/
def nullTest : Course → NullTest
  | .leading c _ => c.nullTest
  | .test sense v _ => if sense then (NullTest.isNull v).negate else .isNull v
  | .not c => c.nullTest.negate
  | .junction decisive l r =>
    if decisive then l.nullTest.or r.nullTest else l.nullTest.and r.nullTest
  | .nothing | .fact _ | .dereference _ _ _ | .seq _ _ | .optional _ | .choice _ _ _ => .none

/-- **All that is written down**, where some variables are guarded: the right operand of `&&` or
`||` and the branches of a choice know the outcome of the test before them. -/
def written (guarded : Vars) : Course → List Occurrence
  | .nothing => []
  | .fact f => [.fact f]
  | .dereference v kind line => [.dereference guarded v kind line]
  | .seq a b | .leading a b => a.written guarded ++ b.written guarded
  | .optional c | .test _ _ c | .not c => c.written guarded
  | .junction decisive l r =>
    l.written guarded ++ r.written (guarded ∪ l.nullTest.nonNullWhen (!decisive))
  | .choice c y n =>
    c.written guarded ++ y.written (guarded ∪ c.nullTest.nonNullWhen true)
      ++ n.written (guarded ∪ c.nullTest.nonNullWhen false)

/-- What of it counts as a fact. -/
def gather (read : Occurrence → Option Fact) (guarded : Vars) (c : Course) : List Fact :=
  (c.written guarded).filterMap read

/-- **The runs of a course**: an outcome, and what happens on the way to it. An operand that the
outcome of another one excludes is not evaluated. -/
inductive Runs : Vars → Course → Bool → List Occurrence → Prop
  | nothing {guarded : Vars} {b : Bool} : Runs guarded .nothing b []
  | fact {guarded : Vars} {f : Fact} {b : Bool} : Runs guarded (.fact f) b [.fact f]
  | dereference {guarded : Vars} {v : String} {kind : DerefKind} {line : Nat} {b : Bool} :
      Runs guarded (.dereference v kind line) b [.dereference guarded v kind line]
  | seq {guarded : Vars} {a c : Course} {x y b : Bool} {es fs : List Occurrence}
      (ha : Runs guarded a x es) (hc : Runs guarded c y fs) : Runs guarded (.seq a c) b (es ++ fs)
  | leading {guarded : Vars} {a c : Course} {b y : Bool} {es fs : List Occurrence}
      (ha : Runs guarded a b es) (hc : Runs guarded c y fs) :
      Runs guarded (.leading a c) b (es ++ fs)
  | skip {guarded : Vars} {c : Course} {b : Bool} : Runs guarded (.optional c) b []
  | take {guarded : Vars} {c : Course} {b : Bool} {es : List Occurrence} (h : Runs guarded c b es) :
      Runs guarded (.optional c) b es
  | test {guarded : Vars} {sense : Bool} {v : String} {c : Course} {x b : Bool}
      {es : List Occurrence} (h : Runs guarded c x es) :
      Runs guarded (.test sense v c) b (es ++ [.test v (b == sense)])
  | not {guarded : Vars} {c : Course} {b : Bool} {es : List Occurrence} (h : Runs guarded c b es) :
      Runs guarded (.not c) (!b) es
  | decided {guarded : Vars} {decisive : Bool} {l r : Course} {es : List Occurrence}
      (h : Runs guarded l decisive es) : Runs guarded (.junction decisive l r) decisive es
  | undecided {guarded : Vars} {decisive b : Bool} {l r : Course} {es fs : List Occurrence}
      (hl : Runs guarded l (!decisive) es)
      (hr : Runs (guarded ∪ l.nullTest.nonNullWhen (!decisive)) r b fs) :
      Runs guarded (.junction decisive l r) b (es ++ fs)
  | consequence {guarded : Vars} {c y n : Course} {b : Bool} {es fs : List Occurrence}
      (hc : Runs guarded c true es) (hy : Runs (guarded ∪ c.nullTest.nonNullWhen true) y b fs) :
      Runs guarded (.choice c y n) b (es ++ fs)
  | alternative {guarded : Vars} {c y n : Course} {b : Bool} {es fs : List Occurrence}
      (hc : Runs guarded c false es) (hn : Runs (guarded ∪ c.nullTest.nonNullWhen false) n b fs) :
      Runs guarded (.choice c y n) b (es ++ fs)

variable {guarded : Vars} {c : Course} {cs : List Course} {b x : Bool} {es : List Occurrence}
  {v : String}

/-! ## Small laws -/

section

variable {read : Occurrence → Option Fact}

@[simp] theorem gather_nothing : nothing.gather read guarded = [] := rfl

theorem gather_fact {f : Fact} (hread : ∀ f, read (.fact f) = some f) :
    (fact f).gather read guarded = [f] :=
  List.filterMap_cons_some (hread f)

@[simp] theorem gather_seq {a b : Course} :
    (seq a b).gather read guarded = a.gather read guarded ++ b.gather read guarded :=
  List.filterMap_append

@[simp] theorem gather_leading {a b : Course} :
    (leading a b).gather read guarded = a.gather read guarded ++ b.gather read guarded :=
  List.filterMap_append

@[simp] theorem gather_optional : (optional c).gather read guarded = c.gather read guarded := rfl

@[simp] theorem gather_not : (not c).gather read guarded = c.gather read guarded := rfl

@[simp] theorem gather_testing {sense : Bool} {v? : Option String} :
    (testing sense v? c).gather read guarded = c.gather read guarded := by
  cases v? <;> rfl

@[simp] theorem gather_junction {decisive : Bool} {l r : Course} :
    (junction decisive l r).gather read guarded =
      l.gather read guarded ++ r.gather read (guarded ∪ l.nullTest.nonNullWhen (!decisive)) :=
  List.filterMap_append

@[simp] theorem gather_choice {y n : Course} : (choice c y n).gather read guarded =
    c.gather read guarded ++ y.gather read (guarded ∪ c.nullTest.nonNullWhen true) ++
      n.gather read (guarded ∪ c.nullTest.nonNullWhen false) := by
  simp only [gather, written, List.filterMap_append]

@[simp] theorem gather_all : (all cs).gather read guarded = cs.flatMap (gather read guarded) := by
  induction cs with
  | nil => rfl
  | cons c cs ih =>
    rw [List.flatMap_cons, ← ih]
    exact gather_seq

@[simp] theorem gather_led : (led cs).gather read guarded = cs.flatMap (gather read guarded) := by
  cases cs with
  | nil => rfl
  | cons c cs => rw [led, gather_leading, gather_all, List.flatMap_cons]

end

@[simp] theorem nullTest_all : (all cs).nullTest = .none := by
  cases cs <;> rfl

/-! ## Runs -/

/-- What the outcome of a test says. -/
theorem says_test_iff {sense : Bool} {w : String} :
    (test sense w c).nullTest.Says b v x ↔ w = v ∧ x = (b == sense) := by
  rw [nullTest]
  cases sense <;> cases b <;> simp [NullTest.says_negate_iff, NullTest.says_isNull_iff]

/-- **What a course says of its outcome is tested** on the way to it. -/
theorem Runs.test_of_nullTest (h : Runs guarded c b es) (hx : c.nullTest.Says b v x) :
    .test v x ∈ es := by
  induction h generalizing x with
  | nothing | fact | dereference | seq | skip | take | consequence | alternative =>
    exact (NullTest.not_says_none hx).elim
  | leading _ _ ih => exact List.mem_append_left _ (ih hx)
  | test =>
    obtain ⟨rfl, rfl⟩ := says_test_iff.mp hx
    exact List.mem_append_right _ (List.mem_singleton_self _)
  | not _ ih =>
    have hx := NullTest.says_negate_iff.mp hx
    rw [Bool.not_not] at hx
    exact ih hx
  | decided _ ih =>
    have hx := NullTest.says_junction_iff.mp hx
    rw [if_pos rfl] at hx
    exact ih hx.1
  | undecided _ _ ihl ihr =>
    have hx := NullTest.says_junction_iff.mp hx
    split at hx
    · exact List.mem_append_right _ (ihr hx.2)
    · next hb =>
      obtain rfl := Bool.eq_not_of_ne hb
      exact hx.elim (fun hx => List.mem_append_left _ (ihl hx))
        fun hx => List.mem_append_right _ (ihr hx)

/-- **What a run does is written down**, in the same order. -/
theorem Runs.sublist_written (h : Runs guarded c b es) :
    (es.filter (!·.isTest)).Sublist (c.written guarded) := by
  induction h with
  | nothing | fact => exact List.Sublist.refl _
  | dereference => exact List.filter_sublist
  | seq _ _ iha ihc | leading _ _ iha ihc | undecided _ _ iha ihc =>
    rw [List.filter_append]
    exact iha.append ihc
  | skip => exact List.nil_sublist _
  | take _ ih | not _ ih => exact ih
  | test _ ih =>
    rw [List.filter_append]
    exact (List.append_nil _).symm ▸ ih
  | decided _ ih => exact ih.trans (List.sublist_append_left _ _)
  | consequence _ _ ihc ihy =>
    rw [List.filter_append]
    exact (ihc.append ihy).trans (List.sublist_append_left _ _)
  | alternative _ _ ihc ihn =>
    rw [List.filter_append]
    exact (ihc.trans (List.sublist_append_left _ _)).append ihn

/-- **Dereferences are left out for a reason**: the variable is guarded, or was tested before. -/
def LeftOutTested (guarded : Vars) (es : List Occurrence) : Prop :=
  ∀ before v kind line after, es = before ++ .leftOut v kind line :: after →
    v ∈ guarded ∨ .test v true ∈ before

/-- What was tested in a first part may be guarded in a second one. -/
theorem LeftOutTested.append {guarded' : Vars} (h : LeftOutTested guarded es)
    (h' : LeftOutTested guarded' fs)
    (hguarded : ∀ v ∈ guarded', v ∈ guarded ∨ .test v true ∈ es) :
    LeftOutTested guarded (es ++ fs) := by
  have hlater (l : List Occurrence) {v : String} {kind : DerefKind} {line : Nat}
      {after : List Occurrence} (hfs : fs = l ++ .leftOut v kind line :: after) :
      v ∈ guarded ∨ .test v true ∈ es ++ l :=
    (h' l v kind line after hfs).elim
      (fun hv => (hguarded v hv).imp_right (List.mem_append_left _))
      fun hv => Or.inr (List.mem_append_right _ hv)
  intro before v kind line after heq
  rcases List.append_eq_append_iff.mp heq with ⟨l, rfl, hfs⟩ | ⟨l, hes, hrest⟩
  · exact hlater l hfs
  · cases l with
    | nil =>
      rw [List.append_nil] at hes
      subst hes
      simpa using hlater [] hrest.symm
    | cons e l =>
      obtain ⟨rfl, -⟩ := List.cons.inj hrest
      exact h before v kind line l hes

theorem LeftOutTested.of_not_mem (h : ∀ v kind line, .leftOut v kind line ∉ es) :
    LeftOutTested guarded es := by
  rintro before v kind line after rfl
  exact absurd (List.mem_append_right _ List.mem_cons_self) (h v kind line)

/-- What the outcome of a first part has shown is guarded in the second one. -/
theorem LeftOutTested.append_shown {fs : List Occurrence} (hc : Runs guarded c b es)
    (h : LeftOutTested guarded es)
    (h' : LeftOutTested (guarded ∪ c.nullTest.nonNullWhen b) fs) :
    LeftOutTested guarded (es ++ fs) := by
  refine h.append h' fun v hv => ?_
  refine (Std.ExtTreeSet.mem_union_iff.mp hv).imp_right fun hv => ?_
  exact hc.test_of_nullTest (x := true) hv

/-- **In a run, dereferences are left out for a reason.** -/
theorem Runs.leftOutTested (h : Runs guarded c b es) : LeftOutTested guarded es := by
  induction h with
  | nothing | skip => exact .of_not_mem fun _ _ _ => List.not_mem_nil
  | fact => exact .of_not_mem fun _ _ _ => by simp
  | @dereference guarded v kind line =>
    by_cases hv : guarded.contains v
    · intro before w kind' line' after heq
      have hmem : .leftOut w kind' line' ∈ [Occurrence.dereference guarded v kind line] := by
        rw [heq]
        exact List.mem_append_right _ List.mem_cons_self
      rw [Occurrence.dereference, if_pos hv] at hmem
      cases List.mem_singleton.mp hmem
      exact Or.inl (Std.ExtTreeSet.contains_iff_mem.mp hv)
    · refine .of_not_mem fun _ _ _ => ?_
      rw [Occurrence.dereference, if_neg hv]
      simp
  | seq _ _ iha ihc | leading _ _ iha ihc => exact iha.append ihc fun v hv => Or.inl hv
  | take _ ih | not _ ih | decided _ ih => exact ih
  | test _ ih =>
    exact ih.append (.of_not_mem fun _ _ _ => by simp) fun v hv => Or.inl hv
  | undecided hc _ ih ih' | consequence hc _ ih ih' | alternative hc _ ih ih' =>
    exact ih.append_shown hc ih'

end Course

end NullFlow
