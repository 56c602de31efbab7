import NullFlow.Report.Xml

/-!
# Reading text with tags

Text between tags is read character by character (`Markup.Reader.step`). What has been read is held
apart from what is being read: the open elements, with what stands before each of them, and the tag
or the reference that has not ended yet. A closing tag has to name the innermost open element.

A text **reads as** some content if reading it adds this content to what has been read, whatever
that is and whatever elements are open (`Markup.Reads`). This is kept by putting texts one behind
the other and by putting tags around them, and text that is written for markup reads as its
characters (`Markup.reads_markup`), so none of them can begin or end an element.
-/

namespace NullFlow

/-- **What stands between tags**: characters, and elements with what they are around. -/
inductive Markup where
  | char (c : Char)
  | element (name : String) (content : List Markup)

namespace Markup

/-- The characters of a text. -/
def ofText (s : String) : List Markup := s.toList.map char

/-! ## Reading -/

/-- **What is being read**: text, a tag or a reference to a character, of which the characters read
so far are kept with the last one first. -/
inductive Mode where
  | text
  | tag (read : List Char)
  | reference (read : List Char)

/-- **What has been read so far.** -/
structure Reader where
  /-- What the innermost open element is around so far, the last first. -/
  content : List Markup := []
  /-- The names of the open elements, the innermost first, each with what stands before it. -/
  around : List (String × List Markup) := []
  mode : Mode := .text

/-- The character that a reference stands for. -/
def referred? : List Char → Option Char
  | ['a', 'm', 'p'] => some '&'
  | ['l', 't'] => some '<'
  | ['g', 't'] => some '>'
  | ['q', 'u', 'o', 't'] => some '"'
  | ['a', 'p', 'o', 's'] => some '\''
  | _ => none

namespace Reader

/-- Adds content to that of the innermost open element. -/
def add (r : Reader) (x : Markup) : Reader := ⟨x :: r.content, r.around, .text⟩

/-- Closes the innermost open element, which must have the given name. -/
def close? (r : Reader) (name : String) : Option Reader :=
  match r.around with
  | (innermost, before) :: around =>
    if innermost = name then some ⟨.element name r.content.reverse :: before, around, .text⟩
    else none
  | [] => none

/-- What a tag does. -/
def tag? (r : Reader) : List Char → Option Reader
  | '/' :: name => r.close? (String.ofList name)
  | name => some ⟨[], (String.ofList name, r.content) :: r.around, .text⟩

/-- **Reads a character.** -/
def step (r : Reader) (c : Char) : Option Reader :=
  match r.mode with
  | .text =>
    if c = '<' then some { r with mode := .tag [] }
    else if c = '&' then some { r with mode := .reference [] }
    else some (r.add (.char c))
  | .tag read =>
    if c = '>' then r.tag? read.reverse else some { r with mode := .tag (c :: read) }
  | .reference read =>
    if c = ';' then (referred? read.reverse).map fun c => r.add (.char c)
    else some { r with mode := .reference (c :: read) }

end Reader

/-- **Reads a text with tags**, in which every element is closed. -/
def read? (text : String) : Option (List Markup) :=
  match text.toList.foldlM Reader.step {} with
  | some ⟨content, [], .text⟩ => some content.reverse
  | _ => none

/-! ## What a text reads as -/

/-- **A text reads as some content** wherever it stands between tags. -/
def Reads (text : String) (xs : List Markup) : Prop :=
  ∀ content around, text.toList.foldlM Reader.step ⟨content, around, .text⟩ =
    some ⟨xs.reverse ++ content, around, .text⟩

section

variable {s t name : String} {xs ys : List Markup} {content : List Markup}
  {around : List (String × List Markup)}

theorem reads_empty : Reads "" [] := fun _ _ => rfl

/-- One text behind another reads as both of their contents. -/
theorem Reads.append (hs : Reads s xs) (ht : Reads t ys) : Reads (s ++ t) (xs ++ ys) := by
  intro content around
  rw [String.toList_append, List.foldlM_append, hs, List.reverse_append, List.append_assoc]
  exact ht _ _

theorem reads_join {α : Type} {f : α → String} {g : α → List Markup}
    (h : ∀ a, Reads (f a) (g a)) (as : List α) :
    Reads (String.join (as.map f)) (as.flatMap g) := by
  induction as with
  | nil => exact reads_empty
  | cons a as ih =>
    rw [List.map_cons, String.join_cons, List.flatMap_cons]
    exact (h a).append ih

/-- **What was read is given back** at the end. -/
theorem Reads.read? (h : Reads s xs) : read? s = some xs := by
  unfold Markup.read?
  rw [h, List.append_nil]
  exact congrArg some (List.reverse_reverse xs)

/-! ### Text -/

/-- A character that begins neither a tag nor a reference reads as itself. -/
theorem step_char {c : Char} (hlt : c ≠ '<') (hamp : c ≠ '&') :
    Reader.step ⟨content, around, .text⟩ c = some ⟨.char c :: content, around, .text⟩ := by
  show (if c = '<' then _ else if c = '&' then _ else _) = _
  rw [if_neg hlt, if_neg hamp]
  rfl

/-- A text reads as its characters if what is written for each of them does. -/
theorem reads_flatMap {f : Char → List Char} (h : ∀ c ∈ s.toList, ∀ content around,
    (f c).foldlM Reader.step ⟨content, around, .text⟩ =
      some ⟨.char c :: content, around, .text⟩) :
    Reads (String.ofList (s.toList.flatMap f)) (ofText s) := by
  intro content around
  unfold ofText
  rw [String.toList_ofList]
  generalize s.toList = cs at h
  induction cs generalizing content with
  | nil => rfl
  | cons c cs ih =>
    rw [List.flatMap_cons, List.foldlM_append, h c List.mem_cons_self]
    show (cs.flatMap f).foldlM Reader.step _ = _
    rw [ih _ fun d hd => h d (List.mem_cons_of_mem c hd), List.map_cons, List.reverse_cons,
      List.append_assoc]
    rfl

/-- **Text that is written for markup reads as its characters**, whatever they are. -/
theorem reads_markup (s : String) : Reads (Text.markup s) (ofText s) := by
  refine reads_flatMap fun c _ content around => ?_
  unfold Text.markupChar
  split
  -- a reference for each of the five marks
  iterate 5 rfl
  next hamp hlt _ _ _ =>
    rw [List.foldlM_cons, step_char hlt hamp]
    rfl

/-- Text without the marks that begin a tag or a reference reads as its characters as it is. -/
theorem reads_plain (hlt : '<' ∉ s.toList) (hamp : '&' ∉ s.toList) : Reads s (ofText s) := by
  have hsame : String.ofList (s.toList.flatMap ([·])) = s := by
    rw [List.flatMap_singleton', String.ofList_toList]
  have hreads : Reads (String.ofList (s.toList.flatMap ([·]))) (ofText s) := by
    refine reads_flatMap fun c hc content around => ?_
    rw [List.foldlM_cons, step_char (ne_of_mem_of_not_mem hc hlt) (ne_of_mem_of_not_mem hc hamp)]
    rfl
  rwa [hsame] at hreads

/-! ### Elements -/

/-- The characters of a tag are collected up to its end. -/
theorem foldlM_tag (cs read rest : List Char) (h : '>' ∉ cs) :
    (cs ++ '>' :: rest).foldlM Reader.step ⟨content, around, .tag read⟩ =
      (Reader.tag? ⟨content, around, .tag (cs.reverse ++ read)⟩ (read.reverse ++ cs)).bind
        (rest.foldlM Reader.step) := by
  induction cs generalizing read with
  | nil =>
    rw [List.nil_append, List.append_nil, List.foldlM_cons]
    rfl
  | cons c cs ih =>
    rw [List.mem_cons, not_or] at h
    have hstep : Reader.step ⟨content, around, .tag read⟩ c =
        some ⟨content, around, .tag (c :: read)⟩ := if_neg (Ne.symm h.1)
    rw [List.cons_append, List.foldlM_cons, hstep]
    show (cs ++ '>' :: rest).foldlM Reader.step _ = _
    rw [ih _ h.2]
    simp only [List.reverse_cons, List.append_assoc, List.cons_append, List.nil_append]

/-- **A name of an element** does not end a tag and does not make a closing one. -/
def IsName (name : String) : Prop := '>' ∉ name.toList ∧ name.toList.head? ≠ some '/'

instance : DecidablePred IsName := fun _ => inferInstanceAs (Decidable (_ ∧ _))

theorem tag?_open (h : IsName name) (r : Reader) :
    r.tag? name.toList = some ⟨[], (name, r.content) :: r.around, .text⟩ := by
  unfold Reader.tag?
  split
  · next hname => exact absurd (congrArg List.head? hname) h.2
  · rw [String.ofList_toList]

theorem tag?_close (name : String) (xs content : List Markup) (mode : Mode) :
    Reader.tag? ⟨xs.reverse, (name, content) :: around, mode⟩ ('/' :: name.toList) =
      some ⟨.element name xs :: content, around, .text⟩ := by
  unfold Reader.tag? Reader.close?
  simp only [String.ofList_toList, if_pos, List.reverse_reverse]

/-- **Tags around a text make an element of its content.** -/
theorem Reads.element (h : Reads s xs) (name : String) (hname : IsName name) :
    Reads (NullFlow.element name s) [.element name xs] := by
  intro content around
  have htext : (NullFlow.element name s).toList =
      '<' :: (name.toList ++ '>' :: (s.toList ++ '<' :: (('/' :: name.toList) ++ ['>']))) := by
    unfold NullFlow.element
    simp only [String.toList_append]
    simp
  have hclosing : '>' ∉ '/' :: name.toList := by simp [hname.1]
  rw [htext, List.foldlM_cons]
  show (name.toList ++ _).foldlM Reader.step ⟨content, around, .tag []⟩ = _
  rw [foldlM_tag _ _ _ hname.1, List.reverse_nil, List.nil_append, tag?_open hname,
    Option.bind_some, List.foldlM_append, h, List.append_nil]
  show ('/' :: name.toList ++ ['>']).foldlM Reader.step ⟨_, _, .tag []⟩ = _
  rw [foldlM_tag _ _ _ hclosing, List.reverse_nil, List.nil_append, tag?_close]
  rfl

end

example : read? "<a>&lt;b&gt;</a>\n" = some [.element "a" (ofText "<b>"), .char '\n'] := by rfl

end Markup

end NullFlow
