import NullFlow.C.Reading.Rank

/-!
# Repairing errors

A reading pauses at a token that its state does not allow. It is repaired in three ways, of which
the cheapest wins in the end.

* **A token is missing.** One token is made up, if the reader can go on with the next one then.
* **Back to a place before.** The drafts above a state in the stack that allows the next token
  become an error.
* **Skipping.** The token becomes a part of an error, and the reader stays lost.
-/

namespace NullFlow.C

namespace Automaton

/-- What to do with a token that was read. -/
def actionsOn (a : Automaton) (state : Nat) (token : Draft) : List Action :=
  match token.info.label with
  | .symbol n => a.action state n
  | _ => []

/-- All tokens, names first. -/
def tokensInOrder (a : Automaton) : List Nat :=
  a.word :: (List.range a.finish).filter (· != a.word)

/-- Whether actions let the reader go on after other constructs have been finished. -/
def goesOn (actions : List Action) : Bool :=
  actions.any fun
    | .shift _ repeats => !repeats
    | .recover => true
    | _ => false

/-- The constructs with a text that actions finish. -/
def reductions (actions : List Action) : List Reduction :=
  actions.filterMap fun
    | .reduce r => if r.count > 0 then some r else none
    | _ => none

/-- Leaves out reductions to a symbol by a number of parts that are there already. -/
def distinct (l : List Reduction) : List Reduction :=
  l.foldl (fun found r =>
    if found.any fun s => s.head == r.head && s.count == r.count then found else found ++ [r]) []

end Automaton

namespace Reader

/-- **Finishes all constructs that can be finished** before a token, or before any token, for all
readings from `v` on. `first` and `start` are the first of the readings that were added and the one
this began with. The answer is whether one of them can go on then. `fuel` bounds the steps. -/
def finishEverything (a : Automaton) (start first : Nat) (token? : Option Nat) :
    (fuel round v : Nat) → (canGoOn : Bool) → Reader → Reader × Bool
  | 0, _, _, canGoOn, r => (r, canGoOn)
  | fuel + 1, round, v, canGoOn, r =>
    let count := r.heads.size
    if count ≤ v then (r, canGoOn)
    else
      let (r, merged) := r.mergeWithAny a ((List.range v).filter (first ≤ ·)) v
      if merged then finishEverything a start first token? fuel (round + 1) v canGoOn r
      else
        let state := (r.top v).state
        let actions := match token? with
          | some t => a.action state t
          | none => a.tokensInOrder.flatMap (a.action state)
        let (r, last?) := (Automaton.distinct (Automaton.reductions actions)).foldl
          (fun (r, _) red => r.reduce a v red) (r, none)
        let next := if v = start then count else v + 1
        if Automaton.goesOn actions then
          finishEverything a start first token? fuel (round + 1) next true r
        else match last? with
          | some w =>
            if round < headLimit then
              finishEverything a start first token? fuel (round + 1) v canGoOn (r.rename w v)
            else
              finishEverything a start first token? fuel (round + 1) next canGoOn
                (if token?.isSome then r.remove v else r)
          | none =>
            finishEverything a start first token? fuel (round + 1) next canGoOn
              (if token?.isSome then r.remove v else r)

/-- How many steps `finishEverything` may take. -/
def finishBound : Nat := 10000

/-- Finishes all constructs that can be finished by a reading. -/
def finishFrom (a : Automaton) (r : Reader) (v : Nat) (token? : Option Nat) : Reader × Bool :=
  finishEverything a v r.heads.size token? finishBound 0 v false r

/-! ## Going back -/

/-- Turns what was taken off a stack into an error, with an error below it taken in. -/
def wrapError (a : Automaton) (r : Reader) (v state : Nat) (drafts : List Draft) : Reader :=
  let (r, error?) := r.popError v
  let (parts, extras) := Draft.splitExtras ((error?.map Draft.parts).getD [] ++ drafts)
  let r :=
    if parts.isEmpty then r
    else r.push a v (some (Draft.ofParts a .error 0 parts).asExtra) state
  extras.foldl (fun r e => r.push a v (some e) state) r

/-- Goes back in each of several ways to a state, if the way leads there. `last?` is the reading
that went back before. -/
def goBackAll (a : Automaton) (state : Nat) :
    List Slice → (last? : Option Nat) → Reader → Reader × Option Nat
  | [], last?, r => (r, last?)
  | s :: rest, last?, r =>
    if last? = some s.head then goBackAll a state rest last? r
    else if (r.top s.head).state != state then
      goBackAll a state rest last? (r.modifyHead s.head fun h => { h with status := .halted })
    else goBackAll a state rest (some s.head) (r.wrapError a s.head state s.drafts)

/-- **Goes back to a state in the stack.** The answer is whether this was possible. -/
def goBack (a : Automaton) (r : Reader) (v depth state : Nat) : Reader × Bool :=
  let (r, slices) := r.pop v depth
  let (r, last?) := goBackAll a state slices none r
  (r, last?.isSome)

/-- Looks for a place to go back to, the nearest first. `before` is how many readings there were,
`price` is what the reading costs. -/
def tryAnchors (a : Automaton) (v before price : Nat) (isAhead : Bool) (token : Draft) :
    List Anchor → Reader → Reader × Bool
  | [], r => (r, false)
  | e :: rest, r =>
    let place := (r.top v).place
    let isTaken := (List.range before).any fun j =>
      (r.top j).state == e.state && (r.top j).place.bytes == place.bytes
    if e.state = Automaton.lost || e.place.bytes = place.bytes || isTaken then
      tryAnchors a v before price isAhead token rest r
    else
      let cost := price + e.depth * Price.tree + (place.bytes - e.place.bytes) * Price.byte
        + (place.rows - e.place.rows) * Price.line
      let (outdone, r) := r.isOutdone v cost
      if outdone then (r, false)
      else if (a.actionsOn e.state token).isEmpty then
        tryAnchors a v before price isAhead token rest r
      else
        let (r, done) := r.goBack a v (if isAhead then e.depth + 1 else e.depth) e.state
        if done then (r, true) else tryAnchors a v before price isAhead token rest r

/-! ## The end of the text -/

/-- The draft of a whole text: the last draft that is no extra, with the extras around it as its
parts. -/
def wholeDraft (a : Automaton) (drafts : List Draft) : Option Draft :=
  let rev := drafts.reverse
  let after := (rev.takeWhile (·.info.isExtra)).reverse
  match rev.dropWhile (·.info.isExtra) with
  | d :: before => some <|
      .ofParts a d.info.label d.info.layout (before.reverse ++ d.parts ++ after)
  | [] => none

/-- **Ends a reading** at the end of the text, and keeps its draft if it is the best so far. -/
def accept (a : Automaton) (r : Reader) (v : Nat) (token : Draft) : Reader :=
  let (r, slices) := (r.push a v (some token) Automaton.start).popAll v
  let r := slices.foldl (fun r s =>
    let draft? := wholeDraft a s.drafts
    let best := match r.finished?, draft? with
      | some d, some e => if d.isBeaten a e then some e else some d
      | none, e => e
      | d, none => d
    { r with finished? := best, arrivals := r.arrivals + 1 }) r
  let r := match slices with
    | s :: _ => r.remove s.head
    | [] => r
  r.modifyHead v fun h => { h with status := .halted }

/-! ## Skipping -/

/-- **Skips a token**: it becomes a part of the error on top of the stack. -/
def skipToken (a : Automaton) (r : Reader) (v : Nat) (token : Draft) : Reader :=
  let isExtra := match (a.actionsOn Automaton.start token).getLast? with
    | some .skip => true
    | _ => false
  let token := if isExtra then token.asExtra else token
  let error := Draft.ofParts a .skipped 0 [token]
  if r.progress v > 0 then
    let (r, slices) := r.pop v 1
    match slices with
    | s :: others =>
      let r := if others.isEmpty then r else { r with heads := r.heads.extract 0 (s.head + 1) }
      let r := r.rename s.head v
      r.push a v (some (.ofParts a .skipped 0 (s.drafts ++ [error]))) Automaton.lost
    | [] => r.push a v (some error) Automaton.lost
  else r.push a v (some error) Automaton.lost

/-- Ends a reading that is not worth following. -/
def halt (r : Reader) (v : Nat) : Reader := r.modifyHead v fun h => { h with status := .halted }

/-- Gives up the readings from a number on that do not go on. -/
def dropIdle (r : Reader) (first : Nat) : Reader :=
  let added := (r.heads.extract first r.heads.size).filter fun h => h.status == .active
  { r with heads := r.heads.extract 0 first ++ added }

/-- **Goes on with a lost reading**: back to a place before, and past the token. -/
def recover (a : Automaton) (r : Reader) (v : Nat) (token : Draft) : Reader :=
  let before := r.heads.size
  let r := r.lowerMark v
  let price := r.price v
  let anchors := if token.info.label = .error then [] else (r.head v).anchors?.getD []
  let (r, done) := tryAnchors a v before price (r.progress v > 0) token anchors r
  let r := r.dropIdle before
  if done && headLimit < r.heads.size then r.halt v
  else if token.info.label = .symbol a.finish then
    (r.push a v (some (.ofParts a .error 0 [])) Automaton.start).accept a v token
  else
    let total := token.total
    let cost := price + Price.tree + total.bytes * Price.byte + total.rows * Price.line
    let (outdone, r) := r.isOutdone v cost
    if outdone then r.halt v else r.skipToken a v token

/-! ## Missing tokens -/

/-- Makes a token up, the first one after which a reading can go on with the next token. The answer
is whether there is one. -/
def makeUp (a : Automaton) (v : Nat) (token : Draft) : List Nat → Reader → Reader × Bool
  | [], r => (r, false)
  | t :: rest, r =>
    let state := (r.top v).state
    let target := a.next state t
    let finishes := match a.actionsOn target token with
      | .reduce _ :: _ => true
      | _ => false
    if target = Automaton.lost || target = state || !finishes then makeUp a v token rest r
    else
      let w := r.heads.size
      let r := r.addHead { r.head v with anchors? := none }
      let r := r.push a w (some (.leaf (.symbol t) .zero .zero false true)) target
      let next? := match token.info.label with
        | .symbol n => if n = a.finish then none else some n
        | _ => none
      let (r, canGoOn) := r.finishFrom a w next?
      if canGoOn then (r, true) else makeUp a v token rest r

/-- Loses several readings; for one of them a token is made up before. -/
def lose (a : Automaton) (token : Draft) : List Nat → (done : Bool) → Reader → Reader
  | [], _, r => r
  | q :: rest, done, r =>
    let (r, done) := if done then (r, true) else makeUp a q token a.tokensInOrder r
    lose a token rest done (r.push a q none Automaton.lost)

/-- How far down its stack a lost reading may go back. -/
def anchorLimit : Nat := 16

/-- **Repairs a reading** that its next token does not fit. -/
def repair (a : Automaton) (r : Reader) (v : Nat) (token : Draft) : Reader :=
  let before := r.heads.size
  let (r, _) := r.finishFrom a v none
  let added := (List.range r.heads.size).filter (before ≤ ·)
  let r := lose a token (v :: added) false r
  let r := added.foldl (fun r _ => r.merge a v before) r
  let anchors := r.anchors v anchorLimit
  (r.modifyHead v fun h => { h with anchors? := some anchors }).recover a v token

end Reader

end NullFlow.C
