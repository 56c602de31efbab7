import NullFlow.C.Reading.Repair

/-!
# Reading a text

`Automaton.read` reads a text into a draft. The readings are taken forward in turn, one token each.
After every round those that are not worth following are given up, and one that has paused is
repaired. The text is read when a draft of it costs no more than any reading that still goes on.
-/

namespace NullFlow.C

/-! ## Tokens -/

/-- The mark that may stand at the beginning of a text. -/
def byteOrderMark : Char := '\uFEFF'

/-- The place after the mark at the beginning of a text. -/
def pastMark (source : String) (place : Distance) : Distance :=
  if place.bytes = 0 && String.Pos.Raw.get source ⟨0⟩ = byteOrderMark then
    place.past byteOrderMark
  else place

namespace Automaton

/-- The text between two places of a source. -/
def slice (source : String) (start stop : Distance) : String :=
  String.Pos.Raw.extract source ⟨start.bytes⟩ ⟨stop.bytes⟩

/-- Skips text up to where a lost reader finds a token again. `skipped?` is what has been skipped.
`fuel` bounds the length of the text. -/
def skipText (a : Automaton) (source : String) :
    (fuel : Nat) → Distance → (skipped? : Option (Distance × Distance)) →
      Lexeme ⊕ (Distance × Distance)
  | 0, place, skipped? => .inr (skipped?.getD (place, place))
  | fuel + 1, place, skipped? =>
    match (a.scanners[a.modes[lost]!]!).scan a source (pastMark source place), skipped? with
    | .found l, none => .inl l
    | .found _, some skipped => .inr skipped
    | .nothing start reached, _ =>
      let (first, last) := skipped?.getD (start, start)
      if reached.bytes != last.bytes then skipText a source fuel reached (some (first, reached))
      else if source.utf8ByteSize ≤ reached.bytes then .inr (first, last)
      else
        let next := reached.past (String.Pos.Raw.get source ⟨reached.bytes⟩)
        skipText a source fuel next (some (first, next))

/-- A token of the text as a draft. A word is a key word only where its state allows it. -/
def tokenDraft (a : Automaton) (source : String) (state : Nat) (place : Distance) (l : Lexeme) :
    Draft :=
  let keyword? := if l.token = a.word then a.keywords[slice source l.start l.stop]? else none
  let token := match keyword? with
    | some k => if a.allows state k then k else l.token
    | none => l.token
  let draft := Draft.leaf (.symbol token) (l.start.since place) (l.stop.since l.start)
    keyword?.isSome false
  if token = a.finish then draft.asExtra else draft

/-- **Reads the next token** in a state. Text without tokens in it is read as one error. -/
def nextToken (a : Automaton) (source : String) (state : Nat) (place : Distance) : Draft :=
  let skip : Draft :=
    match a.skipText source (source.utf8ByteSize + 1 - place.bytes) place none with
    | .inl l => a.tokenDraft source state place l
    | .inr (start, stop) =>
      .leaf .error (start.since place) (stop.since start) false false
  if state = lost then skip
  else match (a.scanners[a.modes[state]!]!).scan a source (pastMark source place) with
    | .found l => a.tokenDraft source state place l
    | .nothing _ _ => skip

end Automaton

/-! ## Readings -/

namespace Reader

/-- Whether a reading is done with a token, or which reading came of it last, if constructs were
finished before. -/
inductive Progress where
  | done
  | pending (last? : Option Nat) (hasReduced : Bool)

/-- **Does what a state says about a token.** -/
def carryOut (a : Automaton) (v : Nat) (token : Draft) :
    List Action → (last? : Option Nat) → (hasReduced : Bool) → Reader → Reader × Progress
  | [], last?, hasReduced, r => (r, .pending last? hasReduced)
  | .shift target repeats :: _, last?, hasReduced, r =>
    if repeats then (r, .pending last? hasReduced)
    else (r.push a v (some token) target, .done)
  | .skip :: _, _, _, r => (r.push a v (some token.asExtra) (r.top v).state, .done)
  | .accept :: _, _, _, r => (r.accept a v token, .done)
  | .recover :: _, _, _, r => (r.recover a v token, .done)
  | .reduce red :: rest, last?, _, r =>
    let (r, first?) := r.reduce a v red
    carryOut a v token rest (first?.or last?) true r

/-- A key word as a name. -/
def asName (a : Automaton) (token : Draft) : Draft :=
  .leaf (.symbol a.word) token.info.gap token.info.size true false

/-- Makes a reading wait at a token. -/
def pause (r : Reader) (v : Nat) (token : Draft) : Reader :=
  let nodes := (r.top v).nodes
  r.modifyHead v fun h => { h with status := .paused, token? := some token, mark := nodes }

/-- **Takes a reading past a token.** `fuel` bounds the number of constructs that are finished. -/
def takeToken (a : Automaton) (v : Nat) :
    (fuel : Nat) → (token : Draft) → List Action → Reader → Reader
  | 0, _, _, r => r.halt v
  | fuel + 1, token, actions, r =>
    match r.carryOut a v token actions none false with
    | (r, .done) => r
    | (r, .pending (some last) _) =>
      let r := r.rename last v
      takeToken a v fuel token (a.actionsOn (r.top v).state token) r
    | (r, .pending none true) => r.halt v
    | (r, .pending none false) =>
      let state := (r.top v).state
      let asWord := a.action state a.word
      if token.info.isKeyword && token.info.label != .symbol a.word && !asWord.isEmpty then
        takeToken a v fuel (asName a token) asWord r
      else if state = Automaton.lost then r.recover a v token
      else r.pause v token

/-- Takes a reading past its next token. -/
def advance (a : Automaton) (source : String) (r : Reader) (v : Nat) : Reader :=
  let c := r.top v
  let token := a.nextToken source c.state c.place
  r.takeToken a v (100 * (r.cells.size + 10)) token (a.actionsOn c.state token)

/-- Takes a reading forward until it is past the place that another one has come to. `fuel` bounds
the number of tokens. -/
def advanceUntil (a : Automaton) (source : String) (v : Nat) :
    (fuel : Nat) → (reached : Nat) → Reader → Reader × Nat
  | 0, reached, r => (r, reached)
  | fuel + 1, reached, r =>
    if (r.heads[v]?).any (·.status == .active) then
      let r := r.advance a source v
      let place := if v < r.heads.size then (r.top v).place.bytes else 0
      if reached < place || v > 0 && place == reached then (r, place)
      else advanceUntil a source v fuel reached r
    else (r, reached)

/-- Takes all readings forward, from one on. `fuel` bounds their number. -/
def advanceAll (a : Automaton) (source : String) :
    (fuel v : Nat) → (reached : Nat) → Reader → Reader × Nat
  | 0, _, reached, r => (r, reached)
  | fuel + 1, v, reached, r =>
    if v < r.heads.size then
      let (r, reached) := r.advanceUntil a source v (source.utf8ByteSize + 100) reached
      advanceAll a source fuel (v + 1) reached r
    else (r, reached)

/-! ## Giving readings up -/

/-- Compares a reading with those before it, from one on. The answer is the reading to compare next.
`fuel` bounds the number of comparisons. -/
def compareWith (a : Automaton) (s : Score) : (fuel j i : Nat) → Reader → Reader × Nat
  | 0, _, i, r => (r, i + 1)
  | fuel + 1, j, i, r =>
    if i ≤ j then (r, i + 1)
    else
      let r := r.lowerMark j
      match (r.score j).rank s with
      | .takeLeft => (r.remove i, i)
      | .takeRight => compareWith a s fuel j (i - 1) (r.remove j)
      | .preferRight =>
        if r.canMerge j i then (r.merge a j i, i)
        else
          compareWith a s fuel (j + 1) i
            { r with heads := (r.heads.set! i (r.head j)).set! j (r.head i) }
      | _ =>
        if r.canMerge j i then (r.merge a j i, i) else compareWith a s fuel (j + 1) i r

/-- Compares all readings, from one on. `least?` is the lowest price of a reading that is not lost.
`fuel` bounds the number of readings. -/
def compareAll (a : Automaton) :
    (fuel i : Nat) → (least? : Option Nat) → Reader → Reader × Option Nat
  | 0, _, least?, r => (r, least?)
  | fuel + 1, i, least?, r =>
    if i < r.heads.size then
      if (r.head i).status = .halted then compareAll a fuel i least? (r.remove i)
      else
        let r := r.lowerMark i
        let s := r.score i
        let least? := if s.isLost then least? else some (least?.elim s.cost (min s.cost))
        let (r, next) := compareWith a s (2 * r.heads.size) 0 i r
        compareAll a fuel next least? r
    else (r, least?)

/-- Repairs the first of several paused readings, if none before it goes on, and gives the others
up. `count` is how many readings are left to look at. -/
def resume (a : Automaton) :
    (count i : Nat) → (goesOn : Bool) → (least? : Option Nat) → Reader → Reader × Option Nat
  | 0, _, _, least?, r => (r, least?)
  | count + 1, i, goesOn, least?, r =>
    if (r.head i).status = .paused then
      if !goesOn && r.arrivals < headLimit then
        let price := r.price i
        let token := (r.head i).token?.getD default
        let r := r.modifyHead i fun h => { h with status := .active, token? := none }
        resume a count (i + 1) true (some price) (r.repair a i token)
      else resume a count i goesOn least? (r.remove i)
    else resume a count (i + 1) true least? r

/-- **Gives up the readings that are not worth following**, and repairs one that has paused. The
answer is the lowest price of a reading that goes on. -/
def condense (a : Automaton) (r : Reader) : Reader × Option Nat :=
  let (r, least?) := compareAll a (4 * (r.heads.size + 1)) 0 none r
  let r := { r with heads := r.heads.extract 0 headLimit }
  resume a r.heads.size 0 false least? r

/-- **Reads on until nothing is left to read.** `fuel` bounds the number of rounds. -/
def readOn (a : Automaton) (source : String) : (fuel : Nat) → (reached : Nat) → Reader → Reader
  | 0, _, r => r
  | fuel + 1, reached, r =>
    let (r, reached) := r.advanceAll a source 1000 0 reached
    let isOver := r.heads.isEmpty
    let (r, least?) := r.condense a
    let isBest := r.finished?.any fun d => least?.all fun c => d.cost < c
    if isBest || isOver then r else readOn a source fuel reached r

end Reader

/-- **Reads a text.** -/
def Automaton.read (a : Automaton) (source : String) : Option Draft :=
  (Reader.start.readOn a source (100 * (source.utf8ByteSize + 10)) 0).finished?

end NullFlow.C
