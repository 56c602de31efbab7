/-!
# Command line options

`Usage.scan` reads the words behind a command. A word that begins with two hyphens names an option,
one hyphen stands before the letters of options without a value, and all other words are operands;
behind a lone `--` there are only operands. The value of an option stands behind an equals sign or
in the next word, which must not look like an option.

The words are read from left to right, and the first one that is refused or that asks for help ends
the reading.
-/

namespace NullFlow.Command

/-- **What stands behind an option.** -/
inductive Arity where
  /-- Nothing. -/
  | flag
  /-- A value. -/
  | value
  /-- A value behind an equals sign, or nothing, which stands for the given value. -/
  | attached (default : String)
  deriving DecidableEq, Repr

/-- **An option of a command.** -/
structure Switch where
  name : String
  letter : Option Char := none
  arity : Arity := .value
  /-- Whether it may be given several times. -/
  repeats : Bool := false
  /-- The values that are accepted. -/
  accepts : String → Bool := fun _ => true

/-- **Why the reading of a command line ends early.** -/
inductive Stop where
  | refused
  | help
  | version
  deriving DecidableEq, Repr

/-- **What was read**: options with their values, and operands, in order. -/
structure Given where
  options : List (String × String) := []
  operands : List String := []
  deriving DecidableEq, Repr

namespace Given

/-- The value of an option. -/
def value? (g : Given) (name : String) : Option String := g.options.lookup name

/-- All values of an option. -/
def values (g : Given) (name : String) : List String :=
  (g.options.filter (·.1 == name)).map (·.2)

/-- Whether an option is given. -/
def has (g : Given) (name : String) : Bool := (g.value? name).isSome

end Given

/-- **What a command understands.** -/
structure Usage where
  switches : List Switch
  /-- Whether it can be asked for the version of the program. -/
  hasVersion : Bool := false
  /-- The most operands it takes, any number if there is none. -/
  most : Option Nat := none
  /-- Whether the first operand ends its part of the command line. -/
  endsAtOperand : Bool := false

namespace Usage

/-- Adds an option, which is refused if it may not be repeated or its value is not accepted. -/
def add (s : Switch) (value : String) (g : Given) : Except Stop Given :=
  if (g.has s.name && !s.repeats) || !s.accepts value then .error .refused
  else .ok { g with options := g.options ++ [(s.name, value)] }

/-- Adds an operand, which must not be empty. -/
def addOperand (u : Usage) (text : String) (g : Given) : Except Stop Given :=
  if text.isEmpty || u.most.any (· ≤ g.operands.length) then .error .refused
  else .ok { g with operands := g.operands ++ [text] }

/-- Whether a word looks like an option. -/
def looksLikeOption (word : String) : Bool := word.startsWith "-" && word != "-"

/-- The letters behind a hyphen. -/
def letters (u : Usage) : List Char → Given → Except Stop Given
  | [], g => .ok g
  | c :: more, g =>
    match u.switches.find? fun s => s.letter == some c && s.arity == .flag with
    | some s => do u.letters more (← add s "" g)
    | none =>
      if c == 'h' then .error .help
      else if c == 'V' && u.hasVersion then .error .version
      else .error .refused

/-- A name split at its first equals sign. -/
def splitName (text : List Char) : String × Option String :=
  match text.dropWhile (· != '=') with
  | [] => (String.ofList text, none)
  | _ :: value => (String.ofList (text.takeWhile (· != '=')), some (String.ofList value))

/-- **Reads the words behind a command**: what is given, and the words that are left behind the
first operand if that is where it ends. -/
def scan (u : Usage) : List String → Given → Except Stop (Given × List String)
  | [], g => .ok (g, [])
  | word :: more, g =>
    match word.toList with
    | ['-', '-'] =>
      if u.endsAtOperand then if more.isEmpty then .ok (g, []) else .error .refused
      else do return (← more.foldlM (fun g text => u.addOperand text g) g, [])
    | '-' :: '-' :: text =>
      let (name, attached) := splitName text
      match u.switches.find? (·.name == name), attached with
      | none, some _ => .error .refused
      | none, none =>
        if name == "help" then .error .help
        else if name == "version" && u.hasVersion then .error .version
        else .error .refused
      | some s, some value =>
        if s.arity == .flag then .error .refused
        else do u.scan more (← add s value g)
      | some s, none =>
        match s.arity with
        | .flag => do u.scan more (← add s "" g)
        | .attached default => do u.scan more (← add s default g)
        | .value =>
          match more with
          | [] => .error .refused
          | value :: rest =>
            if looksLikeOption value then .error .refused
            else do u.scan rest (← add s value g)
    | '-' :: c :: cs => do u.scan more (← u.letters (c :: cs) g)
    | _ => do
      let g ← u.addOperand word g
      if u.endsAtOperand then .ok (g, more) else u.scan more g

end Usage

end NullFlow.Command
