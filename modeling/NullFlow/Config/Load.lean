import NullFlow.Config.OfYaml
import NullFlow.Failure

/-!
# Loading the configuration

The configuration is in the file that the user names, or else in the first of two files that exists:
one in the directory of the project, and one that is the user's own. Without any of them everything
has its default. What the environment says comes on top.

Where the user names something else than a regular file, a directory for instance, there is no file
to read, and the defaults hold.
-/

namespace NullFlow

/-- **Where to look for the configuration.** -/
structure ConfigSources where
  /-- The file that the user names. -/
  explicit : Option String := none
  projectDir : String := "."
  /-- The user's own file. -/
  userConfig : Option String := none

namespace ConfigSources

/-- The name of the file in the directory of the project. -/
def projectName : String := ".nullfix.yaml"

/-- **The files that are considered**, the most important one first. -/
def candidates (s : ConfigSources) : List String :=
  match s.explicit with
  | some path => [path]
  | none => Path.join s.projectDir projectName :: s.userConfig.toList

section

variable {m : Type → Type} [Monad m] [World m]

/-- The first path with a regular file. -/
def firstFile? : List String → m (Option String)
  | [] => return none
  | path :: more => do if ← World.isFile path then return some path else firstFile? more

/-- The configuration in a file. -/
def readConfig (path : String) : ExceptT Failure m Config := do
  match ← World.readText (m := m) path with
  | .error fault => throw (.unreadableConfig path fault)
  | .ok text => match Config.parse? text with
    | some c => return c
    | none => throw (.malformedConfig path)

/-- **Loads the configuration**, given a way to look up variables of the environment. -/
def load (s : ConfigSources) (lookup : String → Option String) : ExceptT Failure m Config := do
  if let some path := s.explicit then
    if !(← World.exists? (m := m) path) then throw (.noConfig path)
  let config ← match ← firstFile? (m := m) s.candidates with
    | some path => readConfig path
    | none => pure {}
  let config ← liftExcept ((config.override lookup).mapError .badEnvironment)
  liftExcept (config.check.mapError .badConfig)
  return config
where
  /-- A result as a step of a run. -/
  liftExcept {α : Type} (r : Except Failure α) : ExceptT Failure m α := ExceptT.mk (pure r)

end

/-- The path of the user's own file, given the directories for configurations and of the user. -/
def ownPath? (configHome home : Option String) : Option String :=
  let directory := match configHome.filter Path.isAbsolute with
    | some d => some d
    | none => (home.filter (· != "")).map fun h => Path.join h ".config"
  directory.map fun d => Path.join d "nullfix/config.yaml"

end ConfigSources

end NullFlow
