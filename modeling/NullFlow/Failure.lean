import NullFlow.Config.Environment
import NullFlow.Manifest.Basic
import NullFlow.World.Basic

/-!
# Failures

Why a run cannot go on. A failure is a chain of texts, from what was to be done to what went wrong
there. What is wrong with a fixture is no failure: it is reported like everything else that was
found out about it.
-/

namespace NullFlow

/-- **Why a run cannot go on.** -/
inductive Failure where
  | unreadable (path : String) (fault : ReadFault)
  | tooLarge (path : String) (size limit : Nat)
  | unknownCategory (file : String)
  | badManifest (path : String) (fault : ManifestFault)
  | badFindings (path : String)
  | noConfig (path : String)
  | unreadableConfig (path : String) (fault : ReadFault)
  | malformedConfig (path : String)
  | badConfig (fault : ConfigFault)
  | badEnvironment (fault : EnvironmentFault)
  | noSuite (directory : String)
  | unwalkable (directory : String) (fault : WalkFault)
  | unknownFormat (text : String)
  /-- Problems of fixtures are asked for in the format of a defect database. -/
  | noProblemsAsXml
  /-- The command that looks for problems of fixtures is given that format. -/
  | validateAsXml
  | noFunction (name file : String)
  | noFunctions (file : String)
  | loadingManifest (path : String) (cause : Failure)
  | loadingConfig (cause : Failure)
  deriving DecidableEq, Repr

namespace Failure

/-- The texts from the outermost to the innermost. -/
def chain : Failure → List String
  | .unreadable path fault => ["failed to read " ++ path, fault.message]
  | .tooLarge path size limit =>
    [path ++ " is " ++ toString size ++ " bytes, larger than the configured limit of "
      ++ toString limit ++ " bytes"]
  | .unknownCategory file => ["cannot determine defect category for '" ++ file ++ "'"]
  | .badManifest path fault => ["invalid manifest " ++ path ++ ": " ++ fault.message]
  | .badFindings path => ["invalid findings file " ++ path]
  | .noConfig path => ["Config file " ++ path ++ " does not exist"]
  | .unreadableConfig path fault => ["Failed to read config file " ++ path, fault.message]
  | .malformedConfig path => ["Failed to parse config file " ++ path]
  | .badConfig fault => [fault.message]
  | .badEnvironment fault => fault.messages
  | .noSuite directory => ["Suite directory " ++ directory ++ " does not exist"]
  | .unwalkable directory fault => ("Failed to walk " ++ directory) :: fault.chain
  | .unknownFormat text => ["unknown report format '" ++ Format.normalize text ++ "'"]
  | .noProblemsAsXml => ["validation results have no XML form"]
  | .validateAsXml => ["validate has no XML output; use text, json or markdown"]
  | .noFunction name file => ["No function '" ++ name ++ "' in " ++ file]
  | .noFunctions file => ["No function definitions in " ++ file]
  | .loadingManifest path cause => ("Failed to load manifest " ++ path) :: cause.chain
  | .loadingConfig cause => "Failed to load configuration" :: cause.chain

/-- **The failure on one line.** -/
def message (f : Failure) : String := ": ".intercalate f.chain

/-- The failure as a user sees it first. -/
def summary (f : Failure) : String := f.chain.headD ""

/-- **The failure as the program tells it**: what was to be done, and below it the causes, which are
counted if there are several. -/
def report (f : Failure) : String :=
  let causes := match f.chain.tail with
    | [cause] => ["    " ++ cause]
    | causes => causes.mapIdx fun i cause => "    " ++ toString i ++ ": " ++ cause
  let section' := if causes.isEmpty then [] else "" :: "Caused by:" :: causes
  String.join ((("Error: " ++ f.summary) :: section').map asLine)

/-- The innermost failure. -/
def root : Failure → Failure
  | .loadingManifest _ cause => cause.root
  | .loadingConfig cause => cause.root
  | f => f

end Failure

end NullFlow
