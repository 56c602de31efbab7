import NullFlow.Config.Basic
import NullFlow.Text.LowerCase
import NullFlow.Text.Number

/-!
# Configurations and the environment

Variables of the environment override what a configuration says.
-/

namespace NullFlow

/-- **Why a variable is refused.** -/
inductive EnvironmentFault where
  | size (text : String) (reason : Text.NumberError)
  | interprocedural (text : String)
  deriving DecidableEq, Repr

/-- The fault in words, and the reason behind it. -/
def EnvironmentFault.messages : EnvironmentFault → List String
  | .size text reason =>
    ["NULLFIX_MAX_FILE_SIZE is not a number: '" ++ text ++ "'", reason.message]
  | .interprocedural text =>
    ["NULLFIX_INTERPROCEDURAL is not a boolean: '" ++ text ++ "'", "expected true or false"]

/-- Reads a truth value; white space around it and the case of letters do not matter. -/
def truth? (text : String) : Option Bool :=
  let word := Format.normalize text
  if ["1", "true", "yes", "on"].contains word then some true
  else if ["0", "false", "no", "off"].contains word then some false
  else none

namespace Config

/-- The variables that a configuration looks up. -/
def variableNames : List String :=
  ["NULLFIX_SUITE_DIR", "NULLFIX_MANIFEST", "NULLFIX_MAX_FILE_SIZE", "NULLFIX_INTERPROCEDURAL",
   "NULLFIX_FORMAT"]

/-- **The configuration with what the environment says**, given a way to look up variables. -/
def override (c : Config) (lookup : String → Option String) : Except EnvironmentFault Config := do
  let size ← match lookup "NULLFIX_MAX_FILE_SIZE" with
    | none => .ok c.maxFileSize
    | some text => (Text.readNumber (Text.trim text.toList)).mapError (.size text)
  let interprocedural ← match lookup "NULLFIX_INTERPROCEDURAL" with
    | none => .ok c.interprocedural
    | some text => match truth? text with
      | some b => .ok b
      | none => .error (.interprocedural text)
  return { c with
    suiteDir := (lookup "NULLFIX_SUITE_DIR").getD c.suiteDir
    manifest := (lookup "NULLFIX_MANIFEST").or c.manifest
    maxFileSize := size
    interprocedural
    format := ((lookup "NULLFIX_FORMAT").map Format.normalize).getD c.format }

end Config

end NullFlow
