import NullFlow.Check
import NullFlow.Format
import NullFlow.Path

/-!
# Configurations

What a user sets once for all runs. `Config.check` accepts a configuration of the known version
whose limit lets some file through, whose format has a name, and whose null constants are C
identifiers; of several faults the first in this order counts.
-/

namespace NullFlow

/-- **A configuration.** -/
structure Config where
  version : String := "1.0"
  /-- The directory of the fixtures. -/
  suiteDir : String := "fixtures"
  /-- The manifest, if it is not where it is expected in the directory of the fixtures. -/
  manifest : Option String := none
  /-- The size of the largest file that is read, in bytes. -/
  maxFileSize : Nat := 1024 * 1024
  /-- Whether calls to functions of the same file are looked into. -/
  interprocedural : Bool := true
  /-- Names that stand for null besides `NULL` and `nullptr`. -/
  nullMacros : List String := []
  /-- The name of the format of reports. -/
  format : String := "text"
  /-- Whether fixtures may be analysed at the same time, which makes no difference to reports. -/
  parallel : Bool := true
  deriving DecidableEq, Repr

/-- **Why a configuration is refused.** -/
inductive ConfigFault where
  | version (text : String)
  | noSize
  | format (text : String)
  | nullMacro (text : String)
  deriving DecidableEq, Repr

/-- The fault in words. -/
def ConfigFault.message : ConfigFault → String
  | .version text =>
    "Unsupported configuration version '" ++ text ++ "'. Supported versions: 1.0"
  | .noSize => "'max_file_size' must be greater than 0"
  | .format text =>
    "Unknown output format '" ++ text ++ "'. Expected one of: "
      ++ ", ".intercalate (Format.all.map Format.name)
  | .nullMacro text => "null_macros entry '" ++ text ++ "' is not a C identifier"

namespace Config

/-- The name of the manifest in the directory of the fixtures. -/
def manifestName : String := "expected.toml"

/-- The path of the manifest. -/
def manifestPath (c : Config) : String := c.manifest.getD (Path.join c.suiteDir manifestName)

/-- What to check. -/
def checkOptions (c : Config) : CheckOptions :=
  { interprocedural := c.interprocedural, nullNames := c.nullMacros }

/-- Characters of C identifiers. -/
def isIdentifierChar (c : Char) : Bool := c.isAlphanum || c == '_'

/-- Whether a text is a C identifier. -/
def isIdentifier (text : String) : Bool :=
  (text.toList.head?.any fun c => isIdentifierChar c && !c.isDigit)
    && text.toList.all isIdentifierChar

/-- **Accepts a configuration or says what is wrong with it.** -/
def check (c : Config) : Except ConfigFault Unit :=
  if c.version != "1.0" then .error (.version c.version)
  else if c.maxFileSize == 0 then .error .noSize
  else if (Format.parse? c.format).isNone then .error (.format c.format)
  else match c.nullMacros.find? (!isIdentifier ·) with
    | some text => .error (.nullMacro text)
    | none => .ok ()

end Config

end NullFlow
