import KotlinPreferences.Output.Path
import KotlinPreferences.Text.Blank
import KotlinPreferences.Text.Case
import KotlinPreferences.Vocabulary

/-!
# Settings

What the environment says about a run. A variable that is set to the empty text is set, except
that an empty output folder counts as none.

* `Host`, `Settings`, `Settings.ofEnvironment`;
* `Settings.outputFolder`: where files are written.
-/

namespace KotlinPreferences

/-- Where the program runs. -/
structure Host where
  /-- The folder of the program. -/
  programFolder : Path.Location := []
  /-- The folder that relative paths start from. -/
  workingFolder : Path.Location := []

/-- The settings of a run. -/
structure Settings where
  /-- Where the program runs. -/
  host : Host
  /-- The package of the generated classes. -/
  preferencesPackage : Text
  /-- The type of the store that a generated class keeps. -/
  storeType : Text
  /-- The policy for invalid properties, not yet checked. -/
  policy : Text
  /-- Whether literals are escaped. -/
  escapeLiterals : Bool
  /-- The folder of the generated files; without one they go to a folder beside the program. -/
  outputDir : Option Text
  /-- How much is logged. -/
  logLevel : Text

namespace Settings

/-- The text in lower case, without blanks at its ends. -/
def folded (s : Text) : Text := Text.lower (Text.ofList (Text.trim s.toList))

/-- The texts that turn a setting on. -/
def isOn (s : Text) : Bool := (["1", "true", "yes"] : List Text).contains (folded s)

/-- The settings that an environment gives. -/
def ofEnvironment (host : Host) (environment : List (Text × Text)) : Settings :=
  let setting? (name : Text) := environment.lookup ("PREFS_CODEGEN_" ++ name)
  { host := host
    preferencesPackage := (setting? "PACKAGE").getD Vocabulary.defaultPackage
    storeType := (setting? "STORE_TYPE").getD Vocabulary.defaultStoreType
    policy := folded ((setting? "INVALID_PROPERTY_POLICY").getD "omit")
    escapeLiterals := isOn ((setting? "ESCAPE_LITERALS").getD "false")
    outputDir := ((setting? "OUTPUT_DIR").filter (!·.isEmpty)).map Path.normal
    logLevel := Text.upper ((setting? "LOG_LEVEL").getD "INFO") }

/-- The settings of an environment that says nothing. -/
def default : Settings := ofEnvironment {} []

/-- The folder below which files are written. -/
def outputFolder (s : Settings) : Path.Location :=
  match s.outputDir with
  | some path => Path.place s.host.workingFolder path
  | none => s.host.programFolder ++ [("generated" : Text)]

end Settings

end KotlinPreferences
