import CompilerLauncher.Path
import CompilerLauncher.Text.Blank

/-!
The launcher's settings: where compilers are searched, where response files go, whether scripts are
recognised by their first line, and by which name the launcher knows itself.

Settings start from defaults, may come from a document, and are overridden by environment variables.
A document's settings are checked; overrides are not, and they keep checked settings valid because
they never make the directory empty and never touch the name.
-/

namespace CompilerLauncher

/-- The variables of an environment, by name. -/
abbrev Environment := String → Option Bytes

/-- The settings that a search or a launch consults. `path` takes the place of the environment's
search list, `temporaryDir` holds response files, and no program whose file name starts with
`toolName` is ever found. -/
structure Settings where
  path : Option String := none
  temporaryDir : Bytes
  detectShebang : Bool := false
  toolName : String
  deriving DecidableEq, Repr

/-- Why settings could not be had. -/
inductive SettingsError
  | blankToolName
  | emptyTemporaryDir
  | unreadable (path : Bytes)
  | malformed
  deriving DecidableEq, Repr

namespace SettingsError

/-- The error in words. -/
def message : SettingsError → String
  | blankToolName => "tool_name cannot be empty"
  | emptyTemporaryDir => "temporary_dir cannot be empty"
  | unreadable path => s!"Failed to read config file: {Utf8.lossy path}"
  | malformed => "Failed to parse YAML configuration"

end SettingsError

namespace Settings

/-! ## Defaults -/

/-- The name by which the launcher knows itself unless told otherwise. -/
def defaultToolName : String := "compcache"

/-- The variable that overrides the search list. -/
def pathVariable : String := "COMPCACHE_PATH"

/-- The variable that overrides the directory for temporary files. -/
def temporaryDirVariable : String := "COMPCACHE_TEMPDIR"

/-- The variable that turns on the detection of script marks. -/
def detectShebangVariable : String := "COMPCACHE_DETECT_SHEBANG"

/-- The directory for temporary files: the one that the environment names, even if its name is
empty, else the system's. -/
def defaultTemporaryDir (environment : Environment) : Bytes :=
  (environment "TMPDIR").getD (Utf8.encode "/tmp")

/-- The settings when nothing is said. -/
def defaults (environment : Environment) : Settings :=
  { temporaryDir := defaultTemporaryDir environment, toolName := defaultToolName }

/-! ## Validity -/

/-- Checks that the name says something and the directory is named; the name is looked at first. -/
def validate (settings : Settings) : Except SettingsError Unit :=
  if isBlankText settings.toolName then .error .blankToolName
  else if settings.temporaryDir = [] then .error .emptyTemporaryDir
  else .ok ()

/-! ## The environment -/

/-- The settings under the environment's overrides. The search list is taken even when it is empty,
a directory only when it is not, and the third variable counts by its presence. -/
def override (settings : Settings) (environment : Environment) : Settings :=
  { settings with
    path :=
      match environment pathVariable with
      | some list => some (Utf8.lossy list)
      | none => settings.path
    temporaryDir :=
      match environment temporaryDirVariable with
      | some directory => if directory = [] then settings.temporaryDir else directory
      | none => settings.temporaryDir
    detectShebang := settings.detectShebang || (environment detectShebangVariable).isSome }

/-- The settings of a program that reads no document. -/
def ofEnvironment (environment : Environment) : Settings :=
  (defaults environment).override environment

/-- The search list: the configured one unless it is empty, else the environment's if that is a text
and not empty. -/
def searchList? (settings : Settings) (environment : Environment) : Option String :=
  match settings.path.filter (· != "") with
  | some list => some list
  | none => ((environment "PATH").bind Utf8.decode?).filter (· != "")

@[simp] theorem toolName_override (settings : Settings) (environment : Environment) :
    (settings.override environment).toolName = settings.toolName := rfl

end Settings

end CompilerLauncher
