import CompilerLauncher.FileTree.Resolve
import CompilerLauncher.Settings.Basic
import CompilerLauncher.Yaml.Document

/-!
Settings from a document.

A document of settings is one mapping. Its known keys may come in any order and at most once each;
other keys say nothing. What the document leaves out has its default, and the whole is checked.
-/

namespace CompilerLauncher

namespace Settings

/-- What a document says so far. The search list may be said to be none. -/
structure Said where
  path : Option (Option String) := none
  temporaryDir : Option String := none
  detectShebang : Option Bool := none
  toolName : Option String := none
  deriving DecidableEq, Repr

/-- A value for something that has not been said yet. -/
def sayOnce {α : Type} (said : Option α) (value : Option α) : Option (Option α) :=
  match said, value with
  | none, some value => some (some value)
  | _, _ => none

/-- Takes one entry of the mapping. -/
def say (document : Yaml.Document) (said : Said) (entry : Yaml.Value × Yaml.Value) :
    Option Said := do
  let key ← document.scalar? entry.1
  let scalar := document.scalar? entry.2
  match key.text with
  | "path" =>
    let path ← sayOnce said.path (scalar.bind Yaml.optionalText?)
    return { said with path }
  | "temporary_dir" =>
    let temporaryDir ← sayOnce said.temporaryDir (scalar.map (·.text))
    return { said with temporaryDir }
  | "detect_shebang" =>
    let detectShebang ← sayOnce said.detectShebang (scalar.bind Yaml.truthOf?)
    return { said with detectShebang }
  | "tool_name" =>
    let toolName ← sayOnce said.toolName (scalar.map (·.text))
    return { said with toolName }
  | _ => return said

/-- What a document says. A document without content says nothing. -/
def said? (document : Yaml.Document) : Option Said :=
  match document.content with
  | .nothing => some {}
  | .mapping entries => entries.foldlM (say document) {}
  | .single value =>
    match document.scalar? value with
    | some scalar => if scalar.isEmpty then some {} else none
    | none => none

/-- The settings that a document makes of the defaults. -/
def ofSaid (environment : Environment) (said : Said) : Settings :=
  { path := said.path.join
    temporaryDir :=
      match said.temporaryDir with
      | some directory => Utf8.encode directory
      | none => defaultTemporaryDir environment
    detectShebang := said.detectShebang.getD false
    toolName := said.toolName.getD defaultToolName }

/-- Reads settings from a text and checks them. -/
def load (environment : Environment) (text : String) : Except SettingsError Settings :=
  match (Yaml.document? text).bind said? with
  | none => .error .malformed
  | some said =>
    let settings := ofSaid environment said
    settings.validate.map fun _ => settings

/-- Reads settings from the file that a path leads to. -/
def loadFile (tree : FileTree) (environment : Environment) (path : Bytes) :
    Except SettingsError Settings :=
  match (tree.read path).toOption.bind Utf8.decode? with
  | none => .error (.unreadable path)
  | some text => load environment text

end Settings

end CompilerLauncher
