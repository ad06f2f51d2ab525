import CompilerLauncher.Text.Utf8

/-!
The front end's own options.

The command line holds the front end's options, then the compiler's name, then the compiler's
arguments, which are passed on as they stand whatever they look like. `Options.read` takes the
tokens one by one. An option that takes a value may have it attached after an equals sign or as the
next token; in the second case it stays pending until something else begins, and only then is it
checked. A token that looks like an option but is none of ours is a value or the compiler's name.
-/

namespace CompilerLauncher

/-- What the command line asks for. The command is the compiler's name and its arguments. -/
structure Options where
  config : Option Bytes := none
  output : Option Bytes := none
  errors : Option Bytes := none
  debug : Bool := false
  replace : Bool := false
  command : List Bytes := []
  deriving DecidableEq, Repr

/-- Why a command line asks for nothing that could be done. -/
inductive UsageError
  | missingArgument
  | conflict
  | invalidValue
  | tooManyValues
  | unknownArgument
  | displayHelp
  | displayVersion
  deriving DecidableEq, Repr

namespace Options

/-- An option that takes a value. -/
inductive Valued
  | config
  | output
  | errors
  deriving DecidableEq, Repr

/-- An option that takes none. -/
inductive Flag
  | debug
  | replace
  | help
  | version
  deriving DecidableEq, Repr

/-- A token of the command line before the compiler's name. -/
inductive Token
  | separator
  | valued (option : Valued) (attached : Option Bytes)
  | flag (flag : Flag) (attached : Option Bytes)
  | unreadable
  | other
  deriving DecidableEq, Repr

/-! ## Tokens -/

/-- The byte that options start with. -/
def dash : UInt8 := 45

/-- The byte between an option's name and an attached value. -/
def equals : UInt8 := 61

/-- The option of the given name. -/
def named (name : String) (attached : Option Bytes) : Token :=
  match name with
  | "config" => .valued .config attached
  | "stdout" => .valued .output attached
  | "stderr" => .valued .errors attached
  | "debug" => .flag .debug attached
  | "exec" => .flag .replace attached
  | "help" => .flag .help attached
  | "version" => .flag .version attached
  | _ => .other

/-- A token of two dashes and more. -/
def longToken (body : Bytes) : Token :=
  let attached :=
    match body.dropWhile (· != equals) with
    | [] => none
    | _ :: value => some value
  match Utf8.decode? (body.takeWhile (· != equals)) with
  | some name => named name attached
  | none => .unreadable

/-- The flag that a letter stands for. -/
def letterFlag? (letter : UInt8) : Option Flag :=
  if letter = 104 then some .help
  else if letter = 86 then some .version
  else none

/-- A token of one dash and letters: all of them must be known for the first to count. -/
def shortToken (letters : Bytes) : Token :=
  match letters with
  | [] => .other
  | first :: _ =>
    if letters.all fun letter => (letterFlag? letter).isSome then
      match letterFlag? first with
      | some flag => .flag flag none
      | none => .other
    else .other

/-- What a token is. -/
def classify : Bytes → Token
  | [] => .other
  | first :: rest =>
    if first = dash then
      match rest with
      | [] => .other
      | second :: body =>
        if second = dash then if body = [] then .separator else longToken body
        else shortToken rest
    else .other

/-! ## Storing -/

/-- The value that an option has so far. -/
def value? (options : Options) : Valued → Option Bytes
  | .config => options.config
  | .output => options.output
  | .errors => options.errors

/-- The options with a value set. -/
def withValue (options : Options) (value : Bytes) : Valued → Options
  | .config => { options with config := some value }
  | .output => { options with output := some value }
  | .errors => { options with errors := some value }

/-- Gives an option its value; it must not have one yet, and the value must not be empty. -/
def store (options : Options) (option : Valued) (value : Bytes) : Except UsageError Options :=
  if (options.value? option).isSome then .error .conflict
  else if value = [] then .error .invalidValue
  else .ok (options.withValue value option)

/-- Sets a flag, once. Asking for help or the version ends the reading. -/
def raise (options : Options) : Flag → Except UsageError Options
  | .debug => if options.debug then .error .conflict else .ok { options with debug := true }
  | .replace => if options.replace then .error .conflict else .ok { options with replace := true }
  | .help => .error .displayHelp
  | .version => .error .displayVersion

/-! ## Reading -/

/-- The options read so far, and the option whose value is the next token or has just been read. -/
structure Reading where
  options : Options := {}
  pending : Option (Valued × Option Bytes) := none
  deriving DecidableEq, Repr

namespace Reading

/-- The reader waits for the value of an option. -/
def awaits (reading : Reading) : Option Valued :=
  match reading.pending with
  | some (option, none) => some option
  | _ => none

/-- Checks the pending option and stores its value. -/
def settle (reading : Reading) : Except UsageError Options :=
  match reading.pending with
  | none => .ok reading.options
  | some (_, none) => .error .invalidValue
  | some (option, some value) => reading.options.store option value

/-- Takes the compiler's name and everything after it. -/
def finish (reading : Reading) (command : List Bytes) : Except UsageError Options :=
  reading.settle.map fun options => { options with command }

/-- Takes the tokens from here on. -/
def take : Reading → List Bytes → Except UsageError Options
  | reading, [] => reading.settle
  | reading, token :: rest =>
    match classify token with
    | .separator => reading.finish rest
    | .valued option none =>
      match reading.settle with
      | .ok options => take { options, pending := some (option, none) } rest
      | .error error => .error error
    | .valued option (some value) =>
      match reading.settle.bind fun options => options.store option value with
      | .ok options => take { options } rest
      | .error error => .error error
    | .flag _ (some _) => .error .tooManyValues
    | .flag flag none =>
      match reading.settle.bind fun options => options.raise flag with
      | .ok options => take { options } rest
      | .error error => .error error
    | .unreadable => .error .unknownArgument
    | .other =>
      match reading.awaits with
      | some option => take { reading with pending := some (option, some token) } rest
      | none => reading.finish (token :: rest)

end Reading

/-- Checks what the options say together: the image is not replaced while output goes to files, both
files are named or neither, and a compiler is named. -/
def check (options : Options) : Except UsageError Options :=
  if options.replace ∧ (options.output.isSome ∨ options.errors.isSome) then .error .conflict
  else if options.command = [] then .error .missingArgument
  else if options.output.isSome ≠ options.errors.isSome then .error .missingArgument
  else .ok options

/-- Reads a command line, without the program's own name. -/
def read (tokens : List Bytes) : Except UsageError Options :=
  (Reading.take {} tokens).bind check

/-! ## The compiler -/

/-- The compiler's name and its arguments; the name must be a text. -/
def compiler (options : Options) : Except Bytes (Bytes × List Bytes) :=
  match options.command with
  | [] => .error []
  | name :: arguments =>
    if (Utf8.decode? name).isSome then .ok (name, arguments) else .error name

/-- The complaint about a name that is no text. -/
def unreadableName (name : Bytes) : String :=
  s!"Compiler name is not valid UTF-8: {Utf8.lossy name}"

end Options

end CompilerLauncher
