/-!
# Options

What the command line may say: a file, switches, and settings with a value. Arguments are
read from left to right, and the first that is wrong, or that asks for help or the version,
decides. What does not go together is found out at the end.

A setting's value comes behind an equals sign or as the next argument; the next argument is
no value if it looks like an option. Behind `--` nothing is an option.
-/

namespace SelectorFinder.CommandLine

/-- Options that take no value. -/
inductive Switch where
  | json
  | dedupe
  | noColor
  deriving DecidableEq, Repr

/-- Options that take a value. -/
inductive Setting where
  | html
  | id
  | path
  | specificity
  deriving DecidableEq, Repr

/-- What an option is called, without the hyphens before it. -/
def Switch.name : Switch → String
  | json => "json"
  | dedupe => "dedupe"
  | noColor => "no-color"

/-- What an option is called, without the hyphens before it. -/
def Setting.name : Setting → String
  | html => "html"
  | id => "id"
  | path => "path"
  | specificity => "specificity"

/-- The switch of that name. -/
def Switch.ofName? (name : String) : Option Switch :=
  [json, dedupe, noColor].find? (·.name == name)

/-- The setting of that name. -/
def Setting.ofName? (name : String) : Option Setting :=
  [html, id, path, specificity].find? (·.name == name)

/-- The options that were given. -/
structure Options where
  file : Option String
  switches : List Switch
  settings : List (Setting × String)
  deriving DecidableEq, Repr

/-- What the command line asks for. -/
inductive Request where
  | run (options : Options)
  | help
  | version
  deriving DecidableEq, Repr

/-- Why a command line is wrong. -/
inductive UsageError where
  | unknownOption (name : String)
  | missingValue (name : String)
  | unexpectedValue (name : String)
  | repeated (name : String)
  | extraArgument (text : String)
  | conflict (first second : String)
  deriving DecidableEq, Repr

/-- What is said of a command line that is wrong. -/
def UsageError.message : UsageError → String
  | unknownOption name => "unexpected argument '" ++ name ++ "' found"
  | missingValue name => "a value is required for '" ++ name ++ "' but none was supplied"
  | unexpectedValue name => "unexpected value for '" ++ name ++ "' found; no more were expected"
  | repeated name => "the argument '" ++ name ++ "' cannot be used multiple times"
  | extraArgument text => "unexpected argument '" ++ text ++ "' found"
  | conflict first second =>
    "the argument '" ++ first ++ "' cannot be used with '" ++ second ++ "'"

namespace Options

/-- No option at all. -/
def none : Options := ⟨Option.none, [], []⟩

/-- Whether a switch was given. -/
def has (o : Options) (s : Switch) : Bool :=
  o.switches.contains s

/-- The value of a setting that was given. -/
def value? (o : Options) (s : Setting) : Option String :=
  o.settings.lookup s

/-- Gives a switch. -/
def addSwitch (o : Options) (s : Switch) : Except UsageError Options :=
  if o.has s then .error (.repeated s.name) else .ok { o with switches := s :: o.switches }

/-- Gives a setting a value. -/
def addSetting (o : Options) (s : Setting) (value : String) : Except UsageError Options :=
  if (o.value? s).isSome then .error (.repeated s.name)
  else .ok { o with settings := (s, value) :: o.settings }

/-- Gives a file, which has to have a name and to be the only one. -/
def addFile (o : Options) (name : String) : Except UsageError Options :=
  if o.file.isSome then .error (.extraArgument name)
  else if name = "" then .error (.missingValue "FILE")
  else .ok { o with file := some name }

/-- The options, if they go together. -/
def checked (o : Options) : Except UsageError Options :=
  if o.file.isSome && (o.value? .html).isSome then .error (.conflict "FILE" Setting.html.name)
  else if (o.value? .id).isSome && (o.value? .path).isSome then
    .error (.conflict Setting.id.name Setting.path.name)
  else .ok o

/-- Gives the arguments behind `--`, which are files. -/
def addFiles (o : Options) : List String → Except UsageError Options
  | [] => .ok o
  | name :: names => do (← o.addFile name).addFiles names

end Options

/-- What an argument is by its form. -/
inductive Argument where
  /-- `--`. -/
  | separator
  /-- `--name` or `--name=value`. -/
  | long (name : String) (value : Option String)
  /-- `-x`, and whatever else follows the hyphen. -/
  | short (letter : Char)
  | plain
  deriving DecidableEq, Repr

/-- What an argument is by its form. A hyphen alone is plain. -/
def Argument.of (text : String) : Argument :=
  match text.toList with
  | ['-', '-'] => separator
  | '-' :: '-' :: cs =>
    let name := String.ofList (cs.takeWhile (· ≠ '='))
    match cs.dropWhile (· ≠ '=') with
    | _ :: value => long name (some (String.ofList value))
    | [] => long name Option.none
  | '-' :: c :: _ => short c
  | _ => plain

/-- Reads arguments behind those that gave the options so far. -/
def readArguments (o : Options) : List String → Except UsageError Request
  | [] => o.checked.map .run
  | text :: rest =>
    match Argument.of text with
    | .separator => do return .run (← (← o.addFiles rest).checked)
    | .plain => do readArguments (← o.addFile text) rest
    | .short 'h' => .ok .help
    | .short 'V' => .ok .version
    | .short _ => .error (.unknownOption text)
    | .long name value =>
      match Switch.ofName? name, Setting.ofName? name, value with
      | some s, _, none => do readArguments (← o.addSwitch s) rest
      | some _, _, some _ => .error (.unexpectedValue text)
      | none, some s, some value => do readArguments (← o.addSetting s value) rest
      | none, some s, none =>
        match rest with
        | value :: rest =>
          if Argument.of value = .plain then do readArguments (← o.addSetting s value) rest
          else .error (.missingValue text)
        | [] => .error (.missingValue text)
      | none, none, none =>
        if name = "help" then .ok .help
        else if name = "version" then .ok .version
        else .error (.unknownOption text)
      | none, none, some _ =>
        if name = "help" ∨ name = "version" then .error (.unexpectedValue text)
        else .error (.unknownOption text)

/-- What the arguments ask for. -/
def Request.ofArguments (arguments : List String) : Except UsageError Request :=
  readArguments .none arguments

end SelectorFinder.CommandLine
