import ViewPreview.Preview

/-!
# Arguments of the Command Line

What a list of arguments asks for.  Options have a long name behind two dashes and some of them a
short name behind one; several short names may share a dash.  A value follows its option as the next
argument, behind an equals sign, or directly behind a short name, and only the single dash by itself
is a value that begins with a dash.  Everything behind two dashes by themselves is no option.
-/

namespace ViewPreview.CommandLine

/-! ## Options -/

/-- The options of the command line. -/
inductive Flag where
  | output
  | json
  | fragment
  | backend
  | config
  | verbose
  | help
  | version
deriving Repr, DecidableEq

namespace Flag

/-- The long name of an option. -/
def longName : Flag → String
  | .output => "output"
  | .json => "json"
  | .fragment => "fragment"
  | .backend => "backend"
  | .config => "config"
  | .verbose => "verbose"
  | .help => "help"
  | .version => "version"

/-- The short name of an option that has one. -/
def shortName? : Flag → Option Char
  | .output => some 'o'
  | .verbose => some 'v'
  | .help => some 'h'
  | .version => some 'V'
  | _ => none

/-- All options. -/
def all : List Flag :=
  [output, json, fragment, backend, config, verbose, help, version]

/-- The option with a long name. -/
def ofLongName? (name : String) : Option Flag :=
  all.find? fun flag ↦ flag.longName == name

/-- The option with a short name. -/
def ofShortName? (name : Char) : Option Flag :=
  all.find? fun flag ↦ flag.shortName? == some name

/-- Whether an option has a value. -/
def takesValue : Flag → Bool
  | .output => true
  | .backend => true
  | .config => true
  | _ => false

end Flag

/-! ## Requests -/

/-- The options of a preview. -/
structure Invocation where
  input : String
  output : Option String
  json : Bool
  fragment : Bool
  backend : Option Backend
  config : Option String
  verbose : Bool
deriving Repr

/-- What the command line asks for. -/
inductive Request where
  | preview (invocation : Invocation)
  | help
  | version
deriving Repr

/-- Why a list of arguments asks for nothing. -/
inductive UsageError where
  | unexpected (argument : String)
  | missingInput
  | missingValue (flag : Flag)
  | unneededValue (flag : Flag)
  | repeated (flag : Flag)
  | conflict (first second : Flag)
  | emptyValue
  | invalidBackend (complaint : String)
deriving Repr, DecidableEq

/-- The text of a usage error. -/
def UsageError.message : UsageError → String
  | .unexpected argument => "unexpected argument '" ++ argument ++ "' found"
  | .missingInput => "the following required arguments were not provided: <INPUT>"
  | .missingValue flag =>
    "a value is required for '--" ++ flag.longName ++ "' but none was supplied"
  | .unneededValue flag => "unexpected value for '--" ++ flag.longName ++ "' found"
  | .repeated flag => "the argument '--" ++ flag.longName ++ "' cannot be used multiple times"
  | .conflict first second =>
    "the argument '--" ++ first.longName ++ "' cannot be used with '--" ++ second.longName ++ "'"
  | .emptyValue => "a value is required but none was supplied"
  | .invalidBackend complaint => complaint

/-! ## Collecting options -/

/-- What has been collected from the arguments so far. -/
structure Collected where
  input : Option String := none
  values : List (Flag × String) := []
  raised : List Flag := []
deriving Repr

/-- Whether a value has the form that its option asks for. -/
def checkValue (flag : Flag) (value : String) : Except UsageError Unit :=
  match flag with
  | .backend =>
    match Backend.ofText value with
    | .ok _ => .ok ()
    | .error complaint => .error (.invalidBackend complaint)
  | _ => if value.isEmpty then .error .emptyValue else .ok ()

namespace Collected

/-- Give a value to an option that has none. -/
def give (collected : Collected) (flag : Flag) (value : String) : Except UsageError Collected := do
  if (collected.values.lookup flag).isSome then throw (.repeated flag)
  checkValue flag value
  return { collected with values := collected.values ++ [(flag, value)] }

/-- Raise an option without a value. -/
def raise (collected : Collected) (flag : Flag) : Except UsageError Collected :=
  if collected.raised.contains flag then .error (.repeated flag)
  else .ok { collected with raised := collected.raised ++ [flag] }

/-- Take an argument that is no option. -/
def place (collected : Collected) (argument : String) : Except UsageError Collected :=
  match collected.input with
  | some _ => .error (.unexpected argument)
  | none =>
    if argument.isEmpty then .error .emptyValue else .ok { collected with input := some argument }

/-- The request that the collected options make up. -/
def finish (collected : Collected) : Except UsageError Request := do
  let some input := collected.input | throw .missingInput
  let json := collected.raised.contains .json
  let fragment := collected.raised.contains .fragment
  if json && fragment then throw (.conflict .fragment .json)
  return .preview
    { input, json, fragment
      output := collected.values.lookup .output
      backend := (collected.values.lookup .backend).bind fun name ↦ (Backend.ofText name).toOption
      config := collected.values.lookup .config
      verbose := collected.raised.contains .verbose }

end Collected

/-! ## Reading arguments -/

/-- How reading goes on after an argument: with more of them, with the value of an option, or not at
all. -/
inductive Step where
  | next (collected : Collected)
  | awaiting (collected : Collected) (flag : Flag)
  | answer (request : Request)
deriving Repr

/-- Raise an option without a value, or answer it directly. -/
def raiseStep (collected : Collected) (flag : Flag) : Except UsageError Step :=
  match flag with
  | .help => .ok (.answer .help)
  | .version => .ok (.answer .version)
  | _ => (collected.raise flag).map Step.next

/-- Read an option by its long name, with the value behind an equals sign if there is one. -/
def longStep (collected : Collected) (name : String) (value : Option String) :
    Except UsageError Step :=
  match Flag.ofLongName? name, value with
  | none, _ => .error (.unexpected ("--" ++ name))
  | some flag, some value =>
    if flag.takesValue then (collected.give flag value).map Step.next
    else .error (.unneededValue flag)
  | some flag, none =>
    if flag.takesValue then .ok (.awaiting collected flag) else raiseStep collected flag

/-- Read options by their short names. -/
def shortStep : Collected → List Char → Except UsageError Step
  | collected, [] => .ok (.next collected)
  | collected, name :: names =>
    match Flag.ofShortName? name with
    | none => .error (.unexpected (String.ofList ['-', name]))
    | some flag =>
      if flag.takesValue then
        match names with
        | [] => .ok (.awaiting collected flag)
        | '=' :: value => (collected.give flag (String.ofList value)).map Step.next
        | value => (collected.give flag (String.ofList value)).map Step.next
      else
        match raiseStep collected flag with
        | .ok (.next collected) => shortStep collected names
        | other => other

/-- Read one argument. -/
def step (collected : Collected) (argument : String) : Except UsageError Step :=
  match argument.toList with
  | '-' :: '-' :: option =>
    match Text.splitFirst? '=' option with
    | some (name, value) => longStep collected (String.ofList name) (some (String.ofList value))
    | none => longStep collected (String.ofList option) none
  | '-' :: name :: names => shortStep collected (name :: names)
  | _ => (collected.place argument).map Step.next

/-- Whether an argument cannot be the value of an option. -/
def isOption (argument : String) : Bool :=
  match argument.toList with
  | '-' :: _ :: _ => true
  | _ => false

/-- Read arguments of which none is an option. -/
def readPlain (collected : Collected) (arguments : List String) : Except UsageError Request := do
  (← arguments.foldlM Collected.place collected).finish

/-- Read arguments. -/
def readFrom (collected : Collected) : List String → Except UsageError Request
  | [] => collected.finish
  | "--" :: arguments => readPlain collected arguments
  | argument :: arguments =>
    match step collected argument with
    | .error error => .error error
    | .ok (.answer request) => .ok request
    | .ok (.next collected) => readFrom collected arguments
    | .ok (.awaiting collected flag) =>
      match arguments with
      | [] => .error (.missingValue flag)
      | value :: arguments =>
        if isOption value then .error (.missingValue flag)
        else
          match collected.give flag value with
          | .ok collected => readFrom collected arguments
          | .error error => .error error

/-- What a list of arguments asks for. -/
def readArguments (arguments : List String) : Except UsageError Request :=
  readFrom {} arguments

end ViewPreview.CommandLine
