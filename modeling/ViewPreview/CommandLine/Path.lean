import ViewPreview.Text.Occurrence
import ViewPreview.Text.Word

/-!
# Paths with Variables

Expanding a path as it is given on the command line: a tilde at its start stands for the home
directory, and a dollar sign introduces the name of a variable, in braces or not.  In braces a name
may be followed by a text that stands in for a missing variable.  Two dollar signs stand for one.
-/

namespace ViewPreview.CommandLine

open ViewPreview.Text

/-- The variables of an environment. -/
abbrev Environment : Type :=
  String → Option String

/-- Whether a character may occur in the name of a variable without braces. -/
def isVariablePart (c : Char) : Bool :=
  isAlphanumeric c || c == '_'

/-- Split what stands between the braces of a variable into its name and the text that stands in for
it. -/
def splitDefault : List Char → List Char × Option (List Char)
  | [] => ([], none)
  | ':' :: '-' :: text => ([], some text)
  | c :: text => (c :: (splitDefault text).1, (splitDefault text).2)

/-- The value of a variable, given what stands between its braces. -/
def variableValue? (environment : Environment) (inner : List Char) : Option (List Char) :=
  match splitDefault inner with
  | ([], _) => (environment (String.ofList inner)).map String.toList
  | (name, standIn) => ((environment (String.ofList name)).map String.toList).or standIn

/-- A text with its variables replaced by their values, after passing over `skip` characters that
are already accounted for.  There is none if a variable is missing. -/
def expandVariables? (environment : Environment) : (skip : Nat) → List Char → Option (List Char)
  | _, [] => some []
  | skip + 1, _ :: text => expandVariables? environment skip text
  | 0, '$' :: text =>
    match text with
    | '{' :: rest =>
      match splitFirst? '}' rest with
      | some (inner, _) => do
        let value ← variableValue? environment inner
        some (value ++ (← expandVariables? environment (inner.length + 2) text))
      | none => (expandVariables? environment 1 text).map fun rest ↦ '$' :: '{' :: rest
    | '$' :: _ => (expandVariables? environment 1 text).map fun rest ↦ '$' :: rest
    | _ =>
      let name := text.takeWhile isVariablePart
      if name.isEmpty then (expandVariables? environment 0 text).map fun rest ↦ '$' :: rest
      else do
        let value ← environment (String.ofList name)
        some (value.toList ++ (← expandVariables? environment name.length text))
  | 0, c :: text => (expandVariables? environment 0 text).map fun rest ↦ c :: rest

/-- The names of all variables whose values an expansion may ask for. -/
def variableNames : List Char → List String
  | [] => []
  | '$' :: text =>
    let braced :=
      match text with
      | '{' :: rest =>
        (splitFirst? '}' rest).toList.flatMap fun parts ↦ [parts.1, (splitDefault parts.1).1]
      | _ => []
    ((text.takeWhile isVariablePart :: braced).map String.ofList) ++ variableNames text
  | _ :: text => variableNames text

/-- A path with the home directory in place of a tilde at its start. -/
def expandHome (environment : Environment) (path : List Char) : List Char :=
  match path, environment "HOME" with
  | ['~'], some home => home.toList
  | '~' :: '/' :: rest, some home => home.toList ++ '/' :: rest
  | _, _ => path

/-- The path that a text stands for, unless it names a missing variable.  A tilde that comes from
the value of a variable is left as it is. -/
def expandPath? (environment : Environment) (text : String) : Option String :=
  let path := text.toList
  (expandVariables? environment 0 path).map fun expanded ↦
    String.ofList (if path.head? == some '~' then expandHome environment expanded else expanded)

/-- The path that a text stands for, which is the text itself if it names a missing variable. -/
def resolvePath (environment : Environment) (text : String) : String :=
  (expandPath? environment text).getD text

end ViewPreview.CommandLine
