import ViewPreview.CommandLine.Arguments
import ViewPreview.CommandLine.Host
import ViewPreview.Page.Document
import ViewPreview.Settings.Basic

/-!
# Runs of the Command Line

What a run does: it reads the settings, then the source, and shows the preview of that source as a
page, as a fragment of one, or as JSON, on the standard output or in a file.  A preview without a
view is shown too, but the run then counts as failed.
-/

namespace ViewPreview.CommandLine

/-! ## Outcomes -/

/-- Why a run ends without showing a preview. -/
inductive RunError where
  | settingsMissing (path : String)
  | settingsUnreadable (path reason : String)
  | settingsMalformed (path : String)
  | sourceUnreadable (path : String)
  | outputUnwritable (path : String)
deriving Repr, DecidableEq

/-- The text of an error. -/
def RunError.message : RunError → String
  | .settingsMissing path => "Config file '" ++ path ++ "' does not exist"
  | .settingsUnreadable path reason => "Failed to read config file at " ++ path ++ ": " ++ reason
  | .settingsMalformed path => "Failed to parse config file at " ++ path
  | .sourceUnreadable path => "Failed to read '" ++ path ++ "'"
  | .outputUnwritable path => "Failed to write '" ++ path ++ "'"

/-- What went wrong in a run. -/
inductive Complaint where
  | usage (error : UsageError)
  | failure (error : RunError)
deriving Repr

/-- The outcome of a run: its exit code, what it writes to the standard output, what went wrong, and
what it reports on the way. -/
structure Outcome where
  code : Nat := 0
  output : String := ""
  complaint : Option Complaint := none
  reports : List String := []
deriving Repr

namespace Outcome

/-- The outcome of arguments that ask for nothing. -/
def ofUsage (error : UsageError) : Outcome :=
  { code := 2, complaint := some (.usage error) }

/-- The outcome of a run that shows no preview. -/
def ofFailure (error : RunError) : Outcome :=
  { code := 1, complaint := some (.failure error) }

end Outcome

/-! ## Texts -/

/-- The text that tells the version of the program. -/
def versionText : String :=
  "crosspreview 0.1.0\n"

/-- The text that explains the arguments of the program. -/
def helpText : String :=
  "Render a SwiftUI view file as HTML\n\n" ++
  "Usage: crosspreview [OPTIONS] <INPUT>\n\n" ++
  "Arguments:\n" ++
  "  <INPUT>  Path to the .swift file\n\n" ++
  "Options:\n" ++
  "  -o, --output <OUTPUT>    Write output here instead of stdout\n" ++
  "      --json               Print the parse result as JSON instead of HTML\n" ++
  "      --fragment           Emit only the rendered tree and banner, without the page wrapper\n" ++
  "      --backend <BACKEND>  Parser backend: auto, structural or fallback\n" ++
  "      --config <CONFIG>    Config file to use instead of ~/.config/crosspreview/config.toml\n" ++
  "  -v, --verbose            Log debug detail\n" ++
  "  -h, --help               Print help\n" ++
  "  -V, --version            Print version\n"

/-- The text of a preview in the form that was asked for. -/
def previewText (invocation : Invocation) (options : RenderOptions) (preview : Preview) : String :=
  if invocation.json then (preview.encode .serialized).write
  else if invocation.fragment then
    Page.banner preview.messages ++ (preview.root.map (Render.render options)).getD ""
  else Page.document options preview.root preview.messages

/-! ## Settings -/

/-- Where settings are kept unless the command line names another file. -/
def usualSettingsPath (environment : Environment) : String :=
  String.ofList (expandHome environment "~/.config/crosspreview/config.toml".toList)

/-- The settings in a file, if there is one. -/
def settingsAt (path : String) : Entry → Except RunError (Option Settings)
  | .missing => .ok none
  | .unreadable reason => .error (.settingsUnreadable path reason)
  | .text content =>
    match Settings.ofText? content with
    | some settings => .ok (some settings)
    | none => .error (.settingsMalformed path)

/-- The settings of a run.  Only a file that the command line names has to be there. -/
def loadSettings {m : Type → Type} [Monad m] (host : Host m) (config : Option String) :
    m (Except RunError Settings) := do
  let path :=
    match config with
    | some path => resolvePath host.environment path
    | none => usualSettingsPath host.environment
  match settingsAt path (← host.read path) with
  | .error error => return .error error
  | .ok (some settings) => return .ok settings
  | .ok none => return if config.isSome then .error (.settingsMissing path) else .ok {}

/-! ## Runs -/

/-- Show the text of a preview. -/
def deliver {m : Type → Type} [Monad m] (host : Host m) (invocation : Invocation) (text : String) :
    m Outcome := do
  match invocation.output with
  | none => return { output := text ++ "\n" }
  | some path =>
    let path := resolvePath host.environment path
    if ← host.write path text then return { reports := ["Wrote preview to " ++ path] }
    else return Outcome.ofFailure (.outputUnwritable path)

/-- What a run reports while it reads a source. -/
def readingReports (invocation : Invocation) (path : String) (backend : Backend)
    (preview : Preview) : List String :=
  let detail := "Parsing " ++ path ++ " with the " ++ backend.resolved.name ++ " backend"
  (if invocation.verbose then [detail] else []) ++ preview.messages

/-- The outcome of showing the preview of a source. -/
def showPreview {m : Type → Type} [Monad m] (host : Host m) (invocation : Invocation)
    (settings : Settings) (path source : String) : m Outcome := do
  let backend := invocation.backend.getD settings.backend
  let preview := Preview.ofSource backend source
  let outcome ← deliver host invocation (previewText invocation settings.render preview)
  return { outcome with
    code := if preview.root.isSome then outcome.code else 1
    reports := readingReports invocation path backend preview ++ outcome.reports }

/-- Run a preview. -/
def runPreview {m : Type → Type} [Monad m] (host : Host m) (invocation : Invocation) :
    m Outcome := do
  match ← loadSettings host invocation.config with
  | .error error => return Outcome.ofFailure error
  | .ok settings =>
    let path := resolvePath host.environment invocation.input
    match ← host.read path with
    | .text source => showPreview host invocation settings path source
    | _ => return Outcome.ofFailure (.sourceUnreadable path)

/-- Run the program. -/
def run {m : Type → Type} [Monad m] (host : Host m) (arguments : List String) : m Outcome :=
  match readArguments arguments with
  | .error error => return Outcome.ofUsage error
  | .ok .version => return { output := versionText }
  | .ok .help => return { output := helpText }
  | .ok (.preview invocation) => runPreview host invocation

end ViewPreview.CommandLine
