import ViewPreview.CommandLine.Run
import ViewPreview.Proofs.CommandLine.Directory

/-!
# Effects of Runs

What a run leaves behind in a directory.  Without settings or without a source it leaves everything
as it was and prints nothing.  With both it shows the text that was asked for, on the standard
output or in a file but never in both, and it shows it whether the preview has a view or not.
-/

namespace ViewPreview.CommandLine

open Directory

variable {home : String} {environment : Environment} {directory : Directory}
variable {invocation : Invocation} {settings : Settings} {path source text : String}

/-! ## Settings -/

/-- The path at which a run looks for its settings. -/
def settingsPath (environment : Environment) : Option String → String
  | some path => resolvePath environment path
  | none => usualSettingsPath environment

/-- The settings of a run, from what is found at their path: those that are written there, or the
usual ones if no file is named and there is none. -/
inductive FindsSettings (config : Option String) : Entry → Settings → Prop
  | written {content : String} {settings : Settings}
      (valid : Settings.ofText? content = some settings) :
      FindsSettings config (.text content) settings
  | usual (unnamed : config = none) : FindsSettings config .missing {}

/-- Whether a run has no settings, from what is found at their path: something that cannot be read
or understood, or nothing although a file is named. -/
inductive LacksSettings (config : Option String) : Entry → Prop
  | unreadable (reason : String) : LacksSettings config (.unreadable reason)
  | malformed {content : String} (invalid : Settings.ofText? content = none) :
      LacksSettings config (.text content)
  | missing (named : config.isSome = true) : LacksSettings config .missing

theorem findsSettings_or_lacksSettings (config : Option String) (entry : Entry) :
    (∃ settings, FindsSettings config entry settings) ∨ LacksSettings config entry := by
  cases entry with
  | missing =>
    cases config with
    | none => exact .inl ⟨{}, .usual rfl⟩
    | some path => exact .inr (.missing rfl)
  | unreadable reason => exact .inr (.unreadable reason)
  | text content =>
    cases read : Settings.ofText? content with
    | none => exact .inr (.malformed read)
    | some settings => exact .inl ⟨settings, .written read⟩

/-- The settings of a run or why it has none, from what is found at their path. -/
def loadedSettings (config : Option String) (path : String) (entry : Entry) :
    Except RunError Settings :=
  (settingsAt path entry).bind fun found ↦
    match found with
    | some settings => .ok settings
    | none => if config.isSome then .error (.settingsMissing path) else .ok {}

section Settings

variable {config : Option String} {entry : Entry}

theorem loadedSettings_of_finds (finds : FindsSettings config entry settings) (path : String) :
    loadedSettings config path entry = .ok settings := by
  cases finds with
  | written valid => simp only [loadedSettings, settingsAt, valid]; rfl
  | usual unnamed => rw [unnamed]; rfl

theorem exists_loadedSettings_of_lacks (lacks : LacksSettings config entry) (path : String) :
    ∃ error, loadedSettings config path entry = .error error := by
  cases lacks with
  | unreadable reason => exact ⟨.settingsUnreadable path reason, rfl⟩
  | malformed invalid =>
    exact ⟨.settingsMalformed path, by simp only [loadedSettings, settingsAt, invalid]; rfl⟩
  | missing named =>
    exact ⟨.settingsMissing path, by rw [loadedSettings]; exact if_pos named⟩

/-- Loading settings reads one entry and changes nothing. -/
theorem loadSettings_host (home : String) (environment : Environment) (config : Option String)
    (directory : Directory) :
    loadSettings (host home environment) config directory =
      let path := settingsPath (host home environment).environment config
      (loadedSettings config path (directory.entry home path), directory) := by
  cases config
  all_goals
    simp only [loadSettings, loadedSettings, settingsPath, bind, StateT.bind, host]
    generalize settingsAt _ _ = found
    rcases found with error | _ | settings <;> rfl

end Settings

/-! ## Results -/

/-- A run that shows nothing: it fails, prints nothing and leaves everything as it was. -/
structure Fails (directory : Directory) (result : Outcome × Directory) : Prop where
  code : result.1.code = 1
  output : result.1.output = ""
  unchanged : result.2 = directory

/-- A run that prints a text, a line by itself, and leaves everything as it was.  It fails if it has
no view to show. -/
structure Prints (directory : Directory) (root : Option View) (text : String)
    (result : Outcome × Directory) : Prop where
  code : result.1.code = if root.isSome then 0 else 1
  output : result.1.output = text ++ "\n"
  unchanged : result.2 = directory

/-- A run that writes a text to a path and prints nothing: what leads elsewhere is as it was.  It
fails if it has no view to show. -/
structure Writes (home : String) (directory : Directory) (root : Option View) (path text : String)
    (result : Outcome × Directory) : Prop where
  code : result.1.code = if root.isSome then 0 else 1
  output : result.1.output = ""
  written : result.2.entry home path = .text text
  elsewhere : ∀ other, directory.place? home other ≠ directory.place? home path →
    result.2.entry home other = directory.entry home other

/-- What a run does to show a text: it prints it if no file is named, and otherwise writes it to
that file, or fails if that is not possible. -/
def Shows (home : String) (directory : Directory) (root : Option View) (text : String)
    (result : Outcome × Directory) : (file : Option String) → Prop
  | none => Prints directory root text result
  | some path =>
    (directory.IsWritable home path → Writes home directory root path text result) ∧
      (¬directory.IsWritable home path → Fails directory result)

/-! ## Runs -/

theorem fails_ofFailure (error : RunError) (directory : Directory) :
    Fails directory (.ofFailure error, directory) :=
  ⟨rfl, rfl, rfl⟩

/-- Writing to a host is writing to its directory. -/
theorem write_host (home : String) (environment : Environment) (path content : String)
    (directory : Directory) :
    (host home environment).write path content directory =
      ((directory.write? home path content).isSome,
        (directory.write? home path content).getD directory) := by
  simp only [host]
  cases directory.write? home path content <;> rfl

/-- The preview of a source is shown. -/
theorem shows_showPreview (home : String) (environment : Environment) (directory : Directory)
    (invocation : Invocation) (settings : Settings) (path source : String) :
    let preview := Preview.ofSource (invocation.backend.getD settings.backend) source
    Shows home directory preview.root (previewText invocation settings.render preview)
      (showPreview (host home environment) invocation settings path source directory)
      (invocation.output.map (resolvePath (host home environment).environment)) := by
  intro preview
  unfold showPreview deliver
  cases invocation.output with
  | none => exact ⟨rfl, rfl, rfl⟩
  | some file =>
    rw [Option.map_some]
    simp only [bind, StateT.bind, write_host]
    generalize resolvePath (host home environment).environment file = file
    generalize previewText invocation settings.render preview = text
    constructor
    · intro writable
      obtain ⟨changed, writes⟩ := exists_write? writable text
      rw [writes]
      exact ⟨rfl, rfl, entry_write? writes, fun other ↦ entry_write?_of_ne writes⟩
    · intro unwritable
      rw [write?_eq_none unwritable]
      exact ⟨ite_self 1, rfl, rfl⟩

section Run

variable (home : String) (environment : Environment) (directory : Directory)

theorem fails_runPreview_of_lacks
    (lacks : LacksSettings invocation.config
      (directory.entry home (settingsPath (host home environment).environment invocation.config))) :
    Fails directory (runPreview (host home environment) invocation directory) := by
  obtain ⟨error, loads⟩ := exists_loadedSettings_of_lacks lacks
    (settingsPath (host home environment).environment invocation.config)
  simp only [runPreview, bind, StateT.bind, loadSettings_host, loads]
  exact fails_ofFailure error directory

/-- With its settings, a run reads its source and changes nothing in doing so. -/
theorem runPreview_of_finds
    (finds : FindsSettings invocation.config
      (directory.entry home (settingsPath (host home environment).environment invocation.config))
      settings) :
    let path := resolvePath (host home environment).environment invocation.input
    runPreview (host home environment) invocation directory =
      match directory.entry home path with
      | .text source =>
        showPreview (host home environment) invocation settings path source directory
      | _ => (.ofFailure (.sourceUnreadable path), directory) := by
  intro path
  simp only [runPreview, bind, StateT.bind, loadSettings_host, loadedSettings_of_finds finds]
  change (match directory.entry home path with
    | .text source => showPreview (host home environment) invocation settings path source
    | _ => pure (.ofFailure (.sourceUnreadable path))) directory = _
  cases directory.entry home path <;> rfl

/-- A run without settings or without a source shows nothing, and every other one shows the preview
of its source, read by the backend that the command line names or else by that of the settings. -/
theorem run_effects {arguments : List String}
    (accepted : readArguments arguments = .ok (.preview invocation)) :
    let known := (host home environment).environment
    let atSettings := directory.entry home (settingsPath known invocation.config)
    let atInput := directory.entry home (resolvePath known invocation.input)
    let result := run (host home environment) arguments directory
    (LacksSettings invocation.config atSettings ∨ (∀ source, atInput ≠ .text source) →
      Fails directory result) ∧
    ∀ settings source, FindsSettings invocation.config atSettings settings →
      atInput = .text source →
      let preview := Preview.ofSource (invocation.backend.getD settings.backend) source
      Shows home directory preview.root (previewText invocation settings.render preview) result
        (invocation.output.map (resolvePath known)) := by
  intro known atSettings atInput result
  have runs : result = runPreview (host home environment) invocation directory := by
    simp only [result, run, accepted]
  rw [runs]
  have fails (lacks : LacksSettings invocation.config atSettings) :=
    fails_runPreview_of_lacks home environment directory lacks
  constructor
  · rintro (lacks | noText)
    · exact fails lacks
    · rcases findsSettings_or_lacksSettings invocation.config atSettings with
        ⟨settings, finds⟩ | lacks
      · rw [runPreview_of_finds home environment directory finds]
        cases found : directory.entry home (resolvePath known invocation.input) with
        | missing => exact fails_ofFailure _ directory
        | unreadable reason => exact fails_ofFailure _ directory
        | text source => exact absurd found (noText source)
      · exact fails lacks
  · intro settings source finds isText preview
    have isText : directory.entry home (resolvePath known invocation.input) = .text source := isText
    rw [runPreview_of_finds home environment directory finds, isText]
    exact shows_showPreview home environment directory invocation settings _ source

/-- A file without a view. -/
def viewlessDirectory : Directory :=
  ⟨[(["Empty.swift"], "let x = 1")]⟩

/-- The options of a run that writes the preview of a file without a view to another file. -/
def viewlessInvocation : Invocation :=
  { input := "Empty.swift", output := some "empty.html", json := false, fragment := true
    backend := some .fallback, config := none, verbose := false }

theorem run_effects_viewless :
    let arguments := ["Empty.swift", "--fragment", "-o", "empty.html", "--backend=fallback"]
    let result := run (host "/home" fun _ ↦ none) arguments viewlessDirectory
    readArguments arguments = .ok (.preview viewlessInvocation) ∧ result.1.code = 1 ∧
      result.1.output = "" ∧
      result.2.entry "/home" "empty.html" =
        .text (Page.banner (Preview.ofSource .fallback "let x = 1").messages) := by
  intro arguments result
  have accepted : readArguments arguments = .ok (.preview viewlessInvocation) := by rfl
  have shows := (run_effects "/home" (fun _ ↦ none) viewlessDirectory accepted).2 {} "let x = 1"
    (.usual rfl) (by decide +kernel)
  have writable : viewlessDirectory.IsWritable "/home" "empty.html" :=
    ⟨["empty.html"], by decide +kernel, by decide +kernel⟩
  obtain ⟨code, output, written, _⟩ := shows.1 writable
  have noRoot : (Preview.ofSource .fallback "let x = 1").root = none :=
    Option.isNone_iff_eq_none.mp (by decide +kernel)
  have text (options : RenderOptions) :
      previewText viewlessInvocation options (Preview.ofSource .fallback "let x = 1") =
        Page.banner (Preview.ofSource .fallback "let x = 1").messages := by
    rw [previewText, noRoot]
    exact String.append_empty
  refine ⟨accepted, code.trans ?_, output, written.trans (congrArg Entry.text (text _))⟩
  exact if_neg (Option.not_isSome_iff_eq_none.mpr noRoot)

end Run

end ViewPreview.CommandLine
