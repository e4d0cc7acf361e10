import ViewPreview.CommandLine.Path

/-!
# Hosts

Where a run takes place: an environment, and files that can be read and written by their paths.  The
directory held in memory is one such place.
-/

namespace ViewPreview.CommandLine

open ViewPreview.Text

/-- What a path leads to. -/
inductive Entry where
  | missing
  | unreadable (reason : String)
  | text (content : String)
deriving Repr, DecidableEq

/-- A place to run in.  Writing tells whether it has succeeded. -/
structure Host (m : Type → Type) where
  environment : Environment
  read : String → m Entry
  write : String → String → m Bool

/-! ## Directories in memory -/

/-- A directory: the texts of its files by the names on the way to them.  It has the directories on
these ways and no others. -/
structure Directory where
  files : List (List String × String)
deriving Repr, DecidableEq

namespace Directory

/-- Whether the names on a way lead to a directory. -/
def isDirectory (directory : Directory) (way : List String) : Bool :=
  way.isEmpty || directory.files.any fun file ↦ way.length < file.1.length && way.isPrefixOf file.1

/-- Follow the parts of a path from a place in a directory.  Every part but the last has to lead to
a directory. -/
def follow (directory : Directory) : (here : List String) → List String → Option (List String)
  | here, [] => some here
  | here, part :: parts =>
    if !directory.isDirectory here then none
    else if part.isEmpty || part == "." then directory.follow here parts
    else if part == ".." then
      if here.isEmpty then none else directory.follow here.dropLast parts
    else directory.follow (here ++ [part]) parts

/-- The part of a path below the directory itself, which has the absolute path `home`. -/
def relative? (home : String) (path : List Char) : Option (List Char) :=
  match path with
  | [] => none
  | '/' :: _ =>
    match dropStart? home.toList path with
    | some [] => some []
    | some ('/' :: rest) => some rest
    | _ => none
  | _ => some path

/-- The place in a directory that a path leads to, whether something is there or not. -/
def place? (directory : Directory) (home path : String) : Option (List String) :=
  (relative? home path.toList).bind fun path ↦
    directory.follow [] ((splitAll '/' path).map String.ofList)

/-- What a path leads to. -/
def entry (directory : Directory) (home path : String) : Entry :=
  match directory.place? home path with
  | none => .missing
  | some way =>
    if directory.isDirectory way then .unreadable "Is a directory (os error 21)"
    else
      match directory.files.lookup way with
      | some content => .text content
      | none => .missing

/-- A directory with a text in the file at a place. -/
def put (directory : Directory) (way : List String) (content : String) : Directory :=
  ⟨directory.files.filter (fun file ↦ file.1 != way) ++ [(way, content)]⟩

/-- A directory after writing a text to a path, if that is possible. -/
def write? (directory : Directory) (home path content : String) : Option Directory :=
  (directory.place? home path).bind fun way ↦
    if directory.isDirectory way then none else some (directory.put way content)

/-- A run in a directory that has the absolute path `home` and is the home directory. -/
def host (home : String) (environment : Environment) : Host (StateM Directory) where
  environment := fun name ↦ if name == "HOME" then some home else environment name
  read := fun path directory ↦ (directory.entry home path, directory)
  write := fun path content directory ↦
    match directory.write? home path content with
    | some changed => (true, changed)
    | none => (false, directory)

end Directory

end ViewPreview.CommandLine
