import ViewPreview.CommandLine.Run

/-!
# The Program

The command line on the files and the environment of the machine.
-/

namespace ViewPreview.CommandLine

/-- What a failure to read a file tells about its path. -/
def entryOfError : IO.Error → Entry
  | .noFileOrDirectory _ _ _ => .missing
  | .inappropriateType _ code details =>
    if code == 20 then .missing
    else .unreadable (details ++ " (os error " ++ toString code ++ ")")
  | error => .unreadable (toString error)

/-- The machine as a host, with the values of some variables. -/
def machine (values : List (String × String)) : Host IO where
  environment := fun name ↦ values.lookup name
  read := fun path ↦ do
    try
      return .text (← IO.FS.readFile path)
    catch error =>
      return entryOfError error
  write := fun path content ↦ do
    try
      IO.FS.writeFile path content
      return true
    catch _ =>
      return false

/-- The values of the variables that some arguments may ask for. -/
def readVariables (arguments : List String) : IO (List (String × String)) := do
  let names := "HOME" :: arguments.flatMap fun argument ↦ variableNames argument.toList
  names.filterMapM fun name ↦ do
    return (← IO.getEnv name).map fun value ↦ (name, value)

/-- The text of a complaint. -/
def Complaint.text : Complaint → String
  | .usage error => "error: " ++ error.message
  | .failure error => "Error: " ++ error.message

end ViewPreview.CommandLine

open ViewPreview.CommandLine in
/-- Run the program on the machine. -/
def main (arguments : List String) : IO UInt32 := do
  let outcome ← run (machine (← readVariables arguments)) arguments
  for report in outcome.reports do
    IO.eprintln report
  IO.print outcome.output
  if let some complaint := outcome.complaint then
    IO.eprintln complaint.text
  return outcome.code.toUInt32
