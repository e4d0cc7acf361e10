import ViewPreview.Call.Modifier
import ViewPreview.Number.Layout
import ViewPreview.Text.Line

/-!
# Caveats and Failures

What a preview reports.  A caveat accompanies a view and names what was left out of it, with the
line it stands on unless it concerns the whole source.  A failure means that there is no view at
all.
-/

namespace ViewPreview.Outline

/-- What was left out of a view. -/
inductive Problem where
  | syntaxErrors
  | unclosedDeclaration (view : String)
  | skippedStatement (quotation : String)
  | unreadModifier (name : String)
  | badArguments (error : Call.ArgumentError)
deriving Repr, DecidableEq

/-- The description of a problem. -/
def Problem.description : Problem → String
  | .syntaxErrors => "Source contains syntax errors; the preview may be incomplete"
  | .unclosedDeclaration view =>
    "Unbalanced braces: the declaration of '" ++ view ++ "' is never closed"
  | .skippedStatement quotation => "Skipped unsupported statement: " ++ quotation
  | .unreadModifier name =>
    "Modifier '." ++ name ++ "' skipped: nested arguments need the syntax provider"
  | .badArguments error => error.message

/-- A description with the line that it concerns. -/
def placed (line : Option Nat) (description : String) : String :=
  match line with
  | some line => "line " ++ Number.integerText line ++ ": " ++ description
  | none => description

/-- A problem and its line. -/
structure Caveat where
  line : Option Nat
  problem : Problem
deriving Repr, DecidableEq

/-- The text of a caveat. -/
def Caveat.message (caveat : Caveat) : String :=
  placed caveat.line caveat.problem.description

/-- The caveats that a problem found on a line gives rise to.  A problem in a text that is read
apart from its source is not reported. -/
def Problem.caveats (problem : Problem) (line : Option Nat) : List Caveat :=
  line.toList.map fun line ↦ ⟨some line, problem⟩

/-- Why there is no view. -/
inductive Failure where
  | noViewDeclaration
  | noBodyProperty (view : String)
  | emptyBody (view : String)
  | unsupportedBody (quotation : String)
deriving Repr, DecidableEq

/-- The failure to read a body of the given text. -/
def Failure.unsupported (text : List Char) : Failure :=
  .unsupportedBody (Text.snippet text)

/-- The text of a failure. -/
def Failure.message : Failure → String
  | .noViewDeclaration => "No struct conforming to View found"
  | .noBodyProperty view => "View '" ++ view ++ "' has no `body` property"
  | .emptyBody view => "Could not find a view expression in the body of '" ++ view ++ "'"
  | .unsupportedBody quotation => "Unsupported body expression: " ++ quotation

end ViewPreview.Outline
