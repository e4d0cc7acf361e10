import ViewPreview.Token.Item
import ViewPreview.Token.Lexer

/-!
# Stages of a Statement

How far a statement has come after some of its items, and what that leaves open: whether the
statement may end there, and which items on the next line go on with it.  A word is a keyword only
at a stage where the grammar has a use for it, so that behind a dot every word is a name.
-/

namespace ViewPreview

/-! ## Stages -/

/-- Where a statement stands: in a block, or among the members of a type. -/
inductive Surroundings where
  | block
  | members
deriving Repr, DecidableEq

/-- What the block behind a header makes, which decides what may follow that block. -/
inductive BlockUse where
  | declaration
  | condition
  | selection
  | refusal
  | attempt
  | repetition
deriving Repr, DecidableEq

/-- How far a statement has come.

* `start` and `modified` come before anything but attributes and modifiers, `attribute` behind an at
  sign and `attributed` behind the name of an attribute.
* `name` needs a name or pattern to bind and `named` has one; `alias` does both for names of types.
* `operand` needs an expression, `trying` needs one behind the word `try`, `operator` may have one
  behind an operator or word that can stand for itself, `member` needs a name behind a dot, and
  `value` has a complete expression.
* `label` has a name that a colon makes a label, and `labeled` has the colon.
* `type`, `typeAttribute`, `typeMember` and `typed` are the same for types, inside `depth` angle
  brackets.
* `header` lasts up to a block.  Behind its block, `branch` may have an alternative and
  `alternative` needs one, `attempted` may have a handler, `repeated` may have a condition, and
  `closed` is complete.
-/
inductive Stage where
  | start
  | modified
  | attribute
  | attributed
  | name
  | named
  | alias
  | operand
  | trying
  | operator
  | member
  | value
  | label
  | labeled
  | type (depth : Nat)
  | typeAttribute (depth : Nat)
  | typeMember (depth : Nat)
  | typed (depth : Nat)
  | header (use : BlockUse) (behindDot : Bool)
  | branch
  | alternative
  | attempted
  | repeated
  | closed
deriving Repr, DecidableEq

/-- The stage of a statement, and whether it binds names, so that a comma comes before a name. -/
structure Progress where
  stage : Stage := .start
  binds : Bool := false
deriving Repr, DecidableEq

/-! ## Words -/

/-- Words that may stand before a declaration among the members of a type. -/
def modifierWords : List String :=
  ["convenience", "distributed", "dynamic", "fileprivate", "final", "indirect", "infix",
    "internal", "isolated", "lazy", "mutating", "nonisolated", "nonmutating", "open", "optional",
    "override", "package", "postfix", "prefix", "private", "public", "required", "static",
    "unowned", "weak"]

/-- Words that may stand before any declaration. -/
def commonModifierWords : List String :=
  ["final", "indirect", "unowned", "weak"]

/-- Words that introduce a declaration which the modifier `class` may stand before. -/
def classMemberWords : List String :=
  ["func", "let", "subscript", "typealias", "var"]

/-- Words that introduce a declaration with a block. -/
def blockDeclarationWords : List String :=
  ["enum", "extension", "func", "struct"]

/-- Words that introduce a declaration with a block among the members of a type. -/
def memberDeclarationWords : List String :=
  ["deinit", "init", "precedencegroup", "protocol", "subscript"]

/-- Words of the statements that may have a label, which counts as a statement of its own. -/
def labeledWords : List String :=
  ["do", "for", "guard", "if", "repeat", "switch", "while"]

/-- Words that leave a block, with a value or without. -/
def transferWords : List String :=
  ["return", "yield", "break", "continue"]

/-- Words before the name of a type. -/
def typeWords : List String :=
  ["any", "borrowing", "consuming", "each", "inout", "isolated", "repeat", "sending", "some"]

/-- Whether an item is a word on the same line as the item before it. -/
def isWordOnLine (item : Item) : Bool :=
  item.word?.isSome && !item.first.startsLine

/-- Whether an item is one of the given words on the same line as the item before it. -/
def isWordOnLineOf (words : List String) (item : Item) : Bool :=
  item.isWordOf words && !item.first.startsLine

namespace Stage

/-- The stage behind a word that begins an operand. -/
def afterOperandWord (word : Item) : Stage :=
  if word.isWord "try" then .trying
  else if word.isWord "await" then .operand
  else if word.isWord "if" then .header .condition false
  else if word.isWord "switch" then .header .selection false
  else .value

/-- The stage behind a word that begins a declaration anywhere, given the item after it.  Some of
these words are names unless the declaration goes on with a word on their line. -/
def afterDeclarationWord? (word : Item) (next : Option Item) : Option Stage :=
  if word.isWordOf ["let", "var"] then some .name
  else if word.isWordOf blockDeclarationWords then some (.header .declaration false)
  else if word.isWord "class" then
    some (if next.any (·.isWordOf classMemberWords) then .modified
      else .header .declaration false)
  else if word.isWord "typealias" then some .alias
  else if word.isWordOf commonModifierWords then some .modified
  else if word.isWord "actor" && next.any isWordOnLine then some (.header .declaration false)
  else if word.isWord "lazy" && next.any isWordOnLine then some .modified
  else if word.isWord "async" && next.any (isWordOnLineOf ["let", "var"]) then some .modified
  else none

/-- The stage behind a word that begins a member of a type. -/
def afterMemberWord (word : Item) : Stage :=
  if word.isWordOf modifierWords then .modified
  else if word.isWordOf memberDeclarationWords then .header .declaration false
  else if word.isWordOf ["associatedtype", "case", "import"] then .name
  else if word.isWord "operator" then .operator
  else afterOperandWord word

/-- The stage behind a word that begins a statement in a block, given the item after it. -/
def afterStatementWord (word : Item) (next : Option Item) : Stage :=
  if word.isWordOf ["for", "while"] then .header .declaration false
  else if word.isWord "guard" then .header .refusal false
  else if word.isWord "do" then .header .attempt false
  else if word.isWord "repeat" && next.any (·.isGroup "\x7b") then .header .repetition false
  else if word.isWord "throw" then .operand
  else if word.isWordOf ("each" :: "repeat" :: transferWords) then .operator
  else if next.any (·.isMark ":") then .label
  else afterOperandWord word

/-- The stage behind a word that begins a statement, given the item after it. -/
def afterFirstWord (surroundings : Surroundings) (word : Item) (next : Option Item) : Stage :=
  match afterDeclarationWord? word next, surroundings with
  | some stage, _ => stage
  | none, .block => afterStatementWord word next
  | none, .members => afterMemberWord word

/-- Whether an item is a list of captures and cannot be an array. -/
def isCaptureList (item : Item) : Bool :=
  (item.itemsIn? "[").any fun items ↦ items.any fun inner ↦ inner.isWordOf ["unowned", "weak"]

/-- The stage behind an item where an operand may stand. -/
def afterOperand (stage : Stage) (item : Item) : Stage :=
  match item with
  | .group _ _ _ => .value
  | .single token =>
    match token.kind with
    | .word => afterOperandWord item
    | .mark =>
      if token.isMark "." then .member
      else if token.isMarkOf [",", ":", "\\", "..<"] then .operand
      else if token.isMark "->" then .type 0
      else if stage == .trying && token.isAttached && token.isMarkOf ["?", "!"] then .operand
      else .operator
    | _ => .value

/-- The stage behind an item where a statement may start. -/
def afterStart (surroundings : Surroundings) (stage : Stage) (item : Item) (next : Option Item) :
    Stage :=
  if item.isMark "@" then .attribute
  else if item.word?.isSome then afterFirstWord surroundings item next
  else if stage == .modified && item.isGroup "(" && item.first.isAttached then .modified
  else if isCaptureList item then .start
  else afterOperand stage item

/-- The stage behind the block of a header. -/
def afterBlock : BlockUse → Stage
  | .declaration => .closed
  | .condition => .branch
  | .selection => .value
  | .refusal => .header .refusal false
  | .attempt => .attempted
  | .repetition => .repeated

/-- The stage behind an item of a header. -/
def afterHeader (use : BlockUse) (behindDot : Bool) (item : Item) : Stage :=
  if item.isGroup "\x7b" then afterBlock use
  else if use == .refusal && !behindDot && item.isWord "else" then .header .declaration false
  else .header use (item.isMark ".")

/-- The stage behind an item that follows a complete expression. -/
def afterValue (binds : Bool) (item : Item) : Stage :=
  match item with
  | .group _ _ _ => .value
  | .single token =>
    match token.kind with
    | .word =>
      if token.isWordOf ["as", "is"] then .type 0
      else if token.isWordOf ["in", "where"] then .operand
      else .value
    | .mark =>
      if token.isMark "." then .member
      else if token.isMark "," then if binds then .name else .operand
      else if token.isMark "->" then .type 0
      else if token.isMark "..." then .operator
      else if token.isPostfix then .value
      else .operand
    | _ => .value

/-- The stage behind an item that follows a bound name. -/
def afterName (item : Item) : Stage :=
  if item.isGroup "\x7b" then .closed
  else if item.isMark ":" then .type 0
  else if item.isMark "," then .name
  else if item.isMark "." then .member
  else if item.isMark "=" || item.isWord "where" then .operand
  else .named

/-- The stage behind an item where a type must stand. -/
def afterType (depth : Nat) (item : Item) : Stage :=
  match item with
  | .group _ _ _ => .typed depth
  | .single token =>
    if token.isMark "@" then .typeAttribute depth
    else if token.isMark "." then .typeMember depth
    else if token.kind == .mark || token.isWordOf typeWords then .type depth
    else .typed depth

/-- The stage behind a mark that follows a complete type. -/
def afterTypedMark (binds : Bool) (depth : Nat) (token : Token) : Stage :=
  let closings := token.text.count '>'
  if token.isMark "." then .typeMember depth
  else if token.isMarkOf ["&", "->"] then .type depth
  else if token.isMark "..." then .typed depth
  else if token.isAttached && token.text.all (fun c ↦ c == '?' || c == '!') then .typed depth
  else if token.isAttached && token.isMark "<" then .type (depth + 1)
  else if depth ≠ 0 && token.text.head? == some '>' && !token.text.contains '=' then
    .typed (depth - closings)
  else if depth ≠ 0 then .type depth
  else if token.isMark "," && binds then .name
  else .operand

/-- The stage behind an item that follows a complete type. -/
def afterTyped (binds : Bool) (depth : Nat) (item : Item) : Stage :=
  match item with
  | .group _ _ _ => if item.isGroup "\x7b" then .closed else .typed depth
  | .single token =>
    if token.kind == .mark then afterTypedMark binds depth token
    else if token.isWordOf ["as", "is", "where"] then .type depth
    else if token.isWord "in" then .operand
    else .typed depth

/-- The stage behind an item at a given stage, given the item after it. -/
def after (surroundings : Surroundings) (binds : Bool) (stage : Stage) (item : Item)
    (next : Option Item) : Stage :=
  match stage with
  | .start | .modified => afterStart surroundings stage item next
  | .attribute => .attributed
  | .attributed =>
    if item.isMark "." then .attribute
    else if item.isGroup "(" && item.first.isAttached then .start
    else afterStart surroundings .start item next
  | .name => if item.isGrouped || item.word?.isSome then .named else afterOperand stage item
  | .named => afterName item
  | .alias => if item.isMark "=" then .type 0 else .alias
  | .operand | .trying | .operator | .labeled => afterOperand stage item
  | .member =>
    if item.word?.isSome || item.isMark "?" || item.isMark "!" then .value
    else afterOperand stage item
  | .value => afterValue binds item
  | .label => .labeled
  | .type depth => afterType depth item
  | .typeAttribute depth => .type depth
  | .typeMember depth => .typed depth
  | .typed depth => afterTyped binds depth item
  | .header use behindDot => afterHeader use behindDot item
  | .branch => if item.isWord "else" then .alternative else afterValue binds item
  | .alternative => if item.isWord "if" then .header .condition false else .value
  | .attempted => if item.isWord "catch" then .header .attempt false else .closed
  | .repeated => if item.isWord "while" then .operand else afterValue binds item
  | .closed => .closed

/-! ## Ends -/

/-- Whether a statement may end at a stage. -/
def mayEnd : Stage → Bool
  | .named | .alias | .operator | .value | .typed 0 | .branch | .attempted | .repeated | .closed =>
    true
  | _ => false

/-- Whether an expression is complete at a stage. -/
def isExpression : Stage → Bool
  | .operator | .value | .typed _ | .branch | .repeated => true
  | _ => false

/-- Operators that do not go on with the statement on the line before, as they may stand before an
operand or for themselves. -/
def standingOperators : List String :=
  ["=", "-", "+", "!", "*", "%", "<", ">", "&", "|", "^", "?", "~", "..", "->", "+=", "-=", "*=",
    "%=", ">>", "<<", "++", "--", "===", "...", "..<"]

/-- Whether an operator at the start of a line goes on with the expression on the line before, given
the item after it.  A sign does if a blank follows it. -/
def joinsExpression (token : Token) (next : Option Item) : Bool :=
  token.isMarkOf [".", "="] ||
    (token.isMarkOf ["+", "-"] && !next.any fun item ↦ item.first.isAttached) ||
    ((token.text.head?.any fun c ↦ c == '.' || isOperator c) &&
      !standingOperators.any token.isMark)

/-- Whether a word at the start of a line goes on with the statement on the line before. -/
def joinsWord (stage : Stage) (token : Token) : Bool :=
  match stage with
  | .branch => token.isWordOf ["as", "else"]
  | .attempted => token.isWord "catch"
  | .repeated => token.isWord "while"
  | .named => token.isWord "where"
  | .typed _ => token.isWordOf ["as", "where"]
  | _ => stage.isExpression && token.isWord "as"

/-- Whether an item at the start of a line goes on with a statement on the line before that could
end there, given the item after it. -/
def isContinuedBy (stage : Stage) (item : Item) (next : Option Item) : Bool :=
  match item with
  | .group _ _ _ => item.isGroup "\x7b"
  | .single token =>
    match token.kind with
    | .mark =>
      token.isMarkOf [":", ","] || token.text.head? == some '?' ||
        (!stage.isExpression && token.isMark "=") ||
        (stage.isExpression && joinsExpression token next)
    | .word => stage.joinsWord token
    | _ => false

end Stage

/-- The progress of a statement behind an item, given the item after it. -/
def Progress.after (surroundings : Surroundings) (progress : Progress) (item : Item)
    (next : Option Item) : Progress :=
  { stage := progress.stage.after surroundings progress.binds item next
    binds := progress.binds ||
      match progress.stage with
      | .start | .modified | .attributed =>
        item.isWordOf ["let", "var"] || (surroundings == .members && item.isWord "case")
      | _ => false }

/-- The progress of a statement behind some items. -/
def Progress.afterAll (surroundings : Surroundings) (progress : Progress) : List Item → Progress
  | [] => progress
  | item :: items => (progress.after surroundings item items.head?).afterAll surroundings items

end ViewPreview
