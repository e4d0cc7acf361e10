import ViewPreview.Text.Occurrence

/-!
# Tokens

A token is a word, a number, a string, a regular expression or a mark, together with the gap of
blanks and comments before it, so that nothing of the source is lost.  A gap that goes on to another
line may separate statements, but a block comment hides the line breaks before it.
-/

namespace ViewPreview

/-- What kind of token a text is. -/
inductive TokenKind where
  | word
  | number
  | string
  | regex
  | mark
deriving Repr, DecidableEq

/-- A token with the gap before it and the line it starts on. -/
structure Token where
  kind : TokenKind
  gap : List Char
  text : List Char
  line : Nat
deriving Repr

/-- Whether a place in a gap is outside comments, in a line comment, or in a block comment with
`outer` more around it. -/
inductive GapPlace where
  | blank
  | lineComment
  | blockComment (outer : Nat)
deriving Repr, DecidableEq

/-- The number of characters of the gap at the start of a text. -/
def gapLength : GapPlace → List Char → Nat
  | _, [] => 0
  | .blank, '/' :: '/' :: text => gapLength .lineComment text + 2
  | .blank, '/' :: '*' :: text => gapLength (.blockComment 0) text + 2
  | .blank, c :: text => if Text.isBlank c || c == '\ufeff' then gapLength .blank text + 1 else 0
  | .lineComment, c :: text =>
    gapLength (if c = '\n' then .blank else .lineComment) text + 1
  | .blockComment outer, '/' :: '*' :: text => gapLength (.blockComment (outer + 1)) text + 2
  | .blockComment 0, '*' :: '/' :: text => gapLength .blank text + 2
  | .blockComment (outer + 1), '*' :: '/' :: text => gapLength (.blockComment outer) text + 2
  | .blockComment outer, _ :: text => gapLength (.blockComment outer) text + 1

/-- Whether a gap goes on to another line behind its last block comment.  `broken` tells whether it
has done so before the given text. -/
def breaksLine : GapPlace → (broken : Bool) → List Char → Bool
  | _, broken, [] => broken
  | .blank, broken, '/' :: '/' :: text => breaksLine .lineComment broken text
  | .blank, _, '/' :: '*' :: text => breaksLine (.blockComment 0) false text
  | .blank, broken, c :: text => breaksLine .blank (broken || c == '\n' || c == '\r') text
  | .lineComment, broken, c :: text =>
    if c = '\n' then breaksLine .blank true text else breaksLine .lineComment broken text
  | .blockComment outer, broken, '/' :: '*' :: text =>
    breaksLine (.blockComment (outer + 1)) broken text
  | .blockComment 0, broken, '*' :: '/' :: text => breaksLine .blank broken text
  | .blockComment (outer + 1), broken, '*' :: '/' :: text =>
    breaksLine (.blockComment outer) broken text
  | .blockComment outer, broken, _ :: text => breaksLine (.blockComment outer) broken text

namespace Token

/-- Whether the gap before a token goes on to another line. -/
def startsLine (token : Token) : Bool :=
  breaksLine .blank false token.gap

/-- Whether there is a block comment in the gap before a token. -/
def followsComment (token : Token) : Bool :=
  Text.occursIn ['/', '*'] token.gap

/-- Whether a token directly follows the one before it. -/
def isAttached (token : Token) : Bool :=
  token.gap.isEmpty

/-- A token's text with the gap before it. -/
def written (token : Token) : List Char :=
  token.gap ++ token.text

/-- Whether a token is a given word. -/
def isWord (token : Token) (word : String) : Bool :=
  token.kind == .word && token.text == word.toList

/-- Whether a token is one of the given words. -/
def isWordOf (token : Token) (words : List String) : Bool :=
  words.any token.isWord

/-- Whether a token is a given mark. -/
def isMark (token : Token) (mark : String) : Bool :=
  token.kind == .mark && token.text == mark.toList

/-- Whether a token is one of the given marks. -/
def isMarkOf (token : Token) (marks : List String) : Bool :=
  marks.any token.isMark

/-- Whether a token is a closing bracket. -/
def isClosing (token : Token) : Bool :=
  token.isMarkOf [")", "]", "\x7d"]

/-- Whether a token is a mark that leaves the value before it a value. -/
def isPostfix (token : Token) : Bool :=
  token.isMarkOf ["++", "--"] || (token.isAttached && token.isMarkOf ["!", "?"])

end Token

end ViewPreview
