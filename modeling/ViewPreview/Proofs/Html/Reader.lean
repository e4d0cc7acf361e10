import ViewPreview.Proofs.Html.Inert
import ViewPreview.Text.Word

/-!
# Reading Markup

A reader that goes through markup character by character and says which characters, opening tags and
closing tags it meets.  It has no way to recover: an angle bracket in text, an angle bracket in a
value or a value without quotes is refused.
-/

namespace ViewPreview.Html

/-! ## The reader -/

/-- What is met in markup. -/
inductive Token where
  /-- A character between tags, as it is written. -/
  | char (c : Char)
  /-- The tag that opens an element, or that is an element without contents. -/
  | start (tag : String) (attributes : List Attribute)
  /-- The tag that closes an element. -/
  | finish (tag : String)
deriving Repr, DecidableEq

/-- A character of the name of a tag or an attribute. -/
def isNameChar (c : Char) : Bool :=
  Text.isAsciiLetter c || Text.isAsciiDigit c || c == '-'

/-- Where a reader stands, with what it has read of the tag it is in. -/
inductive Position where
  | between
  | bracket
  | closing (name : String)
  | opening (name : String)
  | naming (tag : String) (attributes : List Attribute) (name : String)
  | equals (tag : String) (attributes : List Attribute) (name : String)
  | quoted (tag : String) (attributes : List Attribute) (name value : String)
  | behind (tag : String) (attributes : List Attribute)
deriving Repr, DecidableEq

/-- The position behind a character, and the tokens that are complete with it. -/
def step : Position → Char → Option (List Token × Position)
  | .between, c =>
    if c = '<' then some ([], .bracket)
    else if c = '>' then none
    else some ([.char c], .between)
  | .bracket, c =>
    if c = '/' then some ([], .closing "")
    else if isNameChar c then some ([], .opening ("".push c))
    else none
  | .closing name, c =>
    if c = '>' then some ([.finish name], .between)
    else if isNameChar c then some ([], .closing (name.push c))
    else none
  | .opening name, c =>
    if c = '>' then some ([.start name []], .between)
    else if c = ' ' then some ([], .naming name [] "")
    else if isNameChar c then some ([], .opening (name.push c))
    else none
  | .naming tag attributes name, c =>
    if c = '>' then some ([.start tag (attributes ++ [.flag name])], .between)
    else if c = ' ' then some ([], .naming tag (attributes ++ [.flag name]) "")
    else if c = '=' then some ([], .equals tag attributes name)
    else if isNameChar c then some ([], .naming tag attributes (name.push c))
    else none
  | .equals tag attributes name, c =>
    if c = '"' then some ([], .quoted tag attributes name "") else none
  | .quoted tag attributes name value, c =>
    if c = '"' then some ([], .behind tag (attributes ++ [.verbatim name value]))
    else if c = '<' ∨ c = '>' then none
    else some ([], .quoted tag attributes name (value.push c))
  | .behind tag attributes, c =>
    if c = '>' then some ([.start tag attributes], .between)
    else if c = ' ' then some ([], .naming tag attributes "")
    else none

/-- The tokens of a text from a position on.  A text ends between tags. -/
def readFrom : Position → List Char → Option (List Token)
  | .between, [] => some []
  | _, [] => none
  | position, c :: text =>
    (step position c).bind fun next ↦ (readFrom next.2 text).map fun tokens ↦ next.1 ++ tokens

/-- The tokens of a text. -/
def read (text : String) : Option (List Token) :=
  readFrom .between text.toList

/-! ## What the reader lets pass -/

/-- Whether the values of attributes are inert. -/
def AreInert (attributes : List Attribute) : Prop :=
  ∀ entry ∈ attributes, ∀ value ∈ entry.value, Inert value

/-- Whether a token has no quote or angle bracket where it would be taken for markup. -/
def Token.Clean : Token → Prop
  | .char c => c ≠ '<' ∧ c ≠ '>'
  | .start _ attributes => AreInert attributes
  | .finish _ => True

/-- Whether the values that have been read of a tag are inert. -/
def Position.Clean : Position → Prop
  | .naming _ attributes _ => AreInert attributes
  | .equals _ attributes _ => AreInert attributes
  | .quoted _ attributes _ value => AreInert attributes ∧ Inert value
  | .behind _ attributes => AreInert attributes
  | _ => True

theorem inert_push {value : String} {c : Char} (inert : Inert value) (other : isInert c = true) :
    Inert (value.push c) := by
  rw [inert_iff, String.toList_push, List.forall_mem_append, List.forall_mem_singleton]
  exact ⟨inert_iff.mp inert, other⟩

theorem areInert_append {attributes : List Attribute} {entry : Attribute}
    (inert : AreInert attributes) (last : ∀ value ∈ entry.value, Inert value) :
    AreInert (attributes ++ [entry]) := by
  unfold AreInert
  rw [List.forall_mem_append, List.forall_mem_singleton]
  exact ⟨inert, last⟩

theorem areInert_flag {attributes : List Attribute} (inert : AreInert attributes) (name : String) :
    AreInert (attributes ++ [.flag name]) :=
  areInert_append inert fun _ impossible ↦ nomatch impossible

theorem clean_silent {next : Position} (clean : next.Clean) :
    (∀ token ∈ ([] : List Token), token.Clean) ∧ next.Clean :=
  ⟨List.forall_mem_nil _, clean⟩

theorem clean_complete {token : Token} (clean : token.Clean) :
    (∀ other ∈ [token], Token.Clean other) ∧ Position.Clean .between := by
  rw [List.forall_mem_singleton]
  exact ⟨clean, trivial⟩

/-- One step of the reader keeps the values that have been read inert, and lets only clean tokens
pass. -/
theorem clean_step {position next : Position} {c : Char} {tokens : List Token}
    (clean : position.Clean) (moves : step position c = some (tokens, next)) :
    (∀ token ∈ tokens, token.Clean) ∧ next.Clean := by
  cases position with
  | between =>
    rw [step] at moves
    split at moves
    · cases moves
      exact clean_silent trivial
    · next notOpen =>
      split at moves
      · cases moves
      · next notClose =>
        cases moves
        exact clean_complete ⟨notOpen, notClose⟩
  | bracket =>
    rw [step] at moves
    split at moves
    · cases moves
      exact clean_silent trivial
    · split at moves
      · cases moves
        exact clean_silent trivial
      · cases moves
  | closing name =>
    rw [step] at moves
    split at moves
    · cases moves
      exact clean_complete trivial
    · split at moves
      · cases moves
        exact clean_silent trivial
      · cases moves
  | opening name =>
    rw [step] at moves
    split at moves
    · cases moves
      exact clean_complete (List.forall_mem_nil _)
    · split at moves
      · cases moves
        exact clean_silent (List.forall_mem_nil _)
      · split at moves
        · cases moves
          exact clean_silent trivial
        · cases moves
  | naming tag attributes name =>
    rw [step] at moves
    split at moves
    · cases moves
      exact clean_complete (areInert_flag clean name)
    · split at moves
      · cases moves
        exact clean_silent (areInert_flag clean name)
      · split at moves
        · cases moves
          exact clean_silent clean
        · split at moves
          · cases moves
            exact clean_silent clean
          · cases moves
  | equals tag attributes name =>
    rw [step] at moves
    split at moves
    · cases moves
      exact clean_silent ⟨clean, by decide⟩
    · cases moves
  | quoted tag attributes name value =>
    obtain ⟨attributesInert, valueInert⟩ := clean
    rw [step] at moves
    split at moves
    · cases moves
      apply clean_silent
      apply areInert_append attributesInert
      intro written same
      rw [← Option.some.inj same]
      exact valueInert
    · next notQuote =>
      split at moves
      · cases moves
      · next notBracket =>
        cases moves
        rw [not_or] at notBracket
        exact clean_silent ⟨attributesInert, inert_push valueInert
          (isInert_iff.mpr ⟨notQuote, notBracket.1, notBracket.2⟩)⟩
  | behind tag attributes =>
    rw [step] at moves
    split at moves
    · cases moves
      exact clean_complete clean
    · split at moves
      · cases moves
        exact clean_silent clean
      · cases moves

/-- The reader lets only clean tokens pass. -/
theorem clean_of_readFrom {position : Position} {text : List Char} {tokens : List Token}
    (clean : position.Clean) (found : readFrom position text = some tokens) :
    ∀ token ∈ tokens, token.Clean := by
  induction text generalizing position tokens with
  | nil =>
    cases position
    case between =>
      rw [← Option.some.inj found]
      exact List.forall_mem_nil _
    all_goals cases found
  | cons c text ih =>
    rw [readFrom] at found
    obtain ⟨⟨front, next⟩, moves, rest⟩ := Option.bind_eq_some_iff.mp found
    obtain ⟨later, laterFound, rfl⟩ := Option.map_eq_some_iff.mp rest
    obtain ⟨frontClean, nextClean⟩ := clean_step clean moves
    rw [List.forall_mem_append]
    exact ⟨frontClean, ih nextClean laterFound⟩

theorem clean_of_read {text : String} {tokens : List Token} (found : read text = some tokens) :
    ∀ token ∈ tokens, token.Clean := by
  have start : Position.Clean .between := trivial
  exact clean_of_readFrom start found

end ViewPreview.Html
