import ViewPreview.Call.Modifier
import ViewPreview.Proofs.Text.Identifier
import ViewPreview.Proofs.Text.Occurrence

/-!
# Tokens of Modifiers

The token that is read from the argument of a modifier is an ASCII identifier whatever the argument
is, also after the name of its style family has been taken off its end.
-/

namespace ViewPreview.Call

open ViewPreview.Text

/-! ## Identifiers in a text -/

theorem isIdentifier_of_splitIdentifier? {text start rest : List Char}
    (split : splitIdentifier? text = some (start, rest)) : isIdentifier start = true := by
  obtain ⟨name, rfl, -, -⟩ := Identifier.exists_of_splitIdentifier? split
  exact name.isIdentifier_chars

theorem isIdentifier_of_dotToken? {text : List Char} {token : String}
    (found : dotToken? text = some token) : isIdentifier token.toList = true := by
  unfold dotToken? at found
  split at found
  · obtain ⟨⟨start, rest⟩, split, rfl⟩ := Option.map_eq_some_iff.mp found
    rw [String.toList_ofList]
    exact isIdentifier_of_splitIdentifier? split
  · cases found

theorem isIdentifier_of_typeToken? {text : List Char} {token : String}
    (found : typeToken? text = some token) : isIdentifier token.toList = true := by
  unfold typeToken? at found
  split at found
  · split at found
    · exact isIdentifier_of_dotToken? found
    · cases found
  · cases found

theorem isIdentifier_concat {start : List Char} {c : Char} (isName : isIdentifier start = true)
    (part : isIdentifierPart c = true) : isIdentifier (start ++ [c]) = true := by
  cases start with
  | nil => cases isName
  | cons first rest =>
    rw [isIdentifier, Bool.and_eq_true] at isName
    rw [List.cons_append, isIdentifier, List.all_append, isName.1, isName.2, List.all_cons, part]
    rfl

/-- The run of characters that is read on is a part of an identifier from its first character on. -/
theorem isIdentifier_of_mem_identifiersFrom {pending text : List Char} {token : String}
    (begun : pending = [] ∨ isIdentifier pending.reverse = true)
    (member : token ∈ identifiersFrom pending text) : isIdentifier token.toList = true := by
  fun_induction identifiersFrom pending text with
  | case1 => cases member
  | case2 pending nonempty =>
    rcases begun with rfl | isName
    · exact absurd rfl nonempty
    · rw [List.mem_singleton.mp member, String.toList_ofList]
      exact isName
  | case3 c text start ih =>
    apply ih (Or.inr _) member
    rw [List.reverse_singleton, isIdentifier, start]
    rfl
  | case4 c text notStart ih => exact ih (Or.inl rfl) member
  | case5 pending c text nonempty part ih =>
    rcases begun with rfl | isName
    · exact absurd rfl nonempty
    · apply ih (Or.inr _) member
      rw [List.reverse_cons]
      exact isIdentifier_concat isName part
  | case6 pending c text nonempty notPart ih =>
    rcases begun with rfl | isName
    · exact absurd rfl nonempty
    · rcases List.mem_cons.mp member with rfl | later
      · rw [String.toList_ofList]
        exact isName
      · exact ih (Or.inl rfl) later

theorem isIdentifier_of_token? {text : List Char} {token : String}
    (found : token? text = some token) : isIdentifier token.toList = true := by
  unfold token? at found
  rcases Option.or_eq_some_iff.mp found with named | ⟨-, last⟩
  · rcases Option.or_eq_some_iff.mp named with dotted | ⟨-, typed⟩
    · exact isIdentifier_of_dotToken? dotted
    · exact isIdentifier_of_typeToken? typed
  · exact isIdentifier_of_mem_identifiersFrom (Or.inl rfl) (List.mem_of_getLast? last)

/-! ## Style families -/

/-- What stands before the end of an identifier is an identifier when it is not empty. -/
theorem isIdentifier_of_append {first : Char} {start finish : List Char}
    (isName : isIdentifier (first :: start ++ finish) = true) :
    isIdentifier (first :: start) = true := by
  rw [List.cons_append, isIdentifier, Bool.and_eq_true, List.all_append, Bool.and_eq_true] at isName
  rw [isIdentifier, isName.1, isName.2.1]
  rfl

/-- A token without the name of its style family is an identifier. -/
theorem isIdentifier_normalizeStyle {token : String} (isName : isIdentifier token.toList = true) :
    isIdentifier (normalizeStyle token).toList = true := by
  unfold normalizeStyle
  dsimp only
  split
  · next c stem found =>
    obtain ⟨family, -, dropped⟩ := List.exists_of_findSome?_eq_some found
    rw [← append_of_dropFinish? dropped] at isName
    have isStem := isIdentifier_of_append isName
    rw [isIdentifier, Bool.and_eq_true] at isStem
    rw [String.toList_ofList, isIdentifier, isIdentifierStart_lowerChar isStem.1, isStem.2]
    rfl
  · exact isName

/-! ## Modifiers -/

/-- Whether arguments are a token. -/
def isToken : ModifierArguments View → Bool
  | .token _ => true
  | _ => false

/-- Whether a reading of arguments gives no token. -/
def Tokenless (reading : Option (ModifierArguments View)) : Prop :=
  ∀ value, reading = some value → isToken value = false

theorem tokenless_map {α : Type} {make : α → ModifierArguments View}
    (other : ∀ value, isToken (make value) = false) (reading : Option α) :
    Tokenless (reading.map make) := by
  intro made found
  obtain ⟨value, -, rfl⟩ := Option.map_eq_some_iff.mp found
  exact other value

theorem tokenless_bind {α : Type} {read : α → Option (ModifierArguments View)}
    (tokenless : ∀ value, Tokenless (read value)) (source : Option α) :
    Tokenless (source.bind read) := by
  intro made found
  obtain ⟨value, -, reading⟩ := Option.bind_eq_some_iff.mp found
  exact tokenless value made reading

theorem tokenless_some {value : ModifierArguments View} (other : isToken value = false) :
    Tokenless (some value) := by
  intro made found
  rw [← Option.some.inj found]
  exact other

theorem tokenless_number? (name : String) (arguments : Arguments) :
    Tokenless (number? name arguments) := by
  unfold number?
  split
  · exact tokenless_some rfl
  · split
    · exact tokenless_some rfl
    · exact tokenless_map (fun _ ↦ rfl) _

theorem tokenless_background? (arguments : Arguments) : Tokenless (background? arguments) := by
  unfold background?
  dsimp only
  split
  · exact tokenless_some rfl
  · apply tokenless_bind
    intro argument
    split
    · exact tokenless_map (fun _ ↦ rfl) _
    · split
      · exact tokenless_some rfl
      · exact tokenless_map (fun _ ↦ rfl) _

theorem tokenless_overlay? (arguments : Arguments) : Tokenless (overlay? arguments) := by
  unfold overlay?
  split
  · exact tokenless_some rfl
  · exact tokenless_map (fun _ ↦ rfl) _

theorem tokenless_badge? (arguments : Arguments) : Tokenless (badge? arguments) := by
  unfold badge?
  apply tokenless_bind
  intro argument
  split
  · exact tokenless_some rfl
  · exact tokenless_map (fun _ ↦ rfl) _

theorem ne_token_of_tokenless {reading : Option (ModifierArguments View)} {error : ArgumentError}
    {token : String} (tokenless : Tokenless reading) :
    (match reading with
      | some value => Except.ok value
      | none => Except.error error) ≠ .ok (.token token) := by
  intro found
  split at found
  · next value =>
    cases found
    exact Bool.noConfusion (tokenless _ rfl)
  · cases found

/-- The token that a modifier is read with is an ASCII identifier, which is never empty.  The
modifiers of the category of tokens are the only ones that are read with one. -/
theorem isIdentifier_of_interpret {name token : String} {arguments : Arguments}
    (found : interpret name arguments = .ok (.token token)) :
    isIdentifier token.toList = true := by
  unfold interpret at found
  dsimp only at found
  split at found
  case h_2 =>
    split at found
    · next value reading =>
      cases found
      obtain ⟨written, read, made⟩ := Option.map_eq_some_iff.mp reading
      cases made
      obtain ⟨argument, -, named⟩ := Option.bind_eq_some_iff.mp read
      exact isIdentifier_normalizeStyle (isIdentifier_of_token? named)
    · cases found
  case h_3 => exact absurd found (ne_token_of_tokenless (tokenless_number? name arguments))
  case h_5 => cases found
  case h_7 => exact absurd found (ne_token_of_tokenless (tokenless_background? arguments))
  case h_8 => exact absurd found (ne_token_of_tokenless (tokenless_overlay? arguments))
  case h_10 => cases found
  case h_19 => exact absurd found (ne_token_of_tokenless (tokenless_badge? arguments))
  case h_20 => cases found
  -- What is left is read with one constructor, which is not that of tokens.
  all_goals exact absurd found (ne_token_of_tokenless (tokenless_map (fun _ ↦ rfl) _))

end ViewPreview.Call
