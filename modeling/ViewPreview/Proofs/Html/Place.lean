import ViewPreview.Html.Basic

/-!
# Places in Markup

A piece of markup shows texts in two places: as contents and as values of attributes.  What is shown
at a place stands in the written markup as it is, in a tag of its own between quotes or between
tags.  Decoding the entities of an escaped text once gives back the text.
-/

namespace ViewPreview.Html

/-! ## Entities -/

/-- A text with the entities of `&`, `<`, `>` and `"` replaced by these characters, once. -/
def decodeChars : List Char → List Char
  | '&' :: 'a' :: 'm' :: 'p' :: ';' :: text => '&' :: decodeChars text
  | '&' :: 'l' :: 't' :: ';' :: text => '<' :: decodeChars text
  | '&' :: 'g' :: 't' :: ';' :: text => '>' :: decodeChars text
  | '&' :: 'q' :: 'u' :: 'o' :: 't' :: ';' :: text => '"' :: decodeChars text
  | c :: text => c :: decodeChars text
  | [] => []

/-- A text that was read from markup, decoded once. -/
def decode (text : String) : String :=
  String.ofList (decodeChars text.toList)

theorem decodeChars_cons {c : Char} (plain : c ≠ '&') (text : List Char) :
    decodeChars (c :: text) = c :: decodeChars text := by
  apply decodeChars.eq_5
  all_goals exact fun _ same ↦ absurd same plain

theorem decodeChars_escapeChar (c : Char) (text : List Char) :
    decodeChars (escapeChar c ++ text) = c :: decodeChars text := by
  unfold escapeChar
  split
  case h_5 notAmpersand _ _ _ => exact decodeChars_cons notAmpersand text
  all_goals rfl

theorem decodeChars_flatMap_escapeChar (text rest : List Char) :
    decodeChars (text.flatMap escapeChar ++ rest) = text ++ decodeChars rest := by
  induction text with
  | nil => rfl
  | cons c text ih =>
    rw [List.flatMap_cons, List.append_assoc, decodeChars_escapeChar, ih, List.cons_append]

/-- Decoding undoes escaping. -/
theorem decode_escape (text : String) : decode (escape text) = text := by
  have decoded := decodeChars_flatMap_escapeChar text.toList []
  rw [List.append_nil, decodeChars, List.append_nil] at decoded
  rw [decode, escape, String.toList_ofList, decoded, String.ofList_toList]

theorem escapeChar_eq_iff {c : Char} :
    escapeChar c = [c] ↔ c ≠ '&' ∧ c ≠ '<' ∧ c ≠ '>' ∧ c ≠ '"' := by
  unfold escapeChar
  split
  case h_5 noAmpersand noOpen noClose noQuote =>
    exact iff_of_true rfl ⟨noAmpersand, noOpen, noClose, noQuote⟩
  all_goals exact iff_of_false (by decide) (by decide)

theorem length_escapeChar (c : Char) : escapeChar c = [c] ∨ 1 < (escapeChar c).length := by
  unfold escapeChar
  split
  case h_5 => exact Or.inl rfl
  all_goals exact Or.inr (by decide)

theorem length_le_length_flatMap_escapeChar (text : List Char) :
    text.length ≤ (text.flatMap escapeChar).length := by
  induction text with
  | nil => exact Nat.le_refl 0
  | cons c text ih =>
    rw [List.flatMap_cons, List.length_append, List.length_cons]
    rcases length_escapeChar c with same | longer
    · rw [same, List.length_singleton]
      omega
    · omega

/-- Escaping leaves a text as it is exactly when none of its characters has an entity. -/
theorem flatMap_escapeChar_eq_iff (text : List Char) :
    text.flatMap escapeChar = text ↔ ∀ c ∈ text, escapeChar c = [c] := by
  induction text with
  | nil => exact iff_of_true rfl (List.forall_mem_nil _)
  | cons c text ih =>
    rw [List.forall_mem_cons, ← ih, List.flatMap_cons]
    rcases length_escapeChar c with same | longer
    · rw [same, List.singleton_append, List.cons.injEq]
      exact and_congr_left fun _ ↦ iff_of_true rfl rfl
    · constructor
      · intro whole
        have length := congrArg List.length whole
        rw [List.length_append, List.length_cons] at length
        have atLeast := length_le_length_flatMap_escapeChar text
        omega
      · rintro ⟨same, -⟩
        rw [same, List.length_singleton] at longer
        omega

/-! ## Places -/

/-- A place for a text: between tags, or in the value of an attribute. -/
inductive Place where
  | content
  | value (name : String)
deriving DecidableEq

/-- A text together with what stands around it at its place. -/
def Place.write (place : Place) (written : String) : String :=
  match place with
  | .content => written
  | .value name => " " ++ name ++ "=\"" ++ written ++ "\""

/-- The attributes of the tag that a piece of markup begins with. -/
def Node.attributes : Node → List Attribute
  | .text _ => []
  | .element _ attributes _ => attributes
  | .void _ attributes => attributes

/-- The pieces that a piece of markup is made of, itself among them. -/
inductive Node.IsPart (part : Node) : Node → Prop where
  | self : Node.IsPart part part
  | child {tag : String} {attributes : List Attribute} {children : List Node} {child : Node} :
    child ∈ children → Node.IsPart part child →
      Node.IsPart part (.element tag attributes children)

/-- Whether a piece of markup is written with a given text at a place in it. -/
def Node.Shows (node : Node) (place : Place) (written : String) : Prop :=
  ∃ part : Node, part.IsPart node ∧
    match place with
    | .content => ∃ text, part = .text text ∧ written = escape text
    | .value name => ⟨name, some written⟩ ∈ part.attributes

section Shows

variable {node child part : Node} {place : Place} {written : String} {tag : String}
  {attributes : List Attribute} {children : List Node}

theorem Node.IsPart.trans (inChild : part.IsPart child) (inNode : child.IsPart node) :
    part.IsPart node := by
  induction inNode with
  | self => exact inChild
  | child member _ ih => exact .child member ih

theorem Node.Shows.of_isPart (shows : child.Shows place written) (inNode : child.IsPart node) :
    node.Shows place written := by
  obtain ⟨part, inChild, atPlace⟩ := shows
  exact ⟨part, inChild.trans inNode, atPlace⟩

theorem isPart_of_mem (member : child ∈ children) :
    child.IsPart (.element tag attributes children) :=
  .child member .self

theorem shows_text (text : String) : (Node.text text).Shows .content (escape text) :=
  ⟨.text text, .self, text, rfl, rfl⟩

theorem shows_value {name : String} (member : ⟨name, some written⟩ ∈ node.attributes) :
    node.Shows (.value name) written :=
  ⟨node, .self, member⟩

/-! ### What is shown is written -/

theorem infix_writeNodes (member : child ∈ children) :
    child.write.toList <:+: (writeNodes children).toList := by
  induction children with
  | nil => cases member
  | cons first others ih =>
    rw [writeNodes, String.toList_append]
    rcases List.mem_cons.mp member with rfl | later
    · exact (List.prefix_append _ _).isInfix
    · exact (ih later).trans (List.suffix_append _ _).isInfix

theorem infix_of_isPart (inNode : part.IsPart node) : part.write.toList <:+: node.write.toList := by
  induction inNode with
  | self => exact List.infix_rfl
  | @child tag attributes children child member _ ih =>
    refine (ih.trans (infix_writeNodes member)).trans ?_
    refine ⟨("<" ++ tag ++ writeAttributes attributes ++ ">").toList,
      ("</" ++ tag ++ ">").toList, ?_⟩
    rw [Node.write]
    simp [String.toList_append]

theorem infix_writeAttributes {entry : Attribute} (member : entry ∈ attributes) :
    entry.write.toList <:+: (writeAttributes attributes).toList := by
  rw [writeAttributes, String.toList_join, List.flatMap_map]
  obtain ⟨before, after, rfl⟩ := List.append_of_mem member
  refine ⟨before.flatMap fun entry ↦ entry.write.toList,
    after.flatMap fun entry ↦ entry.write.toList, ?_⟩
  simp

theorem infix_write_of_attributes (node : Node) :
    (writeAttributes node.attributes).toList <:+: node.write.toList := by
  cases node with
  | text content => exact (List.nil_prefix).isInfix
  | element tag attributes children =>
    refine ⟨("<" ++ tag).toList, (">" ++ writeNodes children ++ "</" ++ tag ++ ">").toList, ?_⟩
    rw [Node.write]
    simp [Node.attributes, String.toList_append]
  | void tag attributes =>
    refine ⟨("<" ++ tag).toList, ">".toList, ?_⟩
    rw [Node.write]
    simp [Node.attributes, String.toList_append]

/-- What is shown at a place stands in the written markup. -/
theorem infix_of_shows (shows : node.Shows place written) :
    (place.write written).toList <:+: node.write.toList := by
  obtain ⟨part, inNode, atPlace⟩ := shows
  refine List.IsInfix.trans ?_ (infix_of_isPart inNode)
  cases place with
  | content =>
    obtain ⟨text, rfl, rfl⟩ := atPlace
    rw [Node.write]
    exact List.infix_rfl
  | value name =>
    have inTag := infix_writeAttributes atPlace
    exact inTag.trans (infix_write_of_attributes part)

end Shows

end ViewPreview.Html
