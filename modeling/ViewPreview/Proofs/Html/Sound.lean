import ViewPreview.Proofs.Html.Reader

/-!
# Sound Markup

A tree is sound when its tags and attributes belong to a fixed vocabulary and the values of its
attributes are inert.  Writing a sound tree and reading the text gives back the tags and characters
of the tree, whatever its texts are, and its tokens are nested.
-/

namespace ViewPreview.Html

/-- The elements that have no contents and no closing tag. -/
def voidTags : List String :=
  ["input", "hr", "img"]

/-- The elements that are closed. -/
def containerTags : List String :=
  ["div", "span", "section", "header", "footer", "h1", "nav", "button", "label", "select", "option",
    "progress", "details", "summary", "a", "textarea"]

/-- The names of attributes. -/
def attributeNames : List String :=
  ["class", "style", "role", "type", "placeholder", "aria-label", "aria-description",
    "aria-valuetext", "aria-hidden", "title", "min", "max", "step", "value", "checked", "open",
    "href", "src", "alt"]

mutual

/-- The tokens that a piece of markup stands for. -/
def Node.tokens : Node → List Token
  | .text content => (escape content).toList.map .char
  | .element tag attributes children =>
    .start tag attributes :: (nodesTokens children ++ [.finish tag])
  | .void tag attributes => [.start tag attributes]

/-- The tokens that pieces of markup stand for, one after the other. -/
def nodesTokens : List Node → List Token
  | [] => []
  | node :: nodes => node.tokens ++ nodesTokens nodes

end

/-- An attribute of the vocabulary with an inert value. -/
structure Attribute.Sound (entry : Attribute) : Prop where
  known : entry.name ∈ attributeNames
  inert : ∀ value ∈ entry.value, Inert value

/-- Markup made of the vocabulary, with inert values. -/
inductive Node.Sound : Node → Prop
  | text (content : String) : Sound (.text content)
  | element {tag : String} {attributes : List Attribute} {children : List Node}
      (known : tag ∈ containerTags) (opens : ∀ entry ∈ attributes, entry.Sound)
      (contains : ∀ child ∈ children, Sound child) : Sound (.element tag attributes children)
  | void {tag : String} {attributes : List Attribute} (known : tag ∈ voidTags)
      (opens : ∀ entry ∈ attributes, entry.Sound) : Sound (.void tag attributes)

/-! ### The vocabulary -/

theorem div_mem : "div" ∈ containerTags := by simp [containerTags]

theorem span_mem : "span" ∈ containerTags := by simp [containerTags]

theorem label_mem : "label" ∈ containerTags := by simp [containerTags]

theorem button_mem : "button" ∈ containerTags := by simp [containerTags]

theorem input_mem : "input" ∈ voidTags := by simp [voidTags]

theorem class_mem : "class" ∈ attributeNames := by simp [attributeNames]

theorem style_mem : "style" ∈ attributeNames := by simp [attributeNames]

theorem role_mem : "role" ∈ attributeNames := by simp [attributeNames]

theorem type_mem : "type" ∈ attributeNames := by simp [attributeNames]

/-! ### Attributes -/

section Attributes

variable {name value : String} {first second : Attribute}

theorem sound_text (known : name ∈ attributeNames) (value : String) :
    (Attribute.text name value).Sound where
  known := known
  inert written same := by
    rw [← Option.some.inj same]
    exact inert_escape value

theorem sound_verbatim (known : name ∈ attributeNames) (inert : Inert value) :
    (Attribute.verbatim name value).Sound where
  known := known
  inert written same := by
    rw [← Option.some.inj same]
    exact inert

/-- An attribute with a value that is written out. -/
theorem sound_constant {text : List Char} (known : name ∈ attributeNames)
    (all : text.all isInert = true) : (Attribute.verbatim name (String.ofList text)).Sound :=
  sound_verbatim known (inert_of_all all)

theorem sound_flag (known : name ∈ attributeNames) : (Attribute.flag name).Sound where
  known := known
  inert _ impossible := nomatch impossible

theorem sound_one (sound : first.Sound) : ∀ entry ∈ [first], entry.Sound := by
  rw [List.forall_mem_singleton]
  exact sound

theorem sound_two (firstSound : first.Sound) (secondSound : second.Sound) :
    ∀ entry ∈ [first, second], entry.Sound := by
  rw [List.forall_mem_cons]
  exact ⟨firstSound, sound_one secondSound⟩

end Attributes

/-! ### Elements -/

section Elements

variable {tag : String} {children : List Node} {child other : Node}

theorem sound_singleton (sound : child.Sound) : ∀ node ∈ [child], node.Sound := by
  rw [List.forall_mem_singleton]
  exact sound

theorem sound_pair (sound : child.Sound) (otherSound : other.Sound) :
    ∀ node ∈ [child, other], node.Sound := by
  rw [List.forall_mem_cons]
  exact ⟨sound, sound_singleton otherSound⟩

theorem sound_textNodes (text : String) : ∀ node ∈ [Node.text text], node.Sound :=
  sound_singleton (Node.Sound.text text)

/-- An element that has nothing but contents. -/
theorem sound_bare (known : tag ∈ containerTags) (contains : ∀ child ∈ children, child.Sound) :
    (Node.element tag [] children).Sound :=
  Node.Sound.element known (List.forall_mem_nil _) contains

/-- An element with a class that is written out. -/
theorem sound_classed {text : List Char} (known : tag ∈ containerTags)
    (all : text.all isInert = true) (contains : ∀ child ∈ children, child.Sound) :
    (Node.classed tag (String.ofList text) children).Sound :=
  Node.Sound.element known (sound_one (sound_constant class_mem all)) contains

end Elements

/-! ## Reading what was written -/

section Reading

variable {position next : Position} {tag name value : String}
  {attributes before : List Attribute} {text : List Char}

theorem readFrom_cons {c : Char} {tokens : List Token}
    (moves : step position c = some (tokens, next)) (text : List Char) :
    readFrom position (c :: text) = (readFrom next text).map fun later ↦ tokens ++ later := by
  rw [readFrom, moves]
  rfl

theorem readFrom_cons_silent {c : Char} (moves : step position c = some ([], next))
    (text : List Char) : readFrom position (c :: text) = readFrom next text := by
  rw [readFrom_cons moves]
  exact Option.map_id'

/-- A run of characters that are collected by the position they are read at. -/
theorem readFrom_run {collecting : String → Position} {run : List Char}
    (collects : ∀ c ∈ run, ∀ start, step (collecting start) c = some ([], collecting (start.push c)))
    (start : String) (text : List Char) :
    readFrom (collecting start) (run ++ text) =
      readFrom (collecting (start ++ String.ofList run)) text := by
  induction run generalizing start with
  | nil => simp
  | cons c run ih =>
    have same : start.push c ++ String.ofList run = start ++ String.ofList (c :: run) := by
      apply String.toList_inj.mp
      simp
    rw [List.cons_append, readFrom_cons_silent (collects c List.mem_cons_self start),
      ih (fun d member ↦ collects d (List.mem_cons_of_mem c member)), same]

/-- A name of the vocabulary: it is not empty and consists of characters of names. -/
structure IsName (name : String) : Prop where
  nonempty : name.toList ≠ []
  all : ∀ c ∈ name.toList, isNameChar c = true

theorem isName_of_mem_attributeNames (known : name ∈ attributeNames) : IsName name := by
  have all : ∀ name ∈ attributeNames,
      name.toList ≠ [] ∧ name.toList.all isNameChar = true := by
    decide
  exact ⟨(all name known).1, List.all_eq_true.mp (all name known).2⟩

theorem isName_of_mem_tags (known : tag ∈ containerTags ++ voidTags) : IsName tag := by
  have all : ∀ tag ∈ containerTags ++ voidTags,
      tag.toList ≠ [] ∧ tag.toList.all isNameChar = true := by
    decide
  exact ⟨(all tag known).1, List.all_eq_true.mp (all tag known).2⟩

/-- The characters of names are not those that end a name. -/
theorem ne_of_isNameChar {c : Char} (inName : isNameChar c = true) :
    c ≠ '>' ∧ c ≠ ' ' ∧ c ≠ '=' ∧ c ≠ '/' := by
  refine ⟨?_, ?_, ?_, ?_⟩
  all_goals
    intro same
    rw [same] at inName
    exact absurd inName (by decide)

/-! ### Tags -/

/-- Whether the part of a tag that has been read is its name and the given attributes. -/
structure Position.Awaits (position : Position) (tag : String) (attributes : List Attribute) :
    Prop where
  ends : step position '>' = some ([.start tag attributes], .between)
  goesOn : step position ' ' = some ([], .naming tag attributes "")

theorem awaits_opening (tag : String) : (Position.opening tag).Awaits tag [] :=
  ⟨rfl, rfl⟩

theorem awaits_naming (tag : String) (attributes : List Attribute) (name : String) :
    (Position.naming tag attributes name).Awaits tag (attributes ++ [.flag name]) :=
  ⟨rfl, rfl⟩

theorem awaits_behind (tag : String) (attributes : List Attribute) :
    (Position.behind tag attributes).Awaits tag attributes :=
  ⟨rfl, rfl⟩

theorem readFrom_name (isName : IsName name) (tag : String) (attributes : List Attribute)
    (text : List Char) :
    readFrom (.naming tag attributes "") (name.toList ++ text) =
      readFrom (.naming tag attributes name) text := by
  have collects : ∀ c ∈ name.toList, ∀ start,
      step (.naming tag attributes start) c =
        some ([], .naming tag attributes (start.push c)) := by
    intro c member start
    have inName := isName.all c member
    obtain ⟨notEnd, notSpace, notEquals, -⟩ := ne_of_isNameChar inName
    simp only [step, if_neg notEnd, if_neg notSpace, if_neg notEquals, inName, if_true]
  rw [readFrom_run collects, String.empty_append, String.ofList_toList]

theorem readFrom_value (inert : Inert value) (tag : String) (attributes : List Attribute)
    (name : String) (text : List Char) :
    readFrom (.quoted tag attributes name "") (value.toList ++ text) =
      readFrom (.quoted tag attributes name value) text := by
  have collects : ∀ c ∈ value.toList, ∀ start,
      step (.quoted tag attributes name start) c =
        some ([], .quoted tag attributes name (start.push c)) := by
    intro c member start
    obtain ⟨notQuote, notOpen, notClose⟩ := isInert_iff.mp (inert_iff.mp inert c member)
    simp only [step, if_neg notQuote, notOpen, notClose, or_self, if_false]
  rw [readFrom_run collects, String.empty_append, String.ofList_toList]

/-- An attribute is read off where a tag goes on. -/
theorem exists_readFrom_attribute {entry : Attribute} (sound : entry.Sound)
    (awaits : position.Awaits tag before) :
    ∃ next : Position, next.Awaits tag (before ++ [entry]) ∧
      ∀ text, readFrom position (entry.write.toList ++ text) = readFrom next text := by
  obtain ⟨name, value⟩ := entry
  have isName := isName_of_mem_attributeNames sound.known
  cases value with
  | none =>
    refine ⟨.naming tag before name, awaits_naming tag before name, fun text ↦ ?_⟩
    show readFrom position ((" " ++ name).toList ++ text) = _
    rw [String.toList_append]
    show readFrom position (' ' :: (name.toList ++ text)) = _
    rw [readFrom_cons_silent awaits.goesOn, readFrom_name isName]
  | some value =>
    have inert := sound.inert value rfl
    refine ⟨.behind tag (before ++ [⟨name, some value⟩]), awaits_behind tag _, fun text ↦ ?_⟩
    have written : (Attribute.write ⟨name, some value⟩).toList ++ text =
        ' ' :: (name.toList ++ '=' :: '"' :: (value.toList ++ '"' :: text)) := by
      simp [Attribute.write, String.toList_append]
    rw [written, readFrom_cons_silent awaits.goesOn, readFrom_name isName,
      readFrom_cons_silent rfl, readFrom_cons_silent rfl, readFrom_value inert,
      readFrom_cons_silent rfl]
    rfl

theorem readFrom_attributes (sound : ∀ entry ∈ attributes, entry.Sound)
    (awaits : position.Awaits tag before) (text : List Char) :
    readFrom position ((writeAttributes attributes).toList ++ '>' :: text) =
      (readFrom .between text).map fun later ↦ .start tag (before ++ attributes) :: later := by
  rw [writeAttributes, String.toList_join]
  induction attributes generalizing position before with
  | nil =>
    rw [List.append_nil]
    exact readFrom_cons awaits.ends text
  | cons entry attributes ih =>
    obtain ⟨next, goesOn, reads⟩ := exists_readFrom_attribute (sound entry List.mem_cons_self)
      awaits
    rw [List.map_cons, List.flatMap_cons, List.append_assoc, reads,
      ih (fun other member ↦ sound other (List.mem_cons_of_mem _ member)) goesOn,
      List.append_assoc, List.singleton_append]

/-- The tag that opens an element, or that is one. -/
theorem readFrom_start (known : tag ∈ containerTags ++ voidTags)
    (sound : ∀ entry ∈ attributes, entry.Sound) (text : List Char) :
    readFrom .between (("<" ++ tag ++ writeAttributes attributes ++ ">").toList ++ text) =
      (readFrom .between text).map fun later ↦ .start tag attributes :: later := by
  obtain ⟨nonempty, all⟩ := isName_of_mem_tags known
  obtain ⟨first, others, same⟩ := List.exists_cons_of_ne_nil nonempty
  have written : ("<" ++ tag ++ writeAttributes attributes ++ ">").toList ++ text =
      '<' :: first :: (others ++ ((writeAttributes attributes).toList ++ '>' :: text)) := by
    simp [String.toList_append, same]
  have inName := all first (same ▸ List.mem_cons_self)
  have notSlash := (ne_of_isNameChar inName).2.2.2
  have begins : step .bracket first = some ([], .opening ("".push first)) := by
    simp only [step, if_neg notSlash, inName, if_true]
  have collects : ∀ c ∈ others, ∀ start,
      step (.opening start) c = some ([], .opening (start.push c)) := by
    intro c member start
    have inName := all c (same ▸ List.mem_cons_of_mem first member)
    obtain ⟨notEnd, notSpace, -, -⟩ := ne_of_isNameChar inName
    simp only [step, if_neg notEnd, if_neg notSpace, inName, if_true]
  have whole : "".push first ++ String.ofList others = tag := by
    apply String.toList_inj.mp
    simp [same]
  rw [written, readFrom_cons_silent rfl, readFrom_cons_silent begins, readFrom_run collects, whole,
    readFrom_attributes sound (awaits_opening tag), List.nil_append]

/-- The tag that closes an element. -/
theorem readFrom_finish (known : tag ∈ containerTags) (text : List Char) :
    readFrom .between (("</" ++ tag ++ ">").toList ++ text) =
      (readFrom .between text).map fun later ↦ .finish tag :: later := by
  have isName := isName_of_mem_tags (List.mem_append_left voidTags known)
  have written : ("</" ++ tag ++ ">").toList ++ text = '<' :: '/' :: (tag.toList ++ '>' :: text) := by
    simp [String.toList_append]
  have collects : ∀ c ∈ tag.toList, ∀ start,
      step (.closing start) c = some ([], .closing (start.push c)) := by
    intro c member start
    have inName := isName.all c member
    obtain ⟨notEnd, -, -, -⟩ := ne_of_isNameChar inName
    simp only [step, if_neg notEnd, inName, if_true]
  rw [written, readFrom_cons_silent rfl, readFrom_cons_silent rfl, readFrom_run collects,
    String.empty_append, String.ofList_toList]
  have ends : step (.closing tag) '>' = some ([.finish tag], .between) := rfl
  exact readFrom_cons ends text

/-! ### Trees -/

/-- An inert text between tags is read character by character. -/
theorem readFrom_text {content : List Char} (inert : ∀ c ∈ content, isInert c = true)
    (text : List Char) :
    readFrom .between (content ++ text) =
      (readFrom .between text).map fun later ↦ content.map .char ++ later := by
  induction content with
  | nil => exact Option.map_id'.symm
  | cons c content ih =>
    obtain ⟨-, notOpen, notClose⟩ := isInert_iff.mp (inert c List.mem_cons_self)
    have moves : step .between c = some ([.char c], .between) := by
      simp only [step, if_neg notOpen, if_neg notClose]
    rw [List.cons_append, readFrom_cons moves,
      ih fun d member ↦ inert d (List.mem_cons_of_mem c member), Option.map_map]
    rfl

theorem readFrom_nodes {nodes : List Node}
    (reads : ∀ node ∈ nodes, ∀ text, readFrom .between (node.write.toList ++ text) =
      (readFrom .between text).map fun later ↦ node.tokens ++ later) (text : List Char) :
    readFrom .between ((writeNodes nodes).toList ++ text) =
      (readFrom .between text).map fun later ↦ nodesTokens nodes ++ later := by
  induction nodes with
  | nil => exact Option.map_id'.symm
  | cons node nodes ih =>
    rw [writeNodes, nodesTokens, String.toList_append, List.append_assoc,
      reads node List.mem_cons_self, ih fun other member ↦ reads other (List.mem_cons_of_mem _ member),
      Option.map_map]
    simp only [Function.comp_def, List.append_assoc]

/-- Reading the text of sound markup gives back its tokens. -/
theorem readFrom_write {node : Node} (sound : node.Sound) (text : List Char) :
    readFrom .between (node.write.toList ++ text) =
      (readFrom .between text).map fun later ↦ node.tokens ++ later := by
  induction sound generalizing text with
  | text content =>
    rw [Node.write, Node.tokens]
    exact readFrom_text (inert_iff.mp (inert_escape content)) text
  | @element tag attributes children known opens contains ih =>
    have written : (Node.element tag attributes children).write.toList ++ text =
        ("<" ++ tag ++ writeAttributes attributes ++ ">").toList ++
          ((writeNodes children).toList ++ (("</" ++ tag ++ ">").toList ++ text)) := by
      rw [Node.write]
      simp [String.toList_append]
    rw [written, readFrom_start (List.mem_append_left voidTags known) opens,
      readFrom_nodes ih, readFrom_finish known, Option.map_map, Option.map_map, Node.tokens]
    simp only [Function.comp_def, List.cons_append, List.append_assoc, List.nil_append]
  | void known opens =>
    rw [Node.write, Node.tokens]
    exact readFrom_start (List.mem_append_right containerTags known) opens text

theorem read_write {node : Node} (sound : node.Sound) : read node.write = some node.tokens := by
  have reads := readFrom_write sound []
  rw [List.append_nil] at reads
  rw [read, reads, readFrom, Option.map_some, List.append_nil]

end Reading

/-! ## Nesting

Tokens are nested when every element is closed in its turn and only `input`, `hr` and `img` are
never closed.
-/

/-- Whether the attributes of a tag belong to the vocabulary. -/
def areKnown (attributes : List Attribute) : Bool :=
  attributes.all fun entry ↦ attributeNames.contains entry.name

/-- Whether tokens close the elements that are open, innermost first, and open and close others in
their turn. -/
def isNested : (opened : List String) → List Token → Bool
  | opened, [] => opened.isEmpty
  | opened, .char _ :: tokens => isNested opened tokens
  | opened, .start tag attributes :: tokens =>
    areKnown attributes &&
      if voidTags.contains tag then isNested opened tokens
      else containerTags.contains tag && isNested (tag :: opened) tokens
  | [], .finish _ :: _ => false
  | innermost :: opened, .finish tag :: tokens => innermost == tag && isNested opened tokens

section Nesting

variable {opened : List String} {tokens : List Token}

theorem areKnown_of_sound {attributes : List Attribute}
    (sound : ∀ entry ∈ attributes, entry.Sound) : areKnown attributes = true := by
  rw [areKnown, List.all_eq_true]
  intro entry member
  exact List.contains_iff_mem.mpr (sound entry member).known

theorem not_mem_voidTags {tag : String} (known : tag ∈ containerTags) : tag ∉ voidTags := by
  have all : ∀ tag ∈ containerTags, tag ∉ voidTags := by
    decide
  exact all tag known

theorem isNested_text (content : List Char) :
    isNested opened (content.map .char ++ tokens) = isNested opened tokens := by
  induction content with
  | nil => rfl
  | cons c content ih =>
    rw [List.map_cons, List.cons_append, isNested]
    exact ih

theorem isNested_nodes {nodes : List Node}
    (nested : ∀ node ∈ nodes, ∀ opened tokens,
      isNested opened (node.tokens ++ tokens) = isNested opened tokens) :
    isNested opened (nodesTokens nodes ++ tokens) = isNested opened tokens := by
  induction nodes with
  | nil => rfl
  | cons node nodes ih =>
    rw [nodesTokens, List.append_assoc, nested node List.mem_cons_self,
      ih fun other member ↦ nested other (List.mem_cons_of_mem _ member)]

/-- The tokens of sound markup leave open what was open before them. -/
theorem isNested_tokens_append {node : Node} (sound : node.Sound) (opened : List String)
    (tokens : List Token) :
    isNested opened (node.tokens ++ tokens) = isNested opened tokens := by
  induction sound generalizing opened tokens with
  | text content => exact isNested_text (escape content).toList
  | @element tag attributes children known opens contains ih =>
    have notVoid : voidTags.contains tag = false := by
      simpa using not_mem_voidTags known
    have isContainer : containerTags.contains tag = true := List.contains_iff_mem.mpr known
    rw [Node.tokens, List.cons_append, List.append_assoc, List.singleton_append, isNested,
      areKnown_of_sound opens, notVoid, isContainer, Bool.true_and, Bool.true_and,
      if_neg Bool.false_ne_true, isNested_nodes ih, isNested, beq_self_eq_true, Bool.true_and]
  | @void tag attributes known opens =>
    have isVoid : voidTags.contains tag = true := List.contains_iff_mem.mpr known
    rw [Node.tokens, List.singleton_append, isNested, areKnown_of_sound opens, isVoid, Bool.true_and,
      if_pos rfl]

theorem isNested_tokens {node : Node} (sound : node.Sound) : isNested [] node.tokens = true := by
  rw [← List.append_nil node.tokens, isNested_tokens_append sound]
  rfl

end Nesting

end ViewPreview.Html
