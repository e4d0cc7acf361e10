import ViewPreview.Proofs.Html.Place
import ViewPreview.Render.Markup
import Mathlib.Data.List.Nodup

/-!
# Attributes Written Twice

The tag of a view has a class, a style, and an attribute for each modifier that carries a note: a
label, a hint or a value for assistive technology, or a help text.  Each such modifier writes its
attribute behind those of the earlier ones, and an image writes its own label behind all of them.
So the tag has an attribute twice exactly when two modifiers carry the same kind of note, or when a
modifier labels an image.  Of attributes with one name a browser keeps the first, so that it shows
the note of the first modifier, and that of the last one only where the two are equal.
-/

namespace ViewPreview

/-- What a modifier may note about a view. -/
inductive Note where
  | label | hint | value | help
deriving Repr, DecidableEq

namespace Note

/-- The name of the modifier that carries a note. -/
def name : Note → String
  | .label => "accessibilityLabel"
  | .hint => "accessibilityHint"
  | .value => "accessibilityValue"
  | .help => "help"

/-- The attribute that shows a note. -/
def attributeName : Note → String
  | .label => "aria-label"
  | .hint => "aria-description"
  | .value => "aria-valuetext"
  | .help => "title"

theorem attributeName_injective : Function.Injective attributeName := by
  intro note other same
  cases note <;> cases other <;> simp_all [attributeName]

/-- The note that a modifier carries as its text. -/
def text? (note : Note) (modifier : Modifier View) : Option String :=
  match modifier.arguments with
  | .text text => if modifier.name = note.name then some text else none
  | _ => none

end Note

namespace View

/-- The notes of one kind that the modifiers of a view carry, in chain order. -/
def notes (view : View) (note : Note) : List String :=
  view.modifiers.filterMap note.text?

/-- What an image is labelled with: the name of its symbol or asset. -/
def imageName? (view : View) : Option String :=
  if view.kind = .image then
    some (((view.string? "systemName").or (view.propertyText? "name")).getD "")
  else none

/-- All that is written as the attribute of a note: the notes of the modifiers, and as the last
label that of an image. -/
def written (view : View) (note : Note) : List String :=
  view.notes note ++ if note = .label then view.imageName?.toList else []

end View

namespace Render

open ViewPreview.Html (Node Attribute escape)

/-- The tag of a view in its markup: the one that the markup begins with, but for a slider with a
label that of the input behind the label. -/
def tagOf (kind : Kind) (markup : Node) : List Attribute :=
  match kind, markup with
  | .slider, .element _ _ contents => (contents.getLast?.map Node.attributes).getD []
  | _, node => node.attributes

/-- The value that a browser keeps of the attributes with one name: that of the first. -/
def kept? (attributes : List Attribute) (name : String) : Option String :=
  (attributes.find? fun entry ↦ entry.name == name).bind Attribute.value

/-! ## What modifiers write -/

section Modifiers

variable {note : Note} {modifier : Modifier View} {entry : Attribute}

theorem accessibilityAttribute?_eq_some_iff {name shown : String} :
    accessibilityAttribute? name = some shown ↔
      ∃ note : Note, name = note.name ∧ shown = note.attributeName := by
  constructor
  · intro found
    unfold accessibilityAttribute? at found
    split at found
    case h_1 => exact ⟨.label, rfl, (Option.some.inj found).symm⟩
    case h_2 => exact ⟨.hint, rfl, (Option.some.inj found).symm⟩
    case h_3 => exact ⟨.value, rfl, (Option.some.inj found).symm⟩
    case h_4 => exact ⟨.help, rfl, (Option.some.inj found).symm⟩
    case h_5 => cases found
  · rintro ⟨note, rfl, rfl⟩
    cases note <;> rfl

/-- A modifier writes the attribute of the note that it carries, and no other. -/
theorem modifierAttribute?_eq_some_iff :
    modifierAttribute? modifier = some entry ↔
      ∃ note text, Note.text? note modifier = some text ∧
        entry = .text note.attributeName text := by
  obtain ⟨name, arguments⟩ := modifier
  cases arguments with
  | text text =>
    have carries (note : Note) (other : String) :
        Note.text? note ⟨name, .text text⟩ = some other ↔ name = note.name ∧ text = other := by
      simp [Note.text?]
    simp only [modifierAttribute?, Option.map_eq_some_iff, accessibilityAttribute?_eq_some_iff,
      carries]
    constructor
    · rintro ⟨_, ⟨note, named, rfl⟩, rfl⟩
      exact ⟨note, text, ⟨named, rfl⟩, rfl⟩
    · rintro ⟨note, _, ⟨named, rfl⟩, rfl⟩
      exact ⟨note.attributeName, ⟨note, named, rfl⟩, rfl⟩
  | _ => simp [modifierAttribute?, Note.text?]

/-- The attributes that modifiers write for a note are those of the notes they carry. -/
theorem filter_modifierAttributes (note : Note) (modifiers : List (Modifier View)) :
    (modifiers.filterMap modifierAttribute?).filter
        (fun entry ↦ entry.name == note.attributeName) =
      (modifiers.filterMap note.text?).map (Attribute.text note.attributeName) := by
  induction modifiers with
  | nil => rfl
  | cons modifier later ih =>
    cases carried : note.text? modifier with
    | some text =>
      have writes := modifierAttribute?_eq_some_iff.mpr ⟨note, text, carried, rfl⟩
      have named : ((Attribute.text note.attributeName text).name == note.attributeName) = true :=
        beq_self_eq_true _
      rw [List.filterMap_cons_some writes, List.filterMap_cons_some carried, List.filter_cons,
        if_pos named, ih, List.map_cons]
    | none =>
      rw [List.filterMap_cons_none carried]
      cases writes : modifierAttribute? modifier with
      | none => rw [List.filterMap_cons_none writes, ih]
      | some entry =>
        obtain ⟨other, text, carriedOther, rfl⟩ := modifierAttribute?_eq_some_iff.mp writes
        have named :
            ¬((Attribute.text other.attributeName text).name == note.attributeName) = true := by
          intro same
          obtain rfl := Note.attributeName_injective (beq_iff_eq.mp same)
          rw [carried] at carriedOther
          cases carriedOther
        rw [List.filterMap_cons_some writes, List.filter_cons, if_neg named, ih]

end Modifiers

/-! ## What kinds write -/

/-- The names of attributes that are written in every tag, if at all. -/
def commonNames : List String :=
  ["class", "style", "aria-hidden"]

/-- The names of the attributes that show notes. -/
def noteNames : List String :=
  ["aria-label", "aria-description", "aria-valuetext", "title"]

theorem attributeName_mem_noteNames (note : Note) : note.attributeName ∈ noteNames := by
  cases note <;> decide

theorem mem_noteNames_iff {name : String} :
    name ∈ noteNames ↔ ∃ note : Note, name = note.attributeName := by
  constructor
  · intro member
    simp only [noteNames, List.mem_cons, List.not_mem_nil, or_false] at member
    rcases member with rfl | rfl | rfl | rfl
    · exact ⟨.label, rfl⟩
    · exact ⟨.hint, rfl⟩
    · exact ⟨.value, rfl⟩
    · exact ⟨.help, rfl⟩
  · rintro ⟨note, rfl⟩
    exact attributeName_mem_noteNames note

/-- Attributes that a kind writes behind those of every tag: they repeat none of these, and the only
note among them is the label of an image. -/
structure Adds (view : View) (more : List Attribute) : Prop where
  distinct : (commonNames ++ (more.filter fun entry ↦ entry.name ∉ noteNames).map
    Attribute.name).Nodup
  notes (note : Note) : more.filter (fun entry ↦ entry.name == note.attributeName) =
    (if note = .label then view.imageName?.toList else []).map (.text note.attributeName)

section Kinds

variable {options : RenderOptions} {view : View} {render : Within view}

/-- A kind other than an image writes no note. -/
theorem adds_of_names {more : List Attribute} (names : List String) (other : view.kind ≠ .image)
    (same : more.map Attribute.name = names)
    (distinct : (commonNames ++ noteNames ++ names).Nodup) : Adds view more := by
  have noNote : ∀ entry ∈ more, entry.name ∉ noteNames := by
    intro entry member inNotes
    have inNames : entry.name ∈ names := same ▸ List.mem_map_of_mem member
    exact (List.nodup_append.mp distinct).2.2 _ (List.mem_append_right _ inNotes) _ inNames rfl
  have all : more.filter (fun entry ↦ entry.name ∉ noteNames) = more :=
    List.filter_eq_self.mpr fun entry member ↦ decide_eq_true (noNote entry member)
  constructor
  case distinct =>
    rw [all, same]
    refine distinct.sublist (List.Sublist.append_right ?_ names)
    exact List.sublist_append_left commonNames noteNames
  case notes =>
    intro note
    rw [View.imageName?, if_neg other, Option.toList_none, ite_self, List.map_nil,
      List.filter_eq_nil_iff]
    intro entry member named
    exact noNote entry member (beq_iff_eq.mp named ▸ attributeName_mem_noteNames note)

/-- An image writes its role and its name. -/
theorem adds_image {name : String} (named : view.imageName? = some name) :
    Adds view [.verbatim "role" "img", .text "aria-label" name] := by
  constructor
  case distinct =>
    show ["class", "style", "aria-hidden", "role"].Nodup
    decide
  case notes =>
    intro note
    rw [named]
    cases note <;> rfl

/-- Whether attributes are those of every tag and then some that a kind adds. -/
def IsTag (options : RenderOptions) (view : View) (tag : List Attribute) : Prop :=
  ∃ extraClass more, tag = openingAttributes view options extraClass ++ more ∧ Adds view more

/-- The tag of every kind. -/
theorem isTag_tagOf (options : RenderOptions) (view : View) (render : Within view) :
    IsTag options view (tagOf view.kind (markup options view render)) := by
  unfold markup
  cases kind : view.kind
  all_goals dsimp only
  case image =>
    have name : view.imageName? = some (((view.string? "systemName").or
        (view.propertyText? "name")).getD "") := if_pos kind
    unfold imageMarkup
    split
    · next symbol found =>
      rw [found] at name
      exact ⟨_, _, rfl, adds_image name⟩
    · next found =>
      rw [found] at name
      exact ⟨_, _, rfl, adds_image name⟩
  all_goals
    have other : view.kind ≠ .image := by
      rw [kind]
      decide
  case slider =>
    have added (least greatest value : String) : Adds view [.verbatim "type" "range",
        .verbatim "min" least, .verbatim "max" greatest, .verbatim "step" "any",
        .verbatim "value" value] :=
      adds_of_names ["type", "min", "max", "step", "value"] other rfl (by decide)
    unfold sliderMarkup
    dsimp only
    split
    · exact ⟨_, _, rfl, added _ _ _⟩
    · rw [Node.classed, tagOf, List.getLast?_concat]
      exact ⟨_, _, rfl, added _ _ _⟩
  case textField | secureField =>
    refine ⟨_, _, rfl, ?_⟩
    cases view.string? "text" with
    | none => exact adds_of_names ["type", "placeholder"] other rfl (by decide)
    | some text => exact adds_of_names ["type", "placeholder", "value"] other rfl (by decide)
  case link => exact ⟨_, _, rfl, adds_of_names ["href"] other rfl (by decide)⟩
  case asyncImage => exact ⟨_, _, rfl, adds_of_names ["src", "alt"] other rfl (by decide)⟩
  case progressView =>
    unfold progressMarkup
    dsimp only
    split
    · exact ⟨_, _, rfl, adds_of_names ["role"] other rfl (by decide)⟩
    · exact ⟨_, _, rfl, adds_of_names [] other rfl (by decide)⟩
  all_goals exact ⟨_, _, rfl, adds_of_names _ other rfl (by decide)⟩

end Kinds

/-! ## What a tag has -/

section Tags

variable {options : RenderOptions} {view : View} {tag : List Attribute}

/-- The attributes of every tag are those that its modifiers write, between some that are written
once. -/
theorem exists_openingAttributes_eq (options : RenderOptions) (view : View) (extraClass : String) :
    ∃ front back, openingAttributes view options extraClass =
        front ++ (view.modifiers.filterMap modifierAttribute? ++ back) ∧
      ((front ++ back).map Attribute.name).Sublist commonNames := by
  refine ⟨.verbatim "class" _ :: styleAttributes view options,
    if isHidden view then [.verbatim "aria-hidden" "true"] else [], rfl, ?_⟩
  have style : ((styleAttributes view options).map Attribute.name).Sublist ["style"] := by
    unfold styleAttributes
    dsimp only
    split
    · exact List.nil_sublist _
    · exact List.Sublist.refl _
  have hidden : ((if isHidden view then [Attribute.verbatim "aria-hidden" "true"] else []).map
      Attribute.name).Sublist ["aria-hidden"] := by
    split
    · exact List.Sublist.refl _
    · exact List.nil_sublist _
  rw [List.map_append]
  exact (style.append hidden).cons_cons "class"

/-- No note is among attributes that are written once. -/
theorem filter_of_common {entries : List Attribute}
    (common : (entries.map Attribute.name).Sublist commonNames) :
    (∀ note : Note, entries.filter (fun entry ↦ entry.name == note.attributeName) = []) ∧
      entries.filter (fun entry ↦ entry.name ∉ noteNames) = entries := by
  have noNote : ∀ name ∈ commonNames, name ∉ noteNames := by
    decide
  have other : ∀ entry ∈ entries, entry.name ∉ noteNames := fun entry member ↦
    noNote entry.name (common.subset (List.mem_map_of_mem member))
  constructor
  · intro note
    rw [List.filter_eq_nil_iff]
    intro entry member named
    exact other entry member (beq_iff_eq.mp named ▸ attributeName_mem_noteNames note)
  · exact List.filter_eq_self.mpr fun entry member ↦ decide_eq_true (other entry member)

/-- Modifiers write nothing but notes. -/
theorem filter_modifierAttributes_of_other (modifiers : List (Modifier View)) :
    (modifiers.filterMap modifierAttribute?).filter (fun entry ↦ entry.name ∉ noteNames) = [] := by
  rw [List.filter_eq_nil_iff]
  intro entry member other
  obtain ⟨modifier, -, writes⟩ := List.mem_filterMap.mp member
  obtain ⟨note, text, -, rfl⟩ := modifierAttribute?_eq_some_iff.mp writes
  exact of_decide_eq_true other (attributeName_mem_noteNames note)

/-- The attributes of a tag that show one kind of note are all that is written as such. -/
theorem IsTag.filter_note (isTag : IsTag options view tag) (note : Note) :
    tag.filter (fun entry ↦ entry.name == note.attributeName) =
      (view.written note).map (Attribute.text note.attributeName) := by
  obtain ⟨extraClass, more, rfl, adds⟩ := isTag
  obtain ⟨front, back, same, common⟩ := exists_openingAttributes_eq options view extraClass
  have none := (filter_of_common common).1 note
  rw [List.filter_append, List.append_eq_nil_iff] at none
  rw [same, List.filter_append, List.filter_append, List.filter_append, none.1, none.2,
    List.nil_append, List.append_nil, filter_modifierAttributes, adds.notes, ← List.map_append]
  rfl

/-- The other attributes of a tag are written once. -/
theorem IsTag.nodup_other (isTag : IsTag options view tag) :
    ((tag.filter fun entry ↦ entry.name ∉ noteNames).map Attribute.name).Nodup := by
  obtain ⟨extraClass, more, rfl, adds⟩ := isTag
  obtain ⟨front, back, same, common⟩ := exists_openingAttributes_eq options view extraClass
  have all := (filter_of_common common).2
  rw [List.filter_append] at all
  rw [same, List.filter_append, List.filter_append, List.filter_append,
    filter_modifierAttributes_of_other, List.nil_append, all, List.map_append]
  exact adds.distinct.sublist (common.append_right _)

theorem IsTag.count_other (isTag : IsTag options view tag) {name : String}
    (other : name ∉ noteNames) : (tag.map Attribute.name).count name ≤ 1 := by
  have named : (tag.map Attribute.name).filter (· ∉ noteNames) =
      (tag.filter fun entry ↦ entry.name ∉ noteNames).map Attribute.name := List.filter_map
  have kept : ((tag.map Attribute.name).filter (· ∉ noteNames)).count name =
      (tag.map Attribute.name).count name := List.count_filter (decide_eq_true other)
  rw [← kept, named]
  exact List.nodup_iff_count_le_one.mp isTag.nodup_other name

theorem IsTag.count_note (isTag : IsTag options view tag) (note : Note) :
    (tag.map Attribute.name).count note.attributeName = (view.written note).length := by
  have length := congrArg List.length (isTag.filter_note note)
  rw [List.length_map] at length
  rw [← length, List.count, List.countP_map, List.countP_eq_length_filter]
  rfl

/-- A browser keeps the first of the notes. -/
theorem IsTag.kept?_note (isTag : IsTag options view tag) (note : Note) :
    kept? tag note.attributeName = (view.written note).head?.map escape := by
  rw [kept?, ← List.head?_filter, isTag.filter_note, List.head?_map, Option.bind_map]
  cases (view.written note).head? <;> rfl

/-- A tag has no attribute twice exactly when no note is written twice. -/
theorem IsTag.nodup_iff (isTag : IsTag options view tag) :
    (tag.map Attribute.name).Nodup ↔ ∀ note, (view.written note).length ≤ 1 := by
  rw [List.nodup_iff_count_le_one]
  constructor
  · intro once note
    rw [← isTag.count_note]
    exact once note.attributeName
  · intro once name
    by_cases isNote : name ∈ noteNames
    · obtain ⟨note, rfl⟩ := mem_noteNames_iff.mp isNote
      rw [isTag.count_note]
      exact once note
    · exact isTag.count_other isNote

/-- A note is written twice by two modifiers, or by a modifier and an image. -/
theorem length_written_le_one_iff (view : View) :
    (∀ note, (view.written note).length ≤ 1) ↔
      (∀ note, (view.notes note).length ≤ 1) ∧ (view.kind = .image → view.notes .label = []) := by
  have length (note : Note) : (view.written note).length = (view.notes note).length +
      if note = .label ∧ view.kind = .image then 1 else 0 := by
    rw [View.written, List.length_append]
    by_cases label : note = .label <;> by_cases image : view.kind = .image <;>
      simp [View.imageName?, label, image]
  simp only [length]
  constructor
  · intro once
    refine ⟨fun note ↦ Nat.le_trans (Nat.le_add_right _ _) (once note), fun isImage ↦ ?_⟩
    have label := once .label
    rw [if_pos ⟨rfl, isImage⟩] at label
    exact List.eq_nil_of_length_eq_zero (by omega)
  · rintro ⟨once, image⟩ note
    split
    · next both =>
      obtain ⟨rfl, isImage⟩ := both
      rw [image isImage]
      exact Nat.le_refl 1
    · exact once note

theorem escape_injective : Function.Injective escape := fun first second same ↦ by
  rw [← Html.decode_escape first, ← Html.decode_escape second, same]

end Tags

/-- The tag of a view shows every note that its modifiers carry, in chain order, and behind them the
name of an image as its label; it has every other attribute no more than once.  So it has no
attribute twice exactly when no two modifiers carry the same kind of note and none labels an image.
Of the notes of one kind a browser shows the first one, so that it shows that of the last modifier
exactly when the first modifier notes the same. -/
theorem attributes_once_iff (options : RenderOptions) (view : View) (render : Within view) :
    let tag := tagOf view.kind (markup options view render)
    (∀ note : Note, tag.filter (fun entry ↦ entry.name == note.attributeName) =
      (view.written note).map (Attribute.text note.attributeName)) ∧
    (∀ name : String, name ∉ noteNames → (tag.map Attribute.name).count name ≤ 1) ∧
    ((tag.map Attribute.name).Nodup ↔
      (∀ note, (view.notes note).length ≤ 1) ∧ (view.kind = .image → view.notes .label = [])) ∧
    ∀ note : Note,
      kept? tag note.attributeName = (view.written note).head?.map escape ∧
      ∀ last, (view.notes note).getLast? = some last →
        (kept? tag note.attributeName = some (escape last) ↔
          (view.notes note).head? = some last) := by
  intro tag
  have isTag : IsTag options view tag := isTag_tagOf options view render
  refine ⟨isTag.filter_note, fun _ ↦ isTag.count_other, ?once, fun note ↦ ⟨?first, ?last⟩⟩
  case once => rw [isTag.nodup_iff, length_written_le_one_iff]
  case first => exact isTag.kept?_note note
  case last =>
    intro last isLast
    obtain ⟨first, others, same⟩ := List.exists_cons_of_ne_nil
      (List.ne_nil_of_mem (List.mem_of_getLast? isLast))
    rw [isTag.kept?_note, View.written, same, List.cons_append, List.head?_cons, List.head?_cons,
      Option.map_some, Option.some.injEq, Option.some.injEq]
    exact escape_injective.eq_iff

/-- A text that is labelled twice, and an image with a label. -/
def relabelled : View :=
  { kind := .text
    properties := [("text", .text "a")]
    modifiers := [⟨"accessibilityLabel", .text "first"⟩, ⟨"accessibilityLabel", .text "second"⟩]
    children := [] }

def labelledImage : View :=
  { kind := .image
    properties := [("systemName", .text "star")]
    modifiers := [⟨"accessibilityLabel", .text "Favourite"⟩]
    children := [] }

/-- The last modifier labels the text anew, but its tag has both labels and shows the first; and the
tag of the image has two labels as well. -/
theorem relabelled_twice :
    relabelled.modifier? "accessibilityLabel" = some ⟨"accessibilityLabel", .text "second"⟩ ∧
      ((tagOf .text (markup {} relabelled fun inner _ ↦ viewNode {} inner)).map
        Attribute.name).count "aria-label" = 2 ∧
      kept? (tagOf .text (markup {} relabelled fun inner _ ↦ viewNode {} inner)) "aria-label" =
        some "first" ∧
      ((tagOf .image (markup {} labelledImage fun inner _ ↦ viewNode {} inner)).map
        Attribute.name).count "aria-label" = 2 := by
  refine ⟨rfl, ?twice, ?first, ?image⟩
  case twice => decide
  case first => decide
  case image => decide

end Render
end ViewPreview
