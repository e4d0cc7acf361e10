import ViewPreview.Proofs.Agreement.Argument

/-!
# Simple Views by Structure

The items of a simple view on a line of its own are a call as a statement, and the expression of
that call stands for the view.  Behind the name of the call stand at most one group of arguments,
at most one closure, and the modifiers; all of them are on the line that the items before them end
on, so they belong to one statement, and all modifiers count where the statement starts.
-/

namespace ViewPreview.Agreement

open ViewPreview.Text ViewPreview.Call ViewPreview.Number ViewPreview.Outline
open ViewPreview.Canonical (Leaf Container kindName bodyClosure callText closureText
  parenthesesText parameterText)

theorem append_empty (call : Outline.Call Expression) : call.append {} = call := by
  rw [Outline.Call.append, List.append_nil, List.append_nil]

/-! ## Groups -/

/-- Whether items are one group on the line of what stands before it, and which call it makes. -/
structure IsGroup (call : Outline.Call Expression) (items : List Item) : Prop where
  isGroup : ∃ opening inner closing, opening.startsLine = false ∧
    items = [.group opening inner closing] ∧ (Item.group opening inner closing).part.call = call
  sound : Sound items

theorem groupedWith_parentheses (operands : List Operand) :
    GroupedWith (parenthesesText (some (operands.map Operand.written))) fun _ items ↦
      ∃ call, (∃ outlines, call = ⟨outlines, []⟩ ∧ AreOperands outlines operands) ∧
        IsGroup call items := by
  apply GroupedWith.group (by decide) noGap noGap (groupedWith_operands operands)
  rintro line items final ⟨sound, outlines, call, areOperands⟩
  have noBrace : (markToken [] ['('] (line + lineFeeds [])).isMark "\x7b" = false := rfl
  refine ⟨_, ⟨outlines, rfl, areOperands⟩, ⟨_, items, _, rfl, rfl, ?_⟩, sound.group noBrace _⟩
  rw [part_arguments noBrace, call]

/-! ## What follows a name -/

/-- Whether items make a call and a chain of modifiers of a name before them, whatever line the name
stands on. -/
structure IsCallItems (call : Option (Outline.Call Expression)) (chain : List Modification)
    (items : List Item) : Prop where
  isFollowed : ∃ followers, items = followerItems followers ∧ ∀ line, ∃ links,
    Suffix.chain line (followers.map Follower.suffix) = (call, links) ∧
      List.Forall₂ (IsModification line) links chain
  sound : Sound items

section CallItems

variable {call : Option (Outline.Call Expression)} {chain : List Modification}
  {items : List Item}

theorem isCallItems_nil : IsCallItems none [] [] :=
  ⟨⟨[], rfl, fun _ ↦ ⟨[], rfl, .nil⟩⟩, sound_nil⟩

theorem IsCallItems.group (isCallItems : IsCallItems call chain items)
    {first : Outline.Call Expression} {groupItems : List Item}
    (isGroup : IsGroup first groupItems) :
    IsCallItems (some (first.append (call.getD {}))) chain (groupItems ++ items) := by
  obtain ⟨⟨followers, rfl, chained⟩, sound⟩ := isCallItems
  obtain ⟨⟨opening, inner, closing, sameLine, rfl, made⟩, groupSound⟩ := isGroup
  refine ⟨⟨.group opening inner closing sameLine :: followers, rfl, fun line ↦ ?_⟩,
    groupSound.append sound⟩
  obtain ⟨links, same, areChain⟩ := chained line
  refine ⟨links, ?_, areChain⟩
  rw [List.map_cons, Follower.suffix, Suffix.chain, same, made]

theorem IsCallItems.modifier {modification : Modification}
    {outlines : List (Outline.Argument Expression)}
    (isCallItems : IsCallItems (some ⟨outlines, []⟩) chain items)
    (areOperands : AreOperands outlines modification.operands) (line : Nat) :
    IsCallItems none (modification :: chain)
      ((Follower.member modification.name line).items ++ items) := by
  obtain ⟨⟨followers, rfl, chained⟩, sound⟩ := isCallItems
  have singles : Sound (Follower.member modification.name line).items :=
    sound_singles [markToken [] ['.'] line, nameToken [] modification.name line]
  refine ⟨⟨.member modification.name line :: followers, rfl, fun start ↦ ?_⟩,
    singles.append sound⟩
  obtain ⟨links, same, areChain⟩ := chained start
  refine ⟨_, ?_, .cons (.call areOperands) areChain⟩
  rw [List.map_cons, Follower.suffix, Suffix.chain, same]
  rfl

end CallItems

/-- What a group makes of a name goes before what the text behind it makes. -/
theorem groupedWith_before {first second : List Char} {chain : List Modification}
    {ofFirst : Nat → Outline.Call Expression → Prop}
    {ofSecond : Nat → Option (Outline.Call Expression) → Prop}
    (groupedFirst : GroupedWith first fun line items ↦
      ∃ call, ofFirst line call ∧ IsGroup call items)
    (groupedSecond : GroupedWith second fun line items ↦
      ∃ call, ofSecond line call ∧ IsCallItems call chain items)
    (ends : EndsBefore second) :
    GroupedWith (first ++ second) fun line items ↦ ∃ call other, ofFirst line call ∧
      ofSecond (line + lineFeeds first) other ∧
        IsCallItems (some (call.append (other.getD {}))) chain items := by
  apply groupedFirst.append groupedSecond ends
  rintro line items others ⟨call, isFirst, isGroup⟩ ⟨other, isSecond, isCallItems⟩
  exact ⟨call, other, isFirst, isSecond, isCallItems.group isGroup⟩

theorem endsBefore_chainText (chain : List Modification) : EndsBefore (chainText chain) := by
  cases chain with
  | nil => exact endsBefore_nil
  | cons modification chain =>
    intro rest _
    have shape : chainText (modification :: chain) ++ rest = '.' :: (modification.name.chars ++
        ('(' :: (operandsText modification.operands ++ [')']) ++ chainText chain ++ rest)) := by
      simp only [chainText, List.flatMap_cons, Modification.text, Passage.linkText,
        List.cons_append, List.append_assoc]
    rw [shape]
    exact endsToken_member _ _

/-- A chain of modifiers calls nothing before it. -/
theorem groupedWith_chainText (chain : List Modification) :
    GroupedWith (chainText chain) fun _ ↦ IsCallItems none chain := by
  induction chain with
  | nil => exact groupedAs_nil.groupedWith fun _ ↦ isCallItems_nil
  | cons modification chain ih =>
    have others : GroupedWith (chainText chain) fun _ items ↦
        ∃ call, call = none ∧ IsCallItems call chain items :=
      ih.mono fun _ _ isCallItems ↦ ⟨none, rfl, isCallItems⟩
    have called := groupedWith_before (groupedWith_parentheses modification.operands) others
      (endsBefore_chainText chain)
    have shape : chainText (modification :: chain) = '.' :: modification.name.chars ++
        (parenthesesText (some (modification.operands.map Operand.written)) ++
          chainText chain) := by
      simp only [chainText, List.flatMap_cons, Modification.text, Passage.linkText,
        parenthesesText, operandsText, List.cons_append, List.append_assoc, List.nil_append]
    have member : GroupedWith ('.' :: modification.name.chars) fun _ items ↦
        ∃ line, items = (Follower.member modification.name line).items :=
      (groupedAs_member noGap modification.name).groupedWith fun line ↦ ⟨_, rfl⟩
    rw [shape]
    apply member.append called (endsBefore_delimiter (by decide) _)
    rintro _ _ items ⟨line, rfl⟩ ⟨_, _, ⟨outlines, rfl, areOperands⟩, rfl, isCallItems⟩
    rw [Option.getD_none, append_empty] at isCallItems
    exact isCallItems.modifier areOperands line

/-! ## Statements -/

/-- Whether items are a call as a statement, which is read as a view. -/
def IsViewItems (reading : Reading View) (items : List Item) : Prop :=
  ∃ call : CallStatement, items = call.items ∧ Sound items ∧ call.expression.view? = some reading

/-- Whether items are calls as statements, which are read as views. -/
def AreViewItems (reading : Reading (List View)) (items : List Item) : Prop :=
  ∃ calls, items = CallStatement.allItems calls ∧ Sound items ∧
    statementViews (calls.map fun call ↦ statementOutline (partsOf call.items)) = reading

/-- A call on a line of its own is read as a view if what follows its name makes it one. -/
theorem groupedWith_named {name : Identifier} (capitalized : isCapitalized name.chars = true)
    (named : namesView name.string true = true) {tail : List Char} {chain : List Modification}
    {reading : Nat → Reading View}
    (followed : GroupedWith tail fun line items ↦ ∃ call, IsCallItems (some call) chain items ∧
      ∀ links, List.Forall₂ (IsModification line) links chain →
        followLinks (headView name.string (some call)) links = reading line)
    (ends : EndsBefore tail) :
    GroupedWith ('\n' :: (name.chars ++ tail)) fun line ↦ IsViewItems (reading (line + 1)) := by
  have isBreak : ['\n'] ∈ plainGaps := by decide
  have first : GroupedWith (['\n'] ++ name.chars) fun line items ↦
      items = [.single (nameToken ['\n'] name (line + 1))] :=
    (groupedAs_name isBreak name).groupedWith fun _ ↦ rfl
  have oneLine : lineFeeds (['\n'] ++ name.chars) = 1 := by
    rw [lineFeeds_append, lineFeeds_eq_zero (name.not_mem_chars (by decide))]
    rfl
  apply first.append followed ends
  rintro line _ _ rfl ⟨call, ⟨⟨followers, rfl, chained⟩, sound⟩, read⟩
  rw [oneLine] at read
  obtain ⟨links, same, areChain⟩ := chained (line + 1)
  refine ⟨⟨name, capitalized, line + 1, followers⟩, rfl, ?_, ?_⟩
  · exact (sound_singles [nameToken ['\n'] name (line + 1)]).append sound
  · rw [CallStatement.expression, same, Expression.view?, Option.isSome_some, if_pos named,
      read links areChain]

/-- The texts of views, each behind the end of a line. -/
def brokenText (simples : List SimpleView) : List Char :=
  simples.flatMap fun simple ↦ '\n' :: simple.text

theorem newline_lines (simples : List SimpleView) :
    '\n' :: SimpleView.lines simples = brokenText simples ++ ['\n'] := by
  induction simples with
  | nil => rfl
  | cons simple others ih =>
    rw [SimpleView.lines, ih]
    simp only [brokenText, List.flatMap_cons, List.cons_append, List.append_assoc]

theorem endsBefore_brokenText (simples : List SimpleView) : EndsBefore (brokenText simples) := by
  cases simples with
  | nil => exact endsBefore_nil
  | cons simple others => exact endsBefore_delimiter (by decide) _

theorem statementView_of_view {statement : Outline.Statement Expression} {reading : Reading View}
    (read : optionalView? statement.expression = some reading) :
    statementView statement = ⟨[reading.value], reading.caveats⟩ := by
  obtain ⟨line, text, expression⟩ := statement
  rw [statementView]
  simp only at read
  rw [read]

theorem statementViews_cons_call {call : CallStatement} {first : Reading View}
    (read : call.expression.view? = some first)
    (statements : List (Outline.Statement Expression)) :
    statementViews (statementOutline (partsOf call.items) :: statements) =
      ⟨first.value :: (statementViews statements).value,
        first.caveats ++ (statementViews statements).caveats⟩ := by
  have shown : optionalView? (statementOutline (partsOf call.items)).expression = some first := by
    rw [call.expression_statementOutline]
    exact read
  rw [statementViews, statementView_of_view shown, List.singleton_append]

/-- Views on lines of their own are read one after another. -/
theorem groupedWith_brokenText {simples : List SimpleView}
    (each : ∀ simple ∈ simples, GroupedWith ('\n' :: simple.text) fun line ↦
      IsViewItems (simple.reading .structural (line + 1))) :
    GroupedWith (brokenText simples) fun line ↦
      AreViewItems ⟨SimpleView.views simples,
        SimpleView.allCaveats .structural (line + 1) simples⟩ := by
  induction simples with
  | nil => exact groupedAs_nil.groupedWith fun _ ↦ ⟨[], rfl, sound_nil, rfl⟩
  | cons simple others ih =>
    obtain ⟨first, rest⟩ := List.forall_mem_cons.mp each
    apply first.append (ih rest) (endsBefore_brokenText others)
    rintro line _ _ ⟨call, rfl, sound, read⟩ ⟨calls, rfl, soundOthers, readOthers⟩
    refine ⟨call :: calls, rfl, sound.append soundOthers, ?_⟩
    have sameLine : line + lineFeeds ('\n' :: simple.text) + 1 =
        line + 1 + lineFeeds simple.text + 1 := by
      rw [lineFeeds_newline]
      omega
    rw [sameLine] at readOthers
    rw [List.map_cons, statementViews_cons_call read, readOthers, SimpleView.views,
      SimpleView.allCaveats]
    rfl

/-! ## Closures -/

/-- Whether items between braces are a closure with a parameter, or without one, whose statements
are read as views. -/
structure IsClosureItems (parameter : Option String) (reading : Reading (List View))
    (items : List Item) : Prop where
  outlined : ∃ statements, closureOutline (partsOf items) = bodyClosure parameter statements ∧
    statementViews statements = reading
  sound : ∀ opening closing, opening.isMark "\x7b" = true → Sound [.group opening items closing]

theorem AreViewItems.isClosureItems {reading : Reading (List View)} {items : List Item}
    (areViewItems : AreViewItems reading items) : IsClosureItems none reading items := by
  obtain ⟨calls, rfl, sound, read⟩ := areViewItems
  refine ⟨⟨_, CallStatement.closureOutline_allItems calls, read⟩, fun opening closing isBrace ↦ ?_⟩
  apply @CallStatement.sound_closure opening isBrace _ calls _ sound
  rw [CallStatement.splitClosure_allItems]

theorem AreViewItems.isClosureItems_parameter {reading : Reading (List View)} {items : List Item}
    (areViewItems : AreViewItems reading items) (row : Identifier)
    (isParameter : row.string ∉ ["for", "in"]) (line : Nat) :
    IsClosureItems (some row.string) reading
      (CallStatement.parameterItems row line ++ items) := by
  obtain ⟨calls, rfl, sound, read⟩ := areViewItems
  have singles : Sound (CallStatement.parameterItems row line) :=
    sound_singles [nameToken [' '] row line, nameToken [' '] CallStatement.inName line]
  refine ⟨⟨_, CallStatement.closureOutline_parameter row isParameter line calls, read⟩,
    fun opening closing isBrace ↦ ?_⟩
  apply @CallStatement.sound_closure opening isBrace _ calls _ (singles.append sound)
  rw [partsOf_append, CallStatement.splitClosure_parameter row isParameter]

/-- Braces that end a line of their own make a closure of the items between them. -/
theorem groupedWith_closure {inner : List Char} {parameter : Option String}
    {reading : Nat → Reading (List View)}
    (inside : GroupedWith inner fun line ↦ IsClosureItems parameter (reading line)) :
    GroupedWith (closureText (some (inner ++ ['\n']))) fun line items ↦
      ∃ call, (∃ statements, call = ⟨[], [bodyClosure parameter statements]⟩ ∧
        statementViews statements = reading line) ∧ IsGroup call items := by
  have isSpace : [' '] ∈ plainGaps := by decide
  have isBreak : ['\n'] ∈ plainGaps := by decide
  have isPair : ('\x7b', '\x7d') ∈ brackets := by decide
  rw [closureText, List.append_assoc]
  apply GroupedWith.group isPair isSpace isBreak inside
  rintro line items final ⟨⟨statements, outlined, read⟩, sound⟩
  have isBrace : (markToken [' '] ['\x7b'] (line + lineFeeds [' '])).isMark "\x7b" = true := rfl
  refine ⟨_, ⟨statements, rfl, read⟩, ⟨_, items, _, rfl, rfl, ?_⟩, sound _ _ isBrace⟩
  rw [part_closure isBrace, outlined]

theorem groupedWith_parameterText (row : Identifier) :
    GroupedWith (parameterText row) fun _ items ↦
      ∃ line, items = CallStatement.parameterItems row line := by
  have isSpace : [' '] ∈ plainGaps := by decide
  have sameLine (line : Nat) : line + lineFeeds ([' '] ++ row.chars) + lineFeeds [' '] =
      line + lineFeeds [' '] := by
    rw [lineFeeds_append, lineFeeds_eq_zero (row.not_mem_chars (by decide)), Nat.add_zero]
    rfl
  have both := (groupedAs_name isSpace row).append (groupedAs_name isSpace CallStatement.inName)
    (endsBefore_delimiter (by decide) _)
  simp only [sameLine] at both
  exact both.groupedWith fun line ↦ ⟨_, rfl⟩

/-! ## Views -/

theorem isCapitalized_kindName (kind : Kind) : isCapitalized (kindName kind).chars = true := by
  cases kind
  all_goals decide

theorem isCapitalized_leaf (head : Leaf) : isCapitalized head.name.chars = true := by
  cases head with
  | text content => exact isCapitalized_kindName .text
  | image symbol => exact isCapitalized_kindName .image
  | spacer => exact isCapitalized_kindName .spacer
  | divider => exact isCapitalized_kindName .divider
  | placeholder name isPlaceholder =>
    rw [isPlaceholderName, Identifier.string, String.toList_ofList] at isPlaceholder
    show isCapitalized name.chars = true
    cases shape : name.chars with
    | nil =>
      rw [shape] at isPlaceholder
      cases isPlaceholder
    | cons c rest =>
      rw [shape] at isPlaceholder
      simp only [Bool.and_eq_true] at isPlaceholder
      rw [isCapitalized, List.head?_cons, Option.any_some, isPlaceholder.1.1.1.2,
        isPlaceholder.1.1.2]
      rfl

/-- The modifiers of a chain behind a call without closures. -/
theorem groupedWith_uncalled (chain : List Modification) :
    GroupedWith (chainText chain) fun _ items ↦
      ∃ call, call = none ∧ IsCallItems call chain items :=
  (groupedWith_chainText chain).mono fun _ _ isCallItems ↦ ⟨none, rfl, isCallItems⟩

/-- A closure and the modifiers of a chain behind it. -/
theorem groupedWith_closed {inner : List Char} {parameter : Option String}
    {reading : Nat → Reading (List View)}
    (inside : GroupedWith inner fun line ↦ IsClosureItems parameter (reading line))
    (chain : List Modification) :
    GroupedWith (closureText (some (inner ++ ['\n'])) ++ chainText chain) fun line items ↦
      ∃ call, (∃ statements, call = some ⟨[], [bodyClosure parameter statements]⟩ ∧
        statementViews statements = reading line) ∧ IsCallItems call chain items := by
  apply (groupedWith_before (groupedWith_closure inside) (groupedWith_uncalled chain)
    (endsBefore_chainText chain)).mono
  rintro line items ⟨_, _, ⟨statements, rfl, read⟩, rfl, isCallItems⟩
  exact ⟨_, ⟨statements, rfl, read⟩, isCallItems⟩

/-- The arguments of a call, if it has any, with a closure and the modifiers of a chain. -/
theorem groupedWith_called {arguments : Option (List WrittenArgument)} {operands : List Operand}
    (written : arguments = none ∧ operands = [] ∨ arguments = some (operands.map Operand.written))
    {inner : List Char} {parameter : Option String} {reading : Nat → Reading (List View)}
    (inside : GroupedWith inner fun line ↦ IsClosureItems parameter (reading line))
    (chain : List Modification) :
    GroupedWith (parenthesesText arguments ++
        (closureText (some (inner ++ ['\n'])) ++ chainText chain)) fun line items ↦
      ∃ outlines statements, AreOperands outlines operands ∧
        statementViews statements = reading line ∧
          IsCallItems (some ⟨outlines, [bodyClosure parameter statements]⟩) chain items := by
  have closed := groupedWith_closed inside chain
  rcases written with ⟨rfl, rfl⟩ | rfl
  · apply closed.mono
    rintro line items ⟨_, ⟨statements, rfl, read⟩, isCallItems⟩
    exact ⟨[], statements, .nil, read, isCallItems⟩
  · apply (groupedWith_before (groupedWith_parentheses operands) closed
      (endsBefore_delimiter (by decide) _)).mono
    rintro line items ⟨_, _, ⟨outlines, rfl, areOperands⟩, ⟨statements, rfl, read⟩, isCallItems⟩
    rw [lineFeeds_parentheses, Nat.add_zero] at read
    rw [Option.getD_some, Outline.Call.append, List.append_nil] at isCallItems
    exact ⟨outlines, statements, areOperands, read, isCallItems⟩

theorem endsBefore_call {arguments : Option (List WrittenArgument)} {closure : Option (List Char)}
    (isCall : (arguments.isSome || closure.isSome) = true) (rest : List Char) :
    EndsBefore (parenthesesText arguments ++ (closureText closure ++ rest)) := by
  cases arguments with
  | some written => exact endsBefore_delimiter (by decide) _
  | none =>
    cases closure with
    | some inner => exact endsBefore_delimiter (by decide) _
    | none => cases isCall

theorem groupedWith_leaf (head : Leaf) (chain : List Modification) :
    GroupedWith ('\n' :: (SimpleView.leaf head chain).text) fun line ↦
      IsViewItems ((SimpleView.leaf head chain).reading .structural (line + 1)) := by
  have called := groupedWith_before (groupedWith_parentheses (leafOperands head))
    (groupedWith_uncalled chain) (endsBefore_chainText chain)
  have followed : GroupedWith (parenthesesText (some head.written) ++
      (closureText none ++ chainText chain)) fun line items ↦
        ∃ call, IsCallItems (some call) chain items ∧
          ∀ links, List.Forall₂ (IsModification line) links chain →
            followLinks (headView head.name.string (some call)) links =
              (SimpleView.leaf head chain).reading .structural line := by
    rw [map_written_leafOperands] at called
    apply called.mono
    rintro line items ⟨_, _, ⟨outlines, rfl, areOperands⟩, rfl, isCallItems⟩
    rw [Option.getD_none, append_empty] at isCallItems
    exact ⟨_, isCallItems, fun links areChain ↦ follow_leaf head areOperands areChain⟩
  rw [SimpleView.text, callText, List.append_assoc, List.append_assoc]
  exact groupedWith_named (isCapitalized_leaf head) (Canonical.namesView_leaf head) followed
    (endsBefore_call rfl _)

theorem arguments_container (head : Container) :
    head.arguments = none ∧ containerOperands head = [] ∨
      head.arguments = some ((containerOperands head).map Operand.written) := by
  rw [Container.arguments, ← map_written_containerOperands]
  split
  · next empty => exact Or.inl ⟨rfl, List.map_eq_nil_iff.mp (List.isEmpty_iff.mp empty)⟩
  · exact Or.inr rfl

theorem groupedWith_block (head : Container) {children : List SimpleView}
    (chain : List Modification)
    (each : ∀ simple ∈ children, GroupedWith ('\n' :: simple.text) fun line ↦
      IsViewItems (simple.reading .structural (line + 1))) :
    GroupedWith ('\n' :: (SimpleView.block head children chain).text) fun line ↦
      IsViewItems ((SimpleView.block head children chain).reading .structural (line + 1)) := by
  have inside := (groupedWith_brokenText each).mono fun _ _ areViewItems ↦
    areViewItems.isClosureItems
  have followed : GroupedWith (parenthesesText head.arguments ++
      (closureText (some (brokenText children ++ ['\n'])) ++ chainText chain)) fun line items ↦
        ∃ call, IsCallItems (some call) chain items ∧
          ∀ links, List.Forall₂ (IsModification line) links chain →
            followLinks (headView (kindName head.kind).string (some call)) links =
              (SimpleView.block head children chain).reading .structural line := by
    apply (groupedWith_called (arguments_container head) inside chain).mono
    rintro line items ⟨outlines, statements, areOperands, read, isCallItems⟩
    refine ⟨_, isCallItems, fun links areChain ↦ ?_⟩
    rw [follow_block head areOperands read areChain, SimpleView.reading, SimpleView.view,
      SimpleView.caveats]
    rfl
  rw [SimpleView.text, callText, List.append_assoc, List.append_assoc, newline_lines]
  exact groupedWith_named (isCapitalized_kindName head.kind)
    (Canonical.namesView_kindName _ (Canonical.isContainer_kind head).known) followed
    (endsBefore_call (Bool.or_true _) _)

theorem groupedWith_repetition (rows : IntegerRange) (row : Identifier)
    (isParameter : row.string ∉ ["for", "in"]) {template : SimpleView} (chain : List Modification)
    (ofTemplate : GroupedWith ('\n' :: template.text) fun line ↦
      IsViewItems (template.reading .structural (line + 1))) :
    GroupedWith ('\n' :: (SimpleView.repetition rows row isParameter template chain).text)
      fun line ↦ IsViewItems
        ((SimpleView.repetition rows row isParameter template chain).reading .structural
          (line + 1)) := by
  have inside : GroupedWith (parameterText row ++ brokenText [template]) fun line ↦
      IsClosureItems (some row.string) ⟨[template.view],
        template.caveats .structural (line + 1)⟩ := by
    apply (groupedWith_parameterText row).append
      (groupedWith_brokenText (List.forall_mem_singleton.mpr ofTemplate))
      (endsBefore_brokenText [template])
    rintro line _ items ⟨start, rfl⟩ areViewItems
    rw [lineFeeds_eq_zero (Canonical.noBreak_parameterText row), Nat.add_zero, SimpleView.views,
      SimpleView.views, SimpleView.allCaveats, SimpleView.allCaveats, List.append_nil]
      at areViewItems
    exact areViewItems.isClosureItems_parameter row isParameter start
  have followed : GroupedWith (parenthesesText (some (Canonical.rangeArguments rows)) ++
      (closureText (some (parameterText row ++ brokenText [template] ++ ['\n'])) ++
        chainText chain)) fun line items ↦
          ∃ call, IsCallItems (some call) chain items ∧
            ∀ links, List.Forall₂ (IsModification line) links chain →
              followLinks (headView (kindName .forEach).string (some call)) links =
                (SimpleView.repetition rows row isParameter template chain).reading .structural
                  line := by
    have written : some (Canonical.rangeArguments rows) =
        some ([(⟨none, .range rows⟩ : Operand)].map Operand.written) := rfl
    apply (groupedWith_called (Or.inr written) inside chain).mono
    rintro line items ⟨outlines, statements, areOperands, read, isCallItems⟩
    refine ⟨_, isCallItems, fun links areChain ↦ ?_⟩
    rw [follow_repetition rows row areOperands read areChain, SimpleView.reading, SimpleView.view,
      SimpleView.caveats]
    rfl
  have shape : parameterText row ++ '\n' :: (template.text ++ ['\n']) =
      parameterText row ++ brokenText [template] ++ ['\n'] := by
    rw [List.append_assoc, brokenText, List.flatMap_singleton]
    rfl
  rw [SimpleView.text, callText, List.append_assoc, List.append_assoc, shape]
  exact groupedWith_named (isCapitalized_kindName .forEach)
    (Canonical.namesView_kindName .forEach (by decide)) followed (endsBefore_call rfl _)

mutual

/-- The items of a simple view on a line of its own are read as its view, and its modifiers are
reported where it starts. -/
theorem groupedWith_text : (simple : SimpleView) →
    GroupedWith ('\n' :: simple.text) fun line ↦
      IsViewItems (simple.reading .structural (line + 1))
  | .leaf head chain => groupedWith_leaf head chain
  | .block head children chain => groupedWith_block head chain (groupedWith_texts children)
  | .repetition rows row isParameter template chain =>
    groupedWith_repetition rows row isParameter chain (groupedWith_text template)

theorem groupedWith_texts : (simples : List SimpleView) →
    ∀ simple ∈ simples, GroupedWith ('\n' :: simple.text) fun line ↦
      IsViewItems (simple.reading .structural (line + 1))
  | [] => fun _ member ↦ nomatch member
  | simple :: others => List.forall_mem_cons.mpr ⟨groupedWith_text simple, groupedWith_texts others⟩

end

end ViewPreview.Agreement
