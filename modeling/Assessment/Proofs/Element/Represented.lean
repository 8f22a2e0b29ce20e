import Assessment.Proofs.Action
import Assessment.Proofs.Element.Condition

/-!
# What is built of a tree

Nothing that is read is dropped: what is built has one node for each element that was looked at,
under its name and at its place. Not all elements are looked at. An element that writes an
expression or a rule by its attributes or its text alone may hold others, and those are passed over,
known or not.

## Main definitions

- `Element.heeded`: the elements of a tree that are looked at, with the places they stand at.
- `Element.outline`: the names of these elements as a tree.
- `Vocabulary.Named`: what an element builds has the name that the tag tells.

## Main results

- `Vocabulary.named_standard`: the standard vocabulary is one of that kind.
- `Element.read_of_builds_toRule`: what rules are built represents all that was looked at.
- `Element.built_represents_heeded`: the same for all that is built with the standard vocabulary.
- `Element.not_forall_walk_known`: elements that are not known may stand where nobody looks.
-/

namespace Assessment

open Building

/-- A tree of names. -/
inductive Outline where
  /-- A name and the trees below it. -/
  | node (name : String) (parts : List Outline)

/-- What an element is read as. -/
inductive Element.Place where
  /-- An expression. -/
  | expression
  /-- A rule. -/
  | rule
  /-- A branch of a condition, or what is done otherwise. -/
  | branch
  /-- A list of rules. -/
  | processing

namespace Vocabulary

open Element.Place

variable (vocabulary : Vocabulary)

/-- Whether an element of a tag is known at a place. -/
def knowsAt : Element.Place → String → Bool
  | expression, tag => vocabulary.expressions.contains tag || vocabulary.operators.contains tag
  | rule, tag => vocabulary.rules.contains tag
  | branch, tag => (BranchForm.ofTag? tag).isSome
  | processing, tag => Element.isProcessing tag

/-- What the first element in an element is read as, and what the others are, if they are looked
at. -/
def inside : Element.Place → String → Option (Element.Place × Element.Place)
  | expression, tag =>
    match vocabulary.expressions.get? tag, vocabulary.operators.get? tag with
    | some .custom, _ | none, some _ => some (expression, expression)
    | some (.leaf _), _ | none, none => none
  | rule, tag =>
    match vocabulary.rules.get? tag with
    | some (.assignment _) | some .constraint => some (expression, expression)
    | some .condition => some (branch, branch)
    | some (.leaf _) | none => none
  | branch, tag =>
    match BranchForm.ofTag? tag with
    | some .otherwise => some (rule, rule)
    | some .first | some .further => some (expression, rule)
    | none => none
  | processing, _ => some (rule, rule)

/-- The name of what an element builds: all conditions have one name, and so have all branches. -/
def nameAt : Element.Place → String → String
  | rule, tag =>
    match vocabulary.rules.get? tag with
    | some .condition => "condition"
    | _ => tag
  | branch, tag => if BranchForm.ofTag? tag = some .otherwise then "Else" else "If"
  | _, tag => tag

/-- What an element builds has the name that the tag tells. -/
structure Named : Prop where
  /-- An expression that is built without looking inside has no operands. -/
  expression : ∀ {tag build}, vocabulary.expressions.get? tag = some (.leaf build) →
    ∀ element, Yields (build element)
      (fun expression => expression.name = tag ∧ expression.operands = []) fun _ => True
  /-- There is one tag for the operators of extensions. -/
  custom : ∀ {tag}, vocabulary.expressions.get? tag = some .custom → tag = "customOperator"
  /-- An operator has the name of its element. -/
  operator : ∀ {tag build}, vocabulary.operators.get? tag = some build →
    ∀ element, Yields (build element) (fun operator => operator.name = tag) fun _ => True
  /-- A rule that is built without looking inside is the end of something. -/
  exit : ∀ {tag build}, vocabulary.rules.get? tag = some (.leaf build) →
    ∀ element, Yields (build element)
      (fun rule => rule.name = tag ∧ ∃ scope, rule = .exit scope) fun _ => True
  /-- An assignment has the name of its element. -/
  assignment : ∀ {tag target}, vocabulary.rules.get? tag = some (.assignment target) →
    target.name = tag
  /-- There is one tag for constraints. -/
  constraint : ∀ {tag}, vocabulary.rules.get? tag = some .constraint → tag = "templateConstraint"

theorem yields_literal (element : Element) : Yields (literal element)
    (fun expression => ∃ scalar, expression = .baseValue scalar) fun _ => True := by
  rw [literal, yields_bind]
  refine yields_true.mono (fun baseType _ => ?_) fun _ h => h
  split <;> simp

/-- What the standard elements build has the names of their tags. -/
theorem named_standard : standard.Named where
  expression := by
    have hforms : ∀ entry ∈ standardExpressions, ∀ build, entry.2 = .leaf build → ∀ element,
        Yields (build element) (fun expression =>
          expression.name = entry.1 ∧ expression.operands = []) fun _ => True := by
      refine List.forall_mem_cons.2 ⟨?_, ?_⟩
      · rintro _ ⟨⟩ element
        refine (yields_literal element).mono ?_ fun _ h => h
        rintro _ ⟨scalar, rfl⟩
        exact ⟨rfl, rfl⟩
      · simp [-bind_pure_comp, variableForm, referenceForm, randomIntegerForm, randomFloatForm,
          countForm, testVariablesForm, boundsForm, Expression.name, Expression.operands,
          ItemCount.name, OutcomeBound.name]
    exact fun {_ _} hform => hforms _ (SortedMap.mem_of_get?_ofList hform) _ rfl
  custom hform := by
    simpa [standardExpressions] using SortedMap.mem_of_get?_ofList hform
  operator := by
    have hforms : ∀ entry ∈ standardOperators, ∀ element,
        Yields (entry.2 element) (fun operator => operator.name = entry.1) fun _ => True := by
      refine List.forall_mem_append.2 ⟨?_, ?_⟩
      · simp only [List.forall_mem_map]
        exact fun _ _ _ => rfl
      · simp [-bind_pure_comp, attributedOperators, caseForm, boundedForm, roundingForm,
          Operator.name]
    exact fun {_ _} hform => hforms _ (SortedMap.mem_of_get?_ofList hform)
  exit := by
    have hforms : ∀ entry ∈ standardRules, ∀ build, entry.2 = .leaf build → ∀ element,
        Yields (build element)
          (fun rule => rule.name = entry.1 ∧ ∃ scope, rule = .exit scope) fun _ => True := by
      simp [standardRules, Rule.name]
    exact fun {_ _} hform => hforms _ (SortedMap.mem_of_get?_ofList hform) _ rfl
  assignment := by
    have hforms : ∀ entry ∈ standardRules, ∀ target, entry.2 = .assignment target →
        target.name = entry.1 := by
      simp [standardRules, Target.name]
    exact fun {_ _} hform => hforms _ (SortedMap.mem_of_get?_ofList hform) _ rfl
  constraint hform := by
    simpa [standardRules] using SortedMap.mem_of_get?_ofList hform

end Vocabulary

namespace Expression

mutual

/-- The names in an expression. -/
def outline : Expression → Outline
  | apply operator operands => .node operator.name (outlineAll operands)
  | custom className operands => .node (custom className operands).name (outlineAll operands)
  | leaf => .node leaf.name []

/-- The names in several expressions. -/
def outlineAll : List Expression → List Outline
  | [] => []
  | first :: rest => outline first :: outlineAll rest

end

theorem outlineAll_eq_map (expressions : List Expression) :
    outlineAll expressions = expressions.map outline := by
  induction expressions with
  | nil => rfl
  | cons first rest ih => rw [outlineAll, ih, List.map_cons]

theorem outline_eq (expression : Expression) :
    expression.outline = .node expression.name (expression.operands.map outline) := by
  rw [← outlineAll_eq_map]
  cases expression <;> rfl

end Expression

mutual

/-- The names in a rule. -/
def Rule.outline : Rule → Outline
  | .assign target _ expression => .node target.name [expression.outline]
  | .constraint expression => .node (Rule.constraint expression).name [expression.outline]
  | .condition branches none => .node "condition" (Branch.outlineAll branches)
  | .condition branches (some otherwise) =>
    .node "condition" (Branch.outlineAll branches ++ [.node "Else" (Rule.outlineAll otherwise)])
  | .exit scope => .node (Rule.exit scope).name []

/-- The names in several rules. -/
def Rule.outlineAll : List Rule → List Outline
  | [] => []
  | first :: rest => Rule.outline first :: Rule.outlineAll rest

/-- The names in a branch. -/
def Branch.outline : Branch → Outline
  | .mk test rules => .node "If" (test.outline :: Rule.outlineAll rules)

/-- The names in several branches. -/
def Branch.outlineAll : List Branch → List Outline
  | [] => []
  | first :: rest => Branch.outline first :: Branch.outlineAll rest

end

namespace Rule

theorem outlineAll_eq_map (rules : List Rule) : outlineAll rules = rules.map outline := by
  induction rules with
  | nil => rw [outlineAll, List.map_nil]
  | cons first rest ih => rw [outlineAll, ih, List.map_cons]

theorem branchOutline_eq (branch : Branch) :
    branch.outline = .node "If" (branch.test.outline :: branch.rules.map outline) := by
  cases branch
  rw [Branch.outline, outlineAll_eq_map]
  rfl

theorem branchOutlineAll_eq_map (branches : List Branch) :
    Branch.outlineAll branches = branches.map Branch.outline := by
  induction branches with
  | nil => rw [Branch.outlineAll, List.map_nil]
  | cons first rest ih => rw [Branch.outlineAll, ih, List.map_cons]

theorem outline_condition (branches : List Branch) (otherwise : Option (List Rule)) :
    (condition branches otherwise).outline = .node "condition" (branches.map Branch.outline ++
      (otherwise.map fun rules => .node "Else" (rules.map outline)).toList) := by
  cases otherwise <;> simp [outline, outlineAll_eq_map, branchOutlineAll_eq_map]

end Rule

namespace Element

variable (vocabulary : Vocabulary)

mutual

/-- The elements of a tree that are looked at, with the places they stand at. -/
def heeded (place : Place) : Element → List (Place × Element)
  | mk tag attributes children text =>
    (place, mk tag attributes children text) ::
      match vocabulary.inside place tag with
      | none => []
      | some (first, others) => heededAll first others children

/-- The elements of several trees that are looked at. -/
def heededAll (first others : Place) : List Element → List (Place × Element)
  | [] => []
  | element :: rest => heeded first element ++ heededAll others others rest

end

mutual

/-- The names of what the elements that are looked at build. -/
def outline (place : Place) : Element → Outline
  | mk tag _ children _ =>
    .node (vocabulary.nameAt place tag)
      (match vocabulary.inside place tag with
      | none => []
      | some (first, others) => outlineAll first others children)

/-- The names of what the elements of several trees build. -/
def outlineAll (first others : Place) : List Element → List Outline
  | [] => []
  | element :: rest => outline first element :: outlineAll others others rest

end

mutual

/-- If nothing is in the elements that are not looked into, then all elements are looked at. -/
theorem map_heeded_eq_walk : ∀ {place element},
    (∀ heed ∈ heeded vocabulary place element, vocabulary.inside heed.1 heed.2.tag = none →
      heed.2.children = []) →
    (heeded vocabulary place element).map Prod.snd = element.walk
  | place, mk tag attributes children text, h => by
    have hself := h (place, mk tag attributes children text)
    rw [heeded] at h hself ⊢
    rw [walk, List.map_cons]
    cases hinside : vocabulary.inside place tag with
    | none =>
      obtain rfl : children = [] := hself List.mem_cons_self hinside
      simp [walkAll]
    | some places =>
      rw [hinside] at h
      exact congrArg _ (map_heededAll_eq_walkAll (List.forall_mem_cons.1 h).2)

theorem map_heededAll_eq_walkAll : ∀ {first others elements},
    (∀ heed ∈ heededAll vocabulary first others elements,
      vocabulary.inside heed.1 heed.2.tag = none → heed.2.children = []) →
    (heededAll vocabulary first others elements).map Prod.snd = walkAll elements
  | _, _, [], _ => by simp [heededAll, walkAll]
  | first, others, element :: rest, h => by
    rw [heededAll, List.forall_mem_append] at h
    rw [heededAll, walkAll, List.map_append, map_heeded_eq_walk h.1, map_heededAll_eq_walkAll h.2]

end

/-- An outline represents an element: all elements that are looked at are known, and the outline has
their names. -/
def Read (place : Place) (element : Element) (outlined : Outline) : Prop :=
  (∀ heed ∈ heeded vocabulary place element, vocabulary.knowsAt heed.1 heed.2.tag = true) ∧
    outline vocabulary place element = outlined

/-- Outlines represent several elements. -/
def ReadAll (first others : Place) (elements : List Element) (outlines : List Outline) : Prop :=
  (∀ heed ∈ heededAll vocabulary first others elements,
    vocabulary.knowsAt heed.1 heed.2.tag = true) ∧
    outlineAll vocabulary first others elements = outlines

variable {vocabulary} {place first others : Place} {element : Element} {elements : List Element}
  {name : String} {outlined : Outline} {outlines : List Outline}

theorem read_node_iff :
    Read vocabulary place element (.node name outlines) ↔
      vocabulary.knowsAt place element.tag = true ∧ vocabulary.nameAt place element.tag = name ∧
        match vocabulary.inside place element.tag with
        | none => outlines = []
        | some (first, others) => ReadAll vocabulary first others element.children outlines := by
  obtain ⟨tag, attributes, children, text⟩ := element
  simp only [Read, heeded, outline, Element.tag, Element.children, List.forall_mem_cons,
    Outline.node.injEq]
  cases vocabulary.inside place tag with
  | none => simp [@eq_comm _ []]
  | some places =>
    simp only [ReadAll]
    tauto

@[simp]
theorem readAll_nil_iff : ReadAll vocabulary first others [] outlines ↔ outlines = [] := by
  simp [ReadAll, heededAll, outlineAll, @eq_comm _ []]

@[simp]
theorem readAll_cons_iff :
    ReadAll vocabulary first others (element :: elements) (outlined :: outlines) ↔
      Read vocabulary first element outlined ∧
        ReadAll vocabulary others others elements outlines := by
  simp only [ReadAll, Read, heededAll, outlineAll, List.forall_mem_append, List.cons.injEq]
  tauto

theorem readAll_of_forall₂ (h : List.Forall₂ (Read vocabulary place) elements outlines) :
    ReadAll vocabulary place place elements outlines := by
  induction h with
  | nil => simp
  | cons hfirst _ ih => exact readAll_cons_iff.2 ⟨hfirst, ih⟩

theorem sizeOf_lt_of_mem_children {child : Element} (h : child ∈ element.children) :
    sizeOf child < sizeOf element := by
  obtain ⟨tag, attributes, children, text⟩ := element
  have := List.sizeOf_lt_of_mem h
  simp only [Element.children, mk.sizeOf_spec] at this ⊢
  omega

variable {registry : Registry}

/-- An expression represents the element that builds it. -/
theorem read_of_builds_toExpression (hnamed : vocabulary.Named) (element : Element) :
    ∀ expression, Builds (toExpression vocabulary registry element) expression →
      Read vocabulary .expression element expression.outline := by
  have ih : ∀ child ∈ element.children, ∀ expression,
      Builds (toExpression vocabulary registry child) expression →
        Read vocabulary .expression child expression.outline := fun child hchild =>
    have := sizeOf_lt_of_mem_children hchild
    read_of_builds_toExpression hnamed child
  have hparts {operands : List Expression} (h : List.Forall₂ (fun element =>
      Builds (toExpression vocabulary registry element)) element.children operands) :
      ReadAll vocabulary .expression .expression element.children
        (operands.map Expression.outline) := by
    refine readAll_of_forall₂ (List.forall₂_map_right_iff.2 ?_)
    exact forall₂_of_mem h ih
  intro expression hbuilds
  rw [Expression.outline_eq, read_node_iff]
  obtain ⟨build, hform, hbuild⟩ | ⟨hform, className, operands, -, hoperands, rfl⟩ |
    ⟨hform, build, operator, operands, hoperator, hbuild, hoperands, rfl⟩ :=
    builds_toExpression_iff.1 hbuilds
  · have hleaf := hnamed.expression hform element
    rw [hbuild, yields_ok] at hleaf
    obtain ⟨hname, hoperands⟩ := hleaf
    simp [Vocabulary.knowsAt, Vocabulary.nameAt, Vocabulary.inside, SortedMap.contains, hform,
      hname, hoperands]
  · simp [Vocabulary.knowsAt, Vocabulary.nameAt, Vocabulary.inside, SortedMap.contains, hform,
      ← hnamed.custom hform, Expression.name, Expression.operands, hparts hoperands]
  · have hname := hnamed.operator hoperator element
    rw [hbuild, yields_ok] at hname
    simp [Vocabulary.knowsAt, Vocabulary.nameAt, Vocabulary.inside, SortedMap.contains, hform,
      hoperator, hname, Expression.name, Expression.operands,
      hparts hoperands]
termination_by sizeOf element

/-- Rules represent the elements that build them if each element is represented. -/
theorem readAll_of_builds (ih : ∀ child ∈ elements, ∀ rule,
      Builds (toRule vocabulary registry child) rule → Read vocabulary .rule child rule.outline)
    {rules : List Rule}
    (h : List.Forall₂ (fun child => Builds (toRule vocabulary registry child)) elements rules) :
    ReadAll vocabulary .rule .rule elements (rules.map Rule.outline) := by
  refine readAll_of_forall₂ (List.forall₂_map_right_iff.2 ?_)
  exact forall₂_of_mem h ih

/-- A branch represents the element that writes it if its rules do. -/
theorem read_of_writesBranch (hnamed : vocabulary.Named) {branch : Branch}
    (hends : BranchForm.first.Ends element.tag ∨ BranchForm.further.Ends element.tag)
    (ih : ∀ child ∈ element.children, ∀ rule, Builds (toRule vocabulary registry child) rule →
      Read vocabulary .rule child rule.outline)
    (h : WritesBranch vocabulary registry element branch) :
    Read vocabulary .branch element branch.outline := by
  obtain ⟨guard, actions, hchildren, htest, hrules⟩ := h
  have hguard := read_of_builds_toExpression hnamed guard _ htest
  have hactions := readAll_of_builds
    (fun child hchild => ih child (hchildren ▸ .tail _ hchild)) hrules
  rw [Rule.branchOutline_eq, read_node_iff]
  simp only [← BranchForm.ofTag?_eq_some_iff] at hends
  obtain hends | hends := hends <;>
    simp [Vocabulary.knowsAt, Vocabulary.nameAt, Vocabulary.inside, hends, hchildren, hguard,
      hactions]

/-- What is done otherwise represents the element that writes it if the rules do. -/
theorem read_of_writesRules {rules : List Rule}
    (hends : BranchForm.otherwise.Ends element.tag)
    (ih : ∀ child ∈ element.children, ∀ rule, Builds (toRule vocabulary registry child) rule →
      Read vocabulary .rule child rule.outline)
    (h : WritesRules vocabulary registry element rules) :
    Read vocabulary .branch element (.node "Else" (rules.map Rule.outline)) := by
  rw [← BranchForm.ofTag?_eq_some_iff] at hends
  rw [read_node_iff]
  simp [Vocabulary.knowsAt, Vocabulary.nameAt, Vocabulary.inside, hends, readAll_of_builds ih h]

/-- A rule represents the element that builds it. -/
theorem read_of_builds_toRule (hnamed : vocabulary.Named) (element : Element) :
    ∀ rule, Builds (toRule vocabulary registry element) rule →
      Read vocabulary .rule element rule.outline := by
  have ih (child : Element) (h : sizeOf child < sizeOf element) : ∀ rule,
      Builds (toRule vocabulary registry child) rule → Read vocabulary .rule child rule.outline :=
    read_of_builds_toRule hnamed child
  intro rule hbuilds
  obtain ⟨build, hform, hbuild⟩ | ⟨target, hform, identifier, expression, -, hexpression, rfl⟩ |
    ⟨hform, expression, hexpression, rfl⟩ | ⟨hform, -⟩ := builds_toRule_iff.1 hbuilds
  · have hleaf := hnamed.exit hform element
    rw [hbuild, yields_ok] at hleaf
    obtain ⟨hname, scope, rfl⟩ := hleaf
    rw [Rule.outline, read_node_iff]
    simp [Vocabulary.knowsAt, Vocabulary.nameAt, Vocabulary.inside, SortedMap.contains, hform,
      hname]
  · obtain ⟨child, hchildren, hchild⟩ := builds_onlyExpression_iff.1 hexpression
    have hread := read_of_builds_toExpression hnamed child _ hchild
    rw [Rule.outline, read_node_iff]
    simp [Vocabulary.knowsAt, Vocabulary.nameAt, Vocabulary.inside, SortedMap.contains, hform,
      hnamed.assignment hform, hchildren, hread]
  · obtain ⟨child, hchildren, hchild⟩ := builds_onlyExpression_iff.1 hexpression
    have hread := read_of_builds_toExpression hnamed child _ hchild
    rw [Rule.outline, read_node_iff]
    simp [Vocabulary.knowsAt, Vocabulary.nameAt, Vocabulary.inside, SortedMap.contains, hform,
      ← hnamed.constraint hform, Rule.name, hchildren, hread]
  · obtain ⟨first, further, last, branches, otherwise, hcondition, hbranches, hotherwise, rfl⟩ :=
      (builds_condition_iff hform).1 hbuilds
    have hmember {member : Element} (h : member ∈ first :: further ++ last.toList) :
        ∀ child ∈ member.children, ∀ rule, Builds (toRule vocabulary registry child) rule →
          Read vocabulary .rule child rule.outline := fun child hchild =>
      ih child (Nat.lt_trans (sizeOf_lt_of_mem_children hchild)
        (sizeOf_lt_of_mem_children (hcondition.elements_eq ▸ h)))
    have hends : ∀ member ∈ first :: further,
        BranchForm.first.Ends member.tag ∨ BranchForm.further.Ends member.tag :=
      List.forall_mem_cons.2
        ⟨.inl hcondition.first, fun member h => .inr (hcondition.further member h)⟩
    have hread : List.Forall₂ (Read vocabulary .branch) (first :: further)
        (branches.map Branch.outline) := by
      have hwrites : ∀ member ∈ first :: further, ∀ branch,
          WritesBranch vocabulary registry member branch →
            Read vocabulary .branch member branch.outline := fun member h branch =>
        read_of_writesBranch hnamed (hends member h) (hmember (List.mem_append_left _ h))
      rw [List.forall₂_map_right_iff]
      exact forall₂_of_mem hbranches hwrites
    have hreadLast : List.Forall₂ (Read vocabulary .branch) last.toList
        (otherwise.map fun rules => .node "Else" (rules.map Rule.outline)).toList := by
      cases hotherwise with
      | none => exact .nil
      | some hrules =>
        exact .cons (read_of_writesRules (hcondition.last _ rfl)
          (hmember (List.mem_append_right _ List.mem_cons_self)) hrules) .nil
    rw [Rule.outline_condition, read_node_iff]
    simp only [Vocabulary.knowsAt, Vocabulary.nameAt, Vocabulary.inside, SortedMap.contains, hform,
      Option.isSome_some, true_and]
    rw [hcondition.elements_eq]
    exact readAll_of_forall₂ (List.rel_append hread hreadLast)
termination_by sizeOf element

/-- A list of rules represents the element that builds it. -/
theorem read_of_builds_toProcessing (hnamed : vocabulary.Named) {rules : List Rule}
    (h : Builds (toProcessing vocabulary registry element) rules) :
    Read vocabulary .processing element (.node element.tag (rules.map Rule.outline)) := by
  rw [toProcessing] at h
  split at h
  next hprocessing =>
    rw [read_node_iff]
    exact ⟨hprocessing, rfl, readAll_of_builds (fun child _ => read_of_builds_toRule hnamed child)
      (builds_toRules_iff.1 h)⟩
  next => exact absurd h (not_builds_throw _)

/-! ### The standard elements -/

theorem steady_toProcessing (element : Element) :
    Steady (toProcessing vocabulary registry element) := by
  rw [toProcessing]
  split
  · exact steady_toRules _ _ _
  · exact steady_throw _

/-- What is built with the standard vocabulary represents all elements that are looked at, and those
are known. They are all elements of the tree if nothing is in the elements that are built without
looking inside. -/
theorem built_represents_heeded (registry : Registry) (element : Element) (log : NotificationLog) :
    (∀ expression, ((toExpression .standard registry element).run.run log).1 = .ok expression →
      Read .standard .expression element expression.outline) ∧
    (∀ rule, ((toRule .standard registry element).run.run log).1 = .ok rule →
      Read .standard .rule element rule.outline) ∧
    (∀ rules, ((toProcessing .standard registry element).run.run log).1 = .ok rules →
      Read .standard .processing element (.node element.tag (rules.map Rule.outline))) ∧
    ∀ place, (∀ heed ∈ heeded .standard place element,
        Vocabulary.standard.inside heed.1 heed.2.tag = none → heed.2.children = []) →
      (heeded .standard place element).map Prod.snd = element.walk := by
  refine ⟨fun expression hrun => ?_, fun rule hrun => ?_, fun rules hrun => ?_,
    fun place => map_heeded_eq_walk _⟩
  · exact read_of_builds_toExpression Vocabulary.named_standard element expression
      (((steady_toExpression _ _ _).builds_iff log).2 hrun)
  · exact read_of_builds_toRule Vocabulary.named_standard element rule
      (((steady_toRule _ _ _).builds_iff log).2 hrun)
  · exact read_of_builds_toProcessing Vocabulary.named_standard
      (((steady_toProcessing _).builds_iff log).2 hrun)

/-- An element of no vocabulary in one that is read by its tag alone. -/
def strayInNull : Element := .mk "null" .empty [.mk "bogus" .empty [] none] none

/-- An expression is built although an element is in it that is not known. -/
theorem not_forall_walk_known :
    ¬∀ (registry : Registry) (element : Element) (log : NotificationLog) (expression : Expression),
      ((toExpression .standard registry element).run.run log).1 = .ok expression →
        ∀ member ∈ element.walk, Vocabulary.standard.knows member.tag = true ∨
          (BranchForm.ofTag? member.tag).isSome = true := by
  intro h
  have hknown := h .empty strayInNull (.empty .info) .null rfl (.mk "bogus" .empty [] none)
    (by simp [strayInNull, walk, walkAll])
  revert hknown
  decide +kernel

end Element

end Assessment
