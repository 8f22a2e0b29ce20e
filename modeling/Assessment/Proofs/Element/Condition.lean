import Assessment.Proofs.Element.Building

/-!
# Conditions

The elements in a condition are read one after the other, and each is looked at together with what
was read before: nothing yet, branches only, or also what is done otherwise. The tags of the
elements tell their places, and one ending is the end of another: what ends in `ElseIf` ends in `If`
as well. This module says that the order that comes out of it is that of the grammar: one element
for the first branch, any number for further ones, and at most one for what is done otherwise.

## Main definitions

- `Element.IsCondition`: elements in the order of the grammar.
- `Element.WritesBranch`: the branch that an element writes.

## Main results

- `BranchForm.ofTag?_eq_some_iff`: which endings tell which place.
- `Element.builds_toBranches_open_iff`: what is read behind the first branch.
- `Element.builds_condition_iff`: the rule that a condition builds.
- `Element.toRule_condition_exact`: which conditions are built, and what they come to.
-/

namespace Assessment

open Building

namespace BranchForm

/-- The ending of a tag that tells a place in a condition. -/
def Ends (tag : String) : BranchForm → Prop
  | first => tag.endsWith "If" = true ∧ tag.endsWith "ElseIf" = false
  | further => tag.endsWith "ElseIf" = true
  | otherwise => tag.endsWith "Else" = true

theorem endsWith_iff (tag ending : String) :
    tag.endsWith ending = true ↔ ending.toList <:+ tag.toList := by
  rw [← String.endsWith_toSlice, String.Slice.endsWith_string_iff, String.copy_toSlice]

/-- No tag has two endings of which neither is the end of the other. -/
theorem endsWith_eq_false {tag ending other : String} (h : tag.endsWith ending = true)
    (hne : ¬other.toList <:+ ending.toList) (hne' : ¬ending.toList <:+ other.toList) :
    tag.endsWith other = false := by
  rw [endsWith_iff] at h
  rw [Bool.eq_false_iff, ne_eq, endsWith_iff]
  intro hother
  obtain hsuffix | hsuffix := List.suffix_or_suffix_of_suffix h hother
  · exact hne' hsuffix
  · exact hne hsuffix

theorem ofTag?_eq_some_iff {tag : String} {form : BranchForm} :
    ofTag? tag = some form ↔ Ends tag form := by
  unfold ofTag?
  by_cases hfurther : tag.endsWith "ElseIf" = true
  · have hother : tag.endsWith "Else" = false := endsWith_eq_false hfurther (by decide) (by decide)
    cases form <;> simp [Ends, hfurther, hother]
  · by_cases hfirst : tag.endsWith "If" = true
    · have hother : tag.endsWith "Else" = false := endsWith_eq_false hfirst (by decide) (by decide)
      cases form <;> simp [Ends, hfurther, hfirst, hother]
    · cases form <;> simp [Ends, hfurther, hfirst]

end BranchForm

namespace Element

variable {vocabulary : Vocabulary} {registry : Registry}

/-- Elements are in the order of a condition: one for the first branch, any number for further
branches, and at most one for what is done otherwise. -/
structure IsCondition (elements : List Element) (first : Element) (further : List Element)
    (last : Option Element) : Prop where
  /-- There are no other elements. -/
  elements_eq : elements = first :: further ++ last.toList
  /-- The first one has the ending of a first branch. -/
  first : BranchForm.first.Ends first.tag
  /-- Those behind it have the ending of a further branch. -/
  further : ∀ element ∈ further, BranchForm.further.Ends element.tag
  /-- The last one, if there is one, has the ending of what is done otherwise. -/
  last : ∀ element ∈ last, BranchForm.otherwise.Ends element.tag

/-- The branch that an element writes: its first child is the guard, the others are the rules. -/
def WritesBranch (vocabulary : Vocabulary) (registry : Registry) (element : Element)
    (branch : Branch) : Prop :=
  ∃ guard actions, element.children = guard :: actions ∧
    Builds (toExpression vocabulary registry guard) branch.test ∧
    List.Forall₂ (fun action => Builds (toRule vocabulary registry action)) actions branch.rules

/-- An element writes a branch if its first child builds an expression and the others build
rules. -/
theorem writesBranch_iff {element : Element} :
    (∃ branch, WritesBranch vocabulary registry element branch) ↔
      ∃ guard actions, element.children = guard :: actions ∧
        (∃ test, Builds (toExpression vocabulary registry guard) test) ∧
        ∀ action ∈ actions, ∃ rule, Builds (toRule vocabulary registry action) rule := by
  simp only [← exists_forall₂_iff, WritesBranch]
  constructor
  · rintro ⟨branch, guard, actions, hchildren, htest, hrules⟩
    exact ⟨guard, actions, hchildren, ⟨_, htest⟩, _, hrules⟩
  · rintro ⟨guard, actions, hchildren, ⟨test, htest⟩, rules, hrules⟩
    exact ⟨.mk test rules, guard, actions, hchildren, htest, hrules⟩

/-- The rules that an element writes: one for each child. -/
def WritesRules (vocabulary : Vocabulary) (registry : Registry) (element : Element)
    (rules : List Rule) : Prop :=
  List.Forall₂ (fun child => Builds (toRule vocabulary registry child)) element.children rules

/-! ### Reading on -/

section reading

variable {condition : String} {element : Element} {rest : List Element} {branches : List Branch}
  {otherwise : Option (List Rule)}

/-- Nothing is read behind what is done otherwise. -/
theorem builds_toBranches_closed_iff {elements : List Element} {rules : List Rule} :
    Builds (toBranches vocabulary registry condition false (some rules) elements)
        (branches, otherwise) ↔
      elements = [] ∧ branches = [] ∧ otherwise = some rules := by
  rcases elements with _ | ⟨⟨tag, attributes, children, text⟩, rest⟩
  · simp [toBranches]
  · have hfits : ∀ form, BranchForm.fits false true form = false := by
      rintro (_ | _ | _ | _) <;> rfl
    rw [toBranches.eq_def]
    simp [hfits]

/-- The place where a branch is read: the first one at the beginning, and a further one behind. -/
def branchForm (atStart : Bool) : BranchForm := if atStart then .first else .further

/-- A guard and rules are read before the branches that remain. -/
theorem builds_branch_iff {guard : Element} {actions : List Element}
    {remaining : Building (List Branch × Option (List Rule))} (h : Steady remaining) :
    Builds (do
        let test ← toExpression vocabulary registry guard
        let rules ← toRules vocabulary registry actions
        let (branches, otherwise) ← remaining
        return (.mk test rules :: branches, otherwise)) (branches, otherwise) ↔
      ∃ branch branches', Builds (toExpression vocabulary registry guard) branch.test ∧
        List.Forall₂ (fun action => Builds (toRule vocabulary registry action)) actions
          branch.rules ∧
        Builds remaining (branches', otherwise) ∧ branches = branch :: branches' := by
  have hrules := steady_toRules vocabulary registry actions
  have hpure (test : Expression) (rules : List Rule) (built : List Branch × Option (List Rule)) :
      Steady (pure (.mk test rules :: built.1, built.2)) := steady_pure _
  rw [builds_bind (steady_toExpression _ _ _) fun _ => hrules.bind fun _ => h.bind (hpure _ _)]
  simp only [builds_bind hrules fun _ => h.bind (hpure _ _), builds_bind h (hpure _ _),
    builds_toRules_iff, builds_pure, Prod.mk.injEq, Prod.exists]
  constructor
  · rintro ⟨test, htest, rules, hactions, branches', otherwise', hremaining, rfl, rfl⟩
    exact ⟨.mk test rules, branches', htest, hactions, hremaining, rfl⟩
  · rintro ⟨⟨test, rules⟩, branches', htest, hactions, hremaining, rfl⟩
    exact ⟨test, htest, rules, hactions, branches', otherwise, hremaining, rfl, rfl⟩

/-- One element is read before the rest: what is done otherwise, with nothing behind it, or a
branch of the form that its place asks for. -/
theorem builds_toBranches_cons_iff {atStart : Bool} :
    Builds (toBranches vocabulary registry condition atStart none (element :: rest))
        (branches, otherwise) ↔
      (atStart = false ∧ BranchForm.otherwise.Ends element.tag ∧ rest = [] ∧ branches = [] ∧
        ∃ rules, WritesRules vocabulary registry element rules ∧ otherwise = some rules) ∨
      ((branchForm atStart).Ends element.tag ∧ ∃ branch branches',
        WritesBranch vocabulary registry element branch ∧
        Builds (toBranches vocabulary registry condition false none rest) (branches', otherwise) ∧
        branches = branch :: branches') := by
  obtain ⟨tag, attributes, children, text⟩ := element
  have hrest (otherwise) := steady_toBranches vocabulary registry condition false otherwise rest
  have hrules := steady_toRules vocabulary registry children
  simp only [← BranchForm.ofTag?_eq_some_iff, Element.tag]
  rw [toBranches.eq_def]
  dsimp only [Option.isSome_none]
  rcases BranchForm.ofTag? tag with _ | _ | _ | _ <;> cases atStart
  case some.otherwise.false =>
    simp [branchForm, BranchForm.fits, builds_bind hrules fun _ => hrest _,
      builds_toBranches_closed_iff, builds_toRules_iff, WritesRules, Element.children]
    tauto
  case some.first.true | some.further.false =>
    cases children with
    | nil => simp [branchForm, BranchForm.fits, WritesBranch, Element.children]
    | cons guard actions =>
      simp [-bind_pure_comp, branchForm, BranchForm.fits, WritesBranch, Element.children,
        builds_branch_iff (hrest none), and_assoc]
  -- elsewhere the element does not stand at its place
  all_goals simp [branchForm, BranchForm.fits]

/-- Behind the first branch stand any number of further ones, and at most one element for what is
done otherwise. -/
theorem builds_toBranches_open_iff {elements : List Element} :
    Builds (toBranches vocabulary registry condition false none elements) (branches, otherwise) ↔
      ∃ further last, elements = further ++ last.toList ∧
        (∀ element ∈ further, BranchForm.further.Ends element.tag) ∧
        (∀ element ∈ last, BranchForm.otherwise.Ends element.tag) ∧
        List.Forall₂ (WritesBranch vocabulary registry) further branches ∧
        Option.Rel (WritesRules vocabulary registry) last otherwise := by
  induction elements generalizing branches with
  | nil =>
    rw [toBranches, builds_pure, Prod.mk.injEq]
    constructor
    · rintro ⟨rfl, rfl⟩
      exact ⟨[], none, rfl, by simp, by simp, .nil, .none⟩
    · rintro ⟨further, last, helements, -, -, hbranches, hotherwise⟩
      obtain ⟨rfl, hlast⟩ := List.append_eq_nil_iff.1 helements.symm
      obtain rfl := Option.toList_eq_nil_iff.1 hlast
      cases hbranches
      cases hotherwise
      exact ⟨rfl, rfl⟩
  | cons element rest ih =>
    simp only [builds_toBranches_cons_iff, ih, branchForm]
    constructor
    · rintro (⟨-, hends, rfl, rfl, rules, hrules, rfl⟩ | ⟨hends, branch, branches', hbranch,
        ⟨further, last, rfl, hfurther, hlast, hbranches, hotherwise⟩, rfl⟩)
      · exact ⟨[], some element, rfl, by simp, by simpa using hends, .nil, .some hrules⟩
      · exact ⟨element :: further, last, rfl, List.forall_mem_cons.2 ⟨hends, hfurther⟩, hlast,
          .cons hbranch hbranches, hotherwise⟩
    · rintro ⟨further, last, helements, hfurther, hlast, hbranches, hotherwise⟩
      cases hbranches with
      | nil =>
        -- the first of the elements is the last one
        cases hotherwise with
        | none => cases helements
        | some hrules =>
          cases helements
          exact .inl ⟨trivial, hlast _ rfl, rfl, rfl, _, hrules, rfl⟩
      | cons hbranch hbranches =>
        cases helements
        obtain ⟨hends, hfurther⟩ := List.forall_mem_cons.1 hfurther
        exact .inr ⟨hends, _, _, hbranch, ⟨_, _, rfl, hfurther, hlast, hbranches, hotherwise⟩, rfl⟩

end reading

/-- The rule that a condition builds: one branch for each of its elements but the last, in their
order, and the rules of the last one for what is done otherwise. -/
theorem builds_condition_iff {element : Element} {rule : Rule}
    (h : vocabulary.rules.get? element.tag = some .condition) :
    Builds (toRule vocabulary registry element) rule ↔
      ∃ first further last branches otherwise, IsCondition element.children first further last ∧
        List.Forall₂ (WritesBranch vocabulary registry) (first :: further) branches ∧
        Option.Rel (WritesRules vocabulary registry) last otherwise ∧
        rule = .condition branches otherwise := by
  simp only [builds_toRule_iff, h, Option.some.injEq, reduceCtorEq, false_and, exists_false,
    false_or, true_and]
  constructor
  · rintro ⟨branches, otherwise, hbranches, hne, rfl⟩
    cases helements : element.children with
    | nil =>
      rw [helements, toBranches, builds_pure] at hbranches
      exact absurd (congrArg Prod.fst hbranches) hne
    | cons first rest =>
      rw [helements, builds_toBranches_cons_iff] at hbranches
      obtain ⟨hstart, -⟩ | ⟨hfirst, branch, branches', hbranch, hrest, rfl⟩ := hbranches
      · cases hstart
      · obtain ⟨further, last, rfl, hfurther, hlast, hbranches, hotherwise⟩ :=
          builds_toBranches_open_iff.1 hrest
        exact ⟨first, further, last, _, otherwise, ⟨rfl, hfirst, hfurther, hlast⟩,
          .cons hbranch hbranches, hotherwise, rfl⟩
  · rintro ⟨first, further, last, branches, otherwise, hcondition, hbranches, hotherwise, rfl⟩
    cases hbranches with
    | cons hbranch hbranches =>
      refine ⟨_, otherwise, ?_, List.cons_ne_nil _ _, rfl⟩
      rw [hcondition.elements_eq, List.cons_append, builds_toBranches_cons_iff]
      exact .inr ⟨hcondition.first, _, _, hbranch, builds_toBranches_open_iff.2
        ⟨further, last, rfl, hcondition.further, hcondition.last, hbranches, hotherwise⟩, rfl⟩

/-- A condition is built exactly if its elements are in the order of the grammar, all but the last
have a guard that builds an expression before children that build rules, and all children of the
last one build rules. What is built then has one branch for each element but the last, in their
order and with its own guard and rules, and rules for the other case exactly if there is a last
element, which are those of its children. -/
theorem toRule_condition_exact (vocabulary : Vocabulary) (registry : Registry) (element : Element)
    (log : NotificationLog) (h : vocabulary.rules.get? element.tag = some .condition) :
    ((∃ rule, ((toRule vocabulary registry element).run.run log).1 = .ok rule) ↔
      ∃ first further last, IsCondition element.children first further last ∧
        (∀ member ∈ first :: further, ∃ guard actions, member.children = guard :: actions ∧
          (∃ test, Builds (toExpression vocabulary registry guard) test) ∧
          ∀ action ∈ actions, ∃ rule, Builds (toRule vocabulary registry action) rule) ∧
        ∀ member ∈ last, ∀ child ∈ member.children,
          ∃ rule, Builds (toRule vocabulary registry child) rule) ∧
    ∀ rule, ((toRule vocabulary registry element).run.run log).1 = .ok rule →
      ∃ first further last branches otherwise, IsCondition element.children first further last ∧
        rule = .condition branches otherwise ∧
        List.Forall₂ (WritesBranch vocabulary registry) (first :: further) branches ∧
        Option.Rel (WritesRules vocabulary registry) last otherwise := by
  simp only [← (steady_toRule vocabulary registry element).builds_iff log, builds_condition_iff h]
  refine ⟨⟨?_, ?_⟩, ?_⟩
  · rintro ⟨rule, first, further, last, branches, otherwise, hcondition, hbranches, hotherwise, -⟩
    refine ⟨first, further, last, hcondition, ?_, ?_⟩
    · exact fun member hmember =>
        writesBranch_iff.1 (exists_forall₂_iff.1 ⟨branches, hbranches⟩ member hmember)
    · rintro member hmember
      cases hotherwise with
      | none => cases hmember
      | some hrules =>
        cases hmember
        exact exists_forall₂_iff.1 ⟨_, hrules⟩
  · rintro ⟨first, further, last, hcondition, hbranches, hlast⟩
    obtain ⟨branches, hbranches⟩ := exists_forall₂_iff.2
      fun member hmember => writesBranch_iff.2 (hbranches member hmember)
    have hotherwise : ∃ otherwise, Option.Rel (WritesRules vocabulary registry) last otherwise := by
      cases last with
      | none => exact ⟨none, .none⟩
      | some member =>
        obtain ⟨rules, hrules⟩ := exists_forall₂_iff.2 (hlast member rfl)
        exact ⟨some rules, .some hrules⟩
    obtain ⟨otherwise, hotherwise⟩ := hotherwise
    exact ⟨_, first, further, last, branches, otherwise, hcondition, hbranches, hotherwise, rfl⟩
  · rintro rule ⟨first, further, last, branches, otherwise, hcondition, hbranches, hotherwise, rfl⟩
    exact ⟨first, further, last, branches, otherwise, hcondition, rfl, hbranches, hotherwise⟩

/-- A condition in what another one does otherwise. -/
def nestedCondition : Element :=
  .mk "responseCondition" .empty
    [.mk "responseIf" .empty
        [.mk "null" .empty [] none, .mk "exitResponse" .empty [] none] none,
      .mk "responseElse" .empty
        [.mk "responseCondition" .empty
          [.mk "responseIf" .empty [.mk "null" .empty [] none] none,
            .mk "responseElseIf" .empty [.mk "null" .empty [] none] none] none] none]
    none

/-- The nested condition is built as two conditions, the inner one of which has no other case. -/
theorem toRule_condition_exact_nested :
    Vocabulary.standard.rules.get? nestedCondition.tag = some .condition ∧
      ∃ first further last branches otherwise,
        IsCondition nestedCondition.children first further last ∧
        Rule.condition [.mk .null [.exit .response]]
          (some [.condition [.mk .null [], .mk .null []] none]) = .condition branches otherwise ∧
        List.Forall₂ (WritesBranch .standard .empty) (first :: further) branches ∧
        Option.Rel (WritesRules .standard .empty) last otherwise :=
  ⟨rfl, (toRule_condition_exact .standard .empty nestedCondition (.empty .info) rfl).2 _
    (by with_unfolding_all rfl)⟩

end Element

end Assessment
