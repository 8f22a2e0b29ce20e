import Assessment.Proofs.Item.Stock
import Assessment.Proofs.Plan.Building
import Assessment.Validation.Basic

/-!
# What validation rules out

A definition in which validation finds no errors has the properties that its sessions build on. The
findings of a definition are put together from those of its parts, so a definition without errors
has only parts without errors; each property is then read off the check that is made for it.

## Main definitions

- `TestDefinition.WellFormed`: what the sessions of a test build on.

## Main results

- `ItemDefinition.standsAlone_of_validate`: the rules of an item without errors make sense outside
  of tests.
- `ItemDefinition.wellNamed_of_validate` and `ItemDefinition.conforms_defaultValue_of_validate`: the
  variables of an item without errors have different names and defaults of their types.
- `TestDefinition.wellFormed_of_validate`: a test without errors is well-formed.
-/

namespace Assessment

namespace Findings

variable {α : Type} {findings first second : Findings}

theorem errors_singleton_eq_nil {source : String} {problem : Problem} :
    errors [⟨source, problem⟩] = [] ↔ problem.isWarning = true := by
  rw [errors, List.filter_eq_nil_iff]
  simp

theorem errors_ite_eq_nil {c : Prop} [Decidable c] {source : String} {problem : Problem} :
    errors (if c then [⟨source, problem⟩] else []) = [] ↔ (c → problem.isWarning = true) := by
  by_cases h : c
  · rw [if_pos h, errors_singleton_eq_nil]
    exact ⟨fun hwarning _ => hwarning, fun hwarning => hwarning h⟩
  · rw [if_neg h]
    exact iff_of_true rfl fun hc => absurd hc h

theorem errors_append_eq_nil :
    errors (first ++ second) = [] ↔ first.errors = [] ∧ second.errors = [] := by
  rw [errors, List.filter_append, List.append_eq_nil_iff]
  rfl

theorem errors_flatMap_eq_nil {members : List α} {check : α → Findings} :
    errors (members.flatMap check) = [] ↔ ∀ a ∈ members, (check a).errors = [] := by
  rw [errors, List.filter_flatMap, List.flatMap_eq_nil_iff]
  rfl

theorem errors_map_inside_eq_nil {outer : String} :
    errors (findings.map (.inside outer)) = [] ↔ findings.errors = [] := by
  rw [errors, List.filter_map, List.map_eq_nil_iff]
  rfl

theorem errors_map_at_eq_nil {source : String} {problems : List Problem} :
    errors (problems.map (⟨source, ·⟩)) = [] ↔ ∀ problem ∈ problems, problem.isWarning = true := by
  rw [errors, List.filter_map, List.map_eq_nil_iff, List.filter_eq_nil_iff]
  refine forall₂_congr fun problem _ => ?_
  cases hwarning : problem.isWarning <;> simp [hwarning]

end Findings

open Findings

variable {registry : Registry}

/-! ### Items -/

namespace Subject

variable {item : ItemDefinition}

/-- An expression of an item without errors makes sense outside of tests. -/
theorem not_isTestOnly_of_checkExpression {source : String} {expression : Expression}
    (h : ((ofItem item).checkExpression registry source expression).errors = []) :
    ∀ node ∈ expression.walk, node.isTestOnly = false := by
  intro node hnode
  have hchecked := errors_flatMap_eq_nil.1 h node hnode
  cases htest : node.isTestOnly with
  | false => rfl
  | true =>
    have hadmits : (ofItem item).admits node = false := by rw [admits, htest]; rfl
    rw [hadmits] at hchecked
    cases hchecked

/-- The rules of an item without errors make sense outside of tests. -/
theorem admitted_of_checkRules {kind : ProcessingKind} {rules : List Rule}
    (h : ((ofItem item).checkRules registry kind rules).errors = []) :
    Rule.Admitted (fun expression => ∀ node ∈ expression.walk, node.isTestOnly = false)
      (Rule.walkAll rules) := by
  intro rule hrule expression hexpression
  obtain ⟨-, hexpressions⟩ := errors_append_eq_nil.1 (errors_flatMap_eq_nil.1 h rule hrule)
  exact not_isTestOnly_of_checkExpression (errors_flatMap_eq_nil.1 hexpressions _ hexpression)

/-- The name of a declaration without errors is its own. -/
theorem of_nameProblem? {seen : List Identifier} {name : Identifier}
    (h : ∀ problem ∈ nameProblem? seen name, problem.isWarning = true) :
    BuiltIn.ofName? name.text = none ∧ name ∉ seen := by
  unfold nameProblem? at h
  split at h
  next => cases h _ rfl
  next hbuiltIn =>
    rw [Option.not_isSome_iff_eq_none] at hbuiltIn
    split at h
    next => cases h _ rfl
    next hseen => exact ⟨hbuiltIn, fun hmem => hseen (List.contains_iff_mem.2 hmem)⟩

/-- The default of a declaration without errors is of its type, if there are values of its type. -/
theorem of_valueProblem? {declaration : Declaration}
    (h : ∀ problem ∈ valueProblem? declaration, problem.isWarning = true)
    (hvalid : declaration.signature.isValid = true) :
    ∀ value ∈ declaration.defaultValue, value.conforms declaration.signature = true := by
  unfold valueProblem? at h
  simp only [hvalid, Bool.not_true, Bool.false_eq_true, ↓reduceIte] at h
  split at h
  next hdefault =>
    intro value hvalue
    rw [Option.mem_def.1 hvalue] at hdefault
    exact hdefault
  next => cases h _ rfl

/-- Declarations without errors have names of their own and defaults of their types. -/
theorem of_checkDeclarations {seen : List Identifier} {declarations : List Declaration}
    (h : (checkDeclarations seen declarations).errors = []) :
    (declarations.map (·.identifier)).Nodup ∧
      ∀ declaration ∈ declarations, declaration.identifier ∉ seen ∧
        BuiltIn.ofName? declaration.identifier.text = none ∧
        (declaration.signature.isValid = true →
          ∀ value ∈ declaration.defaultValue, value.conforms declaration.signature = true) := by
  induction declarations generalizing seen with
  | nil =>
    refine ⟨.nil, fun declaration hdeclaration => ?_⟩
    cases hdeclaration
  | cons first rest ih =>
    rw [checkDeclarations, errors_append_eq_nil, errors_map_at_eq_nil] at h
    obtain ⟨hproblems, hrest⟩ := h
    obtain ⟨hnodup, hdeclarations⟩ := ih hrest
    obtain ⟨hbuiltIn, hseen⟩ := of_nameProblem? fun problem hproblem =>
      hproblems problem (List.mem_append_left _ (Option.mem_toList.2 hproblem))
    have hvalue := of_valueProblem? fun problem hproblem =>
      hproblems problem (List.mem_append_right _ (Option.mem_toList.2 hproblem))
    refine ⟨List.nodup_cons.2 ⟨fun hmem => ?_, hnodup⟩, fun declaration hdeclaration => ?_⟩
    · obtain ⟨other, hother, hname⟩ := List.mem_map.1 hmem
      exact (hdeclarations other hother).1 (hname ▸ List.mem_cons_self)
    · obtain rfl | hdeclaration := List.mem_cons.1 hdeclaration
      · exact ⟨hseen, hbuiltIn, hvalue⟩
      · obtain ⟨hother, hholds⟩ := hdeclarations declaration hdeclaration
        exact ⟨fun hmem => hother (List.mem_cons_of_mem _ hmem), hholds⟩

end Subject

/-- An item has no errors if none of its checks finds one. -/
theorem ItemDefinition.errors_validate_eq_nil {item : ItemDefinition} :
    (item.validate registry).errors = [] ↔
      (∀ declaration ∈ item.responses, (checkCorrect declaration).errors = []) ∧
      (Subject.checkDeclarations [] item.declarations).errors = [] ∧
      (∀ interaction ∈ item.interactions,
        (item.checkInteraction registry interaction).errors = []) ∧
      ((Subject.ofItem item).checkRules registry .template
        item.templateProcessing).errors = [] ∧
      ((Subject.ofItem item).checkRules registry .response
        item.responseProcessing).errors = [] := by
  simp only [validate, errors_append_eq_nil, errors_flatMap_eq_nil, and_assoc]

/-- The variables of an item without errors have different names. -/
theorem ItemDefinition.wellNamed_of_validate {item : ItemDefinition}
    (h : (item.validate registry).errors = []) : item.WellNamed := by
  obtain ⟨hnodup, hdeclarations⟩ := Subject.of_checkDeclarations (errors_validate_eq_nil.1 h).2.1
  rw [WellNamed, allVariables, List.map_append, List.nodup_append]
  refine ⟨by decide +kernel, hnodup, ?_⟩
  -- No declared name is that of a built-in variable.
  rintro name hbuiltIn _ hdeclared rfl
  obtain ⟨declaration, hmem, hname⟩ := List.mem_map.1 hdeclared
  obtain ⟨_, hmem', rfl⟩ := List.mem_map.1 hbuiltIn
  obtain ⟨builtIn, -, rfl⟩ := List.mem_map.1 hmem'
  have hnone := (hdeclarations declaration hmem).2.1
  have hsome : BuiltIn.ofName? declaration.identifier.text = some builtIn :=
    BuiltIn.ofName?_eq_some_iff.2 (congrArg Identifier.text hname).symm
  rw [hsome] at hnone
  cases hnone

/-- The defaults that an item without errors declares are of the declared types. -/
theorem ItemDefinition.conforms_defaultValue_of_validate {item : ItemDefinition}
    (h : (item.validate registry).errors = []) :
    ∀ declaration ∈ item.declarations, declaration.signature.isValid = true →
      ∀ value ∈ declaration.defaultValue, value.conforms declaration.signature = true := by
  have hdeclarations := (Subject.of_checkDeclarations (errors_validate_eq_nil.1 h).2.1).2
  exact fun declaration hmem => (hdeclarations declaration hmem).2.2

/-- The rules of an item without errors make sense outside of tests. -/
theorem ItemDefinition.standsAlone_of_validate {item : ItemDefinition}
    (h : (item.validate registry).errors = []) : item.StandsAlone := by
  obtain ⟨-, -, -, htemplate, hresponse⟩ := errors_validate_eq_nil.1 h
  exact ⟨Subject.admitted_of_checkRules htemplate, Subject.admitted_of_checkRules hresponse⟩

/-! ### Tests -/

namespace TestDefinition

variable {test : TestDefinition}

/-- Where no name stood before, all are different. -/
theorem nodup_of_repeats {names seen : List Identifier} (h : repeats seen names = []) :
    names.Nodup ∧ ∀ name ∈ names, name ∉ seen := by
  induction names generalizing seen with
  | nil => exact ⟨.nil, nofun⟩
  | cons first rest ih =>
    rw [repeats] at h
    split at h
    next => cases h
    next hfirst =>
      obtain ⟨hrest, hseen⟩ := ih h
      refine ⟨List.nodup_cons.2 ⟨fun hmem => hseen first hmem List.mem_cons_self, hrest⟩, ?_⟩
      intro name hname
      obtain rfl | hname := List.mem_cons.1 hname
      · exact fun hmem => hfirst (List.contains_iff_mem.2 hmem)
      · exact fun hmem => hseen name hname (List.mem_cons_of_mem _ hmem)

/-- What the sessions of a test build on. -/
structure WellFormed (test : TestDefinition) : Prop where
  /-- No two references to items have one name. -/
  names : (test.itemRefs.map ItemRef.identifier).Nodup
  /-- The test has an item for every reference. -/
  resolves : ∀ ref ∈ test.itemRefs, TestPlan.Resolves test ref
  /-- The rules of its items make sense outside of tests. -/
  items : ∀ item ∈ test.items, item.StandsAlone

/-- No two references to items of a test without errors have one name. -/
theorem nodup_of_checkNames (h : test.checkNames.errors = []) :
    (test.itemRefs.map ItemRef.identifier).Nodup := by
  obtain ⟨hnames, -⟩ := errors_append_eq_nil.1 h
  -- The names of references come last among the names of the structure, so they differ too.
  have hrepeats : repeats [] test.structureNames = [] := by
    cases hnamed : repeats [] test.structureNames with
    | nil => rfl
    | cons name rest =>
      rw [hnamed] at hnames
      cases hnames
  exact (List.nodup_append.1 (nodup_of_repeats hrepeats).1).2.1

/-- A test without errors has an item for every reference. -/
theorem resolves_of_checkItemRef (hnames : (test.itemRefs.map ItemRef.identifier).Nodup)
    {ref : ItemRef} (href : ref ∈ test.itemRefs)
    (h : (test.checkItemRef ref.identifier).errors = []) : TestPlan.Resolves test ref := by
  have hfound : test.itemRef? ref.identifier = some ref := find?_name_of_mem hnames href
  rw [checkItemRef, resolveItem, hfound] at h
  cases hitem : test.item? ref.item with
  | some item => exact Option.isSome_of_eq_some hitem
  | none =>
    dsimp only at h
    rw [hitem] at h
    cases h

/-- A test has no errors if none of its checks finds one. -/
theorem errors_validate_eq_nil :
    (test.validate registry).errors = [] ↔
      (Subject.checkDeclarations [] (test.outcomes.map .outcome)).errors = [] ∧
      test.parts.isEmpty = false ∧ test.checkNames.errors = [] ∧
      (∀ ref ∈ test.itemRefs, (test.checkItemRef ref.identifier).errors = [] ∧
        (test.checkConditions registry ref.identifier ref.preConditions).errors = []) ∧
      (∀ entry ∈ test.parts.zipIdx, (test.checkPart registry entry).errors = []) ∧
      ((Subject.ofTest test).checkRules registry .outcome test.outcomeProcessing).errors = [] ∧
      ∀ item ∈ test.items, (item.validate registry).errors = [] := by
  simp only [validate, checkItems, errors_append_eq_nil, errors_flatMap_eq_nil, errors_ite_eq_nil,
    errors_map_inside_eq_nil, and_assoc, Problem.isWarning, Bool.false_eq_true, imp_false,
    Bool.not_eq_true]

/-- A test without errors is well-formed. -/
theorem wellFormed_of_validate (h : (test.validate registry).errors = []) : test.WellFormed := by
  obtain ⟨-, -, hnames, hrefs, -, -, hitems⟩ := errors_validate_eq_nil.1 h
  have hnames := nodup_of_checkNames hnames
  refine ⟨hnames, fun ref href => ?_, fun item hitem => ?_⟩
  · exact resolves_of_checkItemRef hnames href (hrefs ref href).1
  · exact ItemDefinition.standsAlone_of_validate (hitems item hitem)

end TestDefinition

end Assessment
