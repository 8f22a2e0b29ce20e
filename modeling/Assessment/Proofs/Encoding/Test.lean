import Assessment.Proofs.Encoding.Item
import Assessment.Proofs.Plan.Building
import Assessment.Test.Encoding

/-!
# Definitions that read back

A test is written with its parts, their sections and references, and with its items. It reads back
if all its numbers are finite, so that definitions are told apart by their JSON, from which digests
are taken. Names that are no identifiers and containers of several base types do not come up among
definitions; the JSON of such a container is refused.

## Main definitions

- `TestDefinition.IsFinite`: a test whose numbers are finite.

## Main results

- `TestDefinition.IsFinite.readsBack`: finite tests read back.
- `Container.ofJson?_eq_none_of_mem`: containers of several base types are refused.
- `definitions_readBack`: items and tests read back, and are told apart by their JSON.
-/

namespace Assessment

open Datum

/-! ### Control and references -/

theorem NavigationMode.readsBack (mode : NavigationMode) :
    ReadsBack (fun mode : NavigationMode => .str mode.name) (oneOf? NavigationMode.names) mode := by
  intro place
  cases mode <;> rfl

theorem SubmissionMode.readsBack (mode : SubmissionMode) :
    ReadsBack (fun mode : SubmissionMode => .str mode.name) (oneOf? SubmissionMode.names) mode := by
  intro place
  cases mode <;> rfl

theorem ItemSessionControl.readsBack (control : ItemSessionControl) :
    ReadsBack ItemSessionControl.toJson ItemSessionControl.ofJson? control := by
  intro place
  have hattempts := ReadsBack.option control.maxAttempts (fun _ => rfl) fun n _ =>
    readsBack_uint32 n
  have hbool : ∀ b : Option Bool, ReadsBack (Json.ofOption Json.bool) (option? bool?) b := fun b =>
    .option b (fun _ => rfl) fun b _ => readsBack_bool b
  refine bind_fields ?_
  refine bind_optional (by rfl) (hattempts _) ?_
  refine bind_optional (by rfl) (hbool control.allowSkipping _) ?_
  exact bind_optional (by rfl) (hbool control.validateResponses _) rfl

theorem readsBack_control? (control : Option ItemSessionControl) :
    ReadsBack (Json.ofOption ItemSessionControl.toJson) (option? ItemSessionControl.ofJson?)
      control :=
  .option control (fun _ => rfl) fun control _ => control.readsBack

theorem Weight.readsBack {weight : Weight} (h : weight.value.isFinite = true) :
    ReadsBack Weight.toJson Weight.ofJson? weight := by
  intro place
  refine bind_fields ?_
  refine bind_required (by rfl) (readsBack_identifier weight.identifier _) ?_
  exact bind_required (by rfl) (readsBack_float h _) rfl

/-- The numbers that are written in a reference to an item are finite. -/
structure ItemRef.IsFinite (ref : ItemRef) : Prop where
  /-- The weights are finite. -/
  weights : ∀ weight ∈ ref.weights, weight.value.isFinite = true
  /-- The conditions have finite numbers. -/
  preConditions : ∀ condition ∈ ref.preConditions, condition.IsFiniteTree

theorem ItemRef.IsFinite.ofJson?_fieldsJson {ref : ItemRef} (h : ref.IsFinite) (place : Place) :
    ItemRef.ofJson? ⟨.obj ref.fieldsJson, place⟩ = some ref := by
  have hweights := ReadsBack.list fun weight hmem => Weight.readsBack (h.weights weight hmem)
  have hconditions := Expression.list?_toJsonAll fun condition hmem =>
    (h.preConditions condition hmem).readsBack
  refine bind_fields ?_
  refine bind_required (by rfl) (readsBack_identifier ref.identifier _) ?_
  refine bind_required (by rfl) (readsBack_identifier ref.item _) ?_
  refine bind_defaulted (by rfl) (hweights _) ?_
  refine bind_defaulted (by rfl) (hconditions _) ?_
  refine bind_optional (by rfl) (readsBack_control? ref.control _) ?_
  exact bind_defaulted (by rfl) (readsBack_names ref.categories _) rfl

/-! ### Sections -/

namespace SectionPart

variable {part : SectionPart} {parts : List SectionPart}

theorem toJsonAll_eq_map (parts : List SectionPart) : toJsonAll parts = parts.map toJson := by
  induction parts with
  | nil => rfl
  | cons first rest ih => rw [toJsonAll, ih, List.map_cons]

theorem itemRefsAll_eq_flatMap (parts : List SectionPart) :
    itemRefsAll parts = parts.flatMap itemRefs := by
  induction parts with
  | nil => rfl
  | cons first rest ih => rw [itemRefsAll, ih, List.flatMap_cons]

/-- What stands in a section is nested less deep than the section. -/
theorem depth_lt_of_mem (h : part ∈ parts) (head : SectionHead) :
    part.toJson.depth < (Json.obj (head.fieldsJson (toJsonAll parts))).depth := by
  have hdepth : part.toJson.depth ≤ Json.depthItems (toJsonAll parts) := by
    rw [toJsonAll_eq_map]
    exact Json.depth_le_depthItems (List.mem_map_of_mem h)
  simp only [SectionHead.fieldsJson, Json.depth, Json.depthFields]
  omega

/-- A section reads back if what stands in it does. -/
theorem ofJsonWith?_fieldsJson {decode : Datum → Option SectionPart}
    (h : ∀ part ∈ parts, ReadsBack toJson decode part) (head : SectionHead) (place : Place) :
    Section.ofJsonWith? decode ⟨.obj (head.fieldsJson (toJsonAll parts)), place⟩ =
      some ⟨head, parts⟩ := by
  have hparts : list? decode ⟨.arr (toJsonAll parts), place⟩ = some parts := by
    rw [toJsonAll_eq_map]
    exact ReadsBack.list h place
  refine bind_fields ?_
  refine bind_required (by rfl) (readsBack_identifier head.identifier _) ?_
  refine bind_defaulted (by rfl) (readsBack_str head.title _) ?_
  refine bind_defaulted (by rfl) (readsBack_bool head.visible _) ?_
  refine bind_optional (by rfl) (readsBack_control? head.control _) ?_
  exact bind_defaulted (by rfl) hparts rfl

/-- What stands in a section reads back if its references are finite, within any bound that it is no
deeper than. -/
theorem readsBack_within {bound : Nat} (h : ∀ ref ∈ part.itemRefs, ref.IsFinite)
    (hdepth : part.toJson.depth ≤ bound) : ReadsBack toJson (ofJsonWithin bound) part := by
  induction bound generalizing part with
  | zero => cases part <;> cases hdepth
  | succ bound ih =>
    intro place
    cases part with
    | nested head parts =>
      -- The fields of a nested section stand beside its tag, which adds nothing to the depth.
      have hparts : ∀ part ∈ parts, ReadsBack toJson (ofJsonWithin bound) part := by
        intro part hmem
        have hdeep := depth_lt_of_mem hmem head
        refine ih (fun ref href => h ref ?_)
          (Nat.le_of_lt_succ (Nat.lt_of_lt_of_le hdeep (Nat.le_trans ?_ hdepth)))
        · rw [itemRefs, itemRefsAll_eq_flatMap]
          exact List.mem_flatMap.2 ⟨part, hmem, href⟩
        · simp only [toJson, Json.tagged, Json.depth, Json.depthFields]
          omega
      have hsection := ofJsonWith?_fieldsJson hparts head .tagged
      refine bind_variant (by rfl) ?_
      exact congrArg (Option.map fun s : Section => nested s.head s.parts) hsection
    | itemRef ref =>
      have href := (h ref (List.mem_singleton_self ref)).ofJson?_fieldsJson .tagged
      exact bind_variant (by rfl) (congrArg (Option.map itemRef) href)

end SectionPart

theorem Section.readsBack {s : Section}
    (h : ∀ ref ∈ SectionPart.itemRefsAll s.parts, ref.IsFinite) :
    ReadsBack Section.toJson Section.ofJson? s := by
  intro place
  refine SectionPart.ofJsonWith?_fieldsJson (fun part hmem => ?_) s.head place
  refine SectionPart.readsBack_within (fun ref href => h ref ?_)
    (Nat.le_of_lt (SectionPart.depth_lt_of_mem hmem s.head))
  rw [SectionPart.itemRefsAll_eq_flatMap]
  exact List.mem_flatMap.2 ⟨part, hmem, href⟩

/-! ### Parts and tests -/

theorem BranchRule.readsBack {rule : BranchRule} (h : rule.expression.IsFiniteTree) :
    ReadsBack BranchRule.toJson BranchRule.ofJson? rule := by
  intro place
  refine bind_fields ?_
  refine bind_required (by rfl) (readsBack_identifier rule.target _) ?_
  exact bind_required (by rfl) (h.readsBack _) rfl

/-- The numbers that are written in a part of a test are finite. -/
structure TestPart.IsFinite (part : TestPart) : Prop where
  /-- The conditions of the part have finite numbers. -/
  preConditions : ∀ condition ∈ part.preConditions, condition.IsFiniteTree
  /-- The conditions of branches have finite numbers. -/
  branchRules : ∀ rule ∈ part.branchRules, rule.expression.IsFiniteTree
  /-- The references in its sections are finite. -/
  itemRefs : ∀ ref ∈ part.itemRefs, ref.IsFinite

theorem TestPart.IsFinite.readsBack {part : TestPart} (h : part.IsFinite) :
    ReadsBack TestPart.toJson TestPart.ofJson? part := by
  intro place
  have hconditions := Expression.list?_toJsonAll fun condition hmem =>
    (h.preConditions condition hmem).readsBack
  have hbranches := ReadsBack.list fun rule hmem => BranchRule.readsBack (h.branchRules rule hmem)
  have hsections := ReadsBack.list fun s hmem => Section.readsBack fun ref href =>
    h.itemRefs ref (List.mem_flatMap.2 ⟨s, hmem, href⟩)
  refine bind_fields ?_
  refine bind_required (by rfl) (readsBack_identifier part.identifier _) ?_
  refine bind_defaulted (by rfl) (part.navigation.readsBack _) ?_
  refine bind_defaulted (by rfl) (part.submission.readsBack _) ?_
  refine bind_defaulted (by rfl) (hconditions _) ?_
  refine bind_defaulted (by rfl) (hbranches _) ?_
  refine bind_optional (by rfl) (readsBack_control? part.control _) ?_
  exact bind_defaulted (by rfl) (hsections _) rfl

/-- All numbers that are written in a test and in its items are finite. -/
structure TestDefinition.IsFinite (test : TestDefinition) : Prop where
  /-- The declared outcome variables are finite. -/
  outcomes : ∀ d ∈ test.outcomes, d.IsFinite
  /-- The rules of outcome processing have finite literals. -/
  outcomeProcessing : Rule.Admitted Expression.IsFiniteTree (Rule.walkAll test.outcomeProcessing)
  /-- The parts are finite. -/
  parts : ∀ part ∈ test.parts, part.IsFinite
  /-- The items are finite. -/
  items : ∀ item ∈ test.items, item.IsFinite

/-- A finite test reads back. -/
theorem TestDefinition.IsFinite.readsBack {test : TestDefinition} (h : test.IsFinite) :
    ReadsBack TestDefinition.toJson TestDefinition.ofJson? test := by
  intro place
  have houtcomes := ReadsBack.list fun d hd => (h.outcomes d hd).readsBack
  have hparts := ReadsBack.list fun part hmem => (h.parts part hmem).readsBack
  have hitems := ReadsBack.list fun item hmem => (h.items item hmem).readsBack
  refine bind_fields ?_
  refine bind_required (by rfl) (readsBack_identifier test.identifier _) ?_
  refine bind_defaulted (by rfl) (readsBack_str test.title _) ?_
  refine bind_defaulted (by rfl) (houtcomes _) ?_
  refine bind_defaulted (by rfl) (Rule.list?_toJsonAll_of_admitted h.outcomeProcessing _) ?_
  refine bind_required (by rfl) (hparts _) ?_
  exact bind_defaulted (by rfl) (hitems _) rfl

/-! ### Containers of several base types -/

/-- What stands in a list that can be read is in the list that is read. -/
theorem Datum.mem_of_list? {α : Type} {decode : Datum → Option α} {place : Place}
    {values : List Json} {items : List α} (h : list? decode ⟨.arr values, place⟩ = some items)
    {value : Json} (hvalue : value ∈ values) {a : α} (ha : decode ⟨value, place⟩ = some a) :
    a ∈ items := by
  change values.mapM (fun item => decode ⟨item, place⟩) = some items at h
  induction values generalizing items with
  | nil => cases hvalue
  | cons first rest ih =>
    rw [List.mapM_cons] at h
    obtain ⟨b, hfirst, hrest⟩ := Option.bind_eq_some_iff.1 h
    obtain ⟨others, hothers, hitems⟩ := Option.bind_eq_some_iff.1 hrest
    cases hitems
    obtain rfl | hvalue := List.mem_cons.1 hvalue
    · rw [ha] at hfirst
      cases hfirst
      exact List.mem_cons_self
    · exact List.mem_cons_of_mem _ (ih hvalue hothers)

/-- Scalars of several base types make no container. -/
theorem Container.toOption_ofItems_of_mem {baseType : BaseType} {items : List Scalar}
    {scalar : Scalar} (hmem : scalar ∈ items) (hodd : scalar.baseType ≠ baseType) :
    (ofItems baseType items).toOption = none := by
  unfold ofItems
  split
  next => rfl
  next hnone =>
    -- Then all scalars would be of the base type.
    have hsame := List.find?_eq_none.1 hnone scalar hmem
    exact absurd (decide_eq_true hodd) hsame

/-- A container is refused if a scalar in it is of another base type than it names. -/
theorem Container.ofJson?_eq_none_of_mem {datum : Datum} {fields : Fields} {baseType : BaseType}
    {values : List Json} {place : Place} {value : Json} {scalar : Scalar}
    (hfields : datum.fields? ["base_type", "values"] = some fields)
    (hbase : fields.required "base_type" BaseType.ofJson? = some baseType)
    (hvalues : fields.get? "values" = some ⟨.arr values, place⟩) (hvalue : value ∈ values)
    (hscalar : Scalar.ofJson? ⟨value, place⟩ = some scalar) (hodd : scalar.baseType ≠ baseType) :
    Container.ofJson? datum = none := by
  rw [Container.ofJson?, hfields, Option.bind_eq_bind, Option.bind_some, hbase,
    Option.bind_eq_bind, Option.bind_some, Fields.required, hvalues]
  change (list? Scalar.ofJson? ⟨.arr values, place⟩ >>= fun items =>
    (ofItems baseType items).toOption) = none
  cases hitems : list? Scalar.ofJson? ⟨.arr values, place⟩ with
  | none => rfl
  | some items => exact toOption_ofItems_of_mem (mem_of_list? hitems hvalue hscalar) hodd

/-! ### Definitions -/

/-- Items and tests whose numbers are finite read back from their JSON and are told apart by it. The
JSON of a container is refused if it has scalars of another base type than it names. -/
theorem definitions_readBack :
    (∀ item : ItemDefinition, item.IsFinite →
        ReadsBack ItemDefinition.toJson ItemDefinition.ofJson? item) ∧
      (∀ test : TestDefinition, test.IsFinite →
        ReadsBack TestDefinition.toJson TestDefinition.ofJson? test) ∧
      (∀ item item' : ItemDefinition, item.IsFinite → item'.IsFinite →
        (item.toJson = item'.toJson ↔ item = item')) ∧
      (∀ test test' : TestDefinition, test.IsFinite → test'.IsFinite →
        (test.toJson = test'.toJson ↔ test = test')) ∧
      ∀ (datum : Datum) (fields : Fields) (baseType : BaseType) (values : List Json) (place : Place)
        (value : Json) (scalar : Scalar), datum.fields? ["base_type", "values"] = some fields →
        fields.required "base_type" BaseType.ofJson? = some baseType →
        fields.get? "values" = some ⟨.arr values, place⟩ → value ∈ values →
        Scalar.ofJson? ⟨value, place⟩ = some scalar → scalar.baseType ≠ baseType →
        Container.ofJson? datum = none := by
  refine ⟨fun _ h => h.readsBack, fun _ h => h.readsBack, fun item item' h h' => ?_,
    fun test test' h h' => ?_, fun _ _ _ _ _ _ _ => Container.ofJson?_eq_none_of_mem⟩
  · exact ⟨h.readsBack.eq_of_json_eq h'.readsBack, congrArg ItemDefinition.toJson⟩
  · exact ⟨h.readsBack.eq_of_json_eq h'.readsBack, congrArg TestDefinition.toJson⟩

/-! ### A small test -/

/-- A test with some numbers in conditions, in weights and in its item. -/
def TestDefinition.weighed (weight : Float) : TestDefinition :=
  let name : Identifier := ⟨"FACTOR", by decide +kernel⟩
  let head : SectionHead := ⟨⟨"GROUP", by decide +kernel⟩, "", true, none⟩
  let near : Expression := .apply (.equal ⟨.absolute, [0.25], true, false⟩)
    [.randomFloat 0.0 1.0, .baseValue (.float 0.5)]
  let item := ItemDefinition.mapped (some 0.0) (some 10.0)
  let ref : ItemRef :=
    ⟨⟨"PLACE", by decide +kernel⟩, item.identifier, [⟨name, weight⟩], [near], none, [name]⟩
  { identifier := ⟨"WEIGHED", by decide +kernel⟩
    title := ""
    outcomes := [.simple name (.single .float) (.float 0.0)]
    outcomeProcessing :=
      [.condition [.mk near [.assign .outcomeValue name (.baseValue (.float 1.0))]] none]
    parts := [⟨⟨"WHOLE", by decide +kernel⟩, .nonlinear, .simultaneous, [near], [], none,
      [⟨head, [.nested head [.itemRef ref]]⟩]⟩]
    items := [item] }

/-- The numbers of the test are finite if the weight is. -/
theorem TestDefinition.isFinite_weighed {weight : Float} (h : weight.isFinite = true) :
    (weighed weight).IsFinite := by
  have hnear : Expression.IsFiniteTree (.apply (.equal ⟨.absolute, [0.25], true, false⟩)
      [.randomFloat 0.0 1.0, .baseValue (.float 0.5)]) := by
    intro node hnode
    simp only [Expression.walk, Expression.walkAll, List.mem_append, List.mem_cons,
      List.not_mem_nil, or_false] at hnode
    rcases hnode with rfl | rfl | rfl
    · intro x hx
      obtain rfl := List.mem_singleton.1 hx
      decide +kernel
    · exact ⟨by decide +kernel, by decide +kernel⟩
    · show (0.5 : Float).isFinite = true
      decide +kernel
  refine ⟨fun d hd => ?_, ?_, fun part hpart => ?_, fun item hitem => ?_⟩
  · obtain rfl := List.mem_singleton.1 hd
    refine ⟨?_, ?_, ?_⟩
    · rintro _ ⟨⟩
      exact Value.isFinite_float.2 (by decide +kernel)
    · rintro x (hx | hx | hx) <;> cases hx
    · rintro table ⟨⟩
  · intro rule hrule expression hexpression
    rcases List.mem_pair.1 hrule with rfl | rfl
    · obtain rfl := List.mem_singleton.1 hexpression
      exact hnear
    · obtain rfl := List.mem_singleton.1 hexpression
      intro node hnode
      obtain rfl := List.mem_singleton.1 hnode
      show (1.0 : Float).isFinite = true
      decide +kernel
  · obtain rfl := List.mem_singleton.1 hpart
    refine ⟨fun condition hcondition => ?_, List.forall_mem_nil _, fun ref href => ?_⟩
    · obtain rfl := List.mem_singleton.1 hcondition
      exact hnear
    · obtain rfl := List.mem_singleton.1 href
      refine ⟨fun w hw => ?_, fun condition hcondition => ?_⟩
      · obtain rfl := List.mem_singleton.1 hw
        exact h
      · obtain rfl := List.mem_singleton.1 hcondition
        exact hnear
  · obtain rfl := List.mem_singleton.1 hitem
    apply ItemDefinition.isFinite_mapped <;> rintro _ ⟨⟩ <;> decide +kernel

/-- Two such tests read back, and their JSON differs. A list of a truth value and a text makes no
container of truth values. -/
theorem definitions_readBack_weighed :
    ReadsBack TestDefinition.toJson TestDefinition.ofJson? (.weighed 0.5) ∧
      ReadsBack ItemDefinition.toJson ItemDefinition.ofJson?
        (.mapped (some 0.0) (some 10.0)) ∧
      (TestDefinition.weighed 0.5).toJson ≠ (TestDefinition.weighed 2.0).toJson ∧
      (ItemDefinition.mapped (some 0.0) (some 10.0)).toJson ≠
        (ItemDefinition.mapped (some 0.0) none).toJson ∧
      Container.ofJson? (Json.obj [("base_type", BaseType.boolean.toJson),
        ("values", .ofList Scalar.toJson [.boolean true, .string "yes"])]) = none := by
  obtain ⟨hitem, htest, hitems, htests, hcontainer⟩ := definitions_readBack
  have hhalf := TestDefinition.isFinite_weighed (show (0.5 : Float).isFinite = true by
    decide +kernel)
  have htwo := TestDefinition.isFinite_weighed (show (2.0 : Float).isFinite = true by
    decide +kernel)
  have hbounded : (ItemDefinition.mapped (some 0.0) (some 10.0)).IsFinite := by
    apply ItemDefinition.isFinite_mapped <;> rintro _ ⟨⟩ <;> decide +kernel
  have hopen : (ItemDefinition.mapped (some 0.0) none).IsFinite := by
    apply ItemDefinition.isFinite_mapped <;> rintro _ ⟨⟩
    decide +kernel
  refine ⟨htest _ hhalf, hitem _ hbounded, fun hsame => ?_, fun hsame => ?_, ?_⟩
  · have hweights := congrArg (fun test : TestDefinition =>
      test.itemRefs.flatMap fun ref : ItemRef => ref.weights.map Weight.value)
      ((htests _ _ hhalf htwo).1 hsame)
    change [(0.5 : Float)] = [2.0] at hweights
    exact absurd hweights (by decide +kernel)
  · cases (hitems _ _ hbounded hopen).1 hsame
  · have hmem : (Scalar.string "yes").toJson ∈ [Scalar.boolean true, .string "yes"].map
        Scalar.toJson := List.mem_map_of_mem (List.mem_pair.2 (.inr rfl))
    exact hcontainer _ _ .boolean _ .free _ (.string "yes") rfl rfl rfl hmem rfl (by decide)

end Assessment
