import Assessment.Proofs.Encoding.Expression

/-!
# Items that read back

An item is written with its declarations, its rules and its interactions, and reads back if all its
numbers are finite. Rules are nested like expressions, in the branches of conditions and behind
them.

## Main definitions

- `OutcomeDeclaration.IsFinite`: declarations whose numbers are finite.
- `Rule.nested`: the rules that a rule holds.

## Main results

- `Rule.readsBack_within`: rules whose expressions are finite read back.
- `ItemDefinition.IsFinite.readsBack`: finite items do.
-/

namespace Assessment

open Datum

/-! ### Values and signatures -/

theorem Cardinality.readsBack (cardinality : Cardinality) :
    ReadsBack Cardinality.toJson Cardinality.ofJson? cardinality := by
  intro place
  cases cardinality <;> rfl

theorem Signature.readsBack (signature : Signature) :
    ReadsBack Signature.toJson Signature.ofJson? signature := by
  intro place
  have hbase := ReadsBack.option signature.baseType (fun _ => rfl) fun baseType _ =>
    baseType.readsBack
  refine bind_fields ?_
  refine bind_required (by rfl) (signature.cardinality.readsBack _) ?_
  exact bind_nullable (by rfl) (hbase _) rfl

/-- An optional value reads back if it is finite. -/
theorem readsBack_value? (value : Option Value) (h : ∀ v ∈ value, v.IsFinite) :
    ReadsBack (Json.ofOption Value.toJson) (option? Value.ofJson?) value :=
  .option value (fun _ => rfl) fun v hv => (h v hv).ofJson?_toJson

/-- An optional double reads back if it is finite. -/
theorem readsBack_float? (x : Option Float) (h : ∀ y ∈ x, y.isFinite = true) :
    ReadsBack (Json.ofOption Json.ofFloat) (option? float?) x :=
  .option x (fun _ => rfl) fun y hy => readsBack_float (h y hy)

theorem readsBack_scalar? (scalar : Option Scalar) (h : ∀ s ∈ scalar, s.IsFinite) :
    ReadsBack (Json.ofOption Scalar.toJson) (option? Scalar.ofJson?) scalar :=
  .option scalar (fun _ => rfl) fun s hs => (h s hs).ofJson?_toJson

/-! ### Mappings and tables -/

theorem MapEntry.readsBack {entry : MapEntry} (hkey : entry.key.IsFinite)
    (hmapped : entry.mapped.isFinite = true) :
    ReadsBack MapEntry.toJson MapEntry.ofJson? entry := by
  intro place
  refine bind_fields ?_
  refine bind_required (by rfl) (hkey.ofJson?_toJson _) ?_
  refine bind_required (by rfl) (readsBack_float hmapped _) ?_
  exact bind_defaulted (by rfl) (readsBack_bool entry.caseSensitive _) rfl

theorem Mapping.IsFinite.readsBack {mapping : Mapping} (h : mapping.IsFinite) :
    ReadsBack Mapping.toJson Mapping.ofJson? mapping := by
  intro place
  have hentries := ReadsBack.list fun entry hentry =>
    MapEntry.readsBack (h.entries entry hentry).1 (h.entries entry hentry).2
  refine bind_fields ?_
  refine bind_required (by rfl) (hentries _) ?_
  refine bind_defaulted (by rfl) (readsBack_float h.defaultValue _) ?_
  refine bind_optional (by rfl) (readsBack_float? _ h.lowerBound _) ?_
  exact bind_optional (by rfl) (readsBack_float? _ h.upperBound _) rfl

theorem AreaEntry.readsBack {entry : AreaEntry} (hmapped : entry.mapped.isFinite = true) :
    ReadsBack AreaEntry.toJson AreaEntry.ofJson? entry := by
  intro place
  refine bind_fields ?_
  refine bind_required (by rfl) (entry.shape.readsBack _) ?_
  exact bind_required (by rfl) (readsBack_float hmapped _) rfl

theorem AreaMapping.IsFinite.readsBack {mapping : AreaMapping} (h : mapping.IsFinite) :
    ReadsBack AreaMapping.toJson AreaMapping.ofJson? mapping := by
  intro place
  have hentries := ReadsBack.list fun entry hentry => AreaEntry.readsBack (h.entries entry hentry)
  refine bind_fields ?_
  refine bind_required (by rfl) (hentries _) ?_
  refine bind_defaulted (by rfl) (readsBack_float h.defaultValue _) ?_
  refine bind_optional (by rfl) (readsBack_float? _ h.lowerBound _) ?_
  exact bind_optional (by rfl) (readsBack_float? _ h.upperBound _) rfl

namespace LookupTable

theorem readsBack_matchLine {line : MatchLine} (h : line.target.IsFinite) :
    ReadsBack matchJson matchOfJson? line := by
  intro place
  refine bind_fields ?_
  refine bind_required (by rfl) (readsBack_word line.source _) ?_
  exact bind_required (by rfl) (h.ofJson?_toJson _) rfl

theorem readsBack_boundLine {line : BoundLine} (hsource : line.source.isFinite = true)
    (htarget : line.target.IsFinite) : ReadsBack boundJson boundOfJson? line := by
  intro place
  refine bind_fields ?_
  refine bind_required (by rfl) (readsBack_float hsource _) ?_
  refine bind_defaulted (by rfl) (readsBack_bool line.inclusive _) ?_
  exact bind_required (by rfl) (htarget.ofJson?_toJson _) rfl

theorem IsFinite.readsBack {table : LookupTable} (h : table.IsFinite) :
    ReadsBack LookupTable.toJson LookupTable.ofJson? table := by
  intro place
  cases table with
  | exact lines default =>
    have hlines := ReadsBack.list fun line hline => readsBack_matchLine (h.1 line hline)
    refine bind_variant (by rfl) (bind_fields ?_)
    refine bind_required (by rfl) (hlines _) ?_
    exact bind_optional (by rfl) (readsBack_scalar? _ h.2 _) rfl
  | interpolation lines default =>
    have hlines := ReadsBack.list fun line hline =>
      readsBack_boundLine (h.1 line hline).1 (h.1 line hline).2
    refine bind_variant (by rfl) (bind_fields ?_)
    refine bind_required (by rfl) (hlines _) ?_
    exact bind_optional (by rfl) (readsBack_scalar? _ h.2 _) rfl

end LookupTable

/-! ### Declarations -/

theorem TemplateDeclaration.readsBack {d : TemplateDeclaration}
    (h : ∀ value ∈ d.defaultValue, value.IsFinite) :
    ReadsBack TemplateDeclaration.toJson TemplateDeclaration.ofJson? d := by
  intro place
  refine bind_fields ?_
  refine bind_required (by rfl) (readsBack_identifier d.identifier _) ?_
  refine bind_required (by rfl) (d.signature.readsBack _) ?_
  refine bind_optional (by rfl) (readsBack_value? _ h _) ?_
  refine bind_defaulted (by rfl) (readsBack_bool d.paramVariable _) ?_
  exact bind_defaulted (by rfl) (readsBack_bool d.mathVariable _) rfl

theorem ResponseDeclaration.readsBack {d : ResponseDeclaration}
    (hdefault : ∀ value ∈ d.defaultValue, value.IsFinite)
    (hcorrect : ∀ value ∈ d.correctResponse, value.IsFinite)
    (hmapping : ∀ mapping ∈ d.mapping, mapping.IsFinite)
    (harea : ∀ mapping ∈ d.areaMapping, mapping.IsFinite) :
    ReadsBack ResponseDeclaration.toJson ResponseDeclaration.ofJson? d := by
  intro place
  have hmapping := ReadsBack.option d.mapping (fun _ => rfl) fun mapping hmem =>
    (hmapping mapping hmem).readsBack
  have harea := ReadsBack.option d.areaMapping (fun _ => rfl) fun mapping hmem =>
    (harea mapping hmem).readsBack
  refine bind_fields ?_
  refine bind_required (by rfl) (readsBack_identifier d.identifier _) ?_
  refine bind_required (by rfl) (d.signature.readsBack _) ?_
  refine bind_optional (by rfl) (readsBack_value? _ hdefault _) ?_
  refine bind_optional (by rfl) (readsBack_value? _ hcorrect _) ?_
  refine bind_optional (by rfl) (hmapping _) ?_
  exact bind_optional (by rfl) (harea _) rfl

/-- The numbers of a declared outcome variable are finite. -/
structure OutcomeDeclaration.IsFinite (d : OutcomeDeclaration) : Prop where
  /-- The default is finite. -/
  defaultValue : ∀ value ∈ d.defaultValue, value.IsFinite
  /-- The bounds are finite. -/
  bounds : ∀ x, x ∈ d.normalMaximum ∨ x ∈ d.normalMinimum ∨ x ∈ d.masteryValue → x.isFinite = true
  /-- The lookup table is finite. -/
  table : ∀ table ∈ d.lookupTable, table.IsFinite

theorem OutcomeDeclaration.IsFinite.readsBack {d : OutcomeDeclaration} (h : d.IsFinite) :
    ReadsBack OutcomeDeclaration.toJson OutcomeDeclaration.ofJson? d := by
  intro place
  have htext := ReadsBack.option d.interpretation (fun _ => rfl) fun text _ => readsBack_str text
  have htable := ReadsBack.option d.lookupTable (fun _ => rfl) fun table hmem =>
    (h.table table hmem).readsBack
  refine bind_fields ?_
  refine bind_required (by rfl) (readsBack_identifier d.identifier _) ?_
  refine bind_required (by rfl) (d.signature.readsBack _) ?_
  refine bind_optional (by rfl) (readsBack_value? _ h.defaultValue _) ?_
  refine bind_optional (by rfl) (htext _) ?_
  refine bind_optional (by rfl) (readsBack_float? _ (fun x hx => h.bounds x (.inl hx)) _) ?_
  refine bind_optional (by rfl) (readsBack_float? _ (fun x hx => h.bounds x (.inr (.inl hx))) _) ?_
  refine bind_optional (by rfl) (readsBack_float? _ (fun x hx => h.bounds x (.inr (.inr hx))) _) ?_
  exact bind_optional (by rfl) (htable _) rfl

theorem Interaction.readsBack (interaction : Interaction) :
    ReadsBack Interaction.toJson Interaction.ofJson? interaction := by
  intro place
  have hclass := ReadsBack.option interaction.customClass (fun _ => rfl) fun name _ =>
    readsBack_str name
  refine bind_fields ?_
  refine bind_required (by rfl) (readsBack_identifier interaction.response _) ?_
  exact bind_optional (by rfl) (hclass _) rfl

/-! ### Rules -/

/-- A branch of a condition as JSON. -/
def Branch.toJson (branch : Branch) : Json :=
  .obj [("test", branch.test.toJson), ("rules", .arr (Rule.toJsonAll branch.rules))]

namespace Rule

variable {rule inner : Rule}

theorem toJsonAll_eq_map (rules : List Rule) : toJsonAll rules = rules.map toJson := by
  induction rules with
  | nil => rfl
  | cons first rest ih => rw [toJsonAll, ih, List.map_cons]

theorem branchesToJson_eq_map (branches : List Branch) :
    branchesToJson branches = branches.map Branch.toJson := by
  induction branches with
  | nil => rfl
  | cons first rest ih =>
    obtain ⟨test, rules⟩ := first
    rw [branchesToJson, ih, List.map_cons]
    rfl

theorem walkAll_eq_flatMap (rules : List Rule) : walkAll rules = rules.flatMap walk := by
  induction rules with
  | nil => rfl
  | cons first rest ih => rw [walkAll, ih, List.flatMap_cons]

theorem walkBranches_eq_flatMap (branches : List Branch) :
    walkBranches branches = branches.flatMap fun branch => walkAll branch.rules := by
  induction branches with
  | nil => rfl
  | cons first rest ih =>
    obtain ⟨test, rules⟩ := first
    rw [walkBranches, ih, List.flatMap_cons]
    rfl

/-- The rules that a rule holds. -/
def nested : Rule → List Rule
  | condition branches otherwise => branches.flatMap Branch.rules ++ otherwise.getD []
  | _ => []

theorem self_mem_walk (rule : Rule) : rule ∈ rule.walk := by
  cases rule with
  | condition branches otherwise => cases otherwise <;> exact List.mem_cons_self
  | _ => exact List.mem_cons_self

theorem walk_condition (branches : List Branch) (otherwise : Option (List Rule)) :
    walk (condition branches otherwise) = condition branches otherwise ::
      (condition branches otherwise).nested.flatMap walk := by
  have hbranches : walkBranches branches = (branches.flatMap Branch.rules).flatMap walk := by
    rw [walkBranches_eq_flatMap, List.flatMap_assoc]
    simp only [walkAll_eq_flatMap]
  cases otherwise with
  | none => rw [walk, hbranches, nested, Option.getD_none, List.append_nil]
  | some rules =>
    rw [walk, hbranches, walkAll_eq_flatMap, nested, Option.getD_some, List.flatMap_append]

theorem walk_subset_of_mem_nested (h : inner ∈ rule.nested) : inner.walk ⊆ rule.walk := by
  cases rule with
  | condition branches otherwise =>
    intro other hother
    rw [walk_condition]
    exact List.mem_cons_of_mem _ (List.mem_flatMap.2 ⟨inner, h, hother⟩)
  | _ => cases h

/-- The JSON of a condition. -/
theorem toJson_condition (branches : List Branch) (otherwise : Option (List Rule)) :
    toJson (condition branches otherwise) = .tagged "rule" "condition"
      [("branches", .ofList Branch.toJson branches),
        ("otherwise", .ofOption (Json.ofList toJson) otherwise)] := by
  cases otherwise with
  | none =>
    rw [toJson, branchesToJson_eq_map]
    rfl
  | some rules =>
    rw [toJson, branchesToJson_eq_map, toJsonAll_eq_map]
    rfl

/-- The rules in a condition are nested less deep than the condition. -/
theorem depth_lt_of_mem_nested (h : inner ∈ rule.nested) :
    inner.toJson.depth < rule.toJson.depth := by
  cases rule with
  | condition branches otherwise =>
    rw [toJson_condition]
    simp only [Json.tagged, Json.depth, Json.depthFields, Json.ofList]
    obtain hbranch | hrest := List.mem_append.1 h
    · obtain ⟨branch, hmem, hinner⟩ := List.mem_flatMap.1 hbranch
      have hrules : inner.toJson.depth ≤ Json.depthItems (toJsonAll branch.rules) := by
        rw [toJsonAll_eq_map]
        exact Json.depth_le_depthItems (List.mem_map_of_mem hinner)
      have hbranches : branch.toJson.depth ≤ Json.depthItems (branches.map Branch.toJson) :=
        Json.depth_le_depthItems (List.mem_map_of_mem hmem)
      simp only [Branch.toJson, Json.depth, Json.depthFields] at hbranches
      omega
    · cases otherwise with
      | none => cases hrest
      | some rules =>
        have hrules : inner.toJson.depth ≤ Json.depthItems (rules.map toJson) :=
          Json.depth_le_depthItems (List.mem_map_of_mem hrest)
        simp only [Json.ofOption, Json.ofList, Json.depth]
        omega
  | _ => cases h

/-- Rules read back in a list if each of them does. -/
theorem list?_toJsonAll {decode : Datum → Option Rule} {rules : List Rule}
    (h : ∀ rule ∈ rules, ReadsBack toJson decode rule) (place : Place) :
    list? decode ⟨.arr (toJsonAll rules), place⟩ = some rules := by
  rw [toJsonAll_eq_map]
  exact ReadsBack.list h place

/-- Rules whose expressions are finite read back within any bound that they are no deeper than. -/
theorem readsBack_within {bound : Nat} (h : Admitted Expression.IsFiniteTree rule.walk)
    (hdepth : rule.toJson.depth ≤ bound) : ReadsBack toJson (ofJsonWithin bound) rule := by
  induction bound generalizing rule with
  | zero =>
    cases rule with
    | condition _ otherwise => cases otherwise <;> cases hdepth
    | _ => cases hdepth
  | succ bound ih =>
    intro place
    have hnested : ∀ inner ∈ rule.nested, ReadsBack toJson (ofJsonWithin bound) inner :=
      fun inner hmem =>
        ih (fun other hother => h other (walk_subset_of_mem_nested hmem hother))
          (Nat.le_of_lt_succ (Nat.lt_of_lt_of_le (depth_lt_of_mem_nested hmem) hdepth))
    have hself : ∀ expression ∈ rule.ownExpressions, ReadsBack Expression.toJson
        Expression.ofJson? expression := fun expression hmem =>
      (h rule rule.self_mem_walk expression hmem).readsBack
    cases rule with
    | assign target name expression =>
      have hexpression := hself expression (List.mem_singleton_self _)
      have hfields : (do
          let fields ← fields? ["identifier", "expression"]
            ⟨.obj [("identifier", name.toJson), ("expression", expression.toJson)], .tagged⟩
          some (assign target (← fields.required "identifier" Identifier.ofJson?)
            (← fields.required "expression" Expression.ofJson?))) =
          some (assign target name expression) := by
        refine bind_fields ?_
        refine bind_required (by rfl) (readsBack_identifier name _) ?_
        exact bind_required (by rfl) (hexpression _) rfl
      -- Each target has a tag of its own.
      cases target <;> exact bind_variant (by rfl) hfields
    | condition branches otherwise =>
      -- The rules behind the branches are absent or in a list of their own.
      have hotherwise : ∀ rules ∈ otherwise, ∀ inner ∈ rules,
          ReadsBack toJson (ofJsonWithin bound) inner := by
        rintro rules ⟨⟩ inner hmem
        exact hnested inner (List.mem_append_right _ hmem)
      have hlast := ReadsBack.option otherwise (fun _ => rfl) fun rules hrules =>
        ReadsBack.list (hotherwise rules hrules)
      rw [toJson_condition]
      refine bind_variant (by rfl) (bind_fields ?_)
      refine bind_required (by rfl) (ReadsBack.list (fun branch hbranch place => ?_) _) ?_
      · have htest := hself branch.test (List.mem_map_of_mem hbranch)
        have hrules : ∀ inner ∈ branch.rules, ReadsBack toJson (ofJsonWithin bound) inner :=
          fun inner hmem => hnested inner
            (List.mem_append_left _ (List.mem_flatMap.2 ⟨branch, hbranch, hmem⟩))
        refine bind_fields ?_
        refine bind_required (by rfl) (htest _) ?_
        refine bind_defaulted (by rfl) (list?_toJsonAll hrules _) ?_
        cases branch
        rfl
      · exact bind_optional (by rfl) (hlast _) rfl
    | exit scope =>
      cases scope <;>
      · refine bind_variant (by rfl) (bind_fields ?_)
        exact bind_required (by rfl) (by rfl) rfl
    | constraint expression =>
      refine bind_variant (by rfl) (bind_fields ?_)
      exact bind_required (by rfl) (hself expression (List.mem_singleton_self _) _) rfl

/-- Rules whose expressions are finite read back. -/
theorem list?_toJsonAll_of_admitted {rules : List Rule}
    (h : Admitted Expression.IsFiniteTree (walkAll rules)) (place : Place) :
    list? ofJson? ⟨.arr (toJsonAll rules), place⟩ = some rules := by
  rw [walkAll_eq_flatMap] at h
  refine list?_toJsonAll (fun rule hrule place => ?_) place
  exact readsBack_within
    (fun inner hinner => h inner (List.mem_flatMap.2 ⟨rule, hrule, hinner⟩)) (Nat.le_refl _) place

end Rule

/-! ### Items -/

namespace ItemDefinition

variable {definition : ItemDefinition}

theorem IsFinite.outcome (h : definition.IsFinite) {d : OutcomeDeclaration}
    (hd : d ∈ definition.outcomes) : d.IsFinite where
  defaultValue := h.defaults (.outcome d) (mem_allVariables_outcome.2 hd)
  bounds := h.bounds d hd
  table := h.tables d hd

/-- A finite item reads back. -/
theorem IsFinite.readsBack (h : definition.IsFinite) :
    ReadsBack ItemDefinition.toJson ItemDefinition.ofJson? definition := by
  intro place
  have htemplates := ReadsBack.list fun d hd =>
    TemplateDeclaration.readsBack (h.defaults (.template d) (mem_allVariables_template.2 hd))
  have hresponses := ReadsBack.list fun d hd =>
    ResponseDeclaration.readsBack (h.defaults (.response d) (mem_allVariables_response.2 hd))
      (h.correct d hd) (h.mappings d hd) (h.areaMappings d hd)
  have houtcomes := ReadsBack.list fun d hd => (h.outcome hd).readsBack
  have hinteractions : ReadsBack (Json.ofList Interaction.toJson) (list? Interaction.ofJson?)
      definition.interactions := .list fun interaction _ => interaction.readsBack
  refine bind_fields ?_
  refine bind_required (by rfl) (readsBack_identifier definition.identifier _) ?_
  refine bind_defaulted (by rfl) (readsBack_str definition.title _) ?_
  refine bind_defaulted (by rfl) (readsBack_bool definition.adaptive _) ?_
  refine bind_defaulted (by rfl) (htemplates _) ?_
  refine bind_defaulted (by rfl) (hresponses _) ?_
  refine bind_defaulted (by rfl) (houtcomes _) ?_
  refine bind_defaulted (by rfl) (Rule.list?_toJsonAll_of_admitted h.templateProcessing _) ?_
  refine bind_defaulted (by rfl) (Rule.list?_toJsonAll_of_admitted h.responseProcessing _) ?_
  exact bind_defaulted (by rfl) (hinteractions _) rfl

end ItemDefinition

end Assessment
