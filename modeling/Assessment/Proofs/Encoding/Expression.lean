import Assessment.Proofs.Finite.Persistence

/-!
# Records and expressions that read back

Definitions are kept as JSON. A record is written with all its fields, so that no default takes the
place of what was written, and an absent thing is written as null, which nothing else is. A variant
is told by its tag, which no field of it has for a name. What is written reads back wherever it
stands, also among the fields of a variant, where the rules for tags are others.

Expressions are some forty operators and twenty other kinds of nodes, each with its tag and its own
fields. Every one reads back if the numbers in it are finite, and so do whole trees: reading goes
down as deep as the JSON is nested, and operands are always nested less deep than what they are
operands of.

## Main definitions

- `ReadsBack`: a thing reads back from its JSON wherever that stands.
- `Operator.IsFinite` and `Expression.IsFiniteTree`: operators and trees with finite numbers.

## Main results

- `ReadsBack.eq_of_json_eq`: what reads back is told by its JSON.
- `ReadsBack.list` and `ReadsBack.option`: lists and optional things read back.
- `Datum.bind_fields` and the lemmas after it: records are read field by field.
- `Datum.bind_variant`: variants are read by their tag.
- `Operator.IsFinite.readsBack`: operators read back.
- `Expression.IsFiniteTree.readsBack`: expressions do.
-/

namespace Assessment

/-- A thing reads back from its JSON wherever that stands. -/
def ReadsBack {α : Type} (encode : α → Json) (decode : Datum → Option α) (a : α) : Prop :=
  ∀ place, decode ⟨encode a, place⟩ = some a

namespace ReadsBack

variable {α : Type} {encode : α → Json} {decode : Datum → Option α}

/-- Things that read back are the same if their JSON is. -/
theorem eq_of_json_eq {a b : α} (ha : ReadsBack encode decode a) (hb : ReadsBack encode decode b)
    (h : encode a = encode b) : a = b := by
  have hread := ha .free
  rw [h, hb .free] at hread
  exact (Option.some.inj hread).symm

/-- A list reads back if its members do. -/
theorem list {items : List α} (h : ∀ item ∈ items, ReadsBack encode decode item) :
    ReadsBack (Json.ofList encode) (Datum.list? decode) items := fun place =>
  Datum.list?_ofList fun item hitem => h item hitem place

/-- An optional thing reads back if the thing does, and null is not read as one. -/
theorem option (found : Option α) (hnull : ∀ place, decode ⟨.null, place⟩ = none)
    (h : ∀ a ∈ found, ReadsBack encode decode a) :
    ReadsBack (Json.ofOption encode) (Datum.option? decode) found := by
  intro place
  cases found with
  | none => rfl
  | some a =>
    have hread := h a rfl place
    change Datum.option? decode ⟨encode a, place⟩ = some (some a)
    unfold Datum.option?
    split
    next hencode =>
      -- What is written as null does not read back.
      change encode a = .null at hencode
      rw [hencode, hnull] at hread
      cases hread
    next => rw [hread, Option.map_some]

end ReadsBack

namespace Datum

variable {α β : Type} {place : Place} {entries : List (String × Json)} {name : String}

/-! ### Constants -/

theorem readsBack_bool (b : Bool) : ReadsBack Json.bool bool? b := fun _ => rfl

theorem readsBack_str (s : String) : ReadsBack Json.str str? s := fun _ => rfl

theorem readsBack_word (n : Int64) : ReadsBack (fun n : Int64 => .int n.toInt) word? n := fun _ =>
  word?_toInt n

theorem readsBack_uint32 (n : UInt32) : ReadsBack (fun n : UInt32 => .ofNat n.toNat) uint32? n := by
  intro place
  rw [uint32?, natBelow?_ofNat (show n.toNat < 0x100000000 from n.toNat_lt)]
  exact congrArg some UInt32.ofNat_toNat

/-- The doubles that read back are the finite ones. -/
theorem readsBack_float {x : Float} (h : x.isFinite = true) : ReadsBack Json.ofFloat float? x :=
  fun _ => float?_ofFloat_iff.2 h

theorem readsBack_identifier (name : Identifier) :
    ReadsBack Identifier.toJson Identifier.ofJson? name := name.ofJson?_toJson

/-- An optional name reads back. -/
theorem readsBack_name? (name : Option Identifier) :
    ReadsBack (Json.ofOption Identifier.toJson) (option? Identifier.ofJson?) name :=
  .option name (fun _ => rfl) fun name _ => readsBack_identifier name

theorem readsBack_names (names : List Identifier) :
    ReadsBack (Json.ofList Identifier.toJson) (list? Identifier.ofJson?) names :=
  .list fun name _ => readsBack_identifier name

/-! ### Records -/

/-- A record that is written by name is read by its fields. -/
theorem bind_fields {names : List String} {f : Fields → Option β} {b : β}
    (hnext : f ⟨entries, false, place⟩ = some b) :
    (fields? names ⟨.obj entries, place⟩ >>= f) = some b := hnext

section fields

variable {json : Json} (hfield : Json.getField? name entries = some json)
  {decode : Datum → Option α}

include hfield

/-- An optional field that was written is read, and then the others. -/
theorem bind_optional {a : Option α} (hread : option? decode ⟨json, place⟩ = some a)
    {f : Option α → Option β} {b : β} (hnext : f a = some b) :
    (Fields.optional ⟨entries, false, place⟩ name decode >>= f) = some b := by
  rw [Fields.optional, Fields.get?, hfield]
  change (option? decode ⟨json, place⟩ >>= f) = some b
  rw [hread]
  exact hnext

/-- A field with a default that was written is read, and then the others. -/
theorem bind_defaulted {default a : α} (hread : decode ⟨json, place⟩ = some a)
    {f : α → Option β} {b : β} (hnext : f a = some b) :
    (Fields.defaulted ⟨entries, false, place⟩ name decode default >>= f) = some b := by
  rw [Fields.defaulted, Fields.get?, hfield]
  change (decode ⟨json, place⟩ >>= f) = some b
  rw [hread]
  exact hnext

end fields

/-! ### Variants -/

/-- A variant is read by its tag, if no field of it has the name of the tag. -/
theorem bind_variant {tag value : String} {names : List String}
    (hfields : (entries.all fun field => field.1 != tag) = true)
    {f : String × Datum → Option β} {b : β} (hnext : f (value, ⟨.obj entries, .tagged⟩) = some b) :
    (variant? tag names ⟨.tagged tag value entries, place⟩ >>= f) = some b := by
  -- The tag is taken away before the fields are read, and with it all fields of its name.
  have hrest : Json.removeField tag ((tag, .str value) :: entries) = entries := by
    rw [Json.removeField, List.filter_cons_of_neg (by simp), List.filter_eq_self]
    exact List.all_eq_true.1 hfields
  have hfound : Json.getField? tag ((tag, .str value) :: entries) = some (.str value) :=
    if_pos rfl
  have hvariant : variant? tag names ⟨.tagged tag value entries, place⟩ =
      some (value, ⟨.obj entries, .tagged⟩) := by
    rw [Json.tagged, variant?, hfound, hrest]
    rfl
  rw [hvariant]
  exact hnext

end Datum

/-! ### Depth -/

namespace Json

/-- What stands in a list is no deeper than the list allows. -/
theorem depth_le_depthItems {items : List Json} {item : Json} (h : item ∈ items) :
    item.depth ≤ depthItems items := by
  induction items with
  | nil => cases h
  | cons first rest ih =>
    rw [depthItems]
    obtain rfl | hrest := List.mem_cons.1 h
    · exact Nat.le_max_left _ _
    · exact Nat.le_trans (ih hrest) (Nat.le_max_right _ _)

end Json

open Datum

/-! ### Shapes and constants -/

theorem Shape.readsBack (shape : Shape) : ReadsBack Shape.toJson Shape.ofJson? shape := by
  intro place
  cases shape with
  | default => exact bind_variant (by rfl) rfl
  | rect left top right bottom =>
    refine bind_variant (by rfl) (bind_fields ?_)
    refine bind_required (by rfl) (readsBack_word left _) ?_
    refine bind_required (by rfl) (readsBack_word top _) ?_
    refine bind_required (by rfl) (readsBack_word right _) ?_
    exact bind_required (by rfl) (readsBack_word bottom _) rfl
  | circle centerX centerY radius =>
    refine bind_variant (by rfl) (bind_fields ?_)
    refine bind_required (by rfl) (readsBack_word centerX _) ?_
    refine bind_required (by rfl) (readsBack_word centerY _) ?_
    exact bind_required (by rfl) (readsBack_word radius _) rfl
  | ellipse centerX centerY hRadius vRadius =>
    refine bind_variant (by rfl) (bind_fields ?_)
    refine bind_required (by rfl) (readsBack_word centerX _) ?_
    refine bind_required (by rfl) (readsBack_word centerY _) ?_
    refine bind_required (by rfl) (readsBack_word hRadius _) ?_
    exact bind_required (by rfl) (readsBack_word vRadius _) rfl
  | poly points =>
    have hpoint : ∀ point ∈ points, ReadsBack
        (fun point : Int64 × Int64 => .arr [.int point.1.toInt, .int point.2.toInt])
        (pair? word?) point := by
      intro point _ place
      simp [pair?, word?_toInt]
    refine bind_variant (by rfl) (bind_fields ?_)
    exact bind_required (by rfl) (ReadsBack.list hpoint _) rfl

theorem ToleranceMode.readsBack (mode : ToleranceMode) :
    ReadsBack ToleranceMode.toJson (oneOf? ToleranceMode.names) mode := by
  intro place
  cases mode <;> rfl

theorem RoundingMode.readsBack (mode : RoundingMode) :
    ReadsBack RoundingMode.toJson (oneOf? RoundingMode.names) mode := by
  intro place
  cases mode <;> rfl

theorem BaseType.readsBack (baseType : BaseType) :
    ReadsBack BaseType.toJson BaseType.ofJson? baseType := fun _ => baseType.ofName?_name

/-! ### Operators -/

/-- The tolerances of an operator are finite. -/
def Operator.IsFinite : Operator → Prop
  | .equal test => ∀ x ∈ test.tolerance, x.isFinite = true
  | _ => True

/-- An operator reads back if its tolerances are finite. -/
theorem Operator.IsFinite.readsBack {operator : Operator} (h : operator.IsFinite) :
    ReadsBack Operator.toJson Operator.ofJson? operator := by
  intro place
  cases operator with
  | index n =>
    refine bind_variant (by rfl) (bind_fields ?_)
    exact bind_required (by rfl) (readsBack_word n _) rfl
  | fieldValue field =>
    refine bind_variant (by rfl) (bind_fields ?_)
    exact bind_required (by rfl) (readsBack_identifier field _) rfl
  | substring caseSensitive =>
    refine bind_variant (by rfl) (bind_fields ?_)
    exact bind_defaulted (by rfl) (readsBack_bool caseSensitive _) rfl
  | stringMatch caseSensitive =>
    refine bind_variant (by rfl) (bind_fields ?_)
    exact bind_defaulted (by rfl) (readsBack_bool caseSensitive _) rfl
  | anyN least greatest =>
    refine bind_variant (by rfl) (bind_fields ?_)
    refine bind_required (by rfl) (readsBack_word least _) ?_
    exact bind_required (by rfl) (readsBack_word greatest _) rfl
  | patternMatch pattern =>
    refine bind_variant (by rfl) (bind_fields ?_)
    exact bind_required (by rfl) (readsBack_str pattern _) rfl
  | equal test =>
    have htolerance := ReadsBack.list fun x hx => readsBack_float (h x hx)
    refine bind_variant (by rfl) (bind_fields ?_)
    refine bind_defaulted (by rfl) (test.mode.readsBack _) ?_
    refine bind_defaulted (by rfl) (htolerance _) ?_
    refine bind_defaulted (by rfl) (readsBack_bool test.includeLower _) ?_
    exact bind_defaulted (by rfl) (readsBack_bool test.includeUpper _) rfl
  | equalRounded mode figures =>
    refine bind_variant (by rfl) (bind_fields ?_)
    refine bind_defaulted (by rfl) (mode.readsBack _) ?_
    exact bind_required (by rfl) (readsBack_word figures _) rfl
  | roundTo mode figures =>
    refine bind_variant (by rfl) (bind_fields ?_)
    refine bind_defaulted (by rfl) (mode.readsBack _) ?_
    exact bind_required (by rfl) (readsBack_word figures _) rfl
  | inside shape =>
    refine bind_variant (by rfl) (bind_fields ?_)
    exact bind_required (by rfl) (shape.readsBack _) rfl
  | «repeat» count =>
    refine bind_variant (by rfl) (bind_fields ?_)
    exact bind_required (by rfl) (readsBack_word count _) rfl
  | compare comparison => cases comparison <;> exact bind_variant (by rfl) rfl
  | _ => exact bind_variant (by rfl) rfl

theorem ItemSubset.readsBack (subset : ItemSubset) :
    ReadsBack ItemSubset.toJson ItemSubset.ofJson? subset := by
  intro place
  refine bind_fields ?_
  refine bind_optional (by rfl) (readsBack_name? subset.within _) ?_
  refine bind_defaulted (by rfl) (readsBack_names subset.including _) ?_
  exact bind_defaulted (by rfl) (readsBack_names subset.excluding _) rfl

namespace Expression

variable {expression operand : Expression}

/-! ### Trees -/

theorem toJsonAll_eq_map (expressions : List Expression) :
    toJsonAll expressions = expressions.map toJson := by
  induction expressions with
  | nil => rfl
  | cons first rest ih => rw [toJsonAll, ih, List.map_cons]

theorem walkAll_eq_flatMap (expressions : List Expression) :
    walkAll expressions = expressions.flatMap walk := by
  induction expressions with
  | nil => rfl
  | cons first rest ih => rw [walkAll, ih, List.flatMap_cons]

theorem self_mem_walk (expression : Expression) : expression ∈ expression.walk := by
  cases expression <;> exact List.mem_cons_self

theorem walk_subset_of_mem_operands (h : operand ∈ expression.operands) :
    operand.walk ⊆ expression.walk := by
  cases expression with
  | apply _ operands | custom _ operands =>
    intro node hnode
    rw [walk, walkAll_eq_flatMap]
    exact List.mem_cons_of_mem _ (List.mem_flatMap.2 ⟨operand, h, hnode⟩)
  | _ => cases h

/-- The operands of an expression are nested less deep than the expression. -/
theorem depth_lt_of_mem_operands (h : operand ∈ expression.operands) :
    operand.toJson.depth < expression.toJson.depth := by
  cases expression with
  | apply _ operands | custom _ operands =>
    have hdepth : operand.toJson.depth ≤ Json.depthItems (toJsonAll operands) := by
      rw [toJsonAll_eq_map]
      exact Json.depth_le_depthItems (List.mem_map_of_mem h)
    simp only [toJson, Json.tagged, Json.depth, Json.depthFields]
    omega
  | _ => cases h

/-- All numbers that are written in a tree are finite. -/
def IsFiniteTree (expression : Expression) : Prop := ∀ node ∈ expression.walk, node.IsFinite

theorem IsFiniteTree.self (h : expression.IsFiniteTree) : expression.IsFinite :=
  h expression expression.self_mem_walk

theorem IsFiniteTree.of_mem_operands (h : expression.IsFiniteTree)
    (hmem : operand ∈ expression.operands) : operand.IsFiniteTree := fun node hnode =>
  h node (walk_subset_of_mem_operands hmem hnode)

/-- Expressions read back in a list if each of them does. -/
theorem list?_toJsonAll {decode : Datum → Option Expression} {expressions : List Expression}
    (h : ∀ expression ∈ expressions, ReadsBack toJson decode expression) (place : Place) :
    list? decode ⟨.arr (toJsonAll expressions), place⟩ = some expressions := by
  rw [toJsonAll_eq_map]
  exact ReadsBack.list h place

/-! ### Reading -/

/-- A tree of finite numbers reads back within any bound that it is no deeper than. -/
theorem IsFiniteTree.readsBack_within {bound : Nat} (h : expression.IsFiniteTree)
    (hdepth : expression.toJson.depth ≤ bound) :
    ReadsBack toJson (ofJsonWithin bound) expression := by
  -- The induction is on the bound, as reading is by recursion on it. Operands are nested less deep,
  -- so that what is left of the bound is enough for them.
  induction bound generalizing expression with
  | zero => cases expression <;> cases hdepth
  | succ bound ih =>
    intro place
    have hoperands : ∀ operand ∈ expression.operands,
        ReadsBack toJson (ofJsonWithin bound) operand := fun operand hmem =>
      ih (h.of_mem_operands hmem)
        (Nat.le_of_lt_succ (Nat.lt_of_lt_of_le (depth_lt_of_mem_operands hmem) hdepth))
    have hself := h.self
    cases expression with
    | baseValue scalar =>
      refine bind_variant (by rfl) (bind_fields ?_)
      exact bind_required (by rfl) (Scalar.IsFinite.ofJson?_toJson hself _) rfl
    | null => exact bind_variant (by rfl) rfl
    | valueOf name weight =>
      refine bind_variant (by rfl) (bind_fields ?_)
      refine bind_required (by rfl) (readsBack_identifier name _) ?_
      exact bind_optional (by rfl) (readsBack_name? weight _) rfl
    | defaultOf name | correctOf name | mapResponse name | mapResponsePoint name =>
      refine bind_variant (by rfl) (bind_fields ?_)
      exact bind_required (by rfl) (readsBack_identifier name _) rfl
    | mathConstant constant => cases constant <;> exact bind_variant (by rfl) rfl
    | randomInteger least greatest step =>
      refine bind_variant (by rfl) (bind_fields ?_)
      refine bind_defaulted (by rfl) (readsBack_word least _) ?_
      refine bind_required (by rfl) (readsBack_word greatest _) ?_
      exact bind_defaulted (by rfl) (readsBack_word step _) rfl
    | randomFloat least greatest =>
      obtain ⟨hleast, hgreatest⟩ : least.isFinite = true ∧ greatest.isFinite = true := hself
      refine bind_variant (by rfl) (bind_fields ?_)
      refine bind_defaulted (by rfl) (readsBack_float hleast _) ?_
      exact bind_required (by rfl) (readsBack_float hgreatest _) rfl
    | countItems count subset =>
      -- The fields of the subset stand beside the tag.
      have hsubset : ItemSubset.ofJson? ⟨.obj subset.fieldsJson, .tagged⟩ = some subset :=
        subset.readsBack .tagged
      have hbind : (ItemSubset.ofJson? ⟨.obj subset.fieldsJson, .tagged⟩ >>= fun subset =>
          some (countItems count subset)) = some (countItems count subset) := by
        rw [hsubset]
        rfl
      cases count <;> exact bind_variant (by rfl) hbind
    | testVariables name weight baseType subset =>
      have hbase := ReadsBack.option baseType (fun _ => rfl) fun baseType _ => baseType.readsBack
      refine bind_variant (by rfl) (bind_fields ?_)
      refine bind_required (by rfl) (readsBack_identifier name _) ?_
      refine bind_optional (by rfl) (readsBack_name? weight _) ?_
      refine bind_optional (by rfl) (hbase _) ?_
      exact bind_defaulted (by rfl) (subset.readsBack _) rfl
    | outcomeBounds outcome name weight subset =>
      cases outcome <;>
      · refine bind_variant (by rfl) (bind_fields ?_)
        refine bind_required (by rfl) (readsBack_identifier name _) ?_
        refine bind_optional (by rfl) (readsBack_name? weight _) ?_
        exact bind_defaulted (by rfl) (subset.readsBack _) rfl
    | apply operator operands =>
      -- Of the operators only comparison within a tolerance has numbers of its own.
      have hoperator : operator.IsFinite := by
        cases operator with
        | equal test => exact hself
        | _ => trivial
      refine bind_variant (by rfl) (bind_fields ?_)
      refine bind_required (by rfl) (hoperator.readsBack _) ?_
      exact bind_defaulted (by rfl) (list?_toJsonAll hoperands _) rfl
    | custom className operands =>
      refine bind_variant (by rfl) (bind_fields ?_)
      refine bind_required (by rfl) (readsBack_str className _) ?_
      exact bind_defaulted (by rfl) (list?_toJsonAll hoperands _) rfl

/-- An expression of finite numbers reads back. -/
theorem IsFiniteTree.readsBack (h : expression.IsFiniteTree) :
    ReadsBack toJson ofJson? expression := fun place =>
  h.readsBack_within (Nat.le_refl _) place

end Expression

end Assessment
