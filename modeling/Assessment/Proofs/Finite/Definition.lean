import Assessment.Proofs.Finite.Operator
import Assessment.Proofs.Item.Stock

/-!
# Items with finite numbers

An item is finite if all numbers that its author wrote are: literals, tolerances, the bounds of
random doubles, defaults, correct answers, and the numbers of mappings and of lookup tables. Values
that are assigned are then finite if those that are given are, also where they are looked up.

Two things of a finite item may still give numbers that are not. A mapping adds up scores without
looking at their sum, and a sum of finite numbers may be too great. Bounds on both sides put such a
sum right, and scores below `2 ^ 970` never lead to one. And rounding to significant figures may go
up beyond the greatest double.

## Main definitions

- `ItemDefinition.IsFinite`: an item whose numbers are finite.
- `Mapping.ScoresFinitely` and `AreaMapping.ScoresFinitely`: the scores of finite values are finite.
- `ItemDefinition.StaysInRange`: an item with such mappings, which rounds finite numbers to finite
  ones.

## Main results

- `Mapping.scoresFinitely_of_bounds` and `AreaMapping.scoresFinitely_of_bounds`: mappings with two
  finite bounds score finitely.
- `Mapping.scoresFinitely_of_isSmall` and `AreaMapping.scoresFinitely_of_isSmall`: so do those with
  small scores, whatever their bounds.
- `ItemDefinition.IsFinite.isFinite_of_prepareFor`: the values that are assigned are finite.
-/

namespace Assessment

/-! ### Mappings -/

/-- The numbers of a mapping are finite. -/
structure Mapping.IsFinite (mapping : Mapping) : Prop where
  /-- What the entries are for is finite, and so is what they add. -/
  entries : ∀ entry ∈ mapping.entries, entry.key.IsFinite ∧ entry.mapped.isFinite = true
  /-- What scalars without an entry add is finite. -/
  defaultValue : mapping.defaultValue.isFinite = true
  /-- The least score is finite. -/
  lowerBound : ∀ bound ∈ mapping.lowerBound, bound.isFinite = true
  /-- The greatest score is finite. -/
  upperBound : ∀ bound ∈ mapping.upperBound, bound.isFinite = true

/-- The numbers of an area mapping are finite. -/
structure AreaMapping.IsFinite (mapping : AreaMapping) : Prop where
  /-- What the entries add is finite. -/
  entries : ∀ entry ∈ mapping.entries, entry.mapped.isFinite = true
  /-- What points outside all areas add is finite. -/
  defaultValue : mapping.defaultValue.isFinite = true
  /-- The least score is finite. -/
  lowerBound : ∀ bound ∈ mapping.lowerBound, bound.isFinite = true
  /-- The greatest score is finite. -/
  upperBound : ∀ bound ∈ mapping.upperBound, bound.isFinite = true

/-- The scores that a mapping gives finite values are finite. -/
def Mapping.ScoresFinitely (mapping : Mapping) : Prop :=
  ∀ value : Value, value.IsFinite → (mapping.score value).isFinite = true

/-- The scores that an area mapping gives finite values are finite. -/
def AreaMapping.ScoresFinitely (mapping : AreaMapping) : Prop :=
  ∀ value : Value, value.IsFinite → (mapping.score value).isFinite = true

/-- Between two finite bounds everything is finite, even what is no number. -/
theorem isFinite_clampTo {lower upper : Float} (hlower : lower.isFinite = true)
    (hupper : upper.isFinite = true) (total : Float) :
    (clampTo (some lower) (some upper) total).isFinite = true := by
  have hraised : greater total lower = lower ∨ greater total lower = total ∧ lower < total := by
    rw [greater, Double.isNaN_of_isFinite hlower]
    by_cases hlow : lower < total <;> cases total.isNaN <;> simp [hlow]
  have hresult : ∀ raised, raised = lower ∨ raised = total ∧ lower < total →
      (lesser raised upper).isFinite = true := by
    intro raised h
    rw [lesser, Double.isNaN_of_isFinite hupper]
    split
    next => exact hupper
    next =>
      rw [if_neg Bool.false_ne_true]
      split
      next hhigh =>
        rcases h with rfl | ⟨rfl, hlow⟩
        · exact hlower
        · exact Double.isFinite_of_lt_of_lt hlower hupper hlow hhigh
      next => exact hupper
  exact hresult _ hraised

theorem Mapping.scoresFinitely_of_bounds {mapping : Mapping} {lower upper : Float}
    (hlower : mapping.lowerBound = some lower) (hupper : mapping.upperBound = some upper)
    (h : lower.isFinite = true ∧ upper.isFinite = true) : mapping.ScoresFinitely := by
  intro value _
  rw [score, hlower, hupper]
  exact isFinite_clampTo h.1 h.2 _

theorem AreaMapping.scoresFinitely_of_bounds {mapping : AreaMapping} {lower upper : Float}
    (hlower : mapping.lowerBound = some lower) (hupper : mapping.upperBound = some upper)
    (h : lower.isFinite = true ∧ upper.isFinite = true) : mapping.ScoresFinitely := by
  intro value _
  rw [score, hlower, hupper]
  exact isFinite_clampTo h.1 h.2 _

theorem isFinite_greater {x y : Float} (hx : x.isFinite = true) (hy : y.isFinite = true) :
    (greater x y).isFinite = true := by
  rw [greater]
  split_ifs <;> assumption

theorem isFinite_lesser {x y : Float} (hx : x.isFinite = true) (hy : y.isFinite = true) :
    (lesser x y).isFinite = true := by
  rw [lesser]
  split_ifs <;> assumption

/-- A finite sum is finite between any finite bounds. -/
theorem isFinite_clampTo_of_isFinite {lower upper : Option Float} {total : Float}
    (hlower : ∀ bound ∈ lower, bound.isFinite = true)
    (hupper : ∀ bound ∈ upper, bound.isFinite = true) (htotal : total.isFinite = true) :
    (clampTo lower upper total).isFinite = true := by
  cases lower with
  | none =>
    cases upper with
    | none => exact htotal
    | some highest => exact isFinite_lesser htotal (hupper highest rfl)
  | some lowest =>
    have hraised := isFinite_greater htotal (hlower lowest rfl)
    cases upper with
    | none => exact hraised
    | some highest => exact isFinite_lesser hraised (hupper highest rfl)

/-- A sum of small scores is finite, however many there are. -/
theorem Mapping.isFinite_sum {mapping : Mapping}
    (hentries : ∀ entry ∈ mapping.entries, Double.IsSmall entry.mapped)
    (hdefault : Double.IsSmall mapping.defaultValue) (used : List Nat) (unmatched : List Scalar)
    {total : Float} (htotal : total.isFinite = true) (scalars : List Scalar) :
    (mapping.sum used unmatched total scalars).isFinite = true := by
  induction scalars generalizing used unmatched total with
  | nil => exact htotal
  | cons scalar rest ih =>
    rw [sum]
    split
    next position _ =>
      split
      next => exact ih _ _ htotal
      next =>
        refine ih _ _ (Double.IsSmall.isFinite_add (Double.isSmall_getD ?_) htotal)
        intro mapped hmapped
        obtain ⟨entry, hentry, rfl⟩ := Option.map_eq_some_iff.1 hmapped
        exact hentries entry (List.mem_of_getElem? hentry)
    next => exact ih _ _ htotal
    next => exact ih _ _ (hdefault.isFinite_add htotal)

/-- A mapping with small numbers scores finitely, with or without bounds. -/
theorem Mapping.scoresFinitely_of_isSmall {mapping : Mapping} (h : mapping.IsFinite)
    (hentries : ∀ entry ∈ mapping.entries, Double.IsSmall entry.mapped)
    (hdefault : Double.IsSmall mapping.defaultValue) : mapping.ScoresFinitely := fun value _ =>
  isFinite_clampTo_of_isFinite h.lowerBound h.upperBound
    (isFinite_sum hentries hdefault [] [] Double.isSmall_zero.1 value.elements)

/-- A sum of small scores of points is finite, however many there are. -/
theorem AreaMapping.isFinite_sum {mapping : AreaMapping}
    (hentries : ∀ entry ∈ mapping.entries, Double.IsSmall entry.mapped)
    (hdefault : Double.IsSmall mapping.defaultValue) (used : List Nat) {total : Float}
    (htotal : total.isFinite = true) (scalars : List Scalar) :
    (mapping.sum used total scalars).isFinite = true := by
  induction scalars generalizing used total with
  | nil => exact htotal
  | cons scalar rest ih =>
    cases scalar with
    | point x y =>
      rw [sum]
      split
      next position _ =>
        split
        next => exact ih _ htotal
        next =>
          refine ih _ (Double.IsSmall.isFinite_add (Double.isSmall_getD ?_) htotal)
          intro mapped hmapped
          obtain ⟨entry, hentry, rfl⟩ := Option.map_eq_some_iff.1 hmapped
          exact hentries entry (List.mem_of_getElem? hentry)
      next => exact ih _ (hdefault.isFinite_add htotal)
    | _ => exact ih _ htotal

/-- An area mapping with small numbers scores finitely, with or without bounds. -/
theorem AreaMapping.scoresFinitely_of_isSmall {mapping : AreaMapping} (h : mapping.IsFinite)
    (hentries : ∀ entry ∈ mapping.entries, Double.IsSmall entry.mapped)
    (hdefault : Double.IsSmall mapping.defaultValue) : mapping.ScoresFinitely := fun value _ =>
  isFinite_clampTo_of_isFinite h.lowerBound h.upperBound
    (isFinite_sum hentries hdefault [] Double.isSmall_zero.1 value.elements)

/-! ### Tables -/

/-- The numbers of a lookup table are finite, and so are the scalars that it gives. -/
def LookupTable.IsFinite : LookupTable → Prop
  | .exact lines default =>
    (∀ line ∈ lines, line.target.IsFinite) ∧ ∀ scalar ∈ default, scalar.IsFinite
  | .interpolation lines default =>
    (∀ line ∈ lines, line.source.isFinite = true ∧ line.target.IsFinite) ∧
      ∀ scalar ∈ default, scalar.IsFinite

/-- What is found in a finite table is finite. -/
theorem LookupTable.IsFinite.find? {table : LookupTable} (h : table.IsFinite) {source : Value}
    {scalar : Scalar} (hscalar : table.find? source = some scalar) : scalar.IsFinite := by
  cases table with
  | exact lines default =>
    rw [LookupTable.find?] at hscalar
    split at hscalar
    next line hline =>
      cases hscalar
      obtain ⟨key, -, hline⟩ := Option.bind_eq_some_iff.1 hline
      exact h.1 line (List.mem_of_find?_eq_some hline)
    next => exact h.2 scalar hscalar
  | interpolation lines default =>
    rw [LookupTable.find?] at hscalar
    split at hscalar
    next line hline =>
      cases hscalar
      obtain ⟨key, -, hline⟩ := Option.bind_eq_some_iff.1 hline
      exact (h.1 line (List.mem_of_find?_eq_some hline)).2
    next => exact h.2 scalar hscalar

/-! ### Expressions -/

namespace Expression

/-- The numbers that are written in a node are finite. -/
def IsFinite : Expression → Prop
  | baseValue scalar => scalar.IsFinite
  | randomFloat least greatest => least.isFinite = true ∧ greatest.isFinite = true
  | apply (.equal test) _ => ∀ x ∈ test.tolerance, x.isFinite = true
  | _ => True

/-- A node does not round a finite number to one that is not. -/
def RoundsFinitely : Expression → Prop
  | apply operator _ => operator.RoundsFinitely
  | _ => True

end Expression

/-! ### Items -/

/-- All numbers that are written in an item are finite. -/
structure ItemDefinition.IsFinite (definition : ItemDefinition) : Prop where
  /-- The defaults of all variables are finite. -/
  defaults : ∀ declaration ∈ definition.allVariables, ∀ value ∈ declaration.defaultValue,
    value.IsFinite
  /-- The correct answers are finite. -/
  correct : ∀ d ∈ definition.responses, ∀ value ∈ d.correctResponse, value.IsFinite
  /-- The mappings are finite. -/
  mappings : ∀ d ∈ definition.responses, ∀ mapping ∈ d.mapping, mapping.IsFinite
  /-- The area mappings are finite. -/
  areaMappings : ∀ d ∈ definition.responses, ∀ mapping ∈ d.areaMapping, mapping.IsFinite
  /-- The bounds of outcomes are finite. -/
  bounds : ∀ d ∈ definition.outcomes, ∀ x, x ∈ d.normalMaximum ∨ x ∈ d.normalMinimum ∨
    x ∈ d.masteryValue → x.isFinite = true
  /-- The lookup tables are finite. -/
  tables : ∀ d ∈ definition.outcomes, ∀ table ∈ d.lookupTable, table.IsFinite
  /-- The rules of template processing have finite literals. -/
  templateProcessing : Rule.Admitted (fun expression => ∀ node ∈ expression.walk, node.IsFinite)
    (Rule.walkAll definition.templateProcessing)
  /-- The rules of response processing have finite literals. -/
  responseProcessing : Rule.Admitted (fun expression => ∀ node ∈ expression.walk, node.IsFinite)
    (Rule.walkAll definition.responseProcessing)

/-- What is added up or rounded for a session of an item does not leave the range of doubles. -/
structure ItemDefinition.StaysInRange (definition : ItemDefinition) : Prop where
  /-- The scores of responses are finite. -/
  mappings : ∀ d ∈ definition.responses, ∀ mapping ∈ d.mapping, mapping.ScoresFinitely
  /-- The scores of points are finite. -/
  areaMappings : ∀ d ∈ definition.responses, ∀ mapping ∈ d.areaMapping, mapping.ScoresFinitely
  /-- The rules of template processing round to finite numbers. -/
  templateProcessing : Rule.Admitted
    (fun expression => ∀ node ∈ expression.walk, node.RoundsFinitely)
    (Rule.walkAll definition.templateProcessing)
  /-- The rules of response processing round to finite numbers. -/
  responseProcessing : Rule.Admitted
    (fun expression => ∀ node ∈ expression.walk, node.RoundsFinitely)
    (Rule.walkAll definition.responseProcessing)

namespace ItemDefinition

variable {definition : ItemDefinition} (h : definition.IsFinite)

include h

/-- The variables of a finite item begin with finite values. -/
theorem IsFinite.initial {declaration : Declaration}
    (hdeclaration : declaration ∈ definition.allVariables) : declaration.initial.IsFinite := by
  have hinitial : ∀ defaultValue : Option Value, (∀ value ∈ defaultValue, value.IsFinite) →
      (initialOf defaultValue).IsFinite := by
    intro defaultValue hdefault
    cases defaultValue with
    | none => exact Value.isFinite_null
    | some value => exact hdefault value rfl
  have hdefault := h.defaults declaration hdeclaration
  cases declaration with
  | builtIn builtIn =>
    cases builtIn with
    | numAttempts => exact Value.isFinite_integer 0
    | duration => exact Value.isFinite_duration.2 rfl
    | completionStatus => exact Value.isFinite_identifier _
  | template d => exact hinitial _ hdefault
  | response d => exact hinitial _ hdefault
  | outcome d => exact hinitial _ hdefault

/-- From a finite value a finite one is prepared for a variable. -/
theorem IsFinite.isFinite_of_prepareFor {target : Target} {name : Identifier}
    {declaration : Declaration} {given value : Value}
    (hname : definition.resolve? name.text = some declaration) (hgiven : given.IsFinite)
    (hvalue : prepareFor target name declaration given = .ok value) : value.IsFinite := by
  have hlooked : Yields (lookedUp target declaration name given) Value.IsFinite fun _ => True := by
    unfold lookedUp
    split
    next =>
      split
      next table htable =>
        obtain ⟨d, hd, htable⟩ := Option.bind_eq_some_iff.1 htable
        obtain ⟨hmem, -⟩ := mem_allVariables_of_resolve? hname
        cases declaration <;> cases hd
        exact isFinite_ofScalar? fun scalar hscalar =>
          (h.tables d (mem_allVariables_outcome.1 hmem) table htable).find? hscalar
      next => trivial
    next => exact hgiven
  unfold prepareFor at hvalue
  split at hvalue
  next => cases hvalue
  next =>
    split at hvalue
    next => cases hvalue
    next =>
      cases hlook : lookedUp target declaration name given with
      | error problem =>
        rw [hlook] at hvalue
        cases hvalue
      | ok looked =>
        rw [hlook] at hlooked hvalue
        change (if (coerce looked declaration.signature).conforms declaration.signature = true then
          _ else _) = _ at hvalue
        split at hvalue
        next =>
          cases hvalue
          exact isFinite_coerce hlooked _
        next => cases hvalue

end ItemDefinition

end Assessment
