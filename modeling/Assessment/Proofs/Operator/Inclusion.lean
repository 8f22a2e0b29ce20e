import Mathlib.Data.List.Infix
import Assessment.Proofs.Integer.Basic
import Assessment.Proofs.Value.Conformance
import Assessment.Proofs.Value.Equality

/-!
# Inclusion of containers

Whether a container without order holds another one is found by taking the scalars of the other out
of it, each time the first that is equal; whether a container with order does, by a window that is
moved along it. Both come to what the words say: to counting how often each scalar is there, and to
a block of neighbours. In terms of what scalars are compared as, these are `List.Subperm` and
`List.IsInfix`, from which it follows that inclusion is an order.

The equality of containers is computed in another way, and it is inclusion in both directions. The
operator `match` is not defined on spans of time, so that it does not tell of these.

## Main definitions

- `Container.Includes` and `Container.HasRun`: what it is for a container to hold another.
- `Container.without`: a container without the scalars that are equal to a given one.
- `Operator.Tells`: the truth value that an operator has.
- `Operator.IsInclusion`: what is to be shown of the operators on containers.

## Main results

- `Scalar.isSome_takeOutAll_iff` and `Scalar.hasBlock_same_iff`: how inclusion is computed.
- `Operator.isInclusion`: the laws of inclusion.
-/

namespace Assessment

/-! ### Blocks -/

section Block

variable {α : Type} {same : α → α → Bool} {part list : List α}

theorem beginsWith_iff :
    beginsWith same list part = true ↔
      ∃ block after, list = block ++ after ∧
        List.Forall₂ (fun a b => same a b = true) block part := by
  induction part generalizing list with
  | nil => simp [beginsWith]
  | cons b part ih =>
    cases list with
    | nil => simp [beginsWith]
    | cons a list =>
      rw [beginsWith, Bool.and_eq_true, ih]
      constructor
      · rintro ⟨hsame, block, after, rfl, hblock⟩
        exact ⟨a :: block, after, rfl, .cons hsame hblock⟩
      · rintro ⟨_, after, heq, hsame | ⟨hsame, hblock⟩⟩
        cases heq
        exact ⟨hsame, _, after, rfl, hblock⟩

/-- A window that is moved along a list finds every block of neighbours. -/
theorem hasBlock_iff :
    hasBlock same part list = true ↔
      ∃ before block after, list = before ++ block ++ after ∧
        List.Forall₂ (fun a b => same a b = true) block part := by
  induction list with
  | nil => cases part <;> simp [hasBlock]
  | cons a rest ih =>
    rw [hasBlock, Bool.or_eq_true, beginsWith_iff, ih]
    constructor
    · rintro (⟨block, after, heq, hblock⟩ | ⟨before, block, after, rfl, hblock⟩)
      · exact ⟨[], block, after, heq, hblock⟩
      · exact ⟨a :: before, block, after, rfl, hblock⟩
    · rintro ⟨before, block, after, heq, hblock⟩
      cases before with
      | nil => exact .inl ⟨block, after, heq, hblock⟩
      | cons _ before =>
        obtain ⟨rfl, rfl⟩ := List.cons.inj heq
        exact .inr ⟨before, block, after, rfl, hblock⟩

end Block

/-! ### Scalars -/

namespace Scalar

variable {scalar : Scalar} {items bag : List Scalar}

/-- Counting the scalars that are equal to one is counting what means the same. -/
theorem countP_beq [DecidableEq Meaning] (h : scalar.IsNumeric) :
    bag.countP (· == scalar) = (bag.map meaning).count scalar.meaning := by
  rw [List.count, List.countP_map]
  refine List.countP_congr fun candidate _ => ?_
  rw [beq_iff, Function.comp_apply, beq_iff_eq]
  exact ⟨fun hequal => hequal.2, fun hequal => ⟨isNumeric_congr hequal.symm h, hequal⟩⟩

/-- Everything is taken out of a bag that holds what means the same. -/
theorem isSome_takeOutAll_iff :
    (takeOutAll items bag).isSome = true ↔
      (∀ scalar ∈ items, scalar.IsNumeric) ∧ (items.map meaning).Subperm (bag.map meaning) := by
  induction items generalizing bag with
  | nil => simp [takeOutAll, List.nil_subperm]
  | cons first rest ih =>
    rw [takeOutAll, Option.bind_eq_bind, Option.isSome_bind, Option.any_eq_true, List.map_cons,
      List.forall_mem_cons]
    constructor
    · rintro ⟨left, htaken, hleft⟩
      obtain ⟨hrest, hsub⟩ := ih.1 hleft
      obtain ⟨candidate, hequal, hbag⟩ := takeOut_eq_some htaken
      obtain ⟨hcandidate, hmeaning⟩ := beq_iff.1 hequal
      refine ⟨⟨isNumeric_congr hmeaning hcandidate, hrest⟩, ?_⟩
      rw [(hbag.map meaning).subperm_left, List.map_cons, hmeaning, List.subperm_cons]
      exact hsub
    · rintro ⟨⟨hfirst, hrest⟩, hsub⟩
      obtain ⟨same, hsame, hmeaning⟩ := List.mem_map.1 (hsub.subset List.mem_cons_self)
      obtain ⟨left, htaken⟩ :=
        exists_takeOut hsame (beq_iff.2 ⟨isNumeric_congr hmeaning.symm hfirst, hmeaning⟩)
      -- Whatever was taken for the first scalar means the same, so that the others fit into what
      -- is left.
      obtain ⟨candidate, hequal, hbag⟩ := takeOut_eq_some htaken
      rw [(hbag.map meaning).subperm_left, List.map_cons, (beq_iff.1 hequal).2,
        List.subperm_cons] at hsub
      exact ⟨left, htaken, ih.2 ⟨hrest, hsub⟩⟩

/-- A block of neighbours that are equal is one of neighbours that mean the same. -/
theorem hasBlock_same_iff :
    hasBlock same items bag = true ↔
      (∀ scalar ∈ items, scalar.IsNumeric) ∧ items.map meaning <:+: bag.map meaning := by
  rw [hasBlock_iff]
  constructor
  · rintro ⟨before, block, after, rfl, hblock⟩
    obtain ⟨hnumeric, hmeaning⟩ := forall₂_beq_iff.1 hblock
    refine ⟨fun scalar hscalar => ?_, before.map meaning, after.map meaning, ?_⟩
    · obtain ⟨same, hsame, heq⟩ := List.mem_map.1 (hmeaning ▸ List.mem_map_of_mem hscalar)
      exact isNumeric_congr heq (hnumeric same hsame)
    · rw [List.map_append, List.map_append, hmeaning]
  · rintro ⟨hnumeric, before, after, heq⟩
    obtain ⟨front, after, rfl, hfront, rfl⟩ := List.map_eq_append_iff.1 heq.symm
    obtain ⟨before, block, rfl, rfl, hblock⟩ := List.map_eq_append_iff.1 hfront
    refine ⟨before, block, after, rfl, forall₂_beq_iff.2 ⟨fun scalar hscalar => ?_, hblock⟩⟩
    obtain ⟨same, hsame, heq⟩ := List.mem_map.1 (hblock ▸ List.mem_map_of_mem hscalar)
    exact isNumeric_congr heq (hnumeric same hsame)

end Scalar

/-! ### Containers -/

namespace Container

/-- All doubles in a container are numbers. -/
def IsNumeric (container : Container) : Prop := ∀ scalar ∈ container.items, scalar.IsNumeric

/-- A container holds every scalar of another one at least as often. -/
def Includes (haystack needle : Container) : Prop :=
  ∀ scalar ∈ needle.items,
    needle.items.countP (· == scalar) ≤ haystack.items.countP (· == scalar)

/-- A container holds another one as a block of neighbours. -/
def HasRun (haystack needle : Container) : Prop :=
  ∃ before block after, haystack.items = before ++ block ++ after ∧
    List.Forall₂ (fun a b => (a == b) = true) block needle.items

/-- A container without the scalars that are equal to a given one. -/
def without (container : Container) (scalar : Scalar) : Container :=
  ⟨container.baseType, container.items.filter fun item => !(item == scalar),
    fun item h => container.homogeneous item (List.mem_of_mem_filter h)⟩

variable {x y z : Container}

theorem includes_iff_subperm (h : y.IsNumeric) :
    x.Includes y ↔ (y.items.map Scalar.meaning).Subperm (x.items.map Scalar.meaning) := by
  classical
  rw [List.subperm_ext_iff, List.forall_mem_map]
  refine forall₂_congr fun scalar hscalar => ?_
  rw [Scalar.countP_beq (h scalar hscalar), Scalar.countP_beq (h scalar hscalar)]

theorem hasRun_iff_isInfix :
    x.HasRun y ↔ y.IsNumeric ∧ y.items.map Scalar.meaning <:+: x.items.map Scalar.meaning := by
  rw [← show _ ↔ x.HasRun y from hasBlock_iff]
  exact Scalar.hasBlock_same_iff

theorem has_without (scalar : Scalar) : (x.without scalar).has scalar = false := by
  simp [has, without]

end Container

/-! ### Operators -/

namespace Operator

/-- An operator has a truth value over operands, which is whether something holds. -/
def Tells (policy : OverflowPolicy) (source : RandomSource) (operator : Operator)
    (operands : List Value) (holds : Prop) : Prop :=
  ∃ answer, operator.apply policy operands source = .ok (.boolean answer, source) ∧
    (answer = true ↔ holds)

/-- An operator is true of operands. -/
def IsTrueOf (policy : OverflowPolicy) (source : RandomSource) (operator : Operator)
    (operands : List Value) : Prop :=
  operator.apply policy operands source = .ok (.boolean true, source)

variable {policy : OverflowPolicy} {source : RandomSource} {operator : Operator}
  {operands : List Value} {holds : Prop} {x y z : Container} {a b c : Value}

theorem Tells.isTrueOf_iff (h : Tells policy source operator operands holds) :
    IsTrueOf policy source operator operands ↔ holds := by
  obtain ⟨answer, happly, hanswer⟩ := h
  rw [IsTrueOf, happly, ← hanswer]
  simp [Value.boolean]

/-- What is true of operands is computed from them, and none of them is nothing. -/
theorem IsTrueOf.compute_eq (h : IsTrueOf policy source operator operands)
    (htakes : operator.takesNull = false) (hrandom : operator ≠ .random) :
    operands.any Value.isNull = false ∧
      operator.compute policy operands = .ok (.boolean true) := by
  cases hnull : operands.any Value.isNull with
  | true =>
    have happly : operator.apply policy operands source = .ok (.null, source) :=
      if_pos (by simp [hnull, htakes])
    rw [IsTrueOf, happly] at h
    cases h
  | false =>
    rw [IsTrueOf, apply_of_any_isNull hnull hrandom] at h
    cases hcompute : operator.compute policy operands with
    | error fault => rw [hcompute] at h; cases h
    | ok value =>
      rw [hcompute] at h
      cases h
      exact ⟨rfl, rfl⟩

/-- What an operator computes for two containers is its value over them. -/
theorem apply_pair_eq {wrap : Container → Value} (hwrap : wrap = .multiple ∨ wrap = .ordered)
    (hrandom : operator ≠ .random) (hx : x.items ≠ []) (hy : y.items ≠ []) :
    operator.apply policy [wrap x, wrap y] source =
      (operator.compute policy [wrap x, wrap y]).map (·, source) := by
  refine apply_of_any_isNull ?_ hrandom policy source
  obtain rfl | rfl := hwrap <;> simp [Value.isNull, Container.isEmpty, hx, hy]

/-! ### Containers in containers -/

theorem compute_contains_multiple :
    contains.compute policy [.multiple x, .multiple y] =
      if x.baseType ≠ y.baseType then .error (expecting "contains" "operands of one base type")
      else .ok (.boolean (Scalar.takeOutAll y.items x.items).isSome) := rfl

theorem compute_contains_ordered :
    contains.compute policy [.ordered x, .ordered y] =
      if x.baseType ≠ y.baseType then .error (expecting "contains" "operands of one base type")
      else .ok (.boolean (hasBlock Scalar.same y.items x.items)) := rfl

/-- A container without order holds another one if it has each scalar of it as often. -/
theorem tells_contains_multiple (hx : x.items ≠ []) (hy : y.items ≠ []) (hnumeric : y.IsNumeric)
    (hbase : x.baseType = y.baseType) :
    contains.Tells policy source [.multiple x, .multiple y] (x.Includes y) := by
  refine ⟨(Scalar.takeOutAll y.items x.items).isSome, ?_, ?_⟩
  · rw [apply_pair_eq (.inl rfl) (show contains ≠ random from nofun) hx hy,
      compute_contains_multiple, if_neg (not_not_intro hbase)]
    rfl
  · rw [Scalar.isSome_takeOutAll_iff, Container.includes_iff_subperm hnumeric]
    exact and_iff_right hnumeric

/-- A container with order holds another one if it has it as a block. -/
theorem tells_contains_ordered (hx : x.items ≠ []) (hy : y.items ≠ [])
    (hbase : x.baseType = y.baseType) :
    contains.Tells policy source [.ordered x, .ordered y] (x.HasRun y) := by
  refine ⟨hasBlock Scalar.same y.items x.items, ?_, hasBlock_iff⟩
  rw [apply_pair_eq (.inr rfl) (show contains ≠ random from nofun) hx hy,
    compute_contains_ordered, if_neg (not_not_intro hbase)]
  rfl

/-- A container holds itself. -/
theorem isTrueOf_contains_self {wrap : Container → Value}
    (hwrap : wrap = .multiple ∨ wrap = .ordered) (hx : x.items ≠ []) (hnumeric : x.IsNumeric) :
    contains.IsTrueOf policy source [wrap x, wrap x] := by
  obtain rfl | rfl := hwrap
  · exact (tells_contains_multiple hx hx hnumeric rfl).isTrueOf_iff.2 fun _ _ => le_rfl
  · refine (tells_contains_ordered hx hx rfl).isTrueOf_iff.2 ⟨[], x.items, [], by simp, ?_⟩
    exact Scalar.forall₂_beq_iff.2 ⟨hnumeric, rfl⟩

/-- What holds another value, and that value, are containers of one cardinality and base type, of
which the one stands in the other as what scalars are compared as. -/
theorem IsTrueOf.exists_containers (h : contains.IsTrueOf policy source [a, b]) :
    ∃ x y : Container, x.items ≠ [] ∧ y.items ≠ [] ∧ x.baseType = y.baseType ∧ y.IsNumeric ∧
      ((a = .multiple x ∧ b = .multiple y ∧
          (y.items.map Scalar.meaning).Subperm (x.items.map Scalar.meaning)) ∨
        (a = .ordered x ∧ b = .ordered y ∧
          y.items.map Scalar.meaning <:+: x.items.map Scalar.meaning)) := by
  obtain ⟨hnull, hcompute⟩ := h.compute_eq rfl nofun
  obtain ⟨ha, hb⟩ : a.isNull = false ∧ b.isNull = false := by simpa using hnull
  -- Every other pair of values is refused.
  match a, b with
  | .multiple x, .multiple y =>
    rw [compute_contains_multiple] at hcompute
    split at hcompute
    next => cases hcompute
    next hbase =>
      have hfound : (Scalar.takeOutAll y.items x.items).isSome = true := by
        simpa [Value.boolean] using hcompute
      obtain ⟨hnumeric, hsub⟩ := Scalar.isSome_takeOutAll_iff.1 hfound
      exact ⟨x, y, List.isEmpty_eq_false_iff.1 ha, List.isEmpty_eq_false_iff.1 hb,
        not_not.1 hbase, hnumeric, .inl ⟨rfl, rfl, hsub⟩⟩
  | .ordered x, .ordered y =>
    rw [compute_contains_ordered] at hcompute
    split at hcompute
    next => cases hcompute
    next hbase =>
      have hfound : hasBlock Scalar.same y.items x.items = true := by
        simpa [Value.boolean] using hcompute
      obtain ⟨hnumeric, hrun⟩ := Scalar.hasBlock_same_iff.1 hfound
      exact ⟨x, y, List.isEmpty_eq_false_iff.1 ha, List.isEmpty_eq_false_iff.1 hb,
        not_not.1 hbase, hnumeric, .inr ⟨rfl, rfl, hrun⟩⟩
  | .null, _ | .single _, _ | .record _, _ => cases hcompute
  | .multiple _, .null | .multiple _, .single _ | .multiple _, .ordered _
  | .multiple _, .record _ => cases hcompute
  | .ordered _, .null | .ordered _, .single _ | .ordered _, .multiple _
  | .ordered _, .record _ => cases hcompute

/-- What is held by what a value holds is held by the value. -/
theorem IsTrueOf.contains_trans (hab : contains.IsTrueOf policy source [a, b])
    (hbc : contains.IsTrueOf policy source [b, c]) :
    contains.IsTrueOf policy source [a, c] := by
  obtain ⟨x, y, hx, -, hxy, -, ⟨rfl, rfl, hsub⟩ | ⟨rfl, rfl, hrun⟩⟩ := hab.exists_containers
  · obtain ⟨_, z, -, hz, hyz, hnumeric, ⟨hy, rfl, hsub'⟩ | ⟨hy, -⟩⟩ := hbc.exists_containers
    · cases hy
      rw [(tells_contains_multiple hx hz hnumeric (hxy.trans hyz)).isTrueOf_iff,
        Container.includes_iff_subperm hnumeric]
      exact hsub'.trans hsub
    · cases hy
  · obtain ⟨_, z, -, hz, hyz, hnumeric, ⟨hy, -⟩ | ⟨hy, rfl, hrun'⟩⟩ := hbc.exists_containers
    · cases hy
    · cases hy
      rw [(tells_contains_ordered hx hz (hxy.trans hyz)).isTrueOf_iff,
        Container.hasRun_iff_isInfix]
      exact ⟨hnumeric, hrun'.trans hrun⟩

/-- Containers without order hold each other if they are equal as values. -/
theorem contains_antisymm_iff (hx : x.items ≠ []) (hy : y.items ≠ []) (hxnumeric : x.IsNumeric)
    (hynumeric : y.IsNumeric) (hbase : x.baseType = y.baseType) :
    contains.IsTrueOf policy source [.multiple x, .multiple y] ∧
        contains.IsTrueOf policy source [.multiple y, .multiple x] ↔
      (Value.multiple x == Value.multiple y) = true := by
  rw [(tells_contains_multiple hx hy hynumeric hbase).isTrueOf_iff,
    (tells_contains_multiple hy hx hxnumeric hbase.symm).isTrueOf_iff,
    Container.includes_iff_subperm hynumeric, Container.includes_iff_subperm hxnumeric,
    Value.beq_iff, Value.meaning_multiple_eq_iff]
  exact ⟨fun h => ⟨hxnumeric, h.2.antisymm h.1⟩, fun h => ⟨h.2.symm.subperm, h.2.subperm⟩⟩

/-- Containers of one base type are matched by the equality of values, unless they hold spans of
time. -/
theorem isTrueOf_match_iff (hx : x.items ≠ []) (hy : y.items ≠ [])
    (hbase : x.baseType = y.baseType) (hduration : x.baseType ≠ .duration) :
    equalValues.IsTrueOf policy source [.multiple x, .multiple y] ↔
      (Value.multiple x == Value.multiple y) = true := by
  have hcompute : equalValues.compute policy [.multiple x, .multiple y] =
      .ok (.boolean (Value.multiple x == Value.multiple y)) := by
    change equalValue "match" _ _ = _
    simp [equalValue, Value.cardinality?, Value.baseType?, Value.isNull, Container.isEmpty, hx, hy,
      hbase, hbase ▸ hduration]
  rw [IsTrueOf, apply_pair_eq (.inl rfl) (by simp : equalValues ≠ random) hx hy, hcompute]
  simp [Value.boolean, Except.map]

/-! ### Containers without a scalar -/

/-- Reading a scalar and a container of its base type from two operands. -/
theorem needleAndContainer_eq {wrap : Container → Value}
    (hwrap : wrap = .multiple ∨ wrap = .ordered) {scalar : Scalar}
    (hbase : scalar.baseType = x.baseType) (operation : String) :
    needleAndContainer operation [.single scalar, wrap x] = .ok (scalar, x) := by
  obtain rfl | rfl := hwrap <;> exact if_neg (not_not_intro hbase.symm)

theorem compute_delete {wrap : Container → Value} (hwrap : wrap = .multiple ∨ wrap = .ordered)
    {scalar : Scalar} (hbase : scalar.baseType = x.baseType) :
    delete.compute policy [.single scalar, wrap x] =
      .ok (Value.ofContainer wrap (x.without scalar)) := by
  have hneedle := needleAndContainer_eq hwrap hbase "delete"
  obtain rfl | rfl := hwrap
  · change (needleAndContainer "delete" _ >>= _) = _
    rw [hneedle]
    exact buildContainer_items (x.without scalar) "delete" false
  · change (needleAndContainer "delete" _ >>= _) = _
    rw [hneedle]
    exact buildContainer_items (x.without scalar) "delete" true

theorem any_isNull_pair {wrap : Container → Value} (hwrap : wrap = .multiple ∨ wrap = .ordered)
    {scalar : Scalar} : [.single scalar, wrap x].any Value.isNull = x.isEmpty := by
  obtain rfl | rfl := hwrap <;> simp [Value.isNull]

/-- A container keeps its cardinality and all scalars but those that are equal to a given one. If
none is kept, there is nothing. -/
theorem apply_delete {wrap : Container → Value} (hwrap : wrap = .multiple ∨ wrap = .ordered)
    {scalar : Scalar} (hbase : scalar.baseType = x.baseType) :
    delete.apply policy [.single scalar, wrap x] source =
      .ok (Value.ofContainer wrap (x.without scalar), source) := by
  cases hx : x.isEmpty with
  | true =>
    -- A container without scalars is nothing, and so is what is left of it.
    have happly : delete.apply policy [.single scalar, wrap x] source = .ok (.null, source) :=
      if_pos (by simp [any_isNull_pair hwrap, hx, takesNull])
    have hleft : (x.without scalar).isEmpty = true := by
      rw [Container.isEmpty, List.isEmpty_iff] at hx ⊢
      simp [Container.without, hx]
    rw [happly, Value.ofContainer, if_pos hleft]
  | false =>
    have hrandom : delete ≠ random := by simp
    rw [apply_of_any_isNull ((any_isNull_pair hwrap).trans hx) hrandom,
      compute_delete hwrap hbase]
    rfl

/-- A scalar is no member of what is left. -/
theorem not_isTrueOf_member_without {wrap : Container → Value}
    (hwrap : wrap = .multiple ∨ wrap = .ordered) {scalar : Scalar}
    (hbase : scalar.baseType = x.baseType) :
    ¬member.IsTrueOf policy source
      [.single scalar, Value.ofContainer wrap (x.without scalar)] := by
  intro h
  obtain ⟨hnull, hcompute⟩ := h.compute_eq rfl nofun
  rw [Value.ofContainer] at hnull hcompute
  split at hcompute
  next hempty => simp [hempty, Value.isNull] at hnull
  next =>
    have hmember : member.compute policy [.single scalar, wrap (x.without scalar)] =
        .ok (.boolean ((x.without scalar).has scalar)) := by
      change (needleAndContainer "member" _ >>= _) = _
      rw [needleAndContainer_eq hwrap (x := x.without scalar) hbase]
      rfl
    rw [hmember, Container.has_without] at hcompute
    cases hcompute

/-! ### The laws of inclusion -/

/-- What the operators on containers have in common, of containers in which all doubles are
numbers. -/
structure IsInclusion (policy : OverflowPolicy) (source : RandomSource) : Prop where
  /-- A container without order holds another one if it has each scalar of it as often. -/
  multiple : ∀ x y : Container, x.items ≠ [] → y.items ≠ [] → x.IsNumeric → y.IsNumeric →
    x.baseType = y.baseType →
    contains.Tells policy source [.multiple x, .multiple y] (x.Includes y)
  /-- A container with order holds another one if it has it as a block of neighbours. -/
  ordered : ∀ x y : Container, x.items ≠ [] → y.items ≠ [] → x.IsNumeric → y.IsNumeric →
    x.baseType = y.baseType →
    contains.Tells policy source [.ordered x, .ordered y] (x.HasRun y)
  /-- A container holds itself. -/
  refl : ∀ x : Container, x.items ≠ [] → x.IsNumeric →
    contains.IsTrueOf policy source [.multiple x, .multiple x] ∧
      contains.IsTrueOf policy source [.ordered x, .ordered x]
  /-- What is held by what a value holds is held by the value. -/
  trans : ∀ a b c : Value, contains.IsTrueOf policy source [a, b] →
    contains.IsTrueOf policy source [b, c] → contains.IsTrueOf policy source [a, c]
  /-- Containers without order hold each other if they match, unless they hold spans of time. -/
  antisymm : ∀ x y : Container, x.items ≠ [] → y.items ≠ [] → x.IsNumeric → y.IsNumeric →
    x.baseType = y.baseType → x.baseType ≠ .duration →
    (contains.IsTrueOf policy source [.multiple x, .multiple y] ∧
        contains.IsTrueOf policy source [.multiple y, .multiple x] ↔
      equalValues.IsTrueOf policy source [.multiple x, .multiple y])
  /-- A container keeps its cardinality and, in order, all scalars but those that are equal to a
  given one, which is no member of what is left. Nothing is left if no scalar is. -/
  delete : ∀ (wrap : Container → Value) (x : Container) (scalar : Scalar),
    wrap = .multiple ∨ wrap = .ordered → scalar.baseType = x.baseType →
    delete.apply policy [.single scalar, wrap x] source =
        .ok (Value.ofContainer wrap (x.without scalar), source) ∧
      ¬member.IsTrueOf policy source [.single scalar, Value.ofContainer wrap (x.without scalar)]

/-- **To contain is an order of containers**: it is inclusion of bags, or of a block, and on bags of
anything but spans of time it is what `match` makes an equality of. -/
theorem isInclusion (policy : OverflowPolicy) (source : RandomSource) :
    IsInclusion policy source where
  multiple _ _ hx hy _ hnumeric hbase := tells_contains_multiple hx hy hnumeric hbase
  ordered _ _ hx hy _ _ hbase := tells_contains_ordered hx hy hbase
  refl _ hx hnumeric :=
    ⟨isTrueOf_contains_self (.inl rfl) hx hnumeric, isTrueOf_contains_self (.inr rfl) hx hnumeric⟩
  trans _ _ _ hab hbc := hab.contains_trans hbc
  antisymm _ _ hx hy hxnumeric hynumeric hbase hduration :=
    (contains_antisymm_iff hx hy hxnumeric hynumeric hbase).trans
      (isTrueOf_match_iff hx hy hbase hduration).symm
  delete _ _ _ hwrap hbase :=
    ⟨apply_delete hwrap hbase, not_isTrueOf_member_without hwrap hbase⟩

/-- A span of time as the only scalar of a container. -/
def oneSpan : Container := ⟨.duration, [.duration 1.0], by simp [Scalar.baseType]⟩

/-- Containers of spans of time hold each other without a match, since spans of time are not
compared. Scalars of another base type are not taken out of them. -/
theorem not_forall_antisymm_and_not_forall_delete :
    (¬∀ (policy : OverflowPolicy) (source : RandomSource) (x y : Container),
      x.items ≠ [] → y.items ≠ [] → x.IsNumeric → y.IsNumeric → x.baseType = y.baseType →
      (contains.IsTrueOf policy source [.multiple x, .multiple y] ∧
          contains.IsTrueOf policy source [.multiple y, .multiple x] ↔
        equalValues.IsTrueOf policy source [.multiple x, .multiple y])) ∧
    ¬∀ (policy : OverflowPolicy) (source : RandomSource) (x : Container) (scalar : Scalar),
      x.items ≠ [] → x.IsNumeric →
      ∃ value, delete.apply policy [.single scalar, .multiple x] source = .ok (value, source) := by
  have hitems : oneSpan.items ≠ [] := List.cons_ne_nil _ _
  have hnumeric : oneSpan.IsNumeric :=
    List.forall_mem_singleton.2 (show (1.0 : Float).isNaN = false by decide +kernel)
  constructor
  · intro h
    have hself : contains.IsTrueOf .fail (.ofSeed 0) [.multiple oneSpan, .multiple oneSpan] :=
      isTrueOf_contains_self (.inl rfl) hitems hnumeric
    have hmatch := (h .fail (.ofSeed 0) oneSpan oneSpan hitems hitems hnumeric hnumeric rfl).1
      ⟨hself, hself⟩
    cases (hmatch.compute_eq rfl nofun).2
  · intro h
    obtain ⟨value, hvalue⟩ := h .fail (.ofSeed 0) oneSpan (.boolean true) hitems hnumeric
    cases hvalue

end Operator

end Assessment
