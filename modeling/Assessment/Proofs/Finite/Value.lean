import Assessment.Execution.Stage
import Assessment.Proofs.Action
import Assessment.Proofs.Number.Finite

/-!
# Finite values

A value is finite if no double and no duration in it is an infinity or no number at all. Candidates
can only send finite values, and what is built from finite scalars is finite: containers, records,
and the doubles that words become where doubles are declared.

## Main definitions

- `Value.IsFinite` and `Store.IsFinite`: finite values, and stores of such values.

## Main results

- `Value.yields_ofResponse`: candidates only send finite values.
- `isFinite_coerce`: the value is still finite that is made one of a declared type.
-/

namespace Assessment

/-! ### Scalars -/

/-- A scalar that is no infinity and a number where it has to be one. -/
def Scalar.IsFinite : Scalar → Prop
  | .float x | .duration x => x.isFinite = true
  | _ => True

instance Scalar.decidableIsFinite : DecidablePred Scalar.IsFinite := fun scalar => by
  cases scalar <;> unfold IsFinite <;> infer_instance

namespace Scalar

/-- The number of a finite scalar is finite. -/
theorem IsFinite.toFloat? {scalar : Scalar} {x : Float} (h : scalar.IsFinite)
    (hx : scalar.toFloat? = some x) : x.isFinite = true := by
  cases scalar with
  | integer n =>
    obtain rfl := Option.some.inj hx
    exact Word.isFinite_toFloat n
  | float y =>
    obtain rfl := Option.some.inj hx
    exact h
  | _ => cases hx

/-- A word becomes a finite double. -/
theorem IsFinite.widened {scalar : Scalar} (h : scalar.IsFinite) (baseType : BaseType) :
    (widened baseType scalar).IsFinite := by
  unfold Assessment.widened
  split
  next n => exact Word.isFinite_toFloat n
  next => exact h

/-- Only finite scalars are read from text. -/
theorem isFinite_of_read? {baseType : BaseType} {input : String} {scalar : Scalar}
    (h : read? baseType input = some scalar) : scalar.IsFinite := by
  -- Infinities and what is no number have texts as well, which both readings of doubles leave out.
  have hfinite : ∀ {x : Float}, readFinite (Text.trim input) = some x → x.isFinite = true :=
    fun hx => (Option.filter_eq_some_iff.1 hx).2
  cases baseType <;> simp only [read?] at h
  case float =>
    obtain ⟨x, hx, rfl⟩ := Option.map_eq_some_iff.1 h
    exact hfinite hx
  case duration =>
    obtain ⟨x, hx, rfl⟩ := Option.map_eq_some_iff.1 h
    exact hfinite (Option.filter_eq_some_iff.1 hx).1
  case boolean =>
    split at h
    next => cases h; trivial
    next =>
      split at h
      next => cases h; trivial
      next => cases h
  case point =>
    obtain ⟨_, -, h⟩ := Option.bind_eq_some_iff.1 h
    obtain ⟨_, -, h⟩ := Option.bind_eq_some_iff.1 h
    obtain ⟨_, -, h⟩ := Option.bind_eq_some_iff.1 h
    cases h
    trivial
  case file => cases h
  case string => cases h; trivial
  case uri => cases h; trivial
  all_goals
    obtain ⟨_, -, rfl⟩ := Option.map_eq_some_iff.1 h
    trivial

end Scalar

/-! ### Values -/

namespace Value

/-- All scalars of a value, those of a record included. -/
def scalars : Value → List Scalar
  | null => []
  | single scalar => [scalar]
  | multiple container | ordered container => container.items
  | record fields => fields.values

/-- A value of finite scalars. -/
def IsFinite (value : Value) : Prop := ∀ scalar ∈ value.scalars, scalar.IsFinite

instance : DecidablePred IsFinite := fun value =>
  inferInstanceAs (Decidable (∀ scalar ∈ value.scalars, scalar.IsFinite))

@[simp]
theorem isFinite_null : null.IsFinite := nofun

@[simp]
theorem isFinite_single {scalar : Scalar} : (single scalar).IsFinite ↔ scalar.IsFinite :=
  List.forall_mem_singleton

@[simp]
theorem isFinite_boolean (b : Bool) : (boolean b).IsFinite := isFinite_single.2 trivial

@[simp]
theorem isFinite_integer (n : Int64) : (integer n).IsFinite := isFinite_single.2 trivial

@[simp]
theorem isFinite_identifier (i : Identifier) : (identifier i).IsFinite := isFinite_single.2 trivial

@[simp]
theorem isFinite_float {x : Float} : (float x).IsFinite ↔ x.isFinite = true := isFinite_single

@[simp]
theorem isFinite_duration {x : Float} : (duration x).IsFinite ↔ x.isFinite = true :=
  isFinite_single

variable {value : Value}

/-- The elements of a value are among its scalars. -/
theorem IsFinite.elements (h : value.IsFinite) : ∀ scalar ∈ value.elements, scalar.IsFinite := by
  cases value with
  | null => nofun
  | single _ => exact h
  | multiple _ => exact h
  | ordered _ => exact h
  | record _ => nofun

/-- The container of a finite value has finite scalars. -/
theorem IsFinite.container? (h : value.IsFinite) {container : Container}
    (hcontainer : value.container? = some container) :
    ∀ scalar ∈ container.items, scalar.IsFinite := by
  cases value with
  | multiple _ | ordered _ =>
    cases hcontainer
    exact h
  | _ => cases hcontainer

/-- A value of a container is finite if the scalars in it are, whether it is empty or not. -/
theorem isFinite_ofContainer {wrap : Container → Value} {container : Container}
    (hwrap : (wrap container).scalars = container.items)
    (h : ∀ scalar ∈ container.items, scalar.IsFinite) : (ofContainer wrap container).IsFinite := by
  unfold ofContainer
  split
  next => exact isFinite_null
  next =>
    unfold IsFinite
    rw [hwrap]
    exact h

theorem items_of_ofItems {baseType : BaseType} {items : List Scalar} {container : Container}
    (h : Container.ofItems baseType items = .ok container) : container.items = items := by
  unfold Container.ofItems at h
  split at h
  next => cases h
  next =>
    cases h
    rfl

section containers

variable {baseType : BaseType} {items : List Scalar}
  (hitems : ∀ scalar ∈ items, scalar.IsFinite)

include hitems

theorem yields_multipleOf : Yields (multipleOf baseType items) IsFinite fun _ => True := by
  unfold multipleOf
  split
  next hcontainer =>
    rw [← items_of_ofItems hcontainer] at hitems
    exact isFinite_ofContainer rfl hitems
  next => trivial

theorem yields_orderedOf : Yields (orderedOf baseType items) IsFinite fun _ => True := by
  unfold orderedOf
  split
  next hcontainer =>
    rw [← items_of_ofItems hcontainer] at hitems
    exact isFinite_ofContainer rfl hitems
  next => trivial

end containers

theorem yields_read (baseType : BaseType) (input : String) :
    Yields (Scalar.read baseType input) Scalar.IsFinite fun _ => True := by
  unfold Scalar.read
  split
  next hfound => exact Scalar.isFinite_of_read? hfound
  next => trivial

/-- Candidates only send finite values, whatever they write. -/
theorem yields_ofResponse (signature : Signature) (data : ResponseData) :
    Yields (ofResponse signature data) IsFinite fun _ => True := by
  have hread : ∀ (baseType : BaseType) (entries : List String),
      Yields (entries.mapM (Scalar.read baseType)) (fun items => ∀ scalar ∈ items, scalar.IsFinite)
        fun _ => True :=
    fun baseType _ => yields_mapM_all fun entry _ => yields_read baseType entry
  unfold ofResponse
  split
  case h_1 | h_2 | h_4 | h_5 | h_8 => trivial
  case h_3 => exact isFinite_single.2 trivial
  case h_6 => exact isFinite_null
  case h_7 =>
    split
    next => exact isFinite_null
    next =>
      rw [yields_map]
      exact (yields_read _ _).mono (fun _ => isFinite_single.2) fun _ h => h
  case h_9 => exact (hread _ _).bind fun _ => yields_multipleOf
  case h_10 => exact (hread _ _).bind fun _ => yields_orderedOf

end Value

/-- A finite value stays finite when its words become doubles. -/
theorem isFinite_coerce {value : Value} (h : value.IsFinite) (signature : Signature) :
    (coerce value signature).IsFinite := by
  have hscalars : ∀ scalar ∈ value.elements.map (widened .float), scalar.IsFinite := by
    intro scalar hscalar
    obtain ⟨before, hbefore, rfl⟩ := List.mem_map.1 hscalar
    exact (h.elements before hbefore).widened .float
  unfold coerce
  split
  next => exact h
  next =>
    dsimp only
    split
    next hwidened =>
      rw [hwidened] at hscalars
      exact hscalars
    next hcontainer =>
      rw [← Value.items_of_ofItems hcontainer] at hscalars
      exact hscalars
    next hcontainer =>
      rw [← Value.items_of_ofItems hcontainer] at hscalars
      exact hscalars
    next => exact h

/-! ### Stores -/

namespace Store

/-- A store of finite values. -/
def IsFinite (store : Store) : Prop := ∀ entry ∈ store.toList, entry.2.IsFinite

instance : DecidablePred IsFinite := fun store =>
  inferInstanceAs (Decidable (∀ entry ∈ store.toList, entry.2.IsFinite))

variable {store changed : Store} {name : Identifier} {value : Value}

theorem isFinite_empty : IsFinite .empty := nofun

/-- What is found in a finite store is finite. -/
theorem IsFinite.get? (h : store.IsFinite) (hvalue : store.get? name = some value) :
    value.IsFinite :=
  h _ (SortedMap.mem_toList_of_get? hvalue)

/-- A value that stands in place of a finite one is finite. -/
theorem IsFinite.getD (h : store.IsFinite) (hvalue : value.IsFinite) :
    ((store.get? name).getD value).IsFinite := by
  cases hfound : store.get? name with
  | none => exact hvalue
  | some found => exact h.get? hfound

theorem IsFinite.insert (h : store.IsFinite) (hvalue : value.IsFinite) :
    IsFinite (SortedMap.insert store name value) := by
  intro entry hentry
  rcases SortedMap.mem_place hentry with rfl | hbefore
  · exact hvalue
  · exact h entry hbefore

theorem IsFinite.set (h : store.IsFinite) (hvalue : value.IsFinite)
    (hset : store.set name value = .ok changed) : changed.IsFinite := by
  obtain ⟨-, rfl⟩ := set_eq_ok_iff.1 hset
  exact h.insert hvalue

/-- The store of variables with finite values is finite. -/
theorem isFinite_ofVariables {bindings : List (Identifier × Value)}
    (h : ∀ binding ∈ bindings, binding.2.IsFinite) : IsFinite (ofVariables bindings) := by
  -- The bindings are inserted one after the other, beginning with the empty store.
  have hfold : ∀ store : Store, store.IsFinite →
      IsFinite (bindings.foldl (fun map pair => map.insert pair.1 pair.2) store) := by
    induction bindings with
    | nil => exact fun _ hstore => hstore
    | cons first rest ih =>
      obtain ⟨hfirst, hrest⟩ := List.forall_mem_cons.1 h
      exact fun store hstore => ih hrest _ (hstore.insert hfirst)
  exact hfold _ isFinite_empty

end Store

end Assessment
