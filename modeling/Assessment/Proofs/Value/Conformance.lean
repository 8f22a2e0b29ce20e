import Assessment.Proofs.Item.Typing
import Assessment.Proofs.Text.Literal
import Assessment.Proofs.Value.Equality

/-!
# Values of declared types

Values of a declared type are built in two ways: from data of their form, and from what a candidate
sent. Whether a value is of a type is said a third time, without building anything. The three agree,
apart from one thing: containers and records that hold nothing are values of every type, though data
of their form is only taken where the type asks for that form.

## Main definitions

- `Value.payload`: the data that a value is made of.
- `Value.Payload.Suits`: data has the form of values of a cardinality.
- `Value.Answers`: a value is what a candidate sends for a variable of a type.
- `Signature.Guarded`: what is to be shown of the values of a type.

## Main results

- `Value.conforms_of_typed` and `Value.Answers.conforms`: what is built is of the type.
- `Value.typed_payload`: a value is built again from its data.
- `Value.answers_of_ofResponse`: the ways to build a value from what a candidate sends.
- `Signature.guarded`: both ways to build values agree with the types.
-/

namespace Assessment

/-! ### Containers -/

namespace Container

variable {baseType : BaseType} {items : List Scalar} {container : Container}

theorem baseType_of_ofItems (h : ofItems baseType items = .ok container) :
    container.baseType = baseType := by
  unfold ofItems at h
  split at h
  next => cases h
  next =>
    cases h
    rfl

/-- A container is made of scalars that are all of one base type. -/
theorem ofItems_eq_ok (h : ∀ item ∈ items, item.baseType = baseType) :
    ofItems baseType items = .ok ⟨baseType, items, h⟩ := by
  unfold ofItems
  split
  next odd hodd =>
    have hdifferent := List.find?_some hodd
    rw [h odd (List.mem_of_find?_eq_some hodd)] at hdifferent
    simp at hdifferent
  next => rfl

end Container

/-- The scalars of a container make the container again, unless there are none. -/
theorem buildContainer_items (container : Container) (operation : String) (ordered : Bool) :
    buildContainer operation ordered container.baseType container.items =
      .ok (Value.ofContainer (if ordered then .ordered else .multiple) container) := by
  cases ordered <;>
    simp [buildContainer, Value.multipleOf, Value.orderedOf,
      Container.ofItems_eq_ok container.homogeneous]

namespace Value

variable {signature : Signature} {value : Value}

/-! ### Building from data of the form -/

theorem conforms_iff :
    value.conforms signature = true ↔ signature.isValid = true ∧ (value.isNull = true ∨
      value.cardinality? = some signature.cardinality ∧
        value.baseType? = signature.baseType) := by
  simp [conforms]

/-- What is made of a container is a value of the type that the container is made for. -/
theorem conforms_ofContainer {cardinality : Cardinality} {baseType : BaseType}
    {items : List Scalar} {container : Container}
    (h : Container.ofItems baseType items = .ok container) {wrap : Container → Value}
    (hwrap : cardinality = .multiple ∧ wrap = multiple ∨ cardinality = .ordered ∧ wrap = ordered) :
    (ofContainer wrap container).conforms ⟨cardinality, some baseType⟩ = true := by
  obtain rfl := Container.baseType_of_ofItems h
  unfold ofContainer
  cases hempty : container.isEmpty <;> rcases hwrap with ⟨rfl, rfl⟩ | ⟨rfl, rfl⟩ <;>
    simp [conforms_iff, Signature.isValid, isNull, cardinality?, baseType?, hempty]

theorem conforms_recordOf (fields : SortedMap Identifier Scalar) :
    (recordOf fields).conforms ⟨.record, none⟩ = true := by
  unfold recordOf
  cases hempty : fields.isEmpty <;>
    simp [conforms_iff, Signature.isValid, isNull, cardinality?, baseType?, hempty]

/-- What is built for a type is a value of it. -/
theorem conforms_of_typed {given : Payload} (h : typed signature given = .ok value) :
    value.conforms signature = true := by
  obtain ⟨cardinality, baseType⟩ := signature
  unfold typed at h
  split at h
  next => cases h
  next hvalid =>
    rw [Bool.not_eq_true, Bool.not_eq_false'] at hvalid
    dsimp only at h
    split at h
    case h_1 =>
      cases h
      exact conforms_of_isNull rfl hvalid
    case h_2 baseType scalar =>
      split at h
      next hscalar =>
        cases h
        simp [conforms_iff, hvalid, cardinality?, baseType?, isNull, hscalar]
      next => cases h
    case h_3 | h_4 =>
      split at h
      next hcontainer =>
        cases h
        exact conforms_ofContainer hcontainer (by simp)
      next => cases h
    case h_5 fields =>
      cases h
      exact conforms_recordOf fields
    case h_6 => cases h

/-! ### Building from the data of a value -/

/-- The data that a value is made of. -/
def payload : Value → Payload
  | null => .null
  | single scalar => .single scalar
  | multiple container | ordered container => .list container.items
  | record fields => .record fields

/-- Data has the form of the values of a cardinality. -/
def Payload.Suits : Payload → Cardinality → Prop
  | .null, _ => True
  | .single _, .single => True
  | .list _, .multiple => True
  | .list _, .ordered => True
  | .record _, .record => True
  | _, _ => False

/-- What is of a type and not nothing has the cardinality and the base type. -/
theorem signature_of_conforms (h : value.conforms signature = true) (hnull : value.isNull = false) :
    value.cardinality? = some signature.cardinality ∧ value.baseType? = signature.baseType := by
  refine (conforms_iff.1 h).2.resolve_left ?_
  rw [hnull]
  exact Bool.false_ne_true

/-- What is of a type and not nothing has the form of the values of the type. -/
theorem suits_of_conforms (h : value.conforms signature = true) (hnull : value.isNull = false) :
    value.payload.Suits signature.cardinality := by
  obtain ⟨hcardinality, -⟩ := signature_of_conforms h hnull
  unfold cardinality? at hcardinality
  rw [hnull] at hcardinality
  obtain ⟨cardinality, baseType⟩ := signature
  cases value <;> cases hcardinality <;> trivial

/-- A type of single values or of containers has a base type. -/
theorem exists_baseType_of_isValid (hvalid : signature.isValid = true)
    (hcardinality : signature.cardinality ≠ .record) :
    ∃ baseType, signature.baseType = some baseType := by
  obtain ⟨cardinality, baseType⟩ := signature
  cases cardinality with
  | record => exact absurd rfl hcardinality
  | _ => exact Option.isSome_iff_exists.1 hvalid

section containers

variable {cardinality : Cardinality} {wrap : Container → Value}
  (hwrap : cardinality = .multiple ∧ wrap = multiple ∨ cardinality = .ordered ∧ wrap = ordered)

include hwrap

/-- Scalars of one base type build a value of a type of containers. -/
theorem typed_list {baseType : BaseType} {items : List Scalar}
    (h : ∀ item ∈ items, item.baseType = baseType) :
    typed ⟨cardinality, some baseType⟩ (.list items) =
      .ok (ofContainer wrap ⟨baseType, items, h⟩) := by
  rcases hwrap with ⟨rfl, rfl⟩ | ⟨rfl, rfl⟩ <;>
    simp [typed, Signature.isValid, Container.ofItems_eq_ok h]

/-- From the scalars of a container, it is built again if there are any. -/
theorem typed_items {container : Container} (h : (wrap container).conforms signature = true)
    (hnull : (wrap container).isNull = false) :
    typed signature (.list container.items) = .ok (wrap container) := by
  have hempty : container.isEmpty = false := by
    rcases hwrap with ⟨-, rfl⟩ | ⟨-, rfl⟩ <;> exact hnull
  have htype : signature = ⟨cardinality, some container.baseType⟩ := by
    obtain ⟨hcardinality, hbase⟩ := signature_of_conforms h hnull
    obtain ⟨found, foundBase⟩ := signature
    rcases hwrap with ⟨rfl, rfl⟩ | ⟨rfl, rfl⟩ <;>
      simp [cardinality?, baseType?, isNull, hempty] at hcardinality hbase <;>
      rw [hcardinality, hbase]
  rw [htype, typed_list hwrap container.homogeneous, ofContainer]
  exact congrArg Except.ok (if_neg (by rw [hempty]; exact Bool.false_ne_true))

end containers

/-- No scalars build nothing, where a list of scalars is asked for. -/
theorem typed_nil (hvalid : signature.isValid = true)
    (hsuits : (Payload.list []).Suits signature.cardinality) :
    typed signature (.list []) = .ok null := by
  obtain ⟨cardinality, baseType⟩ := signature
  cases cardinality with
  | single | record => exact hsuits.elim
  | multiple =>
    obtain ⟨baseType, rfl⟩ := exists_baseType_of_isValid hvalid nofun
    exact typed_list (.inl ⟨rfl, rfl⟩) (List.forall_mem_nil _)
  | ordered =>
    obtain ⟨baseType, rfl⟩ := exists_baseType_of_isValid hvalid nofun
    exact typed_list (.inr ⟨rfl, rfl⟩) (List.forall_mem_nil _)

/-- From the data of a value it is built again, unless it holds nothing. -/
theorem typed_payload (h : value.conforms signature = true) (hnull : value.isNull = false) :
    typed signature value.payload = .ok value := by
  cases value with
  | null => cases hnull
  | multiple container => exact typed_items (.inl ⟨rfl, rfl⟩) h hnull
  | ordered container => exact typed_items (.inr ⟨rfl, rfl⟩) h hnull
  | single scalar =>
    obtain ⟨hcardinality, hbase⟩ := signature_of_conforms h hnull
    obtain ⟨cardinality, baseType⟩ := signature
    cases hcardinality
    cases hbase
    exact if_pos rfl
  | record fields =>
    obtain ⟨hcardinality, hbase⟩ := signature_of_conforms h hnull
    obtain ⟨cardinality, baseType⟩ := signature
    unfold cardinality? at hcardinality
    rw [hnull] at hcardinality
    cases hcardinality
    cases hbase
    exact congrArg Except.ok (if_neg (ne_true_of_eq_false hnull))

/-- From the data of a value that holds nothing, nothing is built where data of its form is asked
for. -/
theorem typed_payload_of_isNull (hvalid : signature.isValid = true) (hnull : value.isNull = true)
    (hsuits : value.payload.Suits signature.cardinality) :
    typed signature value.payload = .ok null := by
  cases value with
  | null =>
    unfold typed
    rw [hvalid]
    rfl
  | single _ => cases hnull
  | multiple container | ordered container =>
    change (Payload.list container.items).Suits _ at hsuits
    change typed signature (.list container.items) = _
    rw [List.isEmpty_iff.1 hnull] at hsuits ⊢
    exact typed_nil hvalid hsuits
  | record fields =>
    obtain ⟨cardinality, baseType⟩ := signature
    cases cardinality with
    | record =>
      obtain rfl : baseType = none := Option.isNone_iff_eq_none.1 hvalid
      exact congrArg Except.ok (if_pos hnull)
    | _ => exact hsuits.elim

/-- Data of another form is refused. -/
theorem typed_of_not_suits {given : Payload} (hvalid : signature.isValid = true)
    (hsuits : ¬given.Suits signature.cardinality) :
    typed signature given = .error (.typeMismatch signature given.misfit) := by
  obtain ⟨cardinality, baseType⟩ := signature
  unfold typed
  rw [hvalid]
  cases cardinality <;> cases given <;> first | exact absurd trivial hsuits | rfl

end Value

/-! ### Building from responses -/

namespace Scalar

variable {baseType : BaseType} {input : String} {scalar : Scalar}

/-- What is read as a scalar of a base type is one. -/
theorem baseType_of_read? (h : read? baseType input = some scalar) :
    scalar.baseType = baseType := by
  cases baseType <;> simp only [read?] at h
  case boolean =>
    split at h
    next => cases h; rfl
    next =>
      split at h
      next => cases h; rfl
      next => cases h
  case point =>
    obtain ⟨_, -, h⟩ := Option.bind_eq_some_iff.1 h
    obtain ⟨_, -, h⟩ := Option.bind_eq_some_iff.1 h
    obtain ⟨_, -, h⟩ := Option.bind_eq_some_iff.1 h
    cases h
    rfl
  case file => cases h
  case string => cases h; rfl
  case uri => cases h; rfl
  all_goals
    obtain ⟨_, -, rfl⟩ := Option.map_eq_some_iff.1 h
    rfl

/-- Only spans of time are read that are not negative. -/
theorem nonneg_of_read? {seconds : Float} (h : read? .duration input = some (.duration seconds)) :
    0.0 ≤ seconds := by
  simp only [read?] at h
  obtain ⟨x, hx, hequal⟩ := Option.map_eq_some_iff.1 h
  obtain rfl : x = seconds := by injection hequal
  obtain ⟨-, hle⟩ := Option.filter_eq_some_iff.1 hx
  rwa [decide_eq_true_iff] at hle

end Scalar

namespace Value

variable {signature : Signature} {data : ResponseData} {value : Value}

/-- What a candidate sends is a value of a type. -/
inductive Answers : Signature → ResponseData → Value → Prop
  /-- A file is sent. -/
  | file (data : FileData) : Answers (.single .file) (.file data) (single (.file data))
  /-- No text is sent for one scalar. -/
  | nothing {baseType : BaseType} (hfile : baseType ≠ .file) :
      Answers (.single baseType) (.strings []) null
  /-- White space is sent for one scalar that is not a text. -/
  | blank {baseType : BaseType} {entry : String} (hfile : baseType ≠ .file)
      (hstring : baseType ≠ .string) (hblank : Text.isBlankText entry = true) :
      Answers (.single baseType) (.strings [entry]) null
  /-- A text is sent for one scalar. -/
  | single {baseType : BaseType} {entry : String} {scalar : Scalar}
      (hblank : baseType = .string ∨ Text.isBlankText entry = false)
      (hread : Scalar.read baseType entry = .ok scalar) :
      Answers (.single baseType) (.strings [entry]) (.single scalar)
  /-- Texts are sent for the scalars of a container. -/
  | container {cardinality : Cardinality} {wrap : Container → Value} {baseType : BaseType}
      {entries : List String} {items : List Scalar} {container : Container}
      (hwrap : cardinality = .multiple ∧ wrap = multiple ∨
        cardinality = .ordered ∧ wrap = ordered)
      (hread : List.Forall₂ (fun entry scalar => Scalar.read baseType entry = .ok scalar) entries
        items)
      (hcontainer : Container.ofItems baseType items = .ok container) :
      Answers ⟨cardinality, some baseType⟩ (.strings entries) (ofContainer wrap container)

section containers

variable {cardinality : Cardinality} {wrap : Container → Value}
  {build : BaseType → List Scalar → Except ValueError Value} {baseType : BaseType}
  (hbuild : cardinality = .multiple ∧ wrap = multiple ∧ build = multipleOf ∨
    cardinality = .ordered ∧ wrap = ordered ∧ build = orderedOf)

include hbuild

/-- What is built of scalars is made of a container of them. -/
theorem exists_container_of_build {items : List Scalar} (h : build baseType items = .ok value) :
    ∃ container, Container.ofItems baseType items = .ok container ∧
      value = ofContainer wrap container := by
  rcases hbuild with ⟨-, rfl, rfl⟩ | ⟨-, rfl, rfl⟩
  all_goals
    simp only [multipleOf, orderedOf] at h
    split at h
    next container hcontainer =>
      cases h
      exact ⟨container, hcontainer, rfl⟩
    next => cases h

/-- Texts that are read one by one answer for a container. -/
theorem answers_of_bind {entries : List String}
    (h : (entries.mapM (Scalar.read baseType) >>= build baseType) = .ok value) :
    Answers ⟨cardinality, some baseType⟩ (.strings entries) value := by
  have hread := yields_mapM (Scalar.read baseType) entries
  cases hitems : entries.mapM (Scalar.read baseType) with
  | error error =>
    rw [hitems] at h
    cases h
  | ok items =>
    rw [hitems] at h hread
    obtain ⟨container, hcontainer, rfl⟩ := exists_container_of_build hbuild h
    exact .container (hbuild.imp (.imp_right And.left) (.imp_right And.left)) hread hcontainer

end containers

/-- A value is built from what a candidate sends in no other way. -/
theorem answers_of_ofResponse (h : ofResponse signature data = .ok value) :
    Answers signature data value := by
  obtain ⟨cardinality, baseType⟩ := signature
  unfold ofResponse at h
  dsimp only at h
  split at h
  case h_1 | h_2 | h_4 | h_5 | h_8 => cases h
  case h_3 =>
    cases h
    exact .file _
  case h_6 hfile =>
    cases h
    exact .nothing hfile
  case h_7 hfile =>
    split at h
    next hblank =>
      cases h
      exact .blank hfile hblank.1 hblank.2
    next hblank =>
      rw [not_and_or, ne_eq, not_not, Bool.not_eq_true] at hblank
      cases hread : Scalar.read _ _ with
      | error error =>
        rw [hread] at h
        cases h
      | ok scalar =>
        rw [hread] at h
        cases h
        exact .single hblank hread
  case h_9 => exact answers_of_bind (.inl ⟨rfl, rfl, rfl⟩) h
  case h_10 => exact answers_of_bind (.inr ⟨rfl, rfl, rfl⟩) h

/-- The value made of a container holds the scalars of it, even if there are none. -/
theorem elements_ofContainer {cardinality : Cardinality} {wrap : Container → Value}
    (hwrap : cardinality = .multiple ∧ wrap = multiple ∨ cardinality = .ordered ∧ wrap = ordered)
    (container : Container) :
    (ofContainer wrap container).elements = container.items ∧
      (ofContainer wrap container).scalars = container.items := by
  unfold ofContainer
  split
  next hempty => rw [List.isEmpty_iff.1 hempty]; exact ⟨rfl, rfl⟩
  next => rcases hwrap with ⟨-, rfl⟩ | ⟨-, rfl⟩ <;> exact ⟨rfl, rfl⟩

namespace Answers

/-- What a candidate sends is a value of the declared type. -/
theorem conforms (h : Answers signature data value) : value.conforms signature = true := by
  cases h with
  | file data => rfl
  | nothing hfile | blank hfile => exact conforms_of_isNull rfl rfl
  | single hblank hread =>
    have hbase := Scalar.baseType_of_read? (Scalar.read_eq_ok_iff.1 hread)
    simp [conforms_iff, Signature.single, Signature.isValid, cardinality?, baseType?, isNull, hbase]
  | container hwrap hread hcontainer => exact conforms_ofContainer hcontainer hwrap

/-- A container holds the scalar of each text that is sent, in their order. -/
theorem entries (h : Answers signature data value)
    (hcardinality : signature.cardinality = .multiple ∨ signature.cardinality = .ordered) :
    ∃ baseType entries, signature.baseType = some baseType ∧ data = .strings entries ∧
      List.Forall₂ (fun entry scalar => Scalar.read baseType entry = .ok scalar) entries
        value.elements := by
  cases h with
  | file | nothing | blank | single => rcases hcardinality with h | h <;> cases h
  | @container _ _ baseType entries _ container hwrap hread hcontainer =>
    refine ⟨baseType, entries, rfl, rfl, ?_⟩
    rwa [(elements_ofContainer hwrap container).1, items_of_ofItems hcontainer]

/-- A scalar that is no file is read from a text. -/
theorem exists_read? (h : Answers signature data value) {scalar : Scalar}
    (hscalar : scalar ∈ value.scalars) :
    (∃ file, scalar = .file file) ∨
      ∃ baseType entry, Scalar.read? baseType entry = some scalar := by
  cases h with
  | file data => exact .inl ⟨data, List.mem_singleton.1 hscalar⟩
  | nothing | blank => cases hscalar
  | single hblank hread =>
    obtain rfl := List.mem_singleton.1 hscalar
    exact .inr ⟨_, _, Scalar.read_eq_ok_iff.1 hread⟩
  | @container _ wrap baseType entries items container hwrap hread hcontainer =>
    rw [(elements_ofContainer hwrap container).2, items_of_ofItems hcontainer] at hscalar
    refine .inr ⟨baseType, ?_⟩
    clear hcontainer
    induction hread with
    | nil => cases hscalar
    | cons hfirst _ ih =>
      rcases List.mem_cons.1 hscalar with rfl | hscalar
      · exact ⟨_, Scalar.read_eq_ok_iff.1 hfirst⟩
      · exact ih hscalar

/-- Doubles that are sent are finite, and spans of time are not negative either. -/
theorem doubles (h : Answers signature data value) {scalar : Scalar}
    (hscalar : scalar ∈ value.scalars) :
    scalar.IsFinite ∧ ∀ seconds, scalar = .duration seconds → 0.0 ≤ seconds := by
  obtain ⟨file, rfl⟩ | ⟨baseType, entry, hread⟩ := h.exists_read? hscalar
  · exact ⟨trivial, nofun⟩
  · refine ⟨Scalar.isFinite_of_read? hread, ?_⟩
    rintro seconds rfl
    obtain rfl := Scalar.baseType_of_read? hread
    exact Scalar.nonneg_of_read? hread

end Answers

/-- Variables of records and those without a valid type take nothing from candidates. -/
theorem ofResponse_of_untyped
    (h : signature.cardinality = .record ∨ signature.isValid = false) (data : ResponseData) :
    ofResponse signature data = .error (.refused signature .untyped) := by
  obtain ⟨cardinality, baseType⟩ := signature
  cases cardinality with
  | record => rfl
  | _ =>
    obtain rfl : baseType = none := by simpa [Signature.isValid] using h
    rfl

end Value

/-! ### Agreement -/

/-- Both ways to build values of a type agree with what is of the type. -/
structure Signature.Guarded (signature : Signature) : Prop where
  /-- What is built from data is of the type. -/
  typed_conforms : ∀ given value, Value.typed signature given = .ok value →
    value.conforms signature = true
  /-- What a candidate sends is of the type. -/
  ofResponse_conforms : ∀ data value, Value.ofResponse signature data = .ok value →
    value.conforms signature = true
  /-- What is of the type is built again from its data, apart from what holds nothing and has a form
  that the type does not take. All ways of holding nothing become one. -/
  rebuilt : ∀ value : Value, value.conforms signature = true →
    (value.isNull = true → value.payload.Suits signature.cardinality) →
    ∃ again, Value.typed signature value.payload = .ok again ∧
      again = (if value.isNull then .null else value) ∧
      (value.IsNumeric → (again == value) = true)
  /-- What holds nothing and has a form that the type does not take is of the type, but it is not
  built from its data. -/
  misfit : ∀ value : Value, value.conforms signature = true → value.isNull = true →
    ¬value.payload.Suits signature.cardinality →
    Value.typed signature value.payload =
      .error (.typeMismatch signature value.payload.misfit)
  /-- A container that a candidate sends holds the scalar of each text, in their order. -/
  entries : ∀ data value, Value.ofResponse signature data = .ok value →
    signature.cardinality = .multiple ∨ signature.cardinality = .ordered →
    ∃ baseType entries, signature.baseType = some baseType ∧ data = .strings entries ∧
      List.Forall₂ (fun entry scalar => Scalar.read baseType entry = .ok scalar) entries
        value.elements
  /-- Doubles that a candidate sends are finite, and spans of time are not negative either. -/
  doubles : ∀ data value, Value.ofResponse signature data = .ok value →
    ∀ scalar ∈ value.scalars, scalar.IsFinite ∧
      ∀ seconds, scalar = .duration seconds → 0.0 ≤ seconds
  /-- Records are not sent by candidates, and nothing is for a type that is not valid. -/
  untyped : signature.cardinality = .record ∨ signature.isValid = false →
    ∀ data, Value.ofResponse signature data = .error (.refused signature .untyped)
  /-- Nothing is of a type that is not valid, and nothing is built for it. -/
  invalid : signature.isValid = false → ∀ given,
    Value.typed signature given = .error (.typeMismatch signature .invalidSignature)

/-- **Values that are built are of their type, from data as from responses, and what is of a type is
built again from its data**, unless it is an empty container or record in a place where the data is
to have another form. -/
theorem Signature.guarded (signature : Signature) : Guarded signature where
  typed_conforms _ _ := Value.conforms_of_typed
  ofResponse_conforms _ _ h := (Value.answers_of_ofResponse h).conforms
  rebuilt value h hsuits := by
    cases hnull : value.isNull with
    | true =>
      have hmeaning : Value.null.meaning = value.meaning :=
        (Value.meaning_eq_nothing_iff.2 rfl).trans (Value.meaning_eq_nothing_iff.2 hnull).symm
      exact ⟨.null, Value.typed_payload_of_isNull (Value.conforms_iff.1 h).1 hnull (hsuits hnull),
        rfl, fun _ => Value.beq_iff.2 ⟨Value.isNumeric_of_isNull rfl, hmeaning⟩⟩
    | false =>
      exact ⟨value, Value.typed_payload h hnull, rfl, fun hnumeric =>
        Value.beq_iff.2 ⟨hnumeric, rfl⟩⟩
  misfit _ h _ := Value.typed_of_not_suits (Value.conforms_iff.1 h).1
  entries _ _ h := (Value.answers_of_ofResponse h).entries
  doubles _ _ h _ := (Value.answers_of_ofResponse h).doubles
  untyped := Value.ofResponse_of_untyped
  invalid h _ := by
    unfold Value.typed
    rw [h]
    rfl

/-- No integers are of the type of one integer, where they count as nothing, but a list without
elements is no data for one integer. -/
theorem Value.not_forall_typed_payload :
    ¬∀ (signature : Signature) (value : Value), value.conforms signature = true →
      ∃ again, typed signature value.payload = .ok again ∧ (again == value) = true := by
  intro h
  obtain ⟨again, hagain, -⟩ := h (.single .integer) (.multiple ⟨.integer, [], nofun⟩) rfl
  cases hagain

end Assessment
