import Assessment.Proofs.Finite.Session

/-!
# Sessions that read back

A session is kept as JSON between calls. JSON has no number for an infinity, nor for what is no
number: null is written in its place, which does not read back as a double. Everything else that a
session keeps reads back as it was.

A session of a finite item without extensions therefore reads back, whatever operations it went
through, as long as scores and rounded numbers stay in the range of doubles. That they do has to be
asked for: the score of a mapping without bounds may be an infinity.

## Main results

- `Datum.float?_ofFloat_iff`: the doubles that read back are the finite ones.
- `ItemState.IsFinite.ofJson?_toJson`: a finite session reads back.
- `ItemDelivery.readsBack_of_sessionAfter`: sessions of finite items do.
-/

namespace Assessment

/-! ### Lists and maps -/

namespace Datum

variable {α : Type} {place : Place}

/-- A list reads back if its members do. -/
theorem list?_ofList {encode : α → Json} {decode : Datum → Option α} {items : List α}
    (h : ∀ item ∈ items, decode ⟨encode item, place⟩ = some item) :
    list? decode ⟨.ofList encode items, place⟩ = some items := by
  show (items.map encode).mapM (fun item => decode ⟨item, place⟩) = some items
  induction items with
  | nil => rfl
  | cons first rest ih =>
    obtain ⟨hfirst, hrest⟩ := List.forall_mem_cons.1 h
    rw [List.map_cons, List.mapM_cons, hfirst, ih hrest]
    rfl

/-- A number without sign reads back if it is below the bound. -/
theorem natBelow?_ofNat {bound n : Nat} (h : n < bound) :
    natBelow? bound ⟨.ofNat n, place⟩ = some n := by
  show (if 0 ≤ (n : Int) && (n : Int).toNat < bound then some (n : Int).toNat else none) = some n
  simp [h]

theorem uint64?_ofNat (n : UInt64) : uint64? ⟨.ofNat n.toNat, place⟩ = some n := by
  rw [uint64?, nat?, natBelow?_ofNat (show n.toNat < Word.count from n.toNat_lt)]
  exact congrArg some UInt64.ofNat_toNat

theorem byte?_ofNat (n : UInt8) : byte? ⟨.ofNat n.toNat, place⟩ = some n := by
  rw [byte?, natBelow?_ofNat n.toNat_lt]
  exact congrArg some UInt8.ofNat_toNat

theorem word?_toInt (n : Int64) : word? ⟨.int n.toInt, place⟩ = some n := Word.narrow?_toInt n

/-- The doubles that read back are the finite ones. -/
theorem float?_ofFloat_iff {x : Float} :
    float? ⟨.ofFloat x, place⟩ = some x ↔ x.isFinite = true := by
  unfold Json.ofFloat
  split
  next h => exact ⟨fun _ => h, fun _ => rfl⟩
  next h => exact ⟨nofun, fun hfinite => absurd hfinite h⟩

section fields

variable {β : Type} {entries : List (String × Json)} {name : String} {json : Json}
  (hfield : Json.getField? name entries = some json) {decode : Datum → Option α}

include hfield

/-- A field that has to be there is read, and then the others. -/
theorem bind_required {a : α} (hread : decode ⟨json, place⟩ = some a) {f : α → Option β} {b : β}
    (hnext : f a = some b) :
    (Fields.required ⟨entries, false, place⟩ name decode >>= f) = some b := by
  rw [Fields.required, Fields.get?, hfield]
  show (decode ⟨json, place⟩ >>= f) = some b
  rw [hread]
  exact hnext

/-- A field that may be null is read, and then the others. -/
theorem bind_nullable {a : Option α} (hread : option? decode ⟨json, place⟩ = some a)
    {f : Option α → Option β} {b : β} (hnext : f a = some b) :
    (Fields.nullable ⟨entries, false, place⟩ name decode >>= f) = some b := by
  rw [Fields.nullable, Fields.get?, hfield]
  show (option? decode ⟨json, place⟩ >>= f) = some b
  rw [hread]
  exact hnext

end fields

end Datum

theorem Identifier.ofJson?_toJson (name : Identifier) (place : Place) :
    ofJson? ⟨name.toJson, place⟩ = some name :=
  Identifier.ofText?_text name

namespace SortedMap

section place

variable {κ α : Type} [Ord κ] [Std.TransOrd κ]

/-- A binding behind all others is put at the end. -/
theorem place_of_lt {key : κ} {value : α} {entries : List (κ × α)}
    (h : ∀ entry ∈ entries, compare entry.1 key = .lt) :
    SortedMap.place key value entries = entries ++ [(key, value)] := by
  induction entries with
  | nil => rfl
  | cons first rest ih =>
    obtain ⟨hfirst, hrest⟩ := List.forall_mem_cons.1 h
    rw [SortedMap.place, Std.OrientedCmp.gt_of_lt hfirst]
    exact congrArg (first :: ·) (ih hrest)

/-- A map is what its bindings make. -/
theorem ofList_toList (map : SortedMap κ α) : ofList map.toList = map := by
  -- The bindings come in the order of their keys, so that each goes behind those before it.
  have hfold : ∀ (rest : List (κ × α)) (start : SortedMap κ α),
      (start.entries ++ rest).Pairwise (fun a b => compare a.1 b.1 = .lt) →
      (rest.foldl (fun map pair => map.insert pair.1 pair.2) start).entries =
        start.entries ++ rest := by
    intro rest
    induction rest with
    | nil => exact fun start _ => (List.append_nil _).symm
    | cons first rest ih =>
      intro start hsorted
      have hlast : (start.insert first.1 first.2).entries = start.entries ++ [first] :=
        place_of_lt fun entry hentry =>
          (List.pairwise_append.1 hsorted).2.2 entry hentry first List.mem_cons_self
      have hnext := ih (start.insert first.1 first.2)
      rw [hlast, List.append_assoc] at hnext
      exact hnext hsorted
  exact ext_entries (hfold map.entries empty map.sorted)

end place

/-- A map reads back if its values do. -/
theorem ofJson?_toJson {α : Type} {encode : α → Json} {decode : Datum → Option α}
    {map : SortedMap Identifier α} {place : Place}
    (h : ∀ entry ∈ map.toList, decode ⟨encode entry.2, place⟩ = some entry.2) :
    ofJson? decode ⟨map.toJson encode, place⟩ = some map := by
  have hentries : Datum.entries? decode ⟨map.toJson encode, place⟩ =
      some (map.toList.map fun entry => (entry.1.text, entry.2)) := by
    show (map.toList.map fun entry => (entry.1.text, encode entry.2)).mapM _ = _
    generalize map.toList = entries at h
    induction entries with
    | nil => rfl
    | cons first rest ih =>
      obtain ⟨hfirst, hrest⟩ := List.forall_mem_cons.1 h
      rw [List.map_cons, List.mapM_cons, hfirst, ih hrest]
      rfl
  have hnames : ∀ entries : List (Identifier × α),
      (entries.map fun entry => (entry.1.text, entry.2)).mapM
        (fun entry => do some (← Identifier.ofText? entry.1, entry.2)) = some entries := by
    intro entries
    induction entries with
    | nil => rfl
    | cons first rest ih =>
      rw [List.map_cons, List.mapM_cons, Identifier.ofText?_text, ih]
      rfl
  rw [ofJson?, hentries]
  show (List.mapM _ _ >>= fun pairs => some (ofList pairs)) = some map
  rw [hnames]
  exact congrArg some map.ofList_toList

end SortedMap

/-! ### Scalars and values -/

theorem FileData.ofJson?_toJson (file : FileData) (place : Place) :
    ofJson? ⟨file.toJson, place⟩ = some file := by
  have hbytes : Datum.list? Datum.byte?
      ⟨.ofList (fun byte => .ofNat byte.toNat) file.bytes, place⟩ = some file.bytes :=
    Datum.list?_ofList fun byte _ => Datum.byte?_ofNat byte
  simp [ofJson?, toJson, Datum.fields?, Datum.Fields.required, Datum.Fields.get?, Json.getField?,
    Datum.str?, hbytes]

theorem BaseType.ofName?_name (baseType : BaseType) : ofName? baseType.name = some baseType := by
  cases baseType <;> decide +kernel

namespace Scalar

variable {scalar : Scalar}

/-- The content of a finite scalar reads back. -/
theorem IsFinite.ofContent?_contentJson (h : scalar.IsFinite) (place : Place) :
    ofContent? ⟨scalar.contentJson, place⟩ scalar.baseType = some scalar := by
  cases scalar with
  | boolean _ | string _ | uri _ => rfl
  | integer n => exact congrArg (Option.map integer) (Datum.word?_toInt n)
  | float x => exact congrArg (Option.map float) (Datum.float?_ofFloat_iff.2 h)
  | duration x => exact congrArg (Option.map duration) (Datum.float?_ofFloat_iff.2 h)
  | point x y =>
    simp [ofContent?, baseType, contentJson, Datum.fields?, Datum.Fields.required,
      Datum.Fields.get?, Json.getField?, Datum.word?_toInt]
  | pair a b | directedPair a b =>
    simp [ofContent?, baseType, contentJson, Datum.pair?, Identifier.ofJson?_toJson]
  | file file => exact congrArg (Option.map Scalar.file) (file.ofJson?_toJson place)
  | identifier name => exact congrArg (Option.map identifier) (name.ofJson?_toJson place)

/-- A finite scalar reads back. -/
theorem IsFinite.ofJson?_toJson (h : scalar.IsFinite) (place : Place) :
    ofJson? ⟨scalar.toJson, place⟩ = some scalar := by
  have hcontent : Datum.content? "base_type" "value" ⟨scalar.toJson, place⟩ =
      some (scalar.baseType.name, some ⟨scalar.contentJson, place⟩) := by
    simp [toJson, BaseType.toJson, Datum.content?, Json.getField?, Datum.constant?]
  simp [ofJson?, hcontent, BaseType.ofName?_name, h.ofContent?_contentJson place]

end Scalar

/-- A container of finite scalars reads back. -/
theorem Container.ofJson?_toJson {container : Container}
    (h : ∀ scalar ∈ container.items, scalar.IsFinite) (place : Place) :
    ofJson? ⟨container.toJson, place⟩ = some container := by
  have hitems := Datum.list?_ofList fun scalar hscalar =>
    (h scalar hscalar).ofJson?_toJson place
  have hbuilt : Container.ofItems container.baseType container.items = .ok container := by
    unfold ofItems
    split
    next odd hodd =>
      have hodd' := List.find?_some hodd
      have := container.homogeneous odd (List.mem_of_find?_eq_some hodd)
      simp [this] at hodd'
    next => rfl
  simp [ofJson?, toJson, Datum.fields?, Datum.Fields.required, Datum.Fields.get?, Json.getField?,
    hitems, BaseType.ofJson?, BaseType.toJson, Datum.constant?, BaseType.ofName?_name, hbuilt,
    Except.toOption]

/-- A finite value reads back. -/
theorem Value.IsFinite.ofJson?_toJson {value : Value} (h : value.IsFinite) (place : Place) :
    Value.ofJson? ⟨value.toJson, place⟩ = some value := by
  cases value with
  | null => rfl
  | single scalar =>
    have hscalar := (Value.isFinite_single.1 h).ofJson?_toJson place
    simp [Value.ofJson?, Value.toJson, Datum.content?, Json.getField?, Datum.constant?, hscalar]
  | multiple container =>
    have hcontainer := Container.ofJson?_toJson h place
    simp [Value.ofJson?, Value.toJson, Datum.content?, Json.getField?, Datum.constant?, hcontainer]
  | ordered container =>
    have hcontainer := Container.ofJson?_toJson h place
    simp [Value.ofJson?, Value.toJson, Datum.content?, Json.getField?, Datum.constant?, hcontainer]
  | record fields =>
    have hfields : SortedMap.ofJson? Scalar.ofJson? ⟨fields.toJson Scalar.toJson, place⟩ =
        some fields :=
      SortedMap.ofJson?_toJson fun entry hentry =>
        (h entry.2 (List.mem_map_of_mem hentry)).ofJson?_toJson place
    simp [Value.ofJson?, Value.toJson, Datum.content?, Json.getField?, Datum.constant?, hfields]

/-! ### Sessions -/

theorem Digest.ofJson?_toJson (digest : Digest) (place : Place) :
    ofJson? ⟨digest.toJson, place⟩ = some digest := by
  obtain ⟨⟨⟩, value⟩ := digest
  simp [ofJson?, toJson, Datum.fields?, Datum.Fields.required, Datum.Fields.get?, Json.getField?,
    Datum.oneOf?, Datum.constant?, Datum.str?]

theorem Timestamp.ofJson?_toJson (time : Timestamp) (place : Place) :
    ofJson? ⟨time.toJson, place⟩ = some time := by
  cases time with
  | logical ticks =>
    simp [ofJson?, toJson, Datum.content?, Json.getField?, Datum.constant?, Datum.uint64?_ofNat]
  | unixMillis millis =>
    simp [ofJson?, toJson, Datum.content?, Json.getField?, Datum.constant?, Datum.word?_toInt]

namespace ItemState

theorem storeOfJson?_storeJson {store : Store} (h : store.IsFinite) (place : Place) :
    storeOfJson? ⟨storeJson store, place⟩ = some store :=
  SortedMap.ofJson?_toJson fun entry hentry => (h entry hentry).ofJson?_toJson place

theorem option?_timeJson (time : Option Timestamp) (place : Place) :
    Datum.option? Timestamp.ofJson? ⟨timeJson time, place⟩ = some time := by
  cases time with
  | none => rfl
  | some time =>
    have hread := time.ofJson?_toJson place
    cases time <;> exact congrArg (Option.map some) hread

theorem oneOf?_name (status : ItemStatus) (place : Place) :
    Datum.oneOf? ItemStatus.names ⟨.str status.name, place⟩ = some status := by
  cases status <;> simp [Datum.oneOf?, Datum.constant?, ItemStatus.names, ItemStatus.name]

/-- A finite session reads back. -/
theorem IsFinite.ofJson?_toJson {state : ItemState} (h : state.IsFinite) (place : Place) :
    ItemState.ofJson? ⟨state.toJson, place⟩ = some state := by
  have hstore : ∀ role, storeOfJson? ⟨storeJson (state.store role), place⟩ =
      some (state.store role) :=
    fun role => storeOfJson?_storeJson (h.stores role) place
  -- The fields are read in the order in which they were written.
  rw [ItemState.ofJson?, ItemState.toJson, Datum.fields?, Option.bind_eq_bind, Option.bind_some]
  refine Datum.bind_required (by rfl) (state.digest.ofJson?_toJson place) ?_
  refine Datum.bind_required (by rfl) (oneOf?_name state.status place) ?_
  refine Datum.bind_required (by rfl) (rfl : Datum.bool? _ = some state.templateProcessed) ?_
  refine Datum.bind_required (by rfl) (rfl : Datum.bool? _ = some state.responseProcessed) ?_
  refine Datum.bind_required (by rfl) (rfl : Datum.bool? _ = some state.pending) ?_
  refine Datum.bind_required (by rfl) (rfl : Datum.bool? _ = some state.responded) ?_
  refine Datum.bind_required (by rfl) (hstore .template) ?_
  refine Datum.bind_required (by rfl) (hstore .response) ?_
  refine Datum.bind_required (by rfl) (hstore .outcome) ?_
  refine Datum.bind_required (by rfl) (storeOfJson?_storeJson h.templateDefaults place) ?_
  refine Datum.bind_required (by rfl) (storeOfJson?_storeJson h.correctOverrides place) ?_
  refine Datum.bind_required (by rfl) (storeOfJson?_storeJson h.defaultOverrides place) ?_
  refine Datum.bind_nullable (by rfl) (option?_timeJson state.entryTime place) ?_
  refine Datum.bind_nullable (by rfl) (option?_timeJson state.endTime place) ?_
  refine Datum.bind_nullable (by rfl) (option?_timeJson state.lastEvent place) ?_
  refine Datum.bind_required (by rfl) (Datum.uint64?_ofNat state.seed) ?_
  exact Datum.bind_required (by rfl) (Datum.uint64?_ofNat state.passes) rfl

end ItemState

/-! ### Sessions of finite items -/

/-- Without extensions, every session of a finite item is finite that operations lead to, whether
they are accepted or refused, and reads back as it is. For that the scores of its responses and the
numbers that its rules round have to stay in the range of doubles. -/
theorem ItemDelivery.readsBack_of_sessionAfter {item : ItemDelivery} {templateDefaults : Store}
    {seed : UInt64} {requests : List ItemRequest} {session : ItemState}
    (hdefinition : item.definition.IsFinite) (hrange : item.definition.StaysInRange)
    (hregistry : item.engine.registry = .empty) (hdefaults : templateDefaults.IsFinite)
    (h : item.sessionAfter templateDefaults seed requests = some session) :
    session.IsFinite ∧ ItemState.ofJson? session.toJson = some session := by
  have hfinite : session.IsFinite := by
    unfold sessionAfter at h
    split at h
    next => cases h
    next start hstart =>
      cases h
      exact (retains_isFinite hdefinition hrange hregistry).foldl_serve
        (isFinite_of_create hdefinition hdefaults hstart) requests
  exact ⟨hfinite, hfinite.ofJson?_toJson .free⟩

/-! ### An item with great scores -/

/-- An item with a mapping of two scores whose sum is too great for a double. -/
def ItemDefinition.mapped (lower upper : Option Float) : ItemDefinition :=
  let response : Identifier := ⟨"CHOICES", by decide +kernel⟩
  let score : Identifier := ⟨"SUM", by decide +kernel⟩
  let great (name : Identifier) : MapEntry := ⟨.identifier name, 1e308, false⟩
  { ItemDefinition.bare ⟨"MAPPED", by decide +kernel⟩ with
    responses :=
      [⟨response, ⟨.multiple, some .identifier⟩, none, none,
        some ⟨[great ⟨"LEFT", by decide +kernel⟩, great ⟨"RIGHT", by decide +kernel⟩], 0.0, lower,
          upper⟩,
        none⟩]
    outcomes := [.simple score (.single .float) (.float 0.0)]
    responseProcessing := [.assign .outcomeValue score (.mapResponse response)] }

/-- The item with an engine that has no extensions. -/
def ItemDelivery.mapped (lower upper : Option Float) : ItemDelivery :=
  ⟨ItemDefinition.mapped lower upper, ⟨.empty, .default⟩, ⟨.sha256, "mapped"⟩⟩

/-- The requests of a candidate who gives both answers that score. -/
def ItemRequest.answerBoth : List ItemRequest :=
  [.processTemplate, .enter (.logical 0),
    .attempt (.ofList [(⟨"CHOICES", by decide +kernel⟩, .strings ["LEFT", "RIGHT"])])
      (.logical 1500) ⟨1, true, false⟩]

/-- The numbers of the item are finite if the bounds are. -/
theorem ItemDefinition.isFinite_mapped {lower upper : Option Float}
    (hlower : ∀ bound ∈ lower, bound.isFinite = true)
    (hupper : ∀ bound ∈ upper, bound.isFinite = true) :
    (ItemDefinition.mapped lower upper).IsFinite where
  defaults declaration hdeclaration value hvalue := by
    rcases List.mem_append.1 hdeclaration with hbuiltIn | hdeclared
    · obtain ⟨builtIn, -, rfl⟩ := List.mem_map.1 hbuiltIn
      cases hvalue
    · rcases List.mem_pair.1 hdeclared with rfl | rfl
      · cases hvalue
      · cases hvalue
        exact Value.isFinite_float.2 rfl
  correct d hd value hvalue := by
    obtain rfl := List.mem_singleton.1 hd
    cases hvalue
  mappings d hd mapping hmapping := by
    obtain rfl := List.mem_singleton.1 hd
    cases hmapping
    have hdefault : (0.0 : Float).isFinite = true := by decide +kernel
    refine ⟨fun entry hentry => ?_, hdefault, hlower, hupper⟩
    rcases List.mem_pair.1 hentry with rfl | rfl
    · exact ⟨trivial, by decide +kernel⟩
    · exact ⟨trivial, by decide +kernel⟩
  areaMappings d hd mapping hmapping := by
    obtain rfl := List.mem_singleton.1 hd
    cases hmapping
  bounds d hd x hx := by
    obtain rfl := List.mem_singleton.1 hd
    rcases hx with hx | hx | hx <;> cases hx
  tables d hd table htable := by
    obtain rfl := List.mem_singleton.1 hd
    cases htable
  templateProcessing := nofun
  responseProcessing rule hrule expression hexpression node hnode := by
    obtain rfl := List.mem_singleton.1 hrule
    obtain rfl := List.mem_singleton.1 hexpression
    obtain rfl := List.mem_singleton.1 hnode
    trivial

namespace ItemDelivery

/-- With two bounds the scores of the item stay in the range of doubles. -/
theorem staysInRange_mapped {lower upper : Float}
    (h : lower.isFinite = true ∧ upper.isFinite = true) :
    (ItemDefinition.mapped (some lower) (some upper)).StaysInRange where
  mappings d hd mapping hmapping := by
    obtain rfl := List.mem_singleton.1 hd
    cases hmapping
    exact Mapping.scoresFinitely_of_bounds rfl rfl h
  areaMappings d hd mapping hmapping := by
    obtain rfl := List.mem_singleton.1 hd
    cases hmapping
  templateProcessing := nofun
  responseProcessing rule hrule expression hexpression node hnode := by
    obtain rfl := List.mem_singleton.1 hrule
    obtain rfl := List.mem_singleton.1 hexpression
    obtain rfl := List.mem_singleton.1 hnode
    trivial

/-- With the bounds zero and ten both answers score ten, and the session reads back. -/
theorem readsBack_of_sessionAfter_mapped :
    ∃ session, (mapped (some 0.0) (some 10.0)).sessionAfter .empty 0 ItemRequest.answerBoth =
        some session ∧
      (session.outcomes.get? ⟨"SUM", by decide +kernel⟩ >>= Value.float?) = some 10.0 ∧
      session.IsFinite ∧ ItemState.ofJson? session.toJson = some session := by
  have hsession : ((mapped (some 0.0) (some 10.0)).sessionAfter .empty 0
      ItemRequest.answerBoth).any (fun session =>
        (session.outcomes.get? ⟨"SUM", by decide +kernel⟩ >>= Value.float?) = some 10.0) =
      true := by
    decide +kernel
  obtain ⟨session, hafter, hscore⟩ := (Option.any_eq_true _ _).1 hsession
  have hzero : (0.0 : Float).isFinite = true := by decide +kernel
  have hten : (10.0 : Float).isFinite = true := by decide +kernel
  refine ⟨session, hafter, of_decide_eq_true hscore, ?_⟩
  apply readsBack_of_sessionAfter _ (staysInRange_mapped ⟨hzero, hten⟩) rfl Store.isFinite_empty
    hafter
  apply ItemDefinition.isFinite_mapped
  · rintro _ ⟨⟩
    exact hzero
  · rintro _ ⟨⟩
    exact hten

/-- Without bounds the two answers score an infinity, so that numbers that are finite in the item
are not enough. -/
theorem not_forall_readsBack :
    ¬∀ (item : ItemDelivery) (templateDefaults : Store) (seed : UInt64)
      (requests : List ItemRequest) (session : ItemState), item.definition.IsFinite →
      item.engine.registry = .empty → templateDefaults.IsFinite →
      item.sessionAfter templateDefaults seed requests = some session →
      session.IsFinite ∧ ItemState.ofJson? session.toJson = some session := by
  intro hall
  have hsession : ((mapped none none).sessionAfter .empty 0 ItemRequest.answerBoth).any
      (fun session => ¬session.outcomes.IsFinite) = true := by
    decide +kernel
  obtain ⟨session, hafter, hnot⟩ := (Option.any_eq_true _ _).1 hsession
  have hdefinition : (ItemDefinition.mapped none none).IsFinite := by
    apply ItemDefinition.isFinite_mapped <;> rintro _ ⟨⟩
  have hfinite := (hall _ _ _ _ _ hdefinition rfl Store.isFinite_empty hafter).1
  exact of_decide_eq_true hnot (hfinite.stores .outcome)

end ItemDelivery

end Assessment
