import Assessment.Proofs.Test.Phase

/-!
# The invariant of test sessions

What holds of a test session at all times, in the terms of the test that it is a session of: its
parts, the references in them, and the names that they have. No node of the plan is mentioned but
those that the session itself keeps.

## Main definitions

- `TestState.Coherent`: parts, items and the current ones of a session agree.

## Main results

- `TestDelivery.Reachable.coherent`: they do in every session that requests lead to.
-/

namespace Assessment

/-- A part of a session is that of a part of the test. -/
structure TestState.HasPart (test : TestDefinition) (state : TestState) (entry : PartState)
    (part : TestPart) : Prop where
  /-- The session has the one part. -/
  mem_parts : entry ∈ state.parts
  /-- The test has the other. -/
  mem_test : part ∈ test.parts
  /-- They have one name. -/
  name : entry.identifier = part.identifier

/-- Parts, items and the current ones of a session of a test agree. -/
structure TestState.Coherent (test : TestDefinition) (state : TestState) : Prop where
  /-- The parts are those of the test, in order. -/
  parts : state.parts.map (·.identifier) = test.parts.map (·.identifier)
  /-- There is a session for every reference to an item, and no other. -/
  sessions : ∀ name, state.items.contains name = true ↔
    name ∈ test.itemRefs.map ItemRef.identifier
  /-- At most one part is under way. -/
  single : (state.parts.filter (·.status = .interacting)).length ≤ 1
  /-- The current part is the one that is under way. -/
  current : state.currentPart = state.openPart?.map (·.node)
  /-- The name of the current part is the name of the one that is under way. -/
  currentName : state.currentPartName? = state.openPart?.map (·.identifier)
  /-- The current item stands in the current part, and was presented. -/
  cursor : ∀ index, state.currentItem = some index →
    ∃ entry part ref session, state.HasPart test entry part ∧ state.currentPart = some entry.node ∧
      entry.status = .interacting ∧ index ∈ state.plan.itemsUnder entry.node ∧
      ref ∈ part.itemRefs ∧ state.currentItemName? = some ref.identifier ∧
      state.items.get? ref.identifier = some session ∧ session.status ≠ .notEntered
  /-- Nothing was done to the items of a part that is still to come or was passed over. -/
  untouched : ∀ entry part, state.HasPart test entry part →
    entry.status = .notEntered ∨ entry.status = .skipped →
    ∀ ref ∈ part.itemRefs, ∀ session, state.items.get? ref.identifier = some session →
      session.status = .notEntered ∧ session.templateProcessed = false ∧
        session.responseProcessed = false ∧ session.responded = false ∧ session.pending = false
  /-- The items of the part that is under way are prepared. -/
  prepared : ∀ entry part, state.HasPart test entry part → entry.status = .interacting →
    ∀ ref ∈ part.itemRefs, ∀ session, state.items.get? ref.identifier = some session →
      session.templateProcessed = true
  /-- The items of a part that is over are closed, and none of them waits to be scored. -/
  ended : ∀ entry part, state.HasPart test entry part → entry.status = .ended →
    ∀ ref ∈ part.itemRefs, ∀ session, state.items.get? ref.identifier = some session →
      session.status = .closed ∧ session.pending = false
  /-- An item that waits to be scored has an attempt that was not scored, and it stands in a part
  that is under way and is scored when it ends. -/
  pending : ∀ name session, state.items.get? name = some session → session.pending = true →
    session.responded = true ∧ session.responseProcessed = false ∧
      ∃ entry part, state.HasPart test entry part ∧ entry.status = .interacting ∧
        part.submission = .simultaneous ∧ name ∈ part.itemRefs.map ItemRef.identifier

namespace TestDelivery

variable {delivery : TestDelivery} {state : TestState} {seed : UInt64}

/-! ### The current part -/

/-- The current part is the one that is under way. -/
theorem Staged.currentPart_eq_openPart? (h : delivery.Staged state) :
    state.currentPart = state.openPart?.map (·.node) := by
  rw [TestState.openPart?, ← List.head?_filter, ← List.head?_map, h.current]
  cases state.currentPart <;> rfl

/-- At most one part is under way. -/
theorem Staged.length_filter_le (h : delivery.Staged state) :
    (state.parts.filter (·.status = .interacting)).length ≤ 1 := by
  rw [← List.length_map (·.node), h.current]
  cases state.currentPart <;> simp

/-- The parts have the names of those of the test. -/
theorem Staged.map_identifier (h : delivery.Staged state) :
    state.parts.map (·.identifier) = delivery.definition.parts.map (·.identifier) := by
  have hheads := congrArg (List.map Prod.fst) h.heads
  rw [List.map_map, List.map_fst_zip] at hheads
  · exact hheads
  · have hlength := (TestPlan.forall₂_testParts h.plan).length_eq
    exact Nat.le_of_eq ((List.length_map _).trans hlength.symm)

/-- The name that is looked up for the current part is the name of the one that is under way. -/
theorem Staged.currentPartName?_eq (h : delivery.Staged state) :
    state.currentPartName? = state.openPart?.map (·.identifier) := by
  rw [TestState.currentPartName?, h.currentPart_eq_openPart?]
  cases hopen : state.openPart? with
  | none => rfl
  | some entry =>
    have hentry : entry ∈ state.parts := List.mem_of_find?_eq_some hopen
    obtain ⟨k, hk⟩ := List.getElem?_of_mem hentry
    obtain ⟨part, -, hname, hpart⟩ := h.exists_part hk
    change (state.plan.node? entry.node >>= PlanNode.identifier?) = some entry.identifier
    rw [hpart.node?, hname]
    rfl

/-! ### Parts by their names -/

section names

variable (hparts : (delivery.definition.parts.map (·.identifier)).Nodup)

include hparts

/-- Where parts have distinct names, a part of a session is at the node of the part of the test that
has its name, and is scored in the mode of it. -/
theorem Staged.isPart (h : delivery.Staged state) {entry : PartState} {part : TestPart}
    (hpart : state.HasPart delivery.definition entry part) :
    state.plan.IsPart entry.node part ∧ delivery.modeOf entry = some part.submission := by
  obtain ⟨k, hk⟩ := List.getElem?_of_mem hpart.mem_parts
  obtain ⟨found, hfound, hname, hisPart⟩ := h.exists_part hk
  obtain rfl : found = part := List.inj_on_of_nodup_map hparts (List.mem_of_getElem? hfound)
    hpart.mem_test (hname.symm.trans hpart.name)
  refine ⟨hisPart, ?_⟩
  have hlookUp : delivery.definition.part? found.identifier = some found :=
    find?_name_of_mem hparts hpart.mem_test
  rw [modeOf, hname, hlookUp]
  rfl

/-- The session of an item of a part has made the progress that goes with the part. -/
theorem Staged.admits (h : delivery.Staged state) {entry : PartState} {part : TestPart}
    (hpart : state.HasPart delivery.definition entry part) {ref : ItemRef}
    (href : ref ∈ part.itemRefs) {session : ItemState}
    (hsession : state.items.get? ref.identifier = some session) :
    entry.status.Admits (some part.submission) session.progress := by
  obtain ⟨hisPart, hmode⟩ := h.isPart hparts hpart
  obtain ⟨k, hk⟩ := List.getElem?_of_mem href
  obtain ⟨index, place, hindex, hplace, hnames⟩ :=
    TestPlan.exists_place_of_map_names hisPart.map_names hk
  have hfits := h.fits entry hpart.mem_parts index (List.mem_of_getElem? hindex) place session
    hplace
  rw [hmode] at hfits
  refine hfits ?_
  rw [show place.ref = ref.identifier from congrArg Prod.fst hnames]
  exact hsession

/-- Nothing was done to the items of a part that is still to come or was passed over. -/
theorem Staged.fresh (h : delivery.Staged state) {entry : PartState} {part : TestPart}
    (hpart : state.HasPart delivery.definition entry part)
    (hstatus : entry.status = .notEntered ∨ entry.status = .skipped) {ref : ItemRef}
    (href : ref ∈ part.itemRefs) {session : ItemState}
    (hsession : state.items.get? ref.identifier = some session) : session.progress = .fresh := by
  have hadmits := h.admits hparts hpart href hsession
  obtain hstatus | hstatus := hstatus
  all_goals
    rw [hstatus] at hadmits
    exact hadmits

/-- An item of a part waits to be scored only while the part is under way, and only if the part is
scored when it ends. -/
theorem Staged.of_pending (h : delivery.Staged state) {entry : PartState} {part : TestPart}
    (hpart : state.HasPart delivery.definition entry part) {ref : ItemRef}
    (href : ref ∈ part.itemRefs) {session : ItemState}
    (hsession : state.items.get? ref.identifier = some session)
    (hpending : session.pending = true) :
    entry.status = .interacting ∧ part.submission = .simultaneous ∧ session.responded = true ∧
      session.responseProcessed = false := by
  have hadmits := h.admits hparts hpart href hsession
  have hnot : ∀ {progress : ItemProgress}, session.progress = progress → progress.pending = true :=
    fun hprogress => hprogress ▸ hpending
  -- In the other parts nothing waits: their items are new or closed.
  cases hstatus : entry.status with
  | interacting =>
    rw [hstatus] at hadmits
    obtain ⟨hresponded, hprocessed, -, hmode⟩ := hadmits.2 hpending
    exact ⟨rfl, Option.some.inj hmode, hresponded, hprocessed⟩
  | ended =>
    rw [hstatus] at hadmits
    exact absurd (hpending.symm.trans hadmits.2) nofun
  | notEntered =>
    rw [hstatus] at hadmits
    exact absurd (hnot hadmits) nofun
  | skipped =>
    rw [hstatus] at hadmits
    exact absurd (hnot hadmits) nofun

end names

/-! ### Items by their names -/

/-- There is a session for every reference to an item, and no other. -/
theorem Staged.contains_iff_mem (h : delivery.Staged state) (name : Identifier) :
    state.items.contains name = true ↔
      name ∈ delivery.definition.itemRefs.map ItemRef.identifier := by
  rw [h.sessions, List.mem_map]
  constructor
  · rintro ⟨index, place, hplace, rfl⟩
    obtain ⟨ref, href, hnames⟩ := List.mem_map.1 (TestPlan.names_mem_of_place h.plan hplace)
    exact ⟨ref, href, congrArg Prod.fst hnames⟩
  · rintro ⟨ref, href, rfl⟩
    obtain ⟨k, hk⟩ := List.getElem?_of_mem href
    obtain ⟨index, place, -, hplace, hnames⟩ :=
      TestPlan.exists_place_of_map_names (TestPlan.map_names_items h.plan) hk
    exact ⟨index, place, hplace, congrArg Prod.fst hnames⟩

/-- The current item stands for a reference in the current part, and was presented. -/
theorem Staged.exists_current (h : delivery.Staged state) {index : Nat}
    (hindex : state.currentItem = some index) :
    ∃ entry part ref session, state.HasPart delivery.definition entry part ∧
      state.currentPart = some entry.node ∧ entry.status = .interacting ∧
      index ∈ state.plan.itemsUnder entry.node ∧ ref ∈ part.itemRefs ∧
      state.currentItemName? = some ref.identifier ∧
      state.items.get? ref.identifier = some session ∧ session.status ≠ .notEntered := by
  obtain ⟨entry, hentry, hstatus, hmem, hfits⟩ := h.cursor index hindex
  obtain ⟨k, hk⟩ := List.getElem?_of_mem hentry
  obtain ⟨part, hpart, hname, hisPart⟩ := h.exists_part hk
  obtain ⟨j, hj⟩ := List.getElem?_of_mem hmem
  obtain ⟨ref, place, href, hplace, hnames⟩ :=
    TestPlan.exists_ref_of_map_names hisPart.map_names hj
  have hrefName : place.ref = ref.identifier := congrArg Prod.fst hnames
  obtain ⟨session, hsession⟩ :=
    Option.isSome_iff_exists.1 ((h.sessions place.ref).2 ⟨index, place, hplace, rfl⟩)
  refine ⟨entry, part, ref, session, ⟨hentry, List.mem_of_getElem? hpart, hname⟩,
    h.currentPart_eq hentry hstatus, hstatus, hmem, List.mem_of_getElem? href, ?_, ?_, ?_⟩
  · rw [TestState.currentItemName?, hindex, ← hrefName]
    exact TestPlan.identifier?_of_place hplace
  · rw [← hrefName]
    exact hsession
  · exact hfits place session hplace hsession

/-- The part in which a reference stands is one of the session. -/
theorem Staged.exists_hasPart (h : delivery.Staged state) {ref : ItemRef}
    (href : ref ∈ delivery.definition.itemRefs) :
    ∃ entry part, state.HasPart delivery.definition entry part ∧ ref ∈ part.itemRefs := by
  rw [TestDefinition.itemRefs_eq, List.mem_flatMap] at href
  obtain ⟨part, hpart, href⟩ := href
  have hnamed : part.identifier ∈ state.parts.map (·.identifier) := by
    rw [h.map_identifier]
    exact List.mem_map_of_mem hpart
  obtain ⟨entry, hentry, hname⟩ := List.mem_map.1 hnamed
  exact ⟨entry, part, ⟨hentry, hpart, hname⟩, href⟩

/-! ### The invariant -/

/-- In every session of a test that requests lead to, parts, items and the current ones agree. -/
theorem Reachable.coherent (hparts : (delivery.definition.parts.map (·.identifier)).Nodup)
    (hrefs : (delivery.definition.itemRefs.map ItemRef.identifier).Nodup)
    (hreachable : delivery.Reachable seed state) : state.Coherent delivery.definition := by
  have h := hreachable.staged hrefs
  refine ⟨h.map_identifier, h.contains_iff_mem, h.length_filter_le, h.currentPart_eq_openPart?,
    h.currentPartName?_eq, fun _ => h.exists_current, ?_, ?_, ?_, ?_⟩
  · intro entry part hpart hstatus ref href session hsession
    have hfresh := h.fresh hparts hpart hstatus href hsession
    exact ⟨congrArg ItemProgress.status hfresh, congrArg ItemProgress.templateProcessed hfresh,
      congrArg ItemProgress.responseProcessed hfresh, congrArg ItemProgress.responded hfresh,
      congrArg ItemProgress.pending hfresh⟩
  · intro entry part hpart hstatus ref href session hsession
    have hadmits := h.admits hparts hpart href hsession
    rw [hstatus] at hadmits
    exact hadmits.1
  · intro entry part hpart hstatus ref href session hsession
    have hadmits := h.admits hparts hpart href hsession
    rw [hstatus] at hadmits
    exact hadmits
  · intro name session hsession hpending
    obtain ⟨ref, href, rfl⟩ :=
      List.mem_map.1 ((h.contains_iff_mem name).1 (Option.isSome_of_eq_some hsession))
    obtain ⟨entry, part, hpart, href⟩ := h.exists_hasPart href
    obtain ⟨hstatus, hmode, hresponded, hprocessed⟩ :=
      h.of_pending hparts hpart href hsession hpending
    exact ⟨hresponded, hprocessed, entry, part, hpart, hstatus, hmode, List.mem_map_of_mem href⟩

/-- Parts, items and the current ones agree in a session with an attempt that waits to be scored. -/
theorem coherent_single :
    ∃ state, (single .nonlinear .simultaneous).Reachable 0 state ∧
      state.currentItem.isSome = true ∧ state.items.toList.any (·.2.pending) = true ∧
      state.Coherent (TestDefinition.single .nonlinear .simultaneous) := by
  have hsession : ((single .nonlinear .simultaneous).sessionAfter 0
      [.enterTest (.logical 0), .enterPart (.unixMillis 0),
        .select (.logical 0) ⟨"Q", by decide +kernel⟩, .respond (.unixMillis 0) .empty]).any
      (fun state => state.currentItem.isSome && state.items.toList.any (·.2.pending)) = true := by
    decide +kernel
  obtain ⟨state, hstate, hpending⟩ := (Option.any_eq_true _ _).1 hsession
  rw [Bool.and_eq_true] at hpending
  have hreachable := reachable_of_sessionAfter hstate
  exact ⟨state, hreachable, hpending.1, hpending.2,
    Reachable.coherent (by decide +kernel) (by decide +kernel) hreachable⟩

end TestDelivery

end Assessment
