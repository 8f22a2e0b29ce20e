import Assessment.Proofs.Test.Creation
import Assessment.Proofs.Test.Request

/-!
# The phases of a test

A part of a test is still to come, or under way, or over, or passed over. The sessions of its items
have made the progress that goes with that: none at all before the part is entered, template
processing from then on, and in the end all of them are closed. At most one part is under way, and
the item that is presented is one of it. All requests keep this, those that are refused too.

## Main definitions

- `PartStatus.Admits`: the progress that the items of a part may have made.
- `TestDelivery.Staged`: the sessions in which parts and items go together.

## Main results

- `TestDelivery.Reachable.staged`: all sessions that requests lead to are of this kind.
-/

namespace Assessment

open Action

/-- The progress that the items of a part may have made, by the status of the part and the mode in
which it is scored. -/
def PartStatus.Admits (mode : Option SubmissionMode) (status : PartStatus)
    (progress : ItemProgress) : Prop :=
  match status with
  | .notEntered | .skipped => progress = .fresh
  | .interacting =>
    progress.templateProcessed = true ∧
      (progress.pending = true → progress.responded = true ∧ progress.responseProcessed = false ∧
        progress.status = .interacting ∧ mode = some .simultaneous)
  | .ended => progress.status = .closed ∧ progress.pending = false

namespace TestDelivery

variable {α : Type} {delivery : TestDelivery} {state left : TestState} {now : Timestamp}
  {seed : UInt64}

/-! ### The states of parts -/

@[simp]
theorem node_skipPart (entry : PartState) : (skipPart entry).node = entry.node := by
  unfold skipPart
  split <;> rfl

@[simp]
theorem identifier_skipPart (entry : PartState) :
    (skipPart entry).identifier = entry.identifier := by
  unfold skipPart
  split <;> rfl

theorem head_skipPart (entry : PartState) :
    ((skipPart entry).identifier, (skipPart entry).node) = (entry.identifier, entry.node) := by
  rw [identifier_skipPart, node_skipPart]

theorem status_skipPart (entry : PartState) :
    (skipPart entry).status = if entry.status = .notEntered then .skipped else entry.status := by
  unfold skipPart
  split <;> rfl

/-- Passing over a part gets no part under way. -/
@[simp]
theorem status_skipPart_eq_interacting {entry : PartState} :
    (skipPart entry).status = .interacting ↔ entry.status = .interacting := by
  rw [status_skipPart]
  split
  next h => simp [h]
  next => rfl

/-- Passing over a part asks nothing else of its items. -/
theorem admits_skipPart {mode : Option SubmissionMode} {entry : PartState}
    {progress : ItemProgress} (h : entry.status.Admits mode progress) :
    (skipPart entry).status.Admits mode progress := by
  rw [status_skipPart]
  split
  next hstatus =>
    rw [hstatus] at h
    exact h
  next => exact h

/-- When a part is entered, those before it are passed over, and those behind it stay. -/
theorem exists_enterAt {parts : List PartState} {position : Nat} {entry : PartState}
    (h : parts[position]? = some entry) :
    ∃ before after, parts = before ++ entry :: after ∧ before.length = position ∧
      enterAt position now parts = before.map skipPart ++
        { entry with status := .interacting, entryTime := some now } :: after := by
  obtain ⟨hlt, rfl⟩ := List.getElem?_eq_some_iff.1 h
  refine ⟨parts.take position, parts.drop (position + 1), ?_, ?_, ?_⟩
  · rw [← List.drop_eq_getElem_cons hlt, List.take_append_drop]
  · rw [List.length_take, Nat.min_eq_left (Nat.le_of_lt hlt)]
  · rw [enterAt, List.drop_eq_getElem_cons hlt]
    rfl

/-- What does not depend on the status of parts stays when parts are passed over. -/
theorem map_map_skipPart {f : PartState → α} (hskip : ∀ entry, f (skipPart entry) = f entry)
    (parts : List PartState) : (parts.map skipPart).map f = parts.map f := by
  rw [List.map_map]
  exact List.map_congr_left fun entry _ => hskip entry

/-- What does not depend on the status of parts stays when one is entered. -/
theorem map_enterAt {f : PartState → α} (hskip : ∀ entry, f (skipPart entry) = f entry)
    (henter : ∀ entry : PartState,
      f { entry with status := .interacting, entryTime := some now } = f entry)
    (position : Nat) (parts : List PartState) :
    (enterAt position now parts).map f = parts.map f := by
  have hrest : ∀ parts : List PartState,
      (parts.modifyHead fun entry =>
        { entry with status := .interacting, entryTime := some now }).map f = parts.map f := by
    intro parts
    cases parts with
    | nil => rfl
    | cons first rest => rw [List.modifyHead_cons, List.map_cons, henter, List.map_cons]
  rw [enterAt, List.map_append, map_map_skipPart hskip, hrest, ← List.map_append,
    List.take_append_drop]

/-- What does not depend on the status of parts stays when one ends. -/
theorem map_endAt {f : PartState → α}
    (hend : ∀ entry : PartState, f { entry with status := .ended, endTime := some now } = f entry)
    (node : Nat) (parts : List PartState) : (endAt node now parts).map f = parts.map f := by
  induction parts with
  | nil => rfl
  | cons first rest ih =>
    rw [endAt]
    split
    next => rw [List.map_cons, hend, List.map_cons]
    next => rw [List.map_cons, List.map_cons, ih]

/-- Where no part is under way, the one that is entered is the only one afterwards. -/
theorem map_node_filter_enterAt {parts : List PartState} {position : Nat} {entry : PartState}
    (hentry : parts[position]? = some entry)
    (hnone : ∀ other ∈ parts, other.status ≠ .interacting) :
    ((enterAt position now parts).filter (·.status = .interacting)).map (·.node) =
      [entry.node] := by
  obtain ⟨before, after, rfl, -, henter⟩ := @exists_enterAt now _ _ _ hentry
  rw [henter, List.filter_append, List.filter_eq_nil_iff.2, List.nil_append, List.filter_cons,
    if_pos (decide_eq_true rfl), List.filter_eq_nil_iff.2]
  · rfl
  · intro other hother hopen
    have hmem := List.mem_append_right before (List.mem_cons_of_mem entry hother)
    exact hnone other hmem (of_decide_eq_true hopen)
  · intro _ hskipped hopen
    obtain ⟨other, hother, rfl⟩ := List.mem_map.1 hskipped
    have hmem := List.mem_append_left (entry :: after) hother
    exact hnone other hmem (status_skipPart_eq_interacting.1 (of_decide_eq_true hopen))

/-- The parts when one of them ends. -/
theorem endAt_eq_map {parts : List PartState} {node : Nat} (h : (parts.map (·.node)).Nodup) :
    endAt node now parts = parts.map fun entry =>
      if entry.node = node then { entry with status := .ended, endTime := some now }
      else entry := by
  -- Only the first part at the node ends, and behind it there is none.
  induction parts with
  | nil => rfl
  | cons first rest ih =>
    rw [List.map_cons, List.nodup_cons] at h
    rw [endAt, List.map_cons]
    split
    next hfirst =>
      congr 1
      refine (List.map_id rest).symm.trans (List.map_congr_left fun entry hentry => ?_)
      rw [if_neg, id_eq]
      rintro rfl
      exact h.1 (hfirst ▸ List.mem_map_of_mem hentry)
    next => rw [ih h.2]

/-! ### Parts and items that go together -/

/-- The mode in which a part is scored. -/
def modeOf (delivery : TestDelivery) (entry : PartState) : Option SubmissionMode :=
  (delivery.definition.part? entry.identifier).map (·.submission)

section heads

variable {plan : TestPlan} {parts : List PartState}
  (hplan : TestPlan.build delivery.definition = .ok plan)
  (hheads : parts.map (fun entry => (entry.identifier, entry.node)) =
    (delivery.definition.parts.map (·.identifier)).zip plan.testParts)

include hplan hheads

/-- Parts that have the names and the nodes of those of a test are at its nodes. -/
theorem nodes_of_heads : parts.map (·.node) = plan.testParts := by
  have hnodes := congrArg (List.map Prod.snd) hheads
  rw [List.map_map, List.map_snd_zip] at hnodes
  · exact hnodes
  · have hlength := (TestPlan.forall₂_testParts hplan).length_eq
    exact Nat.le_of_eq (hlength.trans (List.length_map _).symm)

theorem nodup_of_heads : (parts.map (·.node)).Nodup := by
  rw [nodes_of_heads hplan hheads]
  exact TestPlan.nodup_testParts hplan

/-- Parts that have the names and the nodes of those of a test stand for them, in order. -/
theorem exists_part_of_heads {k : Nat} {entry : PartState} (hk : parts[k]? = some entry) :
    ∃ part, delivery.definition.parts[k]? = some part ∧ entry.identifier = part.identifier ∧
      plan.IsPart entry.node part := by
  have hhead := congrArg (·[k]?) hheads
  rw [List.getElem?_map, hk, Option.map_some, eq_comm, List.getElem?_zip_eq_some,
    List.getElem?_map, Option.map_eq_some_iff] at hhead
  obtain ⟨⟨part, hpart, hname⟩, hnode⟩ := hhead
  refine ⟨part, hpart, hname.symm, ?_⟩
  obtain ⟨hlt, rfl⟩ := List.getElem?_eq_some_iff.1 hpart
  obtain ⟨hlt', hget⟩ := List.getElem?_eq_some_iff.1 hnode
  have := (List.forall₂_iff_get.1 (TestPlan.forall₂_testParts hplan)).2 k hlt' hlt
  rwa [List.get_eq_getElem, hget] at this

/-- The part that is looked up for a node has the mode of that part. -/
theorem modeOf_eq_of_heads {entry : PartState} (hentry : entry ∈ parts) {part : TestPart}
    (hpart : delivery.part plan entry.node = .ok part) :
    delivery.modeOf entry = some part.submission := by
  obtain ⟨k, hk⟩ := List.getElem?_of_mem hentry
  obtain ⟨found, -, hname, hisPart⟩ := exists_part_of_heads hplan hheads hk
  rw [modeOf, hname, (part_eq_ok_iff hisPart).1 hpart]
  rfl

end heads

/-- The parts and the items of a session go together, and the current ones are among them. -/
structure Staged (delivery : TestDelivery) (state : TestState) : Prop where
  /-- The plan is that of the test. -/
  plan : TestPlan.build delivery.definition = .ok state.plan
  /-- The parts are those of the test, in order. -/
  heads : state.parts.map (fun entry => (entry.identifier, entry.node)) =
    (delivery.definition.parts.map (·.identifier)).zip state.plan.testParts
  /-- There is a session for every item, and no other. -/
  sessions : ∀ ref, state.items.contains ref = true ↔
    ∃ index place, state.plan.place index = .ok place ∧ place.ref = ref
  /-- The current part is the only one that is under way. -/
  current : (state.parts.filter (·.status = .interacting)).map (·.node) = state.currentPart.toList
  /-- The current item is one of the current part, and was presented. -/
  cursor : ∀ index, state.currentItem = some index →
    ∃ entry ∈ state.parts, entry.status = .interacting ∧ index ∈ state.plan.itemsUnder entry.node ∧
      state.plan.Fits state.items index (·.status ≠ .notEntered)
  /-- The sessions of items have made the progress that goes with their part. -/
  fits : ∀ entry ∈ state.parts, ∀ index ∈ state.plan.itemsUnder entry.node,
    state.plan.Fits state.items index (entry.status.Admits (delivery.modeOf entry))

/-- Whether parts and items go together does not depend on time and outcomes. -/
theorem Staged.congr (h : delivery.Staged state) (hplan : left.plan = state.plan)
    (hparts : left.parts = state.parts) (hitems : left.items = state.items)
    (hcurrentPart : left.currentPart = state.currentPart)
    (hcurrentItem : left.currentItem = state.currentItem) : delivery.Staged left where
  plan := by rw [hplan]; exact h.plan
  heads := by rw [hparts, hplan]; exact h.heads
  sessions := by rw [hplan, hitems]; exact h.sessions
  current := by rw [hparts, hcurrentPart]; exact h.current
  cursor := by rw [hparts, hplan, hitems, hcurrentItem]; exact h.cursor
  fits := by rw [hparts, hplan, hitems]; exact h.fits

section Staged

variable (h : delivery.Staged state)

include h

theorem Staged.nodes : state.parts.map (·.node) = state.plan.testParts :=
  nodes_of_heads h.plan h.heads

theorem Staged.nodup : (state.parts.map (·.node)).Nodup :=
  nodup_of_heads h.plan h.heads

/-- The part of the test that a part of the session stands for is at the same place. -/
theorem Staged.exists_part {k : Nat} {entry : PartState} (hk : state.parts[k]? = some entry) :
    ∃ part, delivery.definition.parts[k]? = some part ∧ entry.identifier = part.identifier ∧
      state.plan.IsPart entry.node part :=
  exists_part_of_heads h.plan h.heads hk

theorem Staged.mem_testParts {entry : PartState} (hentry : entry ∈ state.parts) :
    entry.node ∈ state.plan.testParts := by
  rw [← h.nodes]
  exact List.mem_map_of_mem hentry

/-- An item stands in one part. -/
theorem Staged.eq_of_mem {entry other : PartState} (hentry : entry ∈ state.parts)
    (hother : other ∈ state.parts) {index : Nat} (hindex : index ∈ state.plan.itemsUnder entry.node)
    (hindex' : index ∈ state.plan.itemsUnder other.node) : entry = other :=
  List.inj_on_of_nodup_map h.nodup hentry hother
    (TestPlan.eq_of_mem_itemsUnder h.plan (h.mem_testParts hentry) (h.mem_testParts hother) hindex
      hindex')

/-- The part that is under way is the current one. -/
theorem Staged.currentPart_eq {entry : PartState} (hentry : entry ∈ state.parts)
    (hstatus : entry.status = .interacting) : state.currentPart = some entry.node := by
  have hmem : entry.node ∈ state.currentPart.toList := by
    rw [← h.current]
    exact List.mem_map_of_mem (List.mem_filter.2 ⟨hentry, decide_eq_true hstatus⟩)
  exact Option.mem_toList.1 hmem

/-- Where no part is under way, no item is current. -/
theorem Staged.currentItem_eq_none (hnone : ∀ entry ∈ state.parts, entry.status ≠ .interacting) :
    state.currentItem = none := by
  cases hcurrent : state.currentItem with
  | none => rfl
  | some index =>
    obtain ⟨entry, hentry, hstatus, -⟩ := h.cursor index hcurrent
    exact absurd hstatus (hnone entry hentry)

theorem Staged.modeOf_eq {entry : PartState} (hentry : entry ∈ state.parts) {part : TestPart}
    (hpart : delivery.part state.plan entry.node = .ok part) :
    delivery.modeOf entry = some part.submission :=
  modeOf_eq_of_heads h.plan h.heads hentry hpart

end Staged

/-- Stopping clocks keeps parts and items together. -/
theorem Staged.suspend (h : delivery.Staged state) {indices : List Nat}
    {items : SortedMap Identifier ItemState}
    (hsweep : Sweep delivery state.plan (ItemDelivery.Suspends now) indices state.items items) :
    delivery.Staged { state with items } where
  plan := h.plan
  heads := h.heads
  sessions ref := (hsweep.contains_iff ref).trans (h.sessions ref)
  current := h.current
  cursor index hindex := by
    obtain ⟨entry, hentry, hstatus, hmem, hfits⟩ := h.cursor index hindex
    refine ⟨entry, hentry, hstatus, hmem, hsweep.fits (fun hmove hbefore => ?_) hfits⟩
    rw [hmove.progress]
    exact hbefore
  fits entry hentry index hindex := by
    refine hsweep.fits (fun hmove hbefore => ?_) (h.fits entry hentry index hindex)
    rw [hmove.progress]
    exact hbefore

/-- An item of the part that is under way may become the current one when it is presented. -/
theorem Staged.present (h : delivery.Staged state) {entry : PartState}
    (hentry : entry ∈ state.parts) (hstatus : entry.status = .interacting) {index : Nat}
    (hindex : index ∈ state.plan.itemsUnder entry.node)
    (hfits : state.plan.Fits state.items index (·.status ≠ .notEntered)) :
    delivery.Staged { state with currentItem := some index } where
  plan := h.plan
  heads := h.heads
  sessions := h.sessions
  current := h.current
  cursor := by
    rintro _ ⟨⟩
    exact ⟨entry, hentry, hstatus, hindex, hfits⟩
  fits := h.fits

/-- No item has to be the current one. -/
theorem Staged.clear (h : delivery.Staged state) :
    delivery.Staged { state with currentItem := none } where
  plan := h.plan
  heads := h.heads
  sessions := h.sessions
  current := h.current
  cursor := nofun
  fits := h.fits

section distinct

variable (hdistinct : (delivery.definition.itemRefs.map ItemRef.identifier).Nodup)

include hdistinct

/-- Sweeps over items of the part that is under way keep parts and items together, if their moves
keep the progress that goes with the part. -/
theorem Staged.sweep (h : delivery.Staged state) {entry : PartState} (hentry : entry ∈ state.parts)
    {moves : ItemDelivery → ItemState → ItemState → Prop} {indices : List Nat}
    {items : SortedMap Identifier ItemState}
    (hsweep : Sweep delivery state.plan moves indices state.items items)
    (hindices : ∀ i ∈ indices, i ∈ state.plan.itemsUnder entry.node)
    (hadmits : ∀ {item session changed}, moves item session changed →
      entry.status.Admits (delivery.modeOf entry) session.progress →
      entry.status.Admits (delivery.modeOf entry) changed.progress)
    (hentered : ∀ {item session changed}, moves item session changed →
      session.progress.status ≠ .notEntered → changed.progress.status ≠ .notEntered) :
    delivery.Staged { state with items } where
  plan := h.plan
  heads := h.heads
  sessions ref := (hsweep.contains_iff ref).trans (h.sessions ref)
  current := h.current
  cursor index hindex := by
    obtain ⟨current, hcurrent, hstatus, hmem, hfits⟩ := h.cursor index hindex
    exact ⟨current, hcurrent, hstatus, hmem, hsweep.fits hentered hfits⟩
  fits other hother index hindex := by
    have hfits := h.fits other hother index hindex
    by_cases hmem : index ∈ state.plan.itemsUnder entry.node
    · obtain rfl := h.eq_of_mem hentry hother hmem hindex
      exact hsweep.fits hadmits hfits
    · exact hsweep.fits_of_not_mem (TestPlan.eq_of_place_ref h.plan hdistinct)
        (fun hswept => hmem (hindices index hswept)) hfits

/-- Presenting an item of the part that is under way keeps parts and items together. -/
theorem Staged.enter (h : delivery.Staged state) {entry : PartState} (hentry : entry ∈ state.parts)
    (hstatus : entry.status = .interacting) {index : Nat}
    (hindex : index ∈ state.plan.itemsUnder entry.node) {items : SortedMap Identifier ItemState}
    (hsweep : Sweep delivery state.plan (ItemDelivery.Enters now) [index] state.items items) :
    delivery.Staged { state with items, currentItem := some index } := by
  have hswept : delivery.Staged { state with items } := by
    refine h.sweep hdistinct hentry hsweep ?_ ?_ ?_
    · intro i hi
      rw [List.mem_singleton.1 hi]
      exact hindex
    · intro item session changed hmove hadmits
      rw [hstatus] at hadmits ⊢
      rw [hmove.progress]
      refine ⟨hadmits.1, fun hpending => ?_⟩
      obtain ⟨hresponded, hprocessed, -, hmode⟩ := hadmits.2 hpending
      exact ⟨hresponded, hprocessed, rfl, hmode⟩
    · intro item session changed hmove _
      rw [hmove.progress]
      exact nofun
  have hany : state.plan.Fits state.items index fun _ => True := fun _ _ _ _ => trivial
  have hplaces := @TestPlan.eq_of_place_ref _ _ h.plan hdistinct
  refine hswept.present hentry hstatus hindex ?_
  refine hsweep.fits_of_mem hplaces List.mem_cons_self ?_ ?_ hany
  all_goals
    intro item session changed hmove _
    rw [hmove.progress]
    exact nofun

/-- An attempt on the current item keeps parts and items together. -/
theorem Staged.respond (h : delivery.Staged state) {part current : Nat} {testPart : TestPart}
    (hpart : state.currentPart = some part)
    (htestPart : delivery.part state.plan part = .ok testPart)
    (hcurrent : state.currentItem = some current)
    {responses : SortedMap Identifier ResponseData} {control : EffectiveControl}
    {items : SortedMap Identifier ItemState}
    (hsweep : Sweep delivery state.plan
      (ItemDelivery.Attempts responses now (policy testPart.submission control)) [current]
      state.items items) :
    delivery.Staged { state with items } := by
  obtain ⟨entry, hentry, hstatus, hindex, -⟩ := h.cursor current hcurrent
  obtain rfl : entry.node = part :=
    Option.some.inj ((h.currentPart_eq hentry hstatus).symm.trans hpart)
  have hmode := h.modeOf_eq hentry htestPart
  refine h.sweep hdistinct hentry hsweep ?_ ?_ ?_
  · intro i hi
    rw [List.mem_singleton.1 hi]
    exact hindex
  · intro item session changed hmove hadmits
    rw [hstatus] at hadmits ⊢
    obtain ⟨hopen, hprocessed, hchanged⟩ := hmove.progress
    -- An attempt waits only where scoring is deferred, which the mode of the part decides.
    split at hchanged
    next hdeferred =>
      rw [hchanged]
      refine ⟨hprocessed, fun _ => ⟨rfl, rfl, hopen, ?_⟩⟩
      rw [hmode]
      cases hsubmission : testPart.submission with
      | individual => rw [hsubmission] at hdeferred; exact absurd hdeferred Bool.false_ne_true
      | simultaneous => rfl
    next =>
      obtain ⟨status, -, hchanged⟩ := hchanged
      rw [hchanged]
      exact ⟨hprocessed, nofun⟩
  · intro item session changed hmove _
    obtain ⟨hopen, -, hchanged⟩ := hmove.progress
    split at hchanged
    next =>
      rw [hchanged, show session.progress.status = .interacting from hopen]
      exact nofun
    next =>
      obtain ⟨status, hentered, hchanged⟩ := hchanged
      rw [hchanged]
      exact hentered

end distinct

/-! ### Entering and ending parts -/

/-- Passing over the parts that are still to come keeps parts and items together. -/
theorem Staged.skip (h : delivery.Staged state) :
    delivery.Staged { state with parts := state.parts.map skipPart } where
  plan := h.plan
  heads := (map_map_skipPart head_skipPart _).trans h.heads
  sessions := h.sessions
  current := by
    rw [← h.current, List.filter_map, List.map_map]
    refine (List.map_congr_left fun entry _ => node_skipPart entry).trans ?_
    refine congrArg (List.map _) (List.filter_congr fun entry _ => ?_)
    rw [Function.comp_apply, decide_eq_decide]
    exact status_skipPart_eq_interacting
  cursor index hindex := by
    obtain ⟨entry, hentry, hstatus, hmem, hfits⟩ := h.cursor index hindex
    refine ⟨skipPart entry, List.mem_map_of_mem hentry, ?_, ?_, hfits⟩
    · exact status_skipPart_eq_interacting.2 hstatus
    · rw [node_skipPart]
      exact hmem
  fits _ hother index hindex := by
    obtain ⟨entry, hentry, rfl⟩ := List.mem_map.1 hother
    rw [node_skipPart] at hindex
    rw [modeOf, identifier_skipPart]
    intro place session hplace hsession
    exact admits_skipPart (h.fits entry hentry index hindex place session hplace hsession)

/-- Entering a part that is still to come keeps parts and items together, where its items are
prepared and no other part is under way. -/
theorem Staged.enterPart (h : delivery.Staged state)
    (hdistinct : (delivery.definition.itemRefs.map ItemRef.identifier).Nodup) {position : Nat}
    {entry : PartState} (hentry : state.parts[position]? = some entry)
    (hcoming : entry.status = .notEntered)
    (hnone : ∀ other ∈ state.parts, other.status ≠ .interacting)
    {items : SortedMap Identifier ItemState}
    (hsweep : Sweep delivery state.plan ItemDelivery.Prepares (state.plan.itemsUnder entry.node)
      state.items items) :
    delivery.Staged
      { state with
        items
        parts := enterAt position now state.parts
        currentPart := some entry.node
        currentItem := none } := by
  obtain ⟨before, after, hparts, -, henter⟩ := @exists_enterAt now _ _ _ hentry
  have hmem : entry ∈ state.parts := List.mem_of_getElem? hentry
  have hbefore : ∀ other ∈ before, other ∈ state.parts := fun other hother =>
    hparts ▸ List.mem_append_left _ hother
  have hafter : ∀ other ∈ after, other ∈ state.parts := fun other hother =>
    hparts ▸ List.mem_append_right _ (List.mem_cons_of_mem _ hother)
  have hnodup : entry ∉ before ∧ entry ∉ after := by
    have hnodes := h.nodup.of_map
    rw [hparts, List.nodup_append, List.nodup_cons] at hnodes
    exact ⟨fun hin => hnodes.2.2 entry hin entry List.mem_cons_self rfl, hnodes.2.1.1⟩
  -- The items of the other parts are not prepared.
  have hothers : ∀ other ∈ state.parts, other ≠ entry → ∀ index ∈ state.plan.itemsUnder other.node,
      state.plan.Fits items index (other.status.Admits (delivery.modeOf other)) := by
    intro other hother hne index hindex
    refine hsweep.fits_of_not_mem (TestPlan.eq_of_place_ref h.plan hdistinct) (fun hswept => hne ?_)
      (h.fits other hother index hindex)
    exact h.eq_of_mem hother hmem hindex hswept
  refine ⟨h.plan, ?_, fun ref => (hsweep.contains_iff ref).trans (h.sessions ref), ?_, nofun, ?_⟩
  · exact (map_enterAt head_skipPart (fun _ => rfl) _ _).trans h.heads
  · exact map_node_filter_enterAt hentry hnone
  · intro other hother index hindex
    dsimp only at hother hindex ⊢
    rw [henter, List.mem_append, List.mem_cons, List.mem_map] at hother
    obtain ⟨other, hother, rfl⟩ | rfl | hother := hother
    · rw [node_skipPart] at hindex
      rw [modeOf, identifier_skipPart]
      intro place session hplace hsession
      refine admits_skipPart (hothers other (hbefore other hother) ?_ index hindex place session
        hplace hsession)
      exact fun heq => hnodup.1 (heq ▸ hother)
    · refine hsweep.fits_of_mem (TestPlan.eq_of_place_ref h.plan hdistinct) hindex ?_ ?_
        (h.fits entry hmem index hindex)
      · intro item session changed hmove hfresh
        rw [hcoming] at hfresh
        rw [hmove.progress, show session.progress = .fresh from hfresh]
        exact ⟨rfl, nofun⟩
      · intro item session changed hmove hadmits
        rw [hmove.progress]
        exact ⟨rfl, hadmits.2⟩
    · exact hothers other (hafter other hother) (fun heq => hnodup.2 (heq ▸ hother)) index hindex

/-- The items of a part that was under way are closed and none of them waits, after what waits was
scored and all of them were closed. -/
theorem fits_ended {plan : TestPlan} {indices : List Nat} {index : Nat}
    {before scored items : SortedMap Identifier ItemState} {mode : SubmissionMode}
    {partMode : Option SubmissionMode}
    (hplaces : ∀ {i j place place'}, plan.place i = .ok place → plan.place j = .ok place' →
      place.ref = place'.ref → i = j)
    (hscore : Sweep delivery plan (ItemDelivery.Scores now mode) indices before scored)
    (hclose : Sweep delivery plan (ItemDelivery.Ends now) indices scored items)
    (hindex : index ∈ indices)
    (hfits : plan.Fits before index (PartStatus.interacting.Admits partMode)) :
    plan.Fits items index (PartStatus.ended.Admits partMode) := by
  -- What waits is under way, and all that waits and is under way is scored.
  have hscored : plan.Fits scored index (·.pending = false) := by
    refine hscore.fits_of_mem hplaces hindex ?_ ?_ hfits
    · intro item session changed hmove hadmits
      obtain ⟨-, _, -, hchanged⟩ | ⟨hwaits, hchanged⟩ := hmove.progress
      · rw [hchanged]
        rfl
      · rw [hchanged, Bool.eq_false_iff]
        intro hpending
        exact hwaits ⟨(hadmits.2 hpending).2.2.1, .inl hpending⟩
    · intro item session changed hmove hpending
      obtain ⟨-, _, -, hchanged⟩ | ⟨-, hchanged⟩ := hmove.progress
      · rw [hchanged]
        rfl
      · rw [hchanged]
        exact hpending
  refine hclose.fits_of_mem hplaces hindex ?_ ?_ hscored
  · intro item session changed hmove hpending
    rw [hmove.progress]
    exact ⟨rfl, hpending⟩
  · intro item session changed hmove hended
    rw [hmove.progress]
    exact ⟨rfl, hended.2⟩

/-- Ending the part that is under way keeps parts and items together, where what waits is scored
first, and all items of the part are closed. -/
theorem Staged.endPart (h : delivery.Staged state)
    (hdistinct : (delivery.definition.itemRefs.map ItemRef.identifier).Nodup) {entry : PartState}
    (hentry : entry ∈ state.parts) (hstatus : entry.status = .interacting) {mode : SubmissionMode}
    {scored items : SortedMap Identifier ItemState}
    (hscore : Sweep delivery state.plan (ItemDelivery.Scores now mode)
      (state.plan.itemsUnder entry.node) state.items scored)
    (hclose : Sweep delivery state.plan (ItemDelivery.Ends now)
      (state.plan.itemsUnder entry.node) scored items) :
    delivery.Staged
      { state with
        items
        parts := endAt entry.node now state.parts
        currentPart := none
        currentItem := none } := by
  have hplaces := @TestPlan.eq_of_place_ref _ _ h.plan hdistinct
  refine ⟨h.plan, ?_, ?_, ?_, nofun, ?_⟩
  · exact (map_endAt (fun _ => rfl) _ _).trans h.heads
  · intro ref
    rw [hclose.contains_iff, hscore.contains_iff]
    exact h.sessions ref
  · dsimp only
    rw [endAt_eq_map h.nodup, List.filter_eq_nil_iff.2]
    · rfl
    · intro _ hleft hopen
      obtain ⟨other, hother, rfl⟩ := List.mem_map.1 hleft
      split at hopen
      next => exact absurd (of_decide_eq_true hopen) nofun
      next hne =>
        have hnode := (h.currentPart_eq hother (of_decide_eq_true hopen)).symm.trans
          (h.currentPart_eq hentry hstatus)
        exact hne (Option.some.inj hnode)
  · intro _ hleft index hindex
    dsimp only at hleft hindex ⊢
    rw [endAt_eq_map h.nodup] at hleft
    obtain ⟨other, hother, rfl⟩ := List.mem_map.1 hleft
    have hfits := h.fits other hother
    split at hindex
    next hnode =>
      rw [if_pos hnode]
      obtain rfl := List.inj_on_of_nodup_map h.nodup hother hentry hnode
      rw [hstatus] at hfits
      exact fits_ended hplaces hscore hclose hindex (hfits index hindex)
    next hnode =>
      rw [if_neg hnode]
      have hout : index ∉ state.plan.itemsUnder entry.node := fun hswept =>
        hnode (congrArg PartState.node (h.eq_of_mem hother hentry hindex hswept))
      exact hclose.fits_of_not_mem hplaces hout
        (hscore.fits_of_not_mem hplaces hout (hfits index hindex))

/-! ### Requests -/

/-- The parts of a new session are those of the test, and all are still to come. -/
theorem Created.parts_eq (h : Created delivery seed state) :
    state.parts = List.zipWith (fun part index => ⟨part.identifier, index, .notEntered, none, none⟩)
      delivery.definition.parts state.plan.testParts := by
  have hnew := h.parts
  have hparts := TestPlan.forall₂_testParts h.plan
  generalize state.parts = entries, state.plan.testParts = nodes,
    delivery.definition.parts = parts at hnew hparts ⊢
  induction hparts generalizing entries with
  | nil =>
    cases hnew
    rfl
  | cons hpart _ ih =>
    obtain _ | ⟨hfirst, hrest⟩ := hnew
    rw [List.zipWith_cons_cons, ← ih _ hrest]
    cases (newPart_eq hpart).symm.trans hfirst
    rfl

/-- Every part of a new session is still to come. -/
theorem Created.status_eq (h : Created delivery seed state) :
    ∀ entry ∈ state.parts, entry.status = .notEntered := by
  intro entry hentry
  rw [h.parts_eq, ← List.map_uncurry_zip_eq_zipWith] at hentry
  obtain ⟨_, -, rfl⟩ := List.mem_map.1 hentry
  rfl

/-- The parts of a new session have the names and the nodes of those of the test. -/
theorem Created.heads (h : Created delivery seed state) :
    state.parts.map (fun entry => (entry.identifier, entry.node)) =
      (delivery.definition.parts.map (·.identifier)).zip state.plan.testParts := by
  rw [h.parts_eq, List.map_zipWith, List.zip, List.zipWith_map_left]

/-- In a new session every part is still to come, and no item was presented. -/
theorem Created.staged (h : Created delivery seed state)
    (hdistinct : (delivery.definition.itemRefs.map ItemRef.identifier).Nodup) :
    delivery.Staged state := by
  have hsession : ∀ {index place}, state.plan.place index = .ok place →
      ∃ session, state.items.get? place.ref = some session ∧ session.progress = .fresh := by
    intro index place hplace
    obtain ⟨k, hk⟩ := List.getElem?_of_mem ((TestPlan.mem_items h.plan).2 ⟨place, hplace⟩)
    obtain ⟨_, session, -, -, hfresh, hget⟩ := h.exists_session hdistinct hk hplace
    exact ⟨session, hget, hfresh⟩
  refine ⟨h.plan, h.heads, fun ref => ⟨fun href => ?_, ?_⟩, ?_, ?_, ?_⟩
  · obtain ⟨created, hitems, hcreated⟩ := h.items
    rw [hitems, SortedMap.contains_ofList, List.mem_map] at href
    obtain ⟨entry, hentry, rfl⟩ := href
    obtain ⟨k, hk, rfl⟩ := List.getElem_of_mem hentry
    obtain ⟨hlength, hall⟩ := List.forall₂_iff_get.1 hcreated
    obtain ⟨place, _, _, hplace, -, -, -, hpair⟩ :=
      exists_of_createItem (hall k (hlength ▸ hk) hk)
    exact ⟨_, place, hplace, (congrArg Prod.fst hpair).symm⟩
  · rintro ⟨index, place, hplace, rfl⟩
    obtain ⟨session, hget, -⟩ := hsession hplace
    exact Option.isSome_of_eq_some hget
  · rw [h.currentPart, List.filter_eq_nil_iff.2]
    · rfl
    · intro entry hentry hopen
      exact absurd ((h.status_eq entry hentry).symm.trans (of_decide_eq_true hopen)) nofun
  · rw [h.currentItem]
    exact nofun
  · intro entry hentry index _ place session hplace hget
    obtain ⟨_, hfound, hfresh⟩ := hsession hplace
    obtain rfl := Option.some.inj (hfound.symm.trans hget)
    rw [h.status_eq entry hentry]
    exact hfresh

/-- No item of a part that is still to come is closed, let alone one that is not prepared. -/
theorem Staged.prepared_of_closed (h : delivery.Staged state) :
    ∀ entry ∈ state.parts, entry.status = .notEntered →
      ∀ index ∈ state.plan.itemsUnder entry.node, ∀ place session,
        state.plan.place index = .ok place → state.items.get? place.ref = some session →
        session.status = .closed → session.templateProcessed = true := by
  intro entry hentry hcoming index hindex place session hplace hsession hclosed
  have hfits := h.fits entry hentry index hindex place session hplace hsession
  rw [hcoming] at hfits
  exact absurd ((congrArg ItemProgress.status hfits).symm.trans hclosed) nofun

section distinct

variable (hdistinct : (delivery.definition.itemRefs.map ItemRef.identifier).Nodup)

include hdistinct

/-- Every request keeps parts and items together, also where it is refused. -/
theorem Staged.ensures_serve (h : delivery.Staged state) (request : TestRequest) :
    (delivery.serve request).Ensures state (fun _ left => delivery.Staged left)
      fun error left => error.isLogic ∨ delivery.Staged left := by
  have hleft : ∀ {error : TestError} {left : TestState}, error.isLogic ∨ left = state →
      error.isLogic ∨ delivery.Staged left := by
    rintro error left (herror | rfl)
    · exact .inl herror
    · exact .inr h
  cases request with
  | enterTest now =>
    rw [serve, ensures_map]
    refine delivery.ensures_enterTest.mono ?_ fun _ _ => hleft
    rintro _ _ ⟨-, outcomes, rfl⟩
    exact h.congr rfl rfl rfl rfl rfl
  | enterPart now =>
    rw [serve, ensures_map]
    refine (delivery.ensures_enterPart h.prepared_of_closed).mono ?_ fun _ _ => hleft
    rintro _ _ ⟨-, hnone, -, _, position, _, entry, outcomes, items, -, -, hentry, hcoming, rfl,
      hsweep⟩
    exact (h.enterPart hdistinct hentry hcoming hnone hsweep).congr rfl rfl rfl rfl rfl
  | select now ref =>
    rw [serve, ensures_map]
    refine (delivery.ensures_select ref).mono ?_ fun _ _ => hleft
    rintro _ _ ⟨-, _, _, index, outcomes, between, items, -, ⟨entry, hentry, rfl, hstatus⟩, -, -,
      hfound, hpart, rfl, hsuspend, henter⟩
    obtain ⟨place, hplace, -⟩ := TestPlan.exists_place_of_findItem? hfound
    obtain ⟨-, hindex⟩ := TestPlan.mem_itemsUnder_of_partOf? h.plan hplace hpart
    have hentered := (h.suspend hsuspend).enter hdistinct hentry hstatus hindex henter
    exact hentered.congr rfl rfl rfl rfl rfl
  | advance now =>
    rw [serve, ensures_map]
    refine delivery.ensures_advance.mono ?_ ?_
    · rintro _ _ ⟨_, next, outcomes, between, items, hadvances, rfl, hsuspend, henter⟩
      obtain ⟨-, -, ⟨entry, hentry, rfl, hstatus⟩, -⟩ :=
        delivery.ensures_activePart.ok hadvances.active
      cases next with
      | none =>
        cases henter
        exact (h.suspend hsuspend).clear.congr rfl rfl rfl rfl rfl
      | some found =>
        obtain ⟨index, place⟩ := found
        obtain ⟨log, hsearch⟩ := hadvances.search
        obtain ⟨hindex, -⟩ :=
          (yields_iff.1 (delivery.yields_nextItem _ _ _ _)).1 _ hsearch index place rfl
        have hentered := (h.suspend hsuspend).enter hdistinct hentry hstatus hindex henter
        exact hentered.congr rfl rfl rfl rfl rfl
    · rintro error left (herror | ⟨rfl, -⟩ | ⟨_, -, -, hrun⟩)
      · exact .inl herror
      · exact .inr h
      -- Where the next item is closed, the request is refused after the clock was stopped.
      · obtain ⟨outcomes, items, rfl, hsuspend⟩ := delivery.ensures_leave.ok hrun
        exact .inr ((h.suspend hsuspend).congr rfl rfl rfl rfl rfl)
  | respond now responses =>
    rw [serve, ensures_map]
    refine (delivery.ensures_respond responses).mono ?_ fun _ _ => hleft
    rintro _ _ ⟨-, part, testPart, current, place, outcomes, ends, passes, outcomeRuns,
      items, hpart, -, htestPart, hcurrent, -, rfl, hsweep⟩
    exact (h.respond hdistinct hpart htestPart hcurrent hsweep).congr rfl rfl rfl rfl rfl
  | endPart now =>
    rw [serve, ensures_map]
    refine delivery.ensures_endPart.mono ?_ fun _ _ => hleft
    rintro _ _ ⟨-, _, testPart, outcomes, ends, passes, outcomeRuns, pendingBranch,
      between, scored, items, -, ⟨entry, hentry, rfl, hstatus⟩, -, rfl, hsuspend, hscore, hclose, -⟩
    have hended := (h.suspend hsuspend).endPart hdistinct hentry hstatus hscore hclose
    exact hended.congr rfl rfl rfl rfl rfl
  | exit now =>
    rw [serve, ensures_map]
    refine delivery.ensures_exit.mono ?_ fun _ _ => hleft
    rintro _ _ ⟨-, -, outcomes, rfl⟩
    exact h.skip.congr rfl rfl rfl rfl rfl

/-- In all sessions that requests lead to, parts and items go together. -/
theorem Reachable.staged (h : delivery.Reachable seed state) : delivery.Staged state := by
  refine h.invariant (fun state hcreate => ?_) fun state request _ hstaged =>
    hstaged.ensures_serve hdistinct request
  exact ((yields_iff.1 yields_create).1 state hcreate).staged hdistinct

end distinct

end TestDelivery

end Assessment
