import Assessment.Proofs.Variation.Session

/-!
# Variations of operations on tests

Every operation on a test session ends in the same way in both runs, and leaves sessions of both
runs. What a step requires, how time is counted and how variables are reset comes to exactly the
same; the other operations differ in what they keep of the same notifications.

## Main definitions

- `Variation.InStep`: operations that end in the same way and leave sessions of both runs.
- `Variation.Steps` and `Variation.TestErrors`: the results and the errors of both runs.

## Main results

- `Variation.TestSessions.inStep_onItem`: operations on the sessions of items in both runs.
- `Variation.TestSessions.inStep_enterPart`, `Variation.TestSessions.inStep_advance`,
  `Variation.TestSessions.inStep_respond` and `Variation.TestSessions.inStep_endPart`: a part in
  both runs.
- `Variation.couple_createTest`: the sessions that are made in both runs.
-/

namespace Assessment

open Action TestAction TestDelivery

namespace TestDelivery

variable (delivery : TestDelivery) (engine : Engine)

@[simp]
theorem under_definition : (delivery.under engine).definition = delivery.definition := rfl

@[simp]
theorem under_part (plan : TestPlan) (index : Nat) :
    (delivery.under engine).part plan index = delivery.part plan index := rfl

end TestDelivery

/-- The part at a node of a plan is a part of the test. -/
theorem TestDelivery.mem_parts_of_part {delivery : TestDelivery} {plan : TestPlan} {index : Nat}
    {part : TestPart} (h : delivery.part plan index = .ok part) :
    part ∈ delivery.definition.parts := by
  rw [TestDelivery.part] at h
  cases hnode : plan.node index with
  | error error =>
    rw [hnode] at h
    cases h
  | ok node =>
    rw [hnode] at h
    dsimp only [bind, Except.bind] at h
    split at h
    next hfound =>
      cases h
      obtain ⟨name, -, hname⟩ := Option.bind_eq_some_iff.1 hfound
      exact List.mem_of_find?_eq_some hname
    next => cases h

/-- Whether a part is passed over does not depend on its times. -/
theorem TestDelivery.timeless_skipPart_timeless (part : PartState) :
    (skipPart part.timeless).timeless = (skipPart part).timeless := by
  cases hstatus : part.status <;> simp [skipPart, PartState.timeless, hstatus]

section lookUp

variable {α β : Type}

@[simp]
theorem TestAction.lookUp_ok_bind (a : α) (f : α → TestAction β) : (lookUp (.ok a) >>= f) = f a :=
  rfl

end lookUp

namespace Variation

variable {v : Variation} {delivery : TestDelivery} {s t : TestState} {now now' : Timestamp}
  {α β : Type}

/-- Errors of operations on tests in both runs: the same errors, with what each run keeps of the
notifications of refused responses. -/
inductive TestErrors (v : Variation) : TestError → TestError → Prop where
  /-- The error is the same. -/
  | same (error : TestError) : TestErrors v error error
  /-- The session of the same item refuses its part of it. -/
  | item (ref : Identifier) {error error' : ItemError} :
      v.ItemErrors error error' → TestErrors v (.item ref error) (.item ref error')

/-- Errors of the sessions of items become errors of the test session. -/
theorem ItemErrors.ofItem {error error' : ItemError} (h : v.ItemErrors error error')
    (ref : Identifier) : v.TestErrors (.ofItem ref error) (.ofItem ref error') := by
  cases h with
  | same error => exact .same _
  | invalidResponse hlogs => exact .item ref (.invalidResponse hlogs)

/-- Steps of both runs have the same result, and what was reported is that of both runs. -/
def Steps (v : Variation) (step step' : Step α) : Prop :=
  step.outcome = step'.outcome ∧ v.Logs step.log step'.log

/-- Operations on test sessions of both runs end in the same way, and leave sessions of both
runs. -/
abbrev InStep (v : Variation) (results : α → β → Prop) (first : TestAction α)
    (second : TestAction β) (s t : TestState) : Prop :=
  Coupled v.TestSessions results v.TestErrors first second s t

/-- The same item is found in both runs, or none is. -/
theorem couple_itemDelivery (v : Variation) (delivery : TestDelivery) (place : ItemPlace) :
    Couple (fun first second => ∃ item : ItemDelivery,
        item.definition ∈ delivery.definition.items ∧
          first = item.under v.engine ∧ second = item.under v.engine') Eq
      ((delivery.under v.engine).itemDelivery place)
      ((delivery.under v.engine').itemDelivery place) := by
  unfold itemDelivery TestDelivery.under
  dsimp only
  split
  next definition digest hdefinition _ =>
    exact ⟨⟨definition, v.engine, digest⟩, List.mem_of_find?_eq_some hdefinition, rfl, rfl⟩
  next => exact rfl

/-! ### What a step requires -/

namespace TestSessions

variable (h : v.TestSessions s t)

include h

theorem alike_lookUp (result : Except LogicError α) :
    Alike v.TestSessions (lookUp result) (lookUp result) s t := by
  cases result with
  | ok a => exact alike_pure h
  | error error => exact alike_throw h

theorem inStep_lookUp {results : α → β → Prop} {first : Except LogicError α}
    {second : Except LogicError β} (hresult : Couple results Eq first second) :
    v.InStep results (lookUp first) (lookUp second) s t := by
  refine ⟨hresult.mapError ?_, h⟩
  rintro error _ rfl
  exact .same _

theorem alike_check :
    Alike v.TestSessions (delivery.under v.engine).check (delivery.under v.engine').check s t := by
  -- The digest is that of the test, whatever the engine is.
  change Alike v.TestSessions delivery.check delivery.check s t
  rw [TestDelivery.check, alike_get_bind, h.digest]
  dsimp only
  split
  next => exact alike_pure h
  next => exact alike_throw h

theorem alike_requireInteracting :
    Alike v.TestSessions (delivery.under v.engine).requireInteracting
      (delivery.under v.engine').requireInteracting s t := by
  refine h.alike_check.bind fun _ s t h => ?_
  rw [alike_get_bind, h.status]
  cases s.status with
  | notEntered => exact alike_throw h
  | exited => exact alike_throw h
  | interacting => exact alike_pure h

theorem alike_requireNoOpenPart :
    Alike v.TestSessions requireNoOpenPart requireNoOpenPart s t := by
  have hopen : t.openPart?.map PartState.identifier = s.openPart?.map PartState.identifier :=
    h.parts_congr
      (fun parts => (parts.find? (fun part => part.status = .interacting)).map (·.identifier))
      fun parts => by rw [List.find?_map, Option.map_map]; rfl
  rw [requireNoOpenPart, alike_get_bind]
  cases hs : s.openPart? <;> cases ht : t.openPart? <;> rw [hs, ht] at hopen
  · exact alike_pure h
  · cases hopen
  · cases hopen
  · rw [Option.map_some, Option.map_some, Option.some.injEq] at hopen
    dsimp only
    rw [hopen]
    exact alike_throw h

theorem alike_activePart :
    Alike v.TestSessions (delivery.under v.engine).activePart (delivery.under v.engine').activePart
      s t := by
  refine h.alike_requireInteracting.bind fun _ s t h => ?_
  rw [alike_get_bind, h.currentPart]
  cases s.currentPart with
  | none => exact alike_throw h
  | some index =>
    have hactive := h.parts_congr
      (fun parts => parts.any fun part => part.node = index ∧ part.status = .interacting)
      fun parts => by rw [List.any_map]; rfl
    dsimp only at hactive ⊢
    rw [hactive]
    split
    next => exact alike_pure h
    next => exact alike_throw h

theorem alike_requireMode (expected : NavigationMode) (part : TestPart) :
    Alike v.TestSessions (requireMode expected part) (requireMode expected part) s t := by
  unfold requireMode
  split
  next => exact alike_pure h
  next => exact alike_throw h

/-! ### Time and outcomes -/

theorem alike_setOutcomes (bindings : List (Identifier × Value)) :
    Alike v.TestSessions (setOutcomes bindings) (setOutcomes bindings) s t := by
  induction bindings generalizing s t with
  | nil => exact alike_pure h
  | cons binding rest ih =>
    rw [setOutcomes, alike_get_bind, h.outcomes]
    refine (h.alike_lookUp _).bind fun outcomes _ _ h => ?_
    exact (alike_modify (h.withOutcomes outcomes)).bind fun _ _ _ h => ih h

theorem alike_resetOutcomes :
    Alike v.TestSessions (delivery.under v.engine).resetOutcomes
      (delivery.under v.engine').resetOutcomes s t :=
  h.alike_setOutcomes _

/-- The same time is counted in both runs. -/
theorem alike_touch (hnow : Timestamp.Later v.delay now now') :
    Alike v.TestSessions (touch now) (touch now') s t := by
  have hcounted : ∀ {s t : TestState}, v.TestSessions s t →
      v.TestSessions { s with lastEvent := some now } { t with lastEvent := some now' } :=
    fun h => { h with lastEvent := .some hnow }
  have hseconds : t.lastEvent >>= now'.secondsSince? = s.lastEvent >>= now.secondsSince? := by
    have hlast := h.lastEvent
    generalize s.lastEvent = event, t.lastEvent = event' at hlast
    cases hlast with
    | none => rfl
    | some hlast => exact hnow.secondsSince? hlast
  rw [touch, touch, alike_get_bind, hseconds, h.duration, h.outcomes]
  split
  next elapsed _ =>
    split
    next =>
      refine (h.alike_lookUp _).bind fun outcomes _ _ h => ?_
      exact (alike_modify (h.withOutcomes outcomes)).bind fun _ _ _ h => alike_modify (hcounted h)
    next => exact alike_modify (hcounted h)
  next => exact alike_modify (hcounted h)

/-- Outcome processing is run alike in both runs. -/
theorem inStep_processOutcomes (hadmitted : v.Permits delivery.definition) :
    v.InStep v.Logs (delivery.under v.engine).processOutcomes
      (delivery.under v.engine').processOutcomes s t := by
  refine h.alike_resetOutcomes.bind_coupled .same fun _ s t h => ?_
  -- The pass is counted before the rules are run, and its random numbers are those before.
  have hnext : v.TestSessions { s with passes := s.passes + 1 }
      { t with passes := t.passes + 1 } :=
    { h with
      timeless :=
        h.timeless_apply (fun state => { state with passes := state.passes + 1 }) fun _ => rfl }
  have hrun := Execution.coupled_on (fun h => h.log)
    ((v.couples_testStage delivery.definition).alike_execute hadmitted.outcomeProcessing
      ⟨hnext, environments_forPass h.seed h.passes, rfl⟩)
  rw [coupled_get_bind, coupled_set_bind]
  refine (hrun.rename fun _ _ heq => heq ▸ .same _).bind ?_
  rintro ⟨ending, log⟩ ⟨_, log'⟩ s t ⟨rfl, hlog⟩ h
  rw [coupled_modify_bind]
  exact coupled_pure hlog { h with
    timeless := h.timeless_apply (fun state => { state with
      outcomeRuns := state.outcomeRuns + 1
      exitRequested := state.exitRequested || ending = .exited .test }) fun _ => rfl }

/-! ### The sessions of items -/

/-- The session of an item is found in both runs, or in neither. -/
theorem inStep_session (place : ItemPlace) :
    v.InStep v.ItemSessions ((delivery.under v.engine).session place)
      ((delivery.under v.engine').session place) s t := by
  refine (h.inStep_lookUp (v.couple_itemDelivery delivery place)).bind fun _ _ s t _ h => ?_
  rw [coupled_get_bind]
  have hsession := h.items.get? place.ref
  generalize s.items.get? place.ref = session, t.items.get? place.ref = session' at hsession
  cases hsession with
  | none => exact coupled_throw (.same _) h
  | some hsession => exact coupled_pure hsession h

/-- Operations of both runs on the session of an item are in step if they are so by themselves. -/
theorem inStep_onItem {results : α → β → Prop} (place : ItemPlace)
    {operation : ItemDelivery → ItemAction α} {operation' : ItemDelivery → ItemAction β}
    (hoperation : ∀ item : ItemDelivery, item.definition ∈ delivery.definition.items →
      ∀ session session', v.ItemSessions session session' → Coupled v.ItemSessions results
        v.ItemErrors (operation (item.under v.engine)) (operation' (item.under v.engine')) session
        session') :
    v.InStep results ((delivery.under v.engine).onItem place operation)
      ((delivery.under v.engine').onItem place operation') s t := by
  refine (h.inStep_lookUp (v.couple_itemDelivery delivery place)).bind ?_
  rintro _ _ s t ⟨item, hitem, rfl, rfl⟩ h
  refine (h.inStep_session place).bind fun session session' s t hsession h => ?_
  obtain ⟨hresult, hchanged⟩ := hoperation item hitem session session' hsession
  generalize (operation _).run.run session = answer at hresult hchanged ⊢
  generalize (operation' _).run.run session' = answer' at hresult hchanged ⊢
  obtain ⟨result, changed⟩ := answer
  obtain ⟨result', changed'⟩ := answer'
  -- The session is put back in both runs, also where the operation has failed.
  have hput : v.TestSessions { s with items := s.items.insert place.ref changed }
      { t with items := t.items.insert place.ref changed' } :=
    { h with items := h.items.insert place.ref hchanged }
  dsimp only
  rw [coupled_modify_bind]
  cases result <;> cases result'
  case ok.ok => exact coupled_pure hresult hput
  case error.error => exact coupled_throw (hresult.ofItem place.ref) hput
  all_goals exact hresult.elim

/-- Operations that are alike on the session of an item are in step on that of the test. -/
theorem inStep_onItem_of_alike (place : ItemPlace)
    {operation operation' : ItemDelivery → ItemAction α}
    (hoperation : ∀ (item : ItemDelivery) (session session' : ItemState),
      v.ItemSessions session session' → Alike v.ItemSessions (operation (item.under v.engine))
        (operation' (item.under v.engine')) session session') :
    v.InStep Eq ((delivery.under v.engine).onItem place operation)
      ((delivery.under v.engine').onItem place operation') s t :=
  h.inStep_onItem place fun item _ session session' hsession =>
    (hoperation item session session' hsession).coupled (fun _ => rfl) .same

/-- The place and the session of an item of the plan are found in both runs, or in neither. -/
theorem inStep_visit {results : α → β → Prop} (index : Nat)
    {next : ItemPlace → ItemState → TestAction α} {next' : ItemPlace → ItemState → TestAction β}
    (hnext : ∀ place session session' left left', v.ItemSessions session session' →
      v.TestSessions left left' → v.InStep results (next place session) (next' place session') left
        left') :
    v.InStep results
      (do
        let place ← lookUp ((← get).plan.place index)
        let session ← (delivery.under v.engine).session place
        next place session)
      (do
        let place ← lookUp ((← get).plan.place index)
        let session ← (delivery.under v.engine').session place
        next' place session) s t := by
  refine coupled_get_bind.2 ?_
  rw [h.plan]
  refine (h.alike_lookUp _).bind_coupled .same fun place s t h => ?_
  exact (h.inStep_session place).bind fun session session' s t => hnext place session session' s t

/-- The clock of the current item is stopped in both runs. -/
theorem inStep_suspendCurrent (hnow : Timestamp.Later v.delay now now') :
    v.InStep Eq ((delivery.under v.engine).suspendCurrent now)
      ((delivery.under v.engine').suspendCurrent now') s t := by
  refine coupled_get_bind.2 ?_
  rw [h.currentItem, h.plan]
  cases s.currentItem with
  | none => exact coupled_pure rfl h
  | some current =>
    refine (h.alike_lookUp _).bind_coupled .same fun place s t h => ?_
    refine (h.inStep_session place).bind fun session session' s t hsession h => ?_
    rw [hsession.isPresented, hsession.isClosed]
    refine coupled_ite (fun _ => ?_) fun _ => coupled_pure rfl h
    exact h.inStep_onItem_of_alike place fun _ _ _ hsession => hsession.alike_suspend hnow

/-- The same item is presented in both runs, or in neither. -/
theorem inStep_enterItem (index : Nat) (hnow : Timestamp.Later v.delay now now') :
    v.InStep Eq ((delivery.under v.engine).enterItem index now)
      ((delivery.under v.engine').enterItem index now') s t := by
  refine coupled_get_bind.2 ?_
  rw [h.plan]
  refine (h.alike_lookUp _).bind_coupled .same fun place s t h => ?_
  refine Coupled.bind (h.inStep_onItem_of_alike place fun _ _ _ hsession =>
    hsession.alike_enter hnow) fun _ _ s t _ h => ?_
  exact coupled_modify rfl { h with
    timeless := h.timeless_apply (fun state => { state with currentItem := some index })
      fun _ => rfl }

/-- The test is entered in both runs, or in neither. -/
theorem inStep_enterTest (hnow : Timestamp.Later v.delay now now') :
    v.InStep v.Steps ((delivery.under v.engine).enterTest now)
      ((delivery.under v.engine').enterTest now') s t := by
  refine h.alike_check.bind_coupled .same fun _ s t h => ?_
  rw [coupled_get_bind, h.status]
  cases s.status with
  | interacting => exact coupled_throw (.same _) h
  | exited => exact coupled_throw (.same _) h
  | notEntered =>
    refine h.alike_resetOutcomes.bind_coupled .same fun _ s t h => ?_
    rw [coupled_modify_bind]
    exact coupled_pure ⟨rfl, v.logs_empty⟩ { h with
      timeless := h.timeless_apply (fun state => { state with status := .interacting })
        fun _ => rfl
      lastEvent := .some hnow }

/-! ### Entering parts -/

/-- The search for the next part begins at the same place in both runs. -/
theorem firstCandidate?_eq : firstCandidate? t = firstCandidate? s := by
  calc firstCandidate? t
    _ = firstCandidate? { s with parts := t.parts } := by
      simp only [firstCandidate?, h.pendingBranch]
    _ = firstCandidate? s :=
      h.parts_congr (fun parts => firstCandidate? { s with parts }) fun parts => by
        simp only [firstCandidate?, List.findIdx?_map]
        rfl

/-- The same parts may be entered next in both runs. -/
theorem candidates (first : Nat) :
    (t.parts.zipIdx.drop first).map (Prod.map PartState.timeless id) =
      (s.parts.zipIdx.drop first).map (Prod.map PartState.timeless id) :=
  h.parts_congr (fun parts => (parts.zipIdx.drop first).map (Prod.map PartState.timeless id))
    fun parts => by
      rw [List.map_drop, List.map_drop, List.zipIdx_map, List.map_map]
      rfl

/-- The same part is chosen in both runs, or none is. -/
theorem couple_choosePart (hadmitted : v.Permits delivery.definition)
    {candidates candidates' : List (PartState × Nat)}
    (hcandidates : candidates'.map (Prod.map PartState.timeless id) =
      candidates.map (Prod.map PartState.timeless id))
    {log log' : NotificationLog} (hlog : v.Logs log log') :
    Couple v.Answers Eq ((delivery.under v.engine).choosePart s candidates log)
      ((delivery.under v.engine').choosePart t candidates' log') := by
  -- The candidates of the second run are taken apart along with those of the first.
  induction candidates generalizing candidates' log log' with
  | nil =>
    obtain rfl := List.map_eq_nil_iff.1 hcandidates
    exact ⟨rfl, hlog⟩
  | cons entry rest ih =>
    obtain ⟨entry', rest', rfl, hentry, hrest⟩ := List.map_eq_cons_iff.1 hcandidates
    obtain ⟨entry, position⟩ := entry
    obtain ⟨entry', position'⟩ := entry'
    obtain ⟨htimeless, rfl⟩ := Prod.mk.inj hentry
    obtain ⟨hname, hnode, hstatus⟩ := PartState.timeless_inj.1 htimeless
    have ih {log log' : NotificationLog} (hlog : v.Logs log log') := ih hrest hlog
    rw [choosePart, choosePart, hstatus, hnode, hname, h.plan, under_part, under_part]
    refine couple_ite (fun _ => ih hlog) fun _ => ?_
    cases hpart : delivery.part s.plan entry.node with
    | error error => exact rfl
    | ok part =>
      have hconditions : ∀ condition ∈ part.preConditions, v.AdmitsWhole condition :=
        fun condition hmem => hadmitted.conditions condition
          (TestDefinition.mem_conditions_of_part (mem_parts_of_part hpart) hmem)
      refine (couple_conditionsHold h hconditions).bind ?_
      rintro ⟨holds, notes⟩ ⟨_, notes'⟩ ⟨rfl, hnotes⟩
      refine couple_ite (fun _ => ⟨rfl, hlog.extend hnotes⟩) fun _ => ?_
      exact ih ((hlog.extend hnotes).record _)

/-- Template processing of the same items is done in both runs. -/
theorem inStep_prepareItems (hadmitted : v.Permits delivery.definition) (indices : List Nat)
    {log log' : NotificationLog} (hlog : v.Logs log log') :
    v.InStep v.Logs ((delivery.under v.engine).prepareItems indices log)
      ((delivery.under v.engine').prepareItems indices log') s t := by
  induction indices generalizing s t log log' with
  | nil => exact coupled_pure hlog h
  | cons index rest ih =>
    refine h.inStep_visit index fun place session session' s t hsession h => ?_
    rw [hsession.templateProcessed]
    refine coupled_ite (fun _ => ih h hlog) fun _ => ?_
    refine Coupled.bind (h.inStep_onItem place fun item hitem _ _ hsession =>
      hsession.coupled_processTemplate (hadmitted.templateProcessing _ hitem))
      fun notes notes' s t hnotes h => ?_
    exact ih h (hlog.extend hnotes)

/-- When a part is entered, it is in both runs. -/
theorem partEntered (position node : Nat) (now now' : Timestamp) :
    v.TestSessions
      { s with
        parts := enterAt position now s.parts
        currentPart := some node
        currentItem := none
        pendingBranch := none }
      { t with
        parts := enterAt position now' t.parts
        currentPart := some node
        currentItem := none
        pendingBranch := none } := by
  have hentered : ∀ (now now' : Timestamp) (parts : List PartState),
      (enterAt position now' (parts.map PartState.timeless)).map PartState.timeless =
        (enterAt position now parts).map PartState.timeless := by
    -- The parts before the position keep no time, and the one at it gets one that is forgotten.
    intro now now' parts
    rw [enterAt, enterAt, ← List.map_take, ← List.map_drop]
    simp only [List.map_append, List.map_map, Function.comp_def, timeless_skipPart_timeless]
    cases parts.drop position <;> simp [PartState.timeless]
  exact { h with
    timeless := h.timeless_apply (fun state => { state with
      currentPart := some node
      currentItem := none
      pendingBranch := none }) fun _ => rfl
    parts := by rw [← hentered now now' s.parts, ← h.parts, hentered now' now'] }

/-- The same part is entered in both runs, or none is. -/
theorem inStep_enterPart (hadmitted : v.Permits delivery.definition)
    (hnow : Timestamp.Later v.delay now now') :
    v.InStep v.Steps ((delivery.under v.engine).enterPart now)
      ((delivery.under v.engine').enterPart now') s t := by
  refine h.alike_requireInteracting.bind_coupled .same fun _ s t h => ?_
  refine h.alike_requireNoOpenPart.bind_coupled .same fun _ s t h => ?_
  rw [coupled_get_bind, h.exitRequested, h.firstCandidate?_eq]
  dsimp only
  refine coupled_ite (fun _ => coupled_throw (.same _) h) fun _ => ?_
  -- The search looks at the sessions before the time is counted.
  cases firstCandidate? s with
  | none => exact coupled_throw (.same _) h
  | some first =>
    dsimp only
    refine (h.inStep_lookUp (h.couple_choosePart hadmitted (h.candidates first)
      v.logs_empty)).bind ?_
    rintro ⟨chosen, log⟩ ⟨_, log'⟩ left left' ⟨rfl, hlog⟩ hleft
    dsimp only
    cases chosen with
    | none => exact coupled_throw (.same _) hleft
    | some position =>
      have hentry := h.parts_congr (fun parts => parts[position]?.map PartState.timeless)
        fun parts => by rw [List.getElem?_map, Option.map_map]; rfl
      simp only [Option.bind_eq_bind, Option.bind_some]
      cases hs : s.parts[position]? <;> cases ht : t.parts[position]? <;> rw [hs, ht] at hentry
      case none.none => exact coupled_throw (.same _) hleft
      case some.some entry entry' =>
        obtain ⟨hname, hnode, -⟩ := PartState.timeless_inj.1 (Option.some.inj hentry)
        simp only [Option.map_some, hname, hnode, h.plan]
        refine (hleft.alike_touch hnow).bind_coupled .same fun _ left left' hleft => ?_
        rw [coupled_modify_bind]
        have hentered := hleft.partEntered position entry.node now now'
        exact (hentered.inStep_prepareItems hadmitted _ hlog).bind fun _ _ _ _ hlog h =>
          coupled_pure ⟨rfl, hlog⟩ h
      all_goals cases hentry

/-! ### Moving among items -/

/-- The same item is presented in both runs, or none is. -/
theorem inStep_select (ref : Identifier) (hnow : Timestamp.Later v.delay now now') :
    v.InStep v.Steps ((delivery.under v.engine).select now ref)
      ((delivery.under v.engine').select now' ref) s t := by
  refine h.alike_activePart.bind_coupled .same fun part s t h => ?_
  rw [coupled_get_bind, h.plan, under_part, under_part]
  refine (h.alike_lookUp _).bind_coupled .same fun testPart s' t' h' => ?_
  refine (h'.alike_requireMode _ _).bind_coupled .same fun _ s' t' h' => ?_
  cases s.plan.findItem? ref.text with
  | none => exact coupled_throw (.same _) h'
  | some index =>
    have hclosed := h.session_congr ref (·.all ItemState.isClosed) fun session => by
      cases session <;> rfl
    rw [h.currentItem, hclosed]
    dsimp only
    refine coupled_ite (fun _ => coupled_throw (.same _) h') fun _ => ?_
    refine coupled_ite (fun _ => coupled_throw (.same _) h') fun _ => ?_
    refine (h'.alike_touch hnow).bind_coupled .same fun _ s' t' h' => ?_
    have hentered : ∀ {s t : TestState}, v.TestSessions s t →
        v.InStep v.Steps
          (do
            (delivery.under v.engine).enterItem index now
            return ⟨(), (delivery.under v.engine).newLog⟩)
          (do
            (delivery.under v.engine').enterItem index now'
            return ⟨(), (delivery.under v.engine').newLog⟩) s t := fun h =>
      (h.inStep_enterItem index hnow).bind fun _ _ _ _ _ h => coupled_pure ⟨rfl, v.logs_empty⟩ h
    refine coupled_ite (fun _ => ?_) fun _ => hentered h'
    exact (h'.inStep_suspendCurrent hnow).bind fun _ _ _ _ _ h => hentered h

/-- The current item may be left in both runs, or in neither. -/
theorem alike_requireLeavable {left left' : TestState} (hleft : v.TestSessions left left') :
    Alike v.TestSessions (requireLeavable s) (requireLeavable t) left left' := by
  unfold requireLeavable
  rw [h.currentItem, h.plan]
  cases s.currentItem with
  | none => exact alike_pure hleft
  | some current =>
    refine (hleft.alike_lookUp _).bind fun place left left' hleft => ?_
    have hresponded := h.session_congr place.ref (·.any (·.responded)) fun session => by
      cases session <;> rfl
    dsimp only at hresponded ⊢
    rw [hresponded]
    split
    next => exact alike_throw hleft
    next => exact alike_pure hleft

/-- The same item comes next in both runs, or none does. -/
theorem couple_nextItem (hadmitted : v.Permits delivery.definition) (part tries : Nat)
    (current : Option Nat) {log log' : NotificationLog} (hlog : v.Logs log log') :
    Couple v.Answers Eq ((delivery.under v.engine).nextItem s part tries current log)
      ((delivery.under v.engine').nextItem t part tries current log') := by
  induction tries generalizing current log log' with
  | zero => exact ⟨rfl, hlog⟩
  | succ tries ih =>
    rw [nextItem, nextItem, h.plan]
    cases s.plan.nextItemInPart? part current with
    | none => exact ⟨rfl, hlog⟩
    | some index =>
      dsimp only
      cases s.plan.place index with
      | error error => exact rfl
      | ok place =>
        refine (couple_conditionsHold h fun condition hcondition =>
          hadmitted.conditions condition (delivery.definition.mem_conditions_of_itemRef? condition
            hcondition)).bind ?_
        rintro ⟨holds, notes⟩ ⟨_, notes'⟩ ⟨rfl, hnotes⟩
        refine couple_ite (fun _ => ⟨rfl, hlog.extend hnotes⟩) fun _ => ?_
        exact ih _ ((hlog.extend hnotes).record _)

/-- The next item is presented in both runs, or none is left in either. -/
theorem inStep_advance (hadmitted : v.Permits delivery.definition)
    (hnow : Timestamp.Later v.delay now now') :
    v.InStep v.Steps ((delivery.under v.engine).advance now)
      ((delivery.under v.engine').advance now') s t := by
  refine h.alike_activePart.bind_coupled .same fun part s t h => ?_
  rw [coupled_get_bind, h.plan, h.currentItem, under_part, under_part]
  refine (h.alike_lookUp _).bind_coupled .same fun testPart s' t' h' => ?_
  refine (h'.alike_requireMode _ _).bind_coupled .same fun _ s' t' h' => ?_
  refine (h.alike_requireLeavable h').bind_coupled .same fun _ s' t' h' => ?_
  -- What was found out above holds of the sessions that were read, and these are searched.
  refine (h'.inStep_lookUp (h.couple_nextItem hadmitted _ _ _ v.logs_empty)).bind ?_
  rintro ⟨next, log⟩ ⟨_, log'⟩ s t ⟨rfl, hlog⟩ h
  refine (h.alike_touch hnow).bind_coupled .same fun _ s t h => ?_
  refine (h.inStep_suspendCurrent hnow).bind fun _ _ s t _ h => ?_
  cases next with
  | some found =>
    exact (h.inStep_enterItem found.1 hnow).bind fun _ _ _ _ _ h => coupled_pure ⟨rfl, hlog⟩ h
  | none =>
    dsimp only
    rw [coupled_modify_bind]
    exact coupled_pure ⟨rfl, hlog⟩ { h with
      timeless := h.timeless_apply (fun state => { state with currentItem := none }) fun _ => rfl }

/-! ### Submitting -/

/-- Responses to the current item are taken in both runs, or in neither. -/
theorem inStep_respond (hadmitted : v.Permits delivery.definition)
    (hnow : Timestamp.Later v.delay now now') (responses : SortedMap Identifier ResponseData) :
    v.InStep v.Steps ((delivery.under v.engine).respond now responses)
      ((delivery.under v.engine').respond now' responses) s t := by
  refine h.alike_activePart.bind_coupled .same fun part s t h => ?_
  rw [coupled_get_bind, h.plan, h.currentItem, under_part, under_part]
  cases s.currentItem with
  | none => exact coupled_throw (.same _) h
  | some current =>
    refine (h.alike_lookUp _).bind_coupled .same fun place s' t' h' => ?_
    refine (h'.alike_lookUp _).bind_coupled .same fun testPart s' t' h' => ?_
    refine (h'.inStep_session place).bind fun session session' s t hsession h => ?_
    rw [hsession.isClosed]
    dsimp only
    refine coupled_ite (fun _ => coupled_throw (.same _) h) fun _ => ?_
    refine Coupled.bind (h.inStep_onItem place fun item hitem _ _ hsession =>
      hsession.coupled_attempt (hadmitted.responseProcessing _ hitem) hnow responses _)
      fun log log' s t hlog h => ?_
    refine (h.alike_touch hnow).bind_coupled .same fun _ s t h => ?_
    cases testPart.submission with
    | individual =>
      exact (h.inStep_processOutcomes hadmitted).bind fun _ _ _ _ hnotes h =>
        coupled_pure ⟨rfl, hlog.extend hnotes⟩ h
    | simultaneous => exact coupled_pure ⟨rfl, hlog⟩ h

/-! ### Ending a part and the test -/

/-- The same attempts are scored in both runs. -/
theorem inStep_scoreItems (hadmitted : v.Permits delivery.definition)
    (hnow : Timestamp.Later v.delay now now') (mode : SubmissionMode) (indices : List Nat)
    {log log' : NotificationLog} (hlog : v.Logs log log') :
    v.InStep v.Logs ((delivery.under v.engine).scoreItems now mode indices log)
      ((delivery.under v.engine').scoreItems now' mode indices log') s t := by
  induction indices generalizing s t log log' with
  | nil => exact coupled_pure hlog h
  | cons index rest ih =>
    refine h.inStep_visit index fun place session session' s t hsession h => ?_
    rw [hsession.isPresented, hsession.isClosed, hsession.pending, hsession.responseProcessed]
    refine coupled_ite (fun _ => ?_) fun _ => ih h hlog
    refine Coupled.bind (h.inStep_onItem place fun item hitem _ _ hsession =>
      hsession.coupled_processResponse (hadmitted.responseProcessing _ hitem) hnow 0)
      fun notes notes' s t hnotes h => ?_
    exact ih h (hlog.extend hnotes)

/-- The same sessions of items are closed in both runs. -/
theorem inStep_closeItems (hnow : Timestamp.Later v.delay now now') (indices : List Nat) :
    v.InStep Eq ((delivery.under v.engine).closeItems now indices)
      ((delivery.under v.engine').closeItems now' indices) s t := by
  induction indices generalizing s t with
  | nil => exact coupled_pure rfl h
  | cons index rest ih =>
    refine h.inStep_visit index fun place session session' s t hsession h => ?_
    rw [hsession.isClosed]
    refine coupled_ite (fun _ => ?_) fun _ => ih h
    exact Coupled.bind (h.inStep_onItem_of_alike place fun _ _ _ hsession =>
      hsession.alike_endSession hnow) fun _ _ _ _ _ h => ih h

/-- When a part ends, it does in both runs. -/
theorem partEnded (node : Nat) (now now' : Timestamp) :
    v.TestSessions
      { s with
        parts := endAt node now s.parts
        currentPart := none
        currentItem := none }
      { t with
        parts := endAt node now' t.parts
        currentPart := none
        currentItem := none } := by
  have hended : ∀ (now now' : Timestamp) (parts : List PartState),
      (endAt node now' (parts.map PartState.timeless)).map PartState.timeless =
        (endAt node now parts).map PartState.timeless := by
    intro now now' parts
    induction parts with
    | nil => rfl
    | cons part rest ih =>
      by_cases hnode : part.node = node
      · simp [endAt, PartState.timeless, hnode]
      · simp only [List.map_cons, endAt]
        rw [if_neg hnode, if_neg (show part.timeless.node ≠ node from hnode), List.map_cons,
          List.map_cons, ih]
        rfl
  exact { h with
    timeless := h.timeless_apply (fun state => { state with
      currentPart := none
      currentItem := none }) fun _ => rfl
    parts := by rw [← hended now now' s.parts, ← h.parts, hended now' now'] }

/-- The same branch is taken in both runs, or none is. -/
theorem couple_chooseBranch (hadmitted : v.Permits delivery.definition) {rules : List BranchRule}
    (hrules : ∀ rule ∈ rules, rule.expression ∈ delivery.definition.conditions)
    {log log' : NotificationLog} (hlog : v.Logs log log') :
    Couple v.Answers Eq ((delivery.under v.engine).chooseBranch s rules log)
      ((delivery.under v.engine').chooseBranch t rules log') := by
  induction rules generalizing log log' with
  | nil => exact ⟨rfl, hlog⟩
  | cons rule rest ih =>
    obtain ⟨hrule, hrest⟩ := List.forall_mem_cons.1 hrules
    have hupcoming : isUpcoming t rule.target = isUpcoming s rule.target :=
      h.parts_congr (fun parts => parts.any fun part =>
        part.identifier = rule.target ∧ part.status = .notEntered) fun parts => by
          rw [List.any_map]
          rfl
    have hconditions : ∀ condition ∈ [rule.expression], v.AdmitsWhole condition := by
      intro condition hmem
      rw [List.mem_singleton.1 hmem]
      exact hadmitted.conditions _ hrule
    rw [chooseBranch, chooseBranch, hupcoming]
    refine (couple_conditionsHold h hconditions).bind ?_
    rintro ⟨holds, notes⟩ ⟨_, notes'⟩ ⟨rfl, hnotes⟩
    have hlog := hlog.extend hnotes
    refine couple_ite (fun _ => ih hrest hlog) fun _ => ?_
    exact couple_ite (fun _ => ⟨rfl, hlog⟩) fun _ => ih hrest (hlog.record _)

theorem branchFollowed (target : Option Identifier) :
    v.TestSessions (follow target s) (follow target t) := by
  cases target with
  | none => exact h
  | some target =>
    unfold follow
    dsimp only
    split
    next =>
      exact { h with
        timeless := h.timeless_apply (fun state => { state with exitRequested := true })
          fun _ => rfl }
    next =>
      exact { h with
        timeless := h.timeless_apply (fun state => { state with pendingBranch := some target })
          fun _ => rfl }

/-- A part is ended in both runs, or in neither. -/
theorem inStep_endPart (hadmitted : v.Permits delivery.definition)
    (hnow : Timestamp.Later v.delay now now') :
    v.InStep v.Steps ((delivery.under v.engine).endPart now)
      ((delivery.under v.engine').endPart now') s t := by
  refine h.alike_activePart.bind_coupled .same fun index s t h => ?_
  rw [coupled_get_bind, h.plan]
  dsimp only
  rw [under_part, under_part]
  cases hpart : delivery.part s.plan index with
  | error error => exact coupled_throw (.same _) h
  | ok part =>
    rw [lookUp_ok_bind, lookUp_ok_bind]
    have hrules : ∀ rule ∈ part.branchRules, rule.expression ∈ delivery.definition.conditions :=
      fun rule hmem => TestDefinition.mem_conditions_of_branch (mem_parts_of_part hpart) hmem
    refine (h.alike_touch hnow).bind_coupled .same fun _ s t h => ?_
    refine (h.inStep_suspendCurrent hnow).bind fun _ _ s t _ h => ?_
    refine (h.inStep_scoreItems hadmitted hnow _ _ v.logs_empty).bind
      fun log log' s t hlog h => ?_
    refine (h.inStep_processOutcomes hadmitted).bind fun notes notes' s t hnotes h => ?_
    refine (h.inStep_closeItems hnow _).bind fun _ _ s t _ h => ?_
    rw [coupled_modify_bind, coupled_get_bind]
    have h := h.partEnded index now now'
    refine (h.inStep_lookUp (h.couple_chooseBranch hadmitted hrules (hlog.extend hnotes))).bind ?_
    rintro ⟨target, log⟩ ⟨_, log'⟩ s t ⟨rfl, hlog⟩ h
    dsimp only
    rw [coupled_modify_bind]
    exact coupled_pure ⟨rfl, hlog⟩ (h.branchFollowed target)

/-- The test is exited in both runs, or in neither. -/
theorem inStep_exit (hnow : Timestamp.Later v.delay now now') :
    v.InStep v.Steps ((delivery.under v.engine).exit now)
      ((delivery.under v.engine').exit now') s t := by
  refine h.alike_requireInteracting.bind_coupled .same fun _ s t h => ?_
  refine h.alike_requireNoOpenPart.bind_coupled .same fun _ s t h => ?_
  refine (h.alike_touch hnow).bind_coupled .same fun _ s t h => ?_
  have hskipped := h.parts_congr (fun parts => (parts.map skipPart).map PartState.timeless)
    fun parts => by
      simp only [List.map_map, Function.comp_def, timeless_skipPart_timeless]
  rw [coupled_modify_bind]
  exact coupled_pure ⟨rfl, v.logs_empty⟩ { h with
    timeless := h.timeless_apply (fun state => { state with status := .exited }) fun _ => rfl
    parts := hskipped
    lastEvent := .none }

end TestSessions

/-! ### A new session -/

theorem couple_createItem (v : Variation) (delivery : TestDelivery) {seed seed' : UInt64}
    (hseed : v.sameSeed → seed = seed') (plan : TestPlan) (index ordinal : Nat) :
    Couple (fun entry entry' => entry.1 = entry'.1 ∧ v.ItemSessions entry.2 entry'.2) Eq
      ((delivery.under v.engine).createItem plan seed index ordinal)
      ((delivery.under v.engine').createItem plan seed' index ordinal) := by
  unfold TestDelivery.createItem
  refine couple_bind_self (fun _ => rfl) fun place => ?_
  have hitem := (v.couple_itemDelivery delivery place).mapError fun _ _ heq =>
    congrArg TestError.logic heq
  refine hitem.bind ?_
  rintro _ _ ⟨item, -, rfl, rfl⟩
  have hordinal : v.sameSeed → itemSeed seed (.ofNat ordinal) = itemSeed seed' (.ofNat ordinal) :=
    fun hsame => by rw [hseed hsame]
  have hmade := (v.couple_create item .empty hordinal).mapError fun _ _ heq =>
    congrArg (TestError.ofItem place.ref) heq
  refine hmade.bind fun session session' hsession => ?_
  exact ⟨rfl, hsession⟩

/-- The same test session is made in both runs, with a seed of each. -/
theorem couple_createTest (v : Variation) (delivery : TestDelivery) {seed seed' : UInt64}
    (hseed : v.sameSeed → seed = seed') :
    Couple v.TestSessions Eq ((delivery.under v.engine).create seed)
      ((delivery.under v.engine').create seed') := by
  unfold TestDelivery.create
  -- The plan and the parts do not depend on the seed, and the sessions of the items do.
  refine couple_bind_self (fun _ => rfl) fun plan => ?_
  have hitems := couple_mapM (List.forall₂_same.2 fun entry (_ : entry ∈ plan.items.zipIdx) =>
    v.couple_createItem delivery hseed plan entry.1 entry.2)
  refine hitems.bind fun items items' hsame => ?_
  refine couple_bind_self (fun _ => rfl) fun parts => ?_
  exact {
    timeless := rfl
    items := SortedMap.forall₂_ofList hsame
    parts := rfl
    lastEvent := .none
    seed := hseed }

end Variation

end Assessment
