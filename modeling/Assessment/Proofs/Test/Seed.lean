import Assessment.Proofs.Item.Seed
import Assessment.Proofs.Item.Typing
import Assessment.Proofs.Test.Creation

/-!
# The seeds of test sessions

A test session makes the seed of each item's session of its own seed and the position of the item
in the plan, which it multiplies by an odd constant. No two items have one position, so that their
sessions begin with different seeds.

The passes of a test session are the runs of outcome processing, of which no request begins more
than one. Conditions are no passes: they are evaluated with the random numbers of the pass that
comes next, and do not use them up.

## Main definitions

- `TestState.supply`: what the passes of a test session draw from.
- `TestDelivery.processOutcomesOn`: outcome processing in a given environment.
- `TestDelivery.passSeeds`: the seeds of the passes that requests to a test session begin.
- `TestDelivery.DrawsApart`: where the random numbers of sessions come from.

## Main results

- `itemSeed_injective`: no two positions have one seed.
- `TestDelivery.Created.seed_ne`: no two items of a test session begin with one seed.
- `TestDelivery.leaves_serve_supply`: what a request to a test session uses up.
- `TestDelivery.drawsApart`: no two items of a test and no two passes of a session have one seed.
-/

namespace Assessment

open Action

/-- No two positions have one seed. -/
theorem itemSeed_injective (testSeed : UInt64) : Function.Injective (itemSeed testSeed) := by
  have hinverse : (0xBF58476D1CE4E5B9 : UInt64) * 0x96DE1B173F119089 = 1 := by decide
  intro first second h
  exact (UInt64.add_left_inj 1).1 (mul_injective_of_inverse hinverse ((UInt64.xor_right_inj _).1 h))

/-! ### Test sessions -/

namespace TestState

variable {state before after : TestState}

/-- What the passes of a session draw from. -/
def supply (state : TestState) : Supply := ⟨state.seed, state.passes⟩

theorem Moves.supply (h : before.Moves after) : after.supply = before.supply := by
  obtain ⟨_, _, _, _, -, -, rfl⟩ := h
  rfl

/-- Assignments of rules of a test change its outcomes. -/
theorem stage_maintains_supply (test : TestDefinition) (supply : Supply) :
    (stage test).Maintains (·.supply = supply) where
  assign {session after} name value hsession hassign := by
    change assign test name value session = .ok after at hassign
    unfold assign at hassign
    split at hassign
    next => cases hassign
    next =>
      cases hset : session.outcomes.set name value with
      | error error =>
        rw [hset] at hassign
        cases hassign
      | ok outcomes =>
        rw [hset] at hassign
        cases hassign
        exact hsession
  setCorrect _ _ hover := nomatch hover
  setDefault _ _ hover := nomatch hover

end TestState

namespace TestDelivery

variable {delivery : TestDelivery} {state left : TestState} {supply : Supply} {now : Timestamp}
  {seed : UInt64}

/-! ### New sessions -/

/-- The session of an item begins with the seed of a position of the item. -/
theorem Created.exists_position (h : Created delivery seed state) {ref : Identifier}
    {session : ItemState} (hsession : state.items.get? ref = some session) :
    ∃ k index place, state.plan.items[k]? = some index ∧ state.plan.place index = .ok place ∧
      place.ref = ref ∧ session.seed = itemSeed seed (.ofNat k) := by
  obtain ⟨created, hitems, hcreated⟩ := h.items
  rw [hitems] at hsession
  -- The sessions are made of the plan's items one by one, so that the position is that in the list.
  obtain ⟨k, hk, hget⟩ := List.getElem_of_mem (SortedMap.mem_of_get?_ofList hsession)
  obtain ⟨hlength, hall⟩ := List.forall₂_iff_get.1 hcreated
  have hindex : k < state.plan.items.length := by rwa [← List.length_zipIdx, hlength]
  obtain ⟨place, _, _, hplace, -, hcreate, -, hpair⟩ :=
    exists_of_createItem (hall k (hlength ▸ hk) hk)
  simp only [List.get_eq_getElem, List.getElem_zipIdx, Nat.zero_add, hget] at hplace hcreate hpair
  cases hpair
  exact ⟨k, _, place, List.getElem?_eq_getElem hindex, hplace, rfl,
    congrArg Supply.seed (ItemDelivery.supply_of_create hcreate)⟩

/-- No two items of a session begin with one seed. -/
theorem Created.seed_ne (h : Created delivery seed state)
    (hfew : state.plan.items.length ≤ UInt64.size) {first second : Identifier}
    (hne : first ≠ second) {session other : ItemState}
    (hfirst : state.items.get? first = some session)
    (hsecond : state.items.get? second = some other) : session.seed ≠ other.seed := by
  obtain ⟨j, index, place, hj, hplace, rfl, hseed⟩ := h.exists_position hfirst
  obtain ⟨k, index', place', hk, hplace', rfl, hseed'⟩ := h.exists_position hsecond
  intro hsame
  rw [hseed, hseed'] at hsame
  have hposition : j = k :=
    ofNat_inj_of_lt ((List.getElem?_eq_some_iff.1 hj).1.trans_le hfew)
      ((List.getElem?_eq_some_iff.1 hk).1.trans_le hfew) (itemSeed_injective seed hsame)
  subst hposition
  obtain rfl := Option.some.inj (hj.symm.trans hk)
  obtain rfl := Except.ok.inj (hplace.symm.trans hplace')
  exact hne rfl

/-! ### Requests -/

/-- Outcome processing in an environment, when the outcomes have been reset and the pass has been
counted. -/
def processOutcomesOn (delivery : TestDelivery) (environment : Environment) :
    TestAction NotificationLog := do
  let execution := Rule.execute delivery.engine (TestState.stage delivery.definition)
    delivery.definition.outcomeProcessing
  let (ending, log) ← TestAction.ofLogic (execution.on environment)
  modify fun state =>
    { state with
      outcomeRuns := state.outcomeRuns + 1
      exitRequested := state.exitRequested || ending = .exited .test }
  return log

/-- Outcome processing draws from the stream of the next seed. -/
theorem run_processOutcomes {reset : TestState}
    (hreset : delivery.resetOutcomes.run.run state = (.ok (), reset)) :
    delivery.processOutcomes.run.run state =
      (delivery.processOutcomesOn (.ofSeed reset.supply.next delivery.engine.options.level)).run.run
        { reset with passes := reset.passes + 1 } := by
  rw [processOutcomes, run_bind, hreset]
  rfl

section supply

variable (hstate : state.supply = supply)

include hstate

theorem supply_resetOutcomes : delivery.resetOutcomes.Leaves state (·.supply = supply) := by
  have hset : ∀ bindings (state : TestState), state.supply = supply →
      (setOutcomes bindings).Leaves state (·.supply = supply) := by
    intro bindings
    induction bindings with
    | nil => exact fun _ h => h
    | cons binding rest ih =>
      intro state hstate
      rw [setOutcomes, Leaves, ensures_bind, ensures_get]
      refine (TestAction.leaves_lookUp _).read (fun outcomes => ?_) hstate
      rw [Leaves, ensures_bind, ensures_modify]
      exact ih _ hstate
  exact hset _ state hstate

/-- Outcome processing is one pass, unless outcomes cannot be reset. -/
theorem supply_processOutcomes :
    delivery.processOutcomes.Leaves state fun left => supply.MayPass left.supply := by
  refine (supply_resetOutcomes hstate).bind ?_ fun _ h => .inl h
  intro _ reset hreset
  rw [Leaves, ensures_bind, ensures_get, ensures_bind, ensures_set]
  have hbegun : ({ reset with passes := reset.passes + 1 } : TestState).supply =
      supply.after 1 := by
    rw [← hreset]
    rfl
  have hmaintains := TestState.stage_maintains_supply delivery.definition (supply.after 1)
  refine (TestAction.leaves_ofLogic (Rule.leaves_execute hmaintains _ _ hbegun)).bind ?_
    fun _ h => .inr h
  exact fun _ _ hleft => .inr hleft

theorem supply_moves (h : state.Moves left) : left.supply = supply := h.supply.trans hstate

theorem supply_enterTest :
    (delivery.enterTest now).Leaves state fun left => supply.MayPass left.supply := by
  rw [enterTest]
  refine leaves_check.read (fun _ => ?_) (.inl hstate)
  rw [Leaves, ensures_bind, ensures_get]
  split
  next => exact .inl hstate
  next => exact .inl hstate
  next =>
    refine (supply_resetOutcomes hstate).bind ?_ fun _ h => .inl h
    exact fun _ _ hleft => .inl hleft

/-- Submitting responses is at most one pass, which is that of outcome processing. -/
theorem supply_respond (responses : SortedMap Identifier ResponseData) :
    (delivery.respond now responses).Leaves state fun left => supply.MayPass left.supply := by
  rw [respond]
  refine leaves_activePart.read (fun part => ?_) (.inl hstate)
  rw [Leaves, ensures_bind, ensures_get]
  split
  next => exact .inl hstate
  next =>
    refine (TestAction.leaves_lookUp _).read (fun place => ?_) (.inl hstate)
    refine (TestAction.leaves_lookUp _).read (fun testPart => ?_) (.inl hstate)
    refine (leaves_session place).read (fun session => ?_) (.inl hstate)
    dsimp only
    rw [Leaves, ensures_ite, ensures_bind]
    refine ⟨fun _ => .inl hstate, fun _ => ?_⟩
    refine Leaves.bind (leaves_onItem place fun item session => (leaves_map _).1
      (item.leaves_follows (.attempt responses now (policy testPart.submission place.control))))
      ?_ fun _ h => .inl (supply_moves hstate h)
    intro log attempted hattempted
    refine Leaves.bind leaves_touch ?_ fun _ h => .inl (supply_moves hstate (hattempted.trans h))
    intro _ touched htouched
    have htouched := supply_moves hstate (hattempted.trans htouched)
    split
    next => exact (supply_processOutcomes htouched).bind (fun _ _ h => h) fun _ h => h
    next => exact .inl htouched

/-- Ending a part is at most one pass, which is that of outcome processing. -/
theorem supply_endPart :
    (delivery.endPart now).Leaves state fun left => supply.MayPass left.supply := by
  rw [endPart]
  refine leaves_activePart.read (fun part => ?_) (.inl hstate)
  rw [Leaves, ensures_bind, ensures_get]
  dsimp only
  refine (TestAction.leaves_lookUp _).read (fun testPart => ?_) (.inl hstate)
  refine (delivery.ensures_leave_bind _).2
    (Ensures.mono leaves_leave ?_ fun _ _ h => .inl (supply_moves hstate h))
  intro _ left hleft
  -- Items that are scored now draw from streams of their own sessions.
  refine Leaves.bind (leaves_scoreItems _ _ _) ?_
    fun _ h => .inl (supply_moves hstate (hleft.trans h))
  intro _ scored hscored
  refine (supply_processOutcomes (supply_moves hstate (hleft.trans hscored))).bind ?_ fun _ h => h
  intro _ processed hprocessed
  have hclose : ∀ closed, processed.Moves closed → supply.MayPass closed.supply := by
    intro closed hclosed
    rwa [hclosed.supply]
  refine (leaves_closeItems _).bind ?_ hclose
  intro _ closed hclosed
  have hclosed := hclose closed hclosed
  rw [Leaves, ensures_bind, ensures_modify, ensures_bind, ensures_get]
  refine (TestAction.leaves_lookUp _).read (fun chosen => ?_) hclosed
  obtain ⟨target, log⟩ := chosen
  obtain ⟨_, _, hfollow, -, -⟩ := exists_follow target
    { closed with
      parts := endAt part now closed.parts
      currentPart := none
      currentItem := none }
  dsimp only
  rw [Leaves, ensures_bind, ensures_modify, hfollow]
  exact hclosed

theorem supply_exit :
    (delivery.exit now).Leaves state fun left => supply.MayPass left.supply := by
  rw [exit]
  refine leaves_requireInteracting.read (fun _ => ?_) (.inl hstate)
  refine leaves_requireNoOpenPart.read (fun _ => ?_) (.inl hstate)
  refine leaves_touch.bind ?_ fun _ h => .inl (supply_moves hstate h)
  intro _ left hleft
  have hleft := supply_moves hstate hleft
  exact .inl hleft

end supply

/-- No request changes the seed of a session or begins more than one pass, however it is
answered. -/
theorem leaves_serve_supply (request : TestRequest) :
    (delivery.serve request).Leaves state fun left => state.supply.MayPass left.supply := by
  cases request with
  | enterTest now => exact (leaves_map _).2 (supply_enterTest rfl)
  | enterPart now =>
    refine (leaves_map _).2 (leaves_enterPart.mono ?_)
    rintro left (hmoves | ⟨_, _, _, -, -, hmoves, rfl⟩)
    · exact .inl hmoves.supply
    · exact .inl hmoves.supply
  | select now ref => exact (leaves_map _).2 ((leaves_select ref).mono fun _ h => .inl h.supply)
  | advance now => exact (leaves_map _).2 (leaves_advance.mono fun _ h => .inl h.supply)
  | respond now responses => exact (leaves_map _).2 (supply_respond rfl responses)
  | endPart now => exact (leaves_map _).2 (supply_endPart rfl)
  | exit now => exact (leaves_map _).2 (supply_exit rfl)

/-! ### Streams of random numbers -/

/-- The seeds of the passes that requests to a test session begin, however they are answered. -/
def passSeeds (delivery : TestDelivery) (state : TestState) (requests : List TestRequest) :
    List UInt64 :=
  Supply.seedsAlong TestState.supply
    (fun state request => ((delivery.serve request).run.run state).2) state requests

/-- No two passes of a test session have one seed. -/
theorem nodup_passSeeds (state : TestState) {requests : List TestRequest}
    (h : requests.length ≤ UInt64.size) : (delivery.passSeeds state requests).Nodup :=
  Supply.nodup_seedsAlong TestState.supply _
    (fun _ request => (leaves_serve_supply request).left) state h

/-- Where the random numbers of sessions with a seed come from. -/
structure DrawsApart (delivery : TestDelivery) (seed : UInt64) : Prop where
  /-- No two positions of items have one seed. -/
  positions : Function.Injective (itemSeed seed)
  /-- No two passes have one seed. -/
  passes : Function.Injective (passSeed seed)
  /-- No two items of a new session begin with one seed. -/
  items : ∀ state, delivery.create seed = .ok state → state.plan.items.length ≤ UInt64.size →
    ∀ first second session other, first ≠ second → state.items.get? first = some session →
      state.items.get? second = some other → session.seed ≠ other.seed
  /-- A pass of an item session draws from the stream of the next seed. -/
  itemPass : ∀ (item : ItemDelivery) state, item.nextEnvironment.run.run state =
    (.ok (.ofSeed state.supply.next item.engine.options.level),
      { state with passes := state.passes + 1 })
  /-- No two passes of an item session have one seed. -/
  itemPasses : ∀ (item : ItemDelivery) state requests, requests.length ≤ UInt64.size →
    (item.passSeeds state requests).Nodup
  /-- Outcome processing is a pass of a test session, and draws from the stream of the next seed. -/
  testPass : ∀ state reset, delivery.resetOutcomes.run.run state = (.ok (), reset) →
    delivery.processOutcomes.run.run state =
      (delivery.processOutcomesOn (.ofSeed reset.supply.next delivery.engine.options.level)).run.run
        { reset with passes := reset.passes + 1 }
  /-- No two passes of a test session have one seed. -/
  testPasses : ∀ state requests, requests.length ≤ UInt64.size →
    (delivery.passSeeds state requests).Nodup

/-- **Items and passes have seeds of their own.** The positions of items and the numbers of passes,
which are words, have different seeds with every seed of a session. The items of a new test session
therefore begin with different seeds, and no two passes that requests begin have one seed, be the
session one of an item or one of a test, and however the requests are answered. -/
theorem drawsApart (delivery : TestDelivery) (seed : UInt64) : delivery.DrawsApart seed where
  positions := itemSeed_injective seed
  passes := passSeed_injective seed
  items state hcreate hfew first second session other hne hfirst hsecond := by
    have hcreated := (yields_iff.1 yields_create).1 state hcreate
    exact hcreated.seed_ne hfew hne hfirst hsecond
  itemPass item state := item.run_nextEnvironment state
  itemPasses item state _ h := item.nodup_passSeeds state h
  testPass state reset h := run_processOutcomes h
  testPasses state _ h := nodup_passSeeds state h

/-- Two items begin with different seeds. The two attempts and the end of the part begin a pass
of the test each, and template processing and an attempt one of an item session. -/
theorem drawsApart_pair :
    let delivery : TestDelivery := .pair ⟨some 1, none, none⟩ []
    let requests : List TestRequest := [.enterTest (.logical 0), .enterPart (.logical 1),
      .advance (.logical 2), .respond (.logical 3) .empty, .advance (.logical 4),
      .respond (.logical 5) .empty, .endPart (.logical 6)]
    let itemRequests : List ItemRequest := [.processTemplate, .enter (.logical 0),
      .attempt .empty (.logical 1) ⟨0, false, false⟩, .endSession (.logical 2)]
    (∃ state name other first second, delivery.create 7 = .ok state ∧ name ≠ other ∧
      state.items.get? name = some first ∧ state.items.get? other = some second ∧
      first.seed ≠ second.seed ∧ (delivery.passSeeds state requests).length = 3 ∧
      (delivery.passSeeds state requests).Nodup) ∧
    ∃ session, ItemDelivery.guess.create .empty 7 = .ok session ∧
      (ItemDelivery.guess.passSeeds session itemRequests).length = 2 ∧
      (ItemDelivery.guess.passSeeds session itemRequests).Nodup := by
  intro delivery requests itemRequests
  have hapart := drawsApart delivery 7
  constructor
  · let name : Identifier := ⟨"Q1", by decide +kernel⟩
    let other : Identifier := ⟨"Q2", by decide +kernel⟩
    have hmade : (delivery.create 7).toOption.any (fun state => state.plan.items.length = 2 ∧
        (delivery.passSeeds state requests).length = 3 ∧
        (state.items.get? name).isSome = true ∧ (state.items.get? other).isSome = true) = true := by
      decide +kernel
    obtain ⟨state, hstate, hcheck⟩ := (Option.any_eq_true _ _).1 hmade
    obtain ⟨hplan, hpasses, hname, hother⟩ := of_decide_eq_true hcheck
    obtain ⟨first, hfirst⟩ := Option.isSome_iff_exists.1 hname
    obtain ⟨second, hsecond⟩ := Option.isSome_iff_exists.1 hother
    have hcreate := eq_ok_of_mem_toOption hstate
    have hne : name ≠ other := by decide +kernel
    refine ⟨state, name, other, first, second, hcreate, hne, hfirst, hsecond, ?_, hpasses, ?_⟩
    · refine hapart.items state hcreate ?_ name other first second hne hfirst hsecond
      rw [hplan]
      decide
    · exact hapart.testPasses state requests (by decide)
  · have hmade : (ItemDelivery.guess.create .empty 7).toOption.any (fun session =>
        (ItemDelivery.guess.passSeeds session itemRequests).length = 2) = true := by
      decide +kernel
    obtain ⟨session, hsession, hcheck⟩ := (Option.any_eq_true _ _).1 hmade
    exact ⟨session, eq_ok_of_mem_toOption hsession, of_decide_eq_true hcheck,
      hapart.itemPasses _ session itemRequests (by decide)⟩

end TestDelivery

end Assessment
