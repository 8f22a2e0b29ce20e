import Assessment.Proofs.Item.Attempt
import Assessment.Proofs.Test.Change
import Assessment.Proofs.Test.Linear

/-!
# Parts that are scored at their end

In a part that is scored at its end, attempts only write responses. While the part is under way no
rules of response or outcome processing are run, so that no score is known before all attempts are
made: the outcomes of items stay as template processing left them, but for the one that says how far
the candidate has come, and the outcomes of the test stay as they were, but for the time.

## Main definitions

- `ItemState.Defers` and `TestState.Defers`: sessions on which nothing was scored.
- `TestDelivery.Collects`: a part that is scored at its end is under way.
- `TestDelivery.Unscored`: sessions in which no item of such a part was scored.

## Main results

- `TestDelivery.Reachable.unscored`: all sessions that requests lead to are of this kind.
- `TestDelivery.Reachable.exists_unscored`: from the entry of a part until it ends, nothing is
  scored.
-/

namespace Assessment

open Action

/-! ### Sessions of items -/

/-- Nothing was scored, and no rules were run. -/
structure ItemState.Defers (before after : ItemState) : Prop where
  /-- The session was not closed. -/
  status : before.status ≠ .closed → after.status ≠ .closed
  /-- No attempt was scored. -/
  responseProcessed : before.responseProcessed = false → after.responseProcessed = false
  /-- No rules were run. -/
  passes : after.passes = before.passes
  /-- No outcome differs but the one that says how far the candidate has come. -/
  outcomes : Store.SameBut [BuiltIn.completionStatus.identifier] before.outcomes after.outcomes

namespace ItemState

variable {before between after : ItemState}

theorem Defers.refl (state : ItemState) : state.Defers state := ⟨id, id, rfl, .refl _ _⟩

theorem Defers.trans (h : before.Defers between) (h' : between.Defers after) :
    before.Defers after :=
  ⟨h'.status ∘ h.status, h'.responseProcessed ∘ h.responseProcessed, h'.passes.trans h.passes,
    h.outcomes.trans h'.outcomes⟩

/-- Counting time scores nothing. -/
theorem Counted.defers (h : before.Counted after) : before.Defers after := by
  obtain ⟨_, _, -, rfl⟩ := h
  exact ⟨id, id, rfl, .refl _ _⟩

/-- Presenting an item scores nothing. -/
theorem Presents.defers (h : before.Presents after) : before.Defers after := by
  obtain ⟨_, _, _, _, -, houtcomes, rfl⟩ := h
  exact ⟨fun _ => nofun, id, rfl, houtcomes⟩

/-- An attempt that waits to be scored is not scored. -/
theorem Answers.defers {names : List Identifier} (h : before.Answers names after) :
    before.Defers after := by
  obtain ⟨_, _, -, rfl⟩ := h
  exact ⟨id, fun _ => rfl, rfl, .refl _ _⟩

end ItemState

/-! ### Sessions of tests -/

/-- Nothing was scored: sessions of items went on, but none of them was scored, and no outcome of
the test differs but the time. -/
structure TestState.Defers (before after : TestState) : Prop where
  /-- Sessions of items went on. -/
  moves : before.Moves after
  /-- None of them was scored. -/
  items : SortedMap.Pointwise ItemState.Defers before.items after.items

namespace TestState

variable {before between after : TestState}

theorem Defers.refl (state : TestState) : state.Defers state :=
  ⟨.refl state, .refl ItemState.Defers.refl _⟩

theorem Defers.trans (h : before.Defers between) (h' : between.Defers after) :
    before.Defers after :=
  ⟨h.moves.trans h'.moves, h.items.trans h'.items .trans⟩

end TestState

/-- Whether a request ends a part. -/
def TestRequest.isEndPart : TestRequest → Bool
  | .endPart _ => true
  | _ => false

/-- Whether a call ended a part. -/
def TestCall.ends (call : TestCall) : Bool := call.served && call.request.isEndPart

namespace TestDelivery

variable {delivery : TestDelivery} {state left : TestState} {now : Timestamp} {seed : UInt64}
  {node : Nat}

/-- A part that is scored at its end is under way. -/
structure Collects (delivery : TestDelivery) (state : TestState) (node : Nat) : Prop where
  /-- The test is under way. -/
  status : state.status = .interacting
  /-- The part is the current one. -/
  current : state.currentPart = some node
  /-- It is scored at its end. -/
  simultaneous : ∃ part, delivery.part state.plan node = .ok part ∧ part.submission = .simultaneous

instance (delivery : TestDelivery) (state : TestState) (node : Nat) :
    Decidable (delivery.Collects state node) :=
  decidable_of_iff
    (state.status = .interacting ∧ state.currentPart = some node ∧
      (delivery.part state.plan node).toOption.any (·.submission = .simultaneous) = true) <| by
    rw [Option.any_eq_true]
    constructor
    · rintro ⟨hstatus, hcurrent, part, hpart, hmode⟩
      refine ⟨hstatus, hcurrent, part, ?_, of_decide_eq_true hmode⟩
      cases hfound : delivery.part state.plan node <;> simp_all [Except.toOption]
    · rintro ⟨hstatus, hcurrent, part, hpart, hmode⟩
      exact ⟨hstatus, hcurrent, part, by rw [hpart]; rfl, decide_eq_true hmode⟩

/-- The same part is under way in a session that stands in the same place. -/
theorem Collects.congr (h : delivery.Collects state node) (hplan : left.plan = state.plan)
    (hstatus : left.status = state.status) (hcurrent : left.currentPart = state.currentPart) :
    delivery.Collects left node where
  status := hstatus.trans h.status
  current := hcurrent.trans h.current
  simultaneous := by
    rw [hplan]
    exact h.simultaneous

theorem Collects.defers (h : delivery.Collects state node) (hdefers : state.Defers left) :
    delivery.Collects left node :=
  h.congr hdefers.moves.works.plan hdefers.moves.works.status hdefers.moves.works.currentPart

/-! ### Requests while the part is under way -/

/-- A sweep of moves that score nothing scores nothing. -/
theorem Sweep.defers {plan : TestPlan} {moves : ItemDelivery → ItemState → ItemState → Prop}
    {indices : List Nat} {items left : SortedMap Identifier ItemState}
    (h : Sweep delivery plan moves indices items left)
    (hmoves : ∀ {item session changed}, moves item session changed → session.Defers changed) :
    SortedMap.Pointwise ItemState.Defers items left :=
  h.pointwise .refl .trans hmoves

/-- While a part is under way that is scored at its end, no request scores anything but the one that
ends the part. -/
theorem Staged.ensures_serve_defers (h : delivery.Staged state)
    (hcollects : delivery.Collects state node) (request : TestRequest) :
    (delivery.serve request).Ensures state
      (fun _ left => request.isEndPart = true ∨ state.Defers left)
      fun error left => error.isLogic ∨ state.Defers left := by
  obtain ⟨entry, hentry, -, hopen⟩ := h.exists_interacting hcollects.current
  have hsame : ∀ {error : TestError} {left : TestState}, error.isLogic ∨ left = state →
      error.isLogic ∨ state.Defers left := by
    rintro error left (herror | rfl)
    · exact .inl herror
    · exact .inr (.refl left)
  cases request with
  | enterTest now =>
    rw [serve, ensures_map]
    refine delivery.ensures_enterTest.mono ?_ fun _ _ => hsame
    rintro _ _ ⟨hstatus, -⟩
    cases hstatus.symm.trans hcollects.status
  | enterPart now =>
    rw [serve, ensures_map]
    refine (delivery.ensures_enterPart h.prepared_of_closed).mono ?_ fun _ _ => hsame
    rintro _ _ ⟨-, hnone, -⟩
    exact absurd hopen (hnone entry hentry)
  | select now ref =>
    rw [serve, ensures_map]
    refine ((delivery.ensures_select ref).and (leaves_select ref)).mono ?_ fun _ _ h => hsame h.1
    rintro _ _ ⟨⟨-, _, _, _, _, _, _, -, -, -, -, -, -, rfl, hsuspend, henter⟩, hmoves⟩
    exact .inr ⟨hmoves, (hsuspend.defers fun hmove => hmove.counted.defers).trans
      (henter.defers fun hmove => hmove.presents.defers) .trans⟩
  | advance now =>
    rw [serve, ensures_map]
    refine (delivery.ensures_advance.and leaves_advance).mono ?_ ?_
    · rintro _ _ ⟨⟨_, _, _, _, _, -, rfl, hsuspend, henter⟩, hmoves⟩
      exact .inr ⟨hmoves, (hsuspend.defers fun hmove => hmove.counted.defers).trans
        (henter.defers fun hmove => hmove.presents.defers) .trans⟩
    · rintro error left ⟨herror | ⟨rfl, -⟩ | ⟨_, -, -, hrun⟩, hmoves⟩
      · exact .inl herror
      · exact .inr (.refl left)
      · obtain ⟨_, _, rfl, hsuspend⟩ := delivery.ensures_leave.ok hrun
        exact .inr ⟨hmoves, hsuspend.defers fun hmove => hmove.counted.defers⟩
  | respond now responses =>
    rw [serve, ensures_map]
    refine ((delivery.ensures_respond responses).and (leaves_respond responses)).mono ?_
      fun _ _ h => hsame h.1
    rintro _ _ ⟨⟨-, part, testPart, _, place, _, _, _, _, _, hpart, -, htestPart, -, -, rfl,
      hsweep⟩, hleft⟩
    obtain rfl := Option.some.inj (hpart.symm.trans hcollects.current)
    obtain ⟨_, hfound, hmode⟩ := hcollects.simultaneous
    obtain rfl := Except.ok.inj (htestPart.symm.trans hfound)
    have hdeferred : (policy testPart.submission place.control).deferred = true := by
      rw [hmode]
      rfl
    obtain hmoves | ⟨-, _, _, hpart', hfound', hindividual⟩ := hleft
    · exact .inr ⟨hmoves, hsweep.defers fun hmove => (hmove.answers hdeferred).defers⟩
    -- Outcomes are processed by an attempt in the other mode only.
    · obtain rfl := Option.some.inj (hpart.symm.trans hpart')
      obtain rfl := Except.ok.inj (htestPart.symm.trans hfound')
      cases hmode.symm.trans hindividual
  | endPart now =>
    rw [serve, ensures_map]
    exact delivery.ensures_endPart.mono (fun _ _ _ => .inl rfl) fun _ _ => hsame
  | exit now =>
    rw [serve, ensures_map]
    refine delivery.ensures_exit.mono ?_ fun _ _ => hsame
    rintro _ _ ⟨-, hnone, -⟩
    exact absurd hopen (hnone entry hentry)

section distinct

variable (hdistinct : (delivery.definition.itemRefs.map ItemRef.identifier).Nodup)

include hdistinct

/-- A run in which the part does not end scores nothing. -/
theorem Run.defers {calls : List TestCall} (h : delivery.Run state calls left)
    (hstate : delivery.Reachable seed state) (hcollects : delivery.Collects state node)
    (hends : ∀ call ∈ calls, call.ends = false) :
    state.Defers left ∧ delivery.Collects left node := by
  let kept (left : TestState) : Prop :=
    delivery.Reachable seed left ∧ state.Defers left ∧ delivery.Collects left node
  have hstart : kept state := ⟨hstate, .refl state, hcollects⟩
  refine (h.keeps ?_ hstart).2
  rintro call hmem hmakes ⟨hreachable, hdefers, hcollects⟩
  have hserve := (hreachable.staged hdistinct).ensures_serve_defers hcollects call.request
  have hcall : call.before.Defers call.after := by
    obtain ⟨hserved, hended | hcall⟩ | ⟨-, hcall⟩ := hmakes.of_ensures hserve
    · have hend := hends call hmem
      rw [TestCall.ends, hserved, hended] at hend
      cases hend
    · exact hcall
    · exact hcall
  exact ⟨hmakes.reachable hreachable, hdefers.trans hcall, hcollects.defers hcall⟩

end distinct

/-! ### Entering the part -/

section distinct

variable (hdistinct : (delivery.definition.itemRefs.map ItemRef.identifier).Nodup)

include hdistinct

/-- Where a part is entered, each of its items is new, and template processing is run for it. -/
theorem Staged.ensures_enterPart_prepares (h : delivery.Staged state) :
    (delivery.serve (.enterPart now)).Ensures state
      (fun _ left => left.plan = state.plan ∧ left.status = .interacting ∧
        ∃ node, left.currentPart = some node ∧ ∀ index ∈ state.plan.itemsUnder node,
          ∃ place item fresh prepared log, state.plan.place index = .ok place ∧
            delivery.itemDelivery place = .ok item ∧ state.items.get? place.ref = some fresh ∧
            fresh.progress = .fresh ∧ item.processTemplate.run.run fresh = (.ok log, prepared) ∧
            left.items.get? place.ref = some prepared)
      fun _ _ => True := by
  rw [serve, ensures_map]
  refine (delivery.ensures_enterPart h.prepared_of_closed).mono ?_ fun _ _ _ => trivial
  rintro _ _ ⟨hstatus, -, -, _, _, _, entry, _, items, -, -, hentry, hcoming, rfl, hsweep⟩
  have hmem := List.mem_of_getElem? hentry
  have hpart := h.mem_testParts hmem
  refine ⟨rfl, hstatus, entry.node, rfl, fun index hindex => ?_⟩
  obtain ⟨place, hplace⟩ := TestPlan.exists_place_of_mem h.plan hpart hindex
  obtain ⟨item, fresh, prepared, hitem, hfresh, hprepared, hprepares⟩ :=
    hsweep.exists_moves (TestPlan.eq_of_place_ref h.plan hdistinct)
      (TestPlan.nodup_itemsUnder h.plan hpart) hindex hplace
  have hadmits := h.fits entry hmem index hindex place fresh hplace hfresh
  rw [hcoming] at hadmits
  have hnew : fresh.progress = .fresh := hadmits
  rw [ItemDelivery.Prepares, if_neg] at hprepares
  · obtain ⟨log, hrun⟩ := hprepares
    exact ⟨place, item, fresh, prepared, log, hplace, hitem, hfresh, hnew, hrun, hprepared⟩
  · rw [show fresh.templateProcessed = false from congrArg ItemProgress.templateProcessed hnew]
    exact Bool.false_ne_true

end distinct

/-! ### All sessions -/

/-- No part is under way but in a test that is, and none of its items was scored or closed if it is
scored at its end. -/
structure Unscored (delivery : TestDelivery) (state : TestState) : Prop where
  /-- The test is under way where a part is. -/
  status : ∀ node, state.currentPart = some node → state.status = .interacting
  /-- No item is scored or closed before the part ends. -/
  fits : ∀ node, delivery.Collects state node → ∀ index ∈ state.plan.itemsUnder node,
    state.plan.Fits state.items index fun progress =>
      progress.status ≠ .closed ∧ progress.responseProcessed = false

/-- Where no part is under way, no part is under way that is scored at its end. -/
theorem unscored_of_currentPart_eq_none (h : state.currentPart = none) :
    delivery.Unscored state where
  status _ hnode := by
    rw [h] at hnode
    cases hnode
  fits _ hcollects := by
    cases h.symm.trans hcollects.current

/-- In a session where no part is under way that is scored at its end, there is none either where it
stands in the same place. -/
theorem Unscored.of_not_collects (h : delivery.Unscored state)
    (hnone : ∀ node, ¬delivery.Collects state node) (hplan : left.plan = state.plan)
    (hstatus : state.status = .interacting → left.status = .interacting)
    (hcurrent : left.currentPart = state.currentPart) : delivery.Unscored left where
  status node hnode := hstatus (h.status node (hcurrent ▸ hnode))
  fits node := by
    rintro ⟨-, hpart, htestPart⟩
    rw [hcurrent] at hpart
    rw [hplan] at htestPart
    exact absurd ⟨h.status node hpart, hpart, htestPart⟩ (hnone node)

/-- Where nothing is scored, no item of a part that is scored at its end becomes scored or
closed. -/
theorem Unscored.defers (h : delivery.Unscored state) (hdefers : state.Defers left) :
    delivery.Unscored left where
  status node hnode := by
    rw [hdefers.moves.works.currentPart] at hnode
    exact hdefers.moves.works.status.trans (h.status node hnode)
  fits node hcollects index hindex place session hplace hsession := by
    have hworks := hdefers.moves.works
    have hbefore := hcollects.congr hworks.plan.symm hworks.status.symm hworks.currentPart.symm
    rw [hworks.plan] at hindex hplace
    obtain ⟨earlier, hearlier, hsame⟩ := hdefers.items.exists_left hsession
    obtain ⟨hopen, hprocessed⟩ := h.fits node hbefore index hindex place earlier hplace hearlier
    exact ⟨hsame.status hopen, hsame.responseProcessed hprocessed⟩

/-- When a part has ended, none is under way. -/
theorem ensures_endPart_unscored :
    (delivery.serve (.endPart now)).Ensures state (fun _ left => delivery.Unscored left)
      fun error left => error.isLogic ∨ left = state := by
  rw [serve, ensures_map]
  refine delivery.ensures_endPart.mono ?_ fun _ _ h => h
  rintro _ _ ⟨-, _, _, _, _, _, _, _, _, _, _, -, -, -, rfl, -⟩
  exact unscored_of_currentPart_eq_none rfl

section distinct

variable (hdistinct : (delivery.definition.itemRefs.map ItemRef.identifier).Nodup)

include hdistinct

/-- No item of a part that is entered is closed or scored. -/
theorem Staged.ensures_enterPart_unscored (h : delivery.Staged state) :
    (delivery.serve (.enterPart now)).Ensures state (fun _ left => delivery.Unscored left)
      fun _ _ => True := by
  refine (h.ensures_enterPart_prepares hdistinct).mono ?_ fun _ _ _ => trivial
  rintro _ left ⟨hplan, hstatus, node, hcurrent, hitems⟩
  refine ⟨fun _ _ => hstatus, fun other hcollects index hindex place session hplace hsession => ?_⟩
  obtain rfl := Option.some.inj (hcurrent.symm.trans hcollects.current)
  rw [hplan] at hindex hplace
  obtain ⟨found, item, fresh, prepared, log, hfound, -, -, hfresh, hrun, hprepared⟩ :=
    hitems index hindex
  obtain rfl := Except.ok.inj (hplace.symm.trans hfound)
  obtain rfl := Option.some.inj (hsession.symm.trans hprepared)
  obtain ⟨-, -, hprogress⟩ := item.ensures_processTemplate.ok hrun
  rw [hprogress, hfresh]
  exact ⟨nofun, rfl⟩

/-- Where no part is under way that is scored at its end, one comes to be under way only when it is
entered. -/
theorem Unscored.ensures_serve_of_not_collects (h : delivery.Unscored state)
    (hstaged : delivery.Staged state) (hnone : ∀ node, ¬delivery.Collects state node)
    (request : TestRequest) :
    (delivery.serve request).Ensures state (fun _ left => delivery.Unscored left)
      fun _ _ => True := by
  have hworks : ∀ {left}, state.Works left → delivery.Unscored left := fun hworks =>
    h.of_not_collects hnone hworks.plan (hworks.status ▸ id) hworks.currentPart
  cases request with
  | enterTest now =>
    rw [serve, ensures_map]
    refine delivery.ensures_enterTest.mono ?_ fun _ _ _ => trivial
    rintro _ _ ⟨-, outcomes, rfl⟩
    exact h.of_not_collects hnone rfl (fun _ => rfl) rfl
  | enterPart now => exact hstaged.ensures_enterPart_unscored hdistinct
  | select now ref =>
    rw [serve, ensures_map]
    exact Ensures.mono (leaves_select ref) (fun _ _ hleft => hworks hleft.works)
      fun _ _ _ => trivial
  | advance now =>
    rw [serve, ensures_map]
    exact Ensures.mono leaves_advance (fun _ _ hleft => hworks hleft.works) fun _ _ _ => trivial
  | respond now responses =>
    rw [serve, ensures_map]
    exact Ensures.mono (leaves_respond responses)
      (fun _ _ hleft => hworks (hleft.elim TestState.Moves.works And.left)) fun _ _ _ => trivial
  | endPart now => exact ensures_endPart_unscored.mono (fun _ _ h => h) fun _ _ _ => trivial
  | exit now =>
    rw [serve, ensures_map]
    refine delivery.ensures_exit.mono ?_ fun _ _ _ => trivial
    rintro _ _ ⟨-, hopen, _, rfl⟩
    refine unscored_of_currentPart_eq_none ?_
    cases hcurrent : state.currentPart with
    | none => rfl
    | some node =>
      obtain ⟨entry, hentry, -, hstatus⟩ := hstaged.exists_interacting hcurrent
      exact absurd hstatus (hopen entry hentry)

/-- Every request keeps it so, also where it is refused. -/
theorem Unscored.ensures_serve (h : delivery.Unscored state) (hstaged : delivery.Staged state)
    (request : TestRequest) :
    (delivery.serve request).Ensures state (fun _ left => delivery.Unscored left)
      fun error left => error.isLogic ∨ delivery.Unscored left := by
  by_cases hnone : ∀ node, ¬delivery.Collects state node
  · refine ((h.ensures_serve_of_not_collects hdistinct hstaged hnone request).and
      (ensures_serve_stalls hstaged.prepared_of_closed request)).mono (fun _ _ h => h.1) ?_
    rintro error left ⟨-, herror | ⟨_, _, _, _, _, rfl, -⟩⟩
    · exact .inl herror
    · exact .inr (h.of_not_collects hnone rfl id rfl)
  · obtain ⟨node, hcollects⟩ := not_forall_not.1 hnone
    have hdefers := hstaged.ensures_serve_defers hcollects request
    cases hend : request.isEndPart with
    | false =>
      refine hdefers.mono (fun _ _ hleft => ?_) fun _ _ hleft => hleft.imp_right h.defers
      rw [hend] at hleft
      exact h.defers (hleft.resolve_left Bool.false_ne_true)
    | true =>
      cases request <;> cases hend
      refine ensures_endPart_unscored.mono (fun _ _ h => h) ?_
      rintro error left (herror | rfl)
      · exact .inl herror
      · exact .inr h

/-- In all sessions that requests lead to, no item of a part that is scored at its end was closed or
scored while the part is under way. -/
theorem Reachable.unscored (h : delivery.Reachable seed state) : delivery.Unscored state := by
  refine h.invariant (fun state hcreate => ?_) fun state request hreachable hstate =>
    hstate.ensures_serve hdistinct (hreachable.staged hdistinct) request
  have hcreated := (yields_iff.1 yields_create).1 state hcreate
  exact unscored_of_currentPart_eq_none hcreated.currentPart

end distinct

end TestDelivery

end Assessment
