import Assessment.Proofs.Test.Operation

/-!
# Requests to test sessions

A test session is moved by requests, each made at a time of its own. Every request has one statement
here: which sessions accept it, what becomes of the session, and that a request that is refused
leaves the session as it was. Only advancing can be refused too late, when the item that it leads to
turns out to be closed.

## Main definitions

- `TestRequest` and `TestDelivery.serve`: the requests and how they are served.
- `TestDelivery.Reachable`: the sessions that requests lead to.
- `TestDelivery.sessionAfter`: the session that requests in turn lead to.
- `TestDelivery.LeadsToClosed`: a session in which advancing leads to an item that is closed.

## Main results

- `TestDelivery.ensures_enterTest` and the statements on the other requests.
- `TestDelivery.Reachable.invariant`: what every request keeps holds of all sessions.
-/

namespace Assessment

open Action

/-- A request to a test session. -/
inductive TestRequest where
  /-- Enter the test. -/
  | enterTest (now : Timestamp)
  /-- Enter the next part. -/
  | enterPart (now : Timestamp)
  /-- Go to an item of a part that is visited at will. -/
  | select (now : Timestamp) (ref : Identifier)
  /-- Go to the next item of a part that is visited in order. -/
  | advance (now : Timestamp)
  /-- Submit responses to the current item. -/
  | respond (now : Timestamp) (responses : SortedMap Identifier ResponseData)
  /-- End the part. -/
  | endPart (now : Timestamp)
  /-- Exit the test. -/
  | exit (now : Timestamp)

namespace TestRequest

/-- Whether a request is to enter the next part. -/
def isEnterPart : TestRequest → Bool
  | .enterPart _ => true
  | _ => false

/-- Whether a request is to submit responses. -/
def isRespond : TestRequest → Bool
  | .respond _ _ => true
  | _ => false

/-- Whether a request is to present an item. -/
def isVisit : TestRequest → Bool
  | .select _ _ | .advance _ => true
  | _ => false

end TestRequest

namespace TestDelivery

/-- Serve a request; the answer is left out. -/
def serve (delivery : TestDelivery) : TestRequest → TestAction Unit
  | .enterTest now => (fun _ => ()) <$> delivery.enterTest now
  | .enterPart now => (fun _ => ()) <$> delivery.enterPart now
  | .select now ref => (fun _ => ()) <$> delivery.select now ref
  | .advance now => (fun _ => ()) <$> delivery.advance now
  | .respond now responses => (fun _ => ()) <$> delivery.respond now responses
  | .endPart now => (fun _ => ()) <$> delivery.endPart now
  | .exit now => (fun _ => ()) <$> delivery.exit now

/-- The sessions of a seed that requests lead to. Requests may be refused, but not with a logic
error. -/
inductive Reachable (delivery : TestDelivery) (seed : UInt64) : TestState → Prop where
  /-- A new session. -/
  | created {state : TestState} : delivery.create seed = .ok state → Reachable delivery seed state
  /-- The session after a request was served. -/
  | served {state left : TestState} (request : TestRequest) : Reachable delivery seed state →
      (delivery.serve request).run.run state = (.ok (), left) → Reachable delivery seed left
  /-- The session after a request was refused. -/
  | refused {state left : TestState} {error : TestError} (request : TestRequest) :
      Reachable delivery seed state →
      (delivery.serve request).run.run state = (.error error, left) → error.isLogic = false →
      Reachable delivery seed left

variable {delivery : TestDelivery} {state : TestState} {now : Timestamp} {seed : UInt64}

/-- What holds of new sessions, and is kept by every request that does not fail with a logic error,
holds of all sessions. -/
theorem Reachable.invariant {holds : TestState → Prop} (h : delivery.Reachable seed state)
    (hcreated : ∀ state, delivery.create seed = .ok state → holds state)
    (hserved : ∀ state request, delivery.Reachable seed state → holds state →
      (delivery.serve request).Ensures state (fun _ left => holds left)
        fun error left => error.isLogic ∨ holds left) :
    holds state := by
  induction h with
  | created hcreate => exact hcreated _ hcreate
  | served request hreachable hrun ih => exact (hserved _ request hreachable ih).ok hrun
  | refused request hreachable hrun herror ih =>
    refine ((hserved _ request hreachable ih).error hrun).resolve_left ?_
    rw [herror]
    exact Bool.false_ne_true

/-! ### Several requests -/

/-- Serve requests in turn, up to the first that is refused. -/
def serveAll (delivery : TestDelivery) : List TestRequest → TestAction Unit
  | [] => pure ()
  | request :: rest => do
    delivery.serve request
    serveAll delivery rest

/-- Requests that are all served lead from one session to another. -/
theorem Reachable.serveAll {requests : List TestRequest} {left : TestState}
    (h : delivery.Reachable seed state)
    (hrun : (delivery.serveAll requests).run.run state = (.ok (), left)) :
    delivery.Reachable seed left := by
  have hall : (delivery.serveAll requests).Ensures state
      (fun _ left => delivery.Reachable seed left) fun _ _ => True := by
    clear hrun
    induction requests generalizing state with
    | nil => exact h
    | cons request rest ih =>
      rw [TestDelivery.serveAll]
      refine (ensures_run (delivery.serve request) state).bind ?_ fun _ _ _ => trivial
      rintro ⟨⟩ next hnext
      exact ih (h.served request hnext)
  exact hall.ok hrun

/-- The session after some requests to a new one, if none of them is refused. -/
def sessionAfter (delivery : TestDelivery) (seed : UInt64) (requests : List TestRequest) :
    Option TestState :=
  match delivery.create seed with
  | .error _ => none
  | .ok state =>
    match (delivery.serveAll requests).run.run state with
    | (.ok _, left) => some left
    | (.error _, _) => none

theorem reachable_of_sessionAfter {requests : List TestRequest}
    (h : delivery.sessionAfter seed requests = some state) : delivery.Reachable seed state := by
  unfold sessionAfter at h
  split at h
  next => cases h
  next start hstart =>
    split at h
    next hrun =>
      cases h
      exact (Reachable.created hstart).serveAll hrun
    next => cases h

variable (delivery)

/-! ### Entering and exiting the test -/

/-- A test is entered once. -/
theorem ensures_enterTest :
    (delivery.enterTest now).Ensures state
      (fun _ left => state.status = .notEntered ∧ ∃ outcomes, left =
        { state with outcomes, status := .interacting, entryTime := some now,
                     lastEvent := some now })
      fun error left => error.isLogic ∨ left = state := by
  refine delivery.ensures_check.bind ?_ fun _ _ herror => .inl herror.1
  rintro _ _ rfl
  rw [ensures_bind, ensures_get]
  split
  next => exact .inr rfl
  next => exact .inr rfl
  next hstatus =>
    refine delivery.ensures_resetOutcomes.bind ?_ fun _ _ herror => .inl herror
    rintro _ _ ⟨outcomes, rfl⟩
    exact ⟨hstatus, outcomes, rfl⟩

/-- A test is exited between parts. The parts that are still to come are passed over. -/
theorem ensures_exit :
    (delivery.exit now).Ensures state
      (fun _ left => state.status = .interacting ∧
        (∀ part ∈ state.parts, part.status ≠ .interacting) ∧
        ∃ outcomes, left =
          { state with
            outcomes
            parts := state.parts.map skipPart
            status := .exited
            endTime := some now
            lastEvent := none })
      fun error left => error.isLogic ∨ left = state := by
  refine delivery.ensures_requireInteracting.bind ?_ fun _ _ herror => .inr herror
  rintro _ _ ⟨hstatus, rfl⟩
  refine ensures_requireNoOpenPart.bind ?_ fun _ _ herror => .inr herror
  rintro _ _ ⟨hopen, rfl⟩
  refine ensures_touch.bind ?_ fun _ _ herror => .inl herror
  rintro _ _ ⟨outcomes, rfl⟩
  exact ⟨hstatus, hopen, outcomes, rfl⟩

/-! ### Entering parts -/

/-- A part that is chosen is one of the candidates, and is still to come. -/
theorem yields_choosePart (candidates : List (PartState × Nat)) (log : NotificationLog) :
    Yields (delivery.choosePart state candidates log)
      (fun chosen => ∀ position, chosen.1 = some position →
        ∃ entry, (entry, position) ∈ candidates ∧ entry.status = .notEntered)
      fun _ => True := by
  induction candidates generalizing log with
  | nil => exact nofun
  | cons first rest ih =>
    obtain ⟨entry, here⟩ := first
    have hrest : ∀ log, Yields (delivery.choosePart state rest log)
        (fun chosen => ∀ position, chosen.1 = some position →
          ∃ found, (found, position) ∈ (entry, here) :: rest ∧ found.status = .notEntered)
        fun _ => True := by
      refine fun log => (ih log).mono (fun chosen hchosen position hposition => ?_) fun _ h => h
      obtain ⟨found, hfound, hstatus⟩ := hchosen position hposition
      exact ⟨found, List.mem_cons_of_mem _ hfound, hstatus⟩
    rw [choosePart]
    split
    next => exact hrest log
    next hstatus =>
      rw [yields_bind]
      cases delivery.part state.plan entry.node with
      | error error => trivial
      | ok part =>
        rw [yields_ok, yields_bind]
        cases delivery.conditionsHold state part.preConditions with
        | error error => trivial
        | ok result =>
          obtain ⟨holds, notes⟩ := result
          rw [yields_ok]
          dsimp only
          split
          next =>
            rintro _ ⟨⟩
            exact ⟨entry, List.mem_cons_self, not_not.1 hstatus⟩
          next => exact hrest _

/-- Where a part is entered, it is one that is still to come. -/
theorem exists_of_choosePart {first position : Nat} {log : NotificationLog}
    (h : delivery.choosePart state (state.parts.zipIdx.drop first) delivery.newLog =
      .ok (some position, log)) :
    ∃ entry, state.parts[position]? = some entry ∧ entry.status = .notEntered := by
  obtain ⟨entry, hentry, hstatus⟩ :=
    (yields_iff.1 (delivery.yields_choosePart _ _)).1 _ h position rfl
  exact ⟨entry, List.mem_zipIdx_iff_getElem?.1 (List.mem_of_mem_drop hentry), hstatus⟩

/-- The part that was chosen is looked up at its position among all parts. -/
theorem eq_and_getElem?_of_chosen {chosen : Option Nat} {position : Nat} {entry : PartState}
    (h : (chosen >>= fun position => (state.parts[position]?).map (position, ·)) =
      some (position, entry)) :
    chosen = some position ∧ state.parts[position]? = some entry := by
  obtain ⟨there, hchosen, hfound⟩ := Option.bind_eq_some_iff.1 h
  obtain ⟨found, hentry, ⟨⟩⟩ := Option.map_eq_some_iff.1 hfound
  exact ⟨hchosen, hentry⟩

/-- The next part is entered where no part is under way: one that is still to come, with the items
in it prepared. It is the one that is chosen among those from the first candidate on. Items of it
may be closed already where they were prepared before. -/
theorem ensures_enterPart
    (hclosed : ∀ entry ∈ state.parts, entry.status = .notEntered →
      ∀ index ∈ state.plan.itemsUnder entry.node, ∀ place session,
        state.plan.place index = .ok place → state.items.get? place.ref = some session →
        session.status = .closed → session.templateProcessed = true) :
    (delivery.enterPart now).Ensures state
      (fun _ left => state.status = .interacting ∧
        (∀ part ∈ state.parts, part.status ≠ .interacting) ∧ state.exitRequested = false ∧
        ∃ first position log entry outcomes items, firstCandidate? state = some first ∧
          delivery.choosePart state (state.parts.zipIdx.drop first) delivery.newLog =
            .ok (some position, log) ∧
          state.parts[position]? = some entry ∧ entry.status = .notEntered ∧
          left =
            { state with
              outcomes, items
              lastEvent := some now
              parts := enterAt position now state.parts
              currentPart := some entry.node
              currentItem := none
              pendingBranch := none } ∧
          Sweep delivery state.plan ItemDelivery.Prepares (state.plan.itemsUnder entry.node)
            state.items items)
      fun error left => error.isLogic ∨ left = state := by
  refine delivery.ensures_requireInteracting.bind ?_ fun _ _ herror => .inr herror
  rintro _ _ ⟨hstatus, rfl⟩
  refine ensures_requireNoOpenPart.bind ?_ fun _ _ herror => .inr herror
  rintro _ _ ⟨hnone, rfl⟩
  rw [ensures_bind, ensures_get]
  dsimp only
  rw [ensures_ite, ensures_bind]
  refine ⟨fun _ => .inr rfl, fun hexit => ?_⟩
  split
  next => exact .inr rfl
  next first hfirst =>
    refine (TestAction.ensures_lookUp _).bind ?_ fun _ _ herror => .inl herror.1
    rintro ⟨chosen, log⟩ state ⟨hchosen, rfl⟩
    dsimp only
    split
    next => exact .inr rfl
    next position entry hposition =>
      obtain ⟨rfl, hentry⟩ := eq_and_getElem?_of_chosen hposition
      obtain ⟨_, hsame, hcoming⟩ := delivery.exists_of_choosePart hchosen
      obtain rfl := Option.some.inj (hentry.symm.trans hsame)
      refine ensures_touch.bind ?_ fun _ _ herror => .inl herror
      rintro _ _ ⟨outcomes, rfl⟩
      rw [ensures_bind, ensures_modify]
      refine (delivery.ensures_prepareItems _ _ ?_).bind ?_ fun _ _ herror => .inl herror
      · exact hclosed entry (List.mem_of_getElem? hentry) hcoming
      · rintro log' _ ⟨items, rfl, hsweep⟩
        exact ⟨hstatus, hnone, Bool.eq_false_iff.2 hexit, first, position, log, entry, outcomes,
          items, hfirst, hchosen, hentry, hcoming, rfl, hsweep⟩

/-! ### Moving among items -/

/-- A step is for parts of a mode. -/
theorem ensures_requireMode (expected : NavigationMode) (part : TestPart) :
    (requireMode expected part).Ensures state
      (fun _ left => part.navigation = expected ∧ left = state) fun _ left => left = state := by
  rw [requireMode, ensures_ite]
  exact ⟨fun hmode => ⟨hmode, rfl⟩, fun _ => rfl⟩

/-- An item that was not closed is presented also after clocks were stopped, which closes none. -/
theorem ensures_enterItem_of_suspends {index : Nat} {indices : List Nat}
    {before : SortedMap Identifier ItemState}
    (hsuspend : Sweep delivery state.plan (ItemDelivery.Suspends now) indices before state.items)
    (hopen : ∀ place session, state.plan.place index = .ok place →
      before.get? place.ref = some session → session.status ≠ .closed) :
    (delivery.enterItem index now).Ensures state
      (fun _ left => ∃ items, left = { state with items, currentItem := some index } ∧
        Sweep delivery state.plan (ItemDelivery.Enters now) [index] state.items items)
      fun error _ => error.isLogic := by
  refine (delivery.ensures_enterItem index).mono (fun _ _ h => h) ?_
  rintro error _ (herror | ⟨place, session, hplace, hsession, hclosed, -, -⟩)
  · exact herror
  · obtain ⟨earlier, hearlier, hsame⟩ := hsuspend.exists_of_suspends hsession
    exact absurd ((congrArg ItemProgress.status hsame).trans hclosed)
      (hopen place earlier hplace hearlier)

/-- An open item of the current part is presented, and the clock of the one before stops. -/
theorem ensures_select (ref : Identifier) :
    (delivery.select now ref).Ensures state
      (fun _ left => state.status = .interacting ∧
        ∃ part testPart index outcomes between items, state.currentPart = some part ∧
          (∃ entry ∈ state.parts, entry.node = part ∧ entry.status = .interacting) ∧
          delivery.part state.plan part = .ok testPart ∧ testPart.navigation = .nonlinear ∧
          state.plan.findItem? ref.text = some index ∧ state.plan.partOf? index = some part ∧
          left =
            { state with
              outcomes, items
              lastEvent := some now
              currentItem := some index } ∧
          Sweep delivery state.plan (ItemDelivery.Suspends now)
            (if state.currentItem ≠ some index then state.currentItem.toList else [])
            state.items between ∧
          Sweep delivery state.plan (ItemDelivery.Enters now) [index] between items)
      fun error left => error.isLogic ∨ left = state := by
  refine delivery.ensures_activePart.bind ?_ fun _ _ herror => .inr herror
  rintro part _ ⟨hstatus, hcurrent, hactive, rfl⟩
  rw [ensures_bind, ensures_get]
  refine (TestAction.ensures_lookUp _).bind ?_ fun _ _ herror => .inl herror.1
  rintro testPart _ ⟨hpart, rfl⟩
  refine (ensures_requireMode _ _).bind ?_ fun _ _ herror => .inr herror
  rintro _ state ⟨hmode, rfl⟩
  split
  next => exact .inr rfl
  next index hindex =>
    dsimp only
    rw [ensures_ite, ensures_bind]
    refine ⟨fun _ => .inr rfl, fun hpartOf => ?_⟩
    rw [ensures_ite, ensures_bind]
    refine ⟨fun _ => .inr rfl, fun hopen => ?_⟩
    -- All checks are made; what follows can only fail with a logic error.
    refine ensures_touch.bind ?_ fun _ _ herror => .inl herror
    rintro _ _ ⟨outcomes, rfl⟩
    have hclosed : ∀ place session, state.plan.place index = .ok place →
        state.items.get? place.ref = some session → session.status ≠ .closed := by
      intro place session hplace hsession hclosed
      obtain ⟨_, hfound, rfl⟩ := TestPlan.exists_place_of_findItem? hindex
      obtain rfl := Except.ok.inj (hplace.symm.trans hfound)
      refine absurd ?_ hopen
      rw [hsession]
      exact decide_eq_true hclosed
    have hpresent : ∀ between, Sweep delivery state.plan (ItemDelivery.Suspends now)
        (if state.currentItem ≠ some index then state.currentItem.toList else [])
        state.items between →
        (delivery.enterItem index now).Ensures
          { state with outcomes, items := between, lastEvent := some now }
          (fun _ left => ∃ items, left =
            { state with outcomes, items, lastEvent := some now, currentItem := some index } ∧
            Sweep delivery state.plan (ItemDelivery.Enters now) [index] between items)
          fun error _ => error.isLogic :=
      fun between hsuspend => delivery.ensures_enterItem_of_suspends hsuspend hclosed
    rw [ensures_ite]
    refine ⟨fun hother => ?_, fun hsame => ?_⟩
    · refine delivery.ensures_suspendCurrent.bind ?_ fun _ _ herror => .inl herror
      rintro _ _ ⟨between, rfl, hsuspend⟩
      rw [← if_pos (t := state.currentItem.toList) (e := []) hother] at hsuspend
      refine (hpresent between hsuspend).bind ?_ fun _ _ herror => .inl herror
      rintro _ _ ⟨items, rfl, henter⟩
      exact ⟨hstatus, part, testPart, index, outcomes, between, items, hcurrent, hactive, hpart,
        hmode, hindex, not_not.1 hpartOf, rfl, hsuspend, henter⟩
    · have hsuspend : Sweep delivery state.plan (ItemDelivery.Suspends now)
          (if state.currentItem ≠ some index then state.currentItem.toList else [])
          state.items state.items := by
        rw [if_neg hsame]
        exact .nil
      refine (hpresent state.items hsuspend).bind ?_ fun _ _ herror => .inl herror
      rintro _ _ ⟨items, rfl, henter⟩
      exact ⟨hstatus, part, testPart, index, outcomes, state.items, items, hcurrent, hactive, hpart,
        hmode, hindex, not_not.1 hpartOf, rfl, hsuspend, henter⟩

/-- An item that has to be answered first is not left. -/
theorem ensures_requireLeavable :
    (requireLeavable state).Ensures state (fun _ left => left = state)
      fun error left => error.isLogic ∨ left = state := by
  rw [requireLeavable]
  split
  next => rfl
  next current _ =>
    refine (TestAction.ensures_lookUp _).bind ?_ fun _ _ herror => .inl herror.1
    rintro place _ ⟨-, rfl⟩
    dsimp only
    rw [ensures_ite]
    exact ⟨fun _ => .inr rfl, fun _ => rfl⟩

/-- The next item is one of the part. -/
theorem yields_nextItem (part tries : Nat) (current : Option Nat) (log : NotificationLog) :
    Yields (delivery.nextItem state part tries current log)
      (fun next => ∀ index place, next.1 = some (index, place) →
        index ∈ state.plan.itemsUnder part ∧ state.plan.place index = .ok place)
      fun _ => True := by
  induction tries generalizing current log with
  | zero => exact nofun
  | succ tries ih =>
    rw [nextItem]
    split
    next => exact nofun
    next index hindex =>
      rw [yields_bind]
      cases hplace : state.plan.place index with
      | error error => trivial
      | ok place =>
        rw [yields_ok]
        dsimp only
        rw [yields_bind]
        cases delivery.conditionsHold state _ with
        | error error => trivial
        | ok result =>
          obtain ⟨holds, notes⟩ := result
          rw [yields_ok]
          dsimp only
          split
          next =>
            rintro _ _ ⟨⟩
            exact ⟨TestPlan.mem_of_nextItemInPart? hindex, hplace⟩
          next => exact ih _ _

/-- A session permits to advance, and the search for the next item comes to a result: an item, or
none at the end of the part. -/
structure AdvancesTo (delivery : TestDelivery) (state : TestState) (part : Nat)
    (next : Option (Nat × ItemPlace)) : Prop where
  /-- A part is under way. -/
  active : delivery.activePart.run.run state = (.ok part, state)
  /-- It is visited in order. -/
  linear : ∃ testPart, delivery.part state.plan part = .ok testPart ∧ testPart.navigation = .linear
  /-- The current item may be left. -/
  leavable : (requireLeavable state).run.run state = (.ok (), state)
  /-- The next item is found. -/
  search : ∃ log, delivery.nextItem state part (state.plan.itemsUnder part).length
    state.currentItem delivery.newLog = .ok (next, log)

/-- The next item that a session would advance to is closed. -/
def LeadsToClosed (delivery : TestDelivery) (state : TestState) (ref : Identifier) : Prop :=
  ∃ part index place session, delivery.AdvancesTo state part (some (index, place)) ∧
    place.ref = ref ∧ state.items.get? ref = some session ∧ session.status = .closed

/-- What is done before the next item is presented: time is counted, and the clock of the current
item stops. -/
def leave (delivery : TestDelivery) (now : Timestamp) : TestAction Unit := do
  touch now
  delivery.suspendCurrent now

/-- What becomes of the sessions of items when the current one is left. -/
theorem ensures_leave :
    (delivery.leave now).Ensures state
      (fun _ left => ∃ outcomes items,
        left = { state with outcomes, items, lastEvent := some now } ∧
        Sweep delivery state.plan (ItemDelivery.Suspends now) state.currentItem.toList state.items
          items)
      fun error _ => error.isLogic := by
  refine ensures_touch.bind ?_ fun _ _ herror => herror
  rintro _ _ ⟨outcomes, rfl⟩
  refine delivery.ensures_suspendCurrent.mono ?_ fun _ _ herror => herror
  rintro _ _ ⟨items, rfl, hsweep⟩
  exact ⟨outcomes, items, rfl, hsweep⟩

/-- An action that begins with leaving the current item. -/
theorem ensures_leave_bind {α : Type} (rest : Unit → TestAction α) {done : α → TestState → Prop}
    {failed : TestError → TestState → Prop} :
    (touch now >>= fun _ => delivery.suspendCurrent now >>= rest).Ensures state done failed ↔
      (delivery.leave now).Ensures state (fun a left => (rest a).Ensures left done failed)
        failed := by
  simp only [leave, ensures_bind]

/-- When the clock of the current item was stopped, the next item is presented, unless it was closed
before. -/
theorem ensures_enterItem_of_advancesTo {part index : Nat} {place : ItemPlace} {outcomes : Store}
    {between : SortedMap Identifier ItemState}
    (h : delivery.AdvancesTo state part (some (index, place)))
    (hsuspend : Sweep delivery state.plan (ItemDelivery.Suspends now) state.currentItem.toList
      state.items between) :
    (delivery.enterItem index now).Ensures
      { state with outcomes, items := between, lastEvent := some now }
      (fun _ left => ∃ items, left =
        { state with outcomes, items, lastEvent := some now, currentItem := some index } ∧
        Sweep delivery state.plan (ItemDelivery.Enters now) [index] between items)
      fun error left => error.isLogic ∨
        delivery.LeadsToClosed state place.ref ∧ error = .item place.ref .closed ∧
          left = { state with outcomes, items := between, lastEvent := some now } := by
  obtain ⟨log, hsearch⟩ := h.search
  obtain ⟨-, hplace⟩ :=
    (yields_iff.1 (delivery.yields_nextItem _ _ _ _)).1 _ hsearch index place rfl
  refine (delivery.ensures_enterItem index).mono (fun _ _ h => h) ?_
  rintro error _ (herror | ⟨_, session, hfound, hsession, hclosed, rfl, rfl⟩)
  · exact .inl herror
  · obtain rfl := Except.ok.inj (hplace.symm.trans hfound)
    -- Stopping a clock closes no session, so this one was closed before.
    obtain ⟨before, hbefore, hsame⟩ := hsuspend.exists_of_suspends hsession
    have hstatus := (congrArg ItemProgress.status hsame).trans hclosed
    exact .inr ⟨⟨part, index, place, before, h, rfl, hbefore, hstatus⟩, rfl, rfl⟩

/-- The next item is presented, and the clock of the one before stops. Where the next item is
closed, the clock has stopped already when the request is refused. -/
theorem ensures_advance :
    (delivery.advance now).Ensures state
      (fun _ left => ∃ part next outcomes between items, delivery.AdvancesTo state part next ∧
        left =
          { state with
            outcomes, items
            lastEvent := some now
            currentItem := next.map (·.1) } ∧
        Sweep delivery state.plan (ItemDelivery.Suspends now) state.currentItem.toList state.items
          between ∧
        Sweep delivery state.plan (ItemDelivery.Enters now) (next.map (·.1)).toList between items)
      fun error left => error.isLogic ∨
        (left = state ∧ ∀ part next, ¬delivery.AdvancesTo state part next) ∨
        ∃ ref, delivery.LeadsToClosed state ref ∧ error = .item ref .closed ∧
          (delivery.leave now).run.run state = (.ok (), left) := by
  refine (delivery.ensures_activePart.and (ensures_run _ _)).bind ?_ ?_
  · rintro part _ ⟨⟨-, -, -, rfl⟩, hactive⟩
    rw [ensures_bind, ensures_get]
    refine (TestAction.ensures_lookUp _).bind ?_ fun _ _ herror => .inl herror.1
    rintro testPart state ⟨hpart, rfl⟩
    have hsame : ∀ {other next}, delivery.AdvancesTo state other next → other = part := by
      intro other next h
      cases (h.active.symm.trans hactive)
      rfl
    rw [ensures_bind, requireMode, ensures_ite]
    refine ⟨fun hmode => ?_, fun hmode => ?_⟩
    · refine (ensures_requireLeavable.and (ensures_run _ _)).bind ?_ ?_
      · rintro _ state ⟨rfl, hleavable⟩
        refine (TestAction.ensures_lookUp _).bind ?_ fun _ _ herror => .inl herror.1
        rintro ⟨next, log⟩ state ⟨hsearch, rfl⟩
        -- No check is left but the one on the next item, which is made only when it is presented.
        have hadvances : delivery.AdvancesTo state part next :=
          ⟨hactive, ⟨testPart, hpart, hmode⟩, hleavable, log, hsearch⟩
        refine (delivery.ensures_leave_bind _).2 ((delivery.ensures_leave.and
          (ensures_run _ _)).mono ?_ fun _ _ herror => .inl herror.1)
        rintro _ _ ⟨⟨outcomes, between, rfl, hsuspend⟩, hrun⟩
        cases next with
        | none =>
          exact ⟨part, none, outcomes, between, between, hadvances, rfl, hsuspend, .nil⟩
        | some found =>
          obtain ⟨index, place⟩ := found
          refine (delivery.ensures_enterItem_of_advancesTo hadvances hsuspend).bind ?_ ?_
          · rintro _ _ ⟨items, rfl, henter⟩
            exact ⟨part, some (index, place), outcomes, between, items, hadvances, rfl, hsuspend,
              henter⟩
          · rintro error _ (herror | ⟨hclosed, hname, rfl⟩)
            · exact .inl herror
            · exact .inr (.inr ⟨place.ref, hclosed, hname, hrun⟩)
      · rintro error state ⟨hrefused, hrun⟩
        refine hrefused.imp_right fun hleft => .inl ⟨hleft, fun other next h => ?_⟩
        cases hrun.symm.trans h.leavable
    · refine .inr (.inl ⟨rfl, fun other next h => ?_⟩)
      obtain ⟨found, hfound, hlinear⟩ := h.linear
      rw [hsame h] at hfound
      cases hpart.symm.trans hfound
      exact hmode hlinear
  · rintro error left ⟨rfl, hrefused⟩
    refine .inr (.inl ⟨rfl, fun part next h => ?_⟩)
    cases hrefused.symm.trans h.active

/-! ### Submitting -/

/-- Responses go to the current item. In a part that is scored after each attempt, outcome
processing is run afterwards. -/
theorem ensures_respond (responses : SortedMap Identifier ResponseData) :
    (delivery.respond now responses).Ensures state
      (fun _ left => state.status = .interacting ∧
        ∃ part testPart current place outcomes ends passes outcomeRuns items,
          state.currentPart = some part ∧
          (∃ entry ∈ state.parts, entry.node = part ∧ entry.status = .interacting) ∧
          delivery.part state.plan part = .ok testPart ∧ state.currentItem = some current ∧
          state.plan.place current = .ok place ∧
          left =
            { state with
              outcomes, passes, outcomeRuns, items
              exitRequested := state.exitRequested || ends
              lastEvent := some now } ∧
          Sweep delivery state.plan
            (ItemDelivery.Attempts responses now (policy testPart.submission place.control))
            [current] state.items items)
      fun error left => error.isLogic ∨ left = state := by
  refine delivery.ensures_activePart.bind ?_ fun _ _ herror => .inr herror
  rintro part _ ⟨hstatus, hpart, hactive, rfl⟩
  rw [ensures_bind, ensures_get]
  split
  next => exact .inr rfl
  next current hcurrent =>
    refine (TestAction.ensures_lookUp _).bind ?_ fun _ _ herror => .inl herror.1
    rintro place _ ⟨hplace, rfl⟩
    refine (TestAction.ensures_lookUp _).bind ?_ fun _ _ herror => .inl herror.1
    rintro testPart _ ⟨htestPart, rfl⟩
    refine (delivery.ensures_session place).bind ?_ fun _ _ herror => .inl herror.1
    rintro session state ⟨⟨item, hitem⟩, hsession, rfl⟩
    dsimp only
    rw [ensures_ite, ensures_bind]
    refine ⟨fun _ => .inr rfl, fun _ => ?_⟩
    -- The attempt makes its own checks, and leaves the item as it was where they fail.
    have hattempt : (item.attempt responses now (policy testPart.submission place.control)).Ensures
        session (fun _ _ => True) fun error left => error.isLogic ∨ True ∧ left = session :=
      (item.ensures_attempt responses now _).mono (fun _ _ _ => trivial)
        fun _ _ h => h.imp_right fun h => ⟨trivial, h.2⟩
    refine (delivery.ensures_onItem hitem hsession hattempt).bind ?_ fun _ _ herror =>
      herror.imp_right (·.2)
    rintro log _ ⟨changed, hrun, rfl⟩
    have hsweep : Sweep delivery state.plan
        (ItemDelivery.Attempts responses now (policy testPart.submission place.control))
        [current] state.items (state.items.insert place.ref changed) :=
      .cons hplace hitem hsession ⟨log, hrun⟩ .nil
    refine ensures_touch.bind ?_ fun _ _ herror => .inl herror
    rintro _ _ ⟨outcomes, rfl⟩
    split
    next =>
      refine delivery.ensures_processOutcomes.bind ?_ fun _ _ herror => .inl herror
      rintro _ _ ⟨outcomes, ends, rfl⟩
      exact ⟨hstatus, part, testPart, current, place, outcomes, ends, _, _, _, hpart,
        hactive, htestPart, hcurrent, hplace, rfl, hsweep⟩
    next =>
      refine ⟨hstatus, part, testPart, current, place, outcomes, false, state.passes,
        state.outcomeRuns, _, hpart, hactive, htestPart, hcurrent, hplace, ?_, hsweep⟩
      rw [Bool.or_false]

/-! ### Ending parts -/

/-- A branch that is taken ends the test, or leads to a part that is still to come. -/
theorem yields_chooseBranch (rules : List BranchRule) (log : NotificationLog) :
    Yields (delivery.chooseBranch state rules log)
      (fun chosen => ∀ target, chosen.1 = some target →
        target.isExitTest = true ∨ isUpcoming state target = true) fun _ => True := by
  induction rules generalizing log with
  | nil => exact nofun
  | cons rule rest ih =>
    rw [chooseBranch, yields_bind]
    cases delivery.conditionsHold state [rule.expression] with
    | error error => trivial
    | ok result =>
      obtain ⟨holds, notes⟩ := result
      rw [yields_ok]
      dsimp only
      split
      next => exact ih _
      next =>
        split
        next hleads =>
          rintro _ ⟨⟩
          simpa using hleads
        next => exact ih _

/-- Following a branch ends the test, or changes where it goes on to the target. -/
theorem exists_follow (target : Option Identifier) (state : TestState) :
    ∃ pendingBranch ends,
      follow target state =
        { state with pendingBranch, exitRequested := state.exitRequested || ends } ∧
      (∀ name, pendingBranch = some name →
        state.pendingBranch = some name ∨ target = some name ∧ name.isExitTest = false) ∧
      ∀ name, target = some name → if name.isExitTest then ends = true
        else pendingBranch = some name := by
  unfold follow
  split
  next => exact ⟨state.pendingBranch, false, by rw [Bool.or_false], fun _ => .inl, nofun⟩
  next target =>
    split
    next hexit =>
      refine ⟨state.pendingBranch, true, by rw [Bool.or_true], fun _ => .inl, ?_⟩
      rintro _ ⟨⟩
      rw [if_pos hexit]
    next hexit =>
      refine ⟨some target, false, by rw [Bool.or_false], ?_, ?_⟩
      · rintro _ ⟨⟩
        exact .inr ⟨rfl, Bool.eq_false_iff.2 hexit⟩
      · rintro _ ⟨⟩
        rw [if_neg hexit]

/-- The part that is under way ends. What waits for it is scored, then outcome processing is run,
and then all items of the part are closed. A branch that is taken leads to a part that is still to
come. -/
theorem ensures_endPart_processes :
    (delivery.endPart now).Ensures state
      (fun step left => state.status = .interacting ∧
        ∃ part testPart outcomes between scored notes processed items pendingBranch ends,
          state.currentPart = some part ∧
          (∃ entry ∈ state.parts, entry.node = part ∧ entry.status = .interacting) ∧
          delivery.part state.plan part = .ok testPart ∧
          (delivery.leave now).run.run state =
            (.ok (), { state with outcomes, items := between, lastEvent := some now }) ∧
          Sweep delivery state.plan (ItemDelivery.Suspends now) state.currentItem.toList
            state.items between ∧
          Sweep delivery state.plan (ItemDelivery.Scores now testPart.submission)
            (state.plan.itemsUnder part) between scored ∧
          delivery.processOutcomes.run.run
            { state with outcomes, items := scored, lastEvent := some now } =
              (.ok notes, processed) ∧
          Sweep delivery state.plan (ItemDelivery.Ends now) (state.plan.itemsUnder part) scored
            items ∧
          left =
            { processed with
              items, pendingBranch
              exitRequested := processed.exitRequested || ends
              parts := endAt part now state.parts
              currentPart := none
              currentItem := none } ∧
          (∀ target, pendingBranch = some target → state.pendingBranch = some target ∨
            ∃ entry ∈ endAt part now state.parts, entry.identifier = target ∧
              entry.status = .notEntered) ∧
          ∀ target, step.outcome = some target → if target.isExitTest then ends = true
            else pendingBranch = some target)
      fun error left => error.isLogic ∨ left = state := by
  refine delivery.ensures_activePart.bind ?_ fun _ _ herror => .inr herror
  rintro part _ ⟨hstatus, hpart, hactive, rfl⟩
  rw [ensures_bind, ensures_get]
  dsimp only
  refine (TestAction.ensures_lookUp _).bind ?_ fun _ _ herror => .inl herror.1
  rintro testPart state ⟨htestPart, rfl⟩
  refine (delivery.ensures_leave_bind _).2
    ((delivery.ensures_leave.and (ensures_run _ _)).mono ?_ fun _ _ herror => .inl herror.1)
  rintro _ _ ⟨⟨outcomes, between, rfl, hsuspend⟩, hleave⟩
  refine (delivery.ensures_scoreItems _ _ _).bind ?_ fun _ _ herror => .inl herror
  rintro log _ ⟨scored, rfl, hscore⟩
  refine (delivery.ensures_processOutcomes.and (ensures_run _ _)).bind ?_
    fun _ _ herror => .inl herror.1
  rintro notes _ ⟨⟨after, ends, rfl⟩, hprocess⟩
  refine (delivery.ensures_closeItems _).bind ?_ fun _ _ herror => .inl herror
  rintro _ _ ⟨items, rfl, hclose⟩
  rw [ensures_bind, ensures_modify, ensures_bind, ensures_get]
  refine (TestAction.ensures_lookUp _).bind ?_ fun _ _ herror => .inl herror.1
  rintro ⟨target, log⟩ ended ⟨hchosen, rfl⟩
  dsimp only
  rw [ensures_bind, ensures_modify]
  obtain ⟨pendingBranch, branchEnds, hfollow, hpending, htaken⟩ := exists_follow target
    { state with
      outcomes := after
      items
      exitRequested := state.exitRequested || ends
      passes := state.passes + 1
      outcomeRuns := state.outcomeRuns + 1
      lastEvent := some now
      parts := endAt part now state.parts
      currentPart := none
      currentItem := none }
  rw [hfollow]
  refine ⟨hstatus, part, testPart, outcomes, between, scored, notes, _, items, pendingBranch,
    branchEnds, hpart, hactive, htestPart, hleave, hsuspend, hscore, hprocess, hclose, rfl,
    fun name hname => ?_, htaken⟩
  refine (hpending name hname).imp_right ?_
  rintro ⟨htarget, hexit⟩
  have hleads := (yields_iff.1 (delivery.yields_chooseBranch _ _)).1 _ hchosen name htarget
  rw [hexit, isUpcoming, List.any_eq_true] at hleads
  obtain ⟨entry, hentry, hfound⟩ := hleads.resolve_left Bool.false_ne_true
  exact ⟨entry, hentry, of_decide_eq_true hfound⟩

/-- The part that is under way ends: what waits for it is scored, and all its items are closed. A
branch that is taken leads to a part that is still to come. -/
theorem ensures_endPart :
    (delivery.endPart now).Ensures state
      (fun step left => state.status = .interacting ∧
        ∃ part testPart outcomes ends passes outcomeRuns pendingBranch between scored items,
          state.currentPart = some part ∧
          (∃ entry ∈ state.parts, entry.node = part ∧ entry.status = .interacting) ∧
          delivery.part state.plan part = .ok testPart ∧
          left =
            { state with
              outcomes, passes, outcomeRuns, pendingBranch, items
              exitRequested := state.exitRequested || ends
              lastEvent := some now
              parts := endAt part now state.parts
              currentPart := none
              currentItem := none } ∧
          Sweep delivery state.plan (ItemDelivery.Suspends now) state.currentItem.toList
            state.items between ∧
          Sweep delivery state.plan (ItemDelivery.Scores now testPart.submission)
            (state.plan.itemsUnder part) between scored ∧
          Sweep delivery state.plan (ItemDelivery.Ends now) (state.plan.itemsUnder part) scored
            items ∧
          (∀ target, pendingBranch = some target → state.pendingBranch = some target ∨
            ∃ entry ∈ endAt part now state.parts, entry.identifier = target ∧
              entry.status = .notEntered) ∧
          ∀ target, step.outcome = some target → if target.isExitTest then ends = true
            else pendingBranch = some target)
      fun error left => error.isLogic ∨ left = state := by
  refine delivery.ensures_endPart_processes.mono ?_ fun _ _ h => h
  rintro _ _ ⟨hstatus, part, testPart, _, between, scored, _, _, items, pendingBranch, branchEnds,
    hpart, hactive, htestPart, -, hsuspend, hscore, hprocess, hclose, rfl, hpending, htaken⟩
  obtain ⟨outcomes, ends, rfl⟩ := delivery.ensures_processOutcomes.ok hprocess
  refine ⟨hstatus, part, testPart, outcomes, ends || branchEnds, state.passes + 1,
    state.outcomeRuns + 1, pendingBranch, between, scored, items, hpart, hactive, htestPart, ?_,
    hsuspend, hscore, hclose, hpending,
    fun name hname => ?_⟩
  · rw [Bool.or_assoc]
  · have hends := htaken name hname
    split at hends
    next hexit => rw [if_pos hexit, hends, Bool.or_true]
    next hexit => rwa [if_neg hexit]

end TestDelivery

/-! ### Small tests -/

/-- A test with one part that has one item, which may be attempted once. -/
def TestDefinition.single (navigation : NavigationMode) (submission : SubmissionMode) :
    TestDefinition :=
  let name : Identifier := ⟨"Q", by decide +kernel⟩
  let ref : ItemRef := ⟨name, name, [], [], none, []⟩
  let head : SectionHead := ⟨⟨"S", by decide +kernel⟩, "", true, none⟩
  { identifier := ⟨"T", by decide +kernel⟩
    title := ""
    outcomes := []
    outcomeProcessing := []
    parts := [⟨⟨"P", by decide +kernel⟩, navigation, submission, [], [],
      some ⟨some 1, none, none⟩, [⟨head, [.itemRef ref]⟩]⟩]
    items := [.bare name] }

/-- The test with one item, with an engine that has no extensions. Digests are only compared, so any
will do. -/
def TestDelivery.single (navigation : NavigationMode) (submission : SubmissionMode) :
    TestDelivery :=
  let definition := TestDefinition.single navigation submission
  ⟨definition, ⟨.empty, .default⟩, ⟨.sha256, "test"⟩,
    .ofList (definition.items.map fun item => (item.identifier, ⟨.sha256, "item"⟩))⟩

/-- A test with one part of two items, which are visited in order and controlled alike. Both are
sessions of the same item, with some response variables. -/
def TestDefinition.pair (control : ItemSessionControl) (responses : List ResponseDeclaration) :
    TestDefinition :=
  let item : ItemDefinition := { ItemDefinition.bare ⟨"Q", by decide +kernel⟩ with responses }
  let head : SectionHead := ⟨⟨"S", by decide +kernel⟩, "", true, none⟩
  let ref (name : Identifier) : SectionPart := .itemRef ⟨name, item.identifier, [], [], none, []⟩
  { identifier := ⟨"T", by decide +kernel⟩
    title := ""
    outcomes := []
    outcomeProcessing := []
    parts := [⟨⟨"P", by decide +kernel⟩, .linear, .individual, [], [], some control,
      [⟨head, [ref ⟨"Q1", by decide +kernel⟩, ref ⟨"Q2", by decide +kernel⟩]⟩]⟩]
    items := [item] }

/-- The test with two items, with an engine that has no extensions. -/
def TestDelivery.pair (control : ItemSessionControl) (responses : List ResponseDeclaration) :
    TestDelivery :=
  let definition := TestDefinition.pair control responses
  ⟨definition, ⟨.empty, .default⟩, ⟨.sha256, "test"⟩,
    .ofList (definition.items.map fun item => (item.identifier, ⟨.sha256, "item"⟩))⟩

end Assessment
