import Assessment.Proofs.Item.Maintained
import Assessment.Proofs.Test.Run

/-!
# The clocks of items

Presenting an item starts the clock of its session, and leaving it stops the clock. At any time at
most one clock runs, that of the current item, and only while its session is under way. The time of
the other items stands still.

Two things are to be said about this. Where advancing is refused because the next item is closed,
the clock of the current item has been stopped although the item stays the current one; it runs
again from the next item that is presented. And an item that declares a response variable under the
name of the duration has its time put to the default of that variable by template processing.

## Main definitions

- `TestPlan.OneClock`: no clock runs but that of the current item.
- `TestPlan.Ticks`: the clock of the current item runs.
- `TestCall.Misses`: a call to advance that is refused because the next item is closed.

## Main results

- `TestDelivery.Staged.ensures_serve_oneClock`: what becomes of clocks when a request is served.
- `TestDelivery.Staged.ensures_serve_spent`: the time of items that are not current stands still.
- `TestDelivery.Run.one_clock_runs`: of clocks and times in a run.
-/

namespace Assessment

open Action

/-! ### Clocks of sessions -/

namespace ItemState

variable {before between after : ItemState}

/-- The value that stands for the time that was counted. -/
def spent (state : ItemState) : Option Value :=
  state.responses.get? BuiltIn.duration.identifier

/-- No clock was started: a clock that runs ran before, in a session that stood where it stands. -/
def StartsNoClock (before after : ItemState) : Prop :=
  after.lastEvent.isSome = true →
    before.lastEvent.isSome = true ∧ after.status = before.status

/-- A clock that did not run was not started, and no time was counted for it. -/
def Idles (before after : ItemState) : Prop :=
  before.lastEvent = none → after.lastEvent = none ∧ after.spent = before.spent

theorem Idles.refl (state : ItemState) : state.Idles state := fun h => ⟨h, rfl⟩

theorem Idles.trans (h : before.Idles between) (h' : between.Idles after) : before.Idles after := by
  intro hrests
  obtain ⟨hbetween, hsame⟩ := h hrests
  obtain ⟨hafter, hsame'⟩ := h' hbetween
  exact ⟨hafter, hsame'.trans hsame⟩

theorem KeepsClock.startsNoClock (h : before.KeepsClock after) : before.StartsNoClock after := by
  intro hruns
  obtain ⟨hstatus, hclock⟩ | ⟨-, hclock⟩ := h
  · exact ⟨hclock.symm.trans hruns, hstatus⟩
  · rw [hclock] at hruns
    cases hruns

theorem Sustains.spent {names : List Identifier} (h : before.Sustains names after)
    (hname : BuiltIn.duration.identifier ∉ names) (hrests : before.lastEvent = none) :
    after.spent = before.spent :=
  h.maintained .duration rfl hname fun _ => hrests

theorem Sustains.idles {names : List Identifier} (h : before.Sustains names after)
    (hname : BuiltIn.duration.identifier ∉ names) : before.Idles after :=
  fun hrests => ⟨h.clock.rests hrests, h.spent hname hrests⟩

end ItemState

/-! ### Clocks when sessions move on -/

namespace ItemDelivery

variable {item : ItemDelivery} {before after : ItemState} {now : Timestamp}

theorem Prepares.sustains (h : item.Prepares before after) :
    before.Sustains (item.definition.responses.map (·.identifier)) after := by
  unfold Prepares at h
  split at h
  next => exact h ▸ .refl _ _
  next =>
    obtain ⟨log, hrun⟩ := h
    exact item.sustained_processTemplate.ok hrun

/-- The clock runs when an item is presented. No time is counted where it did not run before. -/
theorem Enters.starts (h : Enters now item before after) :
    after.lastEvent.isSome = true ∧ (before.lastEvent = none → after.spent = before.spent) := by
  have henter : (item.enter now).Ensures before
      (fun _ left => left.lastEvent.isSome = true ∧
        (before.lastEvent = none → left.spent = before.spent)) fun _ _ => True := by
    refine Ensures.bind item.leaves_check ?_ fun _ _ _ => trivial
    rintro _ state rfl
    rw [ensures_bind, ensures_get]
    split
    next => trivial
    next =>
      rw [ensures_bind, ensures_set, ensures_ite]
      refine ⟨fun _ => ?_, fun _ => ⟨rfl, fun _ => rfl⟩⟩
      refine Ensures.mono (ItemAction.leaves_setCompletion _) ?_ fun _ _ _ => trivial
      rintro _ _ ⟨outcomes, -, rfl⟩
      exact ⟨rfl, fun _ => rfl⟩
    next =>
      refine Ensures.bind (item.sustained_touch [] now) ?_ fun _ _ _ => trivial
      intro _ touched htouched
      refine ⟨?_, fun hrests => htouched.spent List.not_mem_nil hrests⟩
      show (touched.lastEvent <|> some now).isSome = true
      cases touched.lastEvent <;> rfl
  exact henter.ok h

/-- Leaving an item stops its clock, if the session is under way. No time is counted where it did
not run. -/
theorem Suspends.stops (h : Suspends now item before after) :
    (before.status = .interacting → after.lastEvent = none) ∧ before.Idles after := by
  have hsuspend : (item.suspend now).Ensures before
      (fun _ left => left.lastEvent = none ∧
        (before.lastEvent = none → left.spent = before.spent)) fun _ _ => True := by
    refine Ensures.bind item.leaves_check ?_ fun _ _ _ => trivial
    rintro _ _ rfl
    refine Ensures.bind leaves_requireInteracting ?_ fun _ _ _ => trivial
    rintro _ _ rfl
    refine Ensures.bind (item.sustained_touch [] now) ?_ fun _ _ _ => trivial
    intro _ touched htouched
    exact ⟨rfl, fun hrests => htouched.spent List.not_mem_nil hrests⟩
  unfold Suspends at h
  split at h
  next =>
    obtain ⟨hstopped, hspent⟩ := hsuspend.ok h
    exact ⟨fun _ => hstopped, fun hrests => ⟨hstopped, hspent hrests⟩⟩
  next hstatus =>
    subst h
    exact ⟨fun h => absurd h hstatus, .refl _⟩

theorem Suspends.startsNoClock (h : Suspends now item before after) :
    before.StartsNoClock after := by
  intro hruns
  have hstatus : after.status = before.status := congrArg ItemProgress.status h.progress
  by_cases hinteracting : before.status = .interacting
  · rw [h.stops.1 hinteracting] at hruns
    cases hruns
  · rw [Suspends, if_neg hinteracting] at h
    subst h
    exact ⟨hruns, rfl⟩

theorem Attempts.keepsClock {responses : SortedMap Identifier ResponseData}
    {policy : SubmissionPolicy} (h : Attempts responses now policy item before after) :
    before.KeepsClock after := by
  obtain ⟨log, hrun⟩ := h
  exact ((item.ensures_attempt_counts responses now policy).ok hrun).1

theorem Scores.sustains {mode : SubmissionMode} (h : Scores now mode item before after) :
    before.Sustains [] after := by
  obtain ⟨-, log, hrun⟩ | ⟨-, rfl⟩ := h
  · exact ((item.ensures_processResponse_sustains 0 now).ok hrun).1
  · exact .refl _ _

theorem Ends.sustains (h : Ends now item before after) : before.Sustains [] after := by
  unfold Ends at h
  split at h
  next => exact h ▸ .refl _ _
  next => exact (item.sustained_endSession [] now).ok h

end ItemDelivery

/-! ### Clocks of the items of a test -/

/-- No clock runs but that of the current item, and only while its session is under way. -/
def TestPlan.OneClock (plan : TestPlan) (current : Option Nat)
    (items : SortedMap Identifier ItemState) : Prop :=
  ∀ ref session, items.get? ref = some session → session.lastEvent.isSome = true →
    session.status = .interacting ∧
      ∃ index place, current = some index ∧ plan.place index = .ok place ∧ place.ref = ref

/-- The clock of the current item runs while its session is under way. -/
def TestPlan.Ticks (plan : TestPlan) (current : Option Nat)
    (items : SortedMap Identifier ItemState) : Prop :=
  ∀ index place session, current = some index → plan.place index = .ok place →
    items.get? place.ref = some session → session.status = .interacting →
    session.lastEvent.isSome = true

namespace TestDelivery

variable {delivery : TestDelivery} {plan : TestPlan} {now : Timestamp} {current : Option Nat}
  {indices : List Nat} {index : Nat} {items left : SortedMap Identifier ItemState}
  {moves : ItemDelivery → ItemState → ItemState → Prop}

theorem Sweep.eq_of_nil (h : Sweep delivery plan moves [] items left) : left = items := by
  cases h
  rfl

/-- Moves that count no time for a session whose clock does not run leave its time as it is. -/
theorem Sweep.exists_idle (h : Sweep delivery plan moves indices items left)
    (hmoves : ∀ {item session changed}, moves item session changed → session.Idles changed)
    {ref : Identifier} {session : ItemState} (hsession : items.get? ref = some session)
    (hrests : session.lastEvent = none) :
    ∃ rested, left.get? ref = some rested ∧ rested.lastEvent = none ∧
      rested.spent = session.spent := by
  obtain ⟨rested, hrested, hidle⟩ := (h.pointwise .refl .trans hmoves).exists_right hsession
  exact ⟨rested, hrested, hidle hrests⟩

/-- A sweep over one item changes its session and no other. -/
theorem Sweep.exists_of_singleton (h : Sweep delivery plan moves [index] items left) :
    ∃ place item session changed, plan.place index = .ok place ∧
      delivery.itemDelivery place = .ok item ∧ items.get? place.ref = some session ∧
      moves item session changed ∧ left = items.insert place.ref changed := by
  cases h with
  | cons hplace hitem hsession hmoves hrest =>
    cases hrest
    exact ⟨_, _, _, _, hplace, hitem, hsession, hmoves, rfl⟩

end TestDelivery

namespace TestPlan

open TestDelivery

variable {delivery : TestDelivery} {plan : TestPlan} {now : Timestamp} {current : Option Nat}
  {indices : List Nat} {index : Nat} {items left : SortedMap Identifier ItemState}
  {moves : ItemDelivery → ItemState → ItemState → Prop}

/-- Where a clock runs, the item is the current one. -/
theorem OneClock.isCurrent (h : plan.OneClock current items)
    (hdistinct : ∀ {i j : Nat} {place place' : ItemPlace}, plan.place i = .ok place →
      plan.place j = .ok place' → place.ref = place'.ref → i = j)
    {place : ItemPlace} {session : ItemState} (hplace : plan.place index = .ok place)
    (hsession : items.get? place.ref = some session) (hruns : session.lastEvent.isSome = true) :
    current = some index ∧ session.status = .interacting := by
  obtain ⟨hstatus, running, place', rfl, hplace', href⟩ := h _ _ hsession hruns
  rw [hdistinct hplace' hplace href]
  exact ⟨rfl, hstatus⟩

/-- Where no clock runs, any item may be the current one. -/
theorem OneClock.of_none (h : plan.OneClock none items) : plan.OneClock current items := by
  intro ref session hsession hruns
  obtain ⟨_, _, _, ⟨⟩, -⟩ := h ref session hsession hruns

theorem OneClock.sweep (h : plan.OneClock current items)
    (hsweep : Sweep delivery plan moves indices items left)
    (hmoves : ∀ {item session changed}, moves item session changed →
      session.StartsNoClock changed) : plan.OneClock current left := by
  refine hsweep.forall_get? (fun ref item session changed hmove hbefore hruns => ?_) h
  obtain ⟨hran, hstatus⟩ := hmoves hmove hruns
  rw [hstatus]
  exact hbefore hran

/-- No clock runs once the current item was left. -/
theorem OneClock.suspend (h : plan.OneClock current items)
    (hsweep : Sweep delivery plan (ItemDelivery.Suspends now) current.toList items left) :
    plan.OneClock none left := by
  intro ref session hsession hruns
  have hclock := h.sweep hsweep ItemDelivery.Suspends.startsNoClock
  obtain ⟨hstatus, index, place, rfl, hplace, rfl⟩ := hclock ref session hsession hruns
  -- The session of the current item is the one whose clock was stopped.
  obtain ⟨place', item, before, after, hplace', -, -, hmove, rfl⟩ := hsweep.exists_of_singleton
  obtain rfl := Except.ok.inj (hplace.symm.trans hplace')
  rw [SortedMap.get?_insert_self] at hsession
  cases hsession
  have hsame : session.status = before.status := congrArg ItemProgress.status hmove.progress
  rw [hmove.stops.1 (hsame.symm.trans hstatus)] at hruns
  cases hruns

/-- Presenting the current item starts its clock, where no other runs. -/
theorem OneClock.enter (h : plan.OneClock (some index) items)
    (hsweep : Sweep delivery plan (ItemDelivery.Enters now) [index] items left) :
    plan.OneClock (some index) left ∧ plan.Ticks (some index) left := by
  obtain ⟨place, item, before, after, hplace, -, -, hmove, rfl⟩ := hsweep.exists_of_singleton
  refine ⟨fun ref session hsession hruns => ?_, ?_⟩
  · obtain ⟨rfl, rfl⟩ | hsession := SortedMap.eq_or_get?_of_insert hsession
    · exact ⟨congrArg ItemProgress.status hmove.progress, index, place, rfl, hplace, rfl⟩
    · exact h ref session hsession hruns
  · rintro _ place' session ⟨⟩ hplace' hsession -
    obtain rfl := Except.ok.inj (hplace.symm.trans hplace')
    rw [SortedMap.get?_insert_self] at hsession
    cases hsession
    exact hmove.starts.1

/-- An attempt leaves the clock of the current item running, unless the session is closed by it. -/
theorem Ticks.attempt {responses : SortedMap Identifier ResponseData} {policy : SubmissionPolicy}
    (h : plan.Ticks (some index) items)
    (hsweep : Sweep delivery plan (ItemDelivery.Attempts responses now policy) [index] items left) :
    plan.Ticks (some index) left := by
  obtain ⟨place, item, before, after, hplace, -, hbefore, hmove, rfl⟩ := hsweep.exists_of_singleton
  rintro _ place' session ⟨⟩ hplace' hsession hstatus
  obtain rfl := Except.ok.inj (hplace.symm.trans hplace')
  rw [SortedMap.get?_insert_self] at hsession
  cases hsession
  obtain ⟨hsame, hclock⟩ | ⟨hclosed, -⟩ := hmove.keepsClock
  · rw [hclock]
    exact h index place before rfl hplace hbefore (hsame.symm.trans hstatus)
  · cases hstatus.symm.trans hclosed

theorem ticks_none (plan : TestPlan) (items : SortedMap Identifier ItemState) :
    plan.Ticks none items := by
  intro index place session hcurrent
  cases hcurrent

end TestPlan

/-! ### Requests -/

/-- A call presented an item, or it went past the last one. -/
def TestCall.Visits (call : TestCall) : Prop :=
  call.served = true ∧ call.request.isVisit = true

namespace TestDelivery

/-- A request is to advance, and the next item is closed. -/
def Misses (delivery : TestDelivery) (state : TestState) (request : TestRequest) : Prop :=
  ∃ now ref, request = .advance now ∧ delivery.LeadsToClosed state ref

/-- Every call to advance that was refused because the next item was closed has an accepted visit
behind it. -/
def Resumed (delivery : TestDelivery) (calls : List TestCall) : Prop :=
  ∀ earlier call later, calls = earlier ++ call :: later → call.served = false →
    delivery.Misses call.before call.request → ∃ visit ∈ later, visit.Visits

theorem Resumed.of_cons {delivery : TestDelivery} {call : TestCall} {calls : List TestCall}
    (h : delivery.Resumed (call :: calls)) : delivery.Resumed calls := by
  intro earlier missed later hcalls
  refine h (call :: earlier) missed later ?_
  rw [hcalls, List.cons_append]

variable {delivery : TestDelivery} {state left : TestState} {seed : UInt64} {index : Nat}
  {place : ItemPlace} {session : ItemState}

/-- The session of an item has no clock before the item is presented. -/
theorem Created.lastEvent_eq_none (h : Created delivery seed state) {ref : Identifier}
    (hsession : state.items.get? ref = some session) : session.lastEvent = none := by
  obtain ⟨created, hitems, hcreated⟩ := h.items
  rw [hitems] at hsession
  obtain ⟨k, hk, hget⟩ := List.getElem_of_mem (SortedMap.mem_of_get?_ofList hsession)
  obtain ⟨hlength, hall⟩ := List.forall₂_iff_get.1 hcreated
  obtain ⟨_, item, _, -, -, hcreate, -, hpair⟩ := exists_of_createItem (hall k (hlength ▸ hk) hk)
  rw [List.get_eq_getElem, hget] at hpair
  cases hpair
  obtain ⟨_, hnew, -⟩ := item.exists_create _
  cases hcreate.symm.trans hnew
  cases hcreate
  rfl

/-- No request starts a clock but that of the item that it presents. A request that is served keeps
the clock of the current item running, and starts it if it presents the item. -/
theorem Staged.ensures_serve_oneClock (h : delivery.Staged state)
    (hclock : state.plan.OneClock state.currentItem state.items) (request : TestRequest) :
    (delivery.serve request).Ensures state
      (fun _ left => left.plan.OneClock left.currentItem left.items ∧
        (state.plan.Ticks state.currentItem state.items ∨ request.isVisit = true →
          left.plan.Ticks left.currentItem left.items))
      fun error left => error.isLogic ∨ left = state ∨
        delivery.Misses state request ∧ left.plan.OneClock left.currentItem left.items := by
  have hsame : ∀ {error : TestError} {left : TestState}, error.isLogic ∨ left = state →
      error.isLogic ∨ left = state ∨
        delivery.Misses state request ∧ left.plan.OneClock left.currentItem left.items :=
    fun herror => herror.imp_right .inl
  cases request with
  | enterTest now =>
    rw [serve, ensures_map]
    refine delivery.ensures_enterTest.mono ?_ fun _ _ => hsame
    rintro _ _ ⟨-, outcomes, rfl⟩
    exact ⟨hclock, fun hticks => hticks.resolve_right Bool.false_ne_true⟩
  | enterPart now =>
    rw [serve, ensures_map]
    refine (delivery.ensures_enterPart h.prepared_of_closed).mono ?_ fun _ _ => hsame
    rintro _ _ ⟨-, hnone, -, _, _, _, _, _, _, -, -, -, -, rfl, hsweep⟩
    rw [h.currentItem_eq_none hnone] at hclock
    refine ⟨hclock.sweep hsweep fun hmove => ?_, fun _ => TestPlan.ticks_none _ _⟩
    exact hmove.sustains.clock.startsNoClock
  | select now ref =>
    rw [serve, ensures_map]
    refine (delivery.ensures_select ref).mono ?_ fun _ _ => hsame
    rintro _ _ ⟨-, _, _, presented, _, between, _, -, -, -, -, -, -, rfl, hsuspend, henter⟩
    have hbetween : state.plan.OneClock (some presented) between := by
      split at hsuspend
      next => exact (hclock.suspend hsuspend).of_none
      next hcurrent =>
        rw [hsuspend.eq_of_nil, ← not_not.1 hcurrent]
        exact hclock
    obtain ⟨hone, hticks⟩ := hbetween.enter henter
    exact ⟨hone, fun _ => hticks⟩
  | advance now =>
    rw [serve, ensures_map]
    refine delivery.ensures_advance.mono ?_ ?_
    · rintro _ _ ⟨_, next, _, between, items, -, rfl, hsuspend, henter⟩
      have hbetween := hclock.suspend hsuspend
      dsimp only
      cases hnext : next.map (·.1) with
      | none =>
        rw [hnext] at henter
        rw [henter.eq_of_nil]
        exact ⟨hbetween, fun _ => TestPlan.ticks_none _ _⟩
      | some presented =>
        rw [hnext] at henter
        obtain ⟨hone, hticks⟩ := hbetween.of_none.enter henter
        exact ⟨hone, fun _ => hticks⟩
    · rintro error left (herror | ⟨rfl, -⟩ | ⟨ref, hclosed, -, hrun⟩)
      · exact .inl herror
      · exact .inr (.inl rfl)
      · obtain ⟨outcomes, items, rfl, hsuspend⟩ := delivery.ensures_leave.ok hrun
        exact .inr (.inr ⟨⟨now, ref, rfl, hclosed⟩, (hclock.suspend hsuspend).of_none⟩)
  | respond now responses =>
    rw [serve, ensures_map]
    refine (delivery.ensures_respond responses).mono ?_ fun _ _ => hsame
    rintro _ _ ⟨-, _, _, current, _, _, _, _, _, _, -, -, -, hcurrent, -, rfl, hsweep⟩
    refine ⟨hclock.sweep hsweep fun hmove => hmove.keepsClock.startsNoClock, fun hticks => ?_⟩
    replace hticks := hticks.resolve_right Bool.false_ne_true
    show state.plan.Ticks state.currentItem _
    rw [hcurrent] at hticks ⊢
    exact hticks.attempt hsweep
  | endPart now =>
    rw [serve, ensures_map]
    refine delivery.ensures_endPart.mono ?_ fun _ _ => hsame
    rintro _ _ ⟨-, _, _, _, _, _, _, _, _, _, _, -, -, -, rfl, hsuspend, hscore, hclose, -⟩
    have hscored := (hclock.suspend hsuspend).sweep hscore fun hmove =>
      hmove.sustains.clock.startsNoClock
    refine ⟨hscored.sweep hclose fun hmove => ?_, fun _ => TestPlan.ticks_none _ _⟩
    exact hmove.sustains.clock.startsNoClock
  | exit now =>
    rw [serve, ensures_map]
    refine delivery.ensures_exit.mono ?_ fun _ _ => hsame
    rintro _ _ ⟨-, -, outcomes, rfl⟩
    exact ⟨hclock, fun hticks => hticks.resolve_right Bool.false_ne_true⟩

/-- The item at a place declares a response variable under the name of the duration. -/
def DeclaresDuration (delivery : TestDelivery) (place : ItemPlace) : Prop :=
  ∃ item, delivery.itemDelivery place = .ok item ∧
    BuiltIn.duration.identifier ∈ item.definition.responses.map (·.identifier)

/-- The time of a session is the same after a move that presents its item, if the clock did not
run. -/
theorem Sweep.exists_spent {plan : TestPlan} {indices : List Nat}
    {items left : SortedMap Identifier ItemState} {now : Timestamp}
    (h : Sweep delivery plan (ItemDelivery.Enters now) indices items left)
    (hdistinct : ∀ {i j : Nat} {place place' : ItemPlace}, plan.place i = .ok place →
      plan.place j = .ok place' → place.ref = place'.ref → i = j)
    (hnodup : indices.Nodup) (hplace : plan.place index = .ok place)
    (hsession : items.get? place.ref = some session) (hrests : session.lastEvent = none) :
    ∃ later, left.get? place.ref = some later ∧ later.spent = session.spent := by
  by_cases hindex : index ∈ indices
  · obtain ⟨item, before, after, -, hbefore, hafter, hmove⟩ :=
      h.exists_moves hdistinct hnodup hindex hplace
    obtain rfl := Option.some.inj (hsession.symm.trans hbefore)
    exact ⟨after, hafter, hmove.starts.2 hrests⟩
  · exact ⟨session, (h.get?_of_not_mem hdistinct hindex hplace).trans hsession, rfl⟩

/-- Template processing changes the time of a session only if it was not prepared before, and the
item declares a variable of that name. -/
theorem Sweep.exists_spent_of_prepares {plan : TestPlan} {indices : List Nat}
    {items left : SortedMap Identifier ItemState}
    (h : Sweep delivery plan ItemDelivery.Prepares indices items left)
    (hdistinct : ∀ {i j : Nat} {place place' : ItemPlace}, plan.place i = .ok place →
      plan.place j = .ok place' → place.ref = place'.ref → i = j)
    (hnodup : indices.Nodup) (hplace : plan.place index = .ok place)
    (hsession : items.get? place.ref = some session) (hrests : session.lastEvent = none) :
    ∃ later, left.get? place.ref = some later ∧ (later.spent = session.spent ∨
      session.templateProcessed = false ∧ delivery.DeclaresDuration place) := by
  by_cases hindex : index ∈ indices
  · obtain ⟨item, before, after, hitem, hbefore, hafter, hmove⟩ :=
      h.exists_moves hdistinct hnodup hindex hplace
    obtain rfl := Option.some.inj (hsession.symm.trans hbefore)
    refine ⟨after, hafter, ?_⟩
    by_cases hprepared : session.templateProcessed = true
    · rw [ItemDelivery.Prepares, if_pos hprepared] at hmove
      exact .inl (congrArg ItemState.spent hmove)
    by_cases hdeclares :
        BuiltIn.duration.identifier ∈ item.definition.responses.map (·.identifier)
    · exact .inr ⟨Bool.eq_false_iff.2 hprepared, item, hitem, hdeclares⟩
    · exact .inl (hmove.sustains.spent hdeclares hrests)
  · exact ⟨session, (h.get?_of_not_mem hdistinct hindex hplace).trans hsession, .inl rfl⟩

section distinct

variable (hdistinct : (delivery.definition.itemRefs.map ItemRef.identifier).Nodup)

include hdistinct

/-- No request counts time for an item but the current one. Its time is changed only by template
processing, where the item declares a variable of that name. -/
theorem Staged.ensures_serve_spent (h : delivery.Staged state)
    (hclock : state.plan.OneClock state.currentItem state.items)
    (hplace : state.plan.place index = .ok place) (hother : state.currentItem ≠ some index)
    (hsession : state.items.get? place.ref = some session) (request : TestRequest) :
    (delivery.serve request).Ensures state
      (fun _ left => ∃ later, left.items.get? place.ref = some later ∧
        (later.spent = session.spent ∨ request.isEnterPart = true ∧
          session.templateProcessed = false ∧ delivery.DeclaresDuration place))
      fun error left => error.isLogic ∨ ∃ later, left.items.get? place.ref = some later ∧
        later.spent = session.spent := by
  have hplaces := @TestPlan.eq_of_place_ref _ _ h.plan hdistinct
  have hrests : session.lastEvent = none := Option.not_isSome_iff_eq_none.1 fun hruns =>
    hother (hclock.isCurrent hplaces hplace hsession hruns).1
  have hunchanged : ∃ later, state.items.get? place.ref = some later ∧
      (later.spent = session.spent ∨ request.isEnterPart = true ∧
        session.templateProcessed = false ∧ delivery.DeclaresDuration place) :=
    ⟨session, hsession, .inl rfl⟩
  have hsuspended : ∀ {now : Timestamp} {indices : List Nat}
      {items : SortedMap Identifier ItemState},
      Sweep delivery state.plan (ItemDelivery.Suspends now) indices state.items items →
      ∃ rested, items.get? place.ref = some rested ∧ rested.lastEvent = none ∧
        rested.spent = session.spent := fun hsuspend =>
    hsuspend.exists_idle (fun hmove => hmove.stops.2) hsession hrests
  -- A request that is refused stops clocks at most.
  suffices hserved : (delivery.serve request).Ensures state
      (fun _ left => ∃ later, left.items.get? place.ref = some later ∧
        (later.spent = session.spent ∨ request.isEnterPart = true ∧
          session.templateProcessed = false ∧ delivery.DeclaresDuration place))
      fun _ _ => True by
    refine (hserved.and (ensures_serve_stalls h.prepared_of_closed request)).mono
      (fun _ _ hleft => hleft.1) ?_
    rintro error _ ⟨-, herror | ⟨_, _, _, _, _, rfl, hsuspend⟩⟩
    · exact .inl herror
    · obtain ⟨rested, hrested, -, hspent⟩ := hsuspended hsuspend
      exact .inr ⟨rested, hrested, hspent⟩
  cases request with
  | enterTest now =>
    rw [serve, ensures_map]
    refine delivery.ensures_enterTest.mono ?_ fun _ _ _ => trivial
    rintro _ _ ⟨-, outcomes, rfl⟩
    exact hunchanged
  | enterPart now =>
    rw [serve, ensures_map]
    refine (delivery.ensures_enterPart h.prepared_of_closed).mono ?_ fun _ _ _ => trivial
    rintro _ _ ⟨-, -, -, _, position, _, entry, _, items, -, -, hentry, -, rfl, hsweep⟩
    have hnodup := TestPlan.nodup_itemsUnder h.plan (h.mem_testParts (List.mem_of_getElem? hentry))
    obtain ⟨later, hlater, hspent⟩ :=
      hsweep.exists_spent_of_prepares hplaces hnodup hplace hsession hrests
    exact ⟨later, hlater, hspent.imp_right fun hdeclared => ⟨rfl, hdeclared⟩⟩
  | select now ref =>
    rw [serve, ensures_map]
    refine (delivery.ensures_select ref).mono ?_ fun _ _ _ => trivial
    rintro _ _ ⟨-, _, _, presented, _, _, _, -, -, -, -, -, -, rfl, hsuspend, henter⟩
    obtain ⟨rested, hrested, hstill, hspent⟩ := hsuspended hsuspend
    obtain ⟨later, hlater, hsame⟩ :=
      henter.exists_spent hplaces (List.nodup_singleton presented) hplace hrested hstill
    exact ⟨later, hlater, .inl (hsame.trans hspent)⟩
  | advance now =>
    rw [serve, ensures_map]
    refine delivery.ensures_advance.mono ?_ fun _ _ _ => trivial
    rintro _ _ ⟨_, next, _, _, _, -, rfl, hsuspend, henter⟩
    have hnodup : (next.map (·.1)).toList.Nodup := by cases next <;> simp
    obtain ⟨rested, hrested, hstill, hspent⟩ := hsuspended hsuspend
    obtain ⟨later, hlater, hsame⟩ := henter.exists_spent hplaces hnodup hplace hrested hstill
    exact ⟨later, hlater, .inl (hsame.trans hspent)⟩
  | respond now responses =>
    rw [serve, ensures_map]
    refine (delivery.ensures_respond responses).mono ?_ fun _ _ _ => trivial
    rintro _ _ ⟨-, _, _, current, _, _, _, _, _, _, -, -, -, hcurrent, -, rfl, hsweep⟩
    have hindex : index ∉ [current] := by
      rw [List.mem_singleton]
      rintro rfl
      exact hother hcurrent
    exact ⟨session, (hsweep.get?_of_not_mem hplaces hindex hplace).trans hsession, .inl rfl⟩
  | endPart now =>
    rw [serve, ensures_map]
    refine delivery.ensures_endPart.mono ?_ fun _ _ _ => trivial
    rintro _ _ ⟨-, _, _, _, _, _, _, _, _, _, _, -, -, -, rfl, hsuspend, hscore, hclose, -⟩
    -- The item is left, scored and closed, and its clock runs at none of these.
    obtain ⟨rested, hrested, hstill, hspent⟩ := hsuspended hsuspend
    obtain ⟨scored, hscored, hstill', hspent'⟩ :=
      hscore.exists_idle (fun hmove => hmove.sustains.idles List.not_mem_nil) hrested hstill
    obtain ⟨later, hlater, -, hspent''⟩ :=
      hclose.exists_idle (fun hmove => hmove.sustains.idles List.not_mem_nil) hscored hstill'
    exact ⟨later, hlater, .inl (hspent''.trans (hspent'.trans hspent))⟩
  | exit now =>
    rw [serve, ensures_map]
    refine delivery.ensures_exit.mono ?_ fun _ _ _ => trivial
    rintro _ _ ⟨-, -, outcomes, rfl⟩
    exact hunchanged

/-! ### Runs -/

variable {start : TestState} {calls : List TestCall}

/-- At most the clock of the current item runs. -/
theorem Reachable.oneClock (h : delivery.Reachable seed state) :
    state.plan.OneClock state.currentItem state.items := by
  refine @Reachable.invariant delivery state seed
    (fun state => state.plan.OneClock state.currentItem state.items) h (fun state hcreate => ?_)
    fun state request hreachable hstate => ?_
  · -- A session has no clock before its item is presented.
    intro ref session hsession hruns
    have hcreated := (yields_iff.1 yields_create).1 state hcreate
    rw [hcreated.lastEvent_eq_none hsession] at hruns
    cases hruns
  · refine ((hreachable.staged hdistinct).ensures_serve_oneClock hstate request).mono
      (fun _ _ hleft => hleft.1) ?_
    rintro error left (herror | rfl | ⟨-, hleft⟩)
    · exact .inl herror
    · exact .inr hstate
    · exact .inr hleft

/-- The clock of the current item runs after a run in which an item was presented after every call
that missed one, if it ran before or an item was presented. -/
theorem Run.ticks (h : delivery.Run state calls left) (hstate : delivery.Reachable seed state)
    (hresumed : delivery.Resumed calls)
    (hticks : state.plan.Ticks state.currentItem state.items ∨ ∃ visit ∈ calls, visit.Visits) :
    left.plan.Ticks left.currentItem left.items := by
  induction h with
  | nil => exact hticks.resolve_right (by simp)
  | @cons call calls left hmakes _ ih =>
    refine ih (hmakes.reachable hstate) hresumed.of_cons ?_
    have hserve := (hstate.staged hdistinct).ensures_serve_oneClock (hstate.oneClock hdistinct)
      call.request
    -- Where the call itself presents no item, one of the others does, or the clock ran.
    have hrest : ¬call.Visits → call.before.plan.Ticks call.before.currentItem call.before.items ∨
        ∃ visit ∈ calls, visit.Visits := by
      refine fun hnot => hticks.imp_right ?_
      rintro ⟨visit, hvisit, hvisits⟩
      obtain rfl | hvisit := List.mem_cons.1 hvisit
      · exact absurd hvisits hnot
      · exact ⟨visit, hvisit, hvisits⟩
    obtain ⟨hserved, -, hnext⟩ | ⟨hrefused, hsame | ⟨hmisses, -⟩⟩ := hmakes.of_ensures hserve
    · by_cases hvisit : call.request.isVisit = true
      · exact .inl (hnext (.inr hvisit))
      · exact (hrest fun hvisits => hvisit hvisits.2).imp_left fun hran => hnext (.inl hran)
    · rw [hsame]
      refine hrest fun hvisits => ?_
      cases hrefused.symm.trans hvisits.1
    · exact .inr (hresumed [] call calls rfl hrefused hmisses)

/-- At most the clock of the current item runs, while its session is under way. It does run if an
item was presented since advancing last was refused because the next item was closed. A further call
leaves the time of all other items as it is, but for the default that template processing gives a
variable which an item declares under that name. -/
theorem Run.one_clock_runs (hcreate : delivery.create seed = .ok start)
    (hrun : delivery.Run start calls state) (hplace : state.plan.place index = .ok place)
    (hsession : state.items.get? place.ref = some session) :
    (session.lastEvent.isSome = true →
        state.currentItem = some index ∧ session.status = .interacting) ∧
      (delivery.Resumed calls → state.currentItem = some index → session.status = .interacting →
        session.lastEvent.isSome = true) ∧
      ∀ call, delivery.Makes call → call.before = state → state.currentItem ≠ some index →
        ∃ later, call.after.items.get? place.ref = some later ∧
          (later.spent = session.spent ∨ call.served = true ∧ call.request.isEnterPart = true ∧
            session.templateProcessed = false ∧ delivery.DeclaresDuration place) := by
  have hstart : delivery.Reachable seed start := .created hcreate
  have hreachable := hrun.reachable hstart
  have hstaged := hreachable.staged hdistinct
  have hclock := hreachable.oneClock hdistinct
  refine ⟨fun hruns => ?_, fun hresumed hcurrent hstatus => ?_, ?_⟩
  · exact hclock.isCurrent (TestPlan.eq_of_place_ref hstaged.plan hdistinct) hplace hsession hruns
  · -- No item is current in a new session.
    have hnew : start.plan.Ticks start.currentItem start.items := by
      rw [((yields_iff.1 yields_create).1 start hcreate).currentItem]
      exact TestPlan.ticks_none _ _
    have hticks := hrun.ticks hdistinct hstart hresumed (.inl hnew)
    exact hticks index place session hcurrent hplace hsession hstatus
  · rintro call hmakes rfl hother
    have hserve := hstaged.ensures_serve_spent hdistinct hclock hplace hother hsession call.request
    obtain ⟨hserved, later, hlater, hspent⟩ | ⟨-, later, hlater, hspent⟩ := hmakes.of_ensures hserve
    · exact ⟨later, hlater, hspent.imp_right fun hdeclared => ⟨hserved, hdeclared⟩⟩
    · exact ⟨later, hlater, .inl hspent⟩

end distinct

end TestDelivery

/-! ### Tests with two items -/

/-- A test with two items that may each be attempted once. -/
def TestDelivery.attemptedOnce : TestDelivery :=
  .pair ⟨some 1, none, none⟩ []

/-- A test with two items, which declare a response variable under the name of the duration. -/
def TestDelivery.declaringDuration : TestDelivery :=
  .pair ⟨none, none, none⟩
    [⟨BuiltIn.duration.identifier, ⟨.single, some .duration⟩, none, none, none, none⟩]

namespace TestDelivery

/-- When the first item is left and the second one is closed, to go back to the first and to advance
again stops its clock, although it is still the current item. -/
theorem exists_stopped_attemptedOnce :
    ∃ state place session, attemptedOnce.Reachable 0 state ∧ state.currentItem = some 3 ∧
      state.plan.place 3 = .ok place ∧ state.items.get? place.ref = some session ∧
      session.status = .interacting ∧ session.lastEvent = none := by
  have hsession : (attemptedOnce.runFrom 0 [.enterTest (.logical 0), .enterPart (.unixMillis 0),
      .advance (.logical 0), .advance (.unixMillis 0), .respond (.logical 0) .empty,
      .advance (.unixMillis 0), .advance (.logical 0), .advance (.unixMillis 0)]).any
      (fun (_, _, state) => state.currentItem = some 3 ∧
        ∃ place ∈ (state.plan.place 3).toOption, ∃ session ∈ state.items.get? place.ref,
          session.status = .interacting ∧ session.lastEvent = none) = true := by
    decide +kernel
  obtain ⟨⟨start, calls, state⟩, hmake, hcheck⟩ := (Option.any_eq_true _ _).1 hsession
  obtain ⟨hcurrent, place, hplace, session, hfound, hstatus, hstopped⟩ := of_decide_eq_true hcheck
  obtain ⟨hcreate, hrun⟩ := run_of_runFrom hmake
  exact ⟨state, place, session, hrun.reachable (.created hcreate), hcurrent,
    eq_ok_of_mem_toOption hplace, hfound, hstatus, hstopped⟩

/-- When the part is entered, the time of an item is put to the default of the variable that the
item declares under that name. -/
theorem exists_respent_declaringDuration :
    ∃ call place session later, declaringDuration.Reachable 0 call.before ∧
      declaringDuration.Makes call ∧ call.before.currentItem = none ∧
      call.before.plan.place 3 = .ok place ∧ call.before.items.get? place.ref = some session ∧
      call.after.items.get? place.ref = some later ∧ later.spent ≠ session.spent := by
  have hsession : (declaringDuration.runFrom 0 [.enterTest (.logical 0),
      .enterPart (.unixMillis 0)]).any (fun (_, calls, _) =>
        ∃ call ∈ calls, call.before.currentItem = none ∧
          ∃ place ∈ (call.before.plan.place 3).toOption,
            ∃ session ∈ call.before.items.get? place.ref, session.spent.any (·.isNull) = false ∧
              ∃ later ∈ call.after.items.get? place.ref, later.spent.any (·.isNull) = true) =
        true := by
    decide +kernel
  obtain ⟨⟨start, calls, state⟩, hmake, hcheck⟩ := (Option.any_eq_true _ _).1 hsession
  obtain ⟨call, hcall, hcurrent, place, hplace, session, hfound, hspent, later, hlater,
    hchanged⟩ := of_decide_eq_true hcheck
  obtain ⟨hcreate, hrun⟩ := run_of_runFrom hmake
  obtain ⟨hmakes, hreachable⟩ := hrun.makes_of_mem (.created hcreate) hcall
  refine ⟨call, place, session, later, hreachable, hmakes, hcurrent, eq_ok_of_mem_toOption hplace,
    hfound, hlater, fun hsame => ?_⟩
  rw [hsame, hspent] at hchanged
  cases hchanged

/-- A clock need not run for the current item, although its session is under way. A call may change
the time of an item that is not the current one. -/
theorem not_forall_one_clock_runs :
    (¬∀ (delivery : TestDelivery) (seed : UInt64) (state : TestState) (index : Nat)
      (place : ItemPlace) (session : ItemState),
      (delivery.definition.itemRefs.map ItemRef.identifier).Nodup →
      delivery.Reachable seed state → state.plan.place index = .ok place →
      state.items.get? place.ref = some session →
      (session.lastEvent.isSome = true ↔
        state.currentItem = some index ∧ session.status = .interacting)) ∧
    ¬∀ (delivery : TestDelivery) (seed : UInt64) (call : TestCall) (index : Nat)
      (place : ItemPlace) (session later : ItemState),
      (delivery.definition.itemRefs.map ItemRef.identifier).Nodup →
      delivery.Reachable seed call.before → delivery.Makes call →
      call.before.currentItem ≠ some index → call.before.plan.place index = .ok place →
      call.before.items.get? place.ref = some session →
      call.after.items.get? place.ref = some later → later.spent = session.spent := by
  constructor
  · intro hruns
    obtain ⟨state, place, session, hreachable, hcurrent, hplace, hsession, hstatus, hstopped⟩ :=
      exists_stopped_attemptedOnce
    have hclock := (hruns attemptedOnce 0 state 3 place session (by decide +kernel) hreachable
      hplace hsession).2 ⟨hcurrent, hstatus⟩
    rw [hstopped] at hclock
    cases hclock
  · intro hstill
    obtain ⟨call, place, session, later, hreachable, hmakes, hcurrent, hplace, hsession, hlater,
      hchanged⟩ := exists_respent_declaringDuration
    refine hchanged (hstill declaringDuration 0 call 3 place session later (by decide +kernel)
      hreachable hmakes ?_ hplace hsession hlater)
    rw [hcurrent]
    nofun

/-- While the first item is presented and an attempt is made, its clock runs, and the second item
keeps the time that it had. -/
theorem one_clock_runs_attemptedOnce :
    ∃ start calls call place session other rested later, attemptedOnce.create 0 = .ok start ∧
      attemptedOnce.Run start calls call.before ∧ attemptedOnce.Resumed calls ∧
      attemptedOnce.Makes call ∧ call.served = true ∧ call.before.currentItem = some 3 ∧
      call.before.plan.place 3 = .ok place ∧ call.before.items.get? place.ref = some session ∧
      session.status = .interacting ∧ session.lastEvent.isSome = true ∧
      call.before.plan.place 4 = .ok other ∧ call.before.items.get? other.ref = some rested ∧
      call.after.items.get? other.ref = some later ∧ later.spent = rested.spent := by
  let attempt : TestRequest := .respond (.unixMillis 0) .empty
  have hsession : (attemptedOnce.runFrom 0 [.enterTest (.logical 0), .enterPart (.unixMillis 0),
      .advance (.logical 0)]).any (fun made =>
        ((attemptedOnce.serve attempt).run.run made.2.2).1.toBool ∧ made.2.1.all (·.served) ∧
          made.2.2.currentItem = some 3 ∧
          (∃ place ∈ (made.2.2.plan.place 3).toOption,
            ∃ session ∈ made.2.2.items.get? place.ref, session.status = .interacting) ∧
          ∃ other ∈ (made.2.2.plan.place 4).toOption,
            (made.2.2.items.get? other.ref).isSome = true) = true := by
    decide +kernel
  obtain ⟨⟨start, calls, state⟩, hmake, hcheck⟩ := (Option.any_eq_true _ _).1 hsession
  obtain ⟨haccepted, hserved, hcurrent, ⟨place, hplace, session, hfound, hstatus⟩, other, hother,
    hrested⟩ := of_decide_eq_true hcheck
  dsimp only at haccepted hserved hcurrent hplace hfound hother hrested
  cases hserve : (attemptedOnce.serve attempt).run.run state with
  | mk result left =>
  rw [hserve] at haccepted
  cases result with
  | error error => cases haccepted
  | ok =>
    obtain ⟨hcreate, hrun⟩ := run_of_runFrom hmake
    obtain ⟨rested, hrested⟩ := Option.isSome_iff_exists.1 hrested
    replace hplace := eq_ok_of_mem_toOption hplace
    replace hother := eq_ok_of_mem_toOption hother
    have hresumed : attemptedOnce.Resumed calls := by
      rintro earlier call later rfl hrefused -
      have hcall := List.all_eq_true.1 hserved call (by simp)
      cases hrefused.symm.trans hcall
    have hmakes : attemptedOnce.Makes ⟨state, attempt, true, left⟩ := hserve
    have hruns := (hrun.one_clock_runs (by decide +kernel) hcreate hplace hfound).2.1 hresumed
      hcurrent hstatus
    have hne : state.currentItem ≠ some 4 := by
      rw [hcurrent]
      decide
    obtain ⟨later, hlater, hspent⟩ :=
      (hrun.one_clock_runs (by decide +kernel) hcreate hother hrested).2.2 _ hmakes rfl hne
    replace hspent := hspent.resolve_right fun hentered => Bool.false_ne_true hentered.2.1
    exact ⟨start, calls, _, place, session, other, rested, later, hcreate, hrun, hresumed, hmakes,
      rfl, hcurrent, hplace, hfound, hstatus, hruns, hother, hrested, hlater, hspent⟩

end TestDelivery

end Assessment
