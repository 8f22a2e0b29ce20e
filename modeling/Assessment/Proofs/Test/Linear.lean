import Assessment.Proofs.Test.Run

/-!
# Visiting items in order

In a part that is visited in order, only advancing moves from item to item. It presents the first
item behind the current one whose conditions hold, so that the items come up in the order of the
plan and none of them twice. The session keeps its place in the current item alone: when advancing
has come to the end of the part, no item is current, and advancing again begins with the first item.

## Main definitions

- `TestPlan.itemsBehind`: the items of a part that are behind the current one.
- `TestDelivery.FirstOf`: the first of some items whose conditions hold.
- `TestDelivery.presented`: the items that were presented in a run.

## Main results

- `TestDelivery.Reachable.sublist_presented`: up to the end of the part, items come up in order.
- `TestDelivery.not_forall_pairwise_presented`: after the end of the part, items may come up again.
-/

namespace Assessment

open Action

namespace TestPlan

variable {plan : TestPlan} {test : TestDefinition} {part current next : Nat} {cursor : Option Nat}
  {items skipped rest : List Nat}

/-! ### The items behind the current one -/

/-- The items of a part that are behind the current one; all of them if none is current. -/
def itemsBehind (plan : TestPlan) (part : Nat) : Option Nat → List Nat
  | none => plan.itemsUnder part
  | some current => (plan.itemsUnder part).filter (current < ·)

/-- The items of a part are listed in the order of the plan. -/
theorem pairwise_itemsUnder (h : build test = .ok plan) (hpart : part ∈ plan.testParts) :
    (plan.itemsUnder part).Pairwise (· < ·) := by
  obtain ⟨testPart, -, hisPart⟩ := exists_isPart h hpart
  have hfits : testPart.tree.size ≤ plan.size := by
    have := hisPart.fits
    omega
  rw [hisPart.draws.itemsUnder_eq hfits]
  exact List.Pairwise.filter _ List.pairwise_lt_range'

/-- Where an element splits an increasing list, the greater ones are those behind it. -/
theorem filter_lt_of_pairwise (h : (skipped ++ next :: rest).Pairwise (· < ·)) :
    (skipped ++ next :: rest).filter (next < ·) = rest := by
  rw [List.pairwise_append, List.pairwise_cons] at h
  obtain ⟨-, ⟨hrest, -⟩, hskipped⟩ := h
  have hbefore : skipped.filter (next < ·) = [] := by
    rw [List.filter_eq_nil_iff]
    intro i hi
    have := hskipped i hi next List.mem_cons_self
    simp only [decide_eq_true_eq]
    omega
  have hbehind : rest.filter (next < ·) = rest := by
    rw [List.filter_eq_self]
    exact fun i hi => decide_eq_true (hrest i hi)
  simp [hbefore, hbehind]

theorem following?_append (h : current ∉ skipped) :
    following? current (skipped ++ current :: rest) = rest.head? := by
  induction skipped with
  | nil => simp [following?]
  | cons first skipped ih =>
    rw [List.mem_cons, not_or] at h
    rw [List.cons_append, following?, if_neg (Ne.symm h.1), ih h.2]

section ordered

variable (hordered : (plan.itemsUnder part).Pairwise (· < ·))
  (hcursor : ∀ current, cursor = some current → current ∈ plan.itemsUnder part)

include hordered hcursor

/-- The current item and those behind it are among the items of the part, in order. -/
theorem sublist_itemsUnder :
    (cursor.toList ++ plan.itemsBehind part cursor).Sublist (plan.itemsUnder part) := by
  cases cursor with
  | none => exact .refl _
  | some current =>
    obtain ⟨before, rest, hitems⟩ := List.append_of_mem (hcursor current rfl)
    rw [hitems] at hordered
    rw [itemsBehind, hitems, filter_lt_of_pairwise hordered]
    exact List.sublist_append_right before (current :: rest)

/-- The next item is the first behind the current one. -/
theorem nextItemInPart?_eq :
    plan.nextItemInPart? part cursor = (plan.itemsBehind part cursor).head? := by
  cases cursor with
  | none => rfl
  | some current =>
    obtain ⟨before, rest, hitems⟩ := List.append_of_mem (hcursor current rfl)
    rw [hitems] at hordered
    rw [nextItemInPart?, itemsBehind, hitems, filter_lt_of_pairwise hordered]
    refine following?_append fun hmem => ?_
    have hlt := (List.pairwise_append.1 hordered).2.2 current hmem current List.mem_cons_self
    exact absurd hlt (Nat.lt_irrefl current)

/-- What is behind an item that comes up next was behind the current one, too. -/
theorem itemsBehind_eq (h : plan.itemsBehind part cursor = skipped ++ next :: rest) :
    plan.itemsBehind part (some next) = rest := by
  cases cursor with
  | none =>
    change plan.itemsUnder part = _ at h
    rw [h] at hordered
    rw [itemsBehind, h, filter_lt_of_pairwise hordered]
  | some current =>
    rw [itemsBehind] at h
    have hnext : current < next := by
      have hmem : next ∈ (plan.itemsUnder part).filter (current < ·) := by simp [h]
      exact of_decide_eq_true (List.mem_filter.1 hmem).2
    have hfilter : (plan.itemsUnder part).filter (next < ·) =
        ((plan.itemsUnder part).filter (current < ·)).filter (next < ·) := by
      rw [List.filter_filter]
      refine List.filter_congr fun i _ => ?_
      by_cases hi : next < i
      · simp [hi, Nat.lt_trans hnext hi]
      · simp [hi]
    have hbehind := hordered.filter (current < ·)
    rw [h] at hbehind
    rw [itemsBehind, hfilter, h, filter_lt_of_pairwise hbehind]

end ordered

end TestPlan

/-- Whether a request is to advance. -/
def TestRequest.isAdvance : TestRequest → Bool
  | .advance _ => true
  | _ => false

namespace TestCall

/-- Whether a call is to advance, and was served. -/
def advanced (call : TestCall) : Bool := call.served && call.request.isAdvance

/-- The item that a call presents by advancing. -/
def presented? (call : TestCall) : Option Nat :=
  if call.advanced then call.after.currentItem else none

end TestCall

namespace TestDelivery

variable {delivery : TestDelivery} {state left : TestState} {seed : UInt64} {part : Nat}
  {call : TestCall} {calls : List TestCall}

/-! ### Searching for the next item -/

/-- The conditions of the item at a node are true of a session, or they are not. -/
def Permits (delivery : TestDelivery) (state : TestState) (index : Nat) (holds : Bool) : Prop :=
  ∃ place log, state.plan.place index = .ok place ∧
    delivery.conditionsHold state
      (((delivery.definition.itemRef? place.ref).map (·.preConditions)).getD []) = .ok (holds, log)

/-- The first of some items whose conditions hold; none if there is no such item. -/
def FirstOf (delivery : TestDelivery) (state : TestState) (indices : List Nat) :
    Option Nat → Prop
  | none => ∀ i ∈ indices, delivery.Permits state i false
  | some index => ∃ skipped rest, indices = skipped ++ index :: rest ∧
      (∀ i ∈ skipped, delivery.Permits state i false) ∧ delivery.Permits state index true

/-- An item whose conditions do not hold is passed over. -/
theorem FirstOf.cons {first : Nat} {rest : List Nat} {next : Option Nat}
    (hfirst : delivery.Permits state first false) (h : delivery.FirstOf state rest next) :
    delivery.FirstOf state (first :: rest) next := by
  cases next with
  | none =>
    intro i hi
    rcases List.mem_cons.1 hi with rfl | hi
    · exact hfirst
    · exact h i hi
  | some index =>
    obtain ⟨skipped, behind, rfl, hskipped, hindex⟩ := h
    refine ⟨first :: skipped, behind, rfl, fun i hi => ?_, hindex⟩
    rcases List.mem_cons.1 hi with rfl | hi
    · exact hfirst
    · exact hskipped i hi

variable (delivery)

/-- The search for the next item finds the first behind the current one whose conditions hold, if
as many items are tried as there are. -/
theorem yields_nextItem_firstOf (hordered : (state.plan.itemsUnder part).Pairwise (· < ·))
    {tries : Nat} {cursor : Option Nat} (log : NotificationLog)
    (hcursor : ∀ current, cursor = some current → current ∈ state.plan.itemsUnder part)
    (htries : (state.plan.itemsBehind part cursor).length ≤ tries) :
    Yields (delivery.nextItem state part tries cursor log)
      (fun next => delivery.FirstOf state (state.plan.itemsBehind part cursor) (next.1.map (·.1)))
      fun _ => True := by
  -- Each try takes the first of the items behind, and goes on with what is behind that one.
  induction tries generalizing cursor log with
  | zero =>
    rw [List.length_eq_zero_iff.1 (Nat.le_zero.1 htries)]
    exact nofun
  | succ tries ih =>
    have hnext := TestPlan.nextItemInPart?_eq hordered hcursor
    rw [nextItem]
    cases hbehind : state.plan.itemsBehind part cursor with
    | nil =>
      rw [hbehind, List.head?_nil] at hnext
      simp only [hnext]
      exact nofun
    | cons index rest =>
      rw [hbehind, List.head?_cons] at hnext
      simp only [hnext]
      have hrest : state.plan.itemsBehind part (some index) = rest :=
        TestPlan.itemsBehind_eq hordered hcursor (show _ = [] ++ index :: rest from hbehind)
      rw [hbehind, List.length_cons] at htries
      rw [yields_bind]
      cases hplace : state.plan.place index with
      | error error => trivial
      | ok place =>
        rw [yields_ok, yields_bind]
        cases hholds : delivery.conditionsHold state _ with
        | error error => trivial
        | ok result =>
          obtain ⟨holds, notes⟩ := result
          rw [yields_ok]
          dsimp only
          split
          next htrue =>
            subst htrue
            exact ⟨[], rest, rfl, nofun, place, notes, hplace, hholds⟩
          next hfalse =>
            rw [Bool.not_eq_true] at hfalse
            subst hfalse
            have hmem : index ∈ state.plan.itemsUnder part := TestPlan.mem_of_nextItemInPart? hnext
            refine (ih _ ?_ ?_).mono (fun next hfirst => ?_) fun _ h => h
            · rintro _ ⟨⟩
              exact hmem
            · rw [hrest]
              omega
            · rw [hrest] at hfirst
              exact .cons ⟨place, notes, hplace, hholds⟩ hfirst

/-! ### Moving in a part that is visited in order -/

variable {delivery}

/-- A part that is visited in order is under way. -/
structure VisitsInOrder (delivery : TestDelivery) (state : TestState) (part : Nat) : Prop where
  /-- The part is the current one. -/
  current : state.currentPart = some part
  /-- It is visited in order. -/
  linear : ∃ testPart, delivery.part state.plan part = .ok testPart ∧
    testPart.navigation = .linear

instance (delivery : TestDelivery) (state : TestState) (part : Nat) :
    Decidable (delivery.VisitsInOrder state part) :=
  decidable_of_iff
    (state.currentPart = some part ∧
      (delivery.part state.plan part).toOption.any (·.navigation = .linear) = true) <| by
    rw [Option.any_eq_true]
    constructor
    · rintro ⟨hcurrent, testPart, hpart, hlinear⟩
      refine ⟨hcurrent, testPart, ?_, of_decide_eq_true hlinear⟩
      cases hfound : delivery.part state.plan part <;> simp_all [Except.toOption]
    · rintro ⟨hcurrent, testPart, hpart, hlinear⟩
      exact ⟨hcurrent, testPart, by rw [hpart]; rfl, decide_eq_true hlinear⟩

/-- Where a part is under way, it is one of the parts of the session. -/
theorem Staged.exists_interacting (h : delivery.Staged state)
    (hpart : state.currentPart = some part) :
    ∃ entry ∈ state.parts, entry.node = part ∧ entry.status = .interacting := by
  have hmem : part ∈ (state.parts.filter (·.status = .interacting)).map (·.node) := by
    rw [h.current, hpart]
    exact List.mem_singleton_self part
  obtain ⟨entry, hentry, hnode⟩ := List.mem_map.1 hmem
  obtain ⟨hmem, hstatus⟩ := List.mem_filter.1 hentry
  exact ⟨entry, hmem, hnode, of_decide_eq_true hstatus⟩

/-- The items of the current part are in order. -/
theorem Staged.pairwise_items (h : delivery.Staged state) (hpart : state.currentPart = some part) :
    (state.plan.itemsUnder part).Pairwise (· < ·) := by
  obtain ⟨entry, hentry, rfl, -⟩ := h.exists_interacting hpart
  exact TestPlan.pairwise_itemsUnder h.plan (h.mem_testParts hentry)

/-- The current item is one of the current part. -/
theorem Staged.currentItem_mem (h : delivery.Staged state) (hpart : state.currentPart = some part)
    {current : Nat} (hcurrent : state.currentItem = some current) :
    current ∈ state.plan.itemsUnder part := by
  obtain ⟨entry, hentry, hstatus, hindex, -⟩ := h.cursor current hcurrent
  have hsame := (h.currentPart_eq hentry hstatus).symm.trans hpart
  rwa [Option.some.inj hsame] at hindex

/-- While a part is visited in order, advancing presents the first item behind the current one whose
conditions hold, and no other request changes which item is presented. -/
theorem Staged.ensures_serve_current (h : delivery.Staged state)
    (hvisits : delivery.VisitsInOrder state part) (request : TestRequest) :
    (delivery.serve request).Ensures state
      (fun _ left => left.currentPart = some part → left.plan = state.plan ∧
        if request.isAdvance then
          delivery.FirstOf state (state.plan.itemsBehind part state.currentItem) left.currentItem
        else left.currentItem = state.currentItem)
      fun _ _ => True := by
  obtain ⟨entry, hentry, hnode, hstatus⟩ := h.exists_interacting hvisits.current
  cases request with
  | enterTest now =>
    rw [serve, ensures_map]
    refine delivery.ensures_enterTest.mono ?_ fun _ _ _ => trivial
    rintro _ _ ⟨-, outcomes, rfl⟩ -
    exact ⟨rfl, rfl⟩
  | enterPart now =>
    rw [serve, ensures_map]
    refine (delivery.ensures_enterPart h.prepared_of_closed).mono ?_ fun _ _ _ => trivial
    rintro _ _ ⟨-, hnone, -⟩
    exact absurd hstatus (hnone entry hentry)
  | select now ref =>
    rw [serve, ensures_map]
    refine (delivery.ensures_select ref).mono ?_ fun _ _ _ => trivial
    rintro _ _ ⟨-, other, testPart, -, -, -, -, hother, -, htestPart, hmode, -⟩
    obtain ⟨found, hfound, hlinear⟩ := hvisits.linear
    rw [hvisits.current, Option.some.injEq] at hother
    subst hother
    obtain rfl := Except.ok.inj (htestPart.symm.trans hfound)
    cases hmode.symm.trans hlinear
  | advance now =>
    rw [serve, ensures_map]
    refine delivery.ensures_advance.mono ?_ fun _ _ _ => trivial
    rintro _ _ ⟨other, next, outcomes, between, items, hadvances, rfl, -⟩ -
    obtain ⟨-, hother, -⟩ := delivery.ensures_activePart.ok hadvances.active
    rw [hvisits.current, Option.some.injEq] at hother
    subst hother
    obtain ⟨log, hsearch⟩ := hadvances.search
    have hordered := h.pairwise_items hvisits.current
    have hcursor := fun current (hcurrent : state.currentItem = some current) =>
      h.currentItem_mem hvisits.current hcurrent
    have htries : (state.plan.itemsBehind part state.currentItem).length ≤
        (state.plan.itemsUnder part).length := by
      have := (TestPlan.sublist_itemsUnder hordered hcursor).length_le
      rw [List.length_append] at this
      omega
    have hfirst := delivery.yields_nextItem_firstOf hordered delivery.newLog hcursor htries
    exact ⟨rfl, (yields_iff.1 hfirst).1 _ hsearch⟩
  | respond now responses =>
    rw [serve, ensures_map]
    refine (delivery.ensures_respond responses).mono ?_ fun _ _ _ => trivial
    rintro _ _ ⟨-, _, testPart, current, place, outcomes, ends, passes, outcomeRuns,
      items, -, -, -, -, -, rfl, -⟩ -
    exact ⟨rfl, rfl⟩
  | endPart now =>
    rw [serve, ensures_map]
    refine delivery.ensures_endPart.mono ?_ fun _ _ _ => trivial
    rintro _ _ ⟨-, _, testPart, outcomes, ends, passes, outcomeRuns, pendingBranch,
      between, scored, items, -, -, -, rfl, -⟩ ⟨⟩
  | exit now =>
    rw [serve, ensures_map]
    refine delivery.ensures_exit.mono ?_ fun _ _ _ => trivial
    rintro _ _ ⟨-, hnone, -⟩
    exact absurd hstatus (hnone entry hentry)

/-! ### Runs in a part that is visited in order -/

/-- The items that were presented by advancing, in turn. -/
def presented (calls : List TestCall) : List Nat := calls.filterMap TestCall.presented?

/-- What a call makes of the current item while a part is visited in order. -/
theorem Makes.current (h : delivery.Makes call) (hstaged : delivery.Staged call.before)
    (hvisits : delivery.VisitsInOrder call.before part)
    (hstays : call.after.currentPart = some part) :
    delivery.VisitsInOrder call.after part ∧ call.after.plan = call.before.plan ∧
      if call.advanced then
        delivery.FirstOf call.before (call.before.plan.itemsBehind part call.before.currentItem)
          call.after.currentItem
      else call.after.currentItem = call.before.currentItem := by
  have hplan : ∀ {left : TestState}, left.plan = call.before.plan →
      left.currentPart = some part → delivery.VisitsInOrder left part := by
    intro left hleft hpart
    refine ⟨hpart, ?_⟩
    rw [hleft]
    exact hvisits.linear
  obtain ⟨hserved, hrun⟩ | ⟨hserved, now, indices, outcomes, items, lastEvent, hafter, -⟩ :=
    h.served_or_stalls hstaged.prepared_of_closed
  · obtain ⟨hsame, hcurrent⟩ := (hstaged.ensures_serve_current hvisits call.request).ok hrun hstays
    rw [TestCall.advanced, hserved, Bool.true_and]
    exact ⟨hplan hsame hstays, hsame, hcurrent⟩
  · rw [TestCall.advanced, hserved, Bool.false_and]
    have hsame : call.after.plan = call.before.plan := by rw [hafter]
    refine ⟨hplan hsame hstays, hsame, ?_⟩
    simp [hafter]

section distinct

variable (hdistinct : (delivery.definition.itemRefs.map ItemRef.identifier).Nodup)

include hdistinct

/-- Up to the first time that advancing comes to the end of the part, the items that it presents are
behind the current one and come up in order. -/
theorem Run.sublist_itemsBehind (h : delivery.Run state calls left)
    (hreachable : delivery.Reachable seed state) (hvisits : delivery.VisitsInOrder state part)
    (hstays : ∀ call ∈ calls, call.after.currentPart = some part)
    (hends : calls.Pairwise fun call later => call.advanced = true →
      call.after.currentItem = none → later.advanced = false) :
    (presented calls).Sublist (state.plan.itemsBehind part state.currentItem) := by
  induction h with
  | nil => exact List.nil_sublist _
  | @cons call calls left hmakes _ ih =>
    obtain ⟨hnext, hplan, hcurrent⟩ :=
      hmakes.current (hreachable.staged hdistinct) hvisits (hstays call List.mem_cons_self)
    obtain ⟨hlast, hends⟩ := List.pairwise_cons.1 hends
    have hrest := ih (hmakes.reachable hreachable) hnext
      (fun call hcall => hstays call (List.mem_cons_of_mem _ hcall)) hends
    rw [hplan] at hrest
    rw [presented, List.filterMap_cons, TestCall.presented?]
    split at hcurrent
    next hadvanced =>
      rw [if_pos hadvanced]
      cases hitem : call.after.currentItem with
      | none =>
        -- No other item is presented once advancing has come to the end.
        have hnone : calls.filterMap TestCall.presented? = [] := by
          rw [List.filterMap_eq_nil_iff]
          intro later hlater
          rw [TestCall.presented?, if_neg (by simp [hlast later hlater hadvanced hitem])]
        dsimp only
        rw [hnone]
        exact List.nil_sublist _
      | some index =>
        rw [hitem] at hcurrent hrest
        obtain ⟨skipped, rest, hbehind, -, -⟩ := hcurrent
        have hstaged := hreachable.staged hdistinct
        rw [TestPlan.itemsBehind_eq (hstaged.pairwise_items hvisits.current)
          (fun current => hstaged.currentItem_mem hvisits.current) hbehind] at hrest
        rw [hbehind]
        exact (hrest.cons_cons index).trans (List.sublist_append_right skipped _)
    next hadvanced =>
      rw [if_neg hadvanced]
      rw [hcurrent] at hrest
      exact hrest

/-- What each call of a run makes of the current item while a part is visited in order. -/
theorem Run.forall_current (h : delivery.Run state calls left)
    (hreachable : delivery.Reachable seed state) (hvisits : delivery.VisitsInOrder state part)
    (hstays : ∀ call ∈ calls, call.after.currentPart = some part) :
    ∀ call ∈ calls,
      if call.advanced then
        delivery.FirstOf call.before (call.before.plan.itemsBehind part call.before.currentItem)
          call.after.currentItem
      else call.after.currentItem = call.before.currentItem := by
  induction h with
  | nil =>
    intro call hcall
    cases hcall
  | @cons first calls left hmakes _ ih =>
    obtain ⟨hnext, -, hcurrent⟩ :=
      hmakes.current (hreachable.staged hdistinct) hvisits (hstays first List.mem_cons_self)
    intro call hcall
    rcases List.mem_cons.1 hcall with rfl | hcall
    · exact hcurrent
    · exact ih (hmakes.reachable hreachable) hnext
        (fun call hcall => hstays call (List.mem_cons_of_mem _ hcall)) call hcall

/-- While a part is visited in order, the items that advancing presents come up in the order of the
plan and none of them twice, also none that was current before, as long as no request to advance is
served after one that came to the end of the part. Each time it is the first item behind the current
one whose conditions hold, and no other request changes which item is current. -/
theorem Reachable.sublist_presented (h : delivery.Reachable seed state)
    (hrun : delivery.Run state calls left) (hvisits : delivery.VisitsInOrder state part)
    (hstays : ∀ call ∈ calls, call.after.currentPart = some part)
    (hends : calls.Pairwise fun call later => call.advanced = true →
      call.after.currentItem = none → later.advanced = false) :
    (state.currentItem.toList ++ presented calls).Sublist (state.plan.itemsUnder part) ∧
      (state.currentItem.toList ++ presented calls).Pairwise (· < ·) ∧
      ∀ call ∈ calls,
        if call.advanced then
          delivery.FirstOf call.before (call.before.plan.itemsBehind part call.before.currentItem)
            call.after.currentItem
        else call.after.currentItem = call.before.currentItem := by
  have hstaged := h.staged hdistinct
  have hordered := hstaged.pairwise_items hvisits.current
  have hsublist : (state.currentItem.toList ++ presented calls).Sublist
      (state.plan.itemsUnder part) := by
    have hbehind := hrun.sublist_itemsBehind hdistinct h hvisits hstays hends
    exact ((List.Sublist.refl _).append hbehind).trans (TestPlan.sublist_itemsUnder hordered
      fun current => hstaged.currentItem_mem hvisits.current)
  exact ⟨hsublist, hordered.sublist hsublist, hrun.forall_current hdistinct h hvisits hstays⟩

end distinct

/-- In a part with one item, advancing presents it, and advancing again comes to the end. Requests
that are refused in between change nothing of it. -/
theorem sublist_presented_single :
    ∃ state calls left, (single .linear .individual).Reachable 0 state ∧
      (single .linear .individual).Run state calls left ∧ calls.length = 5 ∧
      presented calls = [3] ∧ left.currentItem = none ∧
      (presented calls).Sublist (state.plan.itemsUnder 1) := by
  let delivery := single .linear .individual
  have hsession : ((delivery.sessionAfter 0 [.enterTest (.logical 0),
        .enterPart (.unixMillis 0)]).bind fun state =>
      (delivery.makeAll state [.respond (.logical 0) .empty, .advance (.logical 0),
        .enterPart (.logical 0), .advance (.unixMillis 0), .exit (.logical 0)]).map
          (state, ·)).any (fun (state, calls, left) =>
      decide (delivery.VisitsInOrder state 1) && state.currentItem = none &&
        calls.all (·.after.currentPart = some 1) &&
        decide (calls.Pairwise fun call later => call.advanced = true →
          call.after.currentItem = none → later.advanced = false) &&
        calls.length = 5 && presented calls = [3] && left.currentItem = none) = true := by
    decide +kernel
  obtain ⟨⟨state, calls, left⟩, hstate, hcheck⟩ := (Option.any_eq_true _ _).1 hsession
  obtain ⟨start, hstart, hmake⟩ := Option.bind_eq_some_iff.1 hstate
  obtain ⟨_, hcalls, ⟨⟩⟩ := Option.map_eq_some_iff.1 hmake
  simp only [Bool.and_eq_true, decide_eq_true_eq, List.all_eq_true] at hcheck
  obtain ⟨⟨⟨⟨⟨⟨hvisits, hitem⟩, hstays⟩, hends⟩, hlength⟩, hpresented⟩, hleft⟩ := hcheck
  have hreachable := reachable_of_sessionAfter hstart
  obtain ⟨hsublist, -⟩ := hreachable.sublist_presented (by decide +kernel) (run_of_makeAll hcalls)
    hvisits hstays hends
  rw [hitem] at hsublist
  exact ⟨state, calls, left, hreachable, run_of_makeAll hcalls, hlength, hpresented, hleft,
    hsublist⟩

/-- When advancing has come to the end of a part, advancing again presents the first item, which was
presented before. -/
theorem not_forall_pairwise_presented :
    ¬∀ (delivery : TestDelivery) (seed : UInt64) (state left : TestState) (calls : List TestCall)
      (part : Nat), (delivery.definition.itemRefs.map ItemRef.identifier).Nodup →
      delivery.Reachable seed state → delivery.Run state calls left →
      delivery.VisitsInOrder state part → (∀ call ∈ calls, call.after.currentPart = some part) →
      (presented calls).Pairwise (· < ·) := by
  intro hforward
  let delivery := single .linear .individual
  have hsession : ((delivery.sessionAfter 0 [.enterTest (.logical 0),
        .enterPart (.unixMillis 0)]).bind fun state =>
      (delivery.makeAll state [.advance (.logical 0), .advance (.unixMillis 0),
        .advance (.logical 0)]).map (state, ·)).any (fun (state, calls, _) =>
      decide (delivery.VisitsInOrder state 1) && calls.all (·.after.currentPart = some 1) &&
        presented calls = [3, 3]) = true := by
    decide +kernel
  obtain ⟨⟨state, calls, left⟩, hstate, hcheck⟩ := (Option.any_eq_true _ _).1 hsession
  obtain ⟨start, hstart, hmake⟩ := Option.bind_eq_some_iff.1 hstate
  obtain ⟨_, hcalls, ⟨⟩⟩ := Option.map_eq_some_iff.1 hmake
  simp only [Bool.and_eq_true, decide_eq_true_eq, List.all_eq_true] at hcheck
  obtain ⟨⟨hvisits, hstays⟩, hpresented⟩ := hcheck
  have hpairwise := hforward delivery 0 state left calls 1 (by decide +kernel)
    (reachable_of_sessionAfter hstart) (run_of_makeAll hcalls) hvisits hstays
  rw [hpresented] at hpairwise
  exact absurd hpairwise (by decide)

end TestDelivery

end Assessment
