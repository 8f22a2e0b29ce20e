import Assessment.Proofs.Test.Phase

/-!
# Sessions of items in a test

A test session holds a session for every item, and nothing else moves it than the operations of an
item session. Whatever is asked of the test, the session of each item goes along a course of its
own, as if the item stood alone.

## Main definitions

- `TestDelivery.Follows`: the sessions of all items go along courses.
- `TestDelivery.Simulates`: the session of each item is one that operations on items lead to.

## Main results

- `TestDelivery.Staged.ensures_serve_follows`: every request moves the sessions of all items along
  courses, also where it is refused.
- `TestDelivery.Reachable.exists_item_session`: the session of an item is one that the operations of
  an item session lead to.
-/

namespace Assessment

open Action

namespace TestDelivery

variable {delivery : TestDelivery} {state : TestState} {plan : TestPlan} {now : Timestamp}
  {seed : UInt64} {items between left : SortedMap Identifier ItemState}

/-- The sessions of all items go along courses. -/
def Follows (delivery : TestDelivery) (plan : TestPlan)
    (items left : SortedMap Identifier ItemState) : Prop :=
  ∀ ⦃index : Nat⦄ ⦃place : ItemPlace⦄ ⦃item : ItemDelivery⦄ ⦃session : ItemState⦄,
    plan.place index = .ok place → delivery.itemDelivery place = .ok item →
    items.get? place.ref = some session →
    ∃ changed, left.get? place.ref = some changed ∧ item.Course session changed

/-- The session of each item is one that operations on items lead to, from a new session with the
seed of its position. -/
def Simulates (delivery : TestDelivery) (seed : UInt64) (state : TestState) : Prop :=
  ∀ ⦃k index : Nat⦄ ⦃place : ItemPlace⦄, state.plan.items[k]? = some index →
    state.plan.place index = .ok place →
    ∃ item session, delivery.itemDelivery place = .ok item ∧
      state.items.get? place.ref = some session ∧
      item.Reachable (itemSeed seed (.ofNat k)) session

theorem Follows.refl (items : SortedMap Identifier ItemState) :
    delivery.Follows plan items items :=
  fun _ _ _ session _ _ hsession => ⟨session, hsession, .refl session⟩

theorem Follows.trans (h : delivery.Follows plan items between)
    (h' : delivery.Follows plan between left) : delivery.Follows plan items left := by
  intro index place item session hplace hitem hsession
  obtain ⟨changed, hchanged, hcourse⟩ := h hplace hitem hsession
  obtain ⟨last, hlast, hcourse'⟩ := h' hplace hitem hchanged
  exact ⟨last, hlast, hcourse.trans hcourse'⟩

/-- Where sessions go along courses, those that operations on items lead to stay so. -/
theorem Simulates.follows {next : TestState} (h : delivery.Simulates seed state)
    (hplan : next.plan = state.plan)
    (hfollows : delivery.Follows state.plan state.items next.items) :
    delivery.Simulates seed next := by
  intro k index place hk hplace
  rw [hplan] at hk hplace
  obtain ⟨item, session, hitem, hsession, hreachable⟩ := h hk hplace
  obtain ⟨changed, hchanged, hcourse⟩ := hfollows hplace hitem hsession
  exact ⟨item, changed, hitem, hchanged, hreachable.course hcourse⟩

section distinct

variable (hdistinct : (delivery.definition.itemRefs.map ItemRef.identifier).Nodup)

include hdistinct

/-- A sweep moves all sessions along courses if its moves do. -/
theorem Sweep.follows {moves : ItemDelivery → ItemState → ItemState → Prop} {indices : List Nat}
    (hplan : TestPlan.build delivery.definition = .ok plan)
    (h : Sweep delivery plan moves indices items left)
    (hmoves : ∀ {item session changed}, moves item session changed → item.Course session changed) :
    delivery.Follows plan items left :=
  fun _ _ _ _ hplace hitem hsession =>
    h.course (TestPlan.eq_of_place_ref hplan hdistinct) hmoves hplace hitem hsession

/-- Every request moves the sessions of all items along courses, also where it is refused. -/
theorem Staged.ensures_serve_follows (h : delivery.Staged state) (request : TestRequest) :
    (delivery.serve request).Ensures state
      (fun _ left => left.plan = state.plan ∧ delivery.Follows state.plan state.items left.items)
      fun error left => error.isLogic ∨
        left.plan = state.plan ∧ delivery.Follows state.plan state.items left.items := by
  have hkeep : delivery.Follows state.plan state.items state.items := Follows.refl _
  have hleft : ∀ {error : TestError} {left : TestState}, error.isLogic ∨ left = state →
      error.isLogic ∨
        left.plan = state.plan ∧ delivery.Follows state.plan state.items left.items := by
    rintro error left (herror | rfl)
    · exact .inl herror
    · exact .inr ⟨rfl, hkeep⟩
  -- Each request changes the sessions of items by sweeps, and a refused one at most stops a clock.
  cases request with
  | enterTest now =>
    rw [serve, ensures_map]
    refine delivery.ensures_enterTest.mono ?_ fun _ _ => hleft
    rintro _ _ ⟨-, outcomes, rfl⟩
    exact ⟨rfl, hkeep⟩
  | enterPart now =>
    rw [serve, ensures_map]
    refine (delivery.ensures_enterPart h.prepared_of_closed).mono ?_ fun _ _ => hleft
    rintro _ _ ⟨-, -, -, _, _, _, entry, outcomes, items, -, -, -, -, rfl, hsweep⟩
    exact ⟨rfl, hsweep.follows hdistinct h.plan fun hmove => hmove.course⟩
  | select now ref =>
    rw [serve, ensures_map]
    refine (delivery.ensures_select ref).mono ?_ fun _ _ => hleft
    rintro _ _ ⟨-, _, _, _, outcomes, between, items, -, -, -, -, -, -, rfl, hsuspend, henter⟩
    have hsuspended := hsuspend.follows hdistinct h.plan fun hmove => hmove.course
    exact ⟨rfl, hsuspended.trans (henter.follows hdistinct h.plan fun hmove => hmove.course)⟩
  | advance now =>
    rw [serve, ensures_map]
    refine delivery.ensures_advance.mono ?_ ?_
    · rintro _ _ ⟨_, next, outcomes, between, items, -, rfl, hsuspend, henter⟩
      have hsuspended := hsuspend.follows hdistinct h.plan fun hmove => hmove.course
      exact ⟨rfl, hsuspended.trans (henter.follows hdistinct h.plan fun hmove => hmove.course)⟩
    · rintro error left (herror | ⟨rfl, -⟩ | ⟨_, -, -, hrun⟩)
      · exact .inl herror
      · exact .inr ⟨rfl, hkeep⟩
      · obtain ⟨outcomes, items, rfl, hsuspend⟩ := delivery.ensures_leave.ok hrun
        exact .inr ⟨rfl, hsuspend.follows hdistinct h.plan fun hmove => hmove.course⟩
  | respond now responses =>
    rw [serve, ensures_map]
    refine (delivery.ensures_respond responses).mono ?_ fun _ _ => hleft
    rintro _ _ ⟨-, _, _, _, place, outcomes, ends, passes, outcomeRuns, items, -, -, -, -,
      -, rfl, hsweep⟩
    exact ⟨rfl, hsweep.follows hdistinct h.plan fun hmove => hmove.course⟩
  | endPart now =>
    rw [serve, ensures_map]
    refine delivery.ensures_endPart.mono ?_ fun _ _ => hleft
    rintro _ _ ⟨-, _, _, outcomes, ends, passes, outcomeRuns, pendingBranch, between,
      scored, items, -, -, -, rfl, hsuspend, hscore, hclose, -⟩
    have hsuspended := hsuspend.follows hdistinct h.plan fun hmove => hmove.course
    have hscored := hscore.follows hdistinct h.plan fun hmove => hmove.course
    have hclosed := hclose.follows hdistinct h.plan fun hmove => hmove.course
    exact ⟨rfl, hsuspended.trans (hscored.trans hclosed)⟩
  | exit now =>
    rw [serve, ensures_map]
    refine delivery.ensures_exit.mono ?_ fun _ _ => hleft
    rintro _ _ ⟨-, -, outcomes, rfl⟩
    exact ⟨rfl, hkeep⟩

/-- In all sessions that requests lead to, the sessions of items are those that operations on items
lead to. -/
theorem Reachable.simulates (h : delivery.Reachable seed state) :
    delivery.Simulates seed state := by
  refine h.invariant (fun state hcreate => ?_) fun state request hreachable hsimulates => ?_
  · have hcreated := (yields_iff.1 yields_create).1 state hcreate
    intro k index place hk hplace
    obtain ⟨item, session, hitem, hsession, -, hget⟩ := hcreated.exists_session hdistinct hk hplace
    exact ⟨item, session, hitem, hget, session, hsession, .refl _⟩
  · have hstaged := hreachable.staged hdistinct
    refine (hstaged.ensures_serve_follows hdistinct request).mono ?_ ?_
    · rintro _ left ⟨hplan, hfollows⟩
      exact hsimulates.follows hplan hfollows
    · rintro error left hleft
      exact hleft.imp_right fun ⟨hplan, hfollows⟩ => hsimulates.follows hplan hfollows

/-- The session of an item in a test is one that the operations of an item session lead to, from a
new session with the seed of its position among all references. Every request that is not answered
with a logic error moves it along a course of such operations, or leaves it. -/
theorem Reachable.exists_item_session (h : delivery.Reachable seed state) {k : Nat} {ref : ItemRef}
    (hk : delivery.definition.itemRefs[k]? = some ref) :
    ∃ definition digest session, delivery.definition.item? ref.item = some definition ∧
      delivery.itemDigests.get? ref.item = some digest ∧
      state.items.get? ref.identifier = some session ∧
      ItemDelivery.Reachable ⟨definition, delivery.engine, digest⟩ (itemSeed seed (.ofNat k))
        session ∧
      ∀ request, (delivery.serve request).Ensures state
        (fun _ left => ∃ changed, left.items.get? ref.identifier = some changed ∧
          ItemDelivery.Course ⟨definition, delivery.engine, digest⟩ session changed)
        fun error left => error.isLogic ∨ ∃ changed, left.items.get? ref.identifier = some changed ∧
          ItemDelivery.Course ⟨definition, delivery.engine, digest⟩ session changed := by
  have hstaged := h.staged hdistinct
  have hsimulates := h.simulates hdistinct
  obtain ⟨index, place, hindex, hplace, hnames⟩ :=
    TestPlan.exists_place_of_map_names (TestPlan.map_names_items hstaged.plan) hk
  obtain ⟨href, hitemName⟩ : place.ref = ref.identifier ∧ place.item = ref.item :=
    Prod.mk.inj hnames
  obtain ⟨item, session, hitem, hsession, hreachable⟩ := hsimulates hindex hplace
  obtain ⟨definition, digest, hdefinition, hdigest, rfl⟩ := exists_of_itemDelivery hitem
  rw [hitemName] at hdefinition hdigest
  rw [← href]
  refine ⟨definition, digest, session, hdefinition, hdigest, hsession, hreachable, ?_⟩
  intro request
  refine (hstaged.ensures_serve_follows hdistinct request).mono ?_ ?_
  · rintro _ left ⟨-, hfollows⟩
    exact hfollows hplace hitem hsession
  · rintro error left (herror | ⟨-, hfollows⟩)
    · exact .inl herror
    · exact .inr (hfollows hplace hitem hsession)

end distinct

/-- The session of the one item of a test, which was attempted, is one that the operations of an
item session lead to. -/
theorem exists_item_session_single :
    ∃ state ref, (single .linear .individual).Reachable 0 state ∧
      (single .linear .individual).definition.itemRefs[0]? = some ref ∧
      (state.items.get? ref.identifier).any (·.responded) = true ∧
      ∃ definition digest session, state.items.get? ref.identifier = some session ∧
        ItemDelivery.Reachable ⟨definition, (single .linear .individual).engine, digest⟩
          (itemSeed 0 (.ofNat 0)) session := by
  have hsession : ((single .linear .individual).sessionAfter 0
      [.enterTest (.logical 0), .enterPart (.unixMillis 0), .advance (.logical 0),
        .respond (.unixMillis 0) .empty]).any (fun state =>
      (single .linear .individual).definition.itemRefs[0]?.any fun ref =>
        (state.items.get? ref.identifier).any (·.responded)) = true := by
    decide +kernel
  obtain ⟨state, hstate, hrefs⟩ := (Option.any_eq_true _ _).1 hsession
  obtain ⟨ref, href, hresponded⟩ := (Option.any_eq_true _ _).1 hrefs
  have hreachable := reachable_of_sessionAfter hstate
  obtain ⟨definition, digest, session, -, -, hsession, hitem, -⟩ :=
    Reachable.exists_item_session (by decide +kernel) hreachable href
  exact ⟨state, ref, hreachable, href, hresponded, definition, digest, session, hsession, hitem⟩

end TestDelivery

end Assessment
