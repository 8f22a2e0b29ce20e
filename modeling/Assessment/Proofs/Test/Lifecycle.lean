import Assessment.Proofs.Test.Change
import Assessment.Proofs.Test.Run

/-!
# Lifecycles

A test, each of its parts, and the session of each item begin, are under way, and are over at some
time. No request takes any of them back, whether it is served, refused, or fails. What is over stays
over: the session of an item that is closed stays as it is in every respect, and so does a whole
test session that was exited.

The sites that could break this are many. Closed items are come by when a part is entered, when the
presented item is left, and when the items of a part are scored and closed. But all of them go
through operations on item sessions, of which each leaves a closed session alone.

## Main definitions

- `Onward`: the same phase of a lifecycle or a later one.
- `TestState.Advances`: a session in which nothing went back and nothing that is closed changed.

## Main results

- `TestDelivery.Reachable.leaves_advances`: so is what any request leaves.
- `TestDelivery.Run.advances`: and so is what a whole run leads to.
-/

namespace Assessment

open Action

/-! ### Phases -/

/-- What comes after in a lifecycle is the same, or stands in a later phase. -/
def Onward {α : Type} (phase : α → Nat) (before after : α) : Prop :=
  after = before ∨ phase before < phase after

theorem Onward.refl {α : Type} (phase : α → Nat) (a : α) : Onward phase a a := .inl rfl

theorem Onward.trans {α : Type} {phase : α → Nat} {before between after : α}
    (h : Onward phase before between) (h' : Onward phase between after) :
    Onward phase before after := by
  obtain rfl | hlater := h
  · exact h'
  · obtain rfl | hlater' := h'
    · exact .inr hlater
    · exact .inr (Nat.lt_trans hlater hlater')

/-- The phase of a test: before it, under way, or over. -/
def TestStatus.phase : TestStatus → Nat
  | .notEntered => 0
  | .interacting => 1
  | .exited => 2

/-- The phase of a part: still to come, under way, or over, be it ended or passed over. -/
def PartStatus.phase : PartStatus → Nat
  | .notEntered => 0
  | .interacting => 1
  | .ended | .skipped => 2

/-- The phase of the session of an item: not presented, under way, or over. -/
def ItemStatus.phase : ItemStatus → Nat
  | .notEntered => 0
  | .interacting => 1
  | .closed => 2

/-- A session that follows another one stands in no earlier phase. -/
theorem ItemState.Follows.onward {before after : ItemState} (h : before.Follows after) :
    Onward ItemStatus.phase before.status after.status := by
  obtain ⟨hentered, hclosed, -⟩ := h
  cases hbefore : before.status with
  | notEntered =>
    cases hafter : after.status with
    | notEntered => exact .inl rfl
    | interacting => exact .inr Nat.one_pos
    | closed => exact .inr Nat.two_pos
  | interacting =>
    have hpresented := hentered.resolve_left (by rw [hbefore]; nofun)
    cases hafter : after.status with
    | notEntered => exact absurd hafter hpresented
    | interacting => exact .inl rfl
    | closed => exact .inr Nat.one_lt_two
  | closed =>
    rw [hclosed hbefore, hbefore]
    exact .refl _ _

/-! ### Sessions -/

/-- The same part, in the same phase or a later one. -/
structure PartState.Advances (before after : PartState) : Prop where
  /-- It has the same name. -/
  identifier : after.identifier = before.identifier
  /-- It is at the same node. -/
  node : after.node = before.node
  /-- It did not go back. -/
  status : Onward PartStatus.phase before.status after.status

/-- A session of a test in which nothing went back, and no session of an item changed that was
closed. -/
structure TestState.Advances (before after : TestState) : Prop where
  /-- The test did not go back. -/
  status : Onward TestStatus.phase before.status after.status
  /-- No part went back. -/
  parts : List.Forall₂ PartState.Advances before.parts after.parts
  /-- No session of an item was lost or went back, and those that were closed are the same. -/
  items : ∀ ref session, before.items.get? ref = some session →
    ∃ later, after.items.get? ref = some later ∧
      Onward ItemStatus.phase session.status later.status ∧
      (session.status = .closed → later = session)

theorem PartState.Advances.refl (entry : PartState) : entry.Advances entry :=
  ⟨rfl, rfl, .refl _ _⟩

theorem PartState.Advances.trans {before between after : PartState} (h : before.Advances between)
    (h' : between.Advances after) : before.Advances after :=
  ⟨h'.identifier.trans h.identifier, h'.node.trans h.node, h.status.trans h'.status⟩

namespace TestState

variable {before between after : TestState}

theorem Advances.trans (h : before.Advances between) (h' : between.Advances after) :
    before.Advances after where
  status := h.status.trans h'.status
  parts := by
    have hchain := h.parts
    have hchain' := h'.parts
    generalize before.parts = first, between.parts = second, after.parts = third
      at hchain hchain' ⊢
    induction hchain generalizing third with
    | nil => exact hchain'
    | cons hfirst _ ih =>
      obtain _ | ⟨hfirst', hrest'⟩ := hchain'
      exact .cons (hfirst.trans hfirst') (ih _ hrest')
  items ref session hsession := by
    obtain ⟨later, hlater, honward, hsame⟩ := h.items ref session hsession
    obtain ⟨last, hlast, honward', hsame'⟩ := h'.items ref later hlater
    refine ⟨last, hlast, honward.trans honward', fun hclosed => ?_⟩
    obtain rfl := hsame hclosed
    exact hsame' hclosed

theorem advances_parts (parts : List PartState) : List.Forall₂ PartState.Advances parts parts :=
  List.forall₂_same.2 fun entry _ => .refl entry

/-- Working on a part takes nothing back. -/
theorem Works.advances (h : before.Works after) : before.Advances after := by
  obtain ⟨_, _, _, _, _, _, _, hitems, rfl⟩ := h
  refine ⟨.refl _ _, advances_parts _, fun _ session hsession => ?_⟩
  obtain ⟨later, hlater, hfollows⟩ := hitems.exists_right hsession
  exact ⟨later, hlater, hfollows.onward, hfollows.closed⟩

theorem Advances.refl (state : TestState) : state.Advances state := (Works.refl state).advances

/-- A session advances as far as its parts and its own status do, if nothing happened to items. -/
theorem advances_of_items_eq (hitems : after.items = before.items)
    (hstatus : Onward TestStatus.phase before.status after.status)
    (hparts : List.Forall₂ PartState.Advances before.parts after.parts) : before.Advances after :=
  ⟨hstatus, hparts, fun _ session hsession =>
    ⟨session, hitems ▸ hsession, .refl _ _, fun _ => rfl⟩⟩

end TestState

namespace TestDelivery

variable {delivery : TestDelivery} {state left : TestState} {now : Timestamp} {seed : UInt64}

/-! ### Parts -/

/-- A part that is passed over is still to come before. -/
theorem advances_skipPart (entry : PartState) : entry.Advances (skipPart entry) := by
  refine ⟨identifier_skipPart entry, node_skipPart entry, ?_⟩
  rw [status_skipPart]
  split
  next hstatus =>
    rw [hstatus]
    exact .inr Nat.two_pos
  next => exact .refl _ _

/-- Parts are passed over that are still to come. -/
theorem advances_map_skipPart (parts : List PartState) :
    List.Forall₂ PartState.Advances parts (parts.map skipPart) :=
  List.forall₂_map_right_iff.2 (List.forall₂_same.2 fun entry _ => advances_skipPart entry)

/-- A part that is entered is still to come before, and so are those that are passed over. -/
theorem advances_enterAt {parts : List PartState} {position : Nat} {entry : PartState}
    (hentry : parts[position]? = some entry) (hcoming : entry.status = .notEntered) :
    List.Forall₂ PartState.Advances parts (enterAt position now parts) := by
  obtain ⟨before, after, rfl, -, henter⟩ := @exists_enterAt now _ _ _ hentry
  rw [henter]
  refine List.rel_append (advances_map_skipPart before) (.cons ?_ (TestState.advances_parts after))
  exact ⟨rfl, rfl, .inr (by rw [hcoming]; exact Nat.one_pos)⟩

/-- A part that ends is under way before. -/
theorem advances_endAt {parts : List PartState} {entry : PartState}
    (hnodup : (parts.map (·.node)).Nodup) (hentry : entry ∈ parts)
    (hstatus : entry.status = .interacting) :
    List.Forall₂ PartState.Advances parts (endAt entry.node now parts) := by
  rw [endAt_eq_map hnodup, List.forall₂_map_right_iff]
  refine List.forall₂_same.2 fun other hother => ?_
  split
  next hnode =>
    obtain rfl := List.inj_on_of_nodup_map hnodup hother hentry hnode
    exact ⟨rfl, rfl, .inr (by rw [hstatus]; exact Nat.one_lt_two)⟩
  next => exact .refl other

/-! ### Requests -/

/-- A test that begins is one that is still to come. -/
theorem BeginsTest.advances (h : BeginsTest now state left) : state.Advances left := by
  obtain ⟨between, hstatus, hworks, rfl⟩ := h
  refine hworks.advances.trans (TestState.advances_of_items_eq rfl ?_ (TestState.advances_parts _))
  exact .inr (by rw [hworks.status, hstatus]; exact Nat.one_pos)

/-- A part that begins is one that is still to come. -/
theorem BeginsPart.advances (h : BeginsPart now state left) : state.Advances left := by
  obtain ⟨position, entry, between, hentry, hcoming, hmoves, rfl⟩ := h
  refine hmoves.works.advances.trans (TestState.advances_of_items_eq rfl (.refl _ _) ?_)
  rw [hmoves.works.parts]
  exact advances_enterAt hentry hcoming

/-- A part that ends is the one that is under way. -/
theorem LeavesPart.advances (h : LeavesPart now state left)
    (hnodup : (state.parts.map (·.node)).Nodup) : state.Advances left := by
  obtain ⟨entry, between, _, _, hentry, hstatus, hworks, rfl⟩ := h
  refine hworks.advances.trans (TestState.advances_of_items_eq rfl (.refl _ _) ?_)
  rw [hworks.parts]
  exact advances_endAt hnodup hentry hstatus

/-- A test that ends is under way. -/
theorem LeavesTest.advances (h : LeavesTest now state left) : state.Advances left := by
  obtain ⟨between, hstatus, hworks, rfl⟩ := h
  refine hworks.advances.trans (TestState.advances_of_items_eq rfl ?_ ?_)
  · exact .inr (by rw [hworks.status, hstatus]; exact Nat.one_lt_two)
  · rw [hworks.parts]
    exact advances_map_skipPart _

/-- No request takes anything back, however it is answered. -/
theorem Staged.leaves_serve (h : delivery.Staged state) (request : TestRequest) :
    (delivery.serve request).Leaves state state.Advances := by
  refine (TestDelivery.leaves_serve request).mono fun left hleft => ?_
  obtain hworks | ⟨now, hbegins | hbegins | hends | hends⟩ := hleft
  · exact hworks.advances
  · exact hbegins.advances
  · exact hbegins.advances
  · exact hends.advances h.nodup
  · exact hends.advances

/-- A session that was exited stays as it is. -/
theorem leaves_serve_of_exited (hstatus : state.status = .exited) (request : TestRequest) :
    (delivery.serve request).Leaves state (· = state) := by
  have hrequire : ∀ {α : Type} (next : PUnit → TestAction α),
      (delivery.requireInteracting >>= next).Leaves state (· = state) := by
    intro α next
    refine delivery.ensures_requireInteracting.bind ?_ fun _ _ h => h
    rintro _ _ ⟨hinteracting, -⟩
    rw [hstatus] at hinteracting
    cases hinteracting
  have hactive : ∀ {α : Type} (next : Nat → TestAction α),
      (delivery.activePart >>= next).Leaves state (· = state) := by
    intro α next
    refine delivery.ensures_activePart.bind ?_ fun _ _ h => h
    rintro _ _ ⟨hinteracting, -⟩
    rw [hstatus] at hinteracting
    cases hinteracting
  cases request with
  | enterTest now =>
    refine (leaves_map _).2 (leaves_check.read (fun _ => ?_) rfl)
    rw [Leaves, ensures_bind, ensures_get, hstatus]
    rfl
  | enterPart now => exact (leaves_map _).2 (hrequire _)
  | select now ref => exact (leaves_map _).2 (hactive _)
  | advance now => exact (leaves_map _).2 (hactive _)
  | respond now responses => exact (leaves_map _).2 (hactive _)
  | endPart now => exact (leaves_map _).2 (hactive _)
  | exit now => exact (leaves_map _).2 (hrequire _)

section distinct

variable (hdistinct : (delivery.definition.itemRefs.map ItemRef.identifier).Nodup)

include hdistinct

/-- A run takes nothing back. -/
theorem Run.advances {calls : List TestCall} (h : delivery.Run state calls left)
    (hstate : delivery.Reachable seed state) : state.Advances left := by
  let kept (left : TestState) : Prop := delivery.Reachable seed left ∧ state.Advances left
  have hstart : kept state := ⟨hstate, .refl state⟩
  refine (h.keeps ?_ hstart).2
  rintro call - hmakes ⟨hreachable, hadvances⟩
  have hserve := (hreachable.staged hdistinct).leaves_serve call.request
  refine ⟨hmakes.reachable hreachable, hadvances.trans ?_⟩
  obtain ⟨-, hcall⟩ | ⟨-, hcall⟩ :=
    hmakes.of_ensures (Ensures.mono hserve (fun _ _ h => h) fun _ _ => .inr)
  · exact hcall
  · exact hcall

/-- Whatever is requested of a session, and whether it is served, refused, or fails: the test, its
parts and the sessions of its items do not go back, a session of an item that is closed stays as it
is, and so does the whole session if the test was exited. -/
theorem Reachable.leaves_advances (h : delivery.Reachable seed state) (request : TestRequest) :
    (delivery.serve request).Leaves state fun left =>
      state.Advances left ∧ (state.status = .exited → left = state) := by
  by_cases hstatus : state.status = .exited
  · refine (leaves_serve_of_exited hstatus request).mono ?_
    rintro _ rfl
    exact ⟨.refl _, fun _ => rfl⟩
  · exact ((h.staged hdistinct).leaves_serve request).mono fun _ hleft =>
      ⟨hleft, fun hexited => absurd hexited hstatus⟩

end distinct

/-- The one item of a test is closed by the attempt on it. When the part ends, and the loops over
its items come by it twice, it stays as it is. -/
theorem leaves_advances_single :
    ∃ state left, (single .linear .individual).Reachable 0 state ∧
      ((single .linear .individual).serve (.endPart (.unixMillis 0))).run.run state =
        (.ok (), left) ∧
      state.items.toList.any (·.2.isClosed) = true ∧ state.Advances left := by
  let delivery := single .linear .individual
  have hsession : (delivery.sessionAfter 0
      [.enterTest (.logical 0), .enterPart (.unixMillis 0), .advance (.logical 0),
        .respond (.unixMillis 0) .empty]).any (fun state =>
      state.items.toList.any (·.2.isClosed) &&
        ((delivery.serve (.endPart (.unixMillis 0))).run.run state).1.isOk) = true := by
    decide +kernel
  obtain ⟨state, hstate, hcheck⟩ := (Option.any_eq_true _ _).1 hsession
  rw [Bool.and_eq_true] at hcheck
  have hreachable := reachable_of_sessionAfter hstate
  have hleaves := hreachable.leaves_advances (by decide +kernel) (.endPart (.unixMillis 0))
  rcases hrun : (delivery.serve (.endPart (.unixMillis 0))).run.run state with ⟨error | ⟨⟩, left⟩
  · rw [hrun] at hcheck
    exact absurd hcheck.2 Bool.false_ne_true
  · exact ⟨state, left, hreachable, hrun, hcheck.1, (hleaves.ok hrun).1⟩

end TestDelivery

end Assessment
