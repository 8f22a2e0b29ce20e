import Assessment.Proofs.Test.Run

/-!
# The order of parts

Parts are entered in the order of the test, each at most once. What is still to come are always the
parts from some position on: entering a part passes over those before it, and nothing brings a part
back. The search for the next part begins at the target of a branch, or else at the first part that
is still to come, and ends at the first whose conditions hold. When the test was ended by a branch
or by a rule, no part is entered any more.

A branch leads to a part that is still to come. It does so until the test is exited: this passes
over the parts that are left, and does not forget the branch.

## Main definitions

- `TestDelivery.InLine`: what holds of the parts of a session and of the branch that was taken.
- `TestDelivery.EntersPart`: a part is entered by the rule.
- `TestDelivery.entered`: the positions of the parts that were entered in a run.

## Main results

- `TestDelivery.Run.entersInOrder`: in every run parts are entered in order and by the rule.
- `TestDelivery.not_forall_pendingBranch_notEntered`: after a test was exited, a branch may lead to
  a part that was passed over.
-/

namespace Assessment

open Action

namespace TestCall

/-- Whether a call is to enter a part, and was served. -/
def enters (call : TestCall) : Bool := call.served && call.request.isEnterPart

/-- The position of the part that a call enters. -/
def entered? (call : TestCall) : Option Nat :=
  if call.enters then call.after.parts.findIdx? (·.status = .interacting) else none

end TestCall

namespace TestDelivery

variable {delivery : TestDelivery} {state left : TestState} {now : Timestamp} {seed : UInt64}
  {parts : List PartState} {first position node : Nat} {entry : PartState}

/-! ### Parts that are still to come -/

/-- The parts that are still to come are those from a position on. -/
def ComeFrom (parts : List PartState) (first : Nat) : Prop :=
  ∀ (position : Nat) (entry : PartState), parts[position]? = some entry →
    (entry.status = .notEntered ↔ first ≤ position)

/-- The parts when one of them is entered, one by one. -/
theorem getElem?_enterAt (h : parts[position]? = some entry) (i : Nat) :
    (enterAt position now parts)[i]? =
      if i < position then parts[i]?.map skipPart
      else if i = position then some { entry with status := .interacting, entryTime := some now }
      else parts[i]? := by
  obtain ⟨before, after, rfl, rfl, henter⟩ := @exists_enterAt now _ _ _ h
  rw [henter]
  rcases Nat.lt_trichotomy i before.length with hlt | rfl | hgt
  · simp [List.getElem?_append, hlt]
  · simp
  · have hsucc : i - before.length = (i - before.length - 1) + 1 := by omega
    have hnot : ¬i < before.length := by omega
    have hne : i ≠ before.length := by omega
    rw [List.getElem?_append_right (by simpa using hnot), List.length_map, hsucc]
    rw [if_neg hnot, if_neg hne, List.getElem?_append_right (by omega), hsucc]
    rfl

/-- Entering a part leaves to come what is behind it. -/
theorem ComeFrom.enterAt (h : ComeFrom parts first) (hentry : parts[position]? = some entry)
    (hcoming : entry.status = .notEntered) :
    ComeFrom (enterAt position now parts) (position + 1) := by
  have hfirst : first ≤ position := (h position entry hentry).1 hcoming
  intro i found hfound
  rw [getElem?_enterAt hentry] at hfound
  split at hfound
  next hlt =>
    obtain ⟨other, -, rfl⟩ := Option.map_eq_some_iff.1 hfound
    rw [status_skipPart]
    split
    next => simp [show ¬position + 1 ≤ i by omega]
    next hne => simp [hne, show ¬position + 1 ≤ i by omega]
  next hlt =>
    split at hfound
    next heq =>
      cases hfound
      simp [heq]
    next hne =>
      rw [h i found hfound]
      omega

/-- The end of a part that is under way leaves to come what was. -/
theorem ComeFrom.endAt (h : ComeFrom parts first) (hnodup : (parts.map (·.node)).Nodup)
    (hentry : entry ∈ parts) (hstatus : entry.status = .interacting) :
    ComeFrom (endAt entry.node now parts) first := by
  intro i found hfound
  rw [endAt_eq_map hnodup, List.getElem?_map] at hfound
  obtain ⟨other, hother, rfl⟩ := Option.map_eq_some_iff.1 hfound
  split
  next hnode =>
    obtain rfl := List.inj_on_of_nodup_map hnodup (List.mem_of_getElem? hother) hentry hnode
    have hcoming := h i other hother
    rw [hstatus] at hcoming
    simpa using hcoming
  next => exact h i other hother

/-- When the parts that are still to come are passed over, none is left. -/
theorem comeFrom_skip (first : Nat) (parts : List PartState) :
    ComeFrom (parts.map skipPart) (max first parts.length) := by
  intro i found hfound
  rw [List.getElem?_map] at hfound
  obtain ⟨other, hother, rfl⟩ := Option.map_eq_some_iff.1 hfound
  have hi : i < parts.length := (List.getElem?_eq_some_iff.1 hother).1
  have hlate : ¬max first parts.length ≤ i := by omega
  rw [status_skipPart]
  split
  next => simp [hlate]
  next hne => simp [hne, hlate]

/-! ### Choosing the next part -/

/-- The conditions of a part are true of a session, or they are not. -/
def Admits (delivery : TestDelivery) (state : TestState) (part : TestPart) (holds : Bool) : Prop :=
  ∃ log, delivery.conditionsHold state part.preConditions = .ok (holds, log)

variable (delivery) in
/-- The part that is chosen is the first of the candidates that is still to come and whose
conditions hold. -/
theorem yields_choosePart_first (candidates : List (PartState × Nat)) (log : NotificationLog) :
    Yields (delivery.choosePart state candidates log)
      (fun chosen => ∀ position, chosen.1 = some position →
        ∃ passed entry rest, candidates = passed ++ (entry, position) :: rest ∧
          (∃ part, delivery.part state.plan entry.node = .ok part ∧
            delivery.Admits state part true) ∧
          ∀ other ∈ passed, other.1.status = .notEntered →
            ∃ part, delivery.part state.plan other.1.node = .ok part ∧
              delivery.Admits state part false)
      fun _ => True := by
  induction candidates generalizing log with
  | nil =>
    rw [choosePart, yields_ok]
    rintro _ ⟨⟩
  | cons candidate rest ih =>
    obtain ⟨entry, here⟩ := candidate
    -- What is chosen among the rest is chosen among all, if the first candidate is passed over.
    have hrest : ∀ log, (entry.status = .notEntered →
        ∃ part, delivery.part state.plan entry.node = .ok part ∧
          delivery.Admits state part false) →
        Yields (delivery.choosePart state rest log) (fun chosen => ∀ position,
          chosen.1 = some position → ∃ passed found behind,
            (entry, here) :: rest = passed ++ (found, position) :: behind ∧
            (∃ part, delivery.part state.plan found.node = .ok part ∧
              delivery.Admits state part true) ∧
            ∀ other ∈ passed, other.1.status = .notEntered →
              ∃ part, delivery.part state.plan other.1.node = .ok part ∧
                delivery.Admits state part false) fun _ => True := by
      intro log hentry
      refine (ih log).mono (fun chosen hchosen position hposition => ?_) fun _ h => h
      obtain ⟨passed, found, behind, rfl, hfound, hpassed⟩ := hchosen position hposition
      refine ⟨(entry, here) :: passed, found, behind, rfl, hfound, fun other hother => ?_⟩
      rcases List.mem_cons.1 hother with rfl | hother
      · exact hentry
      · exact hpassed other hother
    rw [choosePart]
    split
    next hstatus => exact hrest log fun hcoming => absurd hcoming hstatus
    next =>
      rw [yields_bind]
      cases hpart : delivery.part state.plan entry.node with
      | error error => trivial
      | ok part =>
        rw [yields_ok, yields_bind]
        cases hholds : delivery.conditionsHold state part.preConditions with
        | error error => trivial
        | ok result =>
          obtain ⟨holds, notes⟩ := result
          rw [yields_ok]
          dsimp only
          split
          next htrue =>
            subst htrue
            rintro _ ⟨⟩
            exact ⟨[], entry, rest, rfl, ⟨part, hpart, notes, hholds⟩, List.forall_mem_nil _⟩
          next hfalse =>
            rw [Bool.not_eq_true] at hfalse
            subst hfalse
            exact hrest _ fun _ => ⟨part, hpart, notes, hholds⟩

/-- The candidates that are passed over are the parts from the first candidate to the one that is
chosen. -/
theorem mem_of_zipIdx_drop {passed rest : List (PartState × Nat)}
    (h : parts.zipIdx.drop first = passed ++ (entry, position) :: rest) :
    first ≤ position ∧ parts[position]? = some entry ∧
      ∀ i other, first ≤ i → i < position → parts[i]? = some other → (other, i) ∈ passed := by
  have hget : ∀ k, (passed ++ (entry, position) :: rest)[k]? =
      parts[first + k]?.map (·, first + k) := by
    intro k
    rw [← h, List.getElem?_drop, List.getElem?_zipIdx, Nat.zero_add]
  have hchosen := hget passed.length
  rw [List.getElem?_append_right (Nat.le_refl _), Nat.sub_self, List.getElem?_cons_zero,
    eq_comm, Option.map_eq_some_iff] at hchosen
  obtain ⟨_, hentry, ⟨⟩⟩ := hchosen
  refine ⟨Nat.le_add_right _ _, hentry, fun i other hi hlt hother => ?_⟩
  have hpassed := hget (i - first)
  rw [show first + (i - first) = i by omega, hother, Option.map_some,
    List.getElem?_append_left (by omega)] at hpassed
  exact List.mem_of_getElem? hpassed

/-- The search for the next part begins at the target of a branch, and without one at the first part
that is still to come. -/
def BeginsAt (state : TestState) (first : Nat) : Prop :=
  ∃ entry, state.parts[first]? = some entry ∧ entry.status = .notEntered ∧
    match state.pendingBranch with
    | some target => entry.identifier = target
    | none => ∀ i other, i < first → state.parts[i]? = some other → other.status ≠ .notEntered

/-- Where a branch leads to a part that is still to come, the search begins there. -/
theorem beginsAt_of_firstCandidate?
    (hpending : ∀ target, state.pendingBranch = some target →
      ∃ entry ∈ state.parts, entry.identifier = target ∧ entry.status = .notEntered)
    (h : firstCandidate? state = some first) : BeginsAt state first := by
  obtain ⟨earliest, hearliest, hfirst⟩ := Option.bind_eq_some_iff.1 h
  rw [Option.some.injEq] at hfirst
  subst hfirst
  cases hbranch : state.pendingBranch with
  | none =>
    obtain ⟨hlt, hstatus, hbefore⟩ := List.findIdx?_eq_some_iff_getElem.1 hearliest
    refine ⟨state.parts[earliest], List.getElem?_eq_getElem hlt, of_decide_eq_true hstatus, ?_⟩
    rw [hbranch]
    intro i other hi hother hcoming
    obtain ⟨hlt', rfl⟩ := List.getElem?_eq_some_iff.1 hother
    exact hbefore i hi (decide_eq_true hcoming)
  | some target =>
    obtain ⟨entry, hentry, htarget⟩ := hpending target hbranch
    have hsome : (state.parts.findIdx? fun part =>
        part.identifier = target ∧ part.status = .notEntered).isSome = true := by
      rw [List.findIdx?_isSome, List.any_eq_true]
      exact ⟨entry, hentry, decide_eq_true htarget⟩
    obtain ⟨found, hfound⟩ := Option.isSome_iff_exists.1 hsome
    obtain ⟨hlt, hholds, -⟩ := List.findIdx?_eq_some_iff_getElem.1 hfound
    have hnamed := of_decide_eq_true hholds
    refine ⟨state.parts[found], ?_, hnamed.2, ?_⟩
    · rw [Option.bind_eq_bind, Option.bind_some, hfound, Option.getD_some]
      exact List.getElem?_eq_getElem hlt
    · rw [hbranch]
      exact hnamed.1

/-! ### Sessions whose parts are in line -/

/-- The parts of a session are those of the test, in order; a branch leads to one that is still to
come; and no item is closed before it was prepared. -/
structure InLine (delivery : TestDelivery) (state : TestState) : Prop where
  /-- The plan is that of the test. -/
  plan : TestPlan.build delivery.definition = .ok state.plan
  /-- The parts are those of the test, in order. -/
  heads : state.parts.map (fun entry => (entry.identifier, entry.node)) =
    (delivery.definition.parts.map (·.identifier)).zip state.plan.testParts
  /-- A branch leads to a part that is still to come, while the test is not exited. -/
  pending : state.status ≠ .exited → ∀ target, state.pendingBranch = some target →
    ∃ entry ∈ state.parts, entry.identifier = target ∧ entry.status = .notEntered
  /-- The items of the current part are prepared. -/
  prepared : ∀ part, state.currentPart = some part → ∀ index ∈ state.plan.itemsUnder part,
    state.plan.Fits state.items index (·.templateProcessed = true)
  /-- An item that is closed was prepared. -/
  closed : ∀ ref session, state.items.get? ref = some session → session.status = .closed →
    session.templateProcessed = true

/-- New sessions are in line, and all parts are still to come. -/
theorem Created.inLine (h : Created delivery seed state) :
    delivery.InLine state ∧ ComeFrom state.parts 0 := by
  refine ⟨⟨h.plan, h.heads, ?_, ?_, ?_⟩, fun position entry hentry => ?_⟩
  · rw [h.pendingBranch]
    exact nofun
  · rw [h.currentPart]
    exact nofun
  · intro ref session hsession hclosed
    have hstatus := congrArg ItemProgress.status (h.progress hsession)
    exact absurd (hstatus.symm.trans hclosed) nofun
  · exact iff_of_true (h.status_eq entry (List.mem_of_getElem? hentry)) (Nat.zero_le position)

/-- A session that was not moved on is in line. -/
theorem InLine.stalls (h : delivery.InLine state) (hstalls : delivery.Stalls state left) :
    delivery.InLine left := by
  obtain ⟨now, indices, outcomes, items, lastEvent, rfl, hsweep⟩ := hstalls
  refine ⟨h.plan, h.heads, h.pending, fun part hpart index hindex => ?_, ?_⟩
  · refine hsweep.fits (fun hmove hprepared => ?_) (h.prepared part hpart index hindex)
    rw [hmove.progress]
    exact hprepared
  · intro ref session hsession hclosed
    obtain ⟨before, hbefore, hsame⟩ := hsweep.exists_of_suspends hsession
    have hstatus := (congrArg ItemProgress.status hsame).trans hclosed
    exact (congrArg ItemProgress.templateProcessed hsame).symm.trans
      (h.closed ref before hbefore hstatus)

/-- Whether the parts are in line does not depend on time, outcomes and the current item. -/
theorem InLine.congr (h : delivery.InLine state) (hplan : left.plan = state.plan)
    (hparts : left.parts = state.parts) (hitems : left.items = state.items)
    (hcurrentPart : left.currentPart = state.currentPart)
    (hpendingBranch : left.pendingBranch = state.pendingBranch)
    (hstatus : left.status = state.status) : delivery.InLine left where
  plan := by rw [hplan]; exact h.plan
  heads := by rw [hparts, hplan]; exact h.heads
  pending := by rw [hstatus, hpendingBranch, hparts]; exact h.pending
  prepared := by rw [hcurrentPart, hplan, hitems]; exact h.prepared
  closed := by rw [hitems]; exact h.closed

/-- The items of parts that are still to come were prepared if they are closed. -/
theorem InLine.prepared_of_closed (h : delivery.InLine state) :
    ∀ entry ∈ state.parts, entry.status = .notEntered →
      ∀ index ∈ state.plan.itemsUnder entry.node, ∀ place session,
        state.plan.place index = .ok place → state.items.get? place.ref = some session →
        session.status = .closed → session.templateProcessed = true :=
  fun _ _ _ _ _ place session _ hsession => h.closed place.ref session hsession

/-- Sweeps keep a session in line, if they close no item but those that are prepared. -/
theorem InLine.sweep (h : delivery.InLine state)
    {moves : ItemDelivery → ItemState → ItemState → Prop} {indices : List Nat}
    {items : SortedMap Identifier ItemState}
    (hsweep : Sweep delivery state.plan moves indices state.items items)
    (hkeeps : ∀ {item session changed}, moves item session changed →
      session.progress.templateProcessed = true → changed.progress.templateProcessed = true)
    (hcloses : ∀ index ∈ indices, ∀ {item session changed}, moves item session changed →
      changed.progress.status = .closed → session.progress.status = .closed ∨
        session.progress.templateProcessed = true ∨
        ∃ part, state.currentPart = some part ∧ index ∈ state.plan.itemsUnder part) :
    delivery.InLine { state with items } where
  plan := h.plan
  heads := h.heads
  pending := h.pending
  prepared part hpart index hindex := hsweep.fits hkeeps (h.prepared part hpart index hindex)
  closed := by
    -- What stands in the current part is prepared at any time of the sweep.
    have hall : ∀ ref session, items.get? ref = some session →
        (session.status = .closed → session.templateProcessed = true) ∧
          ∀ part index place, state.currentPart = some part → index ∈ state.plan.itemsUnder part →
            state.plan.place index = .ok place → place.ref = ref →
            session.templateProcessed = true := by
      refine hsweep.forall_get?_of_mem ?_ fun ref session hsession =>
        ⟨h.closed ref session hsession, ?_⟩
      · rintro index hindex place item session changed hplace hmove ⟨hclosed, hprepared⟩
        refine ⟨fun hstatus => hkeeps hmove ?_, fun part i place' hpart hi hplace' href =>
          hkeeps hmove (hprepared part i place' hpart hi hplace' href)⟩
        obtain hbefore | hbefore | ⟨part, hpart, hunder⟩ := hcloses index hindex hmove hstatus
        · exact hclosed hbefore
        · exact hbefore
        · exact hprepared part index place hpart hunder hplace rfl
      · rintro part index place hpart hindex hplace rfl
        exact h.prepared part hpart index hindex place session hplace hsession
    exact fun ref session hsession => (hall ref session hsession).1

theorem InLine.suspend (h : delivery.InLine state) {indices : List Nat}
    {items : SortedMap Identifier ItemState}
    (hsweep : Sweep delivery state.plan (ItemDelivery.Suspends now) indices state.items items) :
    delivery.InLine { state with items } := by
  refine h.sweep hsweep ?_ ?_
  · intro item session changed hmove hprepared
    rw [hmove.progress]
    exact hprepared
  · intro index _ item session changed hmove hclosed
    rw [hmove.progress] at hclosed
    exact .inl hclosed

theorem InLine.enter (h : delivery.InLine state) {indices : List Nat}
    {items : SortedMap Identifier ItemState}
    (hsweep : Sweep delivery state.plan (ItemDelivery.Enters now) indices state.items items) :
    delivery.InLine { state with items } := by
  refine h.sweep hsweep ?_ ?_
  · intro item session changed hmove hprepared
    rw [hmove.progress]
    exact hprepared
  · intro index _ item session changed hmove hclosed
    rw [hmove.progress] at hclosed
    exact absurd hclosed nofun

theorem InLine.respond (h : delivery.InLine state) {indices : List Nat}
    {responses : SortedMap Identifier ResponseData} {policy : SubmissionPolicy}
    {items : SortedMap Identifier ItemState}
    (hsweep : Sweep delivery state.plan (ItemDelivery.Attempts responses now policy) indices
      state.items items) :
    delivery.InLine { state with items } := by
  refine h.sweep hsweep ?_ ?_
  · intro item session changed hmove hprepared
    obtain ⟨-, -, hchanged⟩ := hmove.progress
    split at hchanged
    next => rw [hchanged]; exact hprepared
    next =>
      obtain ⟨status, -, hchanged⟩ := hchanged
      rw [hchanged]
      exact hprepared
  · intro index _ item session changed hmove _
    exact .inr (.inl hmove.progress.2.1)

/-- Scoring and closing the items of the current part keeps a session in line. -/
theorem InLine.finish (h : delivery.InLine state) {part : Nat}
    (hpart : state.currentPart = some part) {mode : SubmissionMode}
    {scored items : SortedMap Identifier ItemState}
    (hscore : Sweep delivery state.plan (ItemDelivery.Scores now mode)
      (state.plan.itemsUnder part) state.items scored)
    (hclose : Sweep delivery state.plan (ItemDelivery.Ends now) (state.plan.itemsUnder part) scored
      items) :
    delivery.InLine { state with items } := by
  have hscored : delivery.InLine { state with items := scored } := by
    refine h.sweep hscore ?_ fun index hindex _ _ _ _ _ => .inr (.inr ⟨part, hpart, hindex⟩)
    intro item session changed hmove hprepared
    obtain ⟨-, _, -, hchanged⟩ | ⟨-, hchanged⟩ := hmove.progress
    · rw [hchanged]
      exact hprepared
    · rw [hchanged]
      exact hprepared
  refine hscored.sweep hclose ?_ fun index hindex _ _ _ _ _ => .inr (.inr ⟨part, hpart, hindex⟩)
  intro item session changed hmove hprepared
  rw [hmove.progress]
  exact hprepared

/-- A part that ends is not one that is still to come, so that a branch leads where it led. -/
theorem InLine.endPart (h : delivery.InLine state) (hentry : entry ∈ state.parts)
    (hstatus : entry.status = .interacting) {pendingBranch : Option Identifier}
    (hbranch : ∀ target, pendingBranch = some target → state.pendingBranch = some target ∨
      ∃ other ∈ endAt entry.node now state.parts, other.identifier = target ∧
        other.status = .notEntered) :
    delivery.InLine
      { state with
        pendingBranch
        parts := endAt entry.node now state.parts
        currentPart := none } where
  plan := h.plan
  heads := (map_endAt (fun _ => rfl) _ _).trans h.heads
  pending hopen target htarget := by
    obtain hbefore | hended := hbranch target htarget
    · obtain ⟨other, hother, hnamed, hcoming⟩ := h.pending hopen target hbefore
      have hne : other.node ≠ entry.node := by
        intro hnode
        have hsame := List.inj_on_of_nodup_map (nodup_of_heads h.plan h.heads) hother hentry hnode
        rw [hsame, hstatus] at hcoming
        cases hcoming
      refine ⟨other, ?_, hnamed, hcoming⟩
      rw [endAt_eq_map (nodup_of_heads h.plan h.heads)]
      exact List.mem_map.2 ⟨other, hother, if_neg hne⟩
    · exact hended
  prepared := nofun
  closed := h.closed

/-- The items of a part that is entered are prepared. -/
theorem InLine.enterPart (h : delivery.InLine state) {items : SortedMap Identifier ItemState}
    (hsweep : Sweep delivery state.plan ItemDelivery.Prepares (state.plan.itemsUnder entry.node)
      state.items items) (position : Nat) :
    delivery.InLine
      { state with
        items
        parts := enterAt position now state.parts
        currentPart := some entry.node
        pendingBranch := none } where
  plan := h.plan
  heads := (map_enterAt head_skipPart (fun _ => rfl) _ _).trans h.heads
  pending _ := nofun
  prepared := by
    rintro _ ⟨⟩ index hindex
    refine hsweep.fits_of_moves hindex fun hmove => ?_
    rw [hmove.progress]
  closed := by
    refine hsweep.forall_get? ?_ h.closed
    intro _ item session changed hmove _ _
    exact congrArg ItemProgress.templateProcessed hmove.progress

/-! ### Entering parts by the rule -/

/-- A part is entered by the rule: it is the first one that is still to come and whose conditions
hold, from where the search begins, and the parts before it are passed over. -/
structure EntersPart (delivery : TestDelivery) (before after : TestState) (position : Nat) :
    Prop where
  /-- The part is still to come, and its conditions hold. -/
  chosen : ∃ entry part, before.parts[position]? = some entry ∧
    delivery.definition.parts[position]? = some part ∧ entry.identifier = part.identifier ∧
    entry.status = .notEntered ∧ delivery.Admits before part true
  /-- From where the search begins there is none before it. -/
  first : ∃ first, BeginsAt before first ∧ first ≤ position ∧
    ∀ i entry part, first ≤ i → i < position → before.parts[i]? = some entry →
      entry.status = .notEntered → delivery.definition.parts[i]? = some part →
      delivery.Admits before part false
  /-- The parts before it that are still to come are passed over, and it is the one under way. -/
  statuses : ∀ i, (after.parts[i]?).map (·.status) = (before.parts[i]?).map fun entry =>
    if i < position then if entry.status = .notEntered then .skipped else entry.status
    else if i = position then .interacting else entry.status

/-- The part that is under way afterwards is the one that was entered. -/
theorem EntersPart.findIdx? (h : delivery.EntersPart state left position)
    (hnone : ∀ entry ∈ state.parts, entry.status ≠ .interacting) :
    left.parts.findIdx? (·.status = .interacting) = some position := by
  obtain ⟨entry, -, hentry, -⟩ := h.chosen
  have hat := h.statuses position
  rw [hentry, Option.map_some, if_neg (Nat.lt_irrefl _), if_pos rfl, Option.map_eq_some_iff] at hat
  obtain ⟨entered, hentered, hstatus⟩ := hat
  obtain ⟨hlt, rfl⟩ := List.getElem?_eq_some_iff.1 hentered
  rw [List.findIdx?_eq_some_iff_getElem]
  refine ⟨hlt, decide_eq_true hstatus, fun i hi hopen => ?_⟩
  have hbefore := h.statuses i
  rw [List.getElem?_eq_getElem (Nat.lt_trans hi hlt), Option.map_some, eq_comm,
    Option.map_eq_some_iff] at hbefore
  obtain ⟨other, hother, hsame⟩ := hbefore
  rw [if_pos hi, of_decide_eq_true hopen] at hsame
  split at hsame
  next => cases hsame
  next => exact hnone other (List.mem_of_getElem? hother) hsame

/-- What a request that is served makes of the parts: they stay in line, those that are still to
come get fewer at most, and a part that is entered is no longer to come. -/
structure Proceeds (delivery : TestDelivery) (request : TestRequest) (first : Nat)
    (state left : TestState) : Prop where
  /-- The parts are in line. -/
  inLine : delivery.InLine left
  /-- A test that was ended stays ended. -/
  ends : state.exitRequested = true → left.exitRequested = true
  /-- The parts from some position on are still to come, and one that was entered is before it. -/
  comes : ∃ next, first ≤ next ∧ ComeFrom left.parts next ∧
    (request.isEnterPart = true → state.exitRequested = false ∧
      ∃ position, delivery.EntersPart state left position ∧ first ≤ position ∧ position < next ∧
        left.parts.findIdx? (·.status = .interacting) = some position)

/-- A request that enters no part leaves the parts as they are. -/
theorem Proceeds.of_parts_eq {request : TestRequest} (hline : delivery.InLine left)
    (hends : state.exitRequested = true → left.exitRequested = true)
    (hfrom : ComeFrom state.parts first) (hparts : left.parts = state.parts)
    (hother : request.isEnterPart = false) : delivery.Proceeds request first state left :=
  ⟨hline, hends, first, Nat.le_refl _, hparts ▸ hfrom, by simp [hother]⟩

section names

variable (hnames : (delivery.definition.parts.map (·.identifier)).Nodup)

include hnames

/-- Where parts have distinct names, a part of a session is looked up as the one at its place. -/
theorem InLine.eq_of_part (h : delivery.InLine state) {part found : TestPart}
    (hentry : state.parts[position]? = some entry)
    (hpart : delivery.definition.parts[position]? = some part)
    (hfound : delivery.part state.plan entry.node = .ok found) :
    found = part ∧ entry.identifier = part.identifier := by
  obtain ⟨other, hother, hname, hisPart⟩ := exists_part_of_heads h.plan h.heads hentry
  obtain rfl := Option.some.inj (hpart.symm.trans hother)
  have hlookUp : delivery.definition.part? part.identifier = some part :=
    find?_name_of_mem hnames (List.mem_of_getElem? hpart)
  rw [part_eq_ok_iff hisPart, hlookUp] at hfound
  exact ⟨(Option.some.inj hfound).symm, hname⟩

/-- The part that is chosen is entered by the rule. -/
theorem InLine.entersPart (h : delivery.InLine state) (hstatus : state.status = .interacting)
    {log : NotificationLog} (hfirst : firstCandidate? state = some first)
    (hchosen : delivery.choosePart state (state.parts.zipIdx.drop first) delivery.newLog =
      .ok (some position, log))
    (hentry : state.parts[position]? = some entry) (hcoming : entry.status = .notEntered)
    (hleft : left.parts = enterAt position now state.parts) :
    delivery.EntersPart state left position := by
  obtain ⟨passed, chosen, rest, hcandidates, ⟨part, hpart, hadmits⟩, hpassed⟩ :=
    (yields_iff.1 (delivery.yields_choosePart_first _ _)).1 _ hchosen position rfl
  obtain ⟨hle, hsame, hbetween⟩ := mem_of_zipIdx_drop hcandidates
  obtain rfl := Option.some.inj (hentry.symm.trans hsame)
  have hbegins : BeginsAt state first := by
    refine beginsAt_of_firstCandidate? (h.pending ?_) hfirst
    rw [hstatus]
    exact nofun
  obtain ⟨there, hthere, hname, -⟩ := exists_part_of_heads h.plan h.heads hentry
  obtain ⟨rfl, -⟩ := h.eq_of_part hnames hentry hthere hpart
  refine ⟨⟨entry, part, hentry, hthere, hname, hcoming, hadmits⟩,
    ⟨first, hbegins, hle, fun i other otherPart hi hlt hother hopen hotherPart => ?_⟩, ?_⟩
  · obtain ⟨found, hfound, hfails⟩ := hpassed _ (hbetween i other hi hlt hother) hopen
    obtain ⟨rfl, -⟩ := h.eq_of_part hnames hother hotherPart hfound
    exact hfails
  · intro i
    rw [hleft, getElem?_enterAt hentry]
    split
    next => simp [Function.comp_def, status_skipPart]
    next =>
      split
      next hi => simp [hi, hentry]
      next hi => rfl

/-- What a request that is served makes of the parts of a session that is in line. -/
theorem InLine.ensures_serve (h : delivery.InLine state) (hfrom : ComeFrom state.parts first)
    (request : TestRequest) :
    (delivery.serve request).Ensures state
      (fun _ left => delivery.Proceeds request first state left) fun _ _ => True := by
  have hkeep : ∀ {ends : Bool}, state.exitRequested = true →
      (state.exitRequested || ends) = true := by
    intro ends hexit
    rw [hexit, Bool.true_or]
  cases request with
  | enterTest now =>
    rw [serve, ensures_map]
    refine delivery.ensures_enterTest.mono ?_ fun _ _ _ => trivial
    rintro _ _ ⟨hstatus, outcomes, rfl⟩
    refine .of_parts_eq ⟨h.plan, h.heads, fun _ => h.pending ?_, h.prepared, h.closed⟩ id hfrom
      rfl rfl
    rw [hstatus]
    decide
  | enterPart now =>
    rw [serve, ensures_map]
    refine (delivery.ensures_enterPart h.prepared_of_closed).mono ?_ fun _ _ _ => trivial
    rintro _ left ⟨hstatus, hnone, hexit, begin, position, log, entry, outcomes, items, hbegin,
      hchosen, hentry, hcoming, hleft, hsweep⟩
    have henters : delivery.EntersPart state left position :=
      h.entersPart hnames hstatus hbegin hchosen hentry hcoming (by rw [hleft])
    have hposition := (hfrom position entry hentry).1 hcoming
    subst hleft
    refine ⟨(h.enterPart hsweep position).congr rfl rfl rfl rfl rfl rfl, id, position + 1, by omega,
      hfrom.enterAt hentry hcoming, fun _ => ?_⟩
    exact ⟨hexit, position, henters, hposition, Nat.lt_succ_self position, henters.findIdx? hnone⟩
  | select now ref =>
    rw [serve, ensures_map]
    refine (delivery.ensures_select ref).mono ?_ fun _ _ _ => trivial
    rintro _ _ ⟨-, _, _, index, outcomes, between, items, -, -, -, -, -, -, rfl, hsuspend, henter⟩
    have hline := (h.suspend hsuspend).enter henter
    exact .of_parts_eq (hline.congr rfl rfl rfl rfl rfl rfl) id hfrom rfl rfl
  | advance now =>
    rw [serve, ensures_map]
    refine delivery.ensures_advance.mono ?_ fun _ _ _ => trivial
    rintro _ _ ⟨_, next, outcomes, between, items, -, rfl, hsuspend, henter⟩
    have hline := (h.suspend hsuspend).enter henter
    exact .of_parts_eq (hline.congr rfl rfl rfl rfl rfl rfl) id hfrom rfl rfl
  | respond now responses =>
    rw [serve, ensures_map]
    refine (delivery.ensures_respond responses).mono ?_ fun _ _ _ => trivial
    rintro _ _ ⟨-, _, _, _, place, outcomes, ends, passes, outcomeRuns, items, -, -, -, -, -, rfl,
      hsweep⟩
    exact .of_parts_eq ((h.respond hsweep).congr rfl rfl rfl rfl rfl rfl) hkeep hfrom rfl rfl
  | endPart now =>
    rw [serve, ensures_map]
    refine delivery.ensures_endPart.mono ?_ fun _ _ _ => trivial
    rintro _ _ ⟨-, _, _, outcomes, ends, passes, outcomeRuns, pendingBranch, between, scored, items,
      hpart, ⟨entry, hentry, rfl, hstatus⟩, -, rfl, hsuspend, hscore, hclose, hbranch, -⟩
    have hfinished := (h.suspend hsuspend).finish hpart hscore hclose
    refine ⟨(hfinished.endPart hentry hstatus hbranch).congr rfl rfl rfl rfl rfl rfl, hkeep, first,
      Nat.le_refl _, ?_, fun henters => Bool.noConfusion henters⟩
    exact hfrom.endAt (nodup_of_heads h.plan h.heads) hentry hstatus
  | exit now =>
    rw [serve, ensures_map]
    refine delivery.ensures_exit.mono ?_ fun _ _ _ => trivial
    rintro _ _ ⟨-, -, outcomes, rfl⟩
    refine ⟨⟨h.plan, (map_map_skipPart head_skipPart _).trans h.heads, fun hopen => ?_, h.prepared,
      h.closed⟩, id, _, Nat.le_max_left _ _, comeFrom_skip first state.parts,
      fun henters => Bool.noConfusion henters⟩
    exact absurd rfl hopen

end names

/-! ### Runs -/

variable {call : TestCall} {calls : List TestCall}

/-- The positions of the parts that were entered, in turn. -/
def entered (calls : List TestCall) : List Nat := calls.filterMap TestCall.entered?

/-- What holds of the parts that are entered in a run, and of the branch that is taken. -/
structure EntersInOrder (delivery : TestDelivery) (calls : List TestCall) (left : TestState) :
    Prop where
  /-- Parts are entered in order, and none of them twice. -/
  increasing : (entered calls).Pairwise (· < ·)
  /-- Every part is entered by the rule. -/
  byRule : ∀ call ∈ calls, call.enters = true → ∃ position, call.entered? = some position ∧
    delivery.EntersPart call.before call.after position
  /-- While the test is not exited, a branch leads to a part that is still to come, behind all that
  were entered. -/
  pending : left.status ≠ .exited → ∀ target, left.pendingBranch = some target →
    ∃ position entry, left.parts[position]? = some entry ∧ entry.identifier = target ∧
      entry.status = .notEntered ∧ ∀ i ∈ entered calls, i < position
  /-- Once a branch or a rule has ended the test, no part is entered. -/
  ends : calls.Pairwise fun call later =>
    call.after.exitRequested = true → later.enters = false
  /-- A branch that is taken ends the test or is the one that is followed. -/
  branches : ∀ call ∈ calls, ∀ now step target, call.request = .endPart now →
    (delivery.endPart now).run.run call.before = (.ok step, call.after) →
    step.outcome = some target →
    if target.isExitTest then call.after.exitRequested = true
    else call.after.pendingBranch = some target

section names

variable (hnames : (delivery.definition.parts.map (·.identifier)).Nodup)

include hnames

/-- What a call makes of the parts of a session that is in line. -/
theorem InLine.makes (h : delivery.InLine call.before) (hfrom : ComeFrom call.before.parts first)
    (hmakes : delivery.Makes call) :
    delivery.InLine call.after ∧
      (call.before.exitRequested = true → call.after.exitRequested = true ∧ call.enters = false) ∧
      ∃ next, first ≤ next ∧ ComeFrom call.after.parts next ∧
        (call.enters = true → ∃ position, call.entered? = some position ∧ first ≤ position ∧
          position < next ∧ delivery.EntersPart call.before call.after position) := by
  obtain ⟨hserved, hrun⟩ | ⟨hserved, hstalls⟩ := hmakes.served_or_stalls h.prepared_of_closed
  · obtain ⟨hline, hends, next, hle, hnext, henters⟩ :=
      (h.ensures_serve hnames hfrom call.request).ok hrun
    simp only [TestCall.entered?, TestCall.enters, hserved, Bool.true_and]
    refine ⟨hline, fun hexit => ⟨hends hexit, ?_⟩, next, hle, hnext, fun henter => ?_⟩
    · rw [Bool.eq_false_iff]
      exact fun henter => absurd (hexit.symm.trans (henters henter).1) nofun
    · obtain ⟨-, position, hrule, hfirst, hlast, hindex⟩ := henters henter
      rw [if_pos henter]
      exact ⟨position, hindex, hfirst, hlast, hrule⟩
  · simp only [TestCall.enters, hserved, Bool.false_and]
    have hline := h.stalls hstalls
    obtain ⟨now, indices, outcomes, items, lastEvent, hafter, -⟩ := hstalls
    have hparts : call.after.parts = call.before.parts := by rw [hafter]
    have hexit : call.after.exitRequested = call.before.exitRequested := by rw [hafter]
    refine ⟨hline, fun hends => ⟨hexit.trans hends, trivial⟩, first, Nat.le_refl _, ?_, nofun⟩
    rw [hparts]
    exact hfrom

/-- Once a test was ended, no part is entered. -/
theorem Run.not_enters (h : delivery.Run state calls left) (hline : delivery.InLine state)
    (hfrom : ComeFrom state.parts first) (hexit : state.exitRequested = true) :
    ∀ call ∈ calls, call.enters = false := by
  induction h generalizing first with
  | nil =>
    intro call hcall
    cases hcall
  | cons hmakes _ ih =>
    obtain ⟨hnext, hends, next, -, hcome, -⟩ := hline.makes hnames hfrom hmakes
    intro call hcall
    rcases List.mem_cons.1 hcall with rfl | hcall
    · exact (hends hexit).2
    · exact ih hnext hcome (hends hexit).1 call hcall

/-- Parts are entered behind those that were entered before, and a branch leads behind them all. -/
theorem Run.pairwise_entered (h : delivery.Run state calls left) (hline : delivery.InLine state)
    (hfrom : ComeFrom state.parts first) :
    (entered calls).Pairwise (· < ·) ∧ (∀ i ∈ entered calls, first ≤ i) ∧ delivery.InLine left ∧
      ∃ last, ComeFrom left.parts last ∧ first ≤ last ∧ ∀ i ∈ entered calls, i < last := by
  induction h generalizing first with
  | nil => exact ⟨.nil, nofun, hline, first, hfrom, Nat.le_refl _, nofun⟩
  | @cons call calls left hmakes _ ih =>
    obtain ⟨hnext, -, next, hle, hcome, henters⟩ := hline.makes hnames hfrom hmakes
    obtain ⟨hpairwise, hlater, hleft, last, hlast, hnextLast, hbefore⟩ := ih hnext hcome
    rw [entered, List.filterMap_cons]
    split
    next =>
      exact ⟨hpairwise, fun i hi => Nat.le_trans hle (hlater i hi), hleft, last, hlast,
        Nat.le_trans hle hnextLast, hbefore⟩
    next position hposition =>
      have henter : call.enters = true := by
        by_contra hnot
        rw [TestCall.entered?, if_neg hnot] at hposition
        cases hposition
      obtain ⟨found, hfound, hfirst, hlt, -⟩ := henters henter
      obtain rfl := Option.some.inj (hposition.symm.trans hfound)
      refine ⟨List.pairwise_cons.2 ⟨fun i hi => Nat.lt_of_lt_of_le hlt (hlater i hi), hpairwise⟩,
        fun i hi => ?_, hleft, last, hlast, Nat.le_trans hle hnextLast, fun i hi => ?_⟩
      · rcases List.mem_cons.1 hi with rfl | hi
        · exact hfirst
        · exact Nat.le_trans hle (hlater i hi)
      · rcases List.mem_cons.1 hi with rfl | hi
        · exact Nat.lt_of_lt_of_le hlt hnextLast
        · exact hbefore i hi

/-- Every part is entered by the rule, and none once the test was ended. -/
theorem Run.forall_entersPart (h : delivery.Run state calls left) (hline : delivery.InLine state)
    (hfrom : ComeFrom state.parts first) :
    (∀ call ∈ calls, call.enters = true → ∃ position, call.entered? = some position ∧
        delivery.EntersPart call.before call.after position) ∧
      calls.Pairwise fun call later =>
        call.after.exitRequested = true → later.enters = false := by
  induction h generalizing first with
  | nil =>
    refine ⟨fun call hcall => ?_, .nil⟩
    cases hcall
  | @cons call calls left hmakes hrest ih =>
    obtain ⟨hnext, -, next, -, hcome, henters⟩ := hline.makes hnames hfrom hmakes
    obtain ⟨hrule, hends⟩ := ih hnext hcome
    refine ⟨fun other hother henter => ?_, List.pairwise_cons.2 ⟨fun later hlater hexit => ?_,
      hends⟩⟩
    · rcases List.mem_cons.1 hother with rfl | hother
      · obtain ⟨position, hposition, -, -, hentersPart⟩ := henters henter
        exact ⟨position, hposition, hentersPart⟩
      · exact hrule other hother henter
    · exact hrest.not_enters hnames hnext hcome hexit later hlater

/-- In every run from a new session, parts are entered in the order of the test, each at most once
and by the rule, and none is entered once the test was ended. While the test is not exited, a branch
leads to a part that is still to come, behind all that were entered. -/
theorem Run.entersInOrder (hcreate : delivery.create seed = .ok state)
    (h : delivery.Run state calls left) : delivery.EntersInOrder calls left := by
  obtain ⟨hline, hfrom⟩ := ((yields_iff.1 yields_create).1 state hcreate).inLine
  obtain ⟨hpairwise, -, hleft, last, hlast, -, hbefore⟩ := h.pairwise_entered hnames hline hfrom
  obtain ⟨hrule, hends⟩ := h.forall_entersPart hnames hline hfrom
  refine ⟨hpairwise, hrule, fun hopen target htarget => ?_, hends, ?_⟩
  · obtain ⟨entry, hentry, hnamed, hcoming⟩ := hleft.pending hopen target htarget
    obtain ⟨position, hposition⟩ := List.getElem?_of_mem hentry
    have hlate := (hlast position entry hposition).1 hcoming
    exact ⟨position, entry, hposition, hnamed, hcoming,
      fun i hi => Nat.lt_of_lt_of_le (hbefore i hi) hlate⟩
  · intro call _ now step target _ hrun hstep
    obtain ⟨-, _, _, outcomes, ends, _, _, pendingBranch, _, _, items, -, -, -, hafter, -, -, -, -,
      htaken⟩ := delivery.ensures_endPart.ok hrun
    have hbranch := htaken target hstep
    split at hbranch
    next hexit =>
      rw [if_pos hexit, hafter, hbranch]
      exact Bool.or_true _
    next hexit =>
      rw [if_neg hexit, hafter]
      exact hbranch

end names

end TestDelivery

/-! ### A test with a branch -/

/-- A test with three parts. Behind the first one a branch leads to the last. -/
def TestDefinition.branching : TestDefinition :=
  let part (name : Identifier) (rules : List BranchRule) : TestPart :=
    ⟨name, .linear, .individual, [], rules, none, []⟩
  let last : Identifier := ⟨"C", by decide +kernel⟩
  { TestDefinition.single .linear .individual with
    parts := [part ⟨"A", by decide +kernel⟩ [⟨last, .baseValue (.boolean true)⟩],
      part ⟨"B", by decide +kernel⟩ [], part last []] }

/-- The test with a branch, with an engine that has no extensions. -/
def TestDelivery.branching : TestDelivery :=
  ⟨.branching, ⟨.empty, .default⟩, ⟨.sha256, "test"⟩, .empty⟩

namespace TestDelivery

/-- The branch leads from the first part to the last, and the one between is passed over. A request
to enter the test again is refused. -/
theorem entersInOrder_branching :
    ∃ start calls left, branching.create 0 = .ok start ∧ branching.Run start calls left ∧
      calls.length = 5 ∧ entered calls = [0, 2] ∧
      left.parts.map (·.status) = [.ended, .skipped, .interacting] ∧
      branching.EntersInOrder calls left := by
  have hsession : (branching.runFrom 0 [.enterTest (.logical 0), .enterPart (.unixMillis 0),
      .enterTest (.logical 0), .endPart (.logical 0), .enterPart (.unixMillis 0)]).any
      (fun (_, calls, left) => calls.length = 5 && entered calls = [0, 2] &&
        left.parts.map (·.status) = [.ended, .skipped, .interacting]) = true := by
    decide +kernel
  obtain ⟨⟨start, calls, left⟩, hmake, hcheck⟩ := (Option.any_eq_true _ _).1 hsession
  simp only [Bool.and_eq_true, decide_eq_true_eq] at hcheck
  obtain ⟨⟨hlength, hentered⟩, hstatuses⟩ := hcheck
  obtain ⟨hcreate, hrun⟩ := run_of_runFrom hmake
  exact ⟨start, calls, left, hcreate, hrun, hlength, hentered, hstatuses,
    hrun.entersInOrder (by decide +kernel) hcreate⟩

/-- When a test is exited behind a part from which a branch was taken, the part that the branch
leads to is passed over, and the branch still leads to it. -/
theorem not_forall_pendingBranch_notEntered :
    ¬∀ (delivery : TestDelivery) (seed : UInt64) (start left : TestState)
      (calls : List TestCall), (delivery.definition.parts.map (·.identifier)).Nodup →
      delivery.create seed = .ok start → delivery.Run start calls left →
      ∀ target, left.pendingBranch = some target →
        ∃ entry ∈ left.parts, entry.identifier = target ∧ entry.status = .notEntered := by
  intro hleads
  have hsession : (branching.runFrom 0 [.enterTest (.logical 0), .enterPart (.unixMillis 0),
      .endPart (.logical 0), .exit (.unixMillis 0)]).any (fun (_, _, left) =>
        left.pendingBranch.isSome && left.parts.all (·.status ≠ .notEntered)) = true := by
    decide +kernel
  obtain ⟨⟨start, calls, left⟩, hmake, hcheck⟩ := (Option.any_eq_true _ _).1 hsession
  simp only [Bool.and_eq_true, List.all_eq_true, decide_eq_true_eq] at hcheck
  obtain ⟨hpending, hpassed⟩ := hcheck
  obtain ⟨hcreate, hrun⟩ := run_of_runFrom hmake
  obtain ⟨target, htarget⟩ := Option.isSome_iff_exists.1 hpending
  obtain ⟨entry, hentry, -, hcoming⟩ := hleads branching 0 start left calls (by decide +kernel)
    hcreate hrun target htarget
  exact hpassed entry hentry hcoming

end TestDelivery

end Assessment
