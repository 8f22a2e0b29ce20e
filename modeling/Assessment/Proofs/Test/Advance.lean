import Assessment.Proofs.Test.Conditions
import Assessment.Proofs.Test.Cursor
import Assessment.Proofs.Test.Linear

/-!
# Advancing

In a part that is visited in order, advancing looks for the next item among those behind the current
one, and passes over the items whose conditions do not hold. It comes to the first item that is
eligible, or to the end of the part.

## Main definitions

- `TestDelivery.Eligible`: the conditions of an item are true of a session.
- `TestPlan.Visits`: the items that come up when the next item is taken over and over.
- `TestDelivery.PassesOver`: what a search for the next item passes over, and what it comes to.
- `TestDelivery.ReportsSkips`: what such a search reports.
- `TestDelivery.Advances`: what a request to advance does that is served.

## Main results

- `TestPlan.visits_itemsBehind`: the items of a part come to an end.
- `TestDelivery.yields_nextItem_passesOver`: what the search for the next item passes over.
- `TestDelivery.Attains.advances`: advancing comes to the first eligible item.
-/

namespace Assessment

open Action

/-! ### Taking the next item over and over -/

/-- Where an element splits an increasing list, the smaller ones are those before it. -/
theorem filter_gt_of_pairwise {before rest : List Nat} {next : Nat}
    (h : (before ++ next :: rest).Pairwise (· < ·)) :
    (before ++ next :: rest).filter (· < next) = before := by
  rw [List.pairwise_append, List.pairwise_cons] at h
  obtain ⟨-, ⟨hrest, -⟩, hbefore⟩ := h
  have hkept : before.filter (· < next) = before :=
    List.filter_eq_self.2 fun i hi => decide_eq_true (hbefore i hi next List.mem_cons_self)
  have hnone : rest.filter (· < next) = [] := by
    refine List.filter_eq_nil_iff.2 fun i hi hlt => ?_
    exact Nat.lt_asymm (hrest i hi) (of_decide_eq_true hlt)
  simp [hkept, hnone]

namespace TestPlan

variable {plan : TestPlan} {part : Nat} {cursor : Option Nat}

/-- From an item on, or from the start of a part, the next item is taken over and over: some items
come up, and then there is none left. -/
inductive Visits (plan : TestPlan) (part : Nat) : Option Nat → List Nat → Prop
  /-- There is no next item. -/
  | ends {cursor : Option Nat} : plan.nextItemInPart? part cursor = none →
    Visits plan part cursor []
  /-- The next item comes up, and then the others. -/
  | goesOn {cursor : Option Nat} {index : Nat} {rest : List Nat} :
    plan.nextItemInPart? part cursor = some index → Visits plan part (some index) rest →
    Visits plan part cursor (index :: rest)

/-- The items of a part that are behind one item and before another, or up to the end of the
part. -/
def itemsBetween (plan : TestPlan) (part : Nat) (cursor : Option Nat) : Option Nat → List Nat
  | none => plan.itemsBehind part cursor
  | some next => (plan.itemsBehind part cursor).filter (· < next)

/-- The current item is not behind itself. -/
theorem not_mem_of_mem_itemsBehind {index : Nat} (h : index ∈ plan.itemsBehind part cursor) :
    index ∉ cursor.toList := by
  cases cursor with
  | none => exact List.not_mem_nil
  | some current =>
    have hlt : current < index := of_decide_eq_true (List.mem_filter.1 h).2
    exact fun hmem => absurd (List.mem_singleton.1 hmem) (Nat.ne_of_gt hlt)

section ordered

variable (hordered : (plan.itemsUnder part).Pairwise (· < ·))

include hordered

/-- The items behind the current one are listed in order. -/
theorem pairwise_itemsBehind (cursor : Option Nat) :
    (plan.itemsBehind part cursor).Pairwise (· < ·) := by
  cases cursor with
  | none => exact hordered
  | some current => exact hordered.filter _

/-- The next item is the first behind the current one, and the others are behind that one. -/
theorem nextItemInPart?_of_cons {index : Nat} {rest : List Nat}
    (hcursor : ∀ current, cursor = some current → current ∈ plan.itemsUnder part)
    (hbehind : plan.itemsBehind part cursor = index :: rest) :
    plan.nextItemInPart? part cursor = some index ∧ index ∈ plan.itemsUnder part ∧
      plan.itemsBehind part (some index) = rest := by
  have hnext := nextItemInPart?_eq hordered hcursor
  rw [hbehind, List.head?_cons] at hnext
  exact ⟨hnext, mem_of_nextItemInPart? hnext,
    itemsBehind_eq hordered hcursor (show _ = [] ++ index :: rest from hbehind)⟩

/-- There are no more items behind the current one than in the part. -/
theorem length_itemsBehind_le
    (hcursor : ∀ current, cursor = some current → current ∈ plan.itemsUnder part) :
    (plan.itemsBehind part cursor).length ≤ (plan.itemsUnder part).length := by
  have hlength := (sublist_itemsUnder hordered hcursor).length_le
  rw [List.length_append] at hlength
  omega

/-- The items behind the current one come up, and there they end. -/
theorem visits_itemsBehind
    (hcursor : ∀ current, cursor = some current → current ∈ plan.itemsUnder part) :
    plan.Visits part cursor (plan.itemsBehind part cursor) := by
  generalize hbehind : plan.itemsBehind part cursor = behind
  induction behind generalizing cursor with
  | nil => exact .ends (by rw [nextItemInPart?_eq hordered hcursor, hbehind, List.head?_nil])
  | cons index rest ih =>
    obtain ⟨hnext, hmem, hrest⟩ := nextItemInPart?_of_cons hordered hcursor hbehind
    refine .goesOn hnext (ih ?_ hrest)
    rintro _ ⟨⟩
    exact hmem

end ordered

end TestPlan

namespace TestDelivery

variable {delivery : TestDelivery} {state left : TestState} {part : Nat} {now : Timestamp}

/-! ### Items that are eligible -/

/-- The conditions of the reference to an item are true of a session. -/
def Eligible (delivery : TestDelivery) (state : TestState) (index : Nat) : Prop :=
  ∃ place, state.plan.place index = .ok place ∧
    ∃ ref ∈ delivery.definition.itemRefs, ref.names = place.names ∧
      delivery.Meets state ref.preConditions

section distinct

variable (hdistinct : (delivery.definition.itemRefs.map ItemRef.identifier).Nodup)

include hdistinct

/-- Where references have distinct names, each is found by its name. -/
theorem itemRef?_of_mem {ref : ItemRef} (href : ref ∈ delivery.definition.itemRefs) :
    delivery.definition.itemRef? ref.identifier = some ref :=
  find?_name_of_mem hdistinct href

/-- An item that is asked for its conditions is found eligible just if it is. -/
theorem Permits.eligible_iff (hplan : TestPlan.build delivery.definition = .ok state.plan)
    {index : Nat} {holds : Bool} (h : delivery.Permits state index holds) :
    holds = true ↔ delivery.Eligible state index := by
  obtain ⟨place, log, hplace, hholds⟩ := h
  obtain ⟨ref, href, hnames⟩ := List.mem_map.1 (TestPlan.names_mem_of_place hplan hplace)
  have hfound : delivery.definition.itemRef? place.ref = some ref := by
    rw [← itemRef?_of_mem hdistinct href]
    exact congrArg delivery.definition.itemRef? (congrArg Prod.fst hnames).symm
  rw [hfound, Option.map_some, Option.getD_some] at hholds
  have hmeets := ((yields_iff.1 (delivery.yields_conditionsHold state _)).1 _ hholds).2
  rw [hmeets]
  constructor
  · exact fun hmeets => ⟨place, hplace, ref, href, hnames, hmeets⟩
  · rintro ⟨other, hother, otherRef, hotherRef, hotherNames, hmeets⟩
    obtain rfl := Except.ok.inj (hplace.symm.trans hother)
    -- There is no other reference of the name.
    have hsame : otherRef.identifier = ref.identifier :=
      congrArg Prod.fst (hotherNames.trans hnames.symm)
    have hfound := itemRef?_of_mem hdistinct hotherRef
    rw [hsame, itemRef?_of_mem hdistinct href] at hfound
    rwa [Option.some.inj hfound]

end distinct

/-! ### The search -/

/-- What a search for the next item among some items passes over, and what it comes to. -/
structure PassesOver (delivery : TestDelivery) (state : TestState) (indices skipped : List Nat)
    (next : Option (Nat × ItemPlace)) : Prop where
  /-- The items that are passed over come first, and then the next one. Where there is none, all are
  passed over. -/
  split : ∃ rest, indices = skipped ++ ((next.map (·.1)).toList ++ rest) ∧
    (next = none → rest = [])
  /-- The conditions of the items that are passed over do not hold. -/
  skips : ∀ i ∈ skipped, delivery.Permits state i false
  /-- Those of the next item do. -/
  permits : ∀ i place, next = some (i, place) →
    delivery.Permits state i true ∧ state.plan.place i = .ok place

/-- The notifications of a log that are about the course of a session. -/
def lifecycle (log : NotificationLog) : List Notification :=
  log.entries.filter (·.kind = .lifecycle)

/-- What is reported of an item that is passed over. -/
def skipNote (place : ItemPlace) : Notification :=
  ⟨.info, .lifecycle, place.ref.text, .itemSkipped⟩

/-- Reports about evaluation are not about the course of a session. -/
theorem lifecycle_extend {log notes : NotificationLog} (h : notes.IsEvaluation) :
    lifecycle (log.extend notes) = lifecycle log := by
  have hnone : (notes.entries.filter fun entry => log.keeps entry.level).filter
      (·.kind = .lifecycle) = [] := by
    refine List.filter_eq_nil_iff.2 fun entry hentry hkind => ?_
    rw [h entry (List.mem_of_mem_filter hentry)] at hkind
    cases of_decide_eq_true hkind
  rw [lifecycle, NotificationLog.extend, List.filter_append, hnone, List.append_nil, lifecycle]

/-- A log that keeps all notifications keeps what is reported of an item. -/
theorem lifecycle_record_skipNote {log : NotificationLog} (hlevel : log.keeps .info = true)
    (place : ItemPlace) :
    lifecycle (log.record (skipNote place)) = lifecycle log ++ [skipNote place] := by
  have hkeeps : log.keeps (skipNote place).level = true := hlevel
  rw [lifecycle, NotificationLog.record, if_pos hkeeps, List.filter_append]
  rfl

/-- What a log reports that goes on from another: each of the items that are passed over, in order,
if everything is reported. -/
def ReportsSkips (state : TestState) (skipped : List Nat) (log later : NotificationLog) : Prop :=
  log.keeps .info = true → ∃ notes, lifecycle later = lifecycle log ++ notes ∧
    List.Forall₂ (fun i note => ∃ place, state.plan.place i = .ok place ∧ note = skipNote place)
      skipped notes

namespace ReportsSkips

variable {log notes later : NotificationLog} {skipped : List Nat}

theorem refl : ReportsSkips state [] log log := fun _ => ⟨[], (List.append_nil _).symm, .nil⟩

/-- What is reported of the evaluation of conditions is of no item. -/
theorem extend (hquiet : notes.IsEvaluation) : ReportsSkips state [] log (log.extend notes) :=
  fun _ => ⟨[], by rw [lifecycle_extend hquiet, List.append_nil], .nil⟩

/-- An item is reported before those behind it. -/
theorem cons {index : Nat} {place : ItemPlace}
    (h : ReportsSkips state skipped ((log.extend notes).record (skipNote place)) later)
    (hquiet : notes.IsEvaluation) (hplace : state.plan.place index = .ok place) :
    ReportsSkips state (index :: skipped) log later := by
  intro hlevel
  have hkeeps : (log.extend notes).keeps .info = true := hlevel
  obtain ⟨rest, hlater, hall⟩ := h (by rwa [NotificationLog.keeps_record])
  refine ⟨skipNote place :: rest, ?_, .cons ⟨place, hplace, rfl⟩ hall⟩
  rw [hlater, lifecycle_record_skipNote hkeeps, lifecycle_extend hquiet, List.append_assoc]
  rfl

end ReportsSkips

namespace PassesOver

variable {indices skipped : List Nat} {next : Option (Nat × ItemPlace)}

theorem nil : delivery.PassesOver state [] [] none where
  split := ⟨[], rfl, fun _ => rfl⟩
  skips := List.forall_mem_nil _
  permits := by rintro _ _ ⟨⟩

/-- Nothing is passed over where the conditions of the first item hold. -/
theorem here {index : Nat} {place : ItemPlace} (hpermits : delivery.Permits state index true)
    (hplace : state.plan.place index = .ok place) :
    delivery.PassesOver state (index :: indices) [] (some (index, place)) where
  split := ⟨indices, rfl, by rintro ⟨⟩⟩
  skips := List.forall_mem_nil _
  permits := by
    rintro _ _ ⟨⟩
    exact ⟨hpermits, hplace⟩

/-- An item whose conditions do not hold is passed over before those behind it. -/
theorem cons {index : Nat} (h : delivery.PassesOver state indices skipped next)
    (hpermits : delivery.Permits state index false) :
    delivery.PassesOver state (index :: indices) (index :: skipped) next where
  split := by
    obtain ⟨rest, rfl, hnone⟩ := h.split
    exact ⟨rest, rfl, hnone⟩
  skips := List.forall_mem_cons.2 ⟨hpermits, h.skips⟩
  permits := h.permits

/-- The items that are passed over are those before the next one. -/
theorem filter_eq (h : delivery.PassesOver state indices skipped next)
    (hordered : indices.Pairwise (· < ·)) {i : Nat} {place : ItemPlace}
    (hnext : next = some (i, place)) : indices.filter (· < i) = skipped := by
  obtain ⟨rest, rfl, -⟩ := h.split
  subst hnext
  exact filter_gt_of_pairwise hordered

theorem eq_of_none (h : delivery.PassesOver state indices skipped none) : indices = skipped := by
  obtain ⟨rest, rfl, hnone⟩ := h.split
  rw [hnone rfl]
  simp

section distinct

variable (hdistinct : (delivery.definition.itemRefs.map ItemRef.identifier).Nodup)
  (hplan : TestPlan.build delivery.definition = .ok state.plan)
  (h : delivery.PassesOver state indices skipped next)

include hdistinct hplan h

theorem not_eligible {i : Nat} (hi : i ∈ skipped) : ¬delivery.Eligible state i := fun heligible =>
  Bool.false_ne_true (((h.skips i hi).eligible_iff hdistinct hplan).2 heligible)

theorem eligible {i : Nat} {place : ItemPlace} (hnext : next = some (i, place)) :
    delivery.Eligible state i :=
  ((h.permits i place hnext).1.eligible_iff hdistinct hplan).1 rfl

/-- The search comes to the end just if no item is eligible. -/
theorem eq_none_iff : next.map (·.1) = none ↔ ∀ i ∈ indices, ¬delivery.Eligible state i := by
  cases next with
  | none =>
    refine iff_of_true rfl fun i hi => ?_
    rw [h.eq_of_none] at hi
    exact h.not_eligible hdistinct hplan hi
  | some found =>
    refine iff_of_false nofun fun hnone => ?_
    obtain ⟨rest, hsplit, -⟩ := h.split
    refine hnone found.1 ?_ (h.eligible hdistinct hplan rfl)
    simp [hsplit]

/-- The search comes to an item just if it is the first that is eligible. -/
theorem eq_some_iff (hordered : indices.Pairwise (· < ·)) (i : Nat) :
    next.map (·.1) = some i ↔ i ∈ indices ∧ delivery.Eligible state i ∧
      ∀ j ∈ indices, j < i → ¬delivery.Eligible state j := by
  have hfirst : ∀ {found : Nat × ItemPlace}, next = some found →
      found.1 ∈ indices ∧ delivery.Eligible state found.1 ∧
        ∀ j ∈ indices, j < found.1 → ¬delivery.Eligible state j := by
    rintro ⟨index, place⟩ rfl
    obtain ⟨rest, hsplit, -⟩ := h.split
    refine ⟨by simp [hsplit], h.eligible hdistinct hplan rfl, fun j hj hlt => ?_⟩
    refine h.not_eligible hdistinct hplan ?_
    rw [← h.filter_eq hordered rfl]
    exact List.mem_filter.2 ⟨hj, decide_eq_true hlt⟩
  constructor
  · intro hnext
    obtain ⟨found, hfound, rfl⟩ := Option.map_eq_some_iff.1 hnext
    exact hfirst hfound
  · rintro ⟨hi, heligible, hbefore⟩
    cases hnext : next with
    | none =>
      subst hnext
      exact absurd heligible ((h.eq_none_iff hdistinct hplan).1 rfl i hi)
    | some found =>
      -- Of two eligible items that are first, neither is before the other.
      obtain ⟨hmem, hfound, hsmaller⟩ := hfirst hnext
      rcases Nat.lt_trichotomy i found.1 with hlt | rfl | hgt
      · exact absurd heligible (hsmaller i hi hlt)
      · rfl
      · exact absurd hfound (hbefore found.1 hmem hgt)

end distinct

end PassesOver

variable (delivery)

/-- The search for the next item passes over the items behind the current one whose conditions do
not hold, and reports each of them, if as many items are tried as there are. -/
theorem yields_nextItem_passesOver (hordered : (state.plan.itemsUnder part).Pairwise (· < ·))
    {tries : Nat} {cursor : Option Nat} (log : NotificationLog)
    (hcursor : ∀ current, cursor = some current → current ∈ state.plan.itemsUnder part)
    (htries : (state.plan.itemsBehind part cursor).length ≤ tries) :
    Yields (delivery.nextItem state part tries cursor log)
      (fun found => ∃ skipped,
        delivery.PassesOver state (state.plan.itemsBehind part cursor) skipped found.1 ∧
          ReportsSkips state skipped log found.2)
      fun _ => True := by
  -- Each try takes the first of the items behind, and goes on with what is behind that one.
  generalize hbehind : state.plan.itemsBehind part cursor = behind at htries
  induction tries generalizing cursor log behind with
  | zero =>
    rw [List.length_eq_zero_iff.1 (Nat.le_zero.1 htries)]
    exact ⟨[], .nil, .refl⟩
  | succ tries ih =>
    rw [nextItem]
    cases behind with
    | nil =>
      have hnone := TestPlan.nextItemInPart?_eq hordered hcursor
      rw [hbehind, List.head?_nil] at hnone
      simp only [hnone]
      exact ⟨[], .nil, .refl⟩
    | cons index rest =>
      obtain ⟨hnext, hmem, hrest⟩ := TestPlan.nextItemInPart?_of_cons hordered hcursor hbehind
      simp only [hnext]
      rw [yields_bind]
      cases hplace : state.plan.place index with
      | error error => trivial
      | ok place =>
        rw [yields_ok, yields_bind]
        cases hholds : delivery.conditionsHold state _ with
        | error error => trivial
        | ok result =>
          obtain ⟨holds, notes⟩ := result
          have hquiet := ((yields_iff.1 (delivery.yields_conditionsHold state _)).1 _ hholds).1
          have hpermits : delivery.Permits state index holds := ⟨place, notes, hplace, hholds⟩
          rw [yields_ok]
          dsimp only
          split
          next htrue =>
            subst htrue
            exact ⟨[], .here hpermits hplace, .extend hquiet⟩
          next hfalse =>
            rw [Bool.not_eq_true] at hfalse
            subst hfalse
            refine (ih _ ?_ _ hrest (Nat.le_of_succ_le_succ htries)).mono ?_ fun _ h => h
            · rintro _ ⟨⟩
              exact hmem
            · rintro found ⟨skipped, hpasses, hreports⟩
              exact ⟨index :: skipped, hpasses.cons hpermits, hreports.cons hquiet hplace⟩

/-- To try more items than there are behind the current one makes no difference. -/
theorem nextItem_of_le (hordered : (state.plan.itemsUnder part).Pairwise (· < ·))
    {tries : Nat} {cursor : Option Nat} (log : NotificationLog)
    (hcursor : ∀ current, cursor = some current → current ∈ state.plan.itemsUnder part)
    (htries : (state.plan.itemsBehind part cursor).length ≤ tries) :
    delivery.nextItem state part tries cursor log =
      delivery.nextItem state part (state.plan.itemsBehind part cursor).length cursor log := by
  generalize hbehind : state.plan.itemsBehind part cursor = behind at htries
  induction behind generalizing cursor log tries with
  | nil =>
    have hnone := TestPlan.nextItemInPart?_eq hordered hcursor
    rw [hbehind, List.head?_nil] at hnone
    cases tries with
    | zero => rfl
    | succ tries => simp only [nextItem, hnone, List.length_nil]
  | cons index rest ih =>
    obtain ⟨hnext, hmem, hrest⟩ := TestPlan.nextItemInPart?_of_cons hordered hcursor hbehind
    obtain ⟨tries, rfl⟩ := Nat.exists_eq_add_one_of_ne_zero (Nat.ne_zero_of_lt htries)
    have hsame : ∀ log, delivery.nextItem state part tries (some index) log =
        delivery.nextItem state part rest.length (some index) log := fun log => by
      refine ih log ?_ hrest (Nat.le_of_succ_le_succ htries)
      rintro _ ⟨⟩
      exact hmem
    rw [List.length_cons, nextItem, nextItem]
    simp only [hnext, hsame]

/-! ### The request -/

/-- A request to advance that is served answers with what the search has found. -/
theorem ensures_advance_found :
    (delivery.advance now).Ensures state
      (fun step _ => ∃ part testPart next log, state.currentPart = some part ∧
        delivery.part state.plan part = .ok testPart ∧ testPart.navigation = .linear ∧
        delivery.nextItem state part (state.plan.itemsUnder part).length state.currentItem
          delivery.newLog = .ok (next, log) ∧
        step = ⟨next.map (·.2.ref), log⟩)
      fun _ _ => True := by
  refine delivery.ensures_activePart.bind ?_ fun _ _ _ => trivial
  rintro part _ ⟨-, hcurrent, -, rfl⟩
  rw [ensures_bind, ensures_get]
  refine (TestAction.ensures_lookUp _).bind ?_ fun _ _ _ => trivial
  rintro testPart _ ⟨hpart, rfl⟩
  refine (ensures_requireMode _ _).bind ?_ fun _ _ _ => trivial
  rintro _ _ ⟨hmode, rfl⟩
  refine ensures_requireLeavable.bind ?_ fun _ _ _ => trivial
  rintro _ _ rfl
  refine (TestAction.ensures_lookUp _).bind ?_ fun _ _ _ => trivial
  rintro ⟨next, log⟩ state ⟨hsearch, rfl⟩
  refine (delivery.ensures_leave_bind _).2 ((ensures_run _ _).mono ?_ fun _ _ _ => trivial)
  intro _ left _
  cases next with
  | none => exact ⟨part, testPart, none, log, hcurrent, hpart, hmode, hsearch, rfl⟩
  | some found =>
    refine (ensures_run (delivery.enterItem found.1 now) left).bind ?_ fun _ _ _ => trivial
    exact fun _ _ _ => ⟨part, testPart, some found, log, hcurrent, hpart, hmode, hsearch, rfl⟩

/-- What a request to advance does that is served, in a part that is visited in order: it comes to
the first eligible item behind the current one, or to the end of the part. -/
structure Advances (delivery : TestDelivery) (state : TestState) (part : Nat)
    (step : Step (Option Identifier)) (left : TestState) : Prop where
  /-- The part is visited in order. -/
  linear : ∃ testPart, delivery.part state.plan part = .ok testPart ∧ testPart.navigation = .linear
  /-- The item that is current afterwards is the first behind the one before that is eligible. -/
  currentItem_eq_some_iff : ∀ i, left.currentItem = some i ↔
    i ∈ state.plan.itemsBehind part state.currentItem ∧ delivery.Eligible state i ∧
      ∀ j ∈ state.plan.itemsBehind part state.currentItem, j < i → ¬delivery.Eligible state j
  /-- No item is current afterwards if none is eligible, and only then. -/
  currentItem_eq_none_iff : left.currentItem = none ↔
    ∀ i ∈ state.plan.itemsBehind part state.currentItem, ¬delivery.Eligible state i
  /-- The answer is the name of the item that is current afterwards. -/
  outcome : step.outcome.map .ok =
    left.currentItem.map fun i => (state.plan.place i).map ItemPlace.ref
  /-- Every item that is passed over is reported once, in order, if everything is reported. -/
  notes : delivery.engine.options.level = .info →
    List.Forall₂ (fun i note => ∃ place, state.plan.place i = .ok place ∧
        note = ⟨.info, .lifecycle, place.ref.text, .itemSkipped⟩)
      (state.plan.itemsBetween part state.currentItem left.currentItem)
      (step.log.entries.filter (·.kind = .lifecycle))
  /-- The sessions of the items that are passed over stay as they are. -/
  sessions : ∀ i ∈ state.plan.itemsBetween part state.currentItem left.currentItem, ∀ place,
    state.plan.place i = .ok place → left.items.get? place.ref = state.items.get? place.ref

variable {delivery}

/-- The items of the current part of a placed session are in order, and the current item is among
them. -/
theorem Placed.ordered (h : delivery.Placed state) (hpart : state.currentPart = some part) :
    (state.plan.itemsUnder part).Pairwise (· < ·) ∧
      ∀ current, state.currentItem = some current → current ∈ state.plan.itemsUnder part := by
  refine ⟨TestPlan.pairwise_itemsUnder h.plan (h.currentPart part hpart), ?_⟩
  intro current hcurrent
  obtain ⟨other, hother, hmem⟩ := h.currentItem current hcurrent
  rwa [Option.some.inj (hpart.symm.trans hother)]

/-- What the search of a request to advance passes over and comes to, and what is left where the
request is served. -/
theorem Placed.exists_passesOver (h : delivery.Placed state)
    (hpart : state.currentPart = some part) {step : Step (Option Identifier)}
    (hrun : (delivery.advance now).run.run state = (.ok step, left)) :
    ∃ skipped next log between,
      delivery.PassesOver state (state.plan.itemsBehind part state.currentItem) skipped next ∧
      (delivery.engine.options.level = .info →
        List.Forall₂ (fun i note => ∃ place, state.plan.place i = .ok place ∧
          note = skipNote place) skipped (lifecycle log)) ∧
      (∃ testPart, delivery.part state.plan part = .ok testPart ∧ testPart.navigation = .linear) ∧
      step = ⟨next.map (·.2.ref), log⟩ ∧ left.currentItem = next.map (·.1) ∧
      Sweep delivery state.plan (ItemDelivery.Suspends now) state.currentItem.toList state.items
        between ∧
      Sweep delivery state.plan (ItemDelivery.Enters now) (next.map (·.1)).toList between
        left.items := by
  obtain ⟨hordered, hcursor⟩ := h.ordered hpart
  obtain ⟨_, testPart, next, log, hcurrent, htestPart, hlinear, hsearch, rfl⟩ :=
    delivery.ensures_advance_found.ok hrun
  obtain rfl := Option.some.inj (hpart.symm.trans hcurrent)
  -- What is known of all requests to advance is about the same search.
  obtain ⟨_, found, outcomes, between, items, hadvances, rfl, hsuspend, henter⟩ :=
    delivery.ensures_advance.ok hrun
  obtain ⟨-, hcurrent, -⟩ := delivery.ensures_activePart.ok hadvances.active
  obtain rfl := Option.some.inj (hpart.symm.trans hcurrent)
  obtain ⟨_, hfound⟩ := hadvances.search
  obtain ⟨rfl, -⟩ := Prod.mk.inj (Except.ok.inj (hsearch.symm.trans hfound))
  have htries := TestPlan.length_itemsBehind_le hordered hcursor
  obtain ⟨skipped, hpasses, hnotes⟩ := (yields_iff.1
    (delivery.yields_nextItem_passesOver hordered delivery.newLog hcursor htries)).1 _ hsearch
  refine ⟨skipped, next, log, between, hpasses, fun hlevel => ?_,
    ⟨testPart, htestPart, hlinear⟩, rfl, rfl, hsuspend, henter⟩
  have hkeeps : delivery.newLog.keeps .info = true := by
    rw [newLog, hlevel]
    rfl
  obtain ⟨notes, hlifecycle, hall⟩ := hnotes hkeeps
  rw [hlifecycle]
  exact hall

section distinct

variable (hdistinct : (delivery.definition.itemRefs.map ItemRef.identifier).Nodup)

include hdistinct

theorem Placed.advances (h : delivery.Placed state) (hpart : state.currentPart = some part)
    {step : Step (Option Identifier)}
    (hrun : (delivery.advance now).run.run state = (.ok step, left)) :
    delivery.Advances state part step left := by
  obtain ⟨skipped, next, log, between, hpasses, hnotes, hlinear, rfl, hcurrent, hsuspend,
    henter⟩ := h.exists_passesOver hpart hrun
  have hbehind := TestPlan.pairwise_itemsBehind (h.ordered hpart).1 state.currentItem
  have hbetween : state.plan.itemsBetween part state.currentItem (next.map (·.1)) = skipped := by
    cases hnext : next with
    | none =>
      subst hnext
      exact hpasses.eq_of_none
    | some found => exact hpasses.filter_eq hbehind hnext
  refine ⟨hlinear, ?_, ?_, ?_, ?_, ?_⟩
  · rw [hcurrent]
    exact hpasses.eq_some_iff hdistinct h.plan hbehind
  · rw [hcurrent]
    exact hpasses.eq_none_iff hdistinct h.plan
  · rw [hcurrent]
    cases hnext : next with
    | none => rfl
    | some found =>
      have hplace := (hpasses.permits found.1 found.2 hnext).2
      rw [Option.map_some, Option.map_some, Option.map_some, Option.map_some, hplace]
      rfl
  · rw [hcurrent, hbetween]
    exact hnotes
  · rw [hcurrent, hbetween]
    intro i hi place hplace
    have hnames : ∀ {i j : Nat} {place place' : ItemPlace}, state.plan.place i = .ok place →
        state.plan.place j = .ok place' → place.ref = place'.ref → i = j :=
      fun hi hj => TestPlan.eq_of_place_ref h.plan hdistinct hi hj
    -- Only the item that was current and the next one are touched.
    have hother : i ∉ (next.map (·.1)).toList := fun hmem => by
      obtain ⟨found, hnext, rfl⟩ := Option.map_eq_some_iff.1 (Option.mem_toList.1 hmem)
      exact hpasses.not_eligible hdistinct h.plan hi (hpasses.eligible hdistinct h.plan hnext)
    have hmem : i ∈ state.plan.itemsBehind part state.currentItem := by
      obtain ⟨rest, hsplit, -⟩ := hpasses.split
      rw [hsplit]
      exact List.mem_append_left _ hi
    rw [henter.get?_of_not_mem hnames hother hplace, hsuspend.get?_of_not_mem hnames
      (TestPlan.not_mem_of_mem_itemsBehind hmem) hplace]

/-- However a session was reached, the search for the next item of its current part ends: the items
behind the current one come up, and no more. A request to advance that is served comes to the first
of them whose conditions are all true of the session, or to the end of the part if there is none.
The items in between are reported, and their sessions stay as they are. -/
theorem Attains.advances_to_eligible (h : delivery.Attains state)
    (hpart : state.currentPart = some part) :
    state.plan.Visits part state.currentItem (state.plan.itemsBehind part state.currentItem) ∧
      (∀ tries log, (state.plan.itemsUnder part).length ≤ tries →
        delivery.nextItem state part tries state.currentItem log =
          delivery.nextItem state part (state.plan.itemsUnder part).length state.currentItem log) ∧
      ∀ now step left, (delivery.advance now).run.run state = (.ok step, left) →
        delivery.Advances state part step left := by
  obtain ⟨hordered, hcursor⟩ := h.placed.ordered hpart
  have hlength := TestPlan.length_itemsBehind_le hordered hcursor
  refine ⟨TestPlan.visits_itemsBehind hordered hcursor, fun tries log htries => ?_,
    fun now step left hrun => h.placed.advances hdistinct hpart hrun⟩
  rw [delivery.nextItem_of_le hordered log hcursor (Nat.le_trans hlength htries),
    delivery.nextItem_of_le hordered log hcursor hlength]

end distinct

/-! ### A test with an item that is never presented -/

/-- A test with one part of three items that are visited in order. The condition of the one in the
middle is false. -/
def conditional : TestDelivery :=
  let item : ItemDefinition := .bare ⟨"TASK", by decide +kernel⟩
  let head : SectionHead := ⟨⟨"TASKS", by decide +kernel⟩, "", true, none⟩
  let ref (name : Identifier) (conditions : List Expression) : SectionPart :=
    .itemRef ⟨name, item.identifier, [], conditions, none, []⟩
  let definition : TestDefinition :=
    { identifier := ⟨"SKIPPING", by decide +kernel⟩
      title := ""
      outcomes := []
      outcomeProcessing := []
      parts := [⟨⟨"ROUND", by decide +kernel⟩, .linear, .individual, [], [], none,
        [⟨head, [ref ⟨"TASK1", by decide +kernel⟩ [],
          ref ⟨"TASK2", by decide +kernel⟩ [.baseValue (.boolean false)],
          ref ⟨"TASK3", by decide +kernel⟩ []]⟩]⟩]
      items := [item] }
  ⟨definition, ⟨.empty, .default⟩, ⟨.sha256, "test"⟩,
    .ofList (definition.items.map fun item => (item.identifier, ⟨.sha256, "item"⟩))⟩

/-- Advancing from the first item passes over the second, reports it, and comes to the third. -/
theorem advances_to_eligible_conditional :
    (conditional.definition.itemRefs.map ItemRef.identifier).Nodup ∧
      ∃ state step left, conditional.Attains state ∧ state.currentPart = some 1 ∧
        (conditional.advance (.logical 0)).run.run state = (.ok step, left) ∧
        state.plan.itemsBehind 1 state.currentItem = [4, 5] ∧ left.currentItem = some 5 ∧
        (step.log.entries.filter (·.kind = .lifecycle)).map (·.source) = ["TASK2"] ∧
        ¬conditional.Eligible state 4 ∧ conditional.Eligible state 5 := by
  have hdistinct : (conditional.definition.itemRefs.map ItemRef.identifier).Nodup := by
    decide +kernel
  have hsession : (conditional.sessionAfter 0 [.enterTest (.logical 0), .enterPart (.logical 0),
      .advance (.logical 0)]).any (fun state =>
        state.currentPart = some 1 && state.plan.itemsBehind 1 state.currentItem = [4, 5] &&
          match (conditional.advance (.logical 0)).run.run state with
          | (.ok step, left) => left.currentItem = some 5 &&
            (step.log.entries.filter (·.kind = .lifecycle)).map (·.source) = ["TASK2"]
          | (.error _, _) => false) = true := by
    decide +kernel
  obtain ⟨state, hstate, hcheck⟩ := (Option.any_eq_true _ _).1 hsession
  rcases hrun : (conditional.advance (.logical 0)).run.run state with ⟨error | step, left⟩
  · rw [hrun] at hcheck
    simp at hcheck
  · rw [hrun] at hcheck
    simp only [Bool.and_eq_true, decide_eq_true_eq] at hcheck
    obtain ⟨⟨hpart, hbehind⟩, hcurrent, hnotes⟩ := hcheck
    have hattains := (reachable_of_sessionAfter hstate).attains
    obtain ⟨-, -, hadvances⟩ := hattains.advances_to_eligible hdistinct hpart
    obtain ⟨-, heligible, hbefore⟩ :=
      ((hadvances (.logical 0) step left hrun).currentItem_eq_some_iff 5).1 hcurrent
    rw [hbehind] at hbefore
    exact ⟨hdistinct, state, step, left, hattains, hpart, hrun, hbehind, hcurrent, hnotes,
      hbefore 4 (by decide) (by decide), heligible⟩

end TestDelivery

end Assessment
