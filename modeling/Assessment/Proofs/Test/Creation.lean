import Assessment.Proofs.Test.Change
import Assessment.Proofs.Test.Operation

/-!
# New test sessions, and what all sessions have

A new test session has the plan of its test, every part still to come, and a new session for every
item. The sessions of items get different seeds, by their positions in the plan.

These sessions have all variables of their items. No request changes the plan, takes a session away,
or takes a variable away, also where it fails with a logic error in the middle of its work.

## Main definitions

- `ItemProgress.fresh`: the progress of a new item session.
- `TestDelivery.Created`: what a new test session consists of.
- `TestDelivery.Attains`: the sessions that requests lead to, however they are answered.
- `TestDelivery.Furnished`: a session with the plan of the test, and all sessions and variables of
  its items.

## Main results

- `TestDelivery.yields_create`: making a session fails only where the test does not hold an item
  that it refers to.
- `TestDelivery.Created.exists_session`: the session of each item is a new one.
- `TestDelivery.leaves_persists`: no request changes the plan or takes anything away.
- `TestDelivery.Attains.furnished`: all sessions that requests lead to are furnished.
-/

namespace Assessment

/-- The progress of a new session. -/
def ItemProgress.fresh : ItemProgress := ⟨.notEntered, false, false, false, false⟩

/-- Without defaults of its own, a new session can be made of every item. -/
theorem ItemDelivery.exists_create (delivery : ItemDelivery) (seed : UInt64) :
    ∃ state, delivery.create .empty seed = .ok state ∧ state.progress = .fresh :=
  ⟨_, rfl, rfl⟩

namespace TestDelivery

variable {delivery : TestDelivery} {plan : TestPlan} {seed : UInt64} {state : TestState}

/-- The new session of an item is made by the delivery of the item, with a seed of its own. -/
theorem createItem_eq {index ordinal : Nat} {place : ItemPlace} {item : ItemDelivery}
    (hplace : plan.place index = .ok place) (hitem : delivery.itemDelivery place = .ok item) :
    ∃ session, item.create .empty (itemSeed seed (.ofNat ordinal)) = .ok session ∧
      session.progress = .fresh ∧
      delivery.createItem plan seed index ordinal = .ok (place.ref, session) := by
  obtain ⟨session, hsession, hfresh⟩ := item.exists_create (itemSeed seed (.ofNat ordinal))
  refine ⟨session, hsession, hfresh, Yields.eq_ok ?_⟩
  simp only [createItem, yields_bind, yields_mapError, yields_pure, hplace, hitem, hsession,
    yields_ok]

/-- The state of a part that was not entered is made for the node of a part. -/
theorem newPart_eq {index : Nat} {part : TestPart} (h : plan.IsPart index part) :
    newPart plan index = .ok ⟨part.identifier, index, .notEntered, none, none⟩ := by
  rw [newPart, TestPlan.node, h.node?]
  rfl

/-- The part of the test that a node of a part stands for is found by its name. -/
theorem part_eq_ok_iff {index : Nat} {part found : TestPart} (h : plan.IsPart index part) :
    delivery.part plan index = .ok found ↔
      delivery.definition.part? part.identifier = some found := by
  rw [TestDelivery.part, TestPlan.node, h.node?]
  dsimp only [PlanNode.identifier?, bind, Except.bind, Option.bind]
  cases delivery.definition.part? part.identifier with
  | none =>
    constructor
    · rintro ⟨⟩
    · rintro ⟨⟩
  | some other =>
    constructor
    · rintro ⟨⟩
      rfl
    · rintro ⟨⟩
      rfl

/-- What a new test session consists of. -/
structure Created (delivery : TestDelivery) (seed : UInt64) (state : TestState) : Prop where
  /-- The plan is that of the test. -/
  plan : TestPlan.build delivery.definition = .ok state.plan
  /-- The test was not entered. -/
  status : state.status = .notEntered
  /-- No part is under way. -/
  currentPart : state.currentPart = none
  /-- No item is presented. -/
  currentItem : state.currentItem = none
  /-- Every part is still to come. -/
  parts : List.Forall₂ (fun index entry => newPart state.plan index = .ok entry)
    state.plan.testParts state.parts
  /-- Every item has a new session. -/
  items : ∃ created, state.items = .ofList created ∧
    List.Forall₂ (fun entry session =>
      delivery.createItem state.plan seed entry.1 entry.2 = .ok session)
      state.plan.items.zipIdx created
  /-- The session is one of this test. -/
  digest : state.digest = delivery.digest
  /-- The outcome variables are those that are declared, and the duration. -/
  outcomes : state.outcomes = (Store.ofVariables (delivery.definition.outcomes.map fun d =>
    (d.identifier, d.initial))).insert BuiltIn.duration.identifier BuiltIn.duration.initial
  /-- No branch was taken. -/
  pendingBranch : state.pendingBranch = none

/-- The delivery of an item is that of an item of the test. -/
theorem exists_of_itemDelivery {place : ItemPlace} {item : ItemDelivery}
    (h : delivery.itemDelivery place = .ok item) :
    ∃ definition digest, delivery.definition.item? place.item = some definition ∧
      delivery.itemDigests.get? place.item = some digest ∧
      item = ⟨definition, delivery.engine, digest⟩ := by
  unfold itemDelivery at h
  split at h
  next definition digest hdefinition hdigest =>
    cases h
    exact ⟨definition, digest, hdefinition, hdigest, rfl⟩
  next => cases h

/-- The test has an item of its own for every reference. -/
def HoldsItems (delivery : TestDelivery) : Prop :=
  ∀ place : ItemPlace, place.names ∈ delivery.definition.itemRefs.map ItemRef.names →
    ∃ item, delivery.itemDelivery place = .ok item

/-- Making a session fails only where the test does not hold an item that it refers to. -/
theorem yields_create :
    Yields (delivery.create seed) (Created delivery seed) fun _ => ¬delivery.HoldsItems := by
  rw [create]
  dsimp only
  rw [yields_bind, yields_mapError]
  -- Making the plan and making the sessions of the items fail only where an item is missing, and
  -- making the parts of a plan that there is does not fail.
  cases hplan : TestPlan.build delivery.definition with
  | error error =>
    intro hitems
    have hrefs : ∀ ref ∈ delivery.definition.itemRefs,
        TestPlan.Resolves delivery.definition ref := by
      intro ref href
      obtain ⟨item, hitem⟩ := hitems ⟨ref.identifier, ref.item, .default⟩
        (List.mem_map_of_mem href)
      obtain ⟨_, _, hdefinition, -⟩ := exists_of_itemDelivery hitem
      exact Option.isSome_of_eq_some hdefinition
    obtain ⟨plan, hbuild⟩ := TestPlan.exists_build hrefs
    cases hplan.symm.trans hbuild
  | ok plan =>
    rw [yields_ok, yields_bind]
    refine (yields_mapM _ _).mono (fun created hcreated => ?_) ?_
    · rw [yields_bind, yields_mapError]
      refine (yields_mapM _ _).mono (fun parts hparts => ?_) ?_
      · exact ⟨hplan, rfl, rfl, rfl, hparts, ⟨created, rfl, hcreated⟩, rfl, rfl, rfl⟩
      · rintro error ⟨index, hindex, herror⟩
        obtain ⟨part, -, hpart⟩ := TestPlan.exists_isPart hplan hindex
        rw [newPart_eq hpart] at herror
        cases herror
    · rintro error ⟨⟨index, ordinal⟩, hindex, herror⟩ hitems
      obtain ⟨place, hplace⟩ := (TestPlan.mem_items hplan).1
        (List.fst_mem_of_mem_zipIdx hindex)
      obtain ⟨item, hitem⟩ := hitems place (TestPlan.names_mem_of_place hplan hplace)
      obtain ⟨session, -, -, hcreate⟩ := createItem_eq hplace hitem
      cases hcreate.symm.trans herror

/-- A session that is made of an item is a new one, under the name of the reference. -/
theorem exists_of_createItem {index ordinal : Nat} {created : Identifier × ItemState}
    (h : delivery.createItem plan seed index ordinal = .ok created) :
    ∃ place item session, plan.place index = .ok place ∧ delivery.itemDelivery place = .ok item ∧
      item.create .empty (itemSeed seed (.ofNat ordinal)) = .ok session ∧
      session.progress = .fresh ∧ created = (place.ref, session) := by
  cases hplace : plan.place index with
  | error error =>
    rw [createItem, hplace] at h
    cases h
  | ok place =>
    cases hitem : delivery.itemDelivery place with
    | error error =>
      have hfails : Yields (delivery.createItem plan seed index ordinal) (fun _ => False)
          fun _ => True := by
        simp only [createItem, yields_bind, yields_mapError, hplace, hitem, yields_ok, yields_error]
      rw [h] at hfails
      exact hfails.elim
    | ok item =>
      obtain ⟨session, hcreate, hfresh, hcreated⟩ := createItem_eq hplace hitem
      exact ⟨place, item, session, rfl, hitem, hcreate, hfresh,
        Except.ok.inj (h.symm.trans hcreated)⟩

/-- Every session of an item is a new one. -/
theorem Created.progress (h : Created delivery seed state) {ref : Identifier}
    {session : ItemState} (hsession : state.items.get? ref = some session) :
    session.progress = .fresh := by
  obtain ⟨created, hitems, hcreated⟩ := h.items
  rw [hitems] at hsession
  obtain ⟨k, hk, hget⟩ := List.getElem_of_mem (SortedMap.mem_of_get?_ofList hsession)
  obtain ⟨hlength, hall⟩ := List.forall₂_iff_get.1 hcreated
  obtain ⟨_, _, _, -, -, -, hfresh, hpair⟩ := exists_of_createItem (hall k (hlength ▸ hk) hk)
  rw [List.get_eq_getElem, hget] at hpair
  cases hpair
  exact hfresh

section distinct

variable (hdistinct : (delivery.definition.itemRefs.map ItemRef.identifier).Nodup)

include hdistinct

/-- No two sessions are made under one name. -/
theorem pairwise_of_createItem {created : List (Identifier × ItemState)}
    (hplan : TestPlan.build delivery.definition = .ok plan)
    (h : List.Forall₂ (fun entry session =>
      delivery.createItem plan seed entry.1 entry.2 = .ok session) plan.items.zipIdx created) :
    created.Pairwise fun first later => first.1 ≠ later.1 := by
  obtain ⟨hlength, hcreated⟩ := List.forall₂_iff_get.1 h
  refine List.pairwise_iff_getElem.2 fun i j hi hj hlt href => ?_
  obtain ⟨place, _, _, hplace, -, -, -, hfirst⟩ :=
    exists_of_createItem (hcreated i (hlength ▸ hi) hi)
  obtain ⟨place', _, _, hplace', -, -, -, hlater⟩ :=
    exists_of_createItem (hcreated j (hlength ▸ hj) hj)
  simp only [List.get_eq_getElem, List.getElem_zipIdx, Nat.zero_add] at hplace hplace' hfirst hlater
  rw [hfirst, hlater] at href
  have hsame := TestPlan.eq_of_place_ref hplan hdistinct hplace hplace' href
  exact Nat.ne_of_lt hlt ((TestPlan.nodup_items hplan).getElem_inj_iff.1 hsame)

/-- The session of each item is a new one, with the seed of its position. -/
theorem Created.exists_session (h : Created delivery seed state) {k index : Nat}
    {place : ItemPlace} (hindex : state.plan.items[k]? = some index)
    (hplace : state.plan.place index = .ok place) :
    ∃ item session, delivery.itemDelivery place = .ok item ∧
      item.create .empty (itemSeed seed (.ofNat k)) = .ok session ∧
      session.progress = .fresh ∧ state.items.get? place.ref = some session := by
  obtain ⟨created, hitems, hcreated⟩ := h.items
  have hpairwise := pairwise_of_createItem hdistinct h.plan hcreated
  obtain ⟨hlength, hall⟩ := List.forall₂_iff_get.1 hcreated
  obtain ⟨hk, rfl⟩ := List.getElem?_eq_some_iff.1 hindex
  have hk' : k < state.plan.items.zipIdx.length := by rw [List.length_zipIdx]; exact hk
  obtain ⟨found, item, session, hfound, hitem, hcreate, hfresh, hpair⟩ :=
    exists_of_createItem (hall k hk' (hlength ▸ hk'))
  simp only [List.get_eq_getElem, List.getElem_zipIdx, Nat.zero_add] at hfound hcreate hpair
  obtain rfl := Except.ok.inj (hplace.symm.trans hfound)
  refine ⟨item, session, hitem, hcreate, hfresh, ?_⟩
  rw [hitems]
  exact SortedMap.get?_ofList hpairwise (hpair ▸ List.getElem_mem _)

end distinct

end TestDelivery

/-! ### What requests leave -/

open Action

/-- A session has the same plan, and a session for the same items, which followed the one before. -/
structure TestState.Persists (before after : TestState) : Prop where
  /-- The plan is the same. -/
  plan : after.plan = before.plan
  /-- The sessions of items went on. -/
  items : SortedMap.Pointwise ItemState.Follows before.items after.items

theorem TestState.Works.persists {before after : TestState} (h : before.Works after) :
    before.Persists after := by
  obtain ⟨_, _, _, _, _, _, _, hitems, rfl⟩ := h
  exact ⟨rfl, hitems⟩

namespace TestDelivery

/-- The sessions that requests lead to from a new session with any seed, whether the requests are
served or refused, or fail. -/
inductive Attains (delivery : TestDelivery) : TestState → Prop where
  /-- A new session. -/
  | created {seed : UInt64} {state : TestState} :
      delivery.create seed = .ok state → Attains delivery state
  /-- The session that a request leaves. -/
  | served {state : TestState} (request : TestRequest) : Attains delivery state →
      Attains delivery ((delivery.serve request).run.run state).2

/-- A session has the plan of the test and, for every reference to an item, a session that has all
variables of the item. -/
structure Furnished (delivery : TestDelivery) (state : TestState) : Prop where
  /-- Its plan is that of the test. -/
  plan : TestPlan.build delivery.definition = .ok state.plan
  /-- Every reference has an item and a session of it. -/
  items : ∀ ref ∈ delivery.definition.itemRefs, ∃ definition session,
    delivery.definition.item? ref.item = some definition ∧
      state.items.get? ref.identifier = some session ∧
      ∀ role, ∀ name ∈ definition.variableNames role, (session.store role).contains name = true

variable {delivery : TestDelivery} {state left : TestState} {seed : UInt64}

/-- The sessions that are left by requests that do not fail are among those that requests lead
to. -/
theorem Reachable.attains (h : delivery.Reachable seed state) : delivery.Attains state := by
  have hserved {before after : TestState} {request : TestRequest} {result : Except TestError Unit}
      (hbefore : delivery.Attains before)
      (hrun : (delivery.serve request).run.run before = (result, after)) :
      delivery.Attains after := by
    have hafter := hbefore.served request
    rwa [hrun] at hafter
  induction h with
  | created hcreate => exact .created hcreate
  | served _ _ hrun ih => exact hserved ih hrun
  | refused _ _ hrun _ ih => exact hserved ih hrun

/-- No request changes the plan or takes away the session of an item or one of its variables,
however it is answered. -/
theorem leaves_persists (request : TestRequest) :
    (delivery.serve request).Leaves state state.Persists := by
  refine (leaves_serve request).mono fun left hleft => ?_
  obtain hworks | ⟨now, ⟨between, -, hworks, rfl⟩ | ⟨_, _, between, -, -, hmoves, rfl⟩ |
    ⟨_, between, _, _, -, -, hworks, rfl⟩ | ⟨between, -, hworks, rfl⟩⟩ := hleft
  · exact hworks.persists
  · exact ⟨hworks.plan, hworks.persists.items⟩
  · exact ⟨hmoves.works.plan, hmoves.works.persists.items⟩
  · exact ⟨hworks.plan, hworks.persists.items⟩
  · exact ⟨hworks.plan, hworks.persists.items⟩

theorem Furnished.persists (h : delivery.Furnished state) (hpersists : state.Persists left) :
    delivery.Furnished left where
  plan := hpersists.plan ▸ h.plan
  items ref href := by
    obtain ⟨definition, session, hdefinition, hsession, hstores⟩ := h.items ref href
    obtain ⟨later, hlater, hfollows⟩ := hpersists.items.exists_right hsession
    refine ⟨definition, later, hdefinition, hlater, fun role name hname => ?_⟩
    rw [hfollows.names]
    exact hstores role name hname

section distinct

variable (hdistinct : (delivery.definition.itemRefs.map ItemRef.identifier).Nodup)

include hdistinct

/-- A new session has all variables of all items. -/
theorem Created.furnished (h : Created delivery seed state) : delivery.Furnished state where
  plan := h.plan
  items ref href := by
    obtain ⟨k, hk⟩ := List.getElem?_of_mem href
    obtain ⟨index, place, hindex, hplace, hnames⟩ :=
      TestPlan.exists_place_of_map_names (TestPlan.map_names_items h.plan) hk
    obtain ⟨hname, hitemName⟩ : place.ref = ref.identifier ∧ place.item = ref.item :=
      Prod.mk.inj hnames
    obtain ⟨item, session, hitem, hcreate, -, hsession⟩ :=
      h.exists_session hdistinct hindex hplace
    obtain ⟨definition, _, hdefinition, -, rfl⟩ := exists_of_itemDelivery hitem
    rw [hitemName] at hdefinition
    rw [hname] at hsession
    exact ⟨definition, session, hdefinition, hsession,
      (ItemDelivery.stocked_of_create hcreate).stores⟩

/-- All sessions that requests lead to have all variables of all items. -/
theorem Attains.furnished (h : delivery.Attains state) : delivery.Furnished state := by
  induction h with
  | created hcreate => exact Created.furnished hdistinct ((yields_iff.1 yields_create).1 _ hcreate)
  | @served state request _ ih =>
    have hleaves := @leaves_persists delivery state request
    rcases hrun : (delivery.serve request).run.run state with ⟨error | ⟨⟩, left⟩
    · exact ih.persists (hleaves.error hrun)
    · exact ih.persists (hleaves.ok hrun)

end distinct

end TestDelivery

end Assessment
