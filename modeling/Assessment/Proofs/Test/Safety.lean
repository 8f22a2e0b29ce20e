import Assessment.Proofs.Test.Phase
import Assessment.Proofs.Test.Stock

/-!
# Sessions of valid tests

A test in which validation finds no errors has sessions that never fail with a logic error. A new
session of such a test has all that operations look up, and every request leaves a session that has
it again, whether the request is served or refused.

## Main definitions

- `TestDelivery.reported`: what a request reports when it is served.
- `TestDelivery.answers`: what several requests are answered, each served or refused.

## Main results

- `TestDelivery.Created.stocked`: a new session has all that operations look up.
- `TestDelivery.Stocked.reported` and `TestDelivery.Stocked.serve`: every request maintains a
  session, and reports no more than its parts do.
- `TestDelivery.exists_create_and_answers_not_isLogic`: a session of a valid test can be made, and
  no request to it fails with a logic error.
-/

namespace Assessment

open Action

namespace TestDelivery

variable {α β : Type} {delivery : TestDelivery} {state left : TestState} {now : Timestamp}

/-- Serve a request; of the answer only what is reported is left. -/
def reported (delivery : TestDelivery) : TestRequest → TestAction NotificationLog
  | .enterTest now => Step.log <$> delivery.enterTest now
  | .enterPart now => Step.log <$> delivery.enterPart now
  | .select now ref => Step.log <$> delivery.select now ref
  | .advance now => Step.log <$> delivery.advance now
  | .respond now responses => Step.log <$> delivery.respond now responses
  | .endPart now => Step.log <$> delivery.endPart now
  | .exit now => Step.log <$> delivery.exit now

/-- To serve a request is to serve it and to leave out what is reported. -/
theorem serve_eq (delivery : TestDelivery) (request : TestRequest) :
    delivery.serve request = (fun _ => ()) <$> delivery.reported request := by
  cases request <;> rw [serve, reported, Functor.map_map]

/-! ### What requests look up -/

section stocked

variable {quiet : NotificationLog → Prop} (h : delivery.Stocked state)

include h

theorem Stocked.requireNoOpenPart : delivery.Maintains requireNoOpenPart state := by
  refine ensures_get_bind ?_
  split
  next => exact ⟨rfl, h⟩
  next => exact h

theorem Stocked.activePart : delivery.Maintains delivery.activePart state := by
  refine h.requireInteracting.bind fun _ left hleft => ensures_get_bind ?_
  split
  next => exact ⟨rfl, hleft⟩
  next =>
    rw [ensures_ite]
    exact ⟨fun _ => hleft, fun _ => ⟨rfl, hleft⟩⟩

section bind

variable {good : β → Prop}

theorem Stocked.requireMode_bind {expected : NavigationMode} {part : TestPart}
    {next : Unit → TestAction β} (hnext : delivery.Reports good (next ()) state) :
    delivery.Reports good (requireMode expected part >>= next) state := by
  rw [Reports, ensures_bind, requireMode, ensures_ite]
  exact ⟨fun _ => hnext, fun _ => ⟨rfl, h⟩⟩

/-- What is done with the part that is under way is done with a part of the plan. -/
theorem Stocked.activePart_bind {next : Nat → TestAction β}
    (hnext : ∀ index ∈ state.plan.testParts, delivery.Reports good (next index) state) :
    delivery.Reports good (delivery.activePart >>= next) state := by
  refine (delivery.ensures_activePart.and h.activePart).bind ?_ fun _ _ herror => herror.2
  rintro index _ ⟨⟨-, hcurrent, -, rfl⟩, -⟩
  exact hnext index (h.currentPart index hcurrent)

end bind

/-- The parts of the plan are found in the test. -/
theorem Stocked.yields_part {index : Nat} (hindex : index ∈ state.plan.testParts) :
    Yields (delivery.part state.plan index) (fun part => part ∈ delivery.definition.parts)
      fun _ => False := by
  obtain ⟨part, hmem, hpart⟩ := TestPlan.exists_isPart h.plan hindex
  have hsome : (delivery.definition.part? part.identifier).isSome = true :=
    List.find?_isSome.2 ⟨part, hmem, decide_eq_true rfl⟩
  obtain ⟨found, hfound⟩ := Option.isSome_iff_exists.1 hsome
  rw [(part_eq_ok_iff hpart).2 hfound]
  exact List.mem_of_find?_eq_some hfound

/-- The items of a part of the plan stay items of the plan. -/
theorem Stocked.mem_items {part : Nat} (hpart : part ∈ state.plan.testParts)
    (hleft : delivery.Stocked left) :
    ∀ index ∈ state.plan.itemsUnder part, index ∈ left.plan.items := by
  intro index hindex
  rw [h.plan_eq hleft, TestPlan.items_eq h.plan]
  exact List.mem_flatMap.2 ⟨part, hpart, hindex⟩

theorem Stocked.requireLeavable : delivery.Maintains (requireLeavable state) state := by
  rw [TestDelivery.requireLeavable]
  split
  next => exact h
  next current hcurrent =>
    obtain ⟨place, hplace, -⟩ := h.exists_place (h.currentItem current hcurrent)
    refine ensures_lookUp_bind ?_
    rw [hplace, yields_ok]
    dsimp only
    rw [ensures_ite]
    exact ⟨fun _ => ⟨rfl, h⟩, fun _ => h⟩

section searches

variable (hreports : delivery.ReportsOnly quiet) {log : NotificationLog} (hlog : quiet log)

include hreports hlog

/-- The next part is chosen without a logic error. -/
theorem Stocked.yields_choosePart {candidates : List (PartState × Nat)}
    (hcandidates : ∀ candidate ∈ candidates, candidate.1.node ∈ state.plan.testParts) :
    Yields (delivery.choosePart state candidates log) (fun answer => quiet answer.2)
      fun _ => False := by
  induction candidates generalizing log with
  | nil => exact hlog
  | cons first rest ih =>
    obtain ⟨hfirst, hrest⟩ := List.forall_mem_cons.1 hcandidates
    rw [TestDelivery.choosePart]
    split
    next => exact ih hlog hrest
    next =>
      obtain ⟨part, hpart, hmem⟩ := (h.yields_part hfirst).exists_ok
      have hconditions : ∀ condition ∈ part.preConditions,
          condition ∈ delivery.definition.conditions := fun _ hcondition =>
        TestDefinition.mem_conditions_of_part hmem hcondition
      obtain ⟨⟨holds, notes⟩, hholds, hnotes⟩ := (hreports.conditions h hconditions).exists_ok
      rw [hpart, yields_bind, yields_ok, hholds, yields_bind, yields_ok]
      dsimp only
      have hextended := hreports.extend hlog hnotes
      split
      next => exact hextended
      next => exact ih (hreports.note hextended (by simp)) hrest

/-- The next item is found without a logic error. -/
theorem Stocked.yields_nextItem {part : Nat} (hpart : part ∈ state.plan.testParts) (tries : Nat)
    (current : Option Nat) :
    Yields (delivery.nextItem state part tries current log) (fun answer => quiet answer.2)
      fun _ => False := by
  induction tries generalizing current log with
  | zero => exact hlog
  | succ tries ih =>
    rw [TestDelivery.nextItem]
    split
    next => exact hlog
    next index hindex =>
      have hitem := h.mem_items hpart h index (TestPlan.mem_of_nextItemInPart? hindex)
      obtain ⟨place, hplace, -⟩ := h.exists_place hitem
      rw [hplace, yields_bind, yields_ok]
      dsimp only
      obtain ⟨⟨holds, notes⟩, hholds, hnotes⟩ := (hreports.conditions h
        delivery.definition.mem_conditions_of_itemRef?).exists_ok
      rw [hholds, yields_bind, yields_ok]
      dsimp only
      have hextended := hreports.extend hlog hnotes
      split
      next => exact hextended
      next => exact ih (hreports.note hextended (by simp)) _

/-- A branch is chosen without a logic error. -/
theorem Stocked.yields_chooseBranch {rules : List BranchRule}
    (hrules : ∀ rule ∈ rules, rule.expression ∈ delivery.definition.conditions) :
    Yields (delivery.chooseBranch state rules log) (fun answer => quiet answer.2)
      fun _ => False := by
  induction rules generalizing log with
  | nil => exact hlog
  | cons rule rest ih =>
    obtain ⟨hfirst, hrest⟩ := List.forall_mem_cons.1 hrules
    have hcondition : ∀ condition ∈ [rule.expression],
        condition ∈ delivery.definition.conditions := fun _ hmem =>
      List.mem_singleton.1 hmem ▸ hfirst
    obtain ⟨⟨holds, notes⟩, hholds, hnotes⟩ := (hreports.conditions h hcondition).exists_ok
    rw [TestDelivery.chooseBranch, hholds, yields_bind, yields_ok]
    dsimp only
    have hextended := hreports.extend hlog hnotes
    split
    next => exact ih hextended hrest
    next =>
      split
      next => exact hextended
      next => exact ih (hreports.note hextended (by simp)) hrest

end searches

/-! ### Requests -/

section requests

variable (hreports : delivery.ReportsOnly quiet)

include hreports

/-- Entering the test maintains a session. -/
theorem Stocked.enterTest :
    delivery.Reports (fun step => quiet step.log) (delivery.enterTest now) state := by
  refine h.check.bind_reports fun _ left hleft => ensures_get_bind ?_
  split
  next => exact ⟨rfl, hleft⟩
  next => exact ⟨rfl, hleft⟩
  next =>
    refine hleft.resetOutcomes.bind_reports fun _ _ hreset => ⟨?_, hreports.empty⟩
    exact ⟨hreset.digest, hreset.plan, hreset.items, hreset.outcomes, hreset.parts,
      hreset.currentPart, hreset.currentItem⟩

/-- Exiting the test maintains a session. -/
theorem Stocked.exit :
    delivery.Reports (fun step => quiet step.log) (delivery.exit now) state := by
  refine h.requireInteracting.bind_reports fun _ _ h => ?_
  refine h.requireNoOpenPart.bind_reports fun _ _ h => ?_
  refine h.touch.bind_reports fun _ left hleft => ⟨?_, hreports.empty⟩
  refine ⟨hleft.digest, hleft.plan, hleft.items, hleft.outcomes, ?_, hleft.currentPart,
    hleft.currentItem⟩
  dsimp only
  rw [map_map_skipPart node_skipPart]
  exact hleft.parts

variable (hdefinition : delivery.definition.WellFormed)

include hdefinition

/-- Entering the next part maintains a session. -/
theorem Stocked.enterPart :
    delivery.Reports (fun step => quiet step.log) (delivery.enterPart now) state := by
  refine h.requireInteracting.bind_reports fun _ _ h => ?_
  refine h.requireNoOpenPart.bind_reports fun _ state h => ensures_get_bind ?_
  dsimp only
  rw [ensures_ite, ensures_bind]
  refine ⟨fun _ => ⟨rfl, h⟩, fun _ => ?_⟩
  split
  next => exact ⟨rfl, h⟩
  next first _ =>
    -- The candidates are parts of the session, whose nodes are all in the plan.
    have hcandidates : ∀ candidate ∈ state.parts.zipIdx.drop first,
        candidate.1.node ∈ state.plan.testParts := by
      intro candidate hcandidate
      have hentry := List.fst_mem_of_mem_zipIdx (List.mem_of_mem_drop hcandidate)
      exact h.parts _ (List.mem_map_of_mem hentry)
    refine ensures_lookUp_bind
      ((h.yields_choosePart hreports hreports.empty hcandidates).mono ?_ fun _ h => h)
    rintro ⟨chosen, log⟩ hlog
    dsimp only
    split
    next => exact ⟨rfl, h⟩
    next position entry hposition =>
      obtain ⟨-, hentry⟩ := eq_and_getElem?_of_chosen hposition
      have hnode := h.parts entry.node (List.mem_map_of_mem (List.mem_of_getElem? hentry))
      refine h.touch.bind_reports fun _ left hleft => ?_
      rw [Reports, ensures_bind, ensures_modify]
      have hentered : delivery.Stocked { left with
          parts := enterAt position now left.parts
          currentPart := some entry.node
          currentItem := none
          pendingBranch := none } := by
        refine ⟨hleft.digest, hleft.plan, hleft.items, hleft.outcomes, ?_, ?_, nofun⟩
        · dsimp only
          rw [map_enterAt node_skipPart fun _ => rfl]
          exact hleft.parts
        · rintro _ ⟨⟩
          rw [h.plan_eq hleft]
          exact hnode
      have hitems := h.mem_items hnode hleft
      exact Reports.bind (hentered.prepareItems hdefinition hreports hitems hlog)
        fun _ _ h hlog => ⟨h, hlog⟩

/-- Going to an item maintains a session. -/
theorem Stocked.select (ref : Identifier) :
    delivery.Reports (fun step => quiet step.log) (delivery.select now ref) state := by
  refine h.activePart_bind fun part hpart => ensures_get_bind (ensures_lookUp_bind ?_)
  refine (h.yields_part hpart).mono (fun testPart _ => ?_) fun _ h => h
  refine h.requireMode_bind ?_
  split
  next => exact ⟨rfl, h⟩
  next index hindex =>
    obtain ⟨place, hplace, -⟩ := TestPlan.exists_place_of_findItem? hindex
    have hitem : index ∈ state.plan.items := (TestPlan.mem_items h.plan).2 ⟨place, hplace⟩
    dsimp only
    rw [Reports, ensures_ite, ensures_bind]
    refine ⟨fun _ => ⟨rfl, h⟩, fun _ => ?_⟩
    rw [ensures_ite, ensures_bind]
    refine ⟨fun _ => ⟨rfl, h⟩, fun _ => ?_⟩
    refine h.touch.bind_reports fun _ counted hcounted => ?_
    -- Whether or not a clock is stopped before, the item is presented in the end.
    have hpresent : ∀ {left}, delivery.Stocked left →
        delivery.Reports (fun step => quiet step.log) (do
          delivery.enterItem index now
          return ⟨(), delivery.newLog⟩ : TestAction (Step Unit)) left := by
      intro left hleft
      refine Maintains.bind_reports (hleft.enterItem hdefinition ?_)
        fun _ _ h => ⟨h, hreports.empty⟩
      rw [h.plan_eq hleft]
      exact hitem
    rw [Reports, ensures_ite]
    refine ⟨fun _ => ?_, fun _ => hpresent hcounted⟩
    exact (hcounted.suspendCurrent hdefinition).bind_reports fun _ _ hleft => hpresent hleft

/-- Going to the next item maintains a session. -/
theorem Stocked.advance :
    delivery.Reports (fun step => quiet step.log) (delivery.advance now) state := by
  refine h.activePart_bind fun part hpart => ensures_get_bind (ensures_lookUp_bind ?_)
  refine (h.yields_part hpart).mono (fun testPart _ => ?_) fun _ h => h
  refine h.requireMode_bind (h.requireLeavable.bind_reports fun _ left hleft => ?_)
  dsimp only
  obtain ⟨⟨next, log⟩, hsearch, hlog⟩ := (h.yields_nextItem hreports hreports.empty hpart
    (state.plan.itemsUnder part).length state.currentItem).exists_ok
  refine ensures_lookUp_bind ?_
  rw [hsearch, yields_ok]
  refine hleft.touch.bind_reports fun _ _ hcounted => ?_
  refine (hcounted.suspendCurrent hdefinition).bind_reports fun _ left hleft => ?_
  cases next with
  | none =>
    refine ⟨?_, hlog⟩
    exact ⟨hleft.digest, hleft.plan, hleft.items, hleft.outcomes, hleft.parts, hleft.currentPart,
      nofun⟩
  | some found =>
    obtain ⟨index, place⟩ := found
    obtain ⟨hmem, -⟩ :=
      (yields_iff.1 (delivery.yields_nextItem _ _ _ _)).1 _ hsearch index place rfl
    have hitem := h.mem_items hpart hleft index hmem
    exact (hleft.enterItem hdefinition hitem).bind_reports fun _ _ h => ⟨h, hlog⟩

/-- Submitting responses maintains a session. -/
theorem Stocked.respond (responses : SortedMap Identifier ResponseData) :
    delivery.Reports (fun step => quiet step.log) (delivery.respond now responses) state := by
  refine h.activePart_bind fun part hpart => ensures_get_bind ?_
  split
  next => exact ⟨rfl, h⟩
  next current hcurrent =>
    obtain ⟨place, hplace, hrefers⟩ := h.exists_place (h.currentItem current hcurrent)
    refine ensures_lookUp_bind ?_
    rw [hplace, yields_ok]
    refine ensures_lookUp_bind ((h.yields_part hpart).mono (fun testPart _ => ?_) fun _ h => h)
    refine h.session_bind hrefers fun session => ?_
    dsimp only
    rw [ensures_ite, ensures_bind]
    refine ⟨fun _ => ⟨rfl, h⟩, fun _ => ?_⟩
    have hattempted := h.onItem hdefinition hrefers fun _ _ hitem hsession =>
      (hreports.items hitem).attempt hsession responses now
        (policy testPart.submission place.control)
    refine hattempted.bind fun log _ hleft hlog => hleft.touch.bind_reports fun _ _ hleft => ?_
    split
    next =>
      exact (hleft.processOutcomes hreports).bind fun _ _ hleft hnotes =>
        ⟨hleft, hreports.extend hlog hnotes⟩
    next => exact ⟨hleft, hlog⟩

/-- Ending a part maintains a session. -/
theorem Stocked.endPart :
    delivery.Reports (fun step => quiet step.log) (delivery.endPart now) state := by
  refine h.activePart_bind fun part hpart => ensures_get_bind (ensures_lookUp_bind ?_)
  refine (h.yields_part hpart).mono (fun testPart htestPart => ?_) fun _ h => h
  refine h.touch.bind_reports fun _ _ hleft => ?_
  refine (hleft.suspendCurrent hdefinition).bind_reports fun _ left hleft => ?_
  refine Reports.bind (hleft.scoreItems hdefinition hreports _ (h.mem_items hpart hleft)
    hreports.empty) fun log _ hleft hlog => ?_
  refine (hleft.processOutcomes hreports).bind fun notes left hleft hnotes => ?_
  refine Maintains.bind_reports (hleft.closeItems hdefinition (h.mem_items hpart hleft))
    fun _ left hleft => ?_
  have hended : delivery.Stocked { left with
      parts := endAt part now left.parts, currentPart := none, currentItem := none } := by
    refine ⟨hleft.digest, hleft.plan, hleft.items, hleft.outcomes, ?_, nofun, nofun⟩
    dsimp only
    rw [map_endAt fun _ => rfl]
    exact hleft.parts
  rw [Reports, ensures_bind, ensures_modify]
  refine ensures_get_bind (ensures_lookUp_bind ?_)
  have hrules : ∀ rule ∈ testPart.branchRules,
      rule.expression ∈ delivery.definition.conditions := fun _ hrule =>
    TestDefinition.mem_conditions_of_branch htestPart hrule
  refine (hended.yields_chooseBranch hreports (hreports.extend hlog hnotes) hrules).mono ?_
    fun _ h => h
  rintro ⟨target, log⟩ hlog
  rw [ensures_bind, ensures_modify]
  obtain ⟨pendingBranch, ends, hfollow, -⟩ := exists_follow target { left with
      parts := endAt part now left.parts, currentPart := none, currentItem := none }
  rw [hfollow]
  refine ⟨?_, hlog⟩
  exact ⟨hended.digest, hended.plan, hended.items, hended.outcomes, hended.parts,
    hended.currentPart, hended.currentItem⟩

/-- Every request maintains a session. -/
theorem Stocked.reported (request : TestRequest) :
    delivery.Reports quiet (delivery.reported request) state := by
  cases request <;> rw [TestDelivery.reported, Reports, ensures_map]
  case enterTest now => exact h.enterTest hreports
  case enterPart now => exact h.enterPart hreports hdefinition
  case select now ref => exact h.select hreports hdefinition ref
  case advance now => exact h.advance hreports hdefinition
  case respond now responses => exact h.respond hreports hdefinition responses
  case endPart now => exact h.endPart hreports hdefinition
  case exit now => exact h.exit hreports

end requests

/-- Every request maintains a session, and does not fail with a logic error. -/
theorem Stocked.serve (hdefinition : delivery.definition.WellFormed) (request : TestRequest) :
    delivery.Maintains (delivery.serve request) state := by
  rw [serve_eq, Maintains, ensures_map]
  exact (h.reported (reportsOnly_true hdefinition) hdefinition request).maintains

end stocked

/-! ### New sessions -/

/-- A well-formed test has an item of its own for every reference. -/
theorem holdsItems_of {test : TestDefinition} (htest : test.WellFormed) (engine : Engine) :
    (TestDelivery.of test engine).HoldsItems := by
  intro place hplace
  obtain ⟨ref, href, hnames⟩ := List.mem_map.1 hplace
  obtain ⟨item, hitem⟩ := Option.isSome_iff_exists.1 (htest.resolves ref href)
  have hsame : ref.item = place.item := congrArg Prod.snd hnames
  rw [hsame] at hitem
  have hname := List.find?_some hitem
  rw [decide_eq_true_eq] at hname
  have hdigest : (TestDelivery.of test engine).itemDigests.contains place.item = true := by
    refine SortedMap.contains_ofList.2 ?_
    rw [List.map_map, ← hname]
    exact List.mem_map_of_mem (List.mem_of_find?_eq_some hitem)
  obtain ⟨digest, hdigest⟩ := Option.isSome_iff_exists.1 hdigest
  exact ⟨⟨item, engine, digest⟩, itemDelivery_eq hitem hdigest⟩

/-- A new session has all that operations look up. -/
theorem Created.stocked {seed : UInt64} (h : Created delivery seed state)
    (hdefinition : delivery.definition.WellFormed) : delivery.Stocked state := by
  refine ⟨h.digest, h.plan, fun place hplace => ?_, fun name hname => ?_, fun node hnode => ?_,
    ?_, ?_⟩
  · obtain ⟨ref, href, hnames⟩ := List.mem_map.1 hplace
    obtain ⟨k, hk⟩ := List.getElem?_of_mem href
    obtain ⟨index, found, hindex, hfound, hsame⟩ :=
      TestPlan.exists_place_of_map_names (TestPlan.map_names_items h.plan) hk
    obtain ⟨item, session, hitem, hcreate, -, hsession⟩ :=
      h.exists_session hdefinition.names hindex hfound
    have hplaces : place.names = found.names := hnames.symm.trans hsame.symm
    have href : place.ref = found.ref := congrArg Prod.fst hplaces
    refine ⟨item, session, itemDelivery_congr hitem (congrArg Prod.snd hplaces), ?_,
      ItemDelivery.stocked_of_create hcreate⟩
    rw [href]
    exact hsession
  · rw [h.outcomes, SortedMap.contains_insert, Store.ofVariables, SortedMap.contains_ofList,
      List.map_map]
    obtain hname | hname := List.mem_append.1 hname
    · exact .inr hname
    · exact .inl (List.mem_singleton.1 hname)
  · obtain ⟨entry, hentry, rfl⟩ := List.mem_map.1 hnode
    obtain ⟨k, hk, rfl⟩ := List.getElem_of_mem hentry
    obtain ⟨hlength, hall⟩ := List.forall₂_iff_get.1 h.parts
    have hmem := List.getElem_mem (hlength ▸ hk)
    obtain ⟨part, -, hpart⟩ := TestPlan.exists_isPart h.plan hmem
    have hnew := (newPart_eq hpart).symm.trans (hall k (hlength ▸ hk) hk)
    rw [List.get_eq_getElem] at hnew
    rw [← Except.ok.inj hnew]
    exact hmem
  · rw [h.currentPart]
    exact nofun
  · rw [h.currentItem]
    exact nofun

/-- Every session of a well-formed test has all that operations look up. -/
theorem Reachable.stocked {seed : UInt64} (h : delivery.Reachable seed state)
    (hdefinition : delivery.definition.WellFormed) : delivery.Stocked state := by
  refine h.invariant (fun state hcreate => ?_) fun state request _ hstate => ?_
  · exact (yields_iff.1 delivery.yields_create).1 state hcreate |>.stocked hdefinition
  · exact (hstate.serve hdefinition request).mono (fun _ _ hleft => hleft)
      fun _ _ herror => .inr herror.2

/-! ### Valid tests -/

/-- What several requests are answered in turn, each served or refused. -/
def answers (delivery : TestDelivery) : List TestRequest → TestState → List (Except TestError Unit)
  | [], _ => []
  | request :: rest, state =>
    let (answer, left) := (delivery.serve request).run.run state
    answer :: answers delivery rest left

/-- No request to a stocked session is answered with a logic error. -/
theorem Stocked.answers_not_isLogic (h : delivery.Stocked state)
    (hdefinition : delivery.definition.WellFormed) (requests : List TestRequest) :
    ∀ error, .error error ∈ delivery.answers requests state → error.isLogic = false := by
  -- The session stays stocked whatever the answer is, so that the rest of the requests finds it so.
  induction requests generalizing state with
  | nil => exact nofun
  | cons request rest ih =>
    have hserved := h.serve hdefinition request
    intro error herror
    rw [answers] at herror
    rcases hrun : (delivery.serve request).run.run state with ⟨found | ⟨⟩, left⟩
    · rw [hrun] at herror
      obtain ⟨hlogic, hleft⟩ := hserved.error hrun
      obtain heq | hrest := List.mem_cons.1 herror
      · rw [Except.error.inj heq]
        exact hlogic
      · exact ih hleft error hrest
    · rw [hrun] at herror
      obtain heq | hrest := List.mem_cons.1 herror
      · cases heq
      · exact ih (hserved.ok hrun) error hrest

/-- Where validation finds no errors in a test, a session can be made of it, and no request to that
session is answered with a logic error, whichever requests came before and however they were
answered. -/
theorem exists_create_and_answers_not_isLogic {test : TestDefinition} {registry : Registry}
    (h : (test.validate registry).errors = []) (engine : Engine) (seed : UInt64) :
    ∃ state, (TestDelivery.of test engine).create seed = .ok state ∧
      ∀ requests error, .error error ∈ (TestDelivery.of test engine).answers requests state →
        error.isLogic = false := by
  have htest := TestDefinition.wellFormed_of_validate h
  have hcreate := (@yields_create (TestDelivery.of test engine) seed).mono (fun _ h => h)
    fun _ hholds => hholds (holdsItems_of htest engine)
  obtain ⟨state, hstate, hcreated⟩ := hcreate.exists_ok
  exact ⟨state, hstate, (hcreated.stocked htest).answers_not_isLogic htest⟩

/-- Validation finds no errors in the test with one item. -/
theorem answers_not_isLogic_single :
    ((TestDefinition.single .linear .individual).validate .empty).errors = [] ∧
    ∃ state, (TestDelivery.of (TestDefinition.single .linear .individual)
        ⟨.empty, .default⟩).create 0 = .ok state ∧
      ∀ requests error, .error error ∈ (TestDelivery.of (TestDefinition.single .linear .individual)
        ⟨.empty, .default⟩).answers requests state → error.isLogic = false := by
  have hvalid : ((TestDefinition.single .linear .individual).validate .empty).errors = [] := by
    decide +kernel
  exact ⟨hvalid, exists_create_and_answers_not_isLogic hvalid ⟨.empty, .default⟩ 0⟩

end TestDelivery

end Assessment
