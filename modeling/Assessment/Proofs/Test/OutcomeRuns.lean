import Assessment.Proofs.Test.Deferral
import Assessment.Replay

/-!
# When outcome processing is run

Outcome processing is run after each attempt in a part that is scored at once, and when a part ends.
Nothing else that is requested of a session runs it, and a request that is refused does not. Since
the rules of a test draw random numbers of their own there and nowhere else, a session counts as
many passes as runs of outcome processing; conditions and branches are evaluated without being
counted.

Both counters are words and would start over after 2⁶⁴ runs, so that what is counted is equal to the
number of requests only up to that.

A part is known by its name. Where a test has two parts of one name, both are scored as the first
one is to be, whatever the test has for the second.

## Main definitions

- `TestState.Counts`: so many more passes and runs.
- `TestDelivery.scoresAtOnce`: a part is under way that is scored after each attempt.
- `TestDelivery.isIndividual`: the same by what the test has for the part at its position.
- `TestDelivery.Tracks`: the current part of a session is the one that is under way.
- `TestDelivery.responsesWhere` and `TestDelivery.endedParts`: the requests after which outcome
  processing is run.
- `TestDelivery.runScript`: the run that a script makes.

## Main results

- `TestDelivery.Tracks.ensures_serve`: what one request adds to the counters.
- `TestDelivery.Run.counts`: what requests add that follow each other.
- `TestDelivery.outcomeRuns_accounted`: what a replay reports.
- `TestDelivery.not_forall_outcomeRuns_eq`: two parts of one name are scored alike.
-/

namespace Assessment

open Action

/-! ### Counters -/

namespace TestState

variable {before between after : TestState} {n m : Nat}

/-- Of passes and of runs of outcome processing so many more were counted. -/
structure Counts (n : Nat) (before after : TestState) : Prop where
  /-- So many passes. -/
  passes : after.passes = before.passes + .ofNat n
  /-- So many runs. -/
  outcomeRuns : after.outcomeRuns = before.outcomeRuns + .ofNat n

theorem Counts.of_eq (hpasses : after.passes = before.passes)
    (hruns : after.outcomeRuns = before.outcomeRuns) : before.Counts 0 after where
  passes := hpasses.trans (UInt64.add_zero _).symm
  outcomeRuns := hruns.trans (UInt64.add_zero _).symm

theorem Counts.refl (state : TestState) : state.Counts 0 state := .of_eq rfl rfl

theorem Counts.trans (h : before.Counts n between) (h' : between.Counts m after) :
    before.Counts (n + m) after where
  passes := by rw [h'.passes, h.passes, UInt64.ofNat_add, UInt64.add_assoc]
  outcomeRuns := by rw [h'.outcomeRuns, h.outcomeRuns, UInt64.ofNat_add, UInt64.add_assoc]

/-- What only moves a session on is not counted. -/
theorem Moves.counts (h : before.Moves after) : before.Counts 0 after := by
  obtain ⟨_, _, _, _, -, -, rfl⟩ := h
  exact .of_eq rfl rfl

end TestState

/-- The request that a step makes. -/
def ScriptStep.request (step : ScriptStep) : TestRequest :=
  let now := Timestamp.logical step.time
  match step.operation with
  | .enterTest => .enterTest now
  | .enterPart => .enterPart now
  | .select item => .select now item
  | .advance => .advance now
  | .respond responses => .respond now (responses.mapValues ResponseData.strings)
  | .endPart => .endPart now
  | .exit => .exit now

namespace TestDelivery

variable {delivery : TestDelivery} {state left : TestState} {now : Timestamp} {seed : UInt64}
  {call : TestCall} {calls : List TestCall}

/-! ### The part that is under way -/

/-- Whether a part is under way that is scored after each attempt. -/
def scoresAtOnce (delivery : TestDelivery) (state : TestState) : Bool :=
  state.parts.any fun entry =>
    entry.status = .interacting ∧ delivery.modeOf entry = some .individual

/-- The parts of a session are those of the test, and the one that is under way is the current
one. -/
structure Tracks (delivery : TestDelivery) (state : TestState) : Prop where
  /-- The plan is that of the test. -/
  plan : TestPlan.build delivery.definition = .ok state.plan
  /-- The parts are those of the test, in order. -/
  heads : state.parts.map (fun entry => (entry.identifier, entry.node)) =
    (delivery.definition.parts.map (·.identifier)).zip state.plan.testParts
  /-- A part that is under way is the current one. -/
  current : ∀ entry ∈ state.parts, entry.status = .interacting →
    state.currentPart = some entry.node

theorem Created.tracks (h : Created delivery seed state) : delivery.Tracks state where
  plan := h.plan
  heads := h.heads
  current entry hentry hstatus := by
    rw [h.status_eq entry hentry] at hstatus
    cases hstatus

theorem Tracks.congr (h : delivery.Tracks state) (hplan : left.plan = state.plan)
    (hparts : left.parts = state.parts) (hcurrent : left.currentPart = state.currentPart) :
    delivery.Tracks left where
  plan := hplan ▸ h.plan
  heads := by rw [hparts, hplan]; exact h.heads
  current := by rw [hparts, hcurrent]; exact h.current

theorem Tracks.works (h : delivery.Tracks state) (hworks : state.Works left) :
    delivery.Tracks left :=
  h.congr hworks.plan hworks.parts hworks.currentPart

/-- The current part decides whether attempts are scored at once. -/
theorem Tracks.scoresAtOnce_iff (h : delivery.Tracks state) {node : Nat} {part : TestPart}
    (hcurrent : state.currentPart = some node)
    (hactive : ∃ entry ∈ state.parts, entry.node = node ∧ entry.status = .interacting)
    (hpart : delivery.part state.plan node = .ok part) :
    delivery.scoresAtOnce state = true ↔ part.submission = .individual := by
  rw [scoresAtOnce, List.any_eq_true]
  constructor
  · rintro ⟨entry, hentry, hopen⟩
    obtain ⟨hstatus, hmode⟩ := of_decide_eq_true hopen
    obtain rfl : entry.node = node :=
      Option.some.inj ((h.current entry hentry hstatus).symm.trans hcurrent)
    rw [modeOf_eq_of_heads h.plan h.heads hentry hpart] at hmode
    exact Option.some.inj hmode
  · intro hmode
    obtain ⟨entry, hentry, rfl, hstatus⟩ := hactive
    refine ⟨entry, hentry, decide_eq_true ⟨hstatus, ?_⟩⟩
    rw [modeOf_eq_of_heads h.plan h.heads hentry hpart, hmode]

/-- Entering a part where none is under way makes it the current one. -/
theorem Tracks.beginsPart (h : delivery.Tracks state)
    (hnone : ∀ entry ∈ state.parts, entry.status ≠ .interacting)
    (hbegins : BeginsPart now state left) : delivery.Tracks left := by
  obtain ⟨position, entry, between, hentry, -, hmoves, rfl⟩ := hbegins
  have hbetween : delivery.Tracks between := h.works hmoves.works
  have hparts : between.parts = state.parts := hmoves.works.parts
  refine ⟨hbetween.plan, ?_, fun other hother hstatus => ?_⟩
  · rw [← hparts]
    exact (map_enterAt head_skipPart (fun _ => rfl) _ _).trans hbetween.heads
  · -- None was under way before, so that only the part that was entered is now.
    have hmem : other.node ∈ [entry.node] := by
      rw [← @map_node_filter_enterAt now _ _ _ hentry hnone]
      exact List.mem_map_of_mem (List.mem_filter.2 ⟨hother, decide_eq_true hstatus⟩)
    exact congrArg some (List.mem_singleton.1 hmem).symm

/-- Ending the current part leaves none under way. -/
theorem Tracks.endPart (h : delivery.Tracks state) {node : Nat}
    (hcurrent : state.currentPart = some node) (hplan : left.plan = state.plan)
    (hparts : left.parts = endAt node now state.parts) : delivery.Tracks left where
  plan := hplan ▸ h.plan
  heads := by
    rw [hparts, hplan]
    exact (map_endAt (fun _ => rfl) _ _).trans h.heads
  current entry hentry hstatus := by
    rw [hparts, endAt_eq_map (nodup_of_heads h.plan h.heads)] at hentry
    obtain ⟨other, hother, rfl⟩ := List.mem_map.1 hentry
    split at hstatus
    next => cases hstatus
    next hne =>
      have hnode := (h.current other hother hstatus).symm.trans hcurrent
      exact absurd (Option.some.inj hnode) hne

/-- Passing over parts leaves none under way where none was. -/
theorem Tracks.skip (h : delivery.Tracks state) (hplan : left.plan = state.plan)
    (hparts : left.parts = state.parts.map skipPart)
    (hcurrent : left.currentPart = state.currentPart) : delivery.Tracks left where
  plan := hplan ▸ h.plan
  heads := by
    rw [hparts, hplan]
    exact (map_map_skipPart head_skipPart _).trans h.heads
  current entry hentry hstatus := by
    rw [hparts] at hentry
    obtain ⟨other, hother, rfl⟩ := List.mem_map.1 hentry
    rw [hcurrent, node_skipPart]
    exact h.current other hother (status_skipPart_eq_interacting.1 hstatus)

/-! ### Requests -/

/-- A part is only entered where none is under way. -/
theorem leaves_enterPart_of_open :
    (delivery.enterPart now).Leaves state fun left =>
      left = state ∨ ∀ entry ∈ state.parts, entry.status ≠ .interacting := by
  rw [enterPart]
  refine leaves_requireInteracting.read (fun _ => ?_) (.inl rfl)
  refine ensures_requireNoOpenPart.bind ?_ fun _ _ hleft => .inl hleft
  rintro _ _ ⟨hnone, rfl⟩
  exact (ensures_run _ _).mono (fun _ _ _ => .inr hnone) fun _ _ _ => .inr hnone

/-- One more run of outcome processing is counted. -/
theorem ensures_processOutcomes_counts :
    delivery.processOutcomes.Ensures state (fun _ left => state.Works left ∧ state.Counts 1 left)
      fun _ _ => True := by
  refine (leaves_processOutcomes.and delivery.ensures_processOutcomes).mono ?_ fun _ _ _ => trivial
  rintro _ left ⟨hworks, outcomes, ends, hleft⟩
  refine ⟨hworks, ?_, ?_⟩
  · rw [hleft]
    rfl
  · rw [hleft]
    rfl

/-- Outcomes are processed after an attempt that is scored at once. -/
theorem Tracks.ensures_respond (h : delivery.Tracks state)
    (responses : SortedMap Identifier ResponseData) :
    (delivery.respond now responses).Ensures state
      (fun _ left => state.Works left ∧
        state.Counts (if delivery.scoresAtOnce state then 1 else 0) left)
      fun _ _ => True := by
  refine delivery.ensures_activePart.bind ?_ fun _ _ _ => trivial
  rintro part _ ⟨-, hcurrent, hactive, rfl⟩
  rw [ensures_bind, ensures_get]
  split
  next => trivial
  next =>
    refine (TestAction.ensures_lookUp _).bind ?_ fun _ _ _ => trivial
    rintro place _ ⟨-, rfl⟩
    refine (TestAction.ensures_lookUp _).bind ?_ fun _ _ _ => trivial
    rintro testPart _ ⟨htestPart, rfl⟩
    refine (delivery.ensures_session place).bind ?_ fun _ _ _ => trivial
    rintro session state ⟨-, -, rfl⟩
    dsimp only
    rw [ensures_ite, ensures_bind]
    refine ⟨fun _ => trivial, fun _ => ?_⟩
    refine Ensures.bind (leaves_onItem place fun item session => (leaves_map _).1
      (item.leaves_follows (.attempt responses now (policy testPart.submission place.control))))
      ?_ fun _ _ _ => trivial
    intro log attempted hattempted
    refine Ensures.bind leaves_touch ?_ fun _ _ _ => trivial
    intro _ touched htouched
    have hmoves := hattempted.trans htouched
    have hscores := h.scoresAtOnce_iff hcurrent hactive htestPart
    split
    next hmode =>
      rw [if_pos (hscores.2 hmode)]
      refine ensures_processOutcomes_counts.bind ?_ fun _ _ _ => trivial
      rintro _ left ⟨hworks, hcounts⟩
      exact ⟨hmoves.works.trans hworks, hmoves.counts.trans hcounts⟩
    next hmode =>
      rw [if_neg fun hscored => ?_]
      · exact ⟨hmoves.works, hmoves.counts⟩
      · exact absurd (hmode.symm.trans (hscores.1 hscored)) nofun

/-- How many runs of outcome processing a request is due that is served. -/
def due (delivery : TestDelivery) (state : TestState) : TestRequest → Nat
  | .respond _ _ => if delivery.scoresAtOnce state then 1 else 0
  | .endPart _ => 1
  | _ => 0

/-- Every request keeps track of the part that is under way, and adds to the counters what it is due
if it is served, and nothing if it is refused. -/
theorem Tracks.ensures_serve (h : delivery.Tracks state) (request : TestRequest) :
    (delivery.serve request).Ensures state
      (fun _ left => delivery.Tracks left ∧ state.Counts (delivery.due state request) left)
      fun error left => error.isLogic ∨ delivery.Tracks left ∧ state.Counts 0 left := by
  have hmoves : ∀ left, state.Moves left → delivery.Tracks left ∧ state.Counts 0 left :=
    fun left hleft => ⟨h.works hleft.works, hleft.counts⟩
  have hsame : ∀ {error : TestError} {left : TestState}, error.isLogic ∨ left = state →
      error.isLogic ∨ delivery.Tracks left ∧ state.Counts 0 left := by
    rintro error left (herror | rfl)
    · exact .inl herror
    · exact .inr ⟨h, .refl left⟩
  -- Most requests only move the session on. Attempts and the ends of parts are counted; entering a
  -- part, ending it and leaving the test change what is under way.
  cases request with
  | enterTest now =>
    rw [serve, ensures_map]
    refine delivery.ensures_enterTest.mono ?_ fun _ _ => hsame
    rintro _ _ ⟨-, outcomes, rfl⟩
    exact ⟨h.congr rfl rfl rfl, .of_eq rfl rfl⟩
  | enterPart now =>
    have hleft : ∀ left, (state.Moves left ∨ BeginsPart now state left) ∧
        (left = state ∨ ∀ entry ∈ state.parts, entry.status ≠ .interacting) →
        delivery.Tracks left ∧ state.Counts 0 left := by
      rintro left ⟨hleft | hbegins, hopen⟩
      · exact hmoves left hleft
      · obtain rfl | hnone := hopen
        · exact ⟨h, .refl left⟩
        · refine ⟨h.beginsPart hnone hbegins, ?_⟩
          obtain ⟨_, _, between, -, -, hbetween, rfl⟩ := hbegins
          exact ⟨hbetween.counts.passes, hbetween.counts.outcomeRuns⟩
    rw [serve, ensures_map]
    exact (leaves_enterPart.and leaves_enterPart_of_open).mono (fun _ => hleft)
      fun _ left h => .inr (hleft left h)
  | select now ref =>
    rw [serve, ensures_map]
    exact Ensures.mono (leaves_select ref) (fun _ => hmoves) fun _ left hleft =>
      .inr (hmoves left hleft)
  | advance now =>
    rw [serve, ensures_map]
    exact Ensures.mono leaves_advance (fun _ => hmoves) fun _ left hleft => .inr (hmoves left hleft)
  | respond now responses =>
    rw [serve, ensures_map]
    refine ((h.ensures_respond responses).and (delivery.ensures_respond responses)).mono ?_
      fun _ _ hrefused => hsame hrefused.2
    rintro _ left ⟨⟨hworks, hcounts⟩, -⟩
    exact ⟨h.works hworks, hcounts⟩
  | endPart now =>
    rw [serve, ensures_map]
    refine delivery.ensures_endPart_processes.mono ?_ fun _ _ => hsame
    rintro _ _ ⟨-, part, _, _, _, _, _, processed, _, _, _, hcurrent, -, -, -, -, -, hprocess, -,
      rfl, -⟩
    obtain ⟨_, _, rfl⟩ := delivery.ensures_processOutcomes.ok hprocess
    exact ⟨h.endPart hcurrent rfl rfl, rfl, rfl⟩
  | exit now =>
    rw [serve, ensures_map]
    refine delivery.ensures_exit.mono ?_ fun _ _ => hsame
    rintro _ _ ⟨-, -, outcomes, rfl⟩
    exact ⟨h.skip rfl rfl rfl, .of_eq rfl rfl⟩

/-! ### Runs -/

/-- How many responses were accepted in sessions of a kind. -/
def responsesWhere (holds : TestState → Bool) (calls : List TestCall) : Nat :=
  calls.countP fun call => call.served && call.request.isRespond && holds call.before

/-- How many times a part was ended. -/
def endedParts (calls : List TestCall) : Nat := calls.countP TestCall.ends

/-- After how many of the requests that were served outcome processing is run. -/
def dueRuns (delivery : TestDelivery) (calls : List TestCall) : Nat :=
  responsesWhere delivery.scoresAtOnce calls + endedParts calls

theorem dueRuns_cons (call : TestCall) (calls : List TestCall) :
    delivery.dueRuns (call :: calls) =
      (if call.served then delivery.due call.before call.request else 0) +
        delivery.dueRuns calls := by
  obtain ⟨before, request, served, after⟩ := call
  simp only [dueRuns, responsesWhere, endedParts, List.countP_cons]
  -- A request is either for an attempt or for the end of a part.
  cases served <;> cases request <;>
    simp only [TestCall.ends, TestRequest.isRespond, TestRequest.isEndPart, due, Bool.true_and,
      Bool.false_and, Bool.false_eq_true, if_true, if_false] <;> omega

/-- A call adds to the counters what its request is due. -/
theorem Makes.counts (h : delivery.Makes call) (htracks : delivery.Tracks call.before) :
    delivery.Tracks call.after ∧ call.before.Counts
      (if call.served then delivery.due call.before call.request else 0) call.after := by
  obtain ⟨hserved, hafter⟩ | ⟨hserved, hafter⟩ := h.of_ensures (htracks.ensures_serve call.request)
  · rw [if_pos hserved]
    exact hafter
  · rw [hserved, if_neg Bool.false_ne_true]
    exact hafter

/-- A run adds to the counters what its requests are due. -/
theorem Run.counts (h : delivery.Run state calls left) (htracks : delivery.Tracks state) :
    delivery.Tracks left ∧ state.Counts (delivery.dueRuns calls) left := by
  -- The induction is on the calls. What a response is due is asked of the session before it, so the
  -- part under way has to be tracked through the whole run.
  induction h with
  | nil => exact ⟨htracks, .refl _⟩
  | cons hmakes _ ih =>
    obtain ⟨hafter, hcounts⟩ := hmakes.counts htracks
    obtain ⟨hleft, hmore⟩ := ih hafter
    rw [dueRuns_cons]
    exact ⟨hleft, hcounts.trans hmore⟩

theorem dueRuns_le_length (delivery : TestDelivery) (calls : List TestCall) :
    delivery.dueRuns calls ≤ calls.length := by
  induction calls with
  | nil => exact Nat.le_refl 0
  | cons call rest ih =>
    have hdue : (if call.served then delivery.due call.before call.request else 0) ≤ 1 := by
      unfold due
      repeat' split
      all_goals omega
    rw [dueRuns_cons, List.length_cons]
    omega

/-! ### All sessions -/

/-- In a new session nothing was counted. -/
theorem yields_create_counters :
    Yields (delivery.create seed) (fun state => state.passes = 0 ∧ state.outcomeRuns = 0)
      fun _ => True := by
  rw [create]
  dsimp only
  refine yields_true.bind fun plan _ => ?_
  refine yields_true.bind fun items _ => ?_
  exact yields_true.bind fun parts _ => ⟨rfl, rfl⟩

/-- In all sessions that requests lead to, the part that is under way is the current one, and as
many passes as runs of outcome processing were counted. -/
theorem Reachable.tracks (h : delivery.Reachable seed state) :
    delivery.Tracks state ∧ state.passes = state.outcomeRuns := by
  obtain ⟨start, calls, hstart, hrun⟩ := h.exists_run
  have hcreated := (yields_iff.1 yields_create).1 start hstart
  obtain ⟨hpasses, hruns⟩ := (yields_iff.1 yields_create_counters).1 start hstart
  obtain ⟨htracks, hcounts⟩ := hrun.counts hcreated.tracks
  refine ⟨htracks, ?_⟩
  rw [hcounts.passes, hcounts.outcomeRuns, hpasses, hruns]

/-! ### Names of parts -/

/-- Whether a part is under way for which the test, at its position, has it that attempts are scored
at once. -/
def isIndividual (delivery : TestDelivery) (state : TestState) : Bool :=
  (delivery.definition.parts.zip state.parts).any fun (part, entry) =>
    entry.status = .interacting ∧ part.submission = .individual

section names

variable (hnames : (delivery.definition.parts.map (·.identifier)).Nodup)

include hnames

/-- Where no two parts have one name, a part is scored as the test has it. -/
theorem Tracks.modeOf_getElem? (h : delivery.Tracks state) {position : Nat} {entry : PartState}
    {part : TestPart} (hentry : state.parts[position]? = some entry)
    (hpart : delivery.definition.parts[position]? = some part) :
    delivery.modeOf entry = some part.submission := by
  obtain ⟨found, hfound, hname, -⟩ := exists_part_of_heads h.plan h.heads hentry
  obtain rfl := Option.some.inj (hpart.symm.trans hfound)
  have hlookUp : delivery.definition.part? part.identifier = some part :=
    find?_name_of_mem hnames (List.mem_of_getElem? hpart)
  rw [modeOf, hname, hlookUp]
  rfl

theorem Tracks.scoresAtOnce_eq (h : delivery.Tracks state) :
    delivery.scoresAtOnce state = delivery.isIndividual state := by
  rw [scoresAtOnce, isIndividual, Bool.eq_iff_iff, List.any_eq_true, List.any_eq_true]
  constructor
  · rintro ⟨entry, hentry, hopen⟩
    obtain ⟨hstatus, hmode⟩ := of_decide_eq_true hopen
    obtain ⟨position, hposition⟩ := List.getElem?_of_mem hentry
    obtain ⟨part, hpart, -⟩ := exists_part_of_heads h.plan h.heads hposition
    rw [h.modeOf_getElem? hnames hposition hpart] at hmode
    refine ⟨(part, entry), ?_, decide_eq_true ⟨hstatus, Option.some.inj hmode⟩⟩
    exact List.mem_of_getElem? (List.getElem?_zip_eq_some.2 ⟨hpart, hposition⟩)
  · rintro ⟨⟨part, entry⟩, hmem, hopen⟩
    obtain ⟨hstatus, hmode⟩ := of_decide_eq_true hopen
    obtain ⟨position, hposition⟩ := List.getElem?_of_mem hmem
    obtain ⟨hpart, hentry⟩ := List.getElem?_zip_eq_some.1 hposition
    refine ⟨entry, List.mem_of_getElem? hentry, decide_eq_true ⟨hstatus, ?_⟩⟩
    rw [h.modeOf_getElem? hnames hentry hpart]
    exact congrArg some hmode

/-- In runs of such a test, those responses are counted that were submitted in a part that is scored
at once. -/
theorem Run.responsesWhere_scoresAtOnce (h : delivery.Run state calls left)
    (hstate : delivery.Reachable seed state) :
    responsesWhere delivery.scoresAtOnce calls = responsesWhere delivery.isIndividual calls := by
  refine List.countP_congr fun call hcall => ?_
  rw [((h.makes_of_mem hstate hcall).2.tracks.1).scoresAtOnce_eq hnames]

end names

/-! ### Scripts -/

/-- Making a step serves its request. -/
theorem serve_request (delivery : TestDelivery) (step : ScriptStep) :
    delivery.serve step.request = (fun _ => ()) <$> delivery.perform step := by
  obtain ⟨time, operation⟩ := step
  cases operation <;>
    simp only [ScriptStep.request, serve, perform, map_eq_pure_bind, bind_assoc, pure_bind]

/-- Steps that are all made make a run in which every request is served. -/
theorem makeAll_of_performAll {steps : List ScriptStep} {position : Nat}
    {log notes : NotificationLog}
    (h : delivery.performAll position state log steps = .ok (left, notes)) :
    ∃ calls, delivery.makeAll state (steps.map (·.request)) = some (calls, left) ∧
      calls.length = steps.length ∧ ∀ call ∈ calls, call.served = true := by
  induction steps generalizing position state log with
  | nil =>
    rw [performAll] at h
    cases h
    exact ⟨[], rfl, rfl, List.forall_mem_nil _⟩
  | cons step rest ih =>
    rw [performAll] at h
    split at h
    next notes after hperform =>
      obtain ⟨calls, hcalls, hlength, hserved⟩ := ih h
      have hserve : (delivery.serve step.request).run.run state = (.ok (), after) := by
        rw [serve_request, ExceptT.run_map, StateT.run_map, hperform]
        rfl
      refine ⟨⟨state, step.request, true, after⟩ :: calls, ?_, congrArg (· + 1) hlength,
        List.forall_mem_cons.2 ⟨rfl, hserved⟩⟩
      rw [List.map_cons, makeAll, hserve]
      exact congrArg (Option.map _) hcalls
    next => cases h

/-- The run that a script makes. -/
def runScript (delivery : TestDelivery) (script : Script) :
    Option (TestState × List TestCall × TestState) :=
  delivery.runFrom (script.seed.getD delivery.engine.options.defaultSeed)
    (script.steps.map (·.request))

/-- A script that can be replayed makes a run in which every request is served. -/
theorem exists_runScript_of_replay {script : Script} {report : Report}
    (h : delivery.replay script = .ok report) :
    ∃ start calls left, delivery.runScript script = some (start, calls, left) ∧
      calls.length = script.steps.length ∧ (∀ call ∈ calls, call.served = true) ∧
      report.outcomeRuns = left.outcomeRuns := by
  have hyields : Yields (delivery.replay script) (fun report =>
      ∃ start calls left, delivery.runScript script = some (start, calls, left) ∧
        calls.length = script.steps.length ∧ (∀ call ∈ calls, call.served = true) ∧
        report.outcomeRuns = left.outcomeRuns) fun _ => True := by
    rw [replay]
    dsimp only
    rw [yields_bind, yields_mapError, yields_iff]
    refine ⟨fun start hstart => ?_, fun _ _ => trivial⟩
    rw [yields_bind, yields_iff]
    refine ⟨fun made hmade => ?_, fun _ _ => trivial⟩
    obtain ⟨left, notes⟩ := made
    obtain ⟨calls, hcalls, hlength, hserved⟩ := makeAll_of_performAll hmade
    refine ⟨start, calls, left, ?_, hlength, hserved, rfl⟩
    rw [runScript, runFrom, hstart]
    exact congrArg (Option.map _) hcalls
  exact (yields_iff.1 hyields).1 report h

/-- A replay reports as many runs of outcome processing as responses were submitted while a part was
under way that is scored at once, and parts were ended. A part is scored as the first one of its
name, and so as the test has it where no two parts have one name. As many passes as runs are counted
in every session. -/
theorem outcomeRuns_accounted {script : Script} {report : Report}
    (h : delivery.replay script = .ok report) :
    (∃ start calls left, delivery.runScript script = some (start, calls, left) ∧
      (∀ call ∈ calls, call.served = true) ∧
      report.outcomeRuns =
        .ofNat (responsesWhere delivery.scoresAtOnce calls + endedParts calls) ∧
      (script.steps.length < UInt64.size → report.outcomeRuns.toNat =
        responsesWhere delivery.scoresAtOnce calls + endedParts calls) ∧
      ((delivery.definition.parts.map (·.identifier)).Nodup →
        responsesWhere delivery.scoresAtOnce calls =
          responsesWhere delivery.isIndividual calls)) ∧
      ∀ seed state, delivery.Reachable seed state → state.passes = state.outcomeRuns := by
  refine ⟨?_, fun seed state hstate => hstate.tracks.2⟩
  obtain ⟨start, calls, left, hscript, hlength, hserved, hreport⟩ := exists_runScript_of_replay h
  obtain ⟨hcreate, hrun⟩ := run_of_runFrom hscript
  have hruns : report.outcomeRuns = .ofNat (delivery.dueRuns calls) := by
    obtain ⟨-, hzero⟩ := (yields_iff.1 yields_create_counters).1 start hcreate
    have hstart := (Reachable.created hcreate).tracks.1
    rw [hreport, (hrun.counts hstart).2.outcomeRuns, hzero, UInt64.zero_add]
  refine ⟨start, calls, left, hscript, hserved, hruns, fun hshort => ?_,
    fun hnames => hrun.responsesWhere_scoresAtOnce hnames (.created hcreate)⟩
  have hle := delivery.dueRuns_le_length calls
  rw [hruns, UInt64.toNat_ofNat_of_lt']
  · rfl
  · rw [dueRuns] at hle
    exact Nat.lt_of_le_of_lt (hlength ▸ hle) hshort

/-- A response to the item of the small test. -/
def answering : Script :=
  ⟨none, [⟨0, .enterTest⟩, ⟨0, .enterPart⟩, ⟨0, .advance⟩, ⟨0, .respond .empty⟩, ⟨0, .endPart⟩,
    ⟨0, .exit⟩]⟩

/-- A response is submitted in a part that is scored at once, and the part is ended. -/
theorem outcomeRuns_accounted_single :
    ∃ report start calls left,
      (single .linear .individual).replay answering = .ok report ∧ report.outcomeRuns = 2 ∧
        (single .linear .individual).runScript answering = some (start, calls, left) ∧
        responsesWhere (single .linear .individual).isIndividual calls + endedParts calls =
          2 := by
  have hreplay : ((single .linear .individual).replay answering).toOption.any
      (·.outcomeRuns = 2) = true := by
    decide +kernel
  obtain ⟨report, hreport, hruns⟩ := (Option.any_eq_true _ _).1 hreplay
  have hreport := eq_ok_of_mem_toOption hreport
  obtain ⟨⟨start, calls, left, hscript, -, -, hcount, hnames⟩, -⟩ := outcomeRuns_accounted hreport
  refine ⟨report, start, calls, left, hreport, of_decide_eq_true hruns, hscript, ?_⟩
  rw [← hnames (by decide +kernel), ← hcount (by decide +kernel), of_decide_eq_true hruns]
  rfl

/-! ### Parts of one name -/

end TestDelivery

/-- A test with two parts of one name, of which only the first is to be scored at once. -/
def TestDefinition.twins : TestDefinition :=
  let test := TestDefinition.single .nonlinear .individual
  let head : SectionHead := ⟨⟨"REST", by decide +kernel⟩, "", true, none⟩
  let refs : List ItemRef := test.items.map fun item =>
    ⟨⟨"SECOND", by decide +kernel⟩, item.identifier, [], [], none, []⟩
  { test with parts := test.parts ++ test.parts.map fun part =>
      { part with submission := .simultaneous, sections := [⟨head, refs.map .itemRef⟩] } }

/-- The test with these parts, with an engine that has no extensions. -/
def TestDelivery.twins : TestDelivery :=
  { TestDelivery.single .nonlinear .individual with definition := .twins }

namespace TestDelivery

/-- The response in the second of two parts of one name is scored as one in the first. -/
theorem not_forall_outcomeRuns_eq :
    ¬∀ (delivery : TestDelivery) (script : Script) (report : Report) (start : TestState)
      (calls : List TestCall) (left : TestState), delivery.replay script = .ok report →
      delivery.runScript script = some (start, calls, left) →
      report.outcomeRuns.toNat = responsesWhere delivery.isIndividual calls + endedParts calls := by
  intro hcounts
  -- The first part is passed over, and the only response is submitted in the second one.
  let script : Script := ⟨none, [⟨0, .enterTest⟩, ⟨0, .enterPart⟩, ⟨0, .endPart⟩, ⟨0, .enterPart⟩,
    ⟨0, .select ⟨"SECOND", by decide +kernel⟩⟩, ⟨0, .respond .empty⟩, ⟨0, .endPart⟩, ⟨0, .exit⟩]⟩
  have hreplay : (twins.replay script).toOption.any (·.outcomeRuns.toNat = 3) = true := by
    decide +kernel
  have hscript : (twins.runScript script).any (fun made =>
      responsesWhere twins.isIndividual made.2.1 + endedParts made.2.1 = 2) = true := by
    decide +kernel
  obtain ⟨report, hreport, hruns⟩ := (Option.any_eq_true _ _).1 hreplay
  obtain ⟨⟨start, calls, left⟩, hmade, hdue⟩ := (Option.any_eq_true _ _).1 hscript
  have hsame := hcounts twins script report start calls left (eq_ok_of_mem_toOption hreport) hmade
  rw [of_decide_eq_true hruns, of_decide_eq_true hdue] at hsame
  cases hsame

end TestDelivery

end Assessment
