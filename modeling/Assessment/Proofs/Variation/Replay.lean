import Mathlib.Algebra.Group.Nat.Defs
import Assessment.Proofs.Misuse.Test
import Assessment.Proofs.Variation.Test
import Assessment.Replay

/-!
# Replays that differ in little

Replaying a script comes to the same, up to what the variation of it explains: another level of
notifications leaves out notifications, another seed is only seen by rules that draw random numbers,
and times by themselves are not seen at all.

## Main definitions

- `Report.keepingFrom`: a report with the notifications from a level on.
- `ReplayError.SameText`: errors that name the same step and have the same text.
- `TestDefinition.DrawsNothing`: no expression of a test draws random numbers.
- `Script.later`: a script with all steps later by a delay.

## Main results

- `Variation.couple_replay`: scripts with the same operations are replayed alike in both runs.
- `TestDelivery.replay_at_level`: the level of notifications is a filter.
- `TestDelivery.replay_of_drawsNothing`: the seed does not matter where nothing is drawn.
- `TestDelivery.replay_later`: only the differences of times matter.
-/

namespace Assessment

open Action TestDelivery

namespace Variation

variable {v : Variation} {delivery : TestDelivery} {s t : TestState}

/-- Errors of replays in both runs: the same step is refused for the same reason, or no session can
be made for the same reason. -/
inductive ReplayErrors (v : Variation) : ReplayError → ReplayError → Prop where
  /-- No session can be made. -/
  | setup (error : TestError) : ReplayErrors v (.setup error) (.setup error)
  /-- The same step is refused. -/
  | operation (position : Nat) (operation : Operation) {error error' : TestError} :
      v.TestErrors error error' →
      ReplayErrors v (.operation position operation error) (.operation position operation error')

/-- Steps of both runs: the same is done, later by the delay. -/
def ScriptSteps (v : Variation) (step step' : ScriptStep) : Prop :=
  step.operation = step'.operation ∧
    Timestamp.Later v.delay (.logical step.time) (.logical step'.time)

/-- A step is made in both runs, or in neither. -/
theorem TestSessions.inStep_perform (h : v.TestSessions s t) (delivery : TestDelivery)
    (hadmitted : v.Permits delivery.definition) {step step' : ScriptStep}
    (hstep : v.ScriptSteps step step') :
    v.InStep v.Logs ((delivery.under v.engine).perform step)
      ((delivery.under v.engine').perform step') s t := by
  obtain ⟨time, operation⟩ := step
  obtain ⟨time', _⟩ := step'
  obtain ⟨rfl, hnow⟩ := hstep
  have hlog : ∀ {α : Type} {first second : TestAction (Step α)},
      v.InStep v.Steps first second s t →
      v.InStep v.Logs (do return (← first).log) (do return (← second).log) s t :=
    fun hstep => hstep.bind fun _ _ _ _ hsteps h => coupled_pure hsteps.2 h
  cases operation with
  | enterTest => exact hlog (h.inStep_enterTest hnow)
  | enterPart => exact hlog (h.inStep_enterPart hadmitted hnow)
  | select item => exact hlog (h.inStep_select item hnow)
  | advance => exact hlog (h.inStep_advance hadmitted hnow)
  | respond responses => exact hlog (h.inStep_respond hadmitted hnow _)
  | endPart => exact hlog (h.inStep_endPart hadmitted hnow)
  | exit => exact hlog (h.inStep_exit hnow)

/-- Steps are made in both runs up to the same one, or to the end. -/
theorem couple_performAll (hadmitted : v.Permits delivery.definition)
    {steps steps' : List ScriptStep} (hsteps : List.Forall₂ v.ScriptSteps steps steps')
    (position : Nat) (h : v.TestSessions s t) {log log' : NotificationLog}
    (hlog : v.Logs log log') :
    Couple (fun answer answer' => v.TestSessions answer.1 answer'.1 ∧ v.Logs answer.2 answer'.2)
      v.ReplayErrors ((delivery.under v.engine).performAll position s log steps)
      ((delivery.under v.engine').performAll position t log' steps') := by
  -- The scripts are taken apart together; a step that is refused ends both runs.
  induction hsteps generalizing position s t log log' with
  | nil => exact ⟨h, hlog⟩
  | @cons step step' _ _ hstep _ ih =>
    obtain ⟨hresult, hleft⟩ := h.inStep_perform delivery hadmitted hstep
    rw [performAll, performAll]
    generalize ((delivery.under v.engine).perform step).run.run s = answer at hresult hleft ⊢
    generalize ((delivery.under v.engine').perform step').run.run t = answer' at hresult hleft ⊢
    obtain ⟨result, left⟩ := answer
    obtain ⟨result', left'⟩ := answer'
    cases result <;> cases result'
    case ok.ok => exact ih (position + 1) hleft (hlog.extend hresult)
    case error.error =>
      dsimp only
      rw [← hstep.1]
      exact .operation position _ hresult
    all_goals exact hresult.elim

/-- Where a test session has come to the same in both runs, the reports differ at most in the seed
and in what is kept of the notifications. -/
theorem TestSessions.report_eq (h : v.TestSessions s t) (seed seed' : UInt64)
    (log log' : NotificationLog) :
    (delivery.under v.engine').report seed' t log' =
      { (delivery.under v.engine).report seed s log with seed := seed', log := log' } := by
  have hitems : t.items.mapValues (fun item => (⟨item.status, item.attempts, item.outcomes⟩ :
      ItemReport)) = s.items.mapValues fun item => ⟨item.status, item.attempts, item.outcomes⟩ :=
    h.items.mapValues_eq fun _ _ hsession =>
      hsession.congr (fun item => (⟨item.status, item.attempts, item.outcomes⟩ : ItemReport))
        fun _ => rfl
  simp only [report, h.status, h.outcomeRuns, h.outcomes, hitems, under_definition]

/-- Reports of both runs, with the seeds of each. -/
structure Reports (v : Variation) (seed seed' : UInt64) (report report' : Report) : Prop where
  /-- The seed of the first run. -/
  seed_eq : report.seed = seed
  /-- Apart from the seed and the log, the reports are the same. -/
  eq : report' = { report with seed := seed', log := report'.log }
  /-- The same was reported in both runs. -/
  log : v.Logs report.log report'.log

/-- With the same seed, only the logs may differ. -/
theorem Reports.eq_of_seed_eq {seed seed' : UInt64} {report report' : Report}
    (h : v.Reports seed seed' report report') (hseed : seed = seed') :
    report' = { report with log := report'.log } :=
  h.eq.trans (by rw [← hseed, ← h.seed_eq])

/-- Scripts with the same operations are replayed in both runs, or refused at the same step. -/
theorem couple_replay (v : Variation) (delivery : TestDelivery) (script script' : Script)
    (hadmitted : v.Permits delivery.definition)
    (hsteps : List.Forall₂ v.ScriptSteps script.steps script'.steps) {seed seed' : UInt64}
    (hscript : script.seed.getD v.engine.options.defaultSeed = seed)
    (hscript' : script'.seed.getD v.engine'.options.defaultSeed = seed')
    (hseed : v.sameSeed → seed = seed') :
    Couple (v.Reports seed seed') v.ReplayErrors ((delivery.under v.engine).replay script)
      ((delivery.under v.engine').replay script') := by
  subst hscript hscript'
  have hstart := (v.couple_createTest delivery hseed).mapError fun error error' heq =>
    show v.ReplayErrors (.setup error) (.setup error') from heq ▸ .setup error
  refine hstart.bind fun s t h => ?_
  refine (couple_performAll hadmitted hsteps 0 h v.logs_empty).bind ?_
  rintro ⟨s, log⟩ ⟨t, log'⟩ ⟨h, hlog⟩
  exact ⟨rfl, h.report_eq _ _ _ _, hlog⟩

end Variation

/-! ### The level of notifications -/

/-- The engine with another level of notifications. -/
def Engine.atLevel (engine : Engine) (level : Level) : Engine :=
  { engine with options := { engine.options with level } }

/-- The report with the notifications from a level on. -/
def Report.keepingFrom (level : Level) (report : Report) : Report :=
  { report with log := .keepingFrom level report.log.entries }

/-- Two errors name the same step, if any, and have the same text. -/
def ReplayError.SameText : ReplayError → ReplayError → Prop
  | .setup error, .setup error' => error.kind = error'.kind ∧ error.message = error'.message
  | .operation position refused error, .operation position' refused' error' =>
    position = position' ∧ refused = refused' ∧ error.kind = error'.kind ∧
      error.message = error'.message
  | _, _ => False

theorem Variation.ReplayErrors.eq {v : Variation} {error error' : ReplayError}
    (h : v.ReplayErrors error error') (hlevel : v.engine'.options.level = v.engine.options.level) :
    error = error' := by
  cases h with
  | setup error => rfl
  | operation position operation herror =>
    cases herror with
    | same error => rfl
    | item ref herror =>
      cases herror with
      | same error => rfl
      | invalidResponse hlogs => rw [hlogs.eq hlevel]

theorem Variation.ReplayErrors.sameText {v : Variation} {error error' : ReplayError}
    (h : v.ReplayErrors error error') : error.SameText error' := by
  cases h with
  | setup error => exact ⟨rfl, rfl⟩
  | operation position operation herror =>
    cases herror with
    | same error => exact ⟨rfl, rfl, rfl, rfl⟩
    | item ref herror =>
      cases herror with
      | same error => exact ⟨rfl, rfl, rfl, rfl⟩
      | invalidResponse _ => exact ⟨rfl, rfl, rfl, rfl⟩

/-! ### Replays of one test -/

/-- No expression of a test draws random numbers. -/
def TestDefinition.DrawsNothing (test : TestDefinition) : Prop :=
  test.Admitted fun expression => ∀ node ∈ expression.walk, node.draws = false

instance TestDefinition.decidableDrawsNothing {test : TestDefinition} :
    Decidable test.DrawsNothing := TestDefinition.decidableAdmitted

/-- A test with an item that draws the number to guess. -/
example : ¬TestDefinition.total.DrawsNothing := by decide +kernel

/-- The script with all steps later by a delay. -/
def Script.later (delay : Nat) (script : Script) : Script :=
  { script with steps := script.steps.map fun step =>
      { step with time := step.time + .ofNat delay } }

namespace Variation

/-- A run with an engine, and one with another level of notifications that is later by a delay. -/
def of (engine : Engine) (level : Level) (delay : Nat) (sameSeed : Prop) : Variation where
  engine
  engine' := engine.atLevel level
  registry := rfl
  overflow := rfl
  attempts := rfl
  delay
  sameSeed

variable {v : Variation}

/-- With the same seed, both runs draw the same random numbers. -/
theorem permits_of_sameSeed (h : v.sameSeed) (test : TestDefinition) : v.Permits test where
  templateProcessing _ _ _ _ _ _ _ _ := .inl h
  responseProcessing _ _ _ _ _ _ _ _ := .inl h
  outcomeProcessing _ _ _ _ _ _ := .inl h
  conditions _ _ _ _ := .inl h

/-- Where nothing is drawn, the seeds may differ. -/
theorem permits_of_drawsNothing {test : TestDefinition} (h : test.DrawsNothing) :
    v.Permits test where
  templateProcessing item hitem rule hrule expression hexpression node hnode :=
    .inr (h.templateProcessing item hitem rule hrule expression hexpression node hnode)
  responseProcessing item hitem rule hrule expression hexpression node hnode :=
    .inr (h.responseProcessing item hitem rule hrule expression hexpression node hnode)
  outcomeProcessing rule hrule expression hexpression node hnode :=
    .inr (h.outcomeProcessing rule hrule expression hexpression node hnode)
  conditions condition hcondition node hnode := .inr (h.conditions condition hcondition node hnode)

end Variation

namespace TestDelivery

variable (delivery : TestDelivery) (script : Script)

/-- The level of notifications is a filter: a script is replayed with another level as it is with
the least, and the report keeps the notifications from that level on. Where it is refused, the same
step is refused with the same text. -/
theorem replay_at_level (level : Level) :
    Couple (fun full kept => kept = full.keepingFrom level) ReplayError.SameText
      ((delivery.under (delivery.engine.atLevel .info)).replay script)
      ((delivery.under (delivery.engine.atLevel level)).replay script) := by
  -- The second run has another level, and everything else in common.
  let v := Variation.of (delivery.engine.atLevel .info) level 0 True
  have hsteps : List.Forall₂ v.ScriptSteps script.steps script.steps :=
    List.forall₂_same.2 fun _ _ => ⟨rfl, rfl⟩
  have hreplay := v.couple_replay delivery script script
    (Variation.permits_of_sameSeed trivial _) hsteps rfl rfl fun _ => rfl
  refine hreplay.mono (fun full kept hreport => ?_) fun _ _ herror => herror.sameText
  rw [hreport.eq_of_seed_eq rfl, hreport.log.eq_keepingFrom rfl]
  rfl

/-- Where a test draws no random numbers, the seed is only seen in the report. -/
theorem replay_of_drawsNothing (hdraws : delivery.definition.DrawsNothing)
    (first second : Option UInt64) (steps : List ScriptStep) :
    delivery.replay ⟨second, steps⟩ = (delivery.replay ⟨first, steps⟩).map fun report =>
      { report with seed := second.getD delivery.engine.options.defaultSeed } := by
  -- Nothing is asked of the seeds, since nothing is drawn.
  let v := Variation.of delivery.engine delivery.engine.options.level 0 False
  have hsteps : List.Forall₂ v.ScriptSteps steps steps :=
    List.forall₂_same.2 fun _ _ => ⟨rfl, rfl⟩
  have hreplay := v.couple_replay delivery ⟨first, steps⟩ ⟨second, steps⟩
    (Variation.permits_of_drawsNothing hdraws) hsteps rfl rfl False.elim
  refine (hreplay.mono (fun report report' hreport => ?_) fun _ _ herror => herror.eq rfl).eq_map
  rw [hreport.eq, hreport.log.eq rfl]
  rfl

/-- Only the differences of times matter: a script is replayed at a later time as it is. -/
theorem replay_later {delay : Nat}
    (hdelay : ∀ step ∈ script.steps, step.time.toNat + delay < 2 ^ 64) :
    delivery.replay (script.later delay) = delivery.replay script := by
  let v := Variation.of delivery.engine delivery.engine.options.level delay True
  have hsteps : List.Forall₂ v.ScriptSteps script.steps (script.later delay).steps := by
    -- No time runs over, so that words are added as numbers are.
    refine List.forall₂_map_right_iff.2 (List.forall₂_same.2 fun step hmem => ⟨rfl, ?_⟩)
    have hstep := hdelay step hmem
    change (step.time + .ofNat delay).toNat = step.time.toNat + delay
    rw [UInt64.toNat_add, UInt64.toNat_ofNat', Nat.mod_eq_of_lt (by omega : delay < 2 ^ 64),
      Nat.mod_eq_of_lt hstep]
  have hreplay := v.couple_replay delivery script (script.later delay)
    (Variation.permits_of_sameSeed trivial _) hsteps rfl rfl fun _ => rfl
  have hsame : Couple (fun report report' => report' = id report) Eq (delivery.replay script)
      (delivery.replay (script.later delay)) := by
    refine hreplay.mono (fun report report' hreport => ?_) fun _ _ herror => herror.eq rfl
    rw [hreport.eq_of_seed_eq rfl, hreport.log.eq rfl]
    rfl
  rw [hsame.eq_map, Except.map_id, id]

/-- The small test without the rule that draws a number. -/
def certain : TestDelivery :=
  let item : ItemDefinition :=
    { ItemDefinition.guess with
      templateProcessing := ItemDefinition.guess.templateProcessing.tail }
  { total with definition := { TestDefinition.total with items := [item] } }

/-- A session of a test with one item, at times that also run backwards. -/
def sitting : Script :=
  let responses : SortedMap Identifier (List String) :=
    .ofList [(ItemDefinition.guessResponse, ["1"])]
  ⟨some 1, [⟨5000, .enterTest⟩, ⟨8000, .enterPart⟩, ⟨6000, .advance⟩, ⟨7500, .respond responses⟩,
    ⟨9000, .endPart⟩, ⟨9000, .exit⟩]⟩

/-- The small test draws nothing, so that its session comes to the same with another seed. -/
theorem replay_of_drawsNothing_certain :
    certain.definition.DrawsNothing ∧
      certain.replay ⟨some 2, sitting.steps⟩ = (certain.replay sitting).map fun report =>
        { report with seed := 2 } := by
  have hdraws : certain.definition.DrawsNothing := by
    decide +kernel
  exact ⟨hdraws, replay_of_drawsNothing certain hdraws (some 1) (some 2) sitting.steps⟩

/-- The session comes to the same a second later. -/
theorem replay_later_certain :
    (∀ step ∈ sitting.steps, step.time.toNat + 1000 < 2 ^ 64) ∧
      certain.replay (sitting.later 1000) = certain.replay sitting := by
  have hdelay : ∀ step ∈ sitting.steps, step.time.toNat + 1000 < 2 ^ 64 := by
    decide +kernel
  exact ⟨hdelay, replay_later certain sitting hdelay⟩

end TestDelivery

end Assessment
