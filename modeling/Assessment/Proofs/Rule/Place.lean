import Assessment.Proofs.Encoding.Item
import Assessment.Proofs.Template.Passes

/-!
# Places in lists of rules

An exit rule ends the run of the list that it stands in, at any depth and of any scope. Validation
reports those whose scope is not that of the list as rules without effect. They have one: what
stands behind them is not run.

A place is where rules stand in a list, in a branch of a condition of the list, in a branch of a
condition there, and so on. A run of the list first comes to the place, if it does, and then runs
the rules there and those behind. Both parts are runs of their own, so that runs of lists that
differ in one place only are compared from there on.

## Main definitions

- `Rule.Place`: a place in a list of rules.
- `Rule.Place.behind`: the rules that are run after those in a place.
- `Rule.Place.approach` and `Rule.Place.approachTemplate`: what is run before the place is reached.

## Main results

- `Rule.mem_walkAll_iff`: every nested rule has a place.
- `Rule.Place.runAll_fill` and `Rule.Place.templatePasses_fill`: runs in two parts.
- `Rule.Place.session_exit_iff`: when an exit rule has no effect.
- `ItemDelivery.not_forall_session_exit_eq`: an exit rule without effect has one.
-/

namespace Assessment

open Execution

variable {σ : Type}

/-- How a run of rules goes on after a flow, where it does. -/
def Flow.goOn (rest : Execution σ Flow) : Flow → Execution σ Flow
  | next => rest
  | flow => pure flow

section goOn

variable (rest : Execution σ Flow)

@[simp]
theorem Flow.goOn_next : next.goOn rest = rest := rfl

@[simp]
theorem Flow.goOn_exit (scope : ExitScope) : (exit scope).goOn rest = pure (exit scope) := rfl

@[simp]
theorem Flow.goOn_constraintFailed : constraintFailed.goOn rest = pure constraintFailed := rfl

end goOn

namespace Rule

/-- A place in a list of rules. -/
inductive Place where
  /-- Between rules of the list. -/
  | between (before after : List Rule)
  /-- In a branch of a condition of the list. -/
  | inBranch (before : List Rule) (earlier : List Branch) (test : Expression) (inner : Place)
    (later : List Branch) (otherwise : Option (List Rule)) (after : List Rule)
  /-- In the last list of a condition of the list. -/
  | inOtherwise (before : List Rule) (branches : List Branch) (inner : Place) (after : List Rule)

namespace Place

/-- The list with rules in a place. -/
def fill (inserted : List Rule) : Place → List Rule
  | between before after => before ++ (inserted ++ after)
  | inBranch before earlier test inner later otherwise after =>
    before ++ .condition (earlier ++ .mk test (inner.fill inserted) :: later) otherwise :: after
  | inOtherwise before branches inner after =>
    before ++ .condition branches (some (inner.fill inserted)) :: after

/-- The rules that are run after those in a place. -/
def behind : Place → List Rule
  | between _ after => after
  | inBranch _ _ _ inner _ _ after | inOtherwise _ _ inner after => inner.behind ++ after

end Place

/-! ### Nested rules -/

/-- What is put into a place is nested in the list. -/
theorem Place.mem_walkAll_fill (rule : Rule) (place : Place) :
    rule ∈ walkAll (place.fill [rule]) := by
  induction place with
  | between before after => simp [fill, walkAll_eq_flatMap, self_mem_walk]
  | inBranch before earlier test inner later otherwise after ih =>
    rw [walkAll_eq_flatMap] at ih ⊢
    cases otherwise <;>
      simp [fill, walk, walkBranches_eq_flatMap, walkAll_eq_flatMap, Branch.rules, ih]
  | inOtherwise before branches inner after ih =>
    rw [walkAll_eq_flatMap] at ih ⊢
    simp [fill, walk, walkAll_eq_flatMap, ih]

-- The recursion follows the nesting of rules. What stands before a rule or a branch is given, as it
-- is part of the place.
mutual

theorem exists_fill_of_mem_walk {rule : Rule} (before after : List Rule) :
    ∀ first : Rule, rule ∈ first.walk →
      ∃ place : Place, place.fill [rule] = before ++ first :: after
  | .assign _ _ _, h => ⟨.between before after, by rw [List.mem_singleton.1 h]; rfl⟩
  | .exit _, h => ⟨.between before after, by rw [List.mem_singleton.1 h]; rfl⟩
  | .constraint _, h => ⟨.between before after, by rw [List.mem_singleton.1 h]; rfl⟩
  | .condition branches none, h => by
    obtain rfl | hnested := List.mem_cons.1 h
    · exact ⟨.between before after, rfl⟩
    · exact exists_fill_of_mem_walkBranches before after none [] branches hnested
  | .condition branches (some otherwise), h => by
    obtain rfl | hnested := List.mem_cons.1 h
    · exact ⟨.between before after, rfl⟩
    · obtain hnested | hnested := List.mem_append.1 hnested
      · exact exists_fill_of_mem_walkBranches before after _ [] branches hnested
      · obtain ⟨inner, rfl⟩ := exists_fill_of_mem_walkAll [] otherwise hnested
        exact ⟨.inOtherwise before branches inner after, rfl⟩
termination_by structural first => first

theorem exists_fill_of_mem_walkAll {rule : Rule} (before : List Rule) :
    ∀ rules : List Rule, rule ∈ walkAll rules → ∃ place : Place, place.fill [rule] = before ++ rules
  | [], h => by cases h
  | first :: rest, h => by
    obtain hfirst | hrest := List.mem_append.1 h
    · exact exists_fill_of_mem_walk before rest first hfirst
    · obtain ⟨place, hplace⟩ := exists_fill_of_mem_walkAll (before ++ [first]) rest hrest
      exact ⟨place, by rw [hplace, List.append_cons before first rest]⟩
termination_by structural rules => rules

theorem exists_fill_of_mem_walkBranches {rule : Rule} (before after : List Rule)
    (otherwise : Option (List Rule)) (earlier : List Branch) :
    ∀ branches : List Branch, rule ∈ walkBranches branches →
      ∃ place : Place, place.fill [rule] =
        before ++ .condition (earlier ++ branches) otherwise :: after
  | [], h => by cases h
  | .mk test rules :: later, h => by
    obtain hfirst | hlater := List.mem_append.1 h
    · obtain ⟨inner, rfl⟩ := exists_fill_of_mem_walkAll [] rules hfirst
      exact ⟨.inBranch before earlier test inner later otherwise after, rfl⟩
    · obtain ⟨place, hplace⟩ := exists_fill_of_mem_walkBranches before after otherwise
        (earlier ++ [.mk test rules]) later hlater
      exact ⟨place, by rw [hplace, List.append_cons earlier _ later]⟩
termination_by structural branches => branches

end

/-- A rule is nested in a list where it has a place there. -/
theorem mem_walkAll_iff {rule : Rule} {rules : List Rule} :
    rule ∈ walkAll rules ↔ ∃ place : Place, place.fill [rule] = rules := by
  refine ⟨exists_fill_of_mem_walkAll [] rules, ?_⟩
  rintro ⟨place, rfl⟩
  exact place.mem_walkAll_fill rule

/-! ### Runs in two parts -/

section runs

variable (engine : Engine) (stage : Stage σ) (mode : ConstraintMode)

namespace Place

/-- Run what stands before a place. The flow is that of the list where the run ends without coming
to the place, and there is none where it has come there. -/
def approach : Place → Execution σ (Option Flow)
  | between before _ => do
    match ← runAll engine stage mode before with
    | .next => return none
    | flow => return some flow
  | inBranch before earlier test inner later otherwise after => do
    match ← runAll engine stage mode before with
    | .next =>
      match ← runBranches engine stage mode earlier with
      | some flow => return some (← flow.goOn (runAll engine stage mode after))
      | none =>
        if ← isTrue engine stage "condition" test then
          match ← inner.approach with
          | some flow => return some (← flow.goOn (runAll engine stage mode after))
          | none => return none
        else return some (← runAll engine stage mode (.condition later otherwise :: after))
    | flow => return some flow
  | inOtherwise before branches inner after => do
    match ← runAll engine stage mode before with
    | .next =>
      match ← runBranches engine stage mode branches with
      | some flow => return some (← flow.goOn (runAll engine stage mode after))
      | none =>
        match ← inner.approach with
        | some flow => return some (← flow.goOn (runAll engine stage mode after))
        | none => return none
    | flow => return some flow

/-- Run rules where a place has been reached. -/
def arrive (there : Execution σ Flow) : Option Flow → Execution σ Flow
  | none => there
  | some flow => pure flow

end Place

variable {engine stage mode}

theorem runAll_cons (first : Rule) (rest : List Rule) :
    runAll engine stage mode (first :: rest) =
      run engine stage mode first >>= Flow.goOn (runAll engine stage mode rest) := by
  rw [runAll]
  rfl

theorem goOn_bind_goOn (first second : Execution σ Flow) (flow : Flow) :
    flow.goOn first >>= Flow.goOn second = flow.goOn (first >>= Flow.goOn second) := by
  cases flow <;> simp

theorem runAll_append (first second : List Rule) :
    runAll engine stage mode (first ++ second) =
      runAll engine stage mode first >>= Flow.goOn (runAll engine stage mode second) := by
  induction first with
  | nil => simp [runAll]
  | cons rule rest ih =>
    rw [List.cons_append, runAll_cons, ih, runAll_cons, bind_assoc]
    exact bind_congr fun flow => (goOn_bind_goOn _ _ flow).symm

theorem runBranches_append (first second : List Branch) :
    runBranches engine stage mode (first ++ second) =
      runBranches engine stage mode first >>= fun flow =>
        flow.elim (runBranches engine stage mode second) (pure ∘ some) := by
  induction first with
  | nil => simp [runBranches]
  | cons branch rest ih =>
    obtain ⟨test, rules⟩ := branch
    rw [List.cons_append, runBranches, runBranches, ih, bind_assoc]
    refine bind_congr fun truth => ?_
    cases truth <;> simp

/-- A condition whose earlier branches are not run tests the next branch, and is a condition of the
later ones if that is not run. -/
theorem run_condition_append (earlier later : List Branch) (test : Expression) (rules : List Rule)
    (otherwise : Option (List Rule)) :
    run engine stage mode (.condition (earlier ++ .mk test rules :: later) otherwise) =
      runBranches engine stage mode earlier >>= fun ran =>
        ran.elim (isTrue engine stage "condition" test >>= fun truth =>
          if truth = true then runAll engine stage mode rules
          else run engine stage mode (.condition later otherwise)) pure := by
  rw [run_condition_eq_elim, runBranches_append, bind_assoc]
  refine bind_congr fun ran => ?_
  cases ran with
  | some flow => simp
  | none =>
    rw [Option.elim_none, runBranches, bind_assoc, Option.elim_none]
    refine bind_congr fun truth => ?_
    cases truth <;> simp [run_condition_eq_elim]

namespace Place

/-- Where the run of an inner list goes on to further rules, they stand behind the place. -/
theorem bind_goOn_eq (there rest : Execution σ Flow) (inner : Execution σ (Option Flow)) :
    (inner >>= arrive there) >>= Flow.goOn rest =
      (inner >>= fun
        | some flow => some <$> flow.goOn rest
        | none => pure none) >>= arrive (there >>= Flow.goOn rest) := by
  rw [bind_assoc, bind_assoc]
  refine bind_congr fun flow => ?_
  cases flow <;> simp [arrive]

/-- A run of a list with rules in a place comes to the place and runs them and those behind, or ends
before. -/
theorem runAll_fill (inserted : List Rule) (place : Place) :
    runAll engine stage mode (place.fill inserted) =
      place.approach engine stage mode >>=
        arrive (runAll engine stage mode (inserted ++ place.behind)) := by
  induction place with
  | between before after =>
    rw [fill, runAll_append, approach, bind_assoc]
    refine bind_congr fun flow => ?_
    cases flow <;> simp [arrive, behind]
  | inBranch before earlier test inner later otherwise after ih =>
    rw [fill, runAll_append, approach, bind_assoc]
    refine bind_congr fun flow => ?_
    cases flow with
    | exit | constraintFailed => simp [arrive]
    | next =>
      rw [Flow.goOn_next, runAll_cons, run_condition_append, bind_assoc, bind_assoc]
      refine bind_congr fun ran => ?_
      cases ran with
      | some flow => simp [arrive]
      | none =>
        rw [Option.elim_none, bind_assoc, bind_assoc]
        refine bind_congr fun truth => ?_
        cases truth with
        | false => simp [arrive, runAll_cons]
        | true =>
          rw [if_pos rfl, ih, bind_goOn_eq, behind, ← List.append_assoc, runAll_append (_ ++ _)]
          rfl
  | inOtherwise before branches inner after ih =>
    rw [fill, runAll_append, approach, bind_assoc]
    refine bind_congr fun flow => ?_
    cases flow with
    | exit | constraintFailed => simp [arrive]
    | next =>
      rw [Flow.goOn_next, runAll_cons, run_condition_eq_elim, bind_assoc, bind_assoc]
      refine bind_congr fun ran => ?_
      cases ran with
      | some flow => simp [arrive]
      | none =>
        rw [Option.elim_none, Option.getD_some, ih, bind_goOn_eq, behind, ← List.append_assoc,
          runAll_append (_ ++ _)]
        rfl

end Place

/-! ### Passes in two parts -/

/-- What a false constraint does in a pass that so many further ones may follow. -/
def modeBefore : Nat → ConstraintMode
  | 0 => .relax
  | _ + 1 => .enforce

/-- What is done after a pass of template processing that ended with a flow, with so many passes
before it and so many that may follow. -/
def settle (engine : Engine) (stage : Stage σ) (rules : List Rule) (passes : Nat) :
    Nat → Flow → Execution σ TemplateRun
  | further + 1, .constraintFailed => do
    restart stage
    templatePasses engine stage rules (passes + 1) further
  | _, flow => return ⟨flow.ending, passes + 1, !(← get).relaxed⟩

/-- Template processing runs a pass and settles it. -/
theorem templatePasses_eq_settle (rules : List Rule) (passes further : Nat) :
    templatePasses engine stage rules passes further =
      templatePass engine stage rules (modeBefore further) >>=
        settle engine stage rules passes further := by
  cases further with
  | zero | succ further =>
    rw [templatePasses]
    refine bind_congr fun flow => ?_
    cases flow <;> rfl

/-- How far template processing is when it comes to a place. -/
structure Place.Arrival where
  /-- How many passes were rejected. -/
  passes : Nat
  /-- How many passes may follow. -/
  further : Nat

namespace Place

/-- Run template processing until a pass comes to a place, or to its end where none does. Where the
place is not reached it does not matter what stands there. -/
def approachTemplate (engine : Engine) (stage : Stage σ) (place : Place) (passes : Nat) :
    Nat → Execution σ (Arrival ⊕ TemplateRun)
  | 0 => do
    modify fun run => { run with relaxed := false }
    match ← place.approach engine stage .relax with
    | none => return .inl ⟨passes, 0⟩
    | some flow => return .inr ⟨flow.ending, passes + 1, !(← get).relaxed⟩
  | further + 1 => do
    modify fun run => { run with relaxed := false }
    match ← place.approach engine stage .enforce with
    | none => return .inl ⟨passes, further + 1⟩
    | some .constraintFailed => do
      restart stage
      place.approachTemplate engine stage (passes + 1) further
    | some flow => return .inr ⟨flow.ending, passes + 1, !(← get).relaxed⟩

/-- Go on with template processing where it has come to a place in which there are rules. -/
def resume (engine : Engine) (stage : Stage σ) (inserted : List Rule) (place : Place) :
    Arrival ⊕ TemplateRun → Execution σ TemplateRun
  | .inl arrival =>
    runAll engine stage (modeBefore arrival.further) (inserted ++ place.behind) >>=
      settle engine stage (place.fill inserted) arrival.passes arrival.further
  | .inr result => return result

/-- Template processing with rules in a place comes to the place and goes on there, or ends
before. -/
theorem templatePasses_fill (inserted : List Rule) (place : Place) (passes further : Nat) :
    templatePasses engine stage (place.fill inserted) passes further =
      place.approachTemplate engine stage passes further >>=
        place.resume engine stage inserted := by
  induction further generalizing passes with
  | zero =>
    rw [templatePasses_eq_settle, templatePass, runAll_fill, approachTemplate]
    simp only [bind_assoc]
    refine bind_congr fun _ => bind_congr fun flow => ?_
    cases flow with
    | none => rfl
    | some flow => cases flow <;> simp [arrive, settle, resume]
  | succ further ih =>
    rw [templatePasses_eq_settle, templatePass, runAll_fill, approachTemplate]
    simp only [bind_assoc]
    refine bind_congr fun _ => bind_congr fun flow => ?_
    cases flow with
    | none => rfl
    | some flow => cases flow <;> simp [arrive, settle, resume, ih]

end Place

end runs

/-! ### Exit rules -/

/-- Two runs that begin alike leave the same session if what the one goes on with leaves what the
other one stops at. -/
theorem session_bind_eq_iff {α β : Type} (begin : Execution σ α) (reached : α → Prop)
    {stops goes : α → Execution σ β} (hpassed : ∀ a, ¬reached a → stops a = goes a)
    (hreached : ∀ a run, reached a → ((stops a).run.run run).2.session = run.session)
    (start : Run σ) :
    ((begin >>= stops).run.run start).2.session = ((begin >>= goes).run.run start).2.session ↔
      ∀ a found, reached a → begin.run.run start = (.ok a, found) →
        ((goes a).run.run found).2.session = found.session := by
  rw [Action.run_bind, Action.run_bind]
  rcases hbegin : begin.run.run start with ⟨error | a, found⟩ <;> dsimp only
  · refine iff_of_true rfl fun _ _ _ h => ?_
    cases h
  · by_cases ha : reached a
    · rw [hreached a found ha]
      refine ⟨?_, fun h => (h a found ha rfl).symm⟩
      rintro h _ _ - ⟨⟩
      exact h.symm
    · rw [hpassed a ha]
      refine iff_of_true rfl ?_
      rintro _ _ ha' ⟨⟩
      exact absurd ha' ha

/-- Rules that are run on a session leave the session of the run. -/
theorem left_on {α : Type} (execution : Execution σ α) (environment : Environment) (session : σ) :
    ((execution.on environment).run.run session).2 =
      (execution.run.run ⟨session, environment, false⟩).2.session := by
  have hleaves : (execution.on environment).Leaves session
      (· = (execution.run.run ⟨session, environment, false⟩).2.session) :=
    Execution.ensures_on_iff.2 ((Action.ensures_run _ _).mono (fun _ _ hrun => by rw [hrun])
      fun _ _ hrun => by rw [hrun])
  rcases hrun : (execution.on environment).run.run session with ⟨error | a, left⟩
  · exact hleaves.error hrun
  · exact hleaves.ok hrun

/-- An exit rule whose scope is not that of the list is reported, at any depth. -/
theorem mem_checkRules_exit {subject : Subject} {registry : Registry} {kind : ProcessingKind}
    {scope : ExitScope} {rules : List Rule} (hrule : .exit scope ∈ walkAll rules)
    (hexits : Subject.exits scope kind = false) :
    ⟨(exit scope).source, .noEffect kind⟩ ∈ subject.checkRules registry kind rules := by
  refine List.mem_flatMap.2 ⟨_, hrule, List.mem_append_left _ ?_⟩
  rw [Subject.checkRuleHead, hexits]
  exact List.mem_cons_self

namespace Place

variable {engine : Engine} {stage : Stage σ}

/-- An exit rule changes the session that a single run leaves unless what stands behind it leaves it
as it is. -/
theorem session_execute_exit_iff (place : Place) (scope : ExitScope) (start : Run σ) :
    ((execute engine stage (place.fill [.exit scope])).run.run start).2.session =
        ((execute engine stage (place.fill [])).run.run start).2.session ↔
      ∀ found, (place.approach engine stage .ignore).run.run start = (.ok none, found) →
        ((runAll engine stage .ignore place.behind).run.run found).2.session = found.session := by
  have hexecute : ∀ inserted : List Rule,
      ((execute engine stage (place.fill inserted)).run.run start).2.session =
        ((place.approach engine stage .ignore >>=
          arrive (runAll engine stage .ignore (inserted ++ place.behind))).run.run
            start).2.session := by
    intro inserted
    rw [execute, runAll_fill, Action.run_bind]
    split <;> rename_i hrun <;> rw [hrun]
    rfl
  rw [hexecute, hexecute, session_bind_eq_iff _ (· = none)]
  · refine ⟨fun h found => h none found rfl, ?_⟩
    rintro h _ found rfl
    exact h found
  · intro a ha
    cases a with
    | none => exact absurd rfl ha
    | some flow => rfl
  · rintro _ run rfl
    rfl

/-- An exit rule changes the session that template processing leaves unless what would follow it
leaves it as it is. -/
theorem session_templatePasses_exit_iff (place : Place) (scope : ExitScope)
    (passes further : Nat) (start : Run σ) :
    ((templatePasses engine stage (place.fill [.exit scope]) passes further).run.run
          start).2.session =
        ((templatePasses engine stage (place.fill []) passes further).run.run start).2.session ↔
      ∀ arrival found, (place.approachTemplate engine stage passes further).run.run start =
          (.ok (.inl arrival), found) →
        ((place.resume engine stage [] (.inl arrival)).run.run found).2.session =
          found.session := by
  rw [templatePasses_fill, templatePasses_fill, session_bind_eq_iff _ (·.isLeft = true)]
  · refine ⟨fun h arrival found => h _ found rfl, ?_⟩
    rintro h (arrival | result) found hleft
    · exact h arrival found
    · cases hleft
  · rintro (arrival | result) hleft
    · exact absurd rfl hleft
    · rfl
  · rintro (⟨passes, further⟩ | result) run hleft
    · cases further <;> rfl
    · cases hleft

/-- An exit rule behind which nothing is run leaves a single run as it is. -/
theorem session_execute_exit_of_behind_eq_nil {place : Place} (hbehind : place.behind = [])
    (scope : ExitScope) (start : Run σ) :
    ((execute engine stage (place.fill [.exit scope])).run.run start).2.session =
      ((execute engine stage (place.fill [])).run.run start).2.session := by
  refine (place.session_execute_exit_iff scope start).2 fun found _ => ?_
  rw [hbehind]
  rfl

/-- An exit rule behind which nothing is run leaves template processing as it is: its pass would be
kept without it too. -/
theorem session_templatePasses_exit_of_behind_eq_nil {place : Place} (hbehind : place.behind = [])
    (scope : ExitScope) (passes further : Nat) (start : Run σ) :
    ((templatePasses engine stage (place.fill [.exit scope]) passes further).run.run
        start).2.session =
      ((templatePasses engine stage (place.fill []) passes further).run.run start).2.session := by
  refine (place.session_templatePasses_exit_iff scope passes further start).2 ?_
  rintro ⟨passes, further⟩ found -
  rw [resume, hbehind]
  cases further <;> rfl

end Place

/-- **Exit rules end a run whatever their scope is.** Where the scope is not that of the list, the
rule is reported as without effect. Without the rule, a run leaves the same session just if nothing
that stands behind it changes the session where the run comes to the rule. In template processing
this is what follows in the pass, together with the passes that may follow it. -/
theorem Place.session_exit_iff (place : Place) (scope : ExitScope) :
    (∀ subject registry kind, Subject.exits scope kind = false →
      ⟨(exit scope).source, .noEffect kind⟩ ∈
        Subject.checkRules subject registry kind (place.fill [.exit scope])) ∧
    ∀ (engine : Engine) (stage : Stage σ) (session : σ) (environment : Environment),
      ((((execute engine stage (place.fill [.exit scope])).on environment).run.run session).2 =
          (((execute engine stage (place.fill [])).on environment).run.run session).2 ↔
        ∀ found, (place.approach engine stage .ignore).run.run ⟨session, environment, false⟩ =
            (.ok none, found) →
          ((runAll engine stage .ignore place.behind).run.run found).2.session = found.session) ∧
      ((((executeTemplate engine stage (place.fill [.exit scope])).on environment).run.run
            session).2 =
          (((executeTemplate engine stage (place.fill [])).on environment).run.run session).2 ↔
        ∀ arrival found, (place.approachTemplate engine stage 0
            (engine.options.maxTemplateAttempts.toNat - 1)).run.run ⟨session, environment, false⟩ =
            (.ok (.inl arrival), found) →
          ((place.resume engine stage [] (.inl arrival)).run.run found).2.session =
            found.session) := by
  refine ⟨fun _ _ _ => mem_checkRules_exit (place.mem_walkAll_fill _),
    fun engine stage session environment => ?_⟩
  rw [left_on, left_on, left_on, left_on]
  exact ⟨place.session_execute_exit_iff scope _, place.session_templatePasses_exit_iff scope 0 _ _⟩

end Rule

/-! ### A template that is left early -/

/-- A template variable. -/
def ItemDefinition.shape : Identifier := ⟨"SHAPE", by decide +kernel⟩

/-- Before a rule that assigns a template variable. -/
def Rule.Place.beforeShape : Place :=
  .between [] [.assign .templateValue ItemDefinition.shape (.baseValue (.integer 1))]

/-- An item whose template processing begins with an exit rule of response processing. -/
def ItemDefinition.leftEarly : ItemDefinition :=
  { ItemDefinition.bare ⟨"EARLY", by decide +kernel⟩ with
    templates := [⟨shape, .single .integer, none, false, false⟩]
    templateProcessing := Rule.Place.beforeShape.fill [.exit .response] }

/-- Whether the template variable of the item was assigned. -/
def ItemState.isShaped (state : ItemState) : Bool :=
  (state.templates.get? ItemDefinition.shape).any fun value => !value.isNull

namespace ItemDelivery

/-- The item with an engine that has no extensions. -/
def leftEarly : ItemDelivery := ⟨.leftEarly, ⟨.empty, .default⟩, ⟨.sha256, "left"⟩⟩

/-- Run rules on a session of an item, as template processing does. -/
def executeTemplate (delivery : ItemDelivery) (rules : List Rule) (environment : Environment) :
    Action ItemState LogicError (TemplateRun × NotificationLog) :=
  (Rule.executeTemplate delivery.engine (ItemState.stage delivery.definition) rules).on environment

/-- Without the exit rule the variable is assigned. -/
theorem exists_shaped_leftEarly :
    ∃ state, leftEarly.create .empty 0 = .ok state ∧
      ((leftEarly.executeTemplate (Rule.Place.beforeShape.fill [.exit .response])
        (.forPass 0 0 .info)).run.run state).2.isShaped = false ∧
      ((leftEarly.executeTemplate (Rule.Place.beforeShape.fill [])
        (.forPass 0 0 .info)).run.run state).2.isShaped = true := by
  have hshaped : (leftEarly.create .empty 0).toOption.any (fun state =>
      ((leftEarly.executeTemplate (Rule.Place.beforeShape.fill [.exit .response])
        (.forPass 0 0 .info)).run.run state).2.isShaped = false ∧
      ((leftEarly.executeTemplate (Rule.Place.beforeShape.fill [])
        (.forPass 0 0 .info)).run.run state).2.isShaped = true) = true := by
    decide +kernel
  obtain ⟨state, hstate, hcheck⟩ := (Option.any_eq_true _ _).1 hshaped
  exact ⟨state, eq_ok_of_mem_toOption hstate, of_decide_eq_true hcheck⟩

/-- An exit rule may be reported as without effect, and yet the session that template processing
leaves is another one than without the rule. -/
theorem not_forall_session_exit_eq :
    ¬∀ (delivery : ItemDelivery) (seed : UInt64) (state : ItemState) (place : Rule.Place)
      (scope : ExitScope) (environment : Environment),
      delivery.create .empty seed = .ok state →
      delivery.definition.templateProcessing = place.fill [.exit scope] →
      ⟨(Rule.exit scope).source, .noEffect .template⟩ ∈
        delivery.definition.validate delivery.engine.registry →
      ((delivery.executeTemplate (place.fill [.exit scope]) environment).run.run state).2 =
        ((delivery.executeTemplate (place.fill []) environment).run.run state).2 := by
  intro hall
  obtain ⟨state, hcreate, hexit, hshaped⟩ := exists_shaped_leftEarly
  have hreported : ⟨(Rule.exit .response).source, .noEffect .template⟩ ∈
      leftEarly.definition.validate leftEarly.engine.registry := by
    refine List.mem_append_left _ (List.mem_append_right _ ?_)
    exact Rule.mem_checkRules_exit (Rule.Place.beforeShape.mem_walkAll_fill _) rfl
  have hsame := hall leftEarly 0 state .beforeShape .response (.forPass 0 0 .info) hcreate rfl
    hreported
  rw [hsame, hshaped] at hexit
  cases hexit

end ItemDelivery

end Assessment
