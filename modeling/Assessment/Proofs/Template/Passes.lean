import Assessment.Proofs.Execution

/-!
# The passes of template processing

Template processing runs a pass, starts over if a constraint of it was false, and so on: nothing in
this loop counts down. It ends because constraints are let pass in the last pass that the options
permit, and because such a pass is never rejected, however its constraints are nested.

`Rule.Rejected` is this loop without a bound, one pass after the other. `Rule.Reaches` says which
rules a pass comes to, and on which session.

## Main definitions

- `Engine.passBudget`: how many passes the options permit.
- `Rule.Reaches`: a rule is reached in a run of rules.
- `Rule.Meets`: running a rule meets a logic error of an expression or of the stage.
- `Rule.Rejected`: how many passes were rejected before the one that begins.
- `Rule.Accepts`: a pass that is kept, after those that were rejected.

## Main results

- `Rule.endsSoundly`: what the end of a run of nested rules says about its constraints and errors.
- `Rule.Rejected.lt_passBudget`: fewer passes are rejected than are permitted.
- `Rule.Accepts.unique`: one pass only is kept.
- `Rule.ensures_executeTemplate_accepts`: template processing ends with a pass that is kept.
- `Rule.executeTemplate_bounded`: the number of passes, and what it means that all constraints hold.
-/

namespace Assessment

open Action

variable {σ : Type}

/-- How many passes of template processing the options permit; zero counts as one. -/
def Engine.passBudget (engine : Engine) : Nat := max 1 engine.options.maxTemplateAttempts.toNat

theorem Engine.passBudget_pos (engine : Engine) : 0 < engine.passBudget :=
  Nat.lt_of_lt_of_le Nat.one_pos (Nat.le_max_left _ _)

/-- The evaluation of an expression, in the middle of a run, gives true. -/
def Expression.TrueAt (engine : Engine) (stage : Stage σ) (run : Run σ) (expression : Expression) :
    Prop :=
  ∃ environment, (expression.tryEvaluate engine (stage.view run.session)).run.run run.environment =
    (.ok (.single (.boolean true)), environment)

/-- The evaluation of an expression on a session ends with a logic error. -/
def Expression.RaisesAt (engine : Engine) (stage : Stage σ) (session : σ) (expression : Expression)
    (error : LogicError) : Prop :=
  ∃ environment left, (expression.tryEvaluate engine (stage.view session)).run.run environment =
    (.error (.logic error), left)

namespace Rule

open Execution

/-! ### Rules that are reached -/

/-- The rules that a condition runs: those of its first branch whose test is true, or else those of
the last list. -/
def chosen (engine : Engine) (stage : Stage σ) (otherwise : Option (List Rule)) :
    List Branch → Execution σ (List Rule)
  | [] => return otherwise.getD []
  | .mk test rules :: rest => do
    if ← isTrue engine stage "condition" test then return rules
    else chosen engine stage otherwise rest

/-- In a run of rules that begins with `start`, a rule is reached when the run has come to
`found`. -/
inductive Reaches (engine : Engine) (stage : Stage σ) (mode : ConstraintMode) :
    List Rule → Run σ → Rule → Run σ → Prop where
  /-- The first rule is reached at once. -/
  | here {rule : Rule} {rest : List Rule} {start : Run σ} :
    Reaches engine stage mode (rule :: rest) start rule start
  /-- Rules in a condition are reached in the list that it chooses. -/
  | within {branches : List Branch} {otherwise : Option (List Rule)} {rest rules : List Rule}
    {start inner found : Run σ} {rule : Rule} :
    (chosen engine stage otherwise branches).run.run start = (.ok rules, inner) →
    Reaches engine stage mode rules inner rule found →
    Reaches engine stage mode (.condition branches otherwise :: rest) start rule found
  /-- Later rules are reached if the first one goes on to them. -/
  | later {first rule : Rule} {rest : List Rule} {start left found : Run σ} :
    (first.run engine stage mode).run.run start = (.ok .next, left) →
    Reaches engine stage mode rest left rule found →
    Reaches engine stage mode (first :: rest) start rule found

/-- A rule that is run on a session meets a logic error: the evaluation of one of its expressions
ends with it, or the stage refuses with it what the rule writes. -/
inductive Meets (engine : Engine) (stage : Stage σ) (session : σ) (error : LogicError) :
    Rule → Prop where
  /-- An expression of the rule ends with the error. -/
  | evaluate {rule : Rule} {expression : Expression} : expression ∈ rule.ownExpressions →
    expression.RaisesAt engine stage session error → Meets engine stage session error rule
  /-- The variable cannot be assigned. -/
  | assign {target : Target} {name : Identifier} {expression : Expression} {value : Value} :
    stage.assign name value session = .error error →
    Meets engine stage session error (.assign target name expression)
  /-- The correct answer cannot be changed. -/
  | setCorrect {name : Identifier} {expression : Expression} {value : Value}
    {overrides : Overrides σ} : stage.overrides = some overrides →
    overrides.setCorrect name value session = .error error →
    Meets engine stage session error (.assign .correctResponse name expression)
  /-- The default cannot be changed. -/
  | setDefault {name : Identifier} {expression : Expression} {value : Value}
    {overrides : Overrides σ} : stage.overrides = some overrides →
    overrides.setDefault name value session = .error error →
    Meets engine stage session error (.assign .defaultValue name expression)

variable {engine : Engine} {stage : Stage σ} {mode : ConstraintMode}

/-- A condition runs its last list where no branch is run. -/
theorem run_condition_eq_elim (branches : List Branch) (otherwise : Option (List Rule)) :
    run engine stage mode (.condition branches otherwise) =
      runBranches engine stage mode branches >>= fun flow =>
        flow.elim (runAll engine stage mode (otherwise.getD [])) pure := by
  cases otherwise with
  | some otherwise =>
    simp only [run, Option.getD_some]
    congr 1
    funext flow
    cases flow <;> rfl
  | none =>
    simp only [run, Option.getD_none, runAll]
    congr 1
    funext flow
    cases flow <;> rfl

/-- Running a condition is running the rules that it chooses. -/
theorem run_condition (branches : List Branch) (otherwise : Option (List Rule)) :
    run engine stage mode (.condition branches otherwise) =
      chosen engine stage otherwise branches >>= runAll engine stage mode := by
  -- A branch that runs gives its flow, so that the last list is run only where none does.
  rw [run_condition_eq_elim]
  induction branches with
  | nil => simp [runBranches, chosen]
  | cons branch rest ih =>
    obtain ⟨test, rules⟩ := branch
    simp only [runBranches, chosen, bind_assoc]
    congr 1
    funext truth
    cases truth with
    | true => simp
    | false => simpa using ih

/-- Running a list of one rule is running the rule. -/
theorem runAll_singleton (rule : Rule) :
    runAll engine stage mode [rule] = run engine stage mode rule := by
  rw [runAll]
  conv_rhs => rw [← bind_pure (run engine stage mode rule)]
  congr 1
  funext flow
  cases flow <;> rfl

/-- What is reached in a single rule is reached in every list that begins with it. -/
theorem Reaches.of_singleton {rule reached : Rule} {start found : Run σ}
    (h : Reaches engine stage mode [rule] start reached found) (rest : List Rule) :
    Reaches engine stage mode (rule :: rest) start reached found := by
  cases h with
  | here => exact .here
  | within hchosen hreached => exact .within hchosen hreached
  | later _ hreached => cases hreached

/-! ### How a run of rules ends -/

/-- How runs of rules end: a constraint ends them only where constraints are enforced, none is let
pass but where they are relaxed, and a logic error is one that a reached rule meets. -/
def EndsSoundly (engine : Engine) (stage : Stage σ) (mode : ConstraintMode) (rules : List Rule) :
    Prop :=
  ∀ start, (runAll engine stage mode rules).Ensures start
    (fun flow left => (flow = .constraintFailed → mode = .enforce) ∧
      (start.relaxed = true → left.relaxed = true) ∧
      (mode ≠ .relax → left.relaxed = start.relaxed))
    fun error _ => ∃ rule found, Reaches engine stage mode rules start rule found ∧
      Meets engine stage found.session error rule

theorem ensures_valueOf?_raises (source : String) (expression : Expression) (start : Run σ) :
    (valueOf? engine stage source expression).Ensures start
      (fun value left => left.session = start.session ∧ left.relaxed = start.relaxed ∧
        (value = some (.single (.boolean true)) → expression.TrueAt engine stage start))
      fun error _ => expression.RaisesAt engine stage start.session error := by
  simp only [valueOf?, ensures_bind, ensures_get]
  rcases hresult : (expression.tryEvaluate engine (stage.view start.session)).run.run
    start.environment with ⟨fault | value, environment⟩
  · cases fault with
    | logic error => exact ⟨_, _, hresult⟩
    | runtime fault => exact ⟨rfl, rfl, fun hnone => by cases hnone⟩
  · refine ⟨rfl, rfl, ?_⟩
    rintro ⟨⟩
    exact ⟨environment, hresult⟩

theorem ensures_isTrue_raises (source : String) (test : Expression) (start : Run σ) :
    (isTrue engine stage source test).Ensures start
      (fun truth left => left.session = start.session ∧ left.relaxed = start.relaxed ∧
        (truth = true → test.TrueAt engine stage start))
      fun error _ => test.RaisesAt engine stage start.session error := by
  refine (ensures_valueOf?_raises source test start).bind ?_ fun _ _ herror => herror
  rintro value left ⟨hsession, hrelaxed, htrue⟩
  cases value with
  | none => exact ⟨hsession, hrelaxed, nofun⟩
  | some value =>
    rw [ensures_ite]
    refine ⟨fun _ => ⟨hsession, hrelaxed, nofun⟩, fun _ => ?_⟩
    cases hbool : value.bool? with
    | none => exact ⟨hsession, hrelaxed, nofun⟩
    | some truth =>
      refine ⟨hsession, hrelaxed, ?_⟩
      rintro rfl
      have hvalue : value = .single (.boolean true) := by
        unfold Value.bool? at hbool
        split at hbool <;> simp_all
      exact htrue (by rw [hvalue])

theorem ensures_change_raises {f : σ → Except LogicError σ} {start : Run σ} :
    (change f).Ensures start (fun _ left => left.relaxed = start.relaxed)
      fun error _ => f start.session = .error error :=
  ensures_change_iff.2 (yields_iff.2 ⟨fun _ _ => rfl, fun _ herror => herror⟩)

theorem ensures_write_meets {source : String} {target : Target} {name : Identifier}
    {expression : Expression} (value : Value) (start : Run σ) :
    (write stage source target name value).Ensures start
      (fun _ left => left.relaxed = start.relaxed)
      fun error _ => Meets engine stage start.session error (.assign target name expression) := by
  refine ensures_write_of (fun _ _ => rfl) (fun _ => ?_) (fun overrides htarget hover => ?_)
    fun overrides htarget hover => ?_
  · exact ensures_change_raises.mono (fun _ _ hleft => hleft) fun _ _ herror => .assign herror
  · subst htarget
    exact ensures_change_raises.mono (fun _ _ hleft => hleft)
      fun _ _ herror => .setCorrect hover herror
  · subst htarget
    exact ensures_change_raises.mono (fun _ _ hleft => hleft)
      fun _ _ herror => .setDefault hover herror

theorem ensures_assign_meets (target : Target) (name : Identifier) (expression : Expression)
    (start : Run σ) :
    (Execution.assign engine stage target name expression).Ensures start
      (fun _ left => left.relaxed = start.relaxed)
      fun error _ => Meets engine stage start.session error (.assign target name expression) := by
  refine (ensures_valueOf?_raises _ expression start).bind ?_
    fun _ _ herror => .evaluate List.mem_cons_self herror
  rintro given left ⟨hsession, hrelaxed, -⟩
  cases given with
  | none => exact hrelaxed
  | some given =>
    simp only [ensures_bind, ensures_get]
    cases prepare stage left.session target name given with
    | error problem => exact hrelaxed
    | ok value =>
      rw [← hsession, ← hrelaxed]
      exact ensures_write_meets value left

theorem ensures_constrain_meets (mode : ConstraintMode) (expression : Expression)
    (start : Run σ) :
    (constrain engine stage mode expression).Ensures start
      (fun flow left => (flow = .constraintFailed → mode = .enforce) ∧
        (start.relaxed = true → left.relaxed = true) ∧
        (mode ≠ .relax → left.relaxed = start.relaxed) ∧
        (flow ≠ .constraintFailed → left.relaxed = false → mode ≠ .ignore →
          expression.TrueAt engine stage start))
      fun error _ => Meets engine stage start.session error (.constraint expression) := by
  refine (ensures_isTrue_raises _ expression start).bind ?_
    fun _ _ herror => .evaluate List.mem_cons_self herror
  rintro truth left ⟨-, hrelaxed, htrue⟩
  rw [ensures_ite]
  refine ⟨fun h => ⟨nofun, ?_, fun _ => hrelaxed, fun _ _ _ => htrue h⟩, fun _ => ?_⟩
  · exact fun h => hrelaxed.trans h
  · cases mode with
    | enforce =>
      exact ⟨fun _ => rfl, fun h => hrelaxed.trans h, fun _ => hrelaxed, fun h => absurd rfl h⟩
    | relax => exact ⟨nofun, fun _ => rfl, fun h => absurd rfl h, nofun⟩
    | ignore =>
      exact ⟨nofun, fun h => hrelaxed.trans h, fun _ => hrelaxed, fun _ _ h => absurd rfl h⟩

/-- A condition ends soundly if the rules that it chooses do. -/
theorem EndsSoundly.condition {branches : List Branch} {otherwise : Option (List Rule)}
    (h : ∀ start : Run σ, (chosen engine stage otherwise branches).Ensures start
      (fun rules left => EndsSoundly engine stage mode rules ∧ left.relaxed = start.relaxed)
      fun error _ => ∃ branch ∈ branches, branch.test.RaisesAt engine stage start.session error) :
    EndsSoundly engine stage mode [.condition branches otherwise] := by
  intro start
  rw [runAll_singleton, run_condition]
  refine ((ensures_run _ start).and (h start)).bind ?_ ?_
  · rintro rules inner ⟨hchosen, hrules, hinner⟩
    refine (hrules inner).mono ?_ ?_
    · rintro flow left ⟨hflow, hrelaxed, hsame⟩
      rw [hinner] at hrelaxed hsame
      exact ⟨hflow, hrelaxed, hsame⟩
    · rintro error _ ⟨rule, found, hreached, hmeets⟩
      exact ⟨rule, found, .within hchosen hreached, hmeets⟩
  · rintro error _ ⟨-, branch, hbranch, herror⟩
    exact ⟨_, start, .here, .evaluate (List.mem_map_of_mem hbranch) herror⟩

-- The recursion follows the nesting of rules. A condition ends as the list does that it chooses, so
-- that its branches are only looked at for that list.
mutual

theorem endsSoundly_singleton (engine : Engine) (stage : Stage σ) (mode : ConstraintMode) :
    ∀ rule : Rule, EndsSoundly engine stage mode [rule]
  | .assign target name expression => by
    intro start
    rw [runAll_singleton, run, ensures_bind]
    refine (ensures_assign_meets target name expression start).mono ?_
      fun error _ herror => ⟨_, _, .here, herror⟩
    intro _ left hrelaxed
    exact ⟨nofun, fun h => hrelaxed.trans h, fun _ => hrelaxed⟩
  | .condition branches none =>
    .condition (ensures_chosen engine stage mode branches none fun _ => ⟨nofun, id, fun _ => rfl⟩)
  | .condition branches (some otherwise) =>
    .condition (ensures_chosen engine stage mode branches (some otherwise)
      (endsSoundly engine stage mode otherwise))
  | .exit scope => by
    intro start
    rw [runAll_singleton]
    exact ⟨nofun, id, fun _ => rfl⟩
  | .constraint expression => by
    intro start
    rw [runAll_singleton, run]
    refine (ensures_constrain_meets mode expression start).mono ?_
      fun error _ herror => ⟨_, _, .here, herror⟩
    rintro flow left ⟨hflow, hrelaxed, hsame, -⟩
    exact ⟨hflow, hrelaxed, hsame⟩

/-- Every run of rules ends soundly. -/
theorem endsSoundly (engine : Engine) (stage : Stage σ) (mode : ConstraintMode) :
    ∀ rules : List Rule, EndsSoundly engine stage mode rules
  | [] => fun start => ⟨nofun, id, fun _ => rfl⟩
  | first :: rest => by
    intro start
    have hfirst := endsSoundly_singleton engine stage mode first start
    rw [runAll_singleton] at hfirst
    rw [runAll]
    refine ((ensures_run _ start).and hfirst).bind ?_ ?_
    · rintro flow left ⟨hrun, hflow, hrelaxed, hsame⟩
      cases flow with
      | next =>
        refine (endsSoundly engine stage mode rest left).mono ?_ ?_
        · rintro flow after ⟨hflow', hrelaxed', hsame'⟩
          exact ⟨hflow', fun h => hrelaxed' (hrelaxed h), fun h => (hsame' h).trans (hsame h)⟩
        · rintro error _ ⟨rule, found, hreached, hmeets⟩
          exact ⟨rule, found, .later hrun hreached, hmeets⟩
      | exit scope => exact ⟨hflow, hrelaxed, hsame⟩
      | constraintFailed => exact ⟨hflow, hrelaxed, hsame⟩
    · rintro error _ ⟨-, rule, found, hreached, hmeets⟩
      exact ⟨rule, found, hreached.of_singleton rest, hmeets⟩

/-- A condition chooses rules whose runs end soundly. -/
theorem ensures_chosen (engine : Engine) (stage : Stage σ) (mode : ConstraintMode) :
    ∀ (branches : List Branch) (otherwise : Option (List Rule)),
      EndsSoundly engine stage mode (otherwise.getD []) → ∀ start : Run σ,
      (chosen engine stage otherwise branches).Ensures start
        (fun rules left => EndsSoundly engine stage mode rules ∧ left.relaxed = start.relaxed)
        fun error _ => ∃ branch ∈ branches, branch.test.RaisesAt engine stage start.session error
  | [], otherwise, hotherwise, start => ⟨hotherwise, rfl⟩
  | .mk test rules :: rest, otherwise, hotherwise, start => by
    have hrules : EndsSoundly engine stage mode rules := endsSoundly engine stage mode rules
    rw [chosen]
    refine (ensures_isTrue_raises "condition" test start).bind ?_
      fun _ _ herror => ⟨.mk test rules, List.mem_cons_self, herror⟩
    rintro truth left ⟨hsession, hrelaxed, -⟩
    rw [ensures_ite]
    refine ⟨fun _ => ⟨hrules, hrelaxed⟩, fun _ => ?_⟩
    refine (ensures_chosen engine stage mode rest otherwise hotherwise left).mono ?_ ?_
    · rintro rules left' ⟨hrules, hleft⟩
      exact ⟨hrules, hleft.trans hrelaxed⟩
    · rintro error _ ⟨branch, hbranch, herror⟩
      rw [← hsession]
      exact ⟨branch, List.mem_cons_of_mem _ hbranch, herror⟩

end

/-- A list that was run through without a failed constraint ran its first rule in that way. -/
theorem exists_run_of_runAll {first : Rule} {rest : List Rule} {start left : Run σ} {flow : Flow}
    (hrun : (runAll engine stage mode (first :: rest)).run.run start = (.ok flow, left))
    (hflow : flow ≠ .constraintFailed) (hleft : left.relaxed = false) :
    ∃ flow' mid, (run engine stage mode first).run.run start = (.ok flow', mid) ∧
      flow' ≠ .constraintFailed ∧ mid.relaxed = false ∧
      (flow' = .next → (runAll engine stage mode rest).run.run mid = (.ok flow, left)) := by
  rw [runAll, run_bind] at hrun
  rcases hfirst : (run engine stage mode first).run.run start with ⟨error | flow', mid⟩
  · rw [hfirst] at hrun
    cases hrun
  · rw [hfirst] at hrun
    refine ⟨flow', mid, rfl, ?_⟩
    cases flow' with
    | next =>
      -- Had the first rule let a constraint pass, the rest would not have undone that.
      have hrelaxed := ((endsSoundly engine stage mode rest mid).ok hrun).2.1
      refine ⟨nofun, ?_, fun _ => hrun⟩
      by_contra h
      rw [hrelaxed (eq_true_of_ne_false h)] at hleft
      cases hleft
    | exit scope =>
      cases hrun
      exact ⟨nofun, hleft, nofun⟩
    | constraintFailed =>
      cases hrun
      exact absurd rfl hflow

/-- Where no constraint failed and none was let pass, those that were reached are true. -/
theorem Reaches.trueAt {rules : List Rule} {rule : Rule} {start found : Run σ}
    (h : Reaches engine stage mode rules start rule found) (hmode : mode ≠ .ignore)
    {expression : Expression} (hrule : rule = .constraint expression) :
    ∀ {flow : Flow} {left : Run σ},
      (runAll engine stage mode rules).run.run start = (.ok flow, left) →
      flow ≠ .constraintFailed → left.relaxed = false → expression.TrueAt engine stage found := by
  -- The induction is on the way to the constraint; that none is let pass at the end is known of
  -- each list on that way, as what was let pass is never forgotten.
  induction h with
  | here =>
    intro flow left hrun hflow hleft
    subst hrule
    obtain ⟨flow', mid, hfirst, hflow', hmid, -⟩ := exists_run_of_runAll hrun hflow hleft
    rw [run] at hfirst
    exact ((ensures_constrain_meets mode expression _).ok hfirst).2.2.2 hflow' hmid hmode
  | within hchosen _ ih =>
    intro flow left hrun hflow hleft
    obtain ⟨flow', mid, hfirst, hflow', hmid, -⟩ := exists_run_of_runAll hrun hflow hleft
    rw [run_condition, run_bind, hchosen] at hfirst
    exact ih hrule hfirst hflow' hmid
  | later hnext _ ih =>
    intro flow left hrun hflow hleft
    obtain ⟨flow', mid, hfirst, -, -, hrest⟩ := exists_run_of_runAll hrun hflow hleft
    rw [hnext] at hfirst
    cases hfirst
    exact ih hrule (hrest rfl) hflow hleft

/-! ### Passes -/

/-- What a false constraint does in the pass that follows so many passes. -/
def passMode (engine : Engine) (passes : Nat) : ConstraintMode :=
  if passes + 1 < engine.passBudget then .enforce else .relax

theorem passMode_ne_ignore (engine : Engine) (passes : Nat) : passMode engine passes ≠ .ignore := by
  unfold passMode
  split <;> nofun

variable {rules : List Rule} {before : Run σ}

/-- From `before` on, so many passes were rejected, after each of which the stage started over; the
next pass begins with `start`. Nothing here says how many there may be. -/
inductive Rejected (engine : Engine) (stage : Stage σ) (rules : List Rule) (before : Run σ) :
    Nat → Run σ → Prop where
  /-- No pass was run yet. -/
  | none : Rejected engine stage rules before 0 before
  /-- One more pass ended with a false constraint. -/
  | again {passes : Nat} {start failed next : Run σ} :
    Rejected engine stage rules before passes start →
    (templatePass engine stage rules (passMode engine passes)).run.run start =
      (.ok .constraintFailed, failed) →
    (restart stage).run.run failed = (.ok (), next) →
    Rejected engine stage rules before (passes + 1) next

/-- After so many passes that were rejected, the pass that begins with `start` is kept: it ends with
`flow` and leaves `left`. -/
structure Accepts (engine : Engine) (stage : Stage σ) (rules : List Rule) (before : Run σ)
    (passes : Nat) (start : Run σ) (flow : Flow) (left : Run σ) : Prop where
  /-- The passes before it were rejected. -/
  rejected : Rejected engine stage rules before passes start
  /-- It ends with a flow. -/
  pass : (templatePass engine stage rules (passMode engine passes)).run.run start = (.ok flow, left)
  /-- It is not rejected. -/
  accepted : flow ≠ .constraintFailed

/-- A logic error ends template processing after so many rejected passes: a rule that the next pass
reaches meets it, or the stage does not start over after that pass. -/
inductive Fails (engine : Engine) (stage : Stage σ) (rules : List Rule) (before : Run σ)
    (passes : Nat) (error : LogicError) : Prop where
  /-- A rule of the pass meets the error. -/
  | rule {start found : Run σ} {rule : Rule} : Rejected engine stage rules before passes start →
    Reaches engine stage (passMode engine passes) rules { start with relaxed := false } rule found →
    Meets engine stage found.session error rule → Fails engine stage rules before passes error
  /-- The stage fails to start over. -/
  | restart {start failed left : Run σ} : Rejected engine stage rules before passes start →
    (templatePass engine stage rules (passMode engine passes)).run.run start =
      (.ok .constraintFailed, failed) →
    (Rule.restart stage).run.run failed = (.error error, left) →
    Fails engine stage rules before passes error

/-- A pass is a run of the rules that has let no constraint pass yet. -/
theorem run_templatePass (mode : ConstraintMode) (start : Run σ) :
    (templatePass engine stage rules mode).run.run start =
      (runAll engine stage mode rules).run.run { start with relaxed := false } := by
  rw [templatePass, run_bind]
  rfl

/-- A pass is rejected only where constraints are enforced, and a rule that it reaches meets its
logic error. -/
theorem ensures_templatePass_ends (mode : ConstraintMode) (start : Run σ) :
    (templatePass engine stage rules mode).Ensures start
      (fun flow _ => flow = .constraintFailed → mode = .enforce)
      fun error _ => ∃ rule found,
        Reaches engine stage mode rules { start with relaxed := false } rule found ∧
        Meets engine stage found.session error rule := by
  rw [templatePass, ensures_bind, ensures_modify]
  exact (endsSoundly engine stage mode rules _).mono (fun _ _ h => h.1) fun _ _ herror => herror

/-- Fewer passes are rejected than the options permit, as the last one lets constraints pass. -/
theorem Rejected.lt_passBudget {passes : Nat} {start : Run σ}
    (h : Rejected engine stage rules before passes start) : passes < engine.passBudget := by
  cases h with
  | none => exact engine.passBudget_pos
  | @again passes _ _ _ _ hpass _ =>
    rw [run_templatePass] at hpass
    have hmode := ((endsSoundly engine stage _ rules _).ok hpass).1 rfl
    unfold passMode at hmode
    split at hmode
    · assumption
    · cases hmode

/-- So many passes were rejected in one way only. -/
theorem Rejected.unique {passes : Nat} {start start' : Run σ}
    (h : Rejected engine stage rules before passes start)
    (h' : Rejected engine stage rules before passes start') : start = start' := by
  induction h generalizing start' with
  | none =>
    cases h'
    rfl
  | again _ hpass hnext ih =>
    cases h' with
    | again hrejected' hpass' hnext' =>
      obtain rfl := ih hrejected'
      obtain ⟨-, rfl⟩ := Prod.mk.inj (hpass.symm.trans hpass')
      exact (Prod.mk.inj (hnext.symm.trans hnext')).2

/-- Of rejected passes each was the next one at some time. -/
theorem Rejected.exists_of_lt {passes earlier : Nat} {start : Run σ}
    (h : Rejected engine stage rules before passes start) (hlt : earlier < passes) :
    ∃ start failed, Rejected engine stage rules before earlier start ∧
      (templatePass engine stage rules (passMode engine earlier)).run.run start =
        (.ok .constraintFailed, failed) := by
  induction h with
  | none => exact absurd hlt (Nat.not_lt_zero _)
  | again hrejected hpass _ ih =>
    obtain hlt | rfl := Nat.lt_succ_iff_lt_or_eq.1 hlt
    · exact ih hlt
    · exact ⟨_, _, hrejected, hpass⟩

/-- No pass is rejected behind one that is kept. -/
theorem Accepts.le_of_rejected {passes other : Nat} {start start' left : Run σ} {flow : Flow}
    (h : Accepts engine stage rules before passes start flow left)
    (h' : Rejected engine stage rules before other start') : other ≤ passes := by
  by_contra hlt
  -- Else the kept pass would be among those that were rejected.
  obtain ⟨found, failed, hrejected, hpass⟩ := h'.exists_of_lt (Nat.lt_of_not_le hlt)
  obtain rfl := h.rejected.unique hrejected
  have hflow := (Prod.mk.inj (h.pass.symm.trans hpass)).1
  exact h.accepted (Except.ok.inj hflow)

/-- One pass only is kept. -/
theorem Accepts.unique {passes passes' : Nat} {start start' left left' : Run σ} {flow flow' : Flow}
    (h : Accepts engine stage rules before passes start flow left)
    (h' : Accepts engine stage rules before passes' start' flow' left') :
    passes = passes' ∧ start = start' := by
  obtain rfl : passes = passes' :=
    Nat.le_antisymm (h'.le_of_rejected h.rejected) (h.le_of_rejected h'.rejected)
  exact ⟨rfl, h.rejected.unique h'.rejected⟩

/-- Template processing that is about to run a pass runs passes until one is kept. -/
theorem ensures_templatePasses_accepts (further : Nat) :
    ∀ {passes : Nat} {start : Run σ}, passes + further + 1 = engine.passBudget →
      Rejected engine stage rules before passes start →
      (templatePasses engine stage rules passes further).Ensures start
        (fun result left => ∃ rejected start flow,
          Accepts engine stage rules before rejected start flow left ∧
          result = ⟨flow.ending, rejected + 1, !left.relaxed⟩)
        fun error _ => ∃ rejected, Fails engine stage rules before rejected error := by
  -- The induction is on the passes that may still follow. Where none may, constraints are let pass,
  -- and so the pass that is run is kept.
  induction further with
  | zero =>
    intro passes start hbudget hrejected
    have hmode : passMode engine passes = .relax := if_neg (by omega)
    refine ((ensures_run _ start).and (ensures_templatePass_ends .relax start)).bind ?_ ?_
    · rintro flow left ⟨hpass, hflow⟩
      simp only [ensures_bind, ensures_get, ensures_pure]
      rw [← hmode] at hpass
      refine ⟨passes, start, flow, ⟨hrejected, hpass, fun h => ?_⟩, rfl⟩
      cases hflow h
    · rintro error left ⟨-, rule, found, hreached, hmeets⟩
      rw [← hmode] at hreached
      exact ⟨passes, .rule hrejected hreached hmeets⟩
  | succ further ih =>
    intro passes start hbudget hrejected
    have hmode : passMode engine passes = .enforce := if_pos (by omega)
    refine ((ensures_run _ start).and (ensures_templatePass_ends .enforce start)).bind ?_ ?_
    · rintro flow left ⟨hpass, -⟩
      rw [← hmode] at hpass
      cases flow with
      | next => exact ⟨passes, start, .next, ⟨hrejected, hpass, nofun⟩, rfl⟩
      | exit scope => exact ⟨passes, start, .exit scope, ⟨hrejected, hpass, nofun⟩, rfl⟩
      | constraintFailed =>
        refine (ensures_run _ left).bind ?_ fun error _ herror =>
          ⟨passes, .restart hrejected hpass herror⟩
        intro _ next hnext
        exact ih (by omega) (.again hrejected hpass hnext)
    · rintro error left ⟨-, rule, found, hreached, hmeets⟩
      rw [← hmode] at hreached
      exact ⟨passes, .rule hrejected hreached hmeets⟩

/-- Template processing ends with the first pass that is not rejected, or with an error. -/
theorem ensures_executeTemplate_accepts (engine : Engine) (stage : Stage σ) (rules : List Rule)
    (before : Run σ) :
    (executeTemplate engine stage rules).Ensures before
      (fun result left => ∃ rejected start flow,
        Accepts engine stage rules before rejected start flow left ∧
        result = ⟨flow.ending, rejected + 1, !left.relaxed⟩)
      fun error _ => ∃ rejected, Fails engine stage rules before rejected error := by
  have hbudget : 0 + (engine.options.maxTemplateAttempts.toNat - 1) + 1 = engine.passBudget := by
    unfold Engine.passBudget
    omega
  exact ensures_templatePasses_accepts _ hbudget .none

/-- A kept pass that let a constraint pass is the last one that the options permit. -/
theorem Accepts.eq_passBudget {passes : Nat} {start left : Run σ} {flow : Flow}
    (h : Accepts engine stage rules before passes start flow left) (hleft : left.relaxed = true) :
    passes + 1 = engine.passBudget := by
  have hpasses : passes < engine.passBudget := h.rejected.lt_passBudget
  have hpass := h.pass
  rw [run_templatePass] at hpass
  have hsame := ((endsSoundly engine stage _ rules _).ok hpass).2.2
  by_contra hne
  -- Before the last pass constraints are enforced, and then none is let pass.
  have hmode : passMode engine passes = .enforce := if_pos (by omega)
  rw [hsame (by rw [hmode]; nofun)] at hleft
  cases hleft

/-- In a kept pass that let no constraint pass, those that were reached are true. -/
theorem Accepts.trueAt {passes : Nat} {start left found : Run σ} {flow : Flow}
    (h : Accepts engine stage rules before passes start flow left) (hleft : left.relaxed = false)
    {expression : Expression}
    (hreached : Reaches engine stage (passMode engine passes) rules { start with relaxed := false }
      (.constraint expression) found) :
    expression.TrueAt engine stage found := by
  have hpass := h.pass
  rw [run_templatePass] at hpass
  exact hreached.trueAt (passMode_ne_ignore engine passes) rfl hpass h.accepted hleft

/-- **Template processing is bounded.** However often constraints are false, fewer passes are
rejected than the options permit. So template processing ends with a pass that is kept, unless a
logic error of an expression or of the stage ends it. Only the last permitted pass lets a constraint
pass, and if none was let pass, then each constraint that the kept pass reached was true. -/
theorem executeTemplate_bounded (engine : Engine) (stage : Stage σ) (rules : List Rule)
    (before : Run σ) :
    (∀ passes start, Rejected engine stage rules before passes start →
      passes < engine.passBudget) ∧
    (executeTemplate engine stage rules).Ensures before
      (fun result left =>
        (1 ≤ result.passes ∧ result.passes ≤ engine.passBudget) ∧
        (result.satisfied = false → result.passes = engine.passBudget) ∧
        ∃ rejected start flow, Accepts engine stage rules before rejected start flow left ∧
          result.passes = rejected + 1 ∧ result.ending = flow.ending ∧
          (result.satisfied = true → ∀ expression found,
            Reaches engine stage (passMode engine rejected) rules { start with relaxed := false }
              (.constraint expression) found → expression.TrueAt engine stage found))
      fun error _ => ∃ rejected, Fails engine stage rules before rejected error := by
  refine ⟨fun passes start h => h.lt_passBudget, ?_⟩
  refine (ensures_executeTemplate_accepts engine stage rules before).mono ?_ fun _ _ h => h
  rintro _ left ⟨rejected, start, flow, haccepts, rfl⟩
  refine ⟨⟨Nat.le_add_left 1 rejected, haccepts.rejected.lt_passBudget⟩, fun hsatisfied => ?_,
    rejected, start, flow, haccepts, rfl, rfl, fun hsatisfied expression found hreached => ?_⟩
  · exact haccepts.eq_passBudget (by simpa using hsatisfied)
  · exact haccepts.trueAt (by simpa using hsatisfied) hreached

end Rule

end Assessment
