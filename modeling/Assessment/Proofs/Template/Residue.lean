import Assessment.Proofs.Item.Attempt
import Assessment.Proofs.Template.Passes

/-!
# What rejected passes leave behind

When a constraint is false, the template variables are put back before the next pass. Nothing else
is: responses, outcomes, correct answers and defaults stay as the rejected pass left them. The last
pass reads them, and what it does not write itself is kept.

Template processing is therefore its last pass alone if the rejected passes left nothing there, and
so for every item whose rules assign nothing but template variables. In general it is not.

## Main definitions

- `ItemState.residue`: what a new pass does not put back.
- `ItemDelivery.processPass`: a single pass, with what is done after the last one.
- `ItemDelivery.processAlone`: template processing in which that pass is the only one.

## Main results

- `Rule.Rejected.shaped`: on what session a pass begins.
- `ItemDelivery.ensures_processTemplate_lastPass`: when the last pass is all that counts.
- `ItemDelivery.not_forall_leavesNoResidue`: a default that a rejected pass changed stays changed.
-/

namespace Assessment

open Action

/-! ### Stores with the same values -/

namespace SortedMap

variable {κ α : Type} [Ord κ]

theorem lookup_of_lt {key : κ} {entries : List (κ × α)}
    (h : ∀ entry ∈ entries, compare key entry.1 = .lt) : lookup key entries = none := by
  induction entries with
  | nil => rfl
  | cons entry rest ih =>
    obtain ⟨hfirst, hrest⟩ := List.forall_mem_cons.1 h
    rw [lookup, hfirst, if_neg (by decide)]
    exact ih hrest

variable [Std.TransOrd κ]

theorem lookup_self (entry : κ × α) (rest : List (κ × α)) :
    lookup entry.1 (entry :: rest) = some entry.2 := by
  rw [lookup, if_pos Std.ReflCmp.compare_self]

/-- A key that is bound is not less than all keys of a list in which it has the same value. -/
theorem not_lt_of_lookup {entry least : κ × α} {rest others : List (κ × α)}
    (hleast : ∀ other ∈ others, compare least.1 other.1 = .lt)
    (h : lookup entry.1 (entry :: rest) = lookup entry.1 (least :: others)) :
    compare entry.1 least.1 ≠ .lt := by
  intro hlt
  have hnone : lookup entry.1 (least :: others) = none := by
    refine lookup_of_lt (List.forall_mem_cons.2 ⟨hlt, fun other hother => ?_⟩)
    exact Std.TransCmp.lt_trans hlt (hleast other hother)
  rw [lookup_self, hnone] at h
  cases h

variable [Std.LawfulEqOrd κ]

/-- Sorted bindings in which all keys have the same values are the same bindings. -/
theorem eq_of_lookup {first second : List (κ × α)}
    (hfirst : first.Pairwise fun a b => compare a.1 b.1 = .lt)
    (hsecond : second.Pairwise fun a b => compare a.1 b.1 = .lt)
    (h : ∀ key, lookup key first = lookup key second) : first = second := by
  -- The least key of either list is bound in the other, and there it has to be the least one too.
  induction first generalizing second with
  | nil =>
    cases second with
    | nil => rfl
    | cons entry rest => exact absurd (h entry.1) (by rw [lookup_self]; nofun)
  | cons entry rest ih =>
    obtain ⟨hentry, hrest⟩ := List.pairwise_cons.1 hfirst
    cases second with
    | nil => exact absurd (h entry.1) (by rw [lookup_self]; nofun)
    | cons entry' rest' =>
      obtain ⟨hentry', hrest'⟩ := List.pairwise_cons.1 hsecond
      have hkey : entry.1 = entry'.1 := by
        have hle := not_lt_of_lookup hentry' (h entry.1)
        have hge := not_lt_of_lookup hentry (h entry'.1).symm
        cases hcompare : compare entry.1 entry'.1 with
        | lt => exact absurd hcompare hle
        | eq => exact Std.LawfulEqCmp.eq_of_compare hcompare
        | gt => exact absurd (Std.OrientedCmp.gt_iff_lt.1 hcompare) hge
      have hvalue := h entry.1
      rw [lookup_self, hkey, lookup_self, Option.some.injEq] at hvalue
      obtain rfl : entry = entry' := Prod.ext hkey hvalue
      refine congrArg (entry :: ·) (ih hrest hrest' fun key => ?_)
      -- Behind the least key nothing is bound to it.
      by_cases hcompare : compare key entry.1 = .eq
      · obtain rfl := Std.LawfulEqCmp.eq_of_compare hcompare
        rw [lookup_of_lt hentry, lookup_of_lt hentry']
      · have hrests := h key
        rwa [lookup, lookup, if_neg hcompare, if_neg hcompare] at hrests

/-- Maps in which all keys have the same values are the same map. -/
theorem ext_get? {first second : SortedMap κ α} (h : ∀ key, first.get? key = second.get? key) :
    first = second :=
  ext_entries (eq_of_lookup first.sorted second.sorted h)

end SortedMap

/-! ### Passes on items -/

namespace ItemState

variable {definition : ItemDefinition} {state before begun after : ItemState}

/-- What a new pass of template processing does not put back. -/
def residue (state : ItemState) : Store × Store × Store × Store :=
  (state.responses, state.outcomes, state.correctOverrides, state.defaultOverrides)

/-- The values that the template variables start with. -/
def templateStarts (definition : ItemDefinition) (state : ItemState) : List (Identifier × Value) :=
  definition.templates.map fun d => (d.identifier, state.templateStart d)

theorem map_templateStarts (definition : ItemDefinition) (state : ItemState) :
    (templateStarts definition state).map (·.1) = definition.variableNames .template := by
  rw [templateStarts, List.map_map]
  rfl

/-- What rules may have made of a session: variables, correct answers and defaults are changed, and
of the template variables those that are declared. -/
structure Shaped (definition : ItemDefinition) (before after : ItemState) : Prop where
  /-- Nothing else is changed. -/
  rewritten : before.Rewritten after
  /-- Template variables are changed that are declared. -/
  templates : Store.SameBut (definition.variableNames .template) before.templates after.templates

theorem Shaped.refl (definition : ItemDefinition) (state : ItemState) :
    state.Shaped definition state :=
  ⟨.refl state, .refl _ _⟩

theorem Shaped.trans {between : ItemState} (h : before.Shaped definition between)
    (h' : between.Shaped definition after) : before.Shaped definition after :=
  ⟨h.rewritten.trans h'.rewritten, h.templates.trans h'.templates⟩

/-- Assignments of rules change no template variables but declared ones. -/
theorem stage_maintains_shaped (definition : ItemDefinition) (before : ItemState) :
    (stage definition).Maintains (before.Shaped definition) where
  assign name value hsession hassign := by
    refine ⟨(stage_maintains_rewritten definition before).assign name value hsession.rewritten
      hassign, hsession.templates.trans ?_⟩
    obtain ⟨declaration, store, hname, hset, rfl⟩ := exists_of_assign hassign
    have hstore := Store.sameBut_of_set hset
    have hmem := ItemDefinition.mem_variableNames_of_resolve? hname
    clear hset
    revert hmem hstore
    cases declaration.role with
    | template =>
      intro hstore hmem
      exact hstore.mono fun _ hother => List.mem_singleton.1 hother ▸ hmem
    | response => exact fun _ _ => .refl _ _
    | outcome => exact fun _ _ => .refl _ _
  setCorrect name value hover hsession hcorrect := by
    refine ⟨(stage_maintains_rewritten definition before).setCorrect name value hover
      hsession.rewritten hcorrect, hsession.templates.trans ?_⟩
    cases hover
    obtain rfl := eq_of_setCorrect hcorrect
    exact .refl _ _
  setDefault name value hover hsession hdefault := by
    refine ⟨(stage_maintains_rewritten definition before).setDefault name value hover
      hsession.rewritten hdefault, hsession.templates.trans ?_⟩
    cases hover
    obtain rfl := eq_of_setDefault hdefault
    exact .refl _ _

/-- Nothing but the template variables is put back. -/
theorem ensures_restartTemplates_eq (definition : ItemDefinition) (state : ItemState) :
    (restartTemplates definition).Ensures state
      (fun _ left => (∀ name ∈ definition.variableNames .template,
          state.templates.contains name = true) ∧
        left = { state with
          templates := state.templates.insertAll (templateStarts definition state) })
      fun _ _ => True := by
  rw [restartTemplates, ensures_bind, ensures_get]
  refine (ensures_setAll_insertAll .template _).mono ?_ fun _ _ _ => trivial
  rintro _ _ ⟨hcontains, rfl⟩
  exact ⟨map_templateStarts definition state ▸ hcontains, rfl⟩

/-- The template variables are put back to where they start. -/
theorem ensures_restartTemplates_shaped (definition : ItemDefinition) (state : ItemState) :
    (restartTemplates definition).Ensures state
      (fun _ left => state.Shaped definition left ∧
        left.templates = state.templates.insertAll (templateStarts definition state))
      fun _ _ => True := by
  refine (ensures_restartTemplates_eq definition state).mono ?_ fun _ _ _ => trivial
  rintro _ _ ⟨hcontains, rfl⟩
  rw [← map_templateStarts definition state] at hcontains
  refine ⟨⟨⟨_, _, _, _, _, rfl⟩, ?_⟩, rfl⟩
  exact map_templateStarts definition state ▸ Store.sameBut_insertAll hcontains

/-- Sessions that rules have shaped start over alike. -/
theorem Shaped.insertAll_eq (h : before.Shaped definition after) :
    after.templates.insertAll (templateStarts definition after) =
      before.templates.insertAll (templateStarts definition before) := by
  have hstarts : templateStarts definition after = templateStarts definition before := by
    obtain ⟨_, _, _, _, _, rfl⟩ := h.rewritten
    rfl
  rw [hstarts]
  refine SortedMap.ext_get? fun name => Store.get?_insertAll_congr ?_
  rw [map_templateStarts]
  by_cases hname : name ∈ definition.variableNames .template
  · exact .inl hname
  · exact .inr (h.templates.values name hname)

end ItemState

/-- What assignments keep is kept, however a run of rules ends, by all values that are assigned. -/
theorem Stage.Maintains.stores {σ : Type} {stage : Stage σ} {keeps : σ → Prop}
    (h : stage.Maintains keeps) (engine : Engine) :
    stage.Stores engine (fun _ => True) (fun _ => True) keeps where
  evaluate _ _ _ := (ensures_run _ _).mono (fun _ _ _ => trivial) fun _ _ _ => trivial
  prepare _ _ _ := trivial
  assign _ hsession hassign := h.assign _ _ hsession hassign
  setCorrect _ hover hsession hcorrect := h.setCorrect _ _ hover hsession hcorrect
  setDefault _ hover hsession hdefault := h.setDefault _ _ hover hsession hdefault

namespace Rule

variable {engine : Engine} {definition : ItemDefinition} {rules : List Rule}
  {state begun : ItemState} {environment : Environment} {passes : Nat} {start : Run ItemState}

/-- A pass shapes the session. -/
theorem shaped_of_templatePass {mode : ConstraintMode} {flow : Flow} {left : Run ItemState}
    (hrun : (templatePass engine (ItemState.stage definition) rules mode).run.run start =
      (.ok flow, left)) : start.session.Shaped definition left.session := by
  have hstores := (ItemState.stage_maintains_shaped definition start.session).stores engine
  exact (hstores.carries.ensures_templatePass (fun _ _ _ _ => trivial) (.refl definition _)
    mode).ok hrun

/-- A pass begins with the template variables where they start, whatever was rejected before. -/
theorem Rejected.shaped
    (hbegun : (ItemState.restartTemplates definition).run.run state = (.ok (), begun))
    (h : Rejected engine (ItemState.stage definition) rules ⟨begun, environment, false⟩ passes
      start) :
    state.Shaped definition start.session ∧ start.session.templates = begun.templates := by
  obtain ⟨hshaped, hstart⟩ := (ItemState.ensures_restartTemplates_shaped definition state).ok hbegun
  -- The induction is on the passes that were rejected: each leaves a shaped session, and from there
  -- the template variables start over as they did at first.
  induction h with
  | none => exact ⟨hshaped, rfl⟩
  | @again _ _ failed next _ hpass hnext ih =>
    have hfailed := ih.1.trans (shaped_of_templatePass hpass)
    have hrestart : (Rule.restart (ItemState.stage definition)).Ensures failed
        (fun _ left => failed.session.Shaped definition left.session ∧ left.session.templates =
          failed.session.templates.insertAll (ItemState.templateStarts definition failed.session))
        fun _ _ => True := by
      rw [Rule.restart, ensures_within]
      exact ItemState.ensures_restartTemplates_shaped definition failed.session
    obtain ⟨hshaped', hnext'⟩ := hrestart.ok hnext
    exact ⟨hfailed.trans hshaped', by rw [hnext', hfailed.insertAll_eq, hstart]⟩

end Rule

/-! ### Rules that only assign template variables -/

/-- A rule that does not assign anything but a template variable. -/
def Rule.SparesResidue : Rule → Prop
  | .assign target _ _ => target = .templateValue
  | _ => True

/-- The rules that shape an item assign nothing but template variables. -/
def ItemDefinition.ShapesTemplatesOnly (definition : ItemDefinition) : Prop :=
  ∀ rule ∈ Rule.walkAll definition.templateProcessing, rule.SparesResidue

/-- A value is only prepared for a variable of a role that the target asks for. -/
theorem role_of_prepareFor {target : Target} {name : Identifier} {declaration : Declaration}
    {given value : Value} (h : prepareFor target name declaration given = .ok value) :
    declaration.role ∈ target.roles := by
  unfold prepareFor at h
  split at h
  · cases h
  · split at h
    · cases h
    · next hrole => simpa using hrole

namespace ItemState

/-- Assignments of template variables leave everything else as it is. -/
theorem stage_carries_residue (engine : Engine) (definition : ItemDefinition)
    (residue : Store × Store × Store × Store) :
    (stage definition).Carries engine Rule.SparesResidue (fun _ => True)
      (fun run => run.session.residue = residue) fun _ _ => True where
  evaluate _ _ hrun := by
    refine (ensures_run _ _).mono (fun _ _ _ => ⟨trivial, hrun⟩) fun fault _ _ => ?_
    cases fault with
    | logic error => trivial
    | runtime fault => exact fun _ => hrun
  notBoolean hrun := hrun
  refuse _ hrun _ := hrun
  write {target name expression run source given value} hrule hrun _ hprepare := by
    obtain rfl : target = .templateValue := hrule
    obtain ⟨declaration, hname, hprepared⟩ := exists_of_prepare hprepare
    change definition.resolve? name.text = some declaration at hname
    have hrole : declaration.role = .template :=
      List.mem_singleton.1 (role_of_prepareFor hprepared)
    have hassign : Yields ((stage definition).assign name value run.session)
        (fun session => session.residue = residue) fun _ => True := by
      refine yields_iff.2 ⟨fun after hafter => ?_, fun _ _ => trivial⟩
      obtain ⟨found, store, hfound, -, rfl⟩ := exists_of_assign hafter
      obtain rfl := Option.some.inj (hname.symm.trans hfound)
      rw [hrole]
      exact hrun
    exact (Execution.ensures_change hassign).mono (fun _ _ h => h.1) fun _ _ _ => trivial
  warn _ hrun := hrun
  relax _ hrun := hrun

end ItemState

/-- Passes of rules that assign nothing but template variables leave no residue. -/
theorem Rule.Rejected.residue_eq {engine : Engine} {definition : ItemDefinition}
    {before start : Run ItemState} {passes : Nat} (hrules : definition.ShapesTemplatesOnly)
    (h : Rejected engine (ItemState.stage definition) definition.templateProcessing before passes
      start) : start.session.residue = before.session.residue := by
  have hstage := ItemState.stage_carries_residue engine definition before.session.residue
  induction h with
  | none => rfl
  | @again _ _ failed next _ hpass hnext ih =>
    have hfailed := (hstage.ensures_templatePass hrules ih _).ok hpass
    have hrestart : (Rule.restart (ItemState.stage definition)).Ensures failed
        (fun _ left => left.session.residue = failed.session.residue) fun _ _ => True := by
      rw [Rule.restart, ensures_within]
      refine (ItemState.ensures_restartTemplates_eq definition failed.session).mono ?_
        fun _ _ _ => trivial
      rintro _ _ ⟨-, rfl⟩
      rfl
    exact (hrestart.ok hnext).trans hfailed

/-! ### The last pass -/

namespace ItemDelivery

variable (delivery : ItemDelivery)

/-- Run a single pass of template processing, and set the responses and outcomes to their
defaults. -/
def processPass (mode : ConstraintMode) (environment : Environment) :
    ItemAction NotificationLog := do
  let pass := Rule.templatePass delivery.engine (ItemState.stage delivery.definition)
    delivery.definition.templateProcessing mode
  let (_, log) ← ItemAction.ofLogic (pass.on environment)
  delivery.resetResponses
  delivery.resetOutcomes
  modify fun state => { state with templateProcessed := true }
  return log

/-- Template processing that consists of a single pass. -/
def processAlone (mode : ConstraintMode) (environment : Environment) :
    ItemAction NotificationLog := do
  ItemAction.ofLogic (ItemState.restartTemplates delivery.definition)
  delivery.processPass mode environment

/-- The last pass of template processing: after so many passes that were rejected it begins with
`start`, and it is kept. At first the template variables were put back, which gave `begun`. -/
structure LastPass (state begun : ItemState) (passes : Nat) (start : Run ItemState) : Prop where
  /-- The template variables were put back. -/
  restarted : (ItemState.restartTemplates delivery.definition).run.run
    { state with passes := state.passes + 1 } = (.ok (), begun)
  /-- The pass is kept. -/
  accepts : ∃ flow left, Rule.Accepts delivery.engine (ItemState.stage delivery.definition)
    delivery.definition.templateProcessing
    ⟨begun, .forPass state.seed state.passes delivery.engine.options.level, false⟩ passes start flow
    left

variable {delivery} {state begun begun' : ItemState} {passes passes' : Nat}
  {start start' : Run ItemState}

/-- There is only one last pass. -/
theorem LastPass.unique (h : delivery.LastPass state begun passes start)
    (h' : delivery.LastPass state begun' passes' start') :
    begun = begun' ∧ passes = passes' ∧ start = start' := by
  obtain ⟨_, _, haccepts⟩ := h.accepts
  obtain ⟨_, _, haccepts'⟩ := h'.accepts
  obtain ⟨-, rfl⟩ := Prod.mk.inj (h.restarted.symm.trans h'.restarted)
  exact ⟨rfl, haccepts.unique haccepts'⟩

/-- The last pass begins with the session that the first one began with, except for what is not put
back. -/
theorem LastPass.session_eq (h : delivery.LastPass state begun passes start) :
    ∃ responses outcomes correctOverrides defaultOverrides, start.session =
      { begun with responses, outcomes, correctOverrides, defaultOverrides } := by
  obtain ⟨_, _, haccepts⟩ := h.accepts
  obtain ⟨hshaped, htemplates⟩ := haccepts.rejected.shaped h.restarted
  obtain ⟨-, hbegun⟩ := (ItemState.ensures_restartTemplates_eq _ _).ok h.restarted
  -- Rules rewrite five stores, and of these the template variables were put back.
  obtain ⟨templates, responses, outcomes, correctOverrides, defaultOverrides, hstart⟩ :=
    hshaped.rewritten
  refine ⟨responses, outcomes, correctOverrides, defaultOverrides, ?_⟩
  rw [hstart] at htemplates ⊢
  obtain rfl : templates = begun.templates := htemplates
  rw [hbegun]

/-- Where nothing is left of rejected passes, the last pass begins as the first one did. -/
theorem LastPass.session_eq_begun (h : delivery.LastPass state begun passes start)
    (hresidue : start.session.residue = begun.residue) : start.session = begun := by
  obtain ⟨responses, outcomes, correctOverrides, defaultOverrides, hstart⟩ := h.session_eq
  rw [hstart] at hresidue ⊢
  obtain ⟨rfl, hresidue⟩ := Prod.mk.inj hresidue
  obtain ⟨rfl, hresidue⟩ := Prod.mk.inj hresidue
  obtain ⟨rfl, rfl⟩ := Prod.mk.inj hresidue
  rfl

theorem LastPass.residue_eq (h : delivery.LastPass state begun passes start)
    (hrules : delivery.definition.ShapesTemplatesOnly) :
    start.session.residue = begun.residue := by
  obtain ⟨_, _, haccepts⟩ := h.accepts
  exact haccepts.rejected.residue_eq hrules

/-- Rules that are run on a session come to what they come to in an environment of their own. -/
theorem run_ofLogic_on {α : Type} {execution : Execution ItemState α} {environment : Environment}
    {a : α} {kept : Run ItemState}
    (hrun : execution.run.run ⟨state, environment, false⟩ = (.ok a, kept)) :
    (ItemAction.ofLogic (execution.on environment)).run.run state =
      (.ok (a, kept.environment.log), kept.session) := by
  have hon : (ItemAction.ofLogic (execution.on environment)).Ensures state
      (fun answer left => answer = (a, kept.environment.log) ∧ left = kept.session)
      fun _ _ => False := by
    rw [ItemAction.ensures_ofLogic, Execution.ensures_on_iff, Ensures, hrun]
    exact ⟨rfl, rfl⟩
  obtain ⟨_, _, hanswer, rfl, rfl⟩ := hon.exists_ok
  exact hanswer

/-- Template processing has a last pass, and comes to what is done from that pass on. -/
theorem ensures_processTemplate_processPass (delivery : ItemDelivery) (state : ItemState) :
    delivery.processTemplate.Ensures state
      (fun log left => ∃ begun passes start, delivery.LastPass state begun passes start ∧
        (delivery.processPass (Rule.passMode delivery.engine passes) start.environment).run.run
          start.session = (.ok log, left))
      fun _ _ => True := by
  refine delivery.ensures_check.bind ?_ fun _ _ _ => trivial
  rintro _ _ rfl
  rw [ensures_bind, ensures_get]
  dsimp only
  rw [ensures_ite]
  refine ⟨fun _ => trivial, fun _ => ?_⟩
  rw [ensures_ite]
  refine ⟨fun _ => trivial, fun _ => ?_⟩
  rw [ensures_bind, nextEnvironment, ensures_bind, ensures_get, ensures_bind, ensures_set,
    ensures_pure, ensures_bind, ItemAction.ensures_ofLogic]
  refine (ensures_run _ _).mono (fun _ begun hbegun => ?_) fun _ _ _ => trivial
  rw [ensures_bind, ItemAction.ensures_ofLogic, Execution.ensures_on_iff]
  refine (Rule.ensures_executeTemplate_accepts _ _ _ _).mono ?_ fun _ _ _ => trivial
  rintro _ kept ⟨passes, start, flow, haccepts, rfl⟩
  -- What is done behind the last pass is the same here and there.
  refine (ensures_run _ kept.session).mono (fun log left hrest => ?_) fun _ _ _ => trivial
  refine ⟨begun, passes, start, ⟨hbegun, flow, kept, haccepts⟩, ?_⟩
  have hpass : (Rule.templatePass delivery.engine (ItemState.stage delivery.definition)
      delivery.definition.templateProcessing (Rule.passMode delivery.engine passes)).run.run
      ⟨start.session, start.environment, false⟩ = (.ok flow, kept) := by
    rw [Rule.run_templatePass, ← haccepts.pass, Rule.run_templatePass]
  rw [processPass, run_bind, run_ofLogic_on hpass]
  exact hrest

/-- **The last pass counts.** Template processing that succeeds has one last pass. It begins with
the template variables put back, though responses, outcomes, correct answers and defaults are as the
rejected passes left them, and from there the session comes to what the pass makes of it. If nothing
was left there, this is what the last pass alone would have made of the session, with the same mode
and the same random numbers; and nothing is, if the rules assign template variables only. -/
theorem ensures_processTemplate_lastPass (delivery : ItemDelivery) (state : ItemState) :
    delivery.processTemplate.Ensures state
      (fun log left => (∃ begun passes start, delivery.LastPass state begun passes start) ∧
        ∀ begun passes start, delivery.LastPass state begun passes start →
          (∃ responses outcomes correctOverrides defaultOverrides, start.session =
            { begun with responses, outcomes, correctOverrides, defaultOverrides }) ∧
          (delivery.processPass (Rule.passMode delivery.engine passes) start.environment).run.run
            start.session = (.ok log, left) ∧
          (start.session.residue = begun.residue →
            (delivery.processAlone (Rule.passMode delivery.engine passes)
              start.environment).run.run { state with passes := state.passes + 1 } =
              (.ok log, left)) ∧
          (delivery.definition.ShapesTemplatesOnly → start.session.residue = begun.residue))
      fun _ _ => True := by
  refine (ensures_processTemplate_processPass delivery state).mono ?_ fun _ _ _ => trivial
  rintro log left ⟨begun, passes, start, hlast, hpass⟩
  refine ⟨⟨_, _, _, hlast⟩, fun _ _ _ h => ?_⟩
  obtain ⟨rfl, rfl, rfl⟩ := hlast.unique h
  refine ⟨h.session_eq, hpass, fun hresidue => ?_, h.residue_eq⟩
  rw [h.session_eq_begun hresidue] at hpass
  have hrestart : (ItemAction.ofLogic (ItemState.restartTemplates delivery.definition)).run.run
      { state with passes := state.passes + 1 } = (.ok (), begun) := by
    rw [ItemAction.ofLogic, run_rename, h.restarted]
  rw [processAlone, run_bind, hrestart]
  exact hpass

end ItemDelivery

/-! ### An item that counts its passes -/

/-- The outcome whose default counts the passes. -/
def ItemDefinition.passCount : Identifier := ⟨"PASSES", by decide +kernel⟩

/-- An item whose rules add one to the default of an outcome and are never content with it. -/
def ItemDefinition.counting : ItemDefinition :=
  { ItemDefinition.bare ⟨"COUNTING", by decide +kernel⟩ with
    outcomes := [.simple passCount (.single .integer) (.integer 0)]
    templateProcessing :=
      [.assign .defaultValue passCount
        (.apply .sum [.defaultOf passCount, .baseValue (.integer 1)]),
        .constraint (.baseValue (.boolean false))] }

namespace ItemDelivery

/-- The item with an engine that permits two passes. -/
def counting : ItemDelivery :=
  ⟨.counting, ⟨.empty, { Options.default with maxTemplateAttempts := 2 }⟩, ⟨.sha256, "counting"⟩⟩

/-- The changed default of the outcome of the item. -/
def countedPasses? (state : ItemState) : Option Int64 :=
  state.defaultOverrides.get? ItemDefinition.passCount >>= Value.word?

/-- A new session of the item. -/
def countingNew : ItemState := (counting.create .empty 0).toOption.get (by decide +kernel)

/-- What the first pass begins with. -/
def countingFirst : Run ItemState :=
  let restart := ItemState.restartTemplates counting.definition
  ⟨(restart.run.run { countingNew with passes := countingNew.passes + 1 }).2,
    .forPass countingNew.seed countingNew.passes counting.engine.options.level, false⟩

/-- What the first pass leaves. -/
def countingRejected : Run ItemState :=
  let pass := Rule.templatePass counting.engine (ItemState.stage counting.definition)
    counting.definition.templateProcessing (Rule.passMode counting.engine 0)
  (pass.run.run countingFirst).2

/-- What the second pass begins with. -/
def countingSecond : Run ItemState :=
  ((Rule.restart (ItemState.stage counting.definition)).run.run countingRejected).2

/-- The second pass is the last one that is permitted. -/
theorem lastPass_counting :
    counting.LastPass countingNew countingFirst.session 1 countingSecond where
  restarted := run_eq_ok_of_mem_toOption (by decide +kernel)
  accepts := by
    let pass := Rule.templatePass counting.engine (ItemState.stage counting.definition)
      counting.definition.templateProcessing
    have hfirst : (pass (Rule.passMode counting.engine 0)).run.run countingFirst =
        (.ok .constraintFailed, countingRejected) :=
      run_eq_ok_of_mem_toOption (by decide +kernel)
    have hrestart : (Rule.restart (ItemState.stage counting.definition)).run.run countingRejected =
        (.ok (), countingSecond) :=
      run_eq_ok_of_mem_toOption (by decide +kernel)
    have hsecond : (pass (Rule.passMode counting.engine 1)).run.run countingSecond =
        (.ok .next, ((pass (Rule.passMode counting.engine 1)).run.run countingSecond).2) :=
      run_eq_ok_of_mem_toOption (by decide +kernel)
    exact ⟨.next, _, .again .none hfirst hrestart, hsecond, by decide⟩

/-- The default that a rejected pass changed is the one that the next pass changes further. Without
the rejected pass there would be one less. -/
theorem not_forall_leavesNoResidue :
    ¬∀ (delivery : ItemDelivery) (templateDefaults : Store) (seed : UInt64)
      (state left : ItemState) (log : NotificationLog),
      delivery.create templateDefaults seed = .ok state →
      delivery.processTemplate.run.run state = (.ok log, left) →
      ∀ begun passes start, delivery.LastPass state begun passes start →
      ∃ log' alone, (delivery.processAlone (Rule.passMode delivery.engine passes)
          start.environment).run.run { state with passes := state.passes + 1 } =
          (.ok log', alone) ∧
        left.templates = alone.templates ∧ left.correctOverrides = alone.correctOverrides ∧
        left.defaultOverrides = alone.defaultOverrides ∧ left.outcomes = alone.outcomes := by
  intro hall
  -- Two passes count to two, and the second one alone counts to one.
  have hnew : counting.create .empty 0 = .ok countingNew :=
    eq_ok_of_mem_toOption (Option.some_get _).symm
  have hsome : (counting.processTemplate.run.run countingNew).1.toOption.isSome = true := by
    decide +kernel
  obtain ⟨log, hlog⟩ := Option.isSome_iff_exists.1 hsome
  have hrun := run_eq_ok_of_mem_toOption hlog
  obtain ⟨log', alone, halone, -, -, hdefaults, -⟩ :=
    hall _ _ _ _ _ _ hnew hrun _ _ _ lastPass_counting
  have htwo : countedPasses? (counting.processTemplate.run.run countingNew).2 = some 2 := by
    decide +kernel
  have hone : countedPasses? ((counting.processAlone (Rule.passMode counting.engine 1)
      countingSecond.environment).run.run
        { countingNew with passes := countingNew.passes + 1 }).2 = some 1 := by
    decide +kernel
  rw [halone, countedPasses?, ← hdefaults] at hone
  rw [countedPasses?, hone] at htwo
  cases htwo

end ItemDelivery

end Assessment
