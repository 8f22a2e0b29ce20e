import Assessment.Proofs.Evaluation

/-!
# Connectives and counting

A conjunction or a disjunction takes the truth values of its operands from left to right, and stops
at the first that decides it. What it comes to is nevertheless the fold of all truth values, in
whatever order they are: a false one decides a conjunction and a true one a disjunction wherever it
stands, and the conjunction is Kleene's, the disjunction the lenient one.

Operands behind the one that decides are not evaluated. They may fault, draw random numbers or
report what they will, and nothing of it is seen.

Whether the number of true operands lies between two bounds is decided from how many are true for
certain and how many are unknown. An unknown operand may turn out to be true or to be false, and the
answer is yes if it is yes in each way in which all of them may turn out, no if it is no in each of
them, and unknown otherwise. The two bounds need not be in order, and may be out of reach.

## Main definitions

- `Expression.TruthValues`: the truth values of expressions that are evaluated in order.
- `Operator.connective`: the two connectives.
- `TriState.Completes`: unknown operands turned out in some way.

## Main results

- `TriState.all_eq_no_iff` and the lemmas beside it: what the folds of truth values are.
- `TriState.all_perm` and `TriState.any_perm`: the order of the truth values does not matter.
- `Expression.run_tryConnect` and `Expression.run_tryConnect_decisive`: how a connective ends.
- `Expression.connectives_agree`: connectives are folds that leave out what they do not need.
- `TriState.forall_completes_iff`: the numbers that completions come to are all those from the
  number of true operands to that together with the unknown ones.
- `TriState.between_eq_yes_iff` and `TriState.between_eq_no_iff`: what all completions agree on.
- `Expression.anyN_exact`: counting is exact about operands that are nothing.
-/

namespace Assessment

/-! ### Folds of truth values -/

namespace TriState

variable {state : TriState} {states states' : List TriState}

theorem toBool?_eq_some_iff {b : Bool} : state.toBool? = some b ↔ state = ofBool b := by
  cases state <;> cases b <;> decide

/-- What decides an operation decides a fold of it wherever it stands. -/
theorem foldl_eq_iff_mem {op : TriState → TriState → TriState} {decisive : TriState}
    (hop : ∀ a b, op a b = decisive ↔ a = decisive ∨ b = decisive) (first : TriState) :
    states.foldl op first = decisive ↔ decisive ∈ first :: states := by
  induction states generalizing first with
  | nil => simp [eq_comm]
  | cons next rest ih =>
    rw [List.foldl_cons, ih, List.mem_cons, eq_comm, hop]
    simp [or_assoc, eq_comm]

/-- What an operation only comes to from itself a fold of it only comes to from a list of it. -/
theorem foldl_eq_iff_forall {op : TriState → TriState → TriState} {neutral : TriState}
    (hop : ∀ a b, op a b = neutral ↔ a = neutral ∧ b = neutral) (first : TriState) :
    states.foldl op first = neutral ↔ ∀ state ∈ first :: states, state = neutral := by
  induction states generalizing first with
  | nil => simp
  | cons next rest ih =>
    rw [List.foldl_cons, ih]
    simp [hop, and_assoc]

theorem and_eq_no_iff (a b : TriState) : a.and b = no ↔ a = no ∨ b = no := by
  cases a <;> cases b <;> decide

theorem and_eq_yes_iff (a b : TriState) : a.and b = yes ↔ a = yes ∧ b = yes := by
  cases a <;> cases b <;> decide

theorem or_eq_yes_iff (logic : Logic) (a b : TriState) :
    a.or logic b = yes ↔ a = yes ∨ b = yes := by
  cases logic <;> cases a <;> cases b <;> decide

theorem or_lenient_eq_unknown_iff (a b : TriState) :
    a.or .lenient b = unknown ↔ a = unknown ∧ b = unknown := by
  cases a <;> cases b <;> decide

/-- A conjunction is false if one of its operands is. -/
theorem all_eq_no_iff : all states = no ↔ no ∈ states := by
  cases states with
  | nil => decide
  | cons first rest => exact foldl_eq_iff_mem and_eq_no_iff first

/-- A conjunction is true if all its operands are, and there are some. -/
theorem all_eq_yes_iff : all states = yes ↔ states ≠ [] ∧ ∀ state ∈ states, state = yes := by
  cases states with
  | nil => decide
  | cons first rest =>
    rw [and_iff_right (List.cons_ne_nil _ _)]
    exact foldl_eq_iff_forall and_eq_yes_iff first

/-- A disjunction is true if one of its operands is. -/
theorem any_eq_yes_iff {logic : Logic} : any logic states = yes ↔ yes ∈ states := by
  cases states with
  | nil => exact ⟨nofun, nofun⟩
  | cons first rest => exact foldl_eq_iff_mem (or_eq_yes_iff logic) first

/-- A lenient disjunction is unknown if all its operands are. -/
theorem any_lenient_eq_unknown_iff :
    any .lenient states = unknown ↔ ∀ state ∈ states, state = unknown := by
  cases states with
  | nil => exact ⟨nofun, fun _ => rfl⟩
  | cons first rest => exact foldl_eq_iff_forall or_lenient_eq_unknown_iff first

/-- The order of the operands of a conjunction does not matter. -/
theorem all_perm (h : states.Perm states') : all states = all states' := by
  have hno : all states = no ↔ all states' = no := by
    rw [all_eq_no_iff, all_eq_no_iff, h.mem_iff]
  have hyes : all states = yes ↔ all states' = yes := by
    simp only [all_eq_yes_iff, h.mem_iff, ne_eq, ← List.length_eq_zero_iff, h.length_eq]
  revert hno hyes
  cases all states <;> cases all states' <;> simp

/-- The order of the operands of a lenient disjunction does not matter. -/
theorem any_perm (h : states.Perm states') : any .lenient states = any .lenient states' := by
  have hyes : any .lenient states = yes ↔ any .lenient states' = yes := by
    rw [any_eq_yes_iff, any_eq_yes_iff, h.mem_iff]
  have hunknown : any .lenient states = unknown ↔ any .lenient states' = unknown := by
    simp only [any_lenient_eq_unknown_iff, h.mem_iff]
  revert hyes hunknown
  cases any .lenient states <;> cases any .lenient states' <;> simp

end TriState

/-! ### Operands -/

/-- The connective of a disjunction or of a conjunction. -/
def Operator.connective : Bool → Operator
  | true => .or
  | false => .and

namespace TriState

/-- The fold of truth values of a disjunction or of a conjunction. -/
def fold : Bool → List TriState → TriState
  | true => any .lenient
  | false => all

/-- The fold of truth values so far; there is none before the first one. -/
def soFar (disjunction : Bool) : List TriState → Option TriState
  | [] => none
  | states => some (fold disjunction states)

theorem fold_eq_ofBool_iff {disjunction : Bool} :
    fold disjunction states = ofBool disjunction ↔ ofBool disjunction ∈ states := by
  cases disjunction with
  | true => exact any_eq_yes_iff
  | false => exact all_eq_no_iff

theorem soFar_concat (disjunction : Bool) (states : List TriState) (state : TriState) :
    soFar disjunction (states ++ [state]) =
      some (connect disjunction (soFar disjunction states) state) := by
  cases states with
  | nil => cases disjunction <;> rfl
  | cons first rest => cases disjunction <;> simp [soFar, fold, any, all, connect]

theorem getD_soFar (disjunction : Bool) (states : List TriState) :
    (soFar disjunction states).getD unknown = fold disjunction states := by
  cases states with
  | nil => cases disjunction <;> rfl
  | cons first rest => rfl

end TriState

theorem ofTriState_ofBool (b : Bool) : ofTriState (.ofBool b) = .boolean b := by
  cases b <;> rfl

/-- A view of a session in which nothing is declared. -/
def View.undeclared : View where
  declaration? _ := none
  value name := .error (.undeclaredVariable name)
  defaultValue name := .error (.undeclaredVariable name)
  correctValue name := .error (.undeclaredVariable name)
  weight? _ _ := none
  items operation := .error (.wrongScope operation)

namespace Expression

/-- Expressions that are evaluated in order have these truth values, and leave an environment. -/
inductive TruthValues (engine : Engine) (view : View) :
    List Expression → Environment → List TriState → Environment → Prop where
  /-- There are no expressions. -/
  | nil {environment : Environment} : TruthValues engine view [] environment [] environment
  /-- The first one has a truth value, and so have the others after it. -/
  | cons {first : Expression} {rest : List Expression} {environment between left : Environment}
    {value : Value} {state : TriState} {states : List TriState} :
    (first.tryEvaluate engine view).run.run environment = (.ok value, between) →
    value.triState? = some state → TruthValues engine view rest between states left →
    TruthValues engine view (first :: rest) environment (state :: states) left

variable {engine : Engine} {view : View} {disjunction : Bool} {before : Option TriState}
  {operands earlier later : List Expression} {first decisive : Expression}
  {environment between left : Environment} {states : List TriState} {value : Value}
  {state : TriState}

/-- A first operand that decides a connective ends it. -/
theorem run_tryConnect_cons_decisive
    (hvalue : (decisive.tryEvaluate engine view).run.run environment = (.ok value, left))
    (hdecides : value.triState? = some (.ofBool disjunction)) :
    (tryConnect engine view disjunction before (decisive :: later)).run.run environment =
      (.ok (.boolean disjunction), left) := by
  rw [tryConnect, Action.run_bind, hvalue]
  dsimp only
  rw [hdecides]
  dsimp only
  rw [if_pos (TriState.toBool?_eq_some_iff.2 rfl)]
  rfl

/-- A first operand that does not decide a connective is connected with those before it. -/
theorem run_tryConnect_cons
    (hvalue : (first.tryEvaluate engine view).run.run environment = (.ok value, between))
    (hstate : value.triState? = some state) (hopen : state ≠ .ofBool disjunction) :
    (tryConnect engine view disjunction before (first :: later)).run.run environment =
      (tryConnect engine view disjunction (some (connect disjunction before state))
        later).run.run between := by
  rw [tryConnect, Action.run_bind, hvalue]
  dsimp only
  rw [hstate]
  dsimp only
  rw [if_neg fun hdecides => hopen (TriState.toBool?_eq_some_iff.1 hdecides)]

/-- Connecting further operands comes to the fold of all truth values, whether it is decided before
the last one or not. -/
theorem run_tryConnect (h : TruthValues engine view operands environment states left)
    (before : List TriState) :
    ((tryConnect engine view disjunction (TriState.soFar disjunction before) operands).run.run
      environment).1 = .ok (ofTriState (TriState.fold disjunction (before ++ states))) := by
  induction h generalizing before with
  | nil =>
    rw [tryConnect, TriState.getD_soFar, List.append_nil]
    rfl
  | @cons first rest environment between left value state states hvalue hstate _ ih =>
    by_cases hopen : state = .ofBool disjunction
    · subst hopen
      have hfold : TriState.fold disjunction (before ++ .ofBool disjunction :: states) =
          .ofBool disjunction := TriState.fold_eq_ofBool_iff.2 (by simp)
      rw [run_tryConnect_cons_decisive hvalue hstate, hfold, ofTriState_ofBool]
    · rw [run_tryConnect_cons hvalue hstate hopen, ← TriState.soFar_concat, ih,
        List.append_assoc, List.singleton_append]

/-- Connecting operands ends with the first that decides, and leaves what it leaves. -/
theorem run_tryConnect_decisive (h : TruthValues engine view earlier environment states between)
    (hopen : .ofBool disjunction ∉ states)
    (hvalue : (decisive.tryEvaluate engine view).run.run between = (.ok value, left))
    (hdecides : value.triState? = some (.ofBool disjunction)) (before : Option TriState) :
    (tryConnect engine view disjunction before (earlier ++ decisive :: later)).run.run environment =
      (.ok (.boolean disjunction), left) := by
  induction h generalizing before with
  | nil => exact run_tryConnect_cons_decisive hvalue hdecides
  | cons hfirst hstate _ ih =>
    obtain ⟨hne, hopen⟩ := not_or.1 (mt List.mem_cons.2 hopen)
    rw [List.cons_append, run_tryConnect_cons hfirst hstate (Ne.symm hne)]
    exact ih hopen hvalue _

/-- An operator that takes at least one operand takes every list that is not empty. -/
theorem accepts_of_ne_nil (hoperands : operands ≠ []) :
    (Arity.atLeast 1).accepts operands.length = true := by
  have hlength : 1 ≤ operands.length := List.length_pos_iff.2 hoperands
  simp [Arity.accepts, Arity.atLeast, hlength]

/-- A connective connects its operands, if there are any. -/
theorem tryEvaluate_connective (disjunction : Bool) (hoperands : operands ≠ []) :
    (apply (.connective disjunction) operands).tryEvaluate engine view =
      tryConnect engine view disjunction none operands := by
  cases disjunction <;>
    simp [tryEvaluate, Operator.connective, Operator.arity, accepts_of_ne_nil hoperands]

/-- **Connectives are folds that leave out what they do not need.** Over operands with truth values,
a conjunction has the value of Kleene's conjunction of them all, and a disjunction that of their
lenient disjunction. A false operand decides the one and a true operand the other, and the order of
the truth values does not matter. What stands behind the first operand that decides may be anything:
the value is decided, and the environment is the one that this operand leaves. -/
theorem connectives_agree (engine : Engine) (view : View) (environment : Environment) :
    (∀ operands states left, operands ≠ [] →
      TruthValues engine view operands environment states left →
      (((apply .and operands).tryEvaluate engine view).run.run environment).1 =
        .ok (ofTriState (.all states)) ∧
      (((apply .or operands).tryEvaluate engine view).run.run environment).1 =
        .ok (ofTriState (.any .lenient states))) ∧
    (∀ states : List TriState,
      (TriState.all states = .no ↔ .no ∈ states) ∧
      (TriState.all states = .yes ↔ states ≠ [] ∧ ∀ state ∈ states, state = .yes) ∧
      (TriState.any .lenient states = .yes ↔ .yes ∈ states) ∧
      (TriState.any .lenient states = .unknown ↔ ∀ state ∈ states, state = .unknown)) ∧
    (∀ states states' : List TriState, states.Perm states' →
      TriState.all states = .all states' ∧
      TriState.any .lenient states = .any .lenient states') ∧
    ∀ (disjunction : Bool) earlier states between decisive value left,
      TruthValues engine view earlier environment states between →
      .ofBool disjunction ∉ states →
      (tryEvaluate engine view decisive).run.run between = (.ok value, left) →
      value.triState? = some (.ofBool disjunction) →
      ∀ later, ((apply (.connective disjunction) (earlier ++ decisive :: later)).tryEvaluate
        engine view).run.run environment = (.ok (.boolean disjunction), left) := by
  refine ⟨fun operands states left hoperands htruths => ⟨?_, ?_⟩, fun states => ?_,
    fun states states' hperm => ⟨TriState.all_perm hperm, TriState.any_perm hperm⟩, ?_⟩
  · change (((apply (.connective false) operands).tryEvaluate engine view).run.run
      environment).1 = _
    rw [tryEvaluate_connective false hoperands]
    exact run_tryConnect htruths []
  · change (((apply (.connective true) operands).tryEvaluate engine view).run.run
      environment).1 = _
    rw [tryEvaluate_connective true hoperands]
    exact run_tryConnect htruths []
  · exact ⟨TriState.all_eq_no_iff, TriState.all_eq_yes_iff, TriState.any_eq_yes_iff,
      TriState.any_lenient_eq_unknown_iff⟩
  · intro disjunction earlier states between decisive value left htruths hopen hvalue hdecides later
    rw [tryEvaluate_connective disjunction (by simp)]
    exact run_tryConnect_decisive htruths hopen hvalue hdecides none

/-- A false operand decides a conjunction, though one before it is nothing. A true one decides a
disjunction, though one behind it faults. -/
theorem connectives_agree_decided :
    (((apply .and [.null, .baseValue (.boolean false)]).tryEvaluate ⟨.empty, .default⟩
      .undeclared).run.run (.forPass 0 0 .info)).1 = .ok (.boolean false) ∧
    ((apply .or [.null, .baseValue (.boolean true), .apply .not []]).tryEvaluate
      ⟨.empty, .default⟩ .undeclared).run.run (.forPass 0 0 .info) =
        (.ok (.boolean true), .forPass 0 0 .info) := by
  have hagree := connectives_agree ⟨.empty, .default⟩ .undeclared (.forPass 0 0 .info)
  have hnull : TruthValues ⟨.empty, .default⟩ .undeclared [.null] (.forPass 0 0 .info) [.unknown]
      (.forPass 0 0 .info) := .cons rfl rfl .nil
  have hfalse : TruthValues ⟨.empty, .default⟩ .undeclared [.null, .baseValue (.boolean false)]
      (.forPass 0 0 .info) [.unknown, .no] (.forPass 0 0 .info) :=
    .cons rfl rfl (.cons rfl rfl .nil)
  exact ⟨(hagree.1 _ _ _ (List.cons_ne_nil _ _) hfalse).1,
    hagree.2.2.2 true _ _ _ (.baseValue (.boolean true)) _ _ hnull (by decide) rfl rfl _⟩

end Expression

namespace TriState

/-! ### Completions -/

/-- Known truth values that stand for those of a list: the same where it has a known one, and any
where it has an unknown one. -/
def Completes (states : List TriState) (truths : List Bool) : Prop :=
  List.Forall₂ (fun state truth => state = .unknown ∨ state = .ofBool truth) states truths

variable {states : List TriState} {truths : List Bool} {low high count : Nat}

theorem Tally.satisfied_of_cons (state : TriState) (states : List TriState) :
    (of (state :: states)).satisfied =
      (of states).satisfied + if state = .yes then 1 else 0 := by
  cases state <;> simp [of]

theorem Tally.unknown_of_cons (state : TriState) (states : List TriState) :
    (of (state :: states)).unknown =
      (of states).unknown + if state = .unknown then 1 else 0 := by
  cases state <;> simp [of]

/-- In a completion at least those are true that were, and at most the unknown ones besides. -/
theorem Completes.count_bounds (h : Completes states truths) :
    (Tally.of states).satisfied ≤ truths.count true ∧
      truths.count true ≤ (Tally.of states).satisfied + (Tally.of states).unknown := by
  induction h with
  | nil => exact ⟨Nat.le_refl 0, Nat.le_refl 0⟩
  | @cons state truth states truths hstate _ ih =>
    rw [Tally.satisfied_of_cons, Tally.unknown_of_cons]
    obtain rfl | rfl := hstate
    · cases truth <;> simp <;> omega
    · cases truth <;> simp [ofBool] <;> omega

/-- Every number in these bounds is that of a completion. -/
theorem exists_completes (hsatisfied : (Tally.of states).satisfied ≤ count)
    (hunknown : count ≤ (Tally.of states).satisfied + (Tally.of states).unknown) :
    ∃ truths, Completes states truths ∧ truths.count true = count := by
  induction states generalizing count with
  | nil => exact ⟨[], .nil, (Nat.le_zero.1 hunknown).symm⟩
  | cons state states ih =>
    rw [Tally.satisfied_of_cons] at hsatisfied hunknown
    rw [Tally.unknown_of_cons] at hunknown
    cases state with
    | yes =>
      rw [if_pos rfl] at hsatisfied hunknown
      rw [if_neg nofun] at hunknown
      obtain ⟨rest, rfl⟩ : ∃ rest, count = rest + 1 := ⟨count - 1, by omega⟩
      obtain ⟨truths, hcompletes, rfl⟩ := @ih rest (by omega) (by omega)
      exact ⟨true :: truths, .cons (.inr rfl) hcompletes, List.count_cons_self⟩
    | no =>
      obtain ⟨truths, hcompletes, rfl⟩ := ih (by simpa using hsatisfied) (by simpa using hunknown)
      exact ⟨false :: truths, .cons (.inr rfl) hcompletes, by simp⟩
    | unknown =>
      -- An unknown operand turns out to be true where all unknown ones have to.
      by_cases hall : count ≤ (Tally.of states).satisfied + (Tally.of states).unknown
      · obtain ⟨truths, hcompletes, rfl⟩ := ih (by simpa using hsatisfied) hall
        exact ⟨false :: truths, .cons (.inl rfl) hcompletes, by simp⟩
      · obtain ⟨truths, hcompletes, hcount⟩ :=
          ih (Nat.le_add_right _ (Tally.of states).unknown) (Nat.le_refl _)
        refine ⟨true :: truths, .cons (.inl rfl) hcompletes, ?_⟩
        rw [if_neg nofun, if_pos rfl] at hunknown
        rw [List.count_cons_self, hcount]
        omega

/-- What holds of the numbers of true operands in all completions holds of all numbers in these
bounds. -/
theorem forall_completes_iff {holds : Nat → Prop} :
    (∀ truths, Completes states truths → holds (truths.count true)) ↔
      ∀ count, (Tally.of states).satisfied ≤ count →
        count ≤ (Tally.of states).satisfied + (Tally.of states).unknown → holds count := by
  refine ⟨fun h count hsatisfied hunknown => ?_, fun h truths hcompletes => ?_⟩
  · obtain ⟨truths, hcompletes, rfl⟩ := exists_completes hsatisfied hunknown
    exact h truths hcompletes
  · exact h _ hcompletes.count_bounds.1 hcompletes.count_bounds.2

/-! ### What completions agree on -/

/-- Whether a number is in bounds is certain where all numbers that are possible are. -/
theorem between_eq_yes_iff {tally : Tally} :
    between low high tally = yes ↔
      ∀ count, tally.satisfied ≤ count → count ≤ tally.satisfied + tally.unknown →
        low ≤ count ∧ count ≤ high := by
  have hbetween : between low high tally = yes ↔
      low ≤ tally.satisfied ∧ tally.satisfied + tally.unknown ≤ high := by
    unfold between
    grind
  rw [hbetween]
  refine ⟨fun h count _ _ => by omega, fun h => ⟨?_, ?_⟩⟩
  · exact (h tally.satisfied (Nat.le_refl _) (Nat.le_add_right _ _)).1
  · exact (h _ (Nat.le_add_right _ _) (Nat.le_refl _)).2

/-- Whether a number is in bounds is out of the question where it is for all that are possible. -/
theorem between_eq_no_iff {tally : Tally} :
    between low high tally = no ↔
      ∀ count, tally.satisfied ≤ count → count ≤ tally.satisfied + tally.unknown →
        ¬(low ≤ count ∧ count ≤ high) := by
  have hbetween : between low high tally = no ↔ high < low ∨ high < tally.satisfied ∨
      tally.satisfied + tally.unknown < low := by
    unfold between
    grind
  rw [hbetween]
  refine ⟨fun h count _ _ => by omega, fun h => ?_⟩
  -- The least number that is possible and not below the bounds is above them.
  have hleast := h (max low tally.satisfied) (Nat.le_max_right _ _)
  omega

end TriState

/-! ### Operands that are counted -/

variable {least greatest : Int64}

/-- Values with truth values are counted, and nothing is drawn. -/
theorem Operator.apply_anyN {values : List Value} {states : List TriState} (hleast : 0 ≤ least)
    (hgreatest : 0 ≤ greatest)
    (hstates : values.mapM (fun value => Operand.orExpecting "anyN" "single boolean"
      value.triState?) = .ok states) (policy : OverflowPolicy) (source : RandomSource) :
    (anyN least greatest).apply policy values source =
      .ok (ofTriState (.between least.toInt.toNat greatest.toInt.toNat (.of states)), source) := by
  have hbounds : ¬(least < 0 ∨ greatest < 0) := by
    simp only [Int64.lt_iff_toInt_lt, Int64.le_iff_toInt_le] at hleast hgreatest ⊢
    omega
  have hcount : countTrue "anyN" values least greatest =
      .ok (ofTriState (.between least.toInt.toNat greatest.toInt.toNat (.of states))) := by
    rw [countTrue, if_neg hbounds, hstates]
    rfl
  change (countTrue "anyN" values least greatest >>= fun value => .ok (value, source)) = _
  rw [hcount]
  rfl

/-- What is drawn leaves the random source as the draw does. -/
theorem Evaluation.run_drawn {α : Type} {environment : Environment} {a : α} {random : RandomSource}
    {draw : RandomSource → Except RuntimeFault (α × RandomSource)}
    (h : draw environment.random = .ok (a, random)) :
    (drawn draw).run.run environment = (.ok a, { environment with random }) := by
  have hget : (get : Evaluation Environment).run.run environment = (.ok environment, environment) :=
    rfl
  rw [drawn, Action.run_bind, hget]
  dsimp only
  rw [h]
  rfl

namespace Expression

variable {engine : Engine} {view : View} {operands : List Expression}
  {environment left : Environment} {states : List TriState}

/-- Operands with truth values are evaluated to values with those truth values. -/
theorem TruthValues.exists_values (h : TruthValues engine view operands environment states left)
    (operation : String) :
    ∃ values, (tryEvaluateAll engine view operands).run.run environment = (.ok values, left) ∧
      values.mapM (fun value => Operand.orExpecting operation "single boolean" value.triState?) =
        .ok states := by
  induction h with
  | nil => exact ⟨[], rfl, rfl⟩
  | @cons first rest environment between left value state states hvalue hstate _ ih =>
    obtain ⟨values, hvalues, hstates⟩ := ih
    refine ⟨value :: values, ?_, ?_⟩
    · rw [tryEvaluateAll, Action.run_bind, hvalue]
      dsimp only
      rw [Action.run_bind, hvalues]
      rfl
    · rw [List.mapM_cons, hstate, hstates]
      rfl

/-- Counting operands with truth values decides between the bounds. -/
theorem run_anyN (hleast : 0 ≤ least) (hgreatest : 0 ≤ greatest) (hoperands : operands ≠ [])
    (htruths : TruthValues engine view operands environment states left) :
    ((apply (.anyN least greatest) operands).tryEvaluate engine view).run.run environment =
      (.ok (ofTriState (.between least.toInt.toNat greatest.toInt.toNat (.of states))), left) := by
  obtain ⟨values, hvalues, hstates⟩ := htruths.exists_values "anyN"
  have hcount : ((apply (.anyN least greatest) operands).tryEvaluate engine view) =
      tryEvaluateAll engine view operands >>= fun values => Evaluation.drawn
        ((Operator.anyN least greatest).apply engine.options.overflow values) := by
    simp [tryEvaluate, Operator.arity, accepts_of_ne_nil hoperands]
  rw [hcount, Action.run_bind, hvalues]
  dsimp only
  exact Evaluation.run_drawn (Operator.apply_anyN hleast hgreatest hstates _ _)

/-- A number is in two bounds of which the greater one is not negative. -/
theorem le_and_le_iff (hgreatest : 0 ≤ greatest) (count : Nat) :
    least.toInt.toNat ≤ count ∧ count ≤ greatest.toInt.toNat ↔
      least.toInt ≤ count ∧ count ≤ greatest.toInt := by
  have hpos : 0 ≤ greatest.toInt := Int64.le_iff_toInt_le.1 hgreatest
  omega

/-- **Counting is exact about operands that are nothing.** With bounds that are not negative, the
value is true if the number of true operands is in bounds however the operands that are nothing turn
out, false if it is out of bounds however they do, and nothing otherwise. -/
theorem anyN_exact (hleast : 0 ≤ least) (hgreatest : 0 ≤ greatest) (hoperands : operands ≠ [])
    (htruths : TruthValues engine view operands environment states left) :
    ∃ verdict, ((apply (.anyN least greatest) operands).tryEvaluate engine view).run.run
        environment = (.ok (ofTriState verdict), left) ∧
      (verdict = .yes ↔ ∀ truths, TriState.Completes states truths →
        least.toInt ≤ truths.count true ∧ truths.count true ≤ greatest.toInt) ∧
      (verdict = .no ↔ ∀ truths, TriState.Completes states truths →
        ¬(least.toInt ≤ truths.count true ∧ truths.count true ≤ greatest.toInt)) := by
  refine ⟨_, run_anyN hleast hgreatest hoperands htruths, ?_, ?_⟩
  · simp only [TriState.between_eq_yes_iff, le_and_le_iff hgreatest]
    exact TriState.forall_completes_iff.symm
  · simp only [TriState.between_eq_no_iff, le_and_le_iff hgreatest]
    exact TriState.forall_completes_iff.symm

/-- One of two operands is true and the other one is nothing. Whether just one is true depends on
how that one turns out. -/
theorem anyN_exact_open :
    ((apply (.anyN 1 1) [.null, .baseValue (.boolean true)]).tryEvaluate ⟨.empty, .default⟩
      .undeclared).run.run (.forPass 0 0 .info) = (.ok .null, .forPass 0 0 .info) := by
  have htruths : TruthValues ⟨.empty, .default⟩ .undeclared [.null, .baseValue (.boolean true)]
      (.forPass 0 0 .info) [.unknown, .yes] (.forPass 0 0 .info) :=
    .cons rfl rfl (.cons rfl rfl .nil)
  obtain ⟨verdict, hrun, hyes, hno⟩ :=
    anyN_exact (show 0 ≤ (1 : Int64) by decide) (show 0 ≤ (1 : Int64) by decide)
      (List.cons_ne_nil _ _) htruths
  have hcompletes (truth : Bool) : TriState.Completes [.unknown, .yes] [truth, true] :=
    .cons (.inl rfl) (.cons (.inr rfl) .nil)
  cases verdict with
  | yes => exact absurd (hyes.1 rfl _ (hcompletes true)) (by decide)
  | no => exact absurd (by decide) (hno.1 rfl _ (hcompletes false))
  | unknown => exact hrun

end Expression

end Assessment
