import Mathlib.Data.List.Forall2
import Assessment.Evaluation.Environment

/-!
# What actions ensure

An action ends with a result or with an error, and leaves a state either way. `Action.Ensures` says
what holds of a run in both cases. The operations of sessions are put together from few kinds of
actions, and this module has one rule for each of them.

## Main definitions

- `Yields`: what holds of the result or the error of a computation without a state.
- `Action.Ensures`: what holds when a run from a state ends, of its result or error and of the state
  that is left.

## Main results

- `Action.ensures_bind` and the rules beside it: what the parts of an action ensure.
- `Action.Ensures.bind`: what is known of the first part carries over to the second.
- `Action.Ensures.ok` and `Action.Ensures.error`: what is known of a given run.
-/

namespace Assessment

variable {σ τ ε δ α β : Type}

/-! ### Computations without a state -/

/-- A computation has a result of which `done` holds, or an error of which `failed` holds. -/
def Yields (result : Except ε α) (done : α → Prop) (failed : ε → Prop) : Prop :=
  match result with
  | .ok a => done a
  | .error error => failed error

section Yields

variable {result : Except ε α} {done done' : α → Prop} {failed failed' : ε → Prop}

@[simp]
theorem yields_ok (a : α) : Yields (.ok a : Except ε α) done failed ↔ done a := Iff.rfl

@[simp]
theorem yields_pure (a : α) : Yields (pure a : Except ε α) done failed ↔ done a := Iff.rfl

@[simp]
theorem yields_error (error : ε) : Yields (.error error : Except ε α) done failed ↔ failed error :=
  Iff.rfl

@[simp]
theorem yields_throw (error : ε) :
    Yields (throw error : Except ε α) done failed ↔ failed error := Iff.rfl

/-- To say what a computation yields is to say it of its result and of its error. -/
theorem yields_iff :
    Yields result done failed ↔
      (∀ a, result = .ok a → done a) ∧ (∀ error, result = .error error → failed error) := by
  cases result with
  | ok a =>
    refine ⟨fun h => ⟨?_, nofun⟩, fun h => h.1 a rfl⟩
    rintro _ ⟨⟩
    exact h
  | error error =>
    refine ⟨fun h => ⟨nofun, ?_⟩, fun h => h.2 error rfl⟩
    rintro _ ⟨⟩
    exact h

/-- A computation that does not fail has a result. -/
theorem Yields.exists_ok (h : Yields result done fun _ => False) :
    ∃ a, result = .ok a ∧ done a := by
  cases result with
  | ok a => exact ⟨a, rfl, h⟩
  | error error => exact h.elim

/-- A computation that yields a given result has that result. -/
theorem Yields.eq_ok {a : α} (h : Yields result (· = a) fun _ => False) : result = .ok a := by
  obtain ⟨_, hresult, rfl⟩ := h.exists_ok
  exact hresult

/-- A computation yields whatever follows from what it yields. -/
theorem Yields.mono (h : Yields result done failed) (hdone : ∀ a, done a → done' a)
    (hfailed : ∀ error, failed error → failed' error) : Yields result done' failed' := by
  cases result with
  | ok a => exact hdone a h
  | error error => exact hfailed error h

@[simp]
theorem yields_bind {done : β → Prop} (f : α → Except ε β) :
    Yields (result >>= f) done failed ↔
      Yields result (fun a => Yields (f a) done failed) failed := by
  cases result <;> exact Iff.rfl

/-- What is known of the first part of a computation is all that its second part has to build on. -/
theorem Yields.bind {done' : β → Prop} {f : α → Except ε β} (h : Yields result done failed)
    (hf : ∀ a, done a → Yields (f a) done' failed) : Yields (result >>= f) done' failed :=
  (yields_bind f).2 (h.mono hf fun _ herror => herror)

@[simp]
theorem yields_map {done : β → Prop} (f : α → β) :
    Yields (result.map f) done failed ↔ Yields result (fun a => done (f a)) failed := by
  cases result <;> exact Iff.rfl

/-- A result that is found by looking at what is no error. -/
theorem eq_ok_of_mem_toOption {a : α} (h : a ∈ result.toOption) : result = .ok a := by
  cases result with
  | error error => cases h
  | ok b =>
    cases h
    rfl

/-- Every computation yields something. -/
@[simp]
theorem yields_true : Yields result (fun _ => True) fun _ => True := by
  cases result <;> trivial

/-- Computing something of every member of a list has the results of all, or the error of one. -/
theorem yields_mapM (f : α → Except ε β) (members : List α) :
    Yields (members.mapM f) (List.Forall₂ (fun a b => f a = .ok b) members)
      fun error => ∃ a ∈ members, f a = .error error := by
  -- The computations are made from the first member on, and the first that fails ends them.
  induction members with
  | nil => exact .nil
  | cons first rest ih =>
    rw [List.mapM_cons, yields_bind]
    cases hfirst : f first with
    | error error => exact ⟨first, List.mem_cons_self, hfirst⟩
    | ok b =>
      rw [yields_ok, yields_bind]
      refine ih.mono (fun results hresults => .cons hfirst hresults) ?_
      rintro error ⟨a, ha, herror⟩
      exact ⟨a, List.mem_cons_of_mem _ ha, herror⟩

/-- What is computed of every member of a list is what is computed of each of them. -/
theorem yields_mapM_all {f : α → Except ε β} {members : List α} {done : β → Prop}
    (h : ∀ a ∈ members, Yields (f a) done failed) :
    Yields (members.mapM f) (fun results => ∀ b ∈ results, done b) failed := by
  induction members with
  | nil => exact nofun
  | cons first rest ih =>
    obtain ⟨hfirst, hrest⟩ := List.forall_mem_cons.1 h
    rw [List.mapM_cons]
    refine hfirst.bind fun b hb => (ih hrest).bind fun results hresults => ?_
    exact List.forall_mem_cons.2 ⟨hb, hresults⟩

@[simp]
theorem yields_mapError {failed : δ → Prop} (f : ε → δ) :
    Yields (result.mapError f) done failed ↔ Yields result done fun error => failed (f error) := by
  cases result <;> exact Iff.rfl

end Yields

namespace Action

/-- A run of `action` from `state` ends in `done`, with its result and the state that is left, or in
`failed`, with its error and that state. -/
def Ensures (action : Action σ ε α) (state : σ) (done : α → σ → Prop) (failed : ε → σ → Prop) :
    Prop :=
  match action.run.run state with
  | (.ok a, left) => done a left
  | (.error error, left) => failed error left

variable {state left : σ} {done done' : α → σ → Prop} {failed failed' : ε → σ → Prop}

/-! ### Runs -/

/-- What an action ensures holds of a run that ends with a result. -/
theorem Ensures.ok {action : Action σ ε α} {a : α} (h : action.Ensures state done failed)
    (hrun : action.run.run state = (.ok a, left)) : done a left := by
  rw [Ensures, hrun] at h
  exact h

/-- What an action ensures holds of a run that ends with an error. -/
theorem Ensures.error {action : Action σ ε α} {error : ε} (h : action.Ensures state done failed)
    (hrun : action.run.run state = (.error error, left)) : failed error left := by
  rw [Ensures, hrun] at h
  exact h

/-- Every action ensures what its run comes to. -/
theorem ensures_run (action : Action σ ε α) (state : σ) :
    action.Ensures state (fun a left => action.run.run state = (.ok a, left))
      (fun error left => action.run.run state = (.error error, left)) := by
  unfold Ensures
  split
  next h => exact h
  next h => exact h

/-- A run whose result is found by looking at what is no error. -/
theorem run_eq_ok_of_mem_toOption {action : Action σ ε α} {a : α}
    (h : a ∈ (action.run.run state).1.toOption) :
    action.run.run state = (.ok a, (action.run.run state).2) :=
  Prod.ext (eq_ok_of_mem_toOption h) rfl

/-- An action that ensures `done` and never fails has a result. -/
theorem Ensures.exists_ok {action : Action σ ε α}
    (h : action.Ensures state done fun _ _ => False) :
    ∃ a left, action.run.run state = (.ok a, left) ∧ done a left := by
  unfold Ensures at h
  split at h
  next a left hrun => exact ⟨a, left, hrun, h⟩
  next => exact h.elim

/-- An action ensures whatever follows from what it ensures. -/
theorem Ensures.mono {action : Action σ ε α} (h : action.Ensures state done failed)
    (hdone : ∀ a left, done a left → done' a left)
    (hfailed : ∀ error left, failed error left → failed' error left) :
    action.Ensures state done' failed' := by
  unfold Ensures at h ⊢
  split at h
  next => exact hdone _ _ h
  next => exact hfailed _ _ h

/-- What an action ensures in two ways it ensures together. -/
theorem Ensures.and {action : Action σ ε α} (h : action.Ensures state done failed)
    (h' : action.Ensures state done' failed') :
    action.Ensures state (fun a left => done a left ∧ done' a left)
      (fun error left => failed error left ∧ failed' error left) := by
  unfold Ensures at h h' ⊢
  rcases hrun : action.run.run state with ⟨_ | _, _⟩
  all_goals
    rw [hrun] at h h'
    exact ⟨h, h'⟩

/-! ### Rules for the parts of actions -/

@[simp]
theorem ensures_pure (a : α) :
    (pure a : Action σ ε α).Ensures state done failed ↔ done a state := Iff.rfl

@[simp]
theorem ensures_throw (error : ε) :
    (throw error : Action σ ε α).Ensures state done failed ↔ failed error state := Iff.rfl

@[simp]
theorem ensures_get {done : σ → σ → Prop} :
    (get : Action σ ε σ).Ensures state done failed ↔ done state state := Iff.rfl

@[simp]
theorem ensures_set {done : PUnit → σ → Prop} (next : σ) :
    (set next : Action σ ε PUnit).Ensures state done failed ↔ done ⟨⟩ next := Iff.rfl

@[simp]
theorem ensures_modify {done : PUnit → σ → Prop} (f : σ → σ) :
    (modify f : Action σ ε PUnit).Ensures state done failed ↔ done ⟨⟩ (f state) := Iff.rfl

/-- To read the state is to go on with it. -/
theorem run_get_bind (f : σ → Action σ ε α) (state : σ) :
    (get >>= f).run.run state = (f state).run.run state := rfl

/-- A sequence runs its second part from what its first part leaves, if that ends with a result. -/
theorem run_bind (action : Action σ ε α) (f : α → Action σ ε β) (state : σ) :
    (action >>= f).run.run state =
      match action.run.run state with
      | (.ok a, left) => (f a).run.run left
      | (.error error, left) => (.error error, left) := by
  rw [ExceptT.run_bind, StateT.run_bind]
  rcases action.run.run state with ⟨_ | _, _⟩ <;> rfl

/-- A sequence ensures what its second part ensures after its first. -/
@[simp]
theorem ensures_bind {done : β → σ → Prop} (action : Action σ ε α) (f : α → Action σ ε β) :
    (action >>= f).Ensures state done failed ↔
      action.Ensures state (fun a left => (f a).Ensures left done failed) failed := by
  unfold Ensures
  rw [run_bind]
  rcases action.run.run state with ⟨_ | _, _⟩ <;> rfl

@[simp]
theorem ensures_map {done : β → σ → Prop} (f : α → β) (action : Action σ ε α) :
    (f <$> action).Ensures state done failed ↔
      action.Ensures state (fun a left => done (f a) left) failed := by
  rw [← bind_pure_comp, ensures_bind]
  simp only [ensures_pure]

/-- To change the result of an action changes nothing of how it fails. -/
theorem run_map_eq_error {f : α → β} {action : Action σ ε α} {error : ε} :
    (f <$> action).run.run state = (.error error, left) ↔
      action.run.run state = (.error error, left) := by
  have hrun : (f <$> action).run.run state =
      ((action.run.run state).1.map f, (action.run.run state).2) := by
    rw [ExceptT.run_map, StateT.run_map]
    rfl
  rw [hrun, Prod.ext_iff, Prod.ext_iff]
  cases (action.run.run state).1 with
  | error _ => simp [Except.map]
  | ok _ => simp [Except.map]

/-- What the first part of a sequence is known to ensure is all that its second part has to build
on. -/
theorem Ensures.bind {done' : β → σ → Prop} {action : Action σ ε α} {f : α → Action σ ε β}
    (h : action.Ensures state done failed)
    (hdone : ∀ a left, done a left → (f a).Ensures left done' failed')
    (hfailed : ∀ error left, failed error left → failed' error left) :
    (action >>= f).Ensures state done' failed' := by
  rw [ensures_bind]
  exact h.mono hdone hfailed

theorem ensures_ite {c : Prop} [Decidable c] (first second : Action σ ε α) :
    (if c then first else second).Ensures state done failed ↔
      (c → first.Ensures state done failed) ∧ (¬c → second.Ensures state done failed) := by
  by_cases h : c <;> simp [h]

/-- The result of a computation is one that the computation yields. -/
@[simp]
theorem ensures_ofExcept (result : Except ε α) :
    (ofExcept result : Action σ ε α).Ensures state done failed ↔
      Yields result (done · state) (failed · state) := by
  cases result <;> exact Iff.rfl

/-- An action whose errors are renamed fails with the new error where it fails. -/
theorem run_rename (f : ε → δ) (inner : Action σ ε α) (state : σ) :
    (inner.rename f).run.run state =
      match inner.run.run state with
      | (.ok a, left) => (.ok a, left)
      | (.error error, left) => (.error (f error), left) := rfl

@[simp]
theorem ensures_rename {failed : δ → σ → Prop} (f : ε → δ) (inner : Action σ ε α) :
    (inner.rename f).Ensures state done failed ↔
      inner.Ensures state done fun error left => failed (f error) left := by
  unfold Ensures
  rw [run_rename]
  rcases inner.run.run state with ⟨_ | _, _⟩ <;> rfl

@[simp]
theorem ensures_within {read : σ → τ} {write : τ → σ → σ} (inner : Action τ ε α) :
    (inner.within read write).Ensures state done failed ↔
      inner.Ensures (read state) (fun a part => done a (write part state))
        fun error part => failed error (write part state) := by
  have hrun : (inner.within read write).run.run state =
      ((inner.run.run (read state)).1, write (inner.run.run (read state)).2 state) := rfl
  unfold Ensures
  rw [hrun]
  rcases inner.run.run (read state) with ⟨_ | _, _⟩ <;> rfl

end Action

end Assessment
