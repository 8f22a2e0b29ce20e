import Assessment.Proofs.Action

/-!
# Runs that are coupled

Two runs of which neither the results nor the errors need be the same, nor the states they begin
with: one may report less than the other, draw other random numbers or happen at another time. They
are coupled if they end in the same way, with related results or related errors, and leave related
states.

The operations of sessions are put together by the rules given here. Runs that are coupled with the
same results and the same errors agree, which is what runs of rules are found to do.

## Main definitions

- `Couple`: two computations end in the same way, with what is related.
- `Action.Coupled`: the same of two actions, which also leave related states.

## Main results

- `Couple.bind` and `couple_mapM`: what the parts of computations couple.
- `Action.Coupled.bind` and the rules beside it: what the parts of actions couple.
-/

namespace Assessment

variable {σ ε δ ε' δ' α β α' β' : Type}

/-! ### Computations -/

/-- Two computations have results of which `results` holds, or errors of which `errors` holds. Those
that match are coupled so that the errors are the same. -/
def Couple (results : α → β → Prop) (errors : ε → δ → Prop) : Except ε α → Except δ β → Prop
  | .ok a, .ok b => results a b
  | .error error, .error error' => errors error error'
  | _, _ => False

section Couple

variable {results : α → β → Prop} {errors : ε → δ → Prop} {first : Except ε α} {second : Except δ β}

theorem Couple.mono {results' : α → β → Prop} {errors' : ε → δ → Prop}
    (h : Couple results errors first second) (hresults : ∀ a b, results a b → results' a b)
    (herrors : ∀ error error', errors error error' → errors' error error') :
    Couple results' errors' first second := by
  cases first <;> cases second
  · exact herrors _ _ h
  · exact h.elim
  · exact h.elim
  · exact hresults _ _ h

/-- Computations couple what their parts couple. -/
theorem Couple.bind {results' : α' → β' → Prop} {f : α → Except ε α'} {g : β → Except δ β'}
    (h : Couple results errors first second)
    (hnext : ∀ a b, results a b → Couple results' errors (f a) (g b)) :
    Couple results' errors (first >>= f) (second >>= g) := by
  cases first <;> cases second
  · exact h
  · exact h.elim
  · exact h.elim
  · exact hnext _ _ h

theorem Couple.mapError {errors' : ε' → δ' → Prop} {f : ε → ε'} {g : δ → δ'}
    (h : Couple results errors first second)
    (herrors : ∀ error error', errors error error' → errors' (f error) (g error')) :
    Couple results errors' (first.mapError f) (second.mapError g) := by
  cases first <;> cases second
  · exact herrors _ _ h
  · exact h.elim
  · exact h.elim
  · exact h

/-- A computation is coupled to itself by relations in which everything is related to itself. -/
theorem couple_self {results : α → α → Prop} {errors : ε → ε → Prop}
    (hresults : ∀ a, results a a) (herrors : ∀ error, errors error error) (result : Except ε α) :
    Couple results errors result result := by
  cases result with
  | ok a => exact hresults a
  | error error => exact herrors error

/-- What comes after the same computation is coupled if it is for each of its results. -/
theorem couple_bind_self {results : β → β' → Prop} {errors : ε → ε → Prop}
    (herrors : ∀ error, errors error error) {result : Except ε α} {f : α → Except ε β}
    {g : α → Except ε β'} (hnext : ∀ a, Couple results errors (f a) (g a)) :
    Couple results errors (result >>= f) (result >>= g) := by
  cases result with
  | ok a => exact hnext a
  | error error => exact herrors error

/-- Computations are coupled by equality if they come to the same. -/
theorem couple_eq_iff {first second : Except ε α} : Couple Eq Eq first second ↔ first = second := by
  cases first <;> cases second <;> simp [Couple]

/-- Both computations take the same way. -/
theorem couple_ite {c : Prop} [Decidable c] {first' : Except ε α} {second' : Except δ β}
    (h : c → Couple results errors first second) (h' : ¬c → Couple results errors first' second') :
    Couple results errors (if c then first else first') (if c then second else second') := by
  by_cases hc : c
  · rw [if_pos hc, if_pos hc]
    exact h hc
  · rw [if_neg hc, if_neg hc]
    exact h' hc

/-- A computation that is coupled to another by a function and with the same errors is the image of
the other. -/
theorem Couple.eq_map {f : α → β} {first : Except ε α} {second : Except ε β}
    (h : Couple (fun a b => b = f a) Eq first second) : second = first.map f := by
  cases first <;> cases second
  · exact congrArg Except.error h.symm
  · exact h.elim
  · exact h.elim
  · exact congrArg Except.ok h

/-- Computing something of the members of two lists couples the lists of results. -/
theorem couple_mapM {results : α' → β' → Prop} {f : α → Except ε α'} {g : β → Except δ β'}
    {members : List α} {members' : List β}
    (h : List.Forall₂ (fun a b => Couple results errors (f a) (g b)) members members') :
    Couple (List.Forall₂ results) errors (members.mapM f) (members'.mapM g) := by
  induction h with
  | nil => exact .nil
  | cons hfirst _ ih =>
    rw [List.mapM_cons, List.mapM_cons]
    exact hfirst.bind fun _ _ hab => ih.bind fun _ _ hrest => .cons hab hrest

end Couple

/-! ### Actions -/

namespace Action

/-- Runs of two actions, each from a state of its own, end with results of which `results` holds or
with errors of which `errors` holds, and leave states of which `states` holds. -/
def Coupled (states : σ → σ → Prop) (results : α → β → Prop) (errors : ε → δ → Prop)
    (first : Action σ ε α) (second : Action σ δ β) (s t : σ) : Prop :=
  Couple results errors (first.run.run s).1 (second.run.run t).1 ∧
    states (first.run.run s).2 (second.run.run t).2

variable {states : σ → σ → Prop} {results : α → β → Prop} {errors : ε → δ → Prop}
  {first : Action σ ε α} {second : Action σ δ β} {s t : σ}

theorem coupled_pure {a : α} {b : β} (hresult : results a b) (h : states s t) :
    Coupled states results errors (pure a) (pure b) s t := ⟨hresult, h⟩

theorem coupled_throw {error : ε} {error' : δ} (herror : errors error error') (h : states s t) :
    Coupled states results errors (throw error) (throw error') s t := ⟨herror, h⟩

theorem coupled_modify {results : PUnit → PUnit → Prop} {f g : σ → σ} (hresult : results ⟨⟩ ⟨⟩)
    (h : states (f s) (g t)) :
    Coupled states results errors (modify f) (modify g) s t := ⟨hresult, h⟩

/-- What comes after an error is not done. -/
@[simp]
theorem throw_bind (error : ε) (f : α → Action σ ε β) : (throw error >>= f) = throw error := rfl

/-- Both runs take the same way. -/
theorem coupled_ite {c : Prop} [Decidable c] {first' : Action σ ε α} {second' : Action σ δ β}
    (h : c → Coupled states results errors first second s t)
    (h' : ¬c → Coupled states results errors first' second' s t) :
    Coupled states results errors (if c then first else first') (if c then second else second') s
      t := by
  by_cases hc : c
  · rw [if_pos hc, if_pos hc]
    exact h hc
  · rw [if_neg hc, if_neg hc]
    exact h' hc

/-- To read the state is to go on with it. -/
@[simp]
theorem coupled_get_bind {f : σ → Action σ ε α} {g : σ → Action σ δ β} :
    Coupled states results errors (get >>= f) (get >>= g) s t ↔
      Coupled states results errors (f s) (g t) s t := Iff.rfl

/-- To replace the state is to go on from the new one. -/
@[simp]
theorem coupled_set_bind {next next' : σ} {f : PUnit → Action σ ε α} {g : PUnit → Action σ δ β} :
    Coupled states results errors (set next >>= f) (set next' >>= g) s t ↔
      Coupled states results errors (f ⟨⟩) (g ⟨⟩) next next' := Iff.rfl

/-- To change the state is to go on from the new one. -/
@[simp]
theorem coupled_modify_bind {f g : σ → σ} {next : PUnit → Action σ ε α}
    {next' : PUnit → Action σ δ β} :
    Coupled states results errors (modify f >>= next) (modify g >>= next') s t ↔
      Coupled states results errors (next ⟨⟩) (next' ⟨⟩) (f s) (g t) := Iff.rfl

/-- Sequences are coupled if their first parts are, and then their second parts from what these
leave. -/
theorem Coupled.bind {results' : α' → β' → Prop} {f : α → Action σ ε α'} {g : β → Action σ δ β'}
    (h : Coupled states results errors first second s t)
    (hnext : ∀ a b left left', results a b → states left left' →
      Coupled states results' errors (f a) (g b) left left') :
    Coupled states results' errors (first >>= f) (second >>= g) s t := by
  obtain ⟨hresult, hleft⟩ := h
  unfold Coupled
  rw [run_bind, run_bind]
  rcases hfirst : first.run.run s with ⟨error | a, left⟩ <;>
    rcases hsecond : second.run.run t with ⟨error' | b, left'⟩ <;>
    rw [hfirst, hsecond] at hresult hleft
  · exact ⟨hresult, hleft⟩
  · exact hresult.elim
  · exact hresult.elim
  · exact hnext a b left left' hresult hleft

theorem Coupled.rename {errors' : ε' → δ' → Prop} {f : ε → ε'} {g : δ → δ'}
    (h : Coupled states results errors first second s t)
    (herrors : ∀ error error', errors error error' → errors' (f error) (g error')) :
    Coupled states results errors' (first.rename f) (second.rename g) s t := by
  obtain ⟨hresult, hleft⟩ := h
  unfold Coupled
  rw [run_rename, run_rename]
  rcases hfirst : first.run.run s with ⟨error | a, left⟩ <;>
    rcases hsecond : second.run.run t with ⟨error' | b, left'⟩ <;>
    rw [hfirst, hsecond] at hresult hleft
  · exact ⟨herrors _ _ hresult, hleft⟩
  · exact hresult.elim
  · exact hresult.elim
  · exact ⟨hresult, hleft⟩

end Action

end Assessment
