import Mathlib.Data.List.Nodup
import Mathlib.Data.List.Range
import Assessment.Proofs.Item.Retained

/-!
# The seeds of passes

Rules draw random numbers from a stream that begins anew with each pass. The seed of the stream is
made of the seed of the session and the number of the pass. The number is multiplied by an odd
constant, which has an inverse among words, so that no two of the 2⁶⁴ passes that can be told apart
have one seed.

Sessions keep their seeds, and no request begins more than one pass. The seeds of the passes that
requests begin in turn are therefore those of passes that follow each other, also where requests
are refused or fail in the middle of their work.

## Main definitions

- `Supply`: the seed of a session and the number of its next pass.
- `Supply.seeds`: the seeds of passes that follow each other.
- `Supply.seedsAlong`: the seeds of the passes that steps in turn begin.
- `ItemDelivery.passSeeds`: the seeds of the passes that requests to an item session begin.

## Main results

- `passSeed_injective` and `Supply.nodup_seeds`: no two passes have one seed.
- `ItemDelivery.leaves_serve_supply`: what a request to an item session uses up.
- `ItemDelivery.nodup_passSeeds`: no two passes of an item session have one seed.
-/

namespace Assessment

open Action

/-! ### Words -/

/-- A word with an inverse can be cancelled. -/
theorem mul_injective_of_inverse {multiplier inverse : UInt64} (h : multiplier * inverse = 1) :
    Function.Injective (· * multiplier) := by
  refine Function.LeftInverse.injective (g := (· * inverse)) fun word => ?_
  change word * multiplier * inverse = word
  rw [UInt64.mul_assoc, h, UInt64.mul_one]

theorem ofNat_inj_of_lt {m n : ℕ} (hm : m < UInt64.size) (hn : n < UInt64.size)
    (h : UInt64.ofNat m = UInt64.ofNat n) : m = n := by
  rw [← UInt64.toNat_ofNat_of_lt' hm, h, UInt64.toNat_ofNat_of_lt' hn]

/-- No two passes of a session have one seed. -/
theorem passSeed_injective (sessionSeed : UInt64) : Function.Injective (passSeed sessionSeed) := by
  have hinverse : (0x9E3779B97F4A7C15 : UInt64) * 0xF1DE83E19937733D = 1 := by decide
  intro first second h
  exact mul_injective_of_inverse hinverse ((UInt64.xor_right_inj sessionSeed).1 h)

/-! ### Passes that follow each other -/

/-- What the streams of random numbers of a session are begun from. -/
structure Supply where
  /-- The seed of the session. -/
  seed : UInt64
  /-- The number of the next pass. -/
  passes : UInt64
  deriving DecidableEq

namespace Supply

variable {supply : Supply} {n : ℕ}

/-- The seed of the next pass. -/
def next (supply : Supply) : UInt64 := passSeed supply.seed supply.passes

/-- What is there after some passes. -/
def after (supply : Supply) (n : ℕ) : Supply := { supply with passes := supply.passes + .ofNat n }

/-- The seeds of the next passes. -/
def seeds (supply : Supply) (n : ℕ) : List UInt64 :=
  (List.range n).map fun k => (supply.after k).next

@[simp]
theorem after_zero : supply.after 0 = supply := by
  exact congrArg (Supply.mk supply.seed) (UInt64.add_zero _)

theorem after_after (m : ℕ) : (supply.after m).after n = supply.after (m + n) := by
  rw [after, after, after, UInt64.ofNat_add, UInt64.add_assoc]

theorem seeds_succ : supply.seeds (n + 1) = supply.next :: (supply.after 1).seeds n := by
  rw [seeds, List.range_succ_eq_map, List.map_cons, List.map_map, after_zero, seeds]
  refine congrArg _ (List.map_congr_left fun k _ => ?_)
  rw [Function.comp_apply, after_after, Nat.succ_eq_one_add]

/-- A pass is counted. -/
theorem after_one_ne : supply.after 1 ≠ supply := by
  intro h
  have hpasses : supply.passes + 1 = supply.passes + 0 :=
    (congrArg Supply.passes h).trans (UInt64.add_zero _).symm
  exact absurd ((UInt64.add_right_inj _).1 hpasses) (by decide)

/-- As many passes as there are words have seeds of their own. -/
theorem nodup_seeds (h : n ≤ UInt64.size) : (supply.seeds n).Nodup := by
  refine List.Nodup.map_on (fun j hj k hk hseed => ?_) List.nodup_range
  have hj := (List.mem_range.1 hj).trans_le h
  have hk := (List.mem_range.1 hk).trans_le h
  exact ofNat_inj_of_lt hj hk ((UInt64.add_right_inj _).1 (passSeed_injective _ hseed))

/-- At most one pass was begun. -/
def MayPass (before after : Supply) : Prop := after = before ∨ after = before.after 1

section along

variable {σ ρ : Type} (supplyOf : σ → Supply) (step : σ → ρ → σ)

/-- The seeds of the passes that steps in turn begin. -/
def seedsAlong : σ → List ρ → List UInt64
  | _, [] => []
  | state, request :: rest =>
    if supplyOf (step state request) = supplyOf state then seedsAlong (step state request) rest
    else (supplyOf state).next :: seedsAlong (step state request) rest

/-- Where no step begins more than one pass, steps in turn begin passes that follow each other. -/
theorem exists_seedsAlong_eq
    (hstep : ∀ state request, (supplyOf state).MayPass (supplyOf (step state request)))
    (requests : List ρ) : ∀ state, ∃ n ≤ requests.length,
      seedsAlong supplyOf step state requests = (supplyOf state).seeds n := by
  -- The induction is on the requests, and for all states: the rest begins where the first one ends.
  induction requests with
  | nil => exact fun state => ⟨0, Nat.le_refl 0, rfl⟩
  | cons request rest ih =>
    intro state
    obtain ⟨n, hn, hseeds⟩ := ih (step state request)
    rw [seedsAlong, List.length_cons]
    obtain hsame | hpass := hstep state request
    · rw [if_pos hsame, ← hsame]
      exact ⟨n, Nat.le_succ_of_le hn, hseeds⟩
    · rw [if_neg (hpass ▸ after_one_ne), hseeds, hpass, ← seeds_succ]
      exact ⟨n + 1, Nat.succ_le_succ hn, rfl⟩

/-- Where no step begins more than one pass, no two passes have one seed. -/
theorem nodup_seedsAlong
    (hstep : ∀ state request, (supplyOf state).MayPass (supplyOf (step state request)))
    (state : σ) {requests : List ρ} (h : requests.length ≤ UInt64.size) :
    (seedsAlong supplyOf step state requests).Nodup := by
  obtain ⟨n, hn, hseeds⟩ := exists_seedsAlong_eq supplyOf step hstep requests state
  rw [hseeds]
  exact nodup_seeds (hn.trans h)

end along

end Supply

/-! ### Item sessions -/

namespace ItemState

variable {before after : ItemState}

/-- What the passes of a session draw from. -/
def supply (state : ItemState) : Supply := ⟨state.seed, state.passes⟩

theorem Rewritten.supply (h : before.Rewritten after) : after.supply = before.supply := by
  obtain ⟨_, _, _, _, _, rfl⟩ := h
  rfl

theorem Counted.supply (h : before.Counted after) : after.supply = before.supply := by
  obtain ⟨_, _, -, rfl⟩ := h
  rfl

end ItemState

namespace ItemDelivery

variable (item : ItemDelivery) {state : ItemState} {supply : Supply} {now : Timestamp}

/-- A new session has the seed that it is made with, and no pass was begun. -/
theorem supply_of_create {item : ItemDelivery} {templateDefaults : Store} {seed : UInt64}
    (h : item.create templateDefaults seed = .ok state) : state.supply = ⟨seed, 0⟩ := by
  unfold create at h
  dsimp only at h
  split at h
  next => cases h
  next =>
    split at h
    next =>
      cases h
      rfl
    next => cases h

/-- A pass draws from the stream of the next seed, and is counted when it begins. -/
theorem run_nextEnvironment (state : ItemState) :
    item.nextEnvironment.run.run state =
      (.ok (.ofSeed state.supply.next item.engine.options.level),
        { state with passes := state.passes + 1 }) := rfl

section supply

variable (hstate : state.supply = supply)

include hstate

omit item in
theorem supply_ofLogic {α : Type} {inner : Action ItemState LogicError α}
    (h : inner.Leaves state state.Rewritten) :
    (ItemAction.ofLogic inner).Leaves state (·.supply = supply) :=
  (ItemAction.leaves_ofLogic h).mono fun _ hleft => hleft.supply.trans hstate

omit item in
theorem supply_setCompletion (completion : Completion) :
    (ItemAction.setCompletion completion).Leaves state (·.supply = supply) :=
  supply_ofLogic hstate (ItemState.leaves_setAll_rewritten _ _)

theorem supply_touch : (item.touch now).Leaves state (·.supply = supply) :=
  (item.leaves_touch now).mono fun _ hleft => hleft.supply.trans hstate

theorem supply_resetResponses : item.resetResponses.Leaves state (·.supply = supply) := by
  rw [resetResponses, Leaves, ensures_bind, ensures_get]
  exact supply_ofLogic hstate (ItemState.leaves_setAll_rewritten _ _)

theorem supply_resetOutcomes : item.resetOutcomes.Leaves state (·.supply = supply) := by
  rw [resetOutcomes, Leaves, ensures_bind, ensures_get]
  exact supply_ofLogic hstate (ItemState.leaves_setAll_rewritten _ _)

theorem supply_enter : (item.enter now).Leaves state (·.supply = supply) := by
  refine item.leaves_check.read (fun _ => ?_) hstate
  rw [Leaves, ensures_bind, ensures_get]
  split
  next => exact hstate
  next =>
    have hentered : ({ state with
        status := .interacting, entryTime := some now, lastEvent := some now } :
          ItemState).supply = supply := hstate
    rw [ensures_bind, ensures_set, ensures_ite]
    exact ⟨fun _ => supply_setCompletion hentered _, fun _ => hentered⟩
  next => exact (item.supply_touch hstate).bind (fun _ _ hleft => hleft) fun _ hleft => hleft

theorem supply_suspend : (item.suspend now).Leaves state (·.supply = supply) := by
  refine item.leaves_check.read (fun _ => ?_) hstate
  refine leaves_requireInteracting.read (fun _ => ?_) hstate
  exact (item.supply_touch hstate).bind (fun _ _ hleft => hleft) fun _ hleft => hleft

theorem supply_close : (item.close now).Leaves state (·.supply = supply) := by
  refine (item.supply_touch hstate).bind ?_ fun _ hleft => hleft
  intro _ touched htouched
  rw [Leaves, ensures_bind, ensures_get]
  dsimp only
  rw [ensures_ite, ensures_bind]
  exact ⟨fun _ => supply_setCompletion htouched _, fun _ => htouched⟩

theorem supply_endSession : (item.endSession now).Leaves state (·.supply = supply) := by
  refine item.leaves_check.read (fun _ => ?_) hstate
  rw [Leaves, ensures_bind, ensures_get]
  dsimp only
  rw [ensures_ite, ensures_bind, ensures_throw]
  exact ⟨fun _ => hstate, fun _ => item.supply_close hstate⟩

theorem supply_nextEnvironment :
    item.nextEnvironment.Leaves state (·.supply = supply.after 1) := by
  refine item.leaves_nextEnvironment.mono ?_
  rintro _ rfl
  rw [← hstate]
  rfl

/-- Template processing is one pass, unless it is refused. -/
theorem supply_processTemplate :
    item.processTemplate.Leaves state fun left => supply.MayPass left.supply := by
  refine item.leaves_check.read (fun _ => ?_) (.inl hstate)
  rw [Leaves, ensures_bind, ensures_get]
  dsimp only
  rw [ensures_ite, ensures_bind, ensures_throw]
  refine ⟨fun _ => .inl hstate, fun _ => ?_⟩
  rw [ensures_ite, ensures_bind, ensures_throw]
  refine ⟨fun _ => .inl hstate, fun _ => ?_⟩
  refine (item.supply_nextEnvironment hstate).bind ?_ fun _ h => .inr h
  intro environment begun hbegun
  refine (supply_ofLogic hbegun (ItemState.leaves_restartTemplates _)).bind ?_ fun _ h => .inr h
  intro _ restarted hrestarted
  refine (supply_ofLogic hrestarted (ItemState.leaves_executeTemplate _ _ _ _)).bind ?_
    fun _ h => .inr h
  intro _ ran hran
  refine (item.supply_resetResponses hran).bind ?_ fun _ h => .inr h
  intro _ reset hreset
  refine (item.supply_resetOutcomes hreset).bind ?_ fun _ h => .inr h
  exact fun _ _ hleft => .inr hleft

/-- Scoring is one pass, unless it is refused. -/
theorem supply_processResponse (maxAttempts : UInt32) :
    (item.processResponse maxAttempts now).Leaves state fun left =>
      supply.MayPass left.supply := by
  refine item.leaves_check.read (fun _ => ?_) (.inl hstate)
  refine leaves_requireInteracting.read (fun _ => ?_) (.inl hstate)
  extract_lets stage rules score
  -- The pass is counted before the rules are run, so that it stays counted where they fail.
  have hscore : ∀ u (start : ItemState), start.supply = supply →
      (score u).Leaves start (·.supply = supply.after 1) := by
    intro _ start hstart
    simp only [score]
    refine (item.supply_nextEnvironment hstart).bind ?_ fun _ h => h
    intro environment begun hbegun
    refine (supply_ofLogic hbegun (ItemState.leaves_execute _ _ _ _)).bind ?_ fun _ h => h
    intro _ ran hran
    rw [Leaves, ensures_bind, ensures_modify]
    generalize hscored : { ran with responseProcessed := true, pending := false } = scored
    replace hscored : scored.supply = supply.after 1 := hscored ▸ hran
    rw [ensures_ite]
    refine ⟨fun _ => ?_, fun _ => ?_⟩
    · rw [ensures_bind, ensures_get, ensures_ite]
      refine ⟨fun _ => ?_, fun _ => hscored⟩
      exact (item.supply_close hscored).bind (fun _ _ hleft => hleft) fun _ hleft => hleft
    · refine (supply_setCompletion hscored _).bind ?_ fun _ h => h
      intro _ completed hcompleted
      rw [Leaves, ensures_bind, ensures_get, ensures_ite]
      refine ⟨fun _ => ?_, fun _ => hcompleted⟩
      exact (item.supply_close hcompleted).bind (fun _ _ hleft => hleft) fun _ hleft => hleft
  rw [Leaves, ensures_ite]
  refine ⟨fun _ => ?_, fun _ => (hscore () state hstate).mono fun _ h => .inr h⟩
  refine (item.supply_resetOutcomes hstate).bind ?_ fun _ h => .inl h
  exact fun _ start hstart => (hscore () start hstart).mono fun _ h => .inr h

/-- An attempt is at most one pass, which is that of its scoring. -/
theorem supply_attempt (responses : SortedMap Identifier ResponseData)
    (policy : SubmissionPolicy) :
    (item.attempt responses now policy).Leaves state fun left => supply.MayPass left.supply := by
  refine item.leaves_check.read (fun _ => ?_) (.inl hstate)
  refine leaves_requireInteracting.read (fun _ => ?_) (.inl hstate)
  rw [Leaves, ensures_bind, ensures_get]
  dsimp only
  rw [ensures_ite, ensures_bind, ensures_throw]
  refine ⟨fun _ => .inl hstate, fun _ => ?_⟩
  rw [ensures_ite, ensures_bind, ensures_throw]
  refine ⟨fun _ => .inl hstate, fun _ => ?_⟩
  cases item.bindResponses responses policy.validateResponses with
  | error invalid => exact .inl hstate
  | ok bound =>
    -- All that is done before scoring leaves the supply as it is.
    refine (item.supply_touch hstate).bind ?_ fun _ h => .inl h
    intro _ touched htouched
    refine (supply_ofLogic htouched (ItemState.leaves_setAll_rewritten _ _)).bind ?_
      fun _ h => .inl h
    intro _ bound hbound
    rw [Leaves, ensures_bind, ensures_get]
    refine Leaves.bind (supply_ofLogic hbound (ItemState.leaves_setAll_rewritten _ _)) ?_
      fun _ h => .inl h
    intro _ counted hcounted
    rw [Leaves, ensures_bind, ensures_modify, ensures_ite]
    generalize hresponded : { counted with responded := true, responseProcessed := false } =
      responded
    replace hresponded : responded.supply = supply := hresponded ▸ hcounted
    exact ⟨fun _ => .inl hresponded, fun _ => item.supply_processResponse hresponded _⟩

end supply

/-- No request changes the seed of a session or begins more than one pass, however it is
answered. -/
theorem leaves_serve_supply (request : ItemRequest) :
    (item.serve request).Leaves state fun left => state.supply.MayPass left.supply := by
  cases request with
  | touch now => exact (item.supply_touch rfl).mono fun _ h => .inl h
  | enter now => exact (item.supply_enter rfl).mono fun _ h => .inl h
  | suspend now => exact (item.supply_suspend rfl).mono fun _ h => .inl h
  | endSession now => exact (item.supply_endSession rfl).mono fun _ h => .inl h
  | processTemplate => exact (leaves_map _).2 (item.supply_processTemplate rfl)
  | attempt responses now policy =>
    exact (leaves_map _).2 (item.supply_attempt rfl responses policy)
  | processResponse maxAttempts now =>
    exact (leaves_map _).2 (item.supply_processResponse rfl maxAttempts)

/-- The seeds of the passes that requests to an item session begin, however they are answered. -/
def passSeeds (item : ItemDelivery) (state : ItemState) (requests : List ItemRequest) :
    List UInt64 :=
  Supply.seedsAlong ItemState.supply (fun state request => ((item.serve request).run.run state).2)
    state requests

/-- No two passes of an item session have one seed. -/
theorem nodup_passSeeds (state : ItemState) {requests : List ItemRequest}
    (h : requests.length ≤ UInt64.size) : (item.passSeeds state requests).Nodup :=
  Supply.nodup_seedsAlong ItemState.supply _
    (fun _ request => (item.leaves_serve_supply request).left) state h

end ItemDelivery

end Assessment
