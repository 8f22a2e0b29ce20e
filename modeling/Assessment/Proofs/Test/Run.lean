import Assessment.Proofs.Test.Phase

/-!
# Runs of requests

A run of a test session lists the requests that were made to it, each with the session before and
the session after it, whether the request was served or refused. What holds of whole runs, such as
the order in which parts and items come up, is said of these lists.

A request that is refused does not move a session on: time may have been counted, and clocks may
have been stopped, but where the session stands in the test stays as it was.

## Main definitions

- `TestCall`: a request with the sessions before and after it.
- `TestDelivery.Run`: requests that follow each other.
- `TestDelivery.makeAll` and `TestDelivery.runFrom`: the run that requests in turn make.
- `TestDelivery.Stalls`: what a refused request leaves.

## Main results

- `TestDelivery.Makes.served_or_stalls`: refused requests do not move a session on.
- `TestDelivery.Reachable.exists_run`: every session is the last of a run from a new one.
-/

namespace Assessment

open Action

/-- A request that was made to a test session. -/
structure TestCall where
  /-- The session before. -/
  before : TestState
  /-- The request. -/
  request : TestRequest
  /-- Whether it was served. -/
  served : Bool
  /-- The session after. -/
  after : TestState

namespace TestDelivery

/-- A call is what the test makes of its request, which did not fail with a logic error. -/
def Makes (delivery : TestDelivery) (call : TestCall) : Prop :=
  if call.served then
    (delivery.serve call.request).run.run call.before = (.ok (), call.after)
  else
    ∃ error, (delivery.serve call.request).run.run call.before = (.error error, call.after) ∧
      error.isLogic = false

/-- Calls that follow each other, from a first session to a last. -/
inductive Run (delivery : TestDelivery) : TestState → List TestCall → TestState → Prop where
  /-- No request was made. -/
  | nil {state : TestState} : Run delivery state [] state
  /-- A first request was made, and then others. -/
  | cons {call : TestCall} {calls : List TestCall} {left : TestState} :
      delivery.Makes call → Run delivery call.after calls left →
      Run delivery call.before (call :: calls) left

variable {delivery : TestDelivery} {state left : TestState} {seed : UInt64} {call : TestCall}
  {calls more : List TestCall}

theorem Run.append {between : TestState} (h : delivery.Run state calls between)
    (hmore : delivery.Run between more left) : delivery.Run state (calls ++ more) left := by
  induction h with
  | nil => exact hmore
  | cons hmakes _ ih => exact .cons hmakes (ih hmore)

theorem Makes.reachable (h : delivery.Makes call) (hbefore : delivery.Reachable seed call.before) :
    delivery.Reachable seed call.after := by
  unfold Makes at h
  split at h
  next => exact hbefore.served _ h
  next =>
    obtain ⟨error, hrun, herror⟩ := h
    exact hbefore.refused _ hrun herror

/-- What serving a request ensures, a call with that request comes to. No call fails with a logic
error. -/
theorem Makes.of_ensures {done failed : TestState → Prop} (h : delivery.Makes call)
    (hserve : (delivery.serve call.request).Ensures call.before (fun _ left => done left)
      fun error left => error.isLogic ∨ failed left) :
    (call.served = true ∧ done call.after) ∨ (call.served = false ∧ failed call.after) := by
  unfold Makes at h
  split at h
  next hserved => exact .inl ⟨hserved, hserve.ok h⟩
  next hserved =>
    obtain ⟨error, hrun, herror⟩ := h
    refine .inr ⟨Bool.eq_false_iff.2 hserved, (hserve.error hrun).resolve_left ?_⟩
    rw [herror]
    exact Bool.false_ne_true

theorem Run.reachable (h : delivery.Run state calls left)
    (hstate : delivery.Reachable seed state) : delivery.Reachable seed left := by
  induction h with
  | nil => exact hstate
  | cons hmakes _ ih => exact ih (hmakes.reachable hstate)

/-- Every call of a run is one to a session that requests lead to. -/
theorem Run.makes_of_mem (h : delivery.Run state calls left)
    (hstate : delivery.Reachable seed state) (hcall : call ∈ calls) :
    delivery.Makes call ∧ delivery.Reachable seed call.before := by
  induction h with
  | nil => cases hcall
  | cons hmakes _ ih =>
    obtain rfl | hcall := List.mem_cons.1 hcall
    · exact ⟨hmakes, hstate⟩
    · exact ih (hmakes.reachable hstate) hcall

/-- Every session is the last of a run from a new one. -/
theorem Reachable.exists_run (h : delivery.Reachable seed state) :
    ∃ start calls, delivery.create seed = .ok start ∧ delivery.Run start calls state := by
  induction h with
  | @created start hstart => exact ⟨start, [], hstart, .nil⟩
  | @served before after request _ hrun ih =>
    obtain ⟨start, calls, hstart, hcalls⟩ := ih
    have hmakes : delivery.Makes ⟨before, request, true, after⟩ := hrun
    exact ⟨start, _, hstart, hcalls.append (.cons hmakes .nil)⟩
  | @refused before after error request _ hrun herror ih =>
    obtain ⟨start, calls, hstart, hcalls⟩ := ih
    have hmakes : delivery.Makes ⟨before, request, false, after⟩ := ⟨error, hrun, herror⟩
    exact ⟨start, _, hstart, hcalls.append (.cons hmakes .nil)⟩

/-- What one call keeps, a run keeps. -/
theorem Run.keeps {holds : TestState → Prop} (h : delivery.Run state calls left)
    (hcalls : ∀ call ∈ calls, delivery.Makes call → holds call.before → holds call.after)
    (hstate : holds state) : holds left := by
  induction h with
  | nil => exact hstate
  | cons hmakes _ ih =>
    have hafter := hcalls _ List.mem_cons_self hmakes hstate
    exact ih (fun call hcall => hcalls call (List.mem_cons_of_mem _ hcall)) hafter

/-- Make requests in turn, to a last session; none if one of them fails with a logic error. -/
def makeAll (delivery : TestDelivery) :
    TestState → List TestRequest → Option (List TestCall × TestState)
  | state, [] => some ([], state)
  | state, request :: rest =>
    match (delivery.serve request).run.run state with
    | (.ok (), after) =>
      (makeAll delivery after rest).map fun (calls, left) =>
        (⟨state, request, true, after⟩ :: calls, left)
    | (.error error, after) =>
      if error.isLogic then none
      else
        (makeAll delivery after rest).map fun (calls, left) =>
          (⟨state, request, false, after⟩ :: calls, left)

/-- Requests that are made in turn make a run. -/
theorem run_of_makeAll {requests : List TestRequest}
    (h : delivery.makeAll state requests = some (calls, left)) : delivery.Run state calls left := by
  induction requests generalizing state calls with
  | nil =>
    cases h
    exact .nil
  | cons request rest ih =>
    rw [makeAll] at h
    split at h
    next after hrun =>
      obtain ⟨⟨later, _⟩, hlater, ⟨⟩⟩ := Option.map_eq_some_iff.1 h
      have hmakes : delivery.Makes ⟨state, request, true, after⟩ := hrun
      exact .cons hmakes (ih hlater)
    next error after hrun =>
      split at h
      next => cases h
      next herror =>
        obtain ⟨⟨later, _⟩, hlater, ⟨⟩⟩ := Option.map_eq_some_iff.1 h
        have hmakes : delivery.Makes ⟨state, request, false, after⟩ :=
          ⟨error, hrun, Bool.eq_false_iff.2 herror⟩
        exact .cons hmakes (ih hlater)

/-- The run that requests make from a new session, with its first and its last session. -/
def runFrom (delivery : TestDelivery) (seed : UInt64) (requests : List TestRequest) :
    Option (TestState × List TestCall × TestState) :=
  match delivery.create seed with
  | .error _ => none
  | .ok start => (delivery.makeAll start requests).map (start, ·)

theorem run_of_runFrom {start : TestState} {requests : List TestRequest}
    (h : delivery.runFrom seed requests = some (start, calls, left)) :
    delivery.create seed = .ok start ∧ delivery.Run start calls left := by
  unfold runFrom at h
  split at h
  next => cases h
  next hstart =>
    obtain ⟨_, hcalls, ⟨⟩⟩ := Option.map_eq_some_iff.1 h
    exact ⟨hstart, run_of_makeAll hcalls⟩

/-! ### Requests that are refused -/

/-- A session stands where another one stands in the test: time may have been counted, and clocks
may have been stopped. -/
def Stalls (delivery : TestDelivery) (state left : TestState) : Prop :=
  ∃ now indices outcomes items lastEvent, left = { state with outcomes, items, lastEvent } ∧
    Sweep delivery state.plan (ItemDelivery.Suspends now) indices state.items items

theorem Stalls.refl (state : TestState) : delivery.Stalls state state :=
  ⟨.logical 0, [], state.outcomes, state.items, state.lastEvent, rfl, .nil⟩

/-- Requests that are refused do not move a session on, where the items of parts that are still to
come were prepared if they are closed. -/
theorem ensures_serve_stalls
    (hclosed : ∀ entry ∈ state.parts, entry.status = .notEntered →
      ∀ index ∈ state.plan.itemsUnder entry.node, ∀ place session,
        state.plan.place index = .ok place → state.items.get? place.ref = some session →
        session.status = .closed → session.templateProcessed = true)
    (request : TestRequest) :
    (delivery.serve request).Ensures state (fun _ _ => True) fun error left =>
      error.isLogic ∨ delivery.Stalls state left := by
  have hsame : ∀ {error : TestError} {left : TestState}, error.isLogic ∨ left = state →
      error.isLogic ∨ delivery.Stalls state left := by
    rintro error left (herror | rfl)
    · exact .inl herror
    · exact .inr (.refl left)
  cases request with
  | enterTest now =>
    rw [serve, ensures_map]
    exact delivery.ensures_enterTest.mono (fun _ _ _ => trivial) fun _ _ => hsame
  | enterPart now =>
    rw [serve, ensures_map]
    exact (delivery.ensures_enterPart hclosed).mono (fun _ _ _ => trivial) fun _ _ => hsame
  | select now ref =>
    rw [serve, ensures_map]
    exact (delivery.ensures_select ref).mono (fun _ _ _ => trivial) fun _ _ => hsame
  | advance now =>
    rw [serve, ensures_map]
    refine delivery.ensures_advance.mono (fun _ _ _ => trivial) ?_
    rintro error left (herror | ⟨rfl, -⟩ | ⟨_, -, -, hrun⟩)
    · exact .inl herror
    · exact .inr (.refl left)
    · obtain ⟨outcomes, items, hleft, hsuspend⟩ := delivery.ensures_leave.ok hrun
      exact .inr ⟨now, _, outcomes, items, some now, hleft, hsuspend⟩
  | respond now responses =>
    rw [serve, ensures_map]
    exact (delivery.ensures_respond responses).mono (fun _ _ _ => trivial) fun _ _ => hsame
  | endPart now =>
    rw [serve, ensures_map]
    exact delivery.ensures_endPart.mono (fun _ _ _ => trivial) fun _ _ => hsame
  | exit now =>
    rw [serve, ensures_map]
    exact delivery.ensures_exit.mono (fun _ _ _ => trivial) fun _ _ => hsame

/-- A call was served, or its request was refused and did not move the session on. -/
theorem Makes.served_or_stalls (h : delivery.Makes call)
    (hclosed : ∀ entry ∈ call.before.parts, entry.status = .notEntered →
      ∀ index ∈ call.before.plan.itemsUnder entry.node, ∀ place session,
        call.before.plan.place index = .ok place → call.before.items.get? place.ref = some session →
        session.status = .closed → session.templateProcessed = true) :
    (call.served = true ∧
        (delivery.serve call.request).run.run call.before = (.ok (), call.after)) ∨
      (call.served = false ∧ delivery.Stalls call.before call.after) := by
  unfold Makes at h
  split at h
  next hserved => exact .inl ⟨hserved, h⟩
  next hserved =>
    obtain ⟨error, hrun, herror⟩ := h
    have hlogic : ¬error.isLogic = true := by simp [herror]
    have hstalls := (ensures_serve_stalls hclosed call.request).error hrun
    exact .inr ⟨by simpa using hserved, hstalls.resolve_left hlogic⟩

end TestDelivery

end Assessment
