import Mathlib.Algebra.Group.Nat.Defs
import Assessment.Proofs.Item.Maintained
import Assessment.Proofs.Item.Typing

/-!
# The number of attempts

The number of attempts goes up by one with each accepted attempt, and stays as it is with everything
else. An item that is not adaptive is closed by the attempt that reaches the limit, or when its
session is ended.

## Main definitions

- `ItemCall` and `ItemDelivery.Run`: requests that follow each other, each with whether it was
  served.
- `ItemCall.acceptedAttempts`: how many attempts of a run were accepted.

## Main results

- `ItemDelivery.ensures_serve_numAttempts`: what one request does to the number of attempts.
- `ItemDelivery.ensures_serve_limited`: when a request closes a session whose attempts are limited.
- `ItemDelivery.attempts_exact`: the number of attempts is the number of those accepted, and the
  limit holds.
-/

namespace Assessment

open Action

/-- No response variable that an item declares has the name of a built-in one. -/
theorem ItemDefinition.WellNamed.not_mem_responses {definition : ItemDefinition}
    (h : definition.WellNamed) (builtIn : BuiltIn) :
    builtIn.identifier ∉ definition.responses.map (·.identifier) := by
  intro hmem
  obtain ⟨d, hd, hname⟩ := List.mem_map.1 hmem
  cases h.eq_of_identifier (mem_allVariables_response.2 hd) (mem_allVariables_builtIn builtIn) hname

namespace ItemState

variable {before after : ItemState}

theorem Counted.numAttempts (h : before.Counted after) :
    after.numAttempts = before.numAttempts := by
  obtain ⟨responses, lastEvent, hresponses, rfl⟩ := h
  exact hresponses.values _ (by decide +kernel)

theorem Presents.numAttempts (h : before.Presents after) :
    after.numAttempts = before.numAttempts := by
  obtain ⟨responses, _, _, _, hresponses, -, rfl⟩ := h
  exact hresponses.values _ (by decide +kernel)

end ItemState

/-! ### Any request -/

namespace ItemRequest

/-- Whether a request is an attempt. -/
def isAttempt : ItemRequest → Bool
  | .attempt _ _ _ => true
  | _ => false

/-- Whether a request is to end the session. -/
def isEnd : ItemRequest → Bool
  | .endSession _ => true
  | _ => false

/-- A request goes by a limit of attempts: an attempt is scored at once, and whatever is scored is
scored with this limit. -/
def KeepsLimit (limit : UInt32) : ItemRequest → Prop
  | .attempt _ _ policy => policy.maxAttempts = limit ∧ policy.deferred = false
  | .processResponse maxAttempts _ => maxAttempts = limit
  | _ => True

instance (limit : UInt32) : DecidablePred (KeepsLimit limit) := fun
  | .attempt _ _ policy =>
    inferInstanceAs (Decidable (policy.maxAttempts = limit ∧ policy.deferred = false))
  | .processResponse maxAttempts _ => inferInstanceAs (Decidable (maxAttempts = limit))
  | .processTemplate | .enter _ | .touch _ | .suspend _ | .endSession _ => .isTrue trivial

end ItemRequest

namespace ItemState

/-- A session is over if the limit of attempts was reached or if it was ended, and only then. -/
def Limited (limit : UInt32) (ended : Prop) (state : ItemState) : Prop :=
  state.status = .closed ↔ (limit.toNat : Int) ≤ state.attempts.toInt ∨ ended

variable {before after : ItemState} {limit : UInt32} {ended : Prop}

/-- A session that is not over has attempts left, and was not ended. -/
theorem Limited.not_reached (h : before.Limited limit ended) (hopen : before.status ≠ .closed) :
    ¬(limit.toNat : Int) ≤ before.attempts.toInt ∧ ¬ended :=
  not_or.1 (mt h.2 hopen)

/-- What changes neither the status nor the number of attempts leaves it so. -/
theorem Limited.congr (h : before.Limited limit ended)
    (hstatus : after.progress.status = before.progress.status)
    (hnumber : after.numAttempts = before.numAttempts) : after.Limited limit ended := by
  have hsame : after.status = before.status := hstatus
  rw [Limited, attempts_congr hnumber, hsame]
  exact h

/-- Scoring a session that is under way leaves it so, if it goes by the limit. -/
theorem Limited.of_scored (h : before.Limited limit ended) (hlimit : 0 < limit.toNat)
    (hstatus : before.status = .interacting)
    (hclosed : after.status = .closed ↔
      0 < limit.toNat ∧ (limit.toNat : Int) ≤ after.attempts.toInt) :
    after.Limited limit ended := by
  have hopen : before.status ≠ .closed := by
    rw [hstatus]
    decide
  rw [Limited, hclosed]
  simp [hlimit, (h.not_reached hopen).2]

end ItemState

namespace ItemDelivery

open ItemState ItemAction

variable {item : ItemDelivery} {state : ItemState}

section free

variable (hfree : BuiltIn.numAttempts.identifier ∉ item.definition.responses.map (·.identifier))

include hfree

/-- A request that is served counts one attempt if it is one, which is then made while the session
is under way, and none otherwise. A request that is refused changes nothing. -/
theorem ensures_serve_numAttempts (request : ItemRequest) :
    (item.serve request).Ensures state
      (fun _ left =>
        if request.isAttempt then
          state.status = .interacting ∧ left.responded = true ∧
            left.numAttempts = some (.integer (Word.succSaturating state.attempts))
        else left.numAttempts = state.numAttempts ∧ left.responded = state.responded)
      fun error left => error.isLogic ∨ left = state := by
  cases request with
  | processTemplate =>
    rw [serve, ensures_map]
    refine (item.ensures_processTemplate.and item.sustained_processTemplate).mono ?_ ?_
    · rintro _ _ ⟨⟨-, -, hprogress⟩, hkept⟩
      exact ⟨hkept.numAttempts hfree, congrArg ItemProgress.responded hprogress⟩
    · exact fun _ _ herror => herror.1.imp_right And.right
  | enter now =>
    refine ((item.ensures_enter now).and (ensures_run _ _)).mono ?_ ?_
    · rintro _ _ ⟨⟨-, hprogress⟩, hrun⟩
      exact ⟨(Enters.presents hrun).numAttempts, congrArg ItemProgress.responded hprogress⟩
    · exact fun _ _ herror => herror.1.imp_right And.right
  | touch now =>
    refine ((item.ensures_touch now).and (item.leaves_touch now)).mono ?_ ?_
    · rintro _ _ ⟨hprogress, hcounted⟩
      exact ⟨hcounted.numAttempts, congrArg ItemProgress.responded hprogress⟩
    · exact fun _ _ herror => .inl herror.1
  | suspend now =>
    refine ((item.ensures_suspend now).and (ensures_run _ _)).mono ?_ ?_
    · rintro _ left ⟨⟨hstatus, hprogress⟩, hrun⟩
      have hsuspends : Suspends now item state left := (if_pos hstatus).mpr hrun
      exact ⟨hsuspends.counted.numAttempts, congrArg ItemProgress.responded hprogress⟩
    · exact fun _ _ herror => herror.1.imp_right And.right
  | attempt responses now policy =>
    rw [serve, ensures_map]
    refine ((item.ensures_attempt responses now policy).and
      (item.ensures_attempt_counts responses now policy)).mono ?_ ?_
    · rintro _ left ⟨⟨hstatus, -, hprogress⟩, -, hcounts⟩
      refine ⟨hstatus, ?_, (hcounts hfree).1⟩
      split at hprogress
      · exact congrArg ItemProgress.responded hprogress
      · obtain ⟨_, -, hprogress⟩ := hprogress
        exact congrArg ItemProgress.responded hprogress
    · exact fun _ _ herror => herror.1.imp_right And.right
  | processResponse maxAttempts now =>
    rw [serve, ensures_map]
    refine ((item.ensures_processResponse maxAttempts now).and
      (item.ensures_processResponse_sustains maxAttempts now)).mono ?_ ?_
    · rintro _ _ ⟨⟨-, _, -, hprogress⟩, hkept, -⟩
      exact ⟨hkept.numAttempts List.not_mem_nil, congrArg ItemProgress.responded hprogress⟩
    · exact fun _ _ herror => herror.1.imp_right And.right
  | endSession now =>
    refine ((item.ensures_endSession now).and (item.sustained_endSession [] now)).mono ?_ ?_
    · rintro _ _ ⟨⟨-, hprogress⟩, hkept⟩
      exact ⟨hkept.numAttempts List.not_mem_nil, congrArg ItemProgress.responded hprogress⟩
    · exact fun _ _ herror => herror.1.imp_right And.right

/-- Requests that go by a limit close the session of an item that is not adaptive when the limit is
reached, or when they end it. -/
theorem ensures_serve_limited (hadaptive : item.definition.adaptive = false) {limit : UInt32}
    (hlimit : 0 < limit.toNat) {ended : Prop} (hstate : state.Limited limit ended)
    {request : ItemRequest} (hrequest : request.KeepsLimit limit) :
    (item.serve request).Ensures state
      (fun _ left => left.Limited limit (ended ∨ request.isEnd = true)) fun _ _ => True := by
  -- Of the requests that are served while the session is open, scoring and the end may close it.
  cases request with
  | processTemplate =>
    rw [serve, ensures_map]
    refine (item.ensures_processTemplate.and item.sustained_processTemplate).mono ?_
      fun _ _ _ => trivial
    rintro _ left ⟨⟨-, -, hprogress⟩, hkept⟩
    simpa [ItemRequest.isEnd] using hstate.congr (by rw [hprogress]) (hkept.numAttempts hfree)
  | enter now =>
    refine ((item.ensures_enter now).and (ensures_run _ _)).mono ?_ fun _ _ _ => trivial
    rintro _ left ⟨⟨hnotClosed, hprogress⟩, hrun⟩
    have hstatus : left.status = .interacting := congrArg ItemProgress.status hprogress
    obtain ⟨hbelow, hended⟩ := hstate.not_reached hnotClosed
    rw [Limited, attempts_congr (Enters.presents hrun).numAttempts, hstatus]
    simpa [ItemRequest.isEnd, hended] using hbelow
  | touch now =>
    refine ((item.ensures_touch now).and (item.leaves_touch now)).mono ?_ fun _ _ _ => trivial
    rintro _ left ⟨hprogress, hcounted⟩
    simpa [ItemRequest.isEnd] using hstate.congr (by rw [hprogress]) hcounted.numAttempts
  | suspend now =>
    refine ((item.ensures_suspend now).and (ensures_run _ _)).mono ?_ fun _ _ _ => trivial
    rintro _ left ⟨⟨hstatus, hprogress⟩, hrun⟩
    have hsuspends : Suspends now item state left := (if_pos hstatus).mpr hrun
    simpa [ItemRequest.isEnd] using
      hstate.congr (by rw [hprogress]) hsuspends.counted.numAttempts
  | attempt responses now policy =>
    obtain ⟨rfl, himmediate⟩ := hrequest
    rw [serve, ensures_map]
    refine ((item.ensures_attempt responses now policy).and
      (item.ensures_attempt_counts responses now policy)).mono ?_ fun _ _ _ => trivial
    rintro _ left ⟨⟨hstatus, -⟩, -, hcounts⟩
    obtain ⟨hnumber, hclosed⟩ := hcounts hfree
    rw [← attempts_of_numAttempts hnumber] at hclosed
    simpa [ItemRequest.isEnd] using
      hstate.of_scored hlimit hstatus (hclosed himmediate hadaptive)
  | processResponse maxAttempts now =>
    obtain rfl := hrequest
    rw [serve, ensures_map]
    refine ((item.ensures_processResponse maxAttempts now).and
      (item.ensures_processResponse_sustains maxAttempts now)).mono ?_ fun _ _ _ => trivial
    rintro _ left ⟨⟨hstatus, -⟩, hkept, hclosed⟩
    rw [← attempts_congr (hkept.numAttempts List.not_mem_nil)] at hclosed
    simpa [ItemRequest.isEnd] using hstate.of_scored hlimit hstatus (hclosed hadaptive)
  | endSession now =>
    refine (item.ensures_endSession now).mono ?_ fun _ _ _ => trivial
    rintro _ left ⟨-, hprogress⟩
    have hstatus : left.status = .closed := congrArg ItemProgress.status hprogress
    rw [Limited, hstatus]
    simp [ItemRequest.isEnd]

end free

end ItemDelivery

/-! ### Requests in turn -/

/-- A request that was made to an item session. -/
structure ItemCall where
  /-- The request. -/
  request : ItemRequest
  /-- Whether it was served. -/
  served : Bool

namespace ItemCall

/-- Whether a call is an attempt that was accepted. -/
def isAcceptedAttempt (call : ItemCall) : Bool := call.served && call.request.isAttempt

/-- How many attempts of some calls were accepted. -/
def acceptedAttempts (calls : List ItemCall) : Nat := calls.countP isAcceptedAttempt

/-- Some of the calls ended the session. -/
def Ended (calls : List ItemCall) : Prop :=
  ∃ call ∈ calls, call.served = true ∧ call.request.isEnd = true

end ItemCall

namespace ItemDelivery

open ItemState ItemCall

/-- Calls that follow each other lead from a first session to a last. None of them failed with a
logic error. -/
inductive Run (item : ItemDelivery) (start : ItemState) : List ItemCall → ItemState → Prop where
  /-- No request was made. -/
  | nil : Run item start [] start
  /-- A last request was served. -/
  | served {calls : List ItemCall} {state left : ItemState} (request : ItemRequest) :
      Run item start calls state → (item.serve request).run.run state = (.ok (), left) →
      Run item start (calls ++ [⟨request, true⟩]) left
  /-- A last request was refused. -/
  | refused {calls : List ItemCall} {state left : ItemState} {error : ItemError}
      (request : ItemRequest) :
      Run item start calls state → (item.serve request).run.run state = (.error error, left) →
      error.isLogic = false → Run item start (calls ++ [⟨request, false⟩]) left

variable {item : ItemDelivery} {start left : ItemState} {calls : List ItemCall}

/-- The count goes up by one as long as it is a word. -/
theorem toInt_succSaturating {w : Int64} {n : Nat} (hw : w.toInt = n) (hn : n + 1 < 2 ^ 63) :
    (Word.succSaturating w).toInt = (n + 1 : Nat) := by
  unfold Word.succSaturating
  cases hnext : Word.narrow? (w.toInt + 1) with
  | none =>
    have hrange := Word.narrow?_eq_none_iff.1 hnext
    simp only [Word.least, Word.greatest, hw] at hrange
    omega
  | some next =>
    rw [Option.getD_some, Word.toInt_of_narrow? hnext, hw]
    rfl

/-- A new session counts no attempts. -/
theorem numAttempts_of_create {templateDefaults : Store} {seed : UInt64}
    (h : item.create templateDefaults seed = .ok start) :
    start.numAttempts = some (.integer 0) ∧ start.responded = false ∧
      start.status = .notEntered := by
  unfold create at h
  dsimp only at h
  split at h
  next => cases h
  next =>
    split at h
    next =>
      cases h
      refine ⟨?_, rfl, rfl⟩
      rw [numAttempts, SortedMap.get?_insert_of_ne _ (by decide +kernel),
        SortedMap.get?_insert_self]
      rfl
    next => cases h

/-- As long as the count is a word, it is the number of accepted attempts, and a response was given
if there is one. -/
theorem Run.counts (h : item.Run start calls left)
    (hfree : BuiltIn.numAttempts.identifier ∉ item.definition.responses.map (·.identifier))
    (hstart : start.numAttempts = some (.integer 0) ∧ start.responded = false) :
    (left.responded = true ↔ 0 < acceptedAttempts calls) ∧
      (acceptedAttempts calls < 2 ^ 63 → ∃ w : Int64, left.numAttempts = some (.integer w) ∧
        w.toInt = acceptedAttempts calls) := by
  induction h with
  | nil => exact ⟨by simp [hstart.2, acceptedAttempts], fun _ => ⟨0, hstart.1, rfl⟩⟩
  | @served calls state left request _ hrun ih =>
    have hstep := (ensures_serve_numAttempts hfree request).ok hrun
    by_cases hattempt : request.isAttempt = true
    · have hcount : acceptedAttempts (calls ++ [⟨request, true⟩]) = acceptedAttempts calls + 1 := by
        simp [acceptedAttempts, isAcceptedAttempt, hattempt]
      rw [if_pos hattempt] at hstep
      obtain ⟨-, hresponded, hnumber⟩ := hstep
      rw [hcount]
      refine ⟨by simp [hresponded], fun hfew => ?_⟩
      obtain ⟨w, hbefore, hw⟩ := ih.2 (by omega)
      rw [attempts_of_numAttempts hbefore] at hnumber
      exact ⟨_, hnumber, toInt_succSaturating hw hfew⟩
    · have hcount : acceptedAttempts (calls ++ [⟨request, true⟩]) = acceptedAttempts calls := by
        simp [acceptedAttempts, isAcceptedAttempt, hattempt]
      rw [if_neg hattempt] at hstep
      rw [hcount, hstep.1, hstep.2]
      exact ih
  | @refused calls state left error request _ hrun herror ih =>
    have hcount : acceptedAttempts (calls ++ [⟨request, false⟩]) = acceptedAttempts calls := by
      simp [acceptedAttempts, isAcceptedAttempt]
    obtain rfl := ((ensures_serve_numAttempts hfree request).error hrun).resolve_left
      (by simp [herror])
    rw [hcount]
    exact ih

/-- Where all requests go by one limit, no more attempts are accepted, and the session of an item
that is not adaptive is over when as many were, or when it was ended. -/
theorem Run.limited (h : item.Run start calls left)
    (hfree : BuiltIn.numAttempts.identifier ∉ item.definition.responses.map (·.identifier))
    (hstart : start.numAttempts = some (.integer 0) ∧ start.responded = false)
    (hnew : start.status = .notEntered) (hadaptive : item.definition.adaptive = false)
    {limit : UInt32} (hlimit : 0 < limit.toNat)
    (hcalls : ∀ call ∈ calls, call.request.KeepsLimit limit) :
    acceptedAttempts calls ≤ limit.toNat ∧ left.Limited limit (Ended calls) := by
  induction h with
  | nil =>
    refine ⟨by simp [acceptedAttempts], ?_⟩
    have hpositive : limit.toNat ≠ 0 := by omega
    rw [Limited, attempts_of_numAttempts hstart.1, hnew]
    simp [Ended, hpositive]
  | @served calls state left request hbefore hrun ih =>
    obtain ⟨hfew, hclosed⟩ := ih fun call hcall => hcalls call (List.mem_append_left _ hcall)
    have hkeeps : request.KeepsLimit limit := hcalls ⟨request, true⟩ (by simp)
    have hleft := (ensures_serve_limited hfree hadaptive hlimit hclosed hkeeps).ok hrun
    refine ⟨?_, by simpa [Limited, Ended, or_and_right, exists_or] using hleft⟩
    cases hattempt : request.isAttempt with
    | false => simpa [acceptedAttempts, isAcceptedAttempt, hattempt] using hfew
    | true =>
      -- An attempt is accepted only while the session is open, so that the limit was not reached.
      have hstep := (ensures_serve_numAttempts hfree request).ok hrun
      rw [if_pos hattempt] at hstep
      have hopen : ¬(limit.toNat : Int) ≤ state.attempts.toInt := fun hreached => by
        have hover := hclosed.2 (.inl hreached)
        rw [hstep.1] at hover
        cases hover
      have hword : acceptedAttempts calls < 2 ^ 63 := by
        have := limit.toNat_lt
        omega
      obtain ⟨w, hnumber, hw⟩ := (hbefore.counts hfree hstart).2 hword
      rw [attempts_of_numAttempts hnumber, hw] at hopen
      have hbelow : acceptedAttempts calls + 1 ≤ limit.toNat := by omega
      simpa [acceptedAttempts, isAcceptedAttempt, hattempt] using hbelow
  | @refused calls state left error request _ hrun herror ih =>
    obtain rfl := ((ensures_serve_numAttempts hfree request).error hrun).resolve_left
      (by simp [herror])
    have hbefore := ih fun call hcall => hcalls call (List.mem_append_left _ hcall)
    simpa [acceptedAttempts, isAcceptedAttempt, Ended, or_and_right, exists_or] using hbefore

/-- The number of attempts is the number of those that were accepted, as long as that is a word, and
a response was given exactly if there is one. Where an item is not adaptive, and all attempts are
scored at once with one limit, no more attempts are accepted, and the session is over exactly if as
many were or if it was ended. -/
theorem attempts_exact {templateDefaults : Store} {seed : UInt64}
    (hnames : item.definition.WellNamed)
    (hstart : item.create templateDefaults seed = .ok start) (h : item.Run start calls left) :
    (acceptedAttempts calls < 2 ^ 63 →
        ∃ w : Int64, left.responses.get? BuiltIn.numAttempts.identifier = some (.integer w) ∧
          w.toInt = acceptedAttempts calls) ∧
      (left.responded = true ↔ 0 < acceptedAttempts calls) ∧
      (item.definition.adaptive = false → ∀ limit : UInt32, 0 < limit →
        (∀ call ∈ calls, call.request.KeepsLimit limit) →
          acceptedAttempts calls ≤ limit.toNat ∧
            (left.status = .closed ↔ acceptedAttempts calls = limit.toNat ∨ Ended calls)) := by
  obtain ⟨hnumber, hresponded, hnew⟩ := numAttempts_of_create hstart
  have hfree := hnames.not_mem_responses .numAttempts
  have hcounts := h.counts hfree ⟨hnumber, hresponded⟩
  refine ⟨hcounts.2, hcounts.1, fun hadaptive limit hpositive hcalls => ?_⟩
  have hlimit : 0 < limit.toNat := UInt32.lt_iff_toNat_lt.1 hpositive
  obtain ⟨hfew, hclosed⟩ := h.limited hfree ⟨hnumber, hresponded⟩ hnew hadaptive hlimit hcalls
  obtain ⟨w, hleft, hw⟩ := hcounts.2 (by have := limit.toNat_lt; omega)
  refine ⟨hfew, ?_⟩
  rw [Limited, attempts_of_numAttempts hleft, hw] at hclosed
  rw [hclosed]
  have hreached : (limit.toNat : Int) ≤ acceptedAttempts calls ↔
      acceptedAttempts calls = limit.toNat := by omega
  rw [hreached]

/-- Make a request after some calls, unless it fails with a logic error. -/
def call (item : ItemDelivery) (made : List ItemCall × ItemState) (request : ItemRequest) :
    List ItemCall × ItemState :=
  match (item.serve request).run.run made.2 with
  | (.ok (), left) => (made.1 ++ [⟨request, true⟩], left)
  | (.error error, left) =>
    if error.isLogic then made else (made.1 ++ [⟨request, false⟩], left)

/-- Make requests in turn. -/
def callAll (item : ItemDelivery) (start : ItemState) (requests : List ItemRequest) :
    List ItemCall × ItemState :=
  requests.foldl item.call ([], start)

theorem run_foldl_call (requests : List ItemRequest) (made : List ItemCall × ItemState)
    (h : item.Run start made.1 made.2) :
    item.Run start (requests.foldl item.call made).1 (requests.foldl item.call made).2 := by
  induction requests generalizing made with
  | nil => exact h
  | cons request rest ih =>
    refine ih _ ?_
    unfold call
    split
    next left hrun => exact .served request h hrun
    next error left hrun =>
      split
      next => exact h
      next herror => exact .refused request h hrun (Bool.eq_false_iff.2 herror)

/-- Requests that are made in turn make a run. -/
theorem run_callAll (item : ItemDelivery) (start : ItemState) (requests : List ItemRequest) :
    item.Run start (item.callAll start requests).1 (item.callAll start requests).2 :=
  run_foldl_call requests ([], start) .nil

/-- Requests to the small item: of four attempts with a limit of two, one gives no number, and one
comes after the limit was reached. -/
def guessRequests : List ItemRequest :=
  let attempt (text : String) : ItemRequest :=
    .attempt (.ofList [(ItemDefinition.guessResponse, .strings [text])]) (.unixMillis 0)
      ⟨2, true, false⟩
  [.processTemplate, .enter (.logical 0), .suspend (.unixMillis 0), attempt "3", attempt "none",
    .touch (.unixMillis 0), attempt "4", attempt "5"]

/-- Two of the four attempts are accepted, the second of which closes the session. -/
theorem attempts_exact_guess :
    ∃ start calls left, ItemDelivery.guess.definition.WellNamed ∧
      ItemDelivery.guess.create .empty 7 = .ok start ∧ ItemDelivery.guess.Run start calls left ∧
      calls.length = 8 ∧ acceptedAttempts calls = 2 ∧
      (∀ call ∈ calls, call.request.KeepsLimit 2) ∧
      left.attempts.toInt = 2 ∧ left.responded = true ∧ left.status = .closed := by
  have hnames : ItemDelivery.guess.definition.WellNamed :=
    @ItemDefinition.wellNamed_of_validate .empty _ (by decide +kernel)
  have hcalls : (ItemDelivery.guess.create .empty 7).toOption.any (fun start =>
      let calls := (ItemDelivery.guess.callAll start guessRequests).1
      calls.length = 8 ∧ acceptedAttempts calls = 2 ∧
        ∀ call ∈ calls, call.request.KeepsLimit 2) = true := by
    decide +kernel
  cases hstart : ItemDelivery.guess.create .empty 7 with
  | error error =>
    rw [hstart] at hcalls
    cases hcalls
  | ok start =>
    simp only [hstart, Except.toOption, Option.any_some, decide_eq_true_eq] at hcalls
    obtain ⟨hlength, haccepted, hlimit⟩ := hcalls
    have hrun := run_callAll ItemDelivery.guess start guessRequests
    obtain ⟨hcount, hresponded, hclosed⟩ := attempts_exact hnames hstart hrun
    obtain ⟨w, hw, htwo⟩ := hcount (by rw [haccepted]; decide)
    refine ⟨start, _, _, hnames, rfl, hrun, hlength, haccepted, hlimit, ?_, ?_, ?_⟩
    · rw [attempts_of_numAttempts hw, htwo, haccepted]
      rfl
    · exact hresponded.2 (by rw [haccepted]; decide)
    · exact (hclosed rfl 2 (by decide) hlimit).2.2 (.inl haccepted)

end ItemDelivery

end Assessment
