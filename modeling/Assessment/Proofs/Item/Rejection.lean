import Assessment.Proofs.Item.Typing

/-!
# Requests to items that are refused

Whether an operation on an item session is refused is found out before the session is changed. Past
the first change, nothing is left to fail with but an error that tells of a broken session. A
refused operation has therefore no effect: a refused attempt binds nothing and is not counted.

An attempt is refused for its responses if one of them is for no response variable, or gives its
variable no value, or if one is missing where all have to be given. The refusal names every such
variable once, with the problem and with a notification that says the same. Those that were sent
stand in the order of their names; the missing ones follow as they are declared, so that the names
are not in order as a whole.

## Main definitions

- `ItemDelivery.refusal?`: why a request is refused, read off the session alone.
- `ItemDelivery.badResponses`: the responses that are refused or missing.
- `ItemDelivery.Offence`: what can be wrong with what is sent for a variable.
- `ItemDelivery.Reports`: a refusal says all that is wrong.

## Main results

- `ItemDelivery.run_serve_of_refusal?`: a request that is to be refused is refused, without effect.
- `ItemDelivery.isLogic_of_refusal?_eq_none`: any other request fails at most because the session is
  broken.
- `ItemDelivery.eq_of_refused`: no session is changed by a request that it refuses.
- `ItemDelivery.bindResponses_of_ne_nil`: what is told where responses cannot be bound.
- `ItemDelivery.reports_of_invalidResponse`: when attempts are refused for their responses, and what
  the refusals say.
-/

namespace Assessment

open Action

namespace ItemDelivery

variable {item : ItemDelivery} {state left : ItemState} {request : ItemRequest} {error : ItemError}

/-- Why a session refuses a request, if it does. -/
def refusal? (item : ItemDelivery) (state : ItemState) : ItemRequest → Option ItemError
  | .processTemplate =>
    if state.isClosed then some .closed
    else if state.templateProcessed then some .templateAlreadyProcessed
    else none
  | .enter _ | .endSession _ => if state.isClosed then some .closed else none
  | .touch _ => none
  | .suspend _ | .processResponse _ _ => state.refusal?
  | .attempt responses _ policy => item.attemptRefusal? responses policy state

/-! ### Sessions of other items -/

theorem run_check (item : ItemDelivery) (state : ItemState) :
    item.check.run.run state =
      if state.digest = item.digest then (.ok (), state)
      else (.error (.logic (.definitionMismatch item.digest.value state.digest.value)), state) := by
  change StateT.run (ExceptT.run (if state.digest = item.digest then pure () else throw _)) state =
    _
  split <;> rfl

/-- A session of another item is told by its digest, and nothing is done with it. -/
theorem run_serve_of_digest_ne (hdigest : state.digest ≠ item.digest) (request : ItemRequest) :
    (item.serve request).run.run state =
      (.error (.logic (.definitionMismatch item.digest.value state.digest.value)), state) := by
  have hcheck := item.run_check state
  rw [if_neg hdigest] at hcheck
  cases request with
  | processTemplate => rw [serve, run_map_eq_error, processTemplate, run_bind, hcheck]
  | enter now => rw [serve, enter, run_bind, hcheck]
  | touch now => rw [serve, touch, run_bind, hcheck]
  | suspend now => rw [serve, suspend, run_bind, hcheck]
  | attempt responses now policy => rw [serve, run_map_eq_error, attempt, run_bind, hcheck]
  | processResponse maxAttempts now =>
    rw [serve, run_map_eq_error, processResponse, run_bind, hcheck]
  | endSession now => rw [serve, endSession, run_bind, hcheck]

/-! ### Requests that are refused -/

theorem ensures_check_of_digest {done : Unit → ItemState → Prop}
    {failed : ItemError → ItemState → Prop} (hdigest : state.digest = item.digest) :
    item.check.Ensures state done failed ↔ done () state := by
  rw [Ensures, run_check, if_pos hdigest]

/-- A session that is not under way refuses what comes next. -/
theorem ensures_requireInteracting_bind {α : Type} {next : Unit → ItemAction α}
    {done : α → ItemState → Prop} {failed : ItemError → ItemState → Prop} :
    (requireInteracting >>= next).Ensures state done failed ↔
      match state.refusal? with
      | some error => failed error state
      | none => (next ()).Ensures state done failed := by
  rw [ensures_bind, requireInteracting, ensures_bind, ensures_get, ItemState.refusal?]
  cases state.status <;> simp

/-- An attempt that the session refuses is refused for that reason, and changes nothing. -/
theorem ensures_attempt_of_refusal? {responses : SortedMap Identifier ResponseData}
    {policy : SubmissionPolicy} (hdigest : state.digest = item.digest)
    (h : item.attemptRefusal? responses policy state = some error) (now : Timestamp) :
    (item.attempt responses now policy).Ensures state (fun _ _ => False) fun refused left =>
      refused = error ∧ left = state := by
  rw [attempt, ensures_bind, ensures_check_of_digest hdigest, ensures_requireInteracting_bind]
  rw [attemptRefusal?] at h
  cases hstatus : state.refusal? with
  | some reason => simpa [hstatus] using h
  | none =>
    -- The reasons are looked for in the order in which the attempt meets them.
    simp only [hstatus] at h ⊢
    by_cases hprocessed : state.templateProcessed = true
    · by_cases hallowed : item.isAttemptAllowed state policy.maxAttempts = true
      · cases hbound : item.bindResponses responses policy.validateResponses with
        | ok bound => simp [hprocessed, hallowed, hbound] at h
        | error invalid =>
          obtain rfl : .invalidResponse invalid = error := by
            simpa [hprocessed, hallowed, hbound] using h
          simp [ensures_ite, hprocessed, hallowed]
      · obtain rfl : .attemptsExhausted policy.maxAttempts = error := by
          simpa [hprocessed, hallowed] using h
        simp [ensures_ite, hprocessed, hallowed]
    · obtain rfl : .templateNotProcessed = error := by simpa [hprocessed] using h
      simp [ensures_ite, hprocessed]

/-- A request that the session refuses is refused for that reason, and changes nothing. -/
theorem run_serve_of_refusal? (hdigest : state.digest = item.digest)
    (h : item.refusal? state request = some error) :
    (item.serve request).run.run state = (.error error, state) := by
  have hrefused : (item.serve request).Ensures state (fun _ _ => False) fun refused left =>
      refused = error ∧ left = state := by
    cases request with
    | processTemplate =>
      rw [serve, ensures_map, processTemplate, ensures_bind, ensures_check_of_digest hdigest]
      rw [refusal?] at h
      by_cases hclosed : state.isClosed = true
      · obtain rfl : .closed = error := by simpa [hclosed] using h
        simp [ensures_ite, hclosed]
      · by_cases hprocessed : state.templateProcessed = true
        · obtain rfl : .templateAlreadyProcessed = error := by
            simpa [hclosed, hprocessed] using h
          simp [ensures_ite, hclosed, hprocessed]
        · simp [hclosed, hprocessed] at h
    | enter now =>
      obtain ⟨hclosed, rfl⟩ : state.status = .closed ∧ .closed = error := by
        simpa [refusal?, ItemState.isClosed] using h
      simp [serve, enter, ensures_check_of_digest hdigest, hclosed]
    | touch now => cases h
    | suspend now =>
      rw [serve, suspend, ensures_bind, ensures_check_of_digest hdigest,
        ensures_requireInteracting_bind]
      rw [refusal?] at h
      simp [h]
    | attempt responses now policy =>
      rw [serve, ensures_map]
      exact ensures_attempt_of_refusal? hdigest h now
    | processResponse maxAttempts now =>
      rw [serve, ensures_map, processResponse, ensures_bind, ensures_check_of_digest hdigest,
        ensures_requireInteracting_bind]
      rw [refusal?] at h
      simp [h]
    | endSession now =>
      obtain ⟨hclosed, rfl⟩ : state.isClosed = true ∧ .closed = error := by simpa [refusal?] using h
      simp [serve, endSession, ensures_check_of_digest hdigest, ensures_ite, hclosed]
  rcases hrun : (item.serve request).run.run state with ⟨refused | done, left⟩
  · obtain ⟨rfl, rfl⟩ := hrefused.error hrun
    rfl
  · exact (hrefused.ok hrun).elim

/-- A request that the session does not refuse fails at most because the session is broken. -/
theorem isLogic_of_refusal?_eq_none (h : item.refusal? state request = none)
    (hrun : (item.serve request).run.run state = (.error error, left)) : error.isLogic = true := by
  have hinteracting : state.refusal? = none → state.status = .interacting := by
    unfold ItemState.refusal?
    cases state.status <;> simp
  cases request with
  | processTemplate =>
    refine (item.ensures_processTemplate.error (run_map_eq_error.1 hrun)).resolve_right ?_
    rintro ⟨hclosed | hprocessed, -⟩
    · simp [refusal?, ItemState.isClosed, hclosed] at h
    · by_cases hclosed : state.isClosed = true <;> simp [refusal?, hclosed, hprocessed] at h
  | enter now =>
    refine ((item.ensures_enter now).error hrun).resolve_right ?_
    rintro ⟨⟨-, hclosed⟩, -⟩
    simp [refusal?, ItemState.isClosed, hclosed] at h
  | touch now => exact (item.ensures_touch now).error hrun
  | suspend now =>
    exact ((item.ensures_suspend now).error hrun).resolve_right fun hidle =>
      hidle.1 (hinteracting h)
  | attempt responses now policy =>
    refine ((item.ensures_attempt _ _ _).error (run_map_eq_error.1 hrun)).resolve_right ?_
    rintro ⟨hrefused, -⟩
    exact Option.some_ne_none _ (hrefused.symm.trans h)
  | processResponse maxAttempts now =>
    exact ((item.ensures_processResponse _ _).error (run_map_eq_error.1 hrun)).resolve_right
      fun hidle => hidle.1 (hinteracting h)
  | endSession now =>
    refine ((item.ensures_endSession now).error hrun).resolve_right ?_
    rintro ⟨hclosed, -⟩
    simp [refusal?, ItemState.isClosed, hclosed] at h

/-- Operations on items are atomic. Where a request is refused, the session is left as it was, and
the reason is one that the session had from the beginning. -/
theorem eq_of_refused (hrun : (item.serve request).run.run state = (.error error, left))
    (herror : error.isLogic = false) :
    left = state ∧ item.refusal? state request = some error := by
  by_cases hdigest : state.digest = item.digest
  · cases hrefusal : item.refusal? state request with
    | none => simp [isLogic_of_refusal?_eq_none hrefusal hrun] at herror
    | some reason =>
      rw [run_serve_of_refusal? hdigest hrefusal] at hrun
      cases hrun
      exact ⟨rfl, rfl⟩
  · rw [run_serve_of_digest_ne hdigest] at hrun
    cases hrun
    cases herror

/-- A guess that is no number is refused, and leaves the session as it was. -/
theorem eq_of_refused_guess :
    ∃ request state left error, (ItemDelivery.guess.serve request).run.run state =
        (.error error, left) ∧
      error.isLogic = false ∧ error.kind = "InvalidResponse" ∧ left = state ∧
      ItemDelivery.guess.refusal? state request = some error := by
  have hrefused : (ItemDelivery.guess.sessionAfter .empty 7
      [.processTemplate, .enter (.logical 0)]).any (fun state =>
        match (ItemDelivery.guess.serve (.attempt
          (.ofList [(⟨"RESPONSE", by decide +kernel⟩, .strings ["none"])]) (.logical 1)
          ⟨1, true, false⟩)).run.run state with
        | (.error error, _) => !error.isLogic && error.kind = "InvalidResponse"
        | (.ok _, _) => false) = true := by
    decide +kernel
  obtain ⟨state, -, hstate⟩ := (Option.any_eq_true _ _).1 hrefused
  split at hstate
  next error left hrun =>
    rw [Bool.and_eq_true, Bool.not_eq_true', decide_eq_true_eq] at hstate
    exact ⟨_, state, left, error, hrun, hstate.1, hstate.2, eq_of_refused hrun hstate.1⟩
  next => cases hstate

end ItemDelivery

/-! ### Maps and logs -/

/-- What is listed is found. -/
theorem SortedMap.mem_toList_iff {κ α : Type} [Ord κ] [Std.TransOrd κ] [Std.LawfulEqOrd κ]
    {map : SortedMap κ α} {key : κ} {value : α} :
    (key, value) ∈ map.toList ↔ map.get? key = some value := by
  refine ⟨fun h => ?_, mem_toList_of_get?⟩
  obtain ⟨entries, hsorted⟩ := map
  change (key, value) ∈ entries at h
  change lookup key entries = some value
  induction entries with
  | nil => cases h
  | cons head rest ih =>
    obtain ⟨first, later⟩ := List.pairwise_cons.1 hsorted
    rcases List.mem_cons.1 h with rfl | h
    · exact if_pos Std.ReflCmp.compare_self
    · -- Keys increase, so that the first one is another.
      have hgt : compare key head.1 = .gt := Std.OrientedCmp.gt_of_lt (first _ h)
      rw [lookup, hgt]
      exact ih later h

/-- Errors are kept by every log. -/
theorem NotificationLog.foldl_record {α : Type} {note : α → Notification}
    (herror : ∀ a, (note a).level = .error) (members : List α) (log : NotificationLog) :
    members.foldl (fun log a => log.record (note a)) log =
      { log with entries := log.entries ++ members.map note } := by
  induction members generalizing log with
  | nil => simp
  | cons a rest ih =>
    have hkeeps : log.keeps (note a).level = true := by
      rw [herror]
      obtain ⟨level, entries⟩ := log
      cases level <;> rfl
    rw [List.foldl_cons, ih, record, if_pos hkeeps]
    simp

namespace ItemDelivery

variable {item : ItemDelivery} {responses : SortedMap Identifier ResponseData} {validate : Bool}

/-! ### What binding responses comes to -/

/-- The responses that are sent and cannot be bound, with the problems. -/
def refusedResponses (item : ItemDelivery) (responses : SortedMap Identifier ResponseData) :
    List (Identifier × ResponseProblem) :=
  (responses.toList.map fun entry => (entry.1, item.bindNamed entry.1 entry.2)).filterMap fun
    | (name, .error problem) => some (name, problem)
    | _ => none

/-- All responses that are refused or missing, with the problems. -/
def badResponses (item : ItemDelivery) (responses : SortedMap Identifier ResponseData)
    (validate : Bool) : List (Identifier × ResponseProblem) :=
  item.refusedResponses responses ++ item.missingResponses responses validate

/-- The notification about a response that is refused. -/
def refusalNote (failure : Identifier × ResponseProblem) : Notification :=
  ⟨.error, .response, failure.1.text, .response failure.2⟩

/-- Responses are bound if none is refused or missing. -/
theorem bindResponses_of_nil (h : item.badResponses responses validate = []) :
    ∃ bound, item.bindResponses responses validate = .ok bound :=
  ⟨_, if_pos (List.isEmpty_iff.2 h)⟩

/-- If responses are refused or missing, all of them are told. -/
theorem bindResponses_of_ne_nil (h : item.badResponses responses validate ≠ []) :
    item.bindResponses responses validate =
      .error ⟨item.badResponses responses validate, ⟨item.engine.options.level,
        (item.badResponses responses validate).map refusalNote⟩⟩ := by
  have herror (failure : Identifier × ResponseProblem) : (refusalNote failure).level = .error := rfl
  have hlog := NotificationLog.foldl_record herror
    (item.badResponses responses validate) (.empty item.engine.options.level)
  refine (if_neg (by rwa [List.isEmpty_iff])).trans ?_
  exact congrArg (fun log => Except.error (InvalidResponse.mk _ log)) hlog

theorem mem_refusedResponses {name : Identifier} {problem : ResponseProblem} :
    (name, problem) ∈ item.refusedResponses responses ↔
      ∃ data, responses.get? name = some data ∧ item.bindNamed name data = .error problem := by
  unfold refusedResponses
  rw [List.mem_filterMap]
  constructor
  · rintro ⟨result, hresult, hproblem⟩
    obtain ⟨⟨sent, data⟩, hsent, rfl⟩ := List.mem_map.1 hresult
    dsimp only at hproblem
    split at hproblem
    next hresult =>
      obtain ⟨rfl, hbind⟩ := Prod.mk.inj hresult
      cases hproblem
      exact ⟨data, SortedMap.mem_toList_iff.1 hsent, hbind⟩
    next => cases hproblem
  · rintro ⟨data, hsent, hbind⟩
    exact ⟨(name, .error problem), List.mem_map.2 ⟨(name, data),
      SortedMap.mem_toList_iff.2 hsent, by rw [hbind]⟩, rfl⟩

theorem mem_missingResponses {name : Identifier} {problem : ResponseProblem} :
    (name, problem) ∈ item.missingResponses responses validate ↔ validate = true ∧
      (∃ declaration ∈ item.definition.responses, declaration.identifier = name) ∧
      responses.get? name = none ∧ problem = .missing := by
  unfold missingResponses
  split
  next hvalidate =>
    simp only [List.mem_map, List.mem_filter, Prod.mk.injEq, SortedMap.contains, hvalidate,
      Bool.not_eq_true', Option.isSome_eq_false_iff, Option.isNone_iff_eq_none, true_and]
    constructor
    · rintro ⟨declaration, ⟨hdeclared, hmissing⟩, rfl, rfl⟩
      exact ⟨⟨declaration, hdeclared, rfl⟩, hmissing, rfl⟩
    · rintro ⟨⟨declaration, hdeclared, rfl⟩, hmissing, rfl⟩
      exact ⟨declaration, ⟨hdeclared, hmissing⟩, rfl, rfl⟩
  next hvalidate => simp [hvalidate]

/-- What is refused was sent. -/
theorem contains_of_mem_refusedResponses {failure : Identifier × ResponseProblem}
    (h : failure ∈ item.refusedResponses responses) : responses.contains failure.1 = true := by
  obtain ⟨data, hsent, -⟩ := mem_refusedResponses.1 h
  exact Option.isSome_iff_exists.2 ⟨data, hsent⟩

/-- What is missing was not sent. -/
theorem contains_of_mem_missingResponses {failure : Identifier × ResponseProblem}
    (h : failure ∈ item.missingResponses responses validate) :
    responses.contains failure.1 = false := by
  rw [SortedMap.contains, (mem_missingResponses.1 h).2.2.1]
  rfl

/-- The responses that are sent and refused stand in the order of their names. -/
theorem sorted_refusedResponses :
    ((item.refusedResponses responses).map (·.1)).Pairwise fun a b => compare a b = .lt := by
  have hname : ∀ {result : Identifier × Except ResponseProblem Value}
      {failure : Identifier × ResponseProblem},
      (match result with
        | (name, .error problem) => some (name, problem)
        | _ => none) = some failure → failure.1 = result.1 := by
    intro result failure h
    split at h
    · cases h
      rfl
    · cases h
  have hsorted : (responses.toList.map fun entry =>
      (entry.1, item.bindNamed entry.1 entry.2)).Pairwise fun a b => compare a.1 b.1 = .lt :=
    List.pairwise_map.2 responses.sorted
  rw [List.pairwise_map]
  refine hsorted.filterMap _ ?_
  intro first later hlt a ha b hb
  rw [hname ha, hname hb]
  exact hlt

/-- The missing responses stand in the order in which they are declared. -/
theorem sublist_missingResponses :
    ((item.missingResponses responses validate).map (·.1)).Sublist
      (item.definition.responses.map (·.identifier)) := by
  unfold missingResponses
  split
  next =>
    rw [List.map_map]
    exact List.filter_sublist.map _
  next => exact List.nil_sublist _

/-! ### What is wrong -/

/-- What can be wrong with what is sent for a variable. -/
inductive Offence (item : ItemDelivery) (responses : SortedMap Identifier ResponseData)
    (validate : Bool) : Identifier → ResponseProblem → Prop
  /-- What is sent is for no response variable. -/
  | undeclared {name : Identifier} {data : ResponseData} (hsent : responses.get? name = some data)
      (hname : item.definition.response? name = none) :
      Offence item responses validate name .undeclared
  /-- What is sent gives its variable no value. -/
  | unbound {name : Identifier} {data : ResponseData} {declaration : ResponseDeclaration}
      {problem : ResponseProblem} (hsent : responses.get? name = some data)
      (hname : item.definition.response? name = some declaration)
      (hbind : item.bindOne declaration data = .error problem) :
      Offence item responses validate name problem
  /-- Nothing is sent for a variable, though all responses have to be given. -/
  | missing {declaration : ResponseDeclaration} (hvalidate : validate = true)
      (hdeclared : declaration ∈ item.definition.responses)
      (hmissing : responses.get? declaration.identifier = none) :
      Offence item responses validate declaration.identifier .missing

theorem mem_badResponses {name : Identifier} {problem : ResponseProblem} :
    (name, problem) ∈ item.badResponses responses validate ↔
      item.Offence responses validate name problem := by
  rw [badResponses, List.mem_append, mem_refusedResponses, mem_missingResponses]
  constructor
  · rintro (⟨data, hsent, hbind⟩ | ⟨hvalidate, ⟨declaration, hdeclared, rfl⟩, hmissing, rfl⟩)
    · unfold bindNamed at hbind
      split at hbind
      next declaration hname => exact .unbound hsent hname hbind
      next hname =>
        cases hbind
        exact .undeclared hsent hname
    · exact .missing hvalidate hdeclared hmissing
  · intro h
    cases h with
    | @undeclared _ data hsent hname =>
      refine .inl ⟨data, hsent, ?_⟩
      rw [bindNamed, hname]
    | @unbound _ data declaration _ hsent hname hbind =>
      refine .inl ⟨data, hsent, ?_⟩
      rwa [bindNamed, hname]
    | @missing declaration hvalidate hdeclared hmissing =>
      exact .inr ⟨hvalidate, ⟨declaration, hdeclared, rfl⟩, hmissing, rfl⟩

/-- No variable is told twice, if no two variables have one name. -/
theorem nodup_badResponses (hnames : (item.definition.responses.map (·.identifier)).Nodup) :
    ((item.badResponses responses validate).map (·.1)).Nodup := by
  rw [badResponses, List.map_append, List.nodup_append]
  refine ⟨?_, sublist_missingResponses.nodup hnames, ?_⟩
  · refine sorted_refusedResponses.imp ?_
    rintro name other hlt rfl
    have hself : compare name name = .eq := Std.ReflCmp.compare_self
    rw [hself] at hlt
    cases hlt
  · intro name hname other hother heq
    obtain ⟨refused, hrefused, rfl⟩ := List.mem_map.1 hname
    obtain ⟨missing, hmissing, rfl⟩ := List.mem_map.1 hother
    have hsent := contains_of_mem_refusedResponses hrefused
    rw [heq, contains_of_mem_missingResponses hmissing] at hsent
    cases hsent

/-! ### What attempts report -/

/-- A refusal tells all that is wrong with responses, and nothing else. -/
structure Reports (item : ItemDelivery) (responses : SortedMap Identifier ResponseData)
    (validate : Bool) (invalid : InvalidResponse) : Prop where
  /-- What is told is what is wrong. -/
  mem_iff : ∀ name problem, (name, problem) ∈ invalid.failures ↔
    item.Offence responses validate name problem
  /-- Each variable is told once. -/
  nodup : (invalid.failures.map (·.1)).Nodup
  /-- What was sent comes first, in the order of the names. What is missing follows, in the order in
  which it is declared. -/
  order : ∃ sent missing, invalid.failures = sent ++ missing ∧
    (∀ failure ∈ sent, responses.contains failure.1 = true) ∧
    (sent.map (·.1)).Pairwise (fun a b => compare a b = .lt) ∧
    (∀ failure ∈ missing, responses.contains failure.1 = false) ∧
    (missing.map (·.1)).Sublist (item.definition.responses.map (·.identifier))
  /-- All are in the order of their names if the missing ones are declared in that order, and none
  of those that were sent comes behind one of them. -/
  sorted_iff : (invalid.failures.map (·.1)).Pairwise (fun a b => compare a b = .lt) ↔
    ((item.missingResponses responses validate).map (·.1)).Pairwise
      (fun a b => compare a b = .lt) ∧
    ∀ name problem, item.Offence responses validate name problem →
      responses.contains name = true →
      ∀ missing ∈ item.missingResponses responses validate, compare name missing.1 = .lt
  /-- There is a notification of an error for each of them, in the same order. -/
  log : invalid.log.entries = invalid.failures.map fun failure =>
    ⟨.error, .response, failure.1.text, .response failure.2⟩

/-- What is told is told well. -/
theorem reports_badResponses (hnames : (item.definition.responses.map (·.identifier)).Nodup)
    (level : Level) :
    item.Reports responses validate ⟨item.badResponses responses validate,
      ⟨level, (item.badResponses responses validate).map refusalNote⟩⟩ where
  mem_iff _ _ := mem_badResponses
  nodup := nodup_badResponses hnames
  order := ⟨_, _, rfl, fun _ => contains_of_mem_refusedResponses, sorted_refusedResponses,
    fun _ => contains_of_mem_missingResponses, sublist_missingResponses⟩
  sorted_iff := by
    change ((item.badResponses responses validate).map (·.1)).Pairwise _ ↔ _
    rw [badResponses, List.map_append, List.pairwise_append, and_iff_right sorted_refusedResponses]
    refine and_congr_right fun _ => ⟨?_, ?_⟩
    · intro h name problem hoffence hsent missing hmissing
      refine h name (List.mem_map.2 ⟨(name, problem), ?_, rfl⟩) _ (List.mem_map_of_mem hmissing)
      refine (List.mem_append.1 (mem_badResponses.2 hoffence)).resolve_right fun hother => ?_
      exact Bool.eq_false_iff.1 (contains_of_mem_missingResponses hother) hsent
    · intro h name hname other hother
      obtain ⟨refused, hrefused, rfl⟩ := List.mem_map.1 hname
      obtain ⟨missing, hmissing, rfl⟩ := List.mem_map.1 hother
      exact h _ _ (mem_badResponses.1 (List.mem_append_left _ hrefused))
        (contains_of_mem_refusedResponses hrefused) missing hmissing
  log := rfl

variable {policy : SubmissionPolicy} {state : ItemState}

/-- Sessions that are open for attempts refuse them for what is wrong with the responses, and for
nothing else. -/
theorem attemptRefusal?_of_open (responses : SortedMap Identifier ResponseData)
    (hstatus : state.status = .interacting) (hprocessed : state.templateProcessed = true)
    (hallowed : item.isAttemptAllowed state policy.maxAttempts = true) :
    item.attemptRefusal? responses policy state =
      match item.bindResponses responses policy.validateResponses with
      | .ok _ => none
      | .error invalid => some (.invalidResponse invalid) := by
  rw [attemptRefusal?, ItemState.refusal?, hstatus]
  dsimp only
  rw [hprocessed, hallowed]
  rfl

/-- An attempt at an open session is refused for its responses where these cannot be bound. -/
theorem run_attempt_eq_invalidResponse_iff (hdigest : state.digest = item.digest)
    (hstatus : state.status = .interacting) (hprocessed : state.templateProcessed = true)
    (hallowed : item.isAttemptAllowed state policy.maxAttempts = true) {now : Timestamp}
    {invalid : InvalidResponse} {left : ItemState} :
    (item.attempt responses now policy).run.run state = (.error (.invalidResponse invalid), left) ↔
      left = state ∧ item.bindResponses responses policy.validateResponses = .error invalid := by
  have hrefusal := attemptRefusal?_of_open responses hstatus hprocessed hallowed
  constructor
  · intro hrun
    have hserve : (item.serve (.attempt responses now policy)).run.run state =
        (.error (.invalidResponse invalid), left) := run_map_eq_error.2 hrun
    obtain ⟨rfl, hsome⟩ := eq_of_refused hserve rfl
    refine ⟨rfl, ?_⟩
    rw [refusal?, hrefusal] at hsome
    split at hsome
    next => cases hsome
    next hbind =>
      cases hsome
      exact hbind
  · rintro ⟨rfl, hbind⟩
    rw [hbind] at hrefusal
    have hserve : (item.serve (.attempt responses now policy)).run.run left =
        (.error (.invalidResponse invalid), left) := run_serve_of_refusal? hdigest hrefusal
    exact run_map_eq_error.1 hserve

/-- **An attempt is refused for its responses if something is wrong with one of them, and exactly
what is wrong is told**, each variable once and with one error. It leaves the session as it was. The
names are in order as long as the missing responses fit into it where they stand, at the end. -/
theorem reports_of_invalidResponse
    (hnames : (item.definition.responses.map (·.identifier)).Nodup)
    (hdigest : state.digest = item.digest) (hstatus : state.status = .interacting)
    (hprocessed : state.templateProcessed = true)
    (hallowed : item.isAttemptAllowed state policy.maxAttempts = true) (now : Timestamp) :
    ((∃ invalid left, (item.attempt responses now policy).run.run state =
        (.error (.invalidResponse invalid), left)) ↔
      ∃ name problem, item.Offence responses policy.validateResponses name problem) ∧
    ∀ invalid left, (item.attempt responses now policy).run.run state =
        (.error (.invalidResponse invalid), left) →
      left = state ∧ item.Reports responses policy.validateResponses invalid := by
  simp only [run_attempt_eq_invalidResponse_iff hdigest hstatus hprocessed hallowed]
  by_cases hbad : item.badResponses responses policy.validateResponses = []
  · obtain ⟨bound, hbound⟩ := bindResponses_of_nil hbad
    have hclean :
        ¬∃ name problem, item.Offence responses policy.validateResponses name problem := by
      rintro ⟨name, problem, hoffence⟩
      have hmem := mem_badResponses.2 hoffence
      rw [hbad] at hmem
      cases hmem
    simp [hbound, hclean]
  · obtain ⟨⟨name, problem⟩, hmem⟩ := List.exists_mem_of_ne_nil _ hbad
    rw [bindResponses_of_ne_nil hbad]
    refine ⟨iff_of_true ⟨_, state, rfl, rfl⟩ ⟨name, problem, mem_badResponses.1 hmem⟩, ?_⟩
    rintro invalid left ⟨rfl, hinvalid⟩
    cases hinvalid
    exact ⟨rfl, reports_badResponses hnames _⟩

/-- Something is sent for a variable that does not exist, and nothing for the one that does. -/
theorem reports_of_invalidResponse_guess :
    ∃ responses policy state invalid, (guess.definition.responses.map (·.identifier)).Nodup ∧
      state.digest = guess.digest ∧ state.status = .interacting ∧
      state.templateProcessed = true ∧
      guess.isAttemptAllowed state policy.maxAttempts = true ∧
      (guess.attempt responses (.logical 1) policy).run.run state =
        (.error (.invalidResponse invalid), state) ∧
      invalid.failures.length = 2 ∧
      guess.Reports responses policy.validateResponses invalid := by
  have hnames : (guess.definition.responses.map (·.identifier)).Nodup := by decide +kernel
  let responses : SortedMap Identifier ResponseData :=
    .ofList [(⟨"OTHER", by decide +kernel⟩, .strings ["1"])]
  have hcount : (guess.badResponses responses true).length = 2 := by decide +kernel
  have hbad : guess.badResponses responses true ≠ [] := List.ne_nil_of_length_pos (by omega)
  obtain ⟨invalid, hbind, hlength⟩ : ∃ invalid,
      guess.bindResponses responses true = .error invalid ∧ invalid.failures.length = 2 :=
    ⟨_, bindResponses_of_ne_nil hbad, hcount⟩
  have hsession : (guess.sessionAfter .empty 7 [.processTemplate, .enter (.logical 0)]).any
      (fun state => state.digest = guess.digest && state.status = .interacting &&
        state.templateProcessed && guess.isAttemptAllowed state 1) = true := by
    decide +kernel
  obtain ⟨state, -, hstate⟩ := (Option.any_eq_true _ _).1 hsession
  simp only [Bool.and_eq_true, decide_eq_true_eq] at hstate
  obtain ⟨⟨⟨hdigest, hstatus⟩, hprocessed⟩, hallowed⟩ := hstate
  have hrun : (guess.attempt responses (.logical 1) ⟨1, true, false⟩).run.run state =
      (.error (.invalidResponse invalid), state) :=
    (run_attempt_eq_invalidResponse_iff hdigest hstatus hprocessed hallowed).2 ⟨rfl, hbind⟩
  exact ⟨responses, ⟨1, true, false⟩, state, invalid, hnames, hdigest, hstatus, hprocessed,
    hallowed, hrun, hlength,
    ((reports_of_invalidResponse hnames hdigest hstatus hprocessed hallowed _).2 _ _ hrun).2⟩

/-- An item with two response variables, declared in the order against their names. -/
def twoGuesses : ItemDelivery :=
  let response (identifier : Identifier) : ResponseDeclaration :=
    ⟨identifier, .single .string, none, none, none, none⟩
  let definition :=
    { ItemDefinition.bare ⟨"GUESSES", by decide +kernel⟩ with
      responses := [response ⟨"SECOND_GUESS", by decide +kernel⟩,
        response ⟨"FIRST_GUESS", by decide +kernel⟩] }
  ⟨definition, ⟨.empty, .default⟩, ⟨.sha256, "guesses"⟩⟩

/-- The names of missing responses are told in the order in which they are declared, which need not
be the order of the names. -/
theorem not_forall_sorted_failures :
    ¬∀ (item : ItemDelivery) (responses : SortedMap Identifier ResponseData)
      (policy : SubmissionPolicy) (state left : ItemState) (now : Timestamp)
      (invalid : InvalidResponse), (item.definition.responses.map (·.identifier)).Nodup →
      state.digest = item.digest → state.status = .interacting → state.templateProcessed = true →
      item.isAttemptAllowed state policy.maxAttempts = true →
      (item.attempt responses now policy).run.run state =
        (.error (.invalidResponse invalid), left) →
      (invalid.failures.map (·.1)).Pairwise fun a b => compare a b = .lt := by
  intro h
  have hunsorted : ¬((twoGuesses.badResponses .empty true).map (·.1)).Pairwise fun a b =>
      compare a b = .lt := by
    decide +kernel
  have hbad : twoGuesses.badResponses .empty true ≠ [] := fun hnone => by
    rw [hnone] at hunsorted
    exact hunsorted .nil
  have hsession : (twoGuesses.sessionAfter .empty 7 [.processTemplate, .enter (.logical 0)]).any
      (fun state => state.digest = twoGuesses.digest && state.status = .interacting &&
        state.templateProcessed && twoGuesses.isAttemptAllowed state 1) = true := by
    decide +kernel
  obtain ⟨state, -, hstate⟩ := (Option.any_eq_true _ _).1 hsession
  simp only [Bool.and_eq_true, decide_eq_true_eq] at hstate
  obtain ⟨⟨⟨hdigest, hstatus⟩, hprocessed⟩, hallowed⟩ := hstate
  exact hunsorted (h twoGuesses .empty ⟨1, true, false⟩ state state (.logical 1) _
    (by decide +kernel) hdigest hstatus hprocessed hallowed
    ((run_attempt_eq_invalidResponse_iff hdigest hstatus hprocessed hallowed).2
      ⟨rfl, bindResponses_of_ne_nil hbad⟩))

end ItemDelivery

end Assessment
