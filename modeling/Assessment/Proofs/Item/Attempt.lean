import Assessment.Proofs.Item.Change

/-!
# Attempts

An attempt binds responses to variables of the session and is counted. It is then scored, or it
waits for that. Whatever the values of the responses were before, those that are bound have the
values that the attempt gives them.

## Main definitions

- `ItemDelivery.Accepts`: a session that nothing refuses an attempt of, as far as that can be known
  before.
- `ItemDelivery.Binds`: what an attempt changes before it is scored.
- `ItemDelivery.deferAll`: attempts in turn that are all scored later.

## Main results

- `ItemDelivery.ensures_attempt_binds`: what becomes of an attempt.
- `ItemDelivery.Attempts.answers`: an attempt that is scored later changes responses.
-/

namespace Assessment

open Action

namespace Store

variable {first second : Store} {bindings : List (Identifier × Value)}

/-- Put values in for several variables in turn. -/
def insertAll (store : Store) (bindings : List (Identifier × Value)) : Store :=
  bindings.foldl (fun store binding => store.insert binding.1 binding.2) store

/-- Variables that are put in have the same values afterwards whatever they were before. -/
theorem get?_insertAll_congr {name : Identifier}
    (h : name ∈ bindings.map (·.1) ∨ first.get? name = second.get? name) :
    (first.insertAll bindings).get? name = (second.insertAll bindings).get? name := by
  -- The last of the bindings of a name decides, so that the first may be put in alone.
  induction bindings generalizing first second with
  | nil => exact h.resolve_left List.not_mem_nil
  | cons binding rest ih =>
    refine ih ?_
    by_cases hname : name = binding.1
    · exact .inr (by rw [hname, SortedMap.get?_insert_self, SortedMap.get?_insert_self])
    · rw [SortedMap.get?_insert_of_ne _ hname, SortedMap.get?_insert_of_ne _ hname]
      exact h.imp_left fun hmem => (List.mem_cons.1 hmem).resolve_left hname

/-- Variables that are put in are changed, and no others, if they are variables of the store. -/
theorem sameBut_insertAll
    (hcontains : ∀ name ∈ bindings.map (·.1), first.contains name = true) :
    SameBut (bindings.map (·.1)) first (first.insertAll bindings) where
  keys name := by
    rw [Bool.eq_iff_iff, insertAll, SortedMap.contains_foldl]
    exact ⟨fun hname => hname.elim (hcontains name) id, .inr⟩
  values name hname := by
    refine SortedMap.get?_foldl_of_ne first fun binding hbinding heq => hname ?_
    exact heq ▸ List.mem_map_of_mem hbinding

end Store

namespace ItemState

/-- Variables are set one after the other if the session has all of them. -/
theorem ensures_setAll_insertAll (role : Role) (bindings : List (Identifier × Value))
    {state : ItemState} :
    (setAll role bindings).Ensures state
      (fun _ left => (∀ name ∈ bindings.map (·.1), (state.store role).contains name = true) ∧
        left = state.setStore role ((state.store role).insertAll bindings))
      fun _ _ => ∃ name ∈ bindings.map (·.1), (state.store role).contains name = false := by
  induction bindings generalizing state with
  | nil => exact ⟨nofun, by cases role <;> rfl⟩
  | cons binding rest ih =>
    rw [setAll, ensures_bind, ensures_get]
    cases hset : (state.store role).set binding.1 binding.2 with
    | error error =>
      refine ⟨binding.1, List.mem_cons_self, Bool.eq_false_iff.2 fun hcontains => ?_⟩
      rw [Store.set, if_pos hcontains] at hset
      cases hset
    | ok store =>
      have hkeys : ∀ name, ((state.setStore role store).store role).contains name =
          (state.store role).contains name := by
        rw [store_setStore_self]
        exact (Store.sameBut_of_set hset).keys
      obtain ⟨hcontains, rfl⟩ := Store.set_eq_ok_iff.1 hset
      rw [ensures_bind]
      change (setAll role rest).Ensures (state.setStore role _) _ _
      refine ih.mono ?_ ?_
      · rintro _ _ ⟨hrest, rfl⟩
        refine ⟨fun name hname => ?_, by cases role <;> rfl⟩
        obtain rfl | hname := List.mem_cons.1 hname
        · exact hcontains
        · exact (hkeys name).symm.trans (hrest name hname)
      · rintro _ _ ⟨name, hname, hmissing⟩
        exact ⟨name, List.mem_cons_of_mem _ hname, (hkeys name).symm.trans hmissing⟩

end ItemState

namespace ItemDelivery

variable {item : ItemDelivery} {bound : List (Identifier × Value)}

/-! ### Binding responses -/

/-- Binding responses that answer every response variable does not depend on whether all have to be
given. -/
theorem bindResponses_of_complete {responses : SortedMap Identifier ResponseData} {validate : Bool}
    (hcomplete : ∀ declaration ∈ item.definition.responses,
      responses.contains declaration.identifier = true)
    (hbound : item.bindResponses responses validate = .ok bound) (other : Bool) :
    item.bindResponses responses other = .ok bound := by
  have hmissing : ∀ validate, item.missingResponses responses validate = [] := by
    intro validate
    unfold missingResponses
    split
    · rw [List.map_eq_nil_iff, List.filter_eq_nil_iff]
      intro declaration hdeclaration
      simp [hcomplete declaration hdeclaration]
    · rfl
  unfold bindResponses at hbound ⊢
  simp only [hmissing] at hbound ⊢
  exact hbound

/-- A variable that responses answer is bound if the responses are not refused. -/
theorem mem_bound_of_contains {responses : SortedMap Identifier ResponseData} {validate : Bool}
    {name : Identifier} (hbound : item.bindResponses responses validate = .ok bound)
    (hname : responses.contains name = true) : name ∈ bound.map (·.1) := by
  obtain ⟨data, hdata⟩ := Option.isSome_iff_exists.1 hname
  have hentry := SortedMap.mem_toList_of_get? hdata
  unfold bindResponses at hbound
  dsimp only at hbound
  split at hbound
  next hnone =>
    cases hbound
    rw [List.isEmpty_iff, List.append_eq_nil_iff] at hnone
    cases hvalue : item.bindNamed name data with
    | ok value =>
      refine List.mem_map.2 ⟨(name, value), List.mem_filterMap.2 ⟨(name, .ok value), ?_, rfl⟩, rfl⟩
      exact List.mem_map.2 ⟨(name, data), hentry, by rw [hvalue]⟩
    | error problem =>
      refine absurd hnone.1 (List.ne_nil_of_mem (a := (name, problem)) ?_)
      refine List.mem_filterMap.2 ⟨(name, .error problem), ?_, rfl⟩
      exact List.mem_map.2 ⟨(name, data), hentry, by rw [hvalue]⟩
  next => cases hbound

/-! ### Single attempts -/

/-- Where time can be counted, counting it is refused only for the session of another item. -/
theorem ensures_touch_of_contains {state : ItemState}
    (hcontains : state.responses.contains BuiltIn.duration.identifier = true) (now : Timestamp) :
    (item.touch now).Ensures state
      (fun _ left => state.digest = item.digest ∧ state.Counted left)
      fun error left => state.digest ≠ item.digest ∧ left = state ∧
        error = .logic (.definitionMismatch item.digest.value state.digest.value) := by
  rw [touch, check, ensures_bind, ensures_bind, ensures_get]
  dsimp only
  rw [ensures_ite, ensures_throw]
  refine ⟨fun hdigest => ?_, fun hdigest => ⟨hdigest, rfl, rfl⟩⟩
  rw [ensures_pure, ensures_bind, ensures_get]
  split
  next =>
    split
    next elapsed _ =>
      rw [ensures_ite, ensures_bind]
      refine ⟨fun _ => ?_, fun _ => ⟨hdigest, _, _, .refl _ _, rfl⟩⟩
      have hset : state.responses.set BuiltIn.duration.identifier
          (.duration (state.duration + elapsed)) = _ := if_pos hcontains
      rw [ItemAction.setVariable, ItemAction.ensures_ofLogic, ItemState.setAll, ensures_bind,
        ensures_get, ItemState.store, hset]
      exact ⟨hdigest, _, _, Store.sameBut_of_set hset, rfl⟩
    next => exact ⟨hdigest, _, _, .refl _ _, rfl⟩
  next => exact ⟨hdigest, .refl _⟩

/-- Counting time in a session of the item fails only because a variable for it is missing. -/
theorem ensures_touch_of_digest {state : ItemState} (hdigest : state.digest = item.digest)
    (now : Timestamp) :
    (item.touch now).Ensures state (fun _ left => state.Counted left)
      fun _ _ => state.responses.contains BuiltIn.duration.identifier = false := by
  by_cases hcontains : state.responses.contains BuiltIn.duration.identifier = true
  · exact (ensures_touch_of_contains hcontains now).mono (fun _ _ h => h.2)
      fun _ _ h => absurd hdigest h.1
  · exact Ensures.mono (item.leaves_touch now) (fun _ _ h => h)
      fun _ _ _ => Bool.eq_false_iff.2 hcontains

/-- Values were bound to responses, and the attempt was counted. -/
def Binds (bound : List (Identifier × Value)) (before after : ItemState) : Prop :=
  ∃ timed counted lastEvent,
    Store.SameBut [BuiltIn.duration.identifier] before.responses timed ∧
      Store.SameBut [BuiltIn.numAttempts.identifier] (timed.insertAll bound) counted ∧
      after =
        { before with
          responses := counted
          lastEvent
          responded := true
          responseProcessed := false }

/-- The responses that an attempt writes: those that are bound, and the number of attempts. -/
def writes (bound : List (Identifier × Value)) : List Identifier :=
  BuiltIn.numAttempts.identifier :: bound.map (·.1)

/-- Once the time is counted, values are bound and the attempt is counted, unless a response is
missing. -/
theorem ensures_binding {α : Type} {rest : ItemAction α} {before timed : ItemState}
    {done : α → ItemState → Prop} {failed : ItemError → ItemState → Prop}
    (htimed : before.Counted timed)
    (hrest : ∀ after, (∀ name ∈ writes bound, before.responses.contains name = true) →
      Binds bound before after → rest.Ensures after done failed)
    (hmissing : ∀ error left, (∃ name ∈ writes bound, before.responses.contains name = false) →
      failed error left) :
    (do
      ItemAction.ofLogic (ItemState.setAll .response bound)
      let attempts := Word.succSaturating (← get).attempts
      ItemAction.setVariable .response BuiltIn.numAttempts.identifier (.integer attempts)
      modify fun state => { state with responded := true, responseProcessed := false }
      rest : ItemAction α).Ensures timed done failed := by
  obtain ⟨responses, lastEvent, htimed, rfl⟩ := htimed
  rw [ensures_bind, ItemAction.ensures_ofLogic]
  refine (ItemState.ensures_setAll_insertAll .response bound).mono ?_ ?_
  · rintro _ _ ⟨hanswers, rfl⟩
    have hanswered : Store.SameBut (bound.map (·.1)) responses (responses.insertAll bound) :=
      Store.sameBut_insertAll hanswers
    rw [ensures_bind, ensures_get, ensures_bind, ItemAction.setVariable,
      ItemAction.ensures_ofLogic]
    refine (ItemState.ensures_setAll_insertAll .response _).mono ?_ ?_
    · rintro _ _ ⟨hcounts, rfl⟩
      have hattempts := hcounts _ List.mem_cons_self
      refine hrest _ (fun name hname => ?_)
        ⟨responses, _, lastEvent, htimed, Store.sameBut_insert hattempts _, rfl⟩
      refine (htimed.keys name).symm.trans ?_
      obtain rfl | hname := List.mem_cons.1 hname
      · exact (hanswered.keys _).symm.trans hattempts
      · exact hanswers name hname
    · rintro _ _ ⟨name, hname, habsent⟩
      obtain rfl := List.mem_singleton.1 hname
      refine hmissing _ _ ⟨_, List.mem_cons_self, ?_⟩
      exact ((hanswered.keys _).trans (htimed.keys _)).symm.trans habsent
  · rintro _ _ ⟨name, hname, habsent⟩
    exact hmissing _ _ ⟨name, List.mem_cons_of_mem _ hname, (htimed.keys name).symm.trans habsent⟩

/-- Nothing but a missing variable for the time, or how it is scored, refuses an attempt that binds
some values. -/
structure Accepts (item : ItemDelivery) (bound : List (Identifier × Value)) (session : ItemState) :
    Prop where
  /-- It is a session of the item. -/
  digest : session.digest = item.digest
  /-- The item is presented. -/
  status : session.status = .interacting
  /-- Template processing was done. -/
  templateProcessed : session.templateProcessed = true
  /-- The responses are variables of the session. -/
  contains : ∀ name ∈ writes bound, session.responses.contains name = true

/-- An attempt binds values and is counted. It is then scored if it is not to wait. Where the number
of attempts is not limited, it fails for no other reason than a session that does not accept it, a
missing variable for the time, or scoring. -/
theorem ensures_attempt_binds (responses : SortedMap Identifier ResponseData) (now : Timestamp)
    (policy : SubmissionPolicy) {before : ItemState} :
    (item.attempt responses now policy).Ensures before
      (fun log left => ∃ bound after,
        item.bindResponses responses policy.validateResponses = .ok bound ∧
          item.Accepts bound before ∧ Binds bound before after ∧
          if policy.deferred then left = { after with pending := true }
          else (item.processResponse policy.maxAttempts now).run.run after = (.ok log, left))
      fun error left => ∀ bound,
        item.bindResponses responses policy.validateResponses = .ok bound →
          item.Accepts bound before → policy.maxAttempts = 0 →
          before.responses.contains BuiltIn.duration.identifier = false ∨
            ∃ after, Binds bound before after ∧ policy.deferred = false ∧
              (item.processResponse policy.maxAttempts now).run.run after =
                (.error error, left) := by
  rw [attempt, check, ensures_bind, ensures_bind, ensures_get, ensures_ite, ensures_throw]
  refine ⟨fun hdigest => ?_, fun hdigest _ _ haccepts => absurd haccepts.digest hdigest⟩
  rw [ensures_pure]
  refine ensures_requireInteracting.bind ?_ fun _ _ hrefused _ _ haccepts =>
    absurd haccepts.status hrefused.1
  rintro _ state ⟨hstatus, rfl⟩
  rw [ensures_bind, ensures_get]
  dsimp only
  rw [ensures_ite, ensures_bind, ensures_throw]
  refine ⟨fun hmissing _ _ haccepts => ?_, fun hprocessed => ?_⟩
  · rw [haccepts.templateProcessed] at hmissing
    cases hmissing
  rw [ensures_ite, ensures_bind, ensures_throw]
  refine ⟨fun hexhausted _ _ haccepts hlimit => ?_, fun _ => ?_⟩
  · rw [isAttemptAllowed, ItemState.isClosed, haccepts.status, hlimit] at hexhausted
    simp at hexhausted
  cases item.bindResponses responses policy.validateResponses with
  | error invalid => rintro _ ⟨⟩
  | ok bound =>
    change ((item.touch now >>= _ : ItemAction NotificationLog)).Ensures _ _ _
    refine (ensures_touch_of_digest hdigest now).bind ?_ fun _ _ hmissing _ _ _ _ => .inl hmissing
    intro _ timed htimed
    refine ensures_binding htimed (fun after hcontains hbinds => ?_) ?_
    · have haccepts : item.Accepts bound state :=
        ⟨hdigest, hstatus, by simpa using hprocessed, hcontains⟩
      rw [ensures_ite]
      refine ⟨fun hdeferred => ⟨bound, after, rfl, haccepts, hbinds, ?_⟩, fun hscored => ?_⟩
      · rw [if_pos hdeferred]
      refine (ensures_run _ _).mono ?_ ?_
      · intro log left hrun
        refine ⟨bound, after, rfl, haccepts, hbinds, ?_⟩
        rwa [if_neg hscored]
      · rintro error left hrun _ ⟨⟩ _ _
        exact .inr ⟨after, hbinds, Bool.eq_false_iff.2 hscored, hrun⟩
    · rintro _ _ ⟨name, hname, habsent⟩ _ ⟨⟩ haccepts
      exact absurd (habsent.symm.trans (haccepts.contains name hname)) Bool.false_ne_true

section binds

variable {before after : ItemState}

theorem Accepts.sameBut_insertAll (h : item.Accepts bound before) {timed : Store}
    (htimed : Store.SameBut [BuiltIn.duration.identifier] before.responses timed) :
    Store.SameBut (bound.map (·.1)) timed (timed.insertAll bound) :=
  Store.sameBut_insertAll fun name hname =>
    (htimed.keys name).trans (h.contains name (List.mem_cons_of_mem _ hname))

/-- Binding values changes no names of responses. -/
theorem Binds.contains (h : Binds bound before after) (haccepts : item.Accepts bound before)
    (name : Identifier) : after.responses.contains name = before.responses.contains name := by
  obtain ⟨timed, counted, lastEvent, htimed, hcounted, rfl⟩ := h
  exact (hcounted.keys name).trans
    (((haccepts.sameBut_insertAll htimed).keys name).trans (htimed.keys name))

/-- An attempt that is scored later changes responses. -/
theorem Attempts.answers {responses : SortedMap Identifier ResponseData} {now : Timestamp}
    {policy : SubmissionPolicy} (h : Attempts responses now policy item before after)
    (hdeferred : policy.deferred = true) :
    before.Answers (item.definition.variableNames .response) after := by
  obtain ⟨log, hrun⟩ := h
  obtain ⟨bound, _, hbound, haccepts, ⟨timed, counted, lastEvent, htimed, hcounted, rfl⟩, hafter⟩ :=
    (ensures_attempt_binds responses now policy).ok hrun
  rw [if_pos hdeferred] at hafter
  -- The time, the answers and the number of attempts are all kept among the responses.
  have htime : [BuiltIn.duration.identifier] ⊆ item.definition.variableNames .response := by
    simp [ItemDefinition.variableNames]
  have hattempts : [BuiltIn.numAttempts.identifier] ⊆ item.definition.variableNames .response := by
    simp [ItemDefinition.variableNames]
  have hanswers : bound.map (·.1) ⊆ item.definition.variableNames .response := by
    intro name hname
    obtain ⟨binding, hbinding, rfl⟩ := List.mem_map.1 hname
    obtain ⟨_, _, hresponse, -⟩ := exists_response_of_bindResponses hbound hbinding
    exact ItemDefinition.mem_variableNames_of_response? hresponse
  refine ⟨counted, lastEvent, ?_, hafter⟩
  exact ((htimed.mono htime).trans ((haccepts.sameBut_insertAll htimed).mono hanswers)).trans
    (hcounted.mono hattempts)

end binds

/-- Responses that are submitted at a time, and whether all have to be given. -/
structure Submission where
  /-- The responses. -/
  responses : SortedMap Identifier ResponseData
  /-- When they are submitted. -/
  time : Timestamp
  /-- Whether all have to be given. -/
  validate : Bool

/-- Make attempts in turn that are all scored later, up to the first that is refused. The number of
attempts is not limited. -/
def deferAll (item : ItemDelivery) : List Submission → ItemAction Unit
  | [] => pure ()
  | first :: rest => do
    let _ ← item.attempt first.responses first.time ⟨0, first.validate, true⟩
    deferAll item rest

/-- The last of several attempts is made on what the attempts before it leave. -/
theorem exists_attempt_of_deferAll {earlier : List Submission} {last : Submission}
    {state left : ItemState}
    (h : (item.deferAll (earlier ++ [last])).run.run state = (.ok (), left)) :
    ∃ before log, (item.deferAll earlier).run.run state = (.ok (), before) ∧
      (item.attempt last.responses last.time ⟨0, last.validate, true⟩).run.run before =
        (.ok log, left) := by
  induction earlier generalizing state with
  | nil =>
    rw [List.nil_append, deferAll, run_bind] at h
    split at h
    next log between hlast =>
      cases h
      exact ⟨state, log, rfl, hlast⟩
    next => cases h
  | cons first earlier ih =>
    rw [List.cons_append, deferAll, run_bind] at h
    rw [deferAll, run_bind]
    split at h
    next log between hfirst => exact ih h
    next => cases h

end ItemDelivery

end Assessment
