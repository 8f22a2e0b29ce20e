import Assessment.Proofs.Test.Phase

/-!
# Requests that are refused

A request that a test session does not permit is refused. It leaves the session as it was, with one
exception: where advancing leads to an item that is closed, this is found out only after the time
was counted and the clock of the current item was stopped. Nothing else is changed then.

## Main results

- `TestDelivery.Reachable.eq_or_leadsToClosed`: what becomes of a session when a request is refused.
- `TestDelivery.not_forall_refused_eq`: a refused request may change a session.
-/

namespace Assessment

open Action

namespace TestDelivery

variable {delivery : TestDelivery} {state left : TestState} {error : TestError} {seed : UInt64}

/-- A request that is refused leaves the session as it was, unless it is to advance and the next
item is closed. In that case the time is counted, the clock of the current item is stopped, and the
error names the item that is closed. -/
theorem Reachable.eq_or_leadsToClosed
    (hdistinct : (delivery.definition.itemRefs.map ItemRef.identifier).Nodup)
    (h : delivery.Reachable seed state) {request : TestRequest}
    (hrun : (delivery.serve request).run.run state = (.error error, left))
    (herror : error.isLogic = false) :
    (left = state ∧ ∀ now ref, request = .advance now → ¬delivery.LeadsToClosed state ref) ∨
      ∃ now ref outcomes items, request = .advance now ∧ delivery.LeadsToClosed state ref ∧
        error = .item ref .closed ∧ (delivery.leave now).run.run state = (.ok (), left) ∧
        left = { state with outcomes, items, lastEvent := some now } ∧
        Sweep delivery state.plan (ItemDelivery.Suspends now) state.currentItem.toList state.items
          items := by
  have hlogic : ¬error.isLogic = true := by
    rw [herror]
    exact Bool.false_ne_true
  cases request with
  | enterTest now =>
    have hleft := delivery.ensures_enterTest.error (run_map_eq_error.1 hrun)
    exact .inl ⟨hleft.resolve_left hlogic, nofun⟩
  | enterPart now =>
    have hclosed := (h.staged hdistinct).prepared_of_closed
    have hleft := (delivery.ensures_enterPart hclosed).error (run_map_eq_error.1 hrun)
    exact .inl ⟨hleft.resolve_left hlogic, nofun⟩
  | select now ref =>
    have hleft := (delivery.ensures_select ref).error (run_map_eq_error.1 hrun)
    exact .inl ⟨hleft.resolve_left hlogic, nofun⟩
  | advance now =>
    have hleft := delivery.ensures_advance.error (run_map_eq_error.1 hrun)
    obtain ⟨hsame, hnowhere⟩ | ⟨ref, hclosed, hname, hleave⟩ := hleft.resolve_left hlogic
    · refine .inl ⟨hsame, ?_⟩
      rintro _ ref - ⟨part, index, place, session, hadvances, -⟩
      exact hnowhere part _ hadvances
    · obtain ⟨outcomes, items, hleft, hsuspend⟩ := delivery.ensures_leave.ok hleave
      exact .inr ⟨now, ref, outcomes, items, rfl, hclosed, hname, hleave, hleft, hsuspend⟩
  | respond now responses =>
    have hleft := (delivery.ensures_respond responses).error (run_map_eq_error.1 hrun)
    exact .inl ⟨hleft.resolve_left hlogic, nofun⟩
  | endPart now =>
    have hleft := delivery.ensures_endPart.error (run_map_eq_error.1 hrun)
    exact .inl ⟨hleft.resolve_left hlogic, nofun⟩
  | exit now =>
    have hleft := delivery.ensures_exit.error (run_map_eq_error.1 hrun)
    exact .inl ⟨hleft.resolve_left hlogic, nofun⟩

/-- Where the one item of a test may be attempted once, it is closed when the attempt is made. To
advance behind it and to advance again is refused, and counts the time. -/
theorem exists_refused_single :
    ∃ state left error, (single .linear .individual).Reachable 0 state ∧
      ((single .linear .individual).serve (.advance (.unixMillis 0))).run.run state =
        (.error error, left) ∧
      error.isLogic = false ∧ left.lastEvent ≠ state.lastEvent := by
  have hsession : ((single .linear .individual).sessionAfter 0
      [.enterTest (.logical 0), .enterPart (.unixMillis 0), .advance (.logical 0),
        .respond (.unixMillis 0) .empty, .advance (.logical 0)]).any (fun state =>
      match ((single .linear .individual).serve (.advance (.unixMillis 0))).run.run state with
      | (.error error, left) => !error.isLogic && left.lastEvent ≠ state.lastEvent
      | (.ok _, _) => false) = true := by
    decide +kernel
  obtain ⟨state, hstate, hrefused⟩ := (Option.any_eq_true _ _).1 hsession
  split at hrefused
  next error left hrun =>
    rw [Bool.and_eq_true, Bool.not_eq_true', decide_eq_true_eq] at hrefused
    exact ⟨state, left, error, reachable_of_sessionAfter hstate, hrun, hrefused⟩
  next => cases hrefused

/-- The request that is refused there leads to the one item, which is closed. -/
theorem eq_or_leadsToClosed_single :
    ∃ state left error, (single .linear .individual).Reachable 0 state ∧
      ((single .linear .individual).serve (.advance (.unixMillis 0))).run.run state =
        (.error error, left) ∧
      ∃ ref, (single .linear .individual).LeadsToClosed state ref ∧ error = .item ref .closed := by
  obtain ⟨state, left, error, hreachable, hrun, herror, hne⟩ := exists_refused_single
  refine ⟨state, left, error, hreachable, hrun, ?_⟩
  obtain ⟨rfl, -⟩ | ⟨_, ref, _, _, -, hclosed, hname, -⟩ :=
    Reachable.eq_or_leadsToClosed (by decide +kernel) hreachable hrun herror
  · exact absurd rfl hne
  · exact ⟨ref, hclosed, hname⟩

/-- A request that is refused may change a session. -/
theorem not_forall_refused_eq :
    ¬∀ (delivery : TestDelivery) (seed : UInt64) (state left : TestState) (request : TestRequest)
      (error : TestError), (delivery.definition.itemRefs.map ItemRef.identifier).Nodup →
      delivery.Reachable seed state →
      (delivery.serve request).run.run state = (.error error, left) → error.isLogic = false →
      left = state := by
  intro hkeeps
  obtain ⟨state, left, error, hreachable, hrun, herror, hne⟩ := exists_refused_single
  have hsame := hkeeps (single .linear .individual) 0 state left _ error (by decide +kernel)
    hreachable hrun herror
  exact hne (congrArg TestState.lastEvent hsame)

end TestDelivery

end Assessment
