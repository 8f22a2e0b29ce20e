import Mathlib.Logic.Relation
import Assessment.Proofs.Item.Progress

/-!
# The courses of item sessions

A course of an item session is a sequence of operations that are all accepted. Whoever holds item
sessions, as test sessions do, moves them along their courses.

## Main definitions

- `ItemDelivery.Step`: an operation on a session that is accepted.
- `ItemDelivery.Course`: any number of such operations in turn.
- `ItemDelivery.Reachable`: the sessions on courses that begin with a new session.
- `ItemDelivery.Prepares`, `ItemDelivery.Enters`, `ItemDelivery.Suspends`, `ItemDelivery.Attempts`,
  `ItemDelivery.Scores` and `ItemDelivery.Ends`: what test sessions do with the session of an item
  when they get to it.

## Main results

- `ItemDelivery.Reachable.isPresented_of_responded`: an item that was answered was presented.
-/

namespace Assessment

open Action

namespace ItemDelivery

/-- An operation turns one session into another and is not refused. -/
inductive Step (delivery : ItemDelivery) : ItemState → ItemState → Prop where
  /-- Template processing is done. -/
  | processTemplate {before after : ItemState} {log : NotificationLog} :
      delivery.processTemplate.run.run before = (.ok log, after) → Step delivery before after
  /-- The item is presented. -/
  | enter {before after : ItemState} (now : Timestamp) :
      (delivery.enter now).run.run before = (.ok (), after) → Step delivery before after
  /-- The clock is stopped. -/
  | suspend {before after : ItemState} (now : Timestamp) :
      (delivery.suspend now).run.run before = (.ok (), after) → Step delivery before after
  /-- An attempt is made. -/
  | attempt {before after : ItemState} {log : NotificationLog}
      (responses : SortedMap Identifier ResponseData) (now : Timestamp)
      (policy : SubmissionPolicy) :
      (delivery.attempt responses now policy).run.run before = (.ok log, after) →
      Step delivery before after
  /-- The last attempt is scored. -/
  | processResponse {before after : ItemState} {log : NotificationLog} (maxAttempts : UInt32)
      (now : Timestamp) :
      (delivery.processResponse maxAttempts now).run.run before = (.ok log, after) →
      Step delivery before after
  /-- The session is ended. -/
  | endSession {before after : ItemState} (now : Timestamp) :
      (delivery.endSession now).run.run before = (.ok (), after) → Step delivery before after

/-- Operations in turn lead from one session to another, and none of them is refused. -/
def Course (delivery : ItemDelivery) : ItemState → ItemState → Prop :=
  Relation.ReflTransGen delivery.Step

/-- The sessions of a seed that operations lead to, from a new session without defaults of its
own. -/
def Reachable (delivery : ItemDelivery) (seed : UInt64) (state : ItemState) : Prop :=
  ∃ start, delivery.create .empty seed = .ok start ∧ delivery.Course start state

variable {delivery : ItemDelivery} {before after state : ItemState} {seed : UInt64}

theorem Course.refl (state : ItemState) : delivery.Course state state :=
  Relation.ReflTransGen.refl

theorem Step.course (h : delivery.Step before after) : delivery.Course before after := .single h

theorem Course.trans (h : delivery.Course before state) (h' : delivery.Course state after) :
    delivery.Course before after :=
  Relation.ReflTransGen.trans h h'

theorem Reachable.course (h : delivery.Reachable seed before)
    (hcourse : delivery.Course before after) : delivery.Reachable seed after := by
  obtain ⟨start, hstart, hbefore⟩ := h
  exact ⟨start, hstart, hbefore.trans hcourse⟩

/-! ### Moves along a course -/

section moves

variable {item : ItemDelivery} {now : Timestamp}

/-- Template processing is done, unless it was done before. -/
def Prepares (item : ItemDelivery) (before after : ItemState) : Prop :=
  if before.templateProcessed then after = before
  else ∃ log, item.processTemplate.run.run before = (.ok log, after)

/-- The item is presented. -/
def Enters (now : Timestamp) (item : ItemDelivery) (before after : ItemState) : Prop :=
  (item.enter now).run.run before = (.ok (), after)

/-- The clock is stopped if it runs. -/
def Suspends (now : Timestamp) (item : ItemDelivery) (before after : ItemState) : Prop :=
  if before.status = .interacting then (item.suspend now).run.run before = (.ok (), after)
  else after = before

/-- An attempt is made. -/
def Attempts (responses : SortedMap Identifier ResponseData) (now : Timestamp)
    (policy : SubmissionPolicy) (item : ItemDelivery) (before after : ItemState) : Prop :=
  ∃ log, (item.attempt responses now policy).run.run before = (.ok log, after)

/-- What waits to be scored when a part ends: attempts, and in a part that is scored at its end also
items without one. -/
def Waits (mode : SubmissionMode) (session : ItemState) : Prop :=
  session.status = .interacting ∧
    (session.pending = true ∨ mode = .simultaneous ∧ session.responseProcessed = false)

/-- What waits for it is scored. -/
def Scores (now : Timestamp) (mode : SubmissionMode) (item : ItemDelivery)
    (before after : ItemState) : Prop :=
  (Waits mode before ∧ ∃ log, (item.processResponse 0 now).run.run before = (.ok log, after)) ∨
    (¬Waits mode before ∧ after = before)

/-- The session is ended, unless it is over. -/
def Ends (now : Timestamp) (item : ItemDelivery) (before after : ItemState) : Prop :=
  if before.status = .closed then after = before
  else (item.endSession now).run.run before = (.ok (), after)

theorem Prepares.course (h : item.Prepares before after) : item.Course before after := by
  unfold Prepares at h
  split at h
  · exact h ▸ .refl _
  · obtain ⟨log, hrun⟩ := h
    exact (Step.processTemplate hrun).course

theorem Prepares.progress (h : item.Prepares before after) :
    after.progress = { before.progress with templateProcessed := true } := by
  unfold Prepares at h
  split at h
  next hprocessed =>
    rw [h, ← hprocessed]
    rfl
  next =>
    obtain ⟨log, hrun⟩ := h
    exact (item.ensures_processTemplate.ok hrun).2.2

theorem Enters.course (h : Enters now item before after) : item.Course before after :=
  (Step.enter now h).course

theorem Enters.progress (h : Enters now item before after) :
    after.progress = { before.progress with status := .interacting } :=
  ((item.ensures_enter now).ok h).2

theorem Suspends.course (h : Suspends now item before after) : item.Course before after := by
  unfold Suspends at h
  split at h
  · exact (Step.suspend now h).course
  · exact h ▸ .refl _

theorem Suspends.progress (h : Suspends now item before after) :
    after.progress = before.progress := by
  unfold Suspends at h
  split at h
  · exact ((item.ensures_suspend now).ok h).2
  · rw [h]

theorem Attempts.course {responses : SortedMap Identifier ResponseData} {policy : SubmissionPolicy}
    (h : Attempts responses now policy item before after) : item.Course before after := by
  obtain ⟨log, hrun⟩ := h
  exact (Step.attempt responses now policy hrun).course

theorem Attempts.progress {responses : SortedMap Identifier ResponseData}
    {policy : SubmissionPolicy} (h : Attempts responses now policy item before after) :
    before.status = .interacting ∧ before.templateProcessed = true ∧
      if policy.deferred then
        after.progress =
          { before.progress with responded := true, responseProcessed := false, pending := true }
      else
        ∃ status, status ≠ .notEntered ∧
          after.progress = { before.progress with responded := true }.scored status := by
  obtain ⟨log, hrun⟩ := h
  exact (item.ensures_attempt responses now policy).ok hrun

theorem Scores.course {mode : SubmissionMode} (h : Scores now mode item before after) :
    item.Course before after := by
  obtain ⟨-, log, hrun⟩ | ⟨-, rfl⟩ := h
  · exact (Step.processResponse 0 now hrun).course
  · exact .refl _

theorem Scores.progress {mode : SubmissionMode} (h : Scores now mode item before after) :
    (Waits mode before ∧ ∃ status, status ≠ .notEntered ∧
        after.progress = before.progress.scored status) ∨
      (¬Waits mode before ∧ after.progress = before.progress) := by
  refine h.imp (fun ⟨hwaits, log, hrun⟩ => ?_) fun ⟨hwaits, hafter⟩ => ⟨hwaits, by rw [hafter]⟩
  exact ⟨hwaits, ((item.ensures_processResponse 0 now).ok hrun).2⟩

theorem Ends.course (h : Ends now item before after) : item.Course before after := by
  unfold Ends at h
  split at h
  · exact h ▸ .refl _
  · exact (Step.endSession now h).course

theorem Ends.progress (h : Ends now item before after) :
    after.progress = { before.progress with status := .closed } := by
  unfold Ends at h
  split at h
  next hclosed =>
    rw [h, ← hclosed]
    rfl
  next => exact ((item.ensures_endSession now).ok h).2

end moves

/-! ### Answers to items that were presented -/

/-- An accepted operation leaves no answer to an item that was not presented. -/
theorem Step.presented_of_responded (h : delivery.Step before after)
    (hbefore : before.progress.responded = true → before.progress.status ≠ .notEntered)
    (hresponded : after.progress.responded = true) : after.progress.status ≠ .notEntered := by
  cases h with
  | processTemplate hrun =>
    obtain ⟨-, -, hafter⟩ := delivery.ensures_processTemplate.ok hrun
    rw [hafter] at hresponded ⊢
    exact hbefore hresponded
  | enter now hrun =>
    rw [((delivery.ensures_enter now).ok hrun).2]
    nofun
  | suspend now hrun =>
    obtain ⟨-, hafter⟩ := (delivery.ensures_suspend now).ok hrun
    rw [hafter] at hresponded ⊢
    exact hbefore hresponded
  | attempt responses now policy hrun =>
    obtain ⟨hstatus, -, hafter⟩ := Attempts.progress ⟨_, hrun⟩
    split at hafter
    next =>
      rw [hafter]
      exact ne_of_eq_of_ne hstatus nofun
    next =>
      obtain ⟨status, hpresented, hafter⟩ := hafter
      rw [hafter]
      exact hpresented
  | processResponse maxAttempts now hrun =>
    obtain ⟨-, status, hpresented, hafter⟩ :=
      (delivery.ensures_processResponse maxAttempts now).ok hrun
    rw [hafter]
    exact hpresented
  | endSession now hrun =>
    rw [((delivery.ensures_endSession now).ok hrun).2]
    nofun

/-- In all sessions that operations lead to, an item that was answered was presented. -/
theorem Reachable.isPresented_of_responded (h : delivery.Reachable seed state)
    (hresponded : state.responded = true) : state.isPresented = true := by
  obtain ⟨start, hstart, hcourse⟩ := h
  have hstates : state.progress.responded = true → state.progress.status ≠ .notEntered := by
    clear hresponded
    induction hcourse with
    | refl =>
      obtain rfl := Except.ok.inj hstart
      nofun
    | tail _ hstep ih => exact hstep.presented_of_responded ih
  exact decide_eq_true (hstates hresponded)

end ItemDelivery

end Assessment
