import Assessment.Proofs.Item.Course
import Assessment.Proofs.Plan.Building

/-!
# Sweeps over the items of a test

Operations on test sessions change the sessions of items one after the other. A sweep is such a run
over some items of the plan. Where the references of the test have distinct names, a sweep changes
the sessions of the items that it goes over, and leaves all others as they are.

## Main definitions

- `TestDelivery.Sweep`: the sessions of some items are changed one after the other.
- `SortedMap.Pointwise`: maps of the same keys with related values.
- `TestPlan.Fits`: what the progress of the session of an item is like.

## Main results

- `TestDelivery.Sweep.fits`: what every move keeps is kept by a sweep.
- `TestDelivery.Sweep.fits_of_mem`: what a move brings about holds of the items that are gone over.
- `TestDelivery.Sweep.fits_of_not_mem`: the other items are left as they are.
- `TestDelivery.Sweep.pointwise`, `TestDelivery.Sweep.exists_moves` and
  `TestDelivery.Sweep.get?_of_not_mem`: the same of whole sessions.
-/

namespace Assessment

/-! ### Maps with related values -/

namespace SortedMap

variable {κ α : Type} [Ord κ] {related related' : α → α → Prop}
  {before between after : SortedMap κ α}

/-- Two maps have the same keys, and the values of each key are related. -/
def Pointwise (related : α → α → Prop) (before after : SortedMap κ α) : Prop :=
  ∀ key, Option.Rel related (before.get? key) (after.get? key)

theorem Pointwise.refl (hrefl : ∀ value, related value value) (map : SortedMap κ α) :
    Pointwise related map map := by
  intro key
  cases map.get? key with
  | none => exact .none
  | some value => exact .some (hrefl value)

theorem Pointwise.trans (h : Pointwise related before between)
    (h' : Pointwise related between after)
    (htrans : ∀ {a b c}, related a b → related b c → related a c) :
    Pointwise related before after := by
  intro key
  have hfirst := h key
  have hsecond := h' key
  generalize before.get? key = first, between.get? key = second, after.get? key = third
    at hfirst hsecond
  cases hfirst with
  | none => exact hsecond
  | some hfirst =>
    cases hsecond with
    | some hsecond => exact .some (htrans hfirst hsecond)

/-- A value that was there has one that it is related to in its place. -/
theorem Pointwise.exists_right (h : Pointwise related before after) {key : κ} {value : α}
    (hvalue : before.get? key = some value) :
    ∃ later, after.get? key = some later ∧ related value later := by
  have hrel := h key
  rw [hvalue] at hrel
  generalize after.get? key = found at hrel
  cases hrel with
  | some hrelated => exact ⟨_, rfl, hrelated⟩

/-- A value that is there stands in the place of one that is related to it. -/
theorem Pointwise.exists_left (h : Pointwise related before after) {key : κ} {value : α}
    (hvalue : after.get? key = some value) :
    ∃ earlier, before.get? key = some earlier ∧ related earlier value := by
  have hrel := h key
  rw [hvalue] at hrel
  generalize before.get? key = found at hrel
  cases hrel with
  | some hrelated => exact ⟨_, rfl, hrelated⟩

/-- A value that is put in the place of one that is related to it. -/
theorem pointwise_insert [Std.TransOrd κ] [Std.LawfulEqOrd κ] {key : κ} {value changed : α}
    (hrefl : ∀ value, related value value) (hvalue : before.get? key = some value)
    (h : related value changed) : Pointwise related before (before.insert key changed) := by
  intro other
  by_cases hother : other = key
  · rw [hother, hvalue, get?_insert_self]
    exact .some h
  · rw [get?_insert_of_ne _ hother]
    exact Pointwise.refl hrefl before other

end SortedMap

/-! ### Sweeps -/

namespace TestDelivery

variable {delivery : TestDelivery} {now : Timestamp}

/-- The sessions of the items at some nodes of a plan are changed one after the other, each in a way
of which `moves` holds. -/
inductive Sweep (delivery : TestDelivery) (plan : TestPlan)
    (moves : ItemDelivery → ItemState → ItemState → Prop) :
    List Nat → SortedMap Identifier ItemState → SortedMap Identifier ItemState → Prop where
  /-- No item is changed. -/
  | nil {items : SortedMap Identifier ItemState} : Sweep delivery plan moves [] items items
  /-- One item is changed, and then the others. -/
  | cons {index : Nat} {rest : List Nat} {place : ItemPlace} {item : ItemDelivery}
      {session changed : ItemState} {items left : SortedMap Identifier ItemState} :
      plan.place index = .ok place → delivery.itemDelivery place = .ok item →
      items.get? place.ref = some session → moves item session changed →
      Sweep delivery plan moves rest (items.insert place.ref changed) left →
      Sweep delivery plan moves (index :: rest) items left

/-- An item whose session stays as it is may be passed over. -/
theorem Sweep.keep {plan : TestPlan} {moves : ItemDelivery → ItemState → ItemState → Prop}
    {index : Nat} {rest : List Nat} {place : ItemPlace} {item : ItemDelivery}
    {session : ItemState} {items left : SortedMap Identifier ItemState}
    (hplace : plan.place index = .ok place) (hitem : delivery.itemDelivery place = .ok item)
    (hsession : items.get? place.ref = some session) (hmoves : moves item session session)
    (hrest : Sweep delivery plan moves rest items left) :
    Sweep delivery plan moves (index :: rest) items left := by
  refine .cons hplace hitem hsession hmoves ?_
  rw [SortedMap.insert_of_get? hsession]
  exact hrest

/-- What the moves of a sweep keep of the sessions that it goes over is kept by the sweep. -/
theorem Sweep.forall_get?_of_mem {plan : TestPlan}
    {moves : ItemDelivery → ItemState → ItemState → Prop} {indices : List Nat}
    {items left : SortedMap Identifier ItemState} {keeps : Identifier → ItemState → Prop}
    (h : Sweep delivery plan moves indices items left)
    (hmoves : ∀ index ∈ indices, ∀ place item session changed, plan.place index = .ok place →
      moves item session changed → keeps place.ref session → keeps place.ref changed)
    (hitems : ∀ ref session, items.get? ref = some session → keeps ref session) :
    ∀ ref session, left.get? ref = some session → keeps ref session := by
  induction h with
  | nil => exact hitems
  | @cons index _ place item session changed _ _ hplace _ hsession hmove _ ih =>
    refine ih (fun i hi => hmoves i (List.mem_cons_of_mem _ hi)) fun ref found hfound => ?_
    obtain ⟨rfl, rfl⟩ | hfound := SortedMap.eq_or_get?_of_insert hfound
    · exact hmoves index List.mem_cons_self place item _ _ hplace hmove (hitems _ _ hsession)
    · exact hitems ref found hfound

/-- What the moves of a sweep keep of each session is kept by the sweep. -/
theorem Sweep.forall_get? {plan : TestPlan} {moves : ItemDelivery → ItemState → ItemState → Prop}
    {indices : List Nat} {items left : SortedMap Identifier ItemState}
    {keeps : Identifier → ItemState → Prop} (h : Sweep delivery plan moves indices items left)
    (hmoves : ∀ ref item session changed, moves item session changed → keeps ref session →
      keeps ref changed)
    (hitems : ∀ ref session, items.get? ref = some session → keeps ref session) :
    ∀ ref session, left.get? ref = some session → keeps ref session :=
  h.forall_get?_of_mem (fun _ _ place _ _ _ _ => hmoves place.ref _ _ _) hitems

/-- Stopping clocks changes no progress. -/
theorem Sweep.map_progress {plan : TestPlan} {indices : List Nat}
    {items left : SortedMap Identifier ItemState}
    (h : Sweep delivery plan (ItemDelivery.Suspends now) indices items left) (ref : Identifier) :
    (left.get? ref).map ItemState.progress = (items.get? ref).map ItemState.progress := by
  induction h with
  | nil => rfl
  | @cons _ _ place _ _ _ items _ _ _ hsession hmove _ ih =>
    rw [ih]
    by_cases href : ref = place.ref
    · rw [href, SortedMap.get?_insert_self, hsession, Option.map_some, Option.map_some,
        hmove.progress]
    · rw [SortedMap.get?_insert_of_ne items href]

/-- A session has the status after clocks were stopped that it had before. -/
theorem Sweep.exists_of_suspends {plan : TestPlan} {indices : List Nat}
    {items left : SortedMap Identifier ItemState} {ref : Identifier} {session : ItemState}
    (h : Sweep delivery plan (ItemDelivery.Suspends now) indices items left)
    (hsession : left.get? ref = some session) :
    ∃ before, items.get? ref = some before ∧ before.progress = session.progress := by
  have hsame := h.map_progress ref
  rw [hsession, Option.map_some, eq_comm, Option.map_eq_some_iff] at hsame
  exact hsame

/-! ### What a sweep does to each item -/

end TestDelivery

/-- The progress of the session of the item at a node is one of which `holds` holds. -/
def TestPlan.Fits (plan : TestPlan) (items : SortedMap Identifier ItemState) (index : Nat)
    (holds : ItemProgress → Prop) : Prop :=
  ∀ place session, plan.place index = .ok place → items.get? place.ref = some session →
    holds session.progress

namespace TestDelivery

variable {plan : TestPlan} {moves : ItemDelivery → ItemState → ItemState → Prop}
  {indices : List Nat} {items left : SortedMap Identifier ItemState} {index : Nat}
  {holds becomes : ItemProgress → Prop}

/-- A sweep loses no session and makes none. -/
theorem Sweep.contains_iff (h : Sweep delivery plan moves indices items left) (ref : Identifier) :
    left.contains ref = true ↔ items.contains ref = true := by
  induction h with
  | nil => exact Iff.rfl
  | cons _ _ hsession _ _ ih =>
    rw [ih, SortedMap.contains_insert]
    refine or_iff_right_of_imp ?_
    rintro rfl
    exact Option.isSome_of_eq_some hsession

/-- What every move keeps is kept by a sweep. -/
theorem Sweep.fits (h : Sweep delivery plan moves indices items left)
    (hmoves : ∀ {item session changed}, moves item session changed → holds session.progress →
      holds changed.progress)
    (hfits : plan.Fits items index holds) : plan.Fits left index holds := by
  intro place session hplace hsession
  have hkeeps : ∀ ref session, left.get? ref = some session → ref = place.ref →
      holds session.progress := by
    refine h.forall_get? (fun _ _ _ _ hmove hbefore href => hmoves hmove (hbefore href)) ?_
    rintro _ before hbefore rfl
    exact hfits place before hplace hbefore
  exact hkeeps place.ref session hsession rfl

/-- What relates a session to what each move makes of it relates the sessions before a sweep to
those after it. -/
theorem Sweep.pointwise {related : ItemState → ItemState → Prop}
    (h : Sweep delivery plan moves indices items left)
    (hrefl : ∀ session, related session session)
    (htrans : ∀ {a b c}, related a b → related b c → related a c)
    (hmoves : ∀ {item session changed}, moves item session changed → related session changed) :
    SortedMap.Pointwise related items left := by
  induction h with
  | nil => exact .refl hrefl _
  | cons _ _ hsession hmove _ ih =>
    exact (SortedMap.pointwise_insert hrefl hsession (hmoves hmove)).trans ih htrans

/-- What every move brings about holds of the items that a sweep goes over. -/
theorem Sweep.fits_of_moves (h : Sweep delivery plan moves indices items left)
    (hindex : index ∈ indices)
    (hmoves : ∀ {item session changed}, moves item session changed → becomes changed.progress) :
    plan.Fits left index becomes := by
  induction h with
  | nil => cases hindex
  | @cons first _ place _ _ changed _ _ hplace _ _ hmove hrest ih =>
    by_cases hfirst : index = first
    · subst hfirst
      refine hrest.fits (fun hlater _ => hmoves hlater) fun place' session' hplace' hsession' => ?_
      obtain rfl := Except.ok.inj (hplace.symm.trans hplace')
      rw [SortedMap.get?_insert_self] at hsession'
      cases hsession'
      exact hmoves hmove
    · exact ih ((List.mem_cons.1 hindex).resolve_left hfirst)

variable (hdistinct : ∀ {i j : Nat} {place place' : ItemPlace}, plan.place i = .ok place →
  plan.place j = .ok place' → place.ref = place'.ref → i = j)

include hdistinct

/-- A move at one item leaves the others as they are. -/
theorem fits_insert_of_ne {other : Nat} {place : ItemPlace} {changed : ItemState}
    (hplace : plan.place other = .ok place) (hne : index ≠ other)
    (hfits : plan.Fits items index holds) :
    plan.Fits (items.insert place.ref changed) index holds := by
  intro place' session hplace' hsession
  have href : place'.ref ≠ place.ref := fun href => hne (hdistinct hplace' hplace href)
  rw [SortedMap.get?_insert_of_ne items href] at hsession
  exact hfits place' session hplace' hsession

/-- The items that a sweep does not go over are left as they are. -/
theorem Sweep.fits_of_not_mem (h : Sweep delivery plan moves indices items left)
    (hindex : index ∉ indices) (hfits : plan.Fits items index holds) :
    plan.Fits left index holds := by
  induction h with
  | nil => exact hfits
  | cons hplace _ _ _ _ ih =>
    rw [List.mem_cons, not_or] at hindex
    exact ih hindex.2 (fits_insert_of_ne hdistinct hplace hindex.1 hfits)

/-- What a move brings about, and further moves keep, holds of the items that a sweep goes over. -/
theorem Sweep.fits_of_mem (h : Sweep delivery plan moves indices items left)
    (hindex : index ∈ indices)
    (hmoves : ∀ {item session changed}, moves item session changed → holds session.progress →
      becomes changed.progress)
    (hkeeps : ∀ {item session changed}, moves item session changed → becomes session.progress →
      becomes changed.progress)
    (hfits : plan.Fits items index holds) : plan.Fits left index becomes := by
  -- At the first visit the move brings it about, and the rest of the sweep keeps it, also where it
  -- comes by again.
  induction h with
  | nil => cases hindex
  | @cons first _ place _ _ _ _ _ hplace _ hsession hmove hrest ih =>
    by_cases hfirst : index = first
    · subst hfirst
      refine hrest.fits hkeeps fun place' session' hplace' hsession' => ?_
      obtain rfl := Except.ok.inj (hplace.symm.trans hplace')
      rw [SortedMap.get?_insert_self] at hsession'
      cases hsession'
      exact hmoves hmove (hfits place _ hplace hsession)
    · have hmem := (List.mem_cons.1 hindex).resolve_left hfirst
      exact ih hmem (fits_insert_of_ne hdistinct hplace hfirst hfits)

/-- The session of an item that a sweep does not go over stays as it is. -/
theorem Sweep.get?_of_not_mem (h : Sweep delivery plan moves indices items left)
    (hindex : index ∉ indices) {place : ItemPlace} (hplace : plan.place index = .ok place) :
    left.get? place.ref = items.get? place.ref := by
  induction h with
  | nil => rfl
  | cons hfirst _ _ _ _ ih =>
    rw [List.mem_cons, not_or] at hindex
    rw [ih hindex.2, SortedMap.get?_insert_of_ne]
    exact fun href => hindex.1 (hdistinct hplace hfirst href)

/-- A sweep that goes over an item once changes its session by one move. -/
theorem Sweep.exists_moves (h : Sweep delivery plan moves indices items left)
    (hnodup : indices.Nodup) (hindex : index ∈ indices) {place : ItemPlace}
    (hplace : plan.place index = .ok place) :
    ∃ item session changed, delivery.itemDelivery place = .ok item ∧
      items.get? place.ref = some session ∧ left.get? place.ref = some changed ∧
      moves item session changed := by
  induction h with
  | nil => cases hindex
  | @cons first _ firstPlace item session changed items _ hfirst hitem hsession hmove hrest ih =>
    rw [List.nodup_cons] at hnodup
    by_cases hsame : index = first
    · subst hsame
      obtain rfl := Except.ok.inj (hplace.symm.trans hfirst)
      refine ⟨item, session, changed, hitem, hsession, ?_, hmove⟩
      rw [hrest.get?_of_not_mem hdistinct hnodup.1 hplace, SortedMap.get?_insert_self]
    · have href : place.ref ≠ firstPlace.ref := fun href => hsame (hdistinct hplace hfirst href)
      obtain ⟨item, before, after, hitem, hbefore, hafter, hmoves⟩ :=
        ih hnodup.2 ((List.mem_cons.1 hindex).resolve_left hsame)
      rw [SortedMap.get?_insert_of_ne _ href] at hbefore
      exact ⟨item, before, after, hitem, hbefore, hafter, hmoves⟩

/-- A sweep that goes over no item twice changes the session of an item by one move at most. -/
theorem Sweep.exists_eq_or_moves (h : Sweep delivery plan moves indices items left)
    (hnodup : indices.Nodup) {place : ItemPlace} {item : ItemDelivery} {session : ItemState}
    (hplace : plan.place index = .ok place) (hitem : delivery.itemDelivery place = .ok item)
    (hsession : items.get? place.ref = some session) :
    ∃ changed, left.get? place.ref = some changed ∧
      (changed = session ∨ moves item session changed) := by
  by_cases hindex : index ∈ indices
  · obtain ⟨found, before, changed, hfound, hbefore, hchanged, hmoves⟩ :=
      h.exists_moves hdistinct hnodup hindex hplace
    obtain rfl := Except.ok.inj (hitem.symm.trans hfound)
    obtain rfl := Option.some.inj (hsession.symm.trans hbefore)
    exact ⟨changed, hchanged, .inr hmoves⟩
  · exact ⟨session, (h.get?_of_not_mem hdistinct hindex hplace).trans hsession, .inl rfl⟩

/-- Where moves are along courses, a sweep moves each session along its course. -/
theorem Sweep.course (h : Sweep delivery plan moves indices items left)
    (hmoves : ∀ {item session changed}, moves item session changed → item.Course session changed)
    {place : ItemPlace} {item : ItemDelivery} {session : ItemState}
    (hplace : plan.place index = .ok place) (hitem : delivery.itemDelivery place = .ok item)
    (hsession : items.get? place.ref = some session) :
    ∃ changed, left.get? place.ref = some changed ∧ item.Course session changed := by
  induction h generalizing session with
  | nil => exact ⟨session, hsession, .refl _⟩
  | @cons first _ firstPlace _ _ next items _ hfirst hfirstItem hfound hmove _ ih =>
    by_cases href : place.ref = firstPlace.ref
    -- It is the session of this very item that is changed.
    · cases hdistinct hplace hfirst href
      cases hplace.symm.trans hfirst
      cases hitem.symm.trans hfirstItem
      cases hsession.symm.trans hfound
      obtain ⟨changed, hchanged, hcourse⟩ := ih (SortedMap.get?_insert_self _ _ _)
      exact ⟨changed, hchanged, (hmoves hmove).trans hcourse⟩
    · refine ih ?_
      rw [SortedMap.get?_insert_of_ne items href]
      exact hsession

end TestDelivery

end Assessment
