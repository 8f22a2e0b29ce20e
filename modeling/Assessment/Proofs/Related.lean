import Mathlib.Data.List.Forall2
import Assessment.SortedMap

/-!
# Lists and maps with related members

Two lists of which the members are related position by position, and two maps of the same keys in
which the values of each key are related. What is made of the members alike is the same, and what is
done to both keeps them related.

## Main definitions

- `SortedMap.Forall₂`: maps of the same keys with related values.

## Main results

- `map_eq_of_forall₂` and `mapM_eq_of_forall₂`: what is made of related members.
- `exists_mapM_of_forall₂`: what is computed of each member is computed of all of them.
- `SortedMap.Forall₂.get?` and `SortedMap.Forall₂.insert`: how related maps are read and changed.
- `SortedMap.forall₂_ofList`: maps of related entries are related.
-/

namespace Assessment

section lists

variable {α β γ : Type} {related : α → β → Prop} {members : List α} {members' : List β}

/-- What is made of related members is the same if it does not depend on where they differ. -/
theorem map_eq_of_forall₂ (h : List.Forall₂ related members members') {f : α → γ} {g : β → γ}
    (hfg : ∀ a b, related a b → g b = f a) : members'.map g = members.map f := by
  induction h with
  | nil => rfl
  | cons hfirst _ ih => rw [List.map_cons, List.map_cons, hfg _ _ hfirst, ih]

theorem countP_eq_of_forall₂ (h : List.Forall₂ related members members') {p : α → Bool}
    {q : β → Bool} (hpq : ∀ a b, related a b → q b = p a) :
    members'.countP q = members.countP p := by
  induction h with
  | nil => rfl
  | cons hfirst _ ih => rw [List.countP_cons, List.countP_cons, hpq _ _ hfirst, ih]

theorem all_eq_of_forall₂ (h : List.Forall₂ related members members') {p : α → Bool}
    {q : β → Bool} (hpq : ∀ a b, related a b → q b = p a) : members'.all q = members.all p := by
  induction h with
  | nil => rfl
  | cons hfirst _ ih => rw [List.all_cons, List.all_cons, hpq _ _ hfirst, ih]

/-- The same holds of what is computed of them one after the other. -/
theorem mapM_eq_of_forall₂ {m : Type → Type} [Monad m] [LawfulMonad m]
    (h : List.Forall₂ related members members') {f : α → m γ} {g : β → m γ}
    (hfg : ∀ a b, related a b → g b = f a) : members'.mapM g = members.mapM f := by
  induction h with
  | nil => simp
  | cons hfirst _ ih => rw [List.mapM_cons, List.mapM_cons, hfg _ _ hfirst, ih]

/-- Every member is related to one of the other list. -/
theorem exists_mem_of_forall₂ (h : List.Forall₂ related members members') {a : α}
    (ha : a ∈ members) : ∃ b ∈ members', related a b := by
  induction h with
  | nil => cases ha
  | cons hfirst _ ih =>
    obtain rfl | ha := List.mem_cons.1 ha
    · exact ⟨_, List.mem_cons_self, hfirst⟩
    · obtain ⟨b, hb, hrelated⟩ := ih ha
      exact ⟨b, List.mem_cons_of_mem _ hb, hrelated⟩

/-- What is computed of each member with success, and is related to the member of the other list, is
computed of all of them. -/
theorem exists_mapM_of_forall₂ {ε : Type} {f : α → Except ε γ} {goal : γ → β → Prop}
    (h : List.Forall₂ related members members')
    (hf : ∀ a, ∀ b ∈ members', related a b → ∃ c, f a = .ok c ∧ goal c b) :
    ∃ results, members.mapM f = .ok results ∧ List.Forall₂ goal results members' := by
  induction h with
  | nil => exact ⟨[], rfl, .nil⟩
  | cons hfirst _ ih =>
    obtain ⟨c, hc, hgoal⟩ := hf _ _ List.mem_cons_self hfirst
    obtain ⟨rest, hrest, hall⟩ := ih fun a b hb => hf a b (List.mem_cons_of_mem _ hb)
    refine ⟨c :: rest, ?_, .cons hgoal hall⟩
    rw [List.mapM_cons, hc, hrest]
    rfl

/-- If what is computed of each member is made of the member of the other list, so is all that is
computed. -/
theorem mapM_eq_ok_of_forall₂ {ε : Type} {f : α → Except ε γ} {g : β → γ}
    (h : List.Forall₂ related members members')
    (hf : ∀ a, ∀ b ∈ members', related a b → f a = .ok (g b)) :
    members.mapM f = .ok (members'.map g) := by
  obtain ⟨results, hresults, hall⟩ : ∃ results, members.mapM f = .ok results ∧
      List.Forall₂ (fun result b => result = g b) results members' :=
    exists_mapM_of_forall₂ h fun a b hb hab => ⟨g b, hf a b hb hab, rfl⟩
  rw [← List.forall₂_map_right_iff, List.forall₂_eq_eq_eq] at hall
  rw [hresults, hall]

/-- Where something is found for each member, nothing is left out. -/
theorem forall₂_filterMap_id {goal : γ → β → Prop} {found : List (Option γ)}
    (h : List.Forall₂ (fun found b => ∃ c, found = some c ∧ goal c b) found members') :
    List.Forall₂ goal (found.filterMap id) members' := by
  induction h with
  | nil => exact .nil
  | cons hfirst _ ih =>
    obtain ⟨c, rfl, hgoal⟩ := hfirst
    exact .cons hgoal ih

end lists

namespace SortedMap

variable {κ α β γ : Type} [Ord κ] {related : α → β → Prop} {first : SortedMap κ α}
  {second : SortedMap κ β}

/-- Two maps have the same keys, and the values of each key are related. -/
def Forall₂ (related : α → β → Prop) (first : SortedMap κ α) (second : SortedMap κ β) : Prop :=
  List.Forall₂ (fun entry entry' => entry.1 = entry'.1 ∧ related entry.2 entry'.2) first.entries
    second.entries

theorem Forall₂.get? (h : Forall₂ related first second) (key : κ) :
    Option.Rel related (first.get? key) (second.get? key) := by
  unfold Forall₂ at h
  unfold SortedMap.get?
  generalize first.entries = entries, second.entries = entries' at h ⊢
  induction h with
  | nil => exact .none
  | @cons entry entry' _ _ hentry _ ih =>
    obtain ⟨k, a⟩ := entry
    obtain ⟨_, b⟩ := entry'
    obtain ⟨rfl, hab⟩ := hentry
    by_cases hkey : compare key k = .eq
    · simpa [lookup, hkey] using hab
    · simpa [lookup, hkey] using ih

theorem Forall₂.insert [Std.TransOrd κ] (h : Forall₂ related first second) (key : κ) {a : α} {b : β}
    (hab : related a b) : Forall₂ related (first.insert key a) (second.insert key b) := by
  unfold Forall₂ at h
  change List.Forall₂ _ (place key a first.entries) (place key b second.entries)
  -- The keys are the same, so the new entry is put at the same place.
  generalize first.entries = entries, second.entries = entries' at h ⊢
  induction h with
  | nil => exact .cons ⟨rfl, hab⟩ .nil
  | @cons entry entry' _ _ hentry hrest ih =>
    obtain ⟨k, x⟩ := entry
    obtain ⟨_, y⟩ := entry'
    obtain ⟨rfl, hxy⟩ := hentry
    unfold place
    cases compare key k with
    | lt => exact .cons ⟨rfl, hab⟩ (.cons ⟨rfl, hxy⟩ hrest)
    | eq => exact .cons ⟨rfl, hab⟩ hrest
    | gt => exact .cons ⟨rfl, hxy⟩ ih

theorem forall₂_ofList [Std.TransOrd κ] {pairs : List (κ × α)} {pairs' : List (κ × β)}
    (h : List.Forall₂ (fun pair pair' => pair.1 = pair'.1 ∧ related pair.2 pair'.2) pairs pairs') :
    Forall₂ related (ofList pairs) (ofList pairs') := by
  have hall : ∀ {first : SortedMap κ α} {second : SortedMap κ β}, Forall₂ related first second →
      Forall₂ related (pairs.foldl (fun map pair => map.insert pair.1 pair.2) first)
        (pairs'.foldl (fun map pair => map.insert pair.1 pair.2) second) := by
    induction h with
    | nil => exact fun h => h
    | @cons pair pair' _ _ hpair _ ih =>
      intro first second h
      rw [List.foldl_cons, List.foldl_cons, hpair.1]
      exact ih (h.insert pair'.1 hpair.2)
  exact hall .nil

/-- What is made of related values is the same if it does not depend on where they differ. -/
theorem Forall₂.mapValues_eq (h : Forall₂ related first second) {f : α → γ} {g : β → γ}
    (hfg : ∀ a b, related a b → g b = f a) : second.mapValues g = first.mapValues f := by
  unfold Forall₂ at h
  apply ext_entries
  change second.entries.map _ = first.entries.map _
  generalize first.entries = entries, second.entries = entries' at h ⊢
  induction h with
  | nil => rfl
  | cons hentry _ ih => rw [List.map_cons, List.map_cons, ih, hentry.1, hfg _ _ hentry.2]

end SortedMap

end Assessment
