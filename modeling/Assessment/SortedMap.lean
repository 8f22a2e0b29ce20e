/-!
# Sorted maps

Finite maps kept as association lists in strictly increasing key order. A map has exactly one
representation, so two maps with the same bindings are equal, and listing a map needs no sorting.

`get?_insert_self` and `get?_insert_of_ne` say what an insertion does to look-ups, and
`contains_insert` what it does to the set of keys. `get?_ofList` and `contains_ofList` say the same
of a list of bindings.
-/

namespace Assessment

/-- A finite map from `κ` to `α`, listed in increasing key order. -/
structure SortedMap (κ : Type) (α : Type) [Ord κ] where
  /-- The bindings in key order. -/
  entries : List (κ × α)
  /-- Keys increase strictly along the list. -/
  sorted : entries.Pairwise fun a b => compare a.1 b.1 = .lt

namespace SortedMap

variable {κ α β : Type} [Ord κ]

/-- The map without bindings. -/
def empty : SortedMap κ α := ⟨[], .nil⟩

instance : Inhabited (SortedMap κ α) := ⟨empty⟩

instance : EmptyCollection (SortedMap κ α) := ⟨empty⟩

instance [BEq κ] [BEq α] : BEq (SortedMap κ α) := ⟨fun a b => a.entries == b.entries⟩

@[ext]
theorem ext_entries {a b : SortedMap κ α} (h : a.entries = b.entries) : a = b := by
  cases a; cases b; cases h; rfl

/-- Look up a key in an association list. -/
def lookup (key : κ) : List (κ × α) → Option α
  | [] => none
  | (k, v) :: rest => if compare key k = .eq then some v else lookup key rest

/-- Put a binding into its place in a sorted association list, replacing one of the same key. -/
def place (key : κ) (value : α) : List (κ × α) → List (κ × α)
  | [] => [(key, value)]
  | (k, v) :: rest =>
    match compare key k with
    | .lt => (key, value) :: (k, v) :: rest
    | .eq => (key, value) :: rest
    | .gt => (k, v) :: place key value rest

/-- Take the binding of a key out of an association list. -/
def drop (key : κ) : List (κ × α) → List (κ × α)
  | [] => []
  | (k, v) :: rest => if compare key k = .eq then rest else (k, v) :: drop key rest

theorem mem_place {key : κ} {value : α} {entries : List (κ × α)} {entry : κ × α}
    (h : entry ∈ place key value entries) : entry = (key, value) ∨ entry ∈ entries := by
  induction entries with
  | nil => simpa [place] using h
  | cons head rest ih =>
    obtain ⟨k, v⟩ := head
    unfold place at h
    split at h
    · simpa using h
    · rcases List.mem_cons.1 h with h | h
      · exact .inl h
      · exact .inr (List.mem_cons_of_mem _ h)
    · rcases List.mem_cons.1 h with h | h
      · exact .inr (h ▸ List.mem_cons_self)
      · rcases ih h with h | h
        · exact .inl h
        · exact .inr (List.mem_cons_of_mem _ h)

theorem mem_of_mem_drop {key : κ} {entries : List (κ × α)} {entry : κ × α}
    (h : entry ∈ drop key entries) : entry ∈ entries := by
  induction entries with
  | nil => simp [drop] at h
  | cons head rest ih =>
    obtain ⟨k, v⟩ := head
    unfold drop at h
    split at h
    · exact List.mem_cons_of_mem _ h
    · rcases List.mem_cons.1 h with h | h
      · exact h ▸ List.mem_cons_self
      · exact List.mem_cons_of_mem _ (ih h)

theorem sorted_drop {key : κ} {entries : List (κ × α)}
    (h : entries.Pairwise fun a b => compare a.1 b.1 = .lt) :
    (drop key entries).Pairwise fun a b => compare a.1 b.1 = .lt := by
  induction entries with
  | nil => exact .nil
  | cons head rest ih =>
    obtain ⟨k, v⟩ := head
    obtain ⟨first, later⟩ := List.pairwise_cons.1 h
    unfold drop
    split
    · exact later
    · exact List.pairwise_cons.2 ⟨fun e he => first e (mem_of_mem_drop he), ih later⟩

theorem sorted_place [Std.TransOrd κ] {key : κ} {value : α} {entries : List (κ × α)}
    (h : entries.Pairwise fun a b => compare a.1 b.1 = .lt) :
    (place key value entries).Pairwise fun a b => compare a.1 b.1 = .lt := by
  induction entries with
  | nil => simp [place]
  | cons head rest ih =>
    obtain ⟨k, v⟩ := head
    obtain ⟨first, later⟩ := List.pairwise_cons.1 h
    unfold place
    split
    case h_1 order =>
      refine List.pairwise_cons.2 ⟨?_, h⟩
      intro e he
      rcases List.mem_cons.1 he with rfl | he
      · exact order
      · exact Std.TransCmp.lt_trans order (first e he)
    case h_2 order =>
      refine List.pairwise_cons.2 ⟨fun e he => ?_, later⟩
      exact Std.TransCmp.lt_of_eq_of_lt order (first e he)
    case h_3 order =>
      refine List.pairwise_cons.2 ⟨fun e he => ?_, ih later⟩
      rcases mem_place he with rfl | he
      · exact Std.OrientedCmp.lt_of_gt order
      · exact first e he

/-- The value bound to a key. -/
def get? (map : SortedMap κ α) (key : κ) : Option α := lookup key map.entries

/-- Whether a key is bound. -/
def contains (map : SortedMap κ α) (key : κ) : Bool := (map.get? key).isSome

/-- Bind a key, replacing an earlier binding. -/
def insert [Std.TransOrd κ] (map : SortedMap κ α) (key : κ) (value : α) : SortedMap κ α :=
  ⟨place key value map.entries, sorted_place map.sorted⟩

/-- Remove a key. -/
def erase (map : SortedMap κ α) (key : κ) : SortedMap κ α :=
  ⟨drop key map.entries, sorted_drop map.sorted⟩

/-- Bind every listed pair in turn; of two pairs with one key the later wins. -/
def ofList [Std.TransOrd κ] (pairs : List (κ × α)) : SortedMap κ α :=
  pairs.foldl (fun map pair => map.insert pair.1 pair.2) empty

/-- The bindings in key order. -/
def toList (map : SortedMap κ α) : List (κ × α) := map.entries

/-- The keys in order. -/
def keys (map : SortedMap κ α) : List κ := map.entries.map (·.1)

/-- The values in key order. -/
def values (map : SortedMap κ α) : List α := map.entries.map (·.2)

/-- The number of bindings. -/
def size (map : SortedMap κ α) : Nat := map.entries.length

/-- Whether there are no bindings. -/
def isEmpty (map : SortedMap κ α) : Bool := map.entries.isEmpty

/-- Change every value and keep the keys. -/
def mapValues (f : α → β) (map : SortedMap κ α) : SortedMap κ β :=
  ⟨map.entries.map fun entry => (entry.1, f entry.2), by
    rw [List.pairwise_map]; exact map.sorted⟩

/-! ### What an insertion does to look-ups -/

@[simp]
theorem get?_empty (key : κ) : (empty : SortedMap κ α).get? key = none := rfl

theorem lookup_place_self [Std.TransOrd κ] (key : κ) (value : α) (entries : List (κ × α)) :
    lookup key (place key value entries) = some value := by
  induction entries with
  | nil => simp [place, lookup]
  | cons head rest ih =>
    obtain ⟨k, v⟩ := head
    unfold place
    split
    · simp [lookup]
    · simp [lookup]
    · rename_i order
      simp [lookup, order, ih]

theorem lookup_place_of_ne [Std.TransOrd κ] {key other : κ} (h : compare other key ≠ .eq)
    (value : α) (entries : List (κ × α)) :
    lookup other (place key value entries) = lookup other entries := by
  induction entries with
  | nil => simp [place, lookup, h]
  | cons head rest ih =>
    obtain ⟨k, v⟩ := head
    unfold place
    split
    · simp [lookup, h]
    · rename_i order
      have : compare other k ≠ .eq := fun hk =>
        h (Std.TransCmp.eq_trans hk (Std.OrientedCmp.eq_symm order))
      simp [lookup, h, this]
    · simp only [lookup, ih]

@[simp]
theorem get?_insert_self [Std.TransOrd κ] (map : SortedMap κ α) (key : κ) (value : α) :
    (map.insert key value).get? key = some value :=
  lookup_place_self key value map.entries

theorem get?_insert_of_ne [Std.TransOrd κ] [Std.LawfulEqOrd κ] (map : SortedMap κ α)
    {key other : κ} (h : other ≠ key) (value : α) :
    (map.insert key value).get? other = map.get? other :=
  lookup_place_of_ne (fun hc => h (Std.LawfulEqCmp.eq_of_compare hc)) value map.entries

/-- What is found after an insertion was inserted, or was there before. -/
theorem eq_or_get?_of_insert [Std.TransOrd κ] [Std.LawfulEqOrd κ] {map : SortedMap κ α}
    {key other : κ} {value found : α} (h : (map.insert key value).get? other = some found) :
    (other = key ∧ found = value) ∨ map.get? other = some found := by
  by_cases hkey : other = key
  · subst hkey
    rw [get?_insert_self] at h
    exact .inl ⟨rfl, (Option.some.inj h).symm⟩
  · rw [get?_insert_of_ne map hkey] at h
    exact .inr h

theorem contains_insert [Std.TransOrd κ] [Std.LawfulEqOrd κ] (map : SortedMap κ α)
    (key other : κ) (value : α) :
    (map.insert key value).contains other = true ↔ other = key ∨ map.contains other = true := by
  by_cases h : other = key
  · subst h
    simp [contains]
  · simp [contains, get?_insert_of_ne map h value, h]

theorem mem_of_lookup [Std.LawfulEqOrd κ] {key : κ} {value : α} {entries : List (κ × α)}
    (h : lookup key entries = some value) : (key, value) ∈ entries := by
  induction entries with
  | nil => cases h
  | cons head rest ih =>
    obtain ⟨k, v⟩ := head
    rw [lookup] at h
    split at h
    next hk =>
      cases Std.LawfulEqCmp.eq_of_compare hk
      cases h
      exact List.mem_cons_self
    next => exact List.mem_cons_of_mem _ (ih h)

/-- What is found is listed. -/
theorem mem_toList_of_get? [Std.LawfulEqOrd κ] {map : SortedMap κ α} {key : κ} {value : α}
    (h : map.get? key = some value) : (key, value) ∈ map.toList :=
  mem_of_lookup h

theorem place_of_lookup [Std.TransOrd κ] [Std.LawfulEqOrd κ] {key : κ} {value : α}
    {entries : List (κ × α)} (hsorted : entries.Pairwise fun a b => compare a.1 b.1 = .lt)
    (h : lookup key entries = some value) : place key value entries = entries := by
  induction entries with
  | nil => cases h
  | cons head rest ih =>
    obtain ⟨k, v⟩ := head
    obtain ⟨first, later⟩ := List.pairwise_cons.1 hsorted
    rw [lookup] at h
    by_cases hk : compare key k = .eq
    · rw [if_pos hk] at h
      cases h
      cases Std.LawfulEqCmp.eq_of_compare hk
      simp [place]
    · rw [if_neg hk] at h
      have hgt : compare key k = .gt := Std.OrientedCmp.gt_of_lt (first _ (mem_of_lookup h))
      simp [place, hgt, ih later h]

/-- Binding a key to the value that it has changes nothing. -/
theorem insert_of_get? [Std.TransOrd κ] [Std.LawfulEqOrd κ] {map : SortedMap κ α} {key : κ}
    {value : α} (h : map.get? key = some value) : map.insert key value = map :=
  ext_entries (place_of_lookup map.sorted h)

/-! ### What a list of bindings does to look-ups -/

section ofList

variable [Std.TransOrd κ] [Std.LawfulEqOrd κ] {pairs : List (κ × α)} {key : κ} {value : α}

theorem get?_foldl_of_ne (map : SortedMap κ α) (h : ∀ pair ∈ pairs, key ≠ pair.1) :
    (pairs.foldl (fun map pair => map.insert pair.1 pair.2) map).get? key = map.get? key := by
  induction pairs generalizing map with
  | nil => rfl
  | cons first rest ih =>
    rw [List.foldl_cons, ih _ fun pair hpair => h pair (List.mem_cons_of_mem _ hpair)]
    exact get?_insert_of_ne map (h first List.mem_cons_self) first.2

theorem get?_foldl_of_mem (map : SortedMap κ α)
    (hdistinct : pairs.Pairwise fun first later => first.1 ≠ later.1)
    (h : (key, value) ∈ pairs) :
    (pairs.foldl (fun map pair => map.insert pair.1 pair.2) map).get? key = some value := by
  induction pairs generalizing map with
  | nil => cases h
  | cons first rest ih =>
    obtain ⟨hfirst, hrest⟩ := List.pairwise_cons.1 hdistinct
    rw [List.foldl_cons]
    rcases List.mem_cons.1 h with rfl | h
    · rw [get?_foldl_of_ne _ hfirst, get?_insert_self]
    · exact ih _ hrest h

/-- Of pairs with different keys each is bound. -/
theorem get?_ofList (hdistinct : pairs.Pairwise fun first later => first.1 ≠ later.1)
    (h : (key, value) ∈ pairs) : (ofList pairs).get? key = some value :=
  get?_foldl_of_mem empty hdistinct h

theorem mem_of_get?_foldl {map : SortedMap κ α}
    (h : (pairs.foldl (fun map pair => map.insert pair.1 pair.2) map).get? key = some value) :
    (key, value) ∈ pairs ∨ map.get? key = some value := by
  induction pairs generalizing map with
  | nil => exact .inr h
  | cons first rest ih =>
    rw [List.foldl_cons] at h
    obtain hrest | hinsert := ih h
    · exact .inl (List.mem_cons_of_mem _ hrest)
    · obtain ⟨rfl, rfl⟩ | hmap := eq_or_get?_of_insert hinsert
      · exact .inl List.mem_cons_self
      · exact .inr hmap

/-- What is found among some pairs is one of them. -/
theorem mem_of_get?_ofList (h : (ofList pairs).get? key = some value) : (key, value) ∈ pairs := by
  obtain hmem | hempty := mem_of_get?_foldl h
  · exact hmem
  · cases hempty

theorem contains_foldl (map : SortedMap κ α) :
    (pairs.foldl (fun map pair => map.insert pair.1 pair.2) map).contains key = true ↔
      key ∈ pairs.map (·.1) ∨ map.contains key = true := by
  induction pairs generalizing map with
  | nil => simp
  | cons first rest ih =>
    rw [List.foldl_cons, ih, contains_insert, List.map_cons, List.mem_cons, or_left_comm, or_assoc]

/-- The keys of some pairs are bound, and no others. -/
theorem contains_ofList : (ofList pairs).contains key = true ↔ key ∈ pairs.map (·.1) := by
  rw [ofList, contains_foldl]
  simp [contains]

end ofList

end SortedMap

end Assessment
