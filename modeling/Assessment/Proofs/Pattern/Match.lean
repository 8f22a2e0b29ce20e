import Mathlib.Data.List.Basic
import Mathlib.Order.Nat
import Assessment.Pattern.Basic

/-!
# What patterns match

A pattern matches the part of a text between two positions. Which parts these are is said by the
pattern alone: a repetition matches a part that is as many parts one behind the other as its bounds
allow. The search goes from sets of positions to sets of positions instead and keeps no more rounds
of a repetition than the text has characters. This module says that it finds exactly the matches.

## Main definitions

- `Pattern.Spans`: a pattern matches the part of a text between two positions.
- `Pattern.Proper`: the bounds of all repetitions are in order.

## Main results

- `Pattern.rounds_min_iff`: of more rounds than characters one goes nowhere.
- `Pattern.mem_reach_iff`: the positions that the search for a repetition collects.
- `Pattern.traces_advance`: the positions that the search finds are those where a match ends.
- `Pattern.occursIn_eq_true_iff`: the search answers whether there is a match.
- `Pattern.occursIn_whole`: with anchors around it a pattern is searched for as the whole text.
-/

namespace Assessment

namespace Pattern

/-! ### Rounds -/

/-- So many steps one after the other. -/
def Rounds (step : Nat → Nat → Prop) : Nat → Nat → Nat → Prop
  | 0, i, j => i = j
  | count + 1, i, j => ∃ k, step i k ∧ Rounds step count k j

section Rounds

variable {step : Nat → Nat → Prop} {count more i j k size : Nat}

theorem rounds_add : Rounds step (count + more) i j ↔
    ∃ k, Rounds step count i k ∧ Rounds step more k j := by
  induction count generalizing i with
  | zero => simp [Rounds]
  | succ count ih =>
    rw [Nat.succ_add]
    simp only [Rounds, ih]
    constructor
    · rintro ⟨l, hstep, k, hcount, hmore⟩
      exact ⟨k, ⟨l, hstep, hcount⟩, hmore⟩
    · rintro ⟨k, ⟨l, hstep, hcount⟩, hmore⟩
      exact ⟨l, hstep, k, hcount, hmore⟩

theorem rounds_one : Rounds step 1 i j ↔ step i j := by simp [Rounds]

theorem Rounds.le (hstep : ∀ i j, step i j → i ≤ j) (h : Rounds step count i j) : i ≤ j := by
  induction count generalizing i with
  | zero => exact Nat.le_of_eq h
  | succ count ih =>
    obtain ⟨k, hfirst, hrest⟩ := h
    exact Nat.le_trans (hstep i k hfirst) (ih hrest)

theorem Rounds.le_size (hsize : ∀ i j, step i j → i ≤ size → j ≤ size)
    (h : Rounds step count i j) (hi : i ≤ size) : j ≤ size := by
  induction count generalizing i with
  | zero => exact h ▸ hi
  | succ count ih =>
    obtain ⟨k, hfirst, hrest⟩ := h
    exact ih hrest (hsize i k hfirst hi)

/-- If there are more rounds than positions to go on, then one of them goes nowhere. -/
theorem Rounds.exists_stay (hstep : ∀ i j, step i j → i ≤ j) (h : Rounds step count i j)
    (hcount : j - i < count) :
    ∃ k before after, count = before + 1 + after ∧ Rounds step before i k ∧ step k k ∧
      Rounds step after k j := by
  induction count generalizing i with
  | zero => omega
  | succ count ih =>
    obtain ⟨l, hfirst, hrest⟩ := h
    obtain rfl | hne := eq_or_ne i l
    · exact ⟨i, 0, count, by omega, rfl, hfirst, hrest⟩
    · have hle := hstep i l hfirst
      have hrestLe := hrest.le hstep
      obtain ⟨k, before, after, hsum, hbefore, hstay, hafter⟩ := ih hrest (by omega)
      exact ⟨k, before + 1, after, by omega, ⟨l, hfirst, hbefore⟩, hstay, hafter⟩

/-- Of more rounds than characters one can be left out. -/
theorem Rounds.pred (hstep : ∀ i j, step i j → i ≤ j)
    (hsize : ∀ i j, step i j → i ≤ size → j ≤ size) (hi : i ≤ size) (hcount : size ≤ count)
    (h : Rounds step (count + 1) i j) : Rounds step count i j := by
  have hj := h.le_size hsize hi
  obtain ⟨k, before, after, hsum, hbefore, -, hafter⟩ := h.exists_stay hstep (by omega)
  obtain rfl : count = before + after := by omega
  exact rounds_add.2 ⟨k, hbefore, hafter⟩

/-- Of more rounds than characters one can be gone twice. -/
theorem Rounds.succ (hstep : ∀ i j, step i j → i ≤ j)
    (hsize : ∀ i j, step i j → i ≤ size → j ≤ size) (hi : i ≤ size) (hcount : size < count)
    (h : Rounds step count i j) : Rounds step (count + 1) i j := by
  have hj := h.le_size hsize hi
  obtain ⟨k, before, after, rfl, hbefore, hstay, hafter⟩ := h.exists_stay hstep (by omega)
  have hmore : Rounds step (after + 1 + 1) k j := ⟨k, hstay, k, hstay, hafter⟩
  rw [show before + 1 + after + 1 = before + (after + 1 + 1) by omega]
  exact rounds_add.2 ⟨k, hbefore, hmore⟩

/-- No more rounds are needed than the text has characters. -/
theorem Rounds.min_size (hstep : ∀ i j, step i j → i ≤ j)
    (hsize : ∀ i j, step i j → i ≤ size → j ≤ size) (hi : i ≤ size) (h : Rounds step count i j) :
    Rounds step (min count size) i j := by
  obtain hcount | hcount := Nat.le_total count size
  · rwa [Nat.min_eq_left hcount]
  · rw [Nat.min_eq_right hcount]
    induction count, hcount using Nat.le_induction with
    | base => exact h
    | succ count hcount ih => exact ih (h.pred hstep hsize hi hcount)

/-- Beyond the size of the text the number of rounds does not matter. -/
theorem rounds_min_iff (hstep : ∀ i j, step i j → i ≤ j)
    (hsize : ∀ i j, step i j → i ≤ size → j ≤ size) (hi : i ≤ size) :
    Rounds step (min count (size + 1)) i j ↔ Rounds step count i j := by
  obtain hcount | hcount := Nat.le_total count (size + 1)
  · rw [Nat.min_eq_left hcount]
  · rw [Nat.min_eq_right hcount]
    induction count, hcount using Nat.le_induction with
    | base => exact Iff.rfl
    | succ count hcount ih =>
      exact ih.trans ⟨fun h => h.succ hstep hsize hi hcount,
        fun h => h.pred hstep hsize hi (by omega)⟩

end Rounds

/-! ### Sets of positions -/

theorem mem_unite_iff {first second : List Nat} {i : Nat} :
    i ∈ unite first second ↔ i ∈ first ∨ i ∈ second := by
  fun_induction unite first second with grind

theorem mem_of_mem_without {first second : List Nat} {i : Nat} (h : i ∈ without first second) :
    i ∈ first := by
  fun_induction without first second with grind

theorem mem_without_or_mem {first second : List Nat} {i : Nat} (h : i ∈ first) :
    i ∈ without first second ∨ i ∈ second := by
  fun_induction without first second with grind

/-- A step from sets of positions goes where a relation of positions goes, as long as these are
positions of a text. -/
def Traces (size : Nat) (step : List Nat → List Nat) (relation : Nat → Nat → Prop) : Prop :=
  ∀ positions, (∀ i ∈ positions, i ≤ size) →
    ∀ j, j ∈ step positions ↔ ∃ i ∈ positions, relation i j

section reach

variable {step : List Nat → List Nat} {relation : Nat → Nat → Prop} {size : Nat}

theorem mem_repeat_iff (hstep : Traces size step relation)
    (hsize : ∀ i j, relation i j → i ≤ size → j ≤ size) {positions : List Nat}
    (hpositions : ∀ i ∈ positions, i ≤ size) (count : Nat) {j : Nat} :
    j ∈ Nat.repeat step count positions ↔ ∃ i ∈ positions, Rounds relation count i j := by
  induction count generalizing j with
  | zero => simp [Nat.repeat, Rounds]
  | succ count ih =>
    have hreached : ∀ k ∈ Nat.repeat step count positions, k ≤ size := by
      intro k hk
      obtain ⟨i, hi, hrounds⟩ := ih.1 hk
      exact hrounds.le_size hsize (hpositions i hi)
    rw [Nat.repeat, hstep _ hreached]
    simp only [rounds_add, rounds_one, ih]
    constructor
    · rintro ⟨k, ⟨i, hi, hrounds⟩, hstepsTo⟩
      exact ⟨i, hi, k, hrounds, hstepsTo⟩
    · rintro ⟨i, hi, k, hrounds, hstepsTo⟩
      exact ⟨k, ⟨i, hi, hrounds⟩, hstepsTo⟩

/-- A search collects the positions that so many rounds lead to at most, if it goes on from all
positions that were not gone on from before. -/
theorem mem_reach_iff (hstep : Traces size step relation)
    (hsize : ∀ i j, relation i j → i ≤ size → j ≤ size) {steps : Nat} {seen latest : List Nat}
    (hseen : ∀ i ∈ seen, i ≤ size)
    (hlatest : ∀ i ∈ latest, i ∈ seen)
    (hclosed : ∀ i ∈ seen, i ∉ latest → ∀ j, relation i j → j ∈ seen) {j : Nat} :
    j ∈ reach step steps seen latest ↔
      ∃ i ∈ seen, ∃ count ≤ steps, Rounds relation count i j := by
  have hlatestSize : ∀ i ∈ latest, i ≤ size := fun i hi => hseen i (hlatest i hi)
  induction steps generalizing seen latest with
  | zero => simp [reach, Rounds]
  | succ steps ih =>
    -- a position is gone on from now, or it was before
    have hnext : ∀ i ∈ seen, ∀ k, relation i k → k ∈ seen ∨ k ∈ without (step latest) seen := by
      intro i hi k hstepsTo
      by_cases hmem : i ∈ latest
      · exact (mem_without_or_mem ((hstep latest hlatestSize k).2 ⟨i, hmem, hstepsTo⟩)).symm
      · exact .inl (hclosed i hi hmem k hstepsTo)
    have hnew : ∀ k ∈ without (step latest) seen, ∃ i ∈ seen, relation i k := by
      intro k hk
      obtain ⟨i, hi, hstepsTo⟩ := (hstep latest hlatestSize k).1 (mem_of_mem_without hk)
      exact ⟨i, hlatest i hi, hstepsTo⟩
    rw [reach]
    split
    next hnone =>
      have hstays : ∀ count i, i ∈ seen → Rounds relation count i j → j ∈ seen := by
        intro count
        induction count with
        | zero =>
          rintro i hi rfl
          exact hi
        | succ count ih =>
          rintro i hi ⟨k, hstepsTo, hrest⟩
          have hk := hnext i hi k hstepsTo
          simp only [hnone, List.not_mem_nil, or_false] at hk
          exact ih k hk hrest
      exact ⟨fun h => ⟨j, h, 0, Nat.zero_le _, rfl⟩,
        fun ⟨i, hi, count, _, h⟩ => hstays count i hi h⟩
    next first rest hsome =>
      rw [hsome] at hnext hnew
      have hnewSize : ∀ i ∈ first :: rest, i ≤ size := by
        intro k hk
        obtain ⟨i, hi, hstepsTo⟩ := hnew k hk
        exact hsize i k hstepsTo (hseen i hi)
      have hall : ∀ i ∈ unite seen (first :: rest), i ≤ size := fun i hi =>
        (mem_unite_iff.1 hi).elim (hseen i) (hnewSize i)
      have hclosed' : ∀ i ∈ unite seen (first :: rest), i ∉ first :: rest → ∀ k, relation i k →
          k ∈ unite seen (first :: rest) := fun i hi hold k hstepsTo =>
        mem_unite_iff.2 (hnext i ((mem_unite_iff.1 hi).resolve_right hold) k hstepsTo)
      refine (ih hall (fun i hi => mem_unite_iff.2 (.inr hi)) hclosed' hnewSize).trans ?_
      constructor
      · rintro ⟨i, hi, count, hcount, hrounds⟩
        obtain hi | hi := mem_unite_iff.1 hi
        · exact ⟨i, hi, count, by omega, hrounds⟩
        · obtain ⟨l, hl, hstepsTo⟩ := hnew i hi
          exact ⟨l, hl, count + 1, by omega, i, hstepsTo, hrounds⟩
      · rintro ⟨i, hi, _ | count, hcount, hrounds⟩
        · exact ⟨i, mem_unite_iff.2 (.inl hi), 0, Nat.zero_le _, hrounds⟩
        · obtain ⟨k, hstepsTo, hrest⟩ := hrounds
          exact ⟨k, mem_unite_iff.2 (hnext i hi k hstepsTo), count, by omega, hrest⟩

/-- The search for a repetition goes as many rounds as are asked for at least, and collects what
further rounds lead to. Rounds that the text has no characters for are left out. -/
theorem traces_repeated (hstep : Traces size step relation)
    (hle : ∀ i j, relation i j → i ≤ j) (hsize : ∀ i j, relation i j → i ≤ size → j ≤ size)
    {least more : Nat} {greatest : Option Nat} (hbounds : ∀ bound ∈ greatest, least ≤ bound)
    (hmore : ∀ count, count ≤ more ↔ count ≤ size ∧ ∀ bound ∈ greatest, count ≤ bound - least) :
    Traces size (fun positions =>
      reach step more (Nat.repeat step (min least (size + 1)) positions)
        (Nat.repeat step (min least (size + 1)) positions)) fun i j =>
      ∃ count, least ≤ count ∧ (∀ bound ∈ greatest, count ≤ bound) ∧ Rounds relation count i j := by
  intro positions hpositions j
  have hbegin {k : Nat} : k ∈ Nat.repeat step (min least (size + 1)) positions ↔
      ∃ i ∈ positions, Rounds relation least i k := by
    rw [mem_repeat_iff hstep hsize hpositions]
    exact exists_congr fun i => and_congr_right fun hi =>
      rounds_min_iff hle hsize (hpositions i hi)
  have hreached : ∀ k ∈ Nat.repeat step (min least (size + 1)) positions, k ≤ size := by
    intro k hk
    obtain ⟨i, hi, hrounds⟩ := hbegin.1 hk
    exact hrounds.le_size hsize (hpositions i hi)
  refine (mem_reach_iff hstep hsize hreached (fun _ h => h) fun _ h hold => absurd h hold).trans ?_
  constructor
  · rintro ⟨k, hk, count, hcount, hrest⟩
    obtain ⟨i, hi, hleast⟩ := hbegin.1 hk
    refine ⟨i, hi, least + count, Nat.le_add_right _ _, fun bound hbound => ?_,
      rounds_add.2 ⟨k, hleast, hrest⟩⟩
    have := hbounds bound hbound
    have := ((hmore count).1 hcount).2 bound hbound
    omega
  · rintro ⟨i, hi, count, hleast, hgreatest, hrounds⟩
    obtain ⟨further, rfl⟩ := Nat.exists_eq_add_of_le hleast
    obtain ⟨k, hfirst, hrest⟩ := rounds_add.1 hrounds
    have hk := hfirst.le_size hsize (hpositions i hi)
    refine ⟨k, hbegin.2 ⟨i, hi, hfirst⟩, min further size, (hmore _).2 ⟨Nat.min_le_right _ _, ?_⟩,
      hrest.min_size hle hsize hk⟩
    intro bound hbound
    have := hgreatest bound hbound
    omega

end reach

/-! ### Matches -/

mutual

/-- A pattern matches the part of a text between two positions. -/
def Spans (text : Array Char) : Pattern → Nat → Nat → Prop
  | empty, i, j => i = j
  | one set _, i, j => Anchor.testAt set.has text i = true ∧ j = i + 1
  | anchor a, i, j => a.holds text i = true ∧ i = j
  | group _ pattern, i, j => Spans text pattern i j
  | sequence patterns, i, j => SpansAll text patterns i j
  | choice patterns, i, j => SpansAny text patterns i j
  | repeated pattern least greatest _, i, j =>
    ∃ count, least ≤ count ∧ (∀ bound ∈ greatest, count ≤ bound) ∧
      Rounds (Spans text pattern) count i j

/-- Patterns match parts of a text that follow one another. -/
def SpansAll (text : Array Char) : List Pattern → Nat → Nat → Prop
  | [], i, j => i = j
  | pattern :: rest, i, j => ∃ k, Spans text pattern i k ∧ SpansAll text rest k j

/-- Any of some patterns matches a part of a text. -/
def SpansAny (text : Array Char) : List Pattern → Nat → Nat → Prop
  | [], _, _ => False
  | pattern :: rest, i, j => Spans text pattern i j ∨ SpansAny text rest i j

end

mutual

/-- The bounds of all repetitions are in order. -/
def Proper : Pattern → Prop
  | empty | one _ _ | anchor _ => True
  | group _ pattern => Proper pattern
  | sequence patterns | choice patterns => AllProper patterns
  | repeated pattern least greatest _ => Proper pattern ∧ ∀ bound ∈ greatest, least ≤ bound

/-- The bounds of all repetitions in some patterns are in order. -/
def AllProper : List Pattern → Prop
  | [] => True
  | pattern :: rest => Proper pattern ∧ AllProper rest

end

variable {text : Array Char}

theorem testAt_lt {test : Nat → Bool} {i : Nat} (h : Anchor.testAt test text i = true) :
    i < text.size := by
  rw [Anchor.testAt] at h
  by_contra hle
  simp [Array.getElem?_eq_none (Nat.le_of_not_lt hle)] at h

mutual

/-- A match goes forwards, and not beyond the end of the text. -/
theorem Spans.bounds : ∀ {pattern : Pattern} {i j : Nat}, Spans text pattern i j →
    i ≤ j ∧ (i ≤ text.size → j ≤ text.size)
  | empty, _, _, h => by
    rw [Spans] at h
    omega
  | one _ _, _, _, h => by
    rw [Spans] at h
    have := testAt_lt h.1
    omega
  | anchor _, _, _, h => by
    rw [Spans] at h
    omega
  | group _ _, _, _, h => by
    rw [Spans] at h
    exact h.bounds
  | sequence _, _, _, h => by
    rw [Spans] at h
    exact h.bounds
  | choice _, _, _, h => by
    rw [Spans] at h
    exact h.bounds
  | repeated pattern _ _ _, _, _, h => by
    rw [Spans] at h
    obtain ⟨count, -, -, hrounds⟩ := h
    exact ⟨hrounds.le fun _ _ h => h.bounds.1, hrounds.le_size fun _ _ h => h.bounds.2⟩

theorem SpansAll.bounds : ∀ {patterns : List Pattern} {i j : Nat}, SpansAll text patterns i j →
    i ≤ j ∧ (i ≤ text.size → j ≤ text.size)
  | [], _, _, h => by
    rw [SpansAll] at h
    omega
  | _ :: _, _, _, h => by
    rw [SpansAll] at h
    obtain ⟨k, hfirst, hrest⟩ := h
    have := hfirst.bounds
    have := hrest.bounds
    omega

theorem SpansAny.bounds : ∀ {patterns : List Pattern} {i j : Nat}, SpansAny text patterns i j →
    i ≤ j ∧ (i ≤ text.size → j ≤ text.size)
  | [], _, _, h => by
    rw [SpansAny] at h
    exact h.elim
  | _ :: _, _, _, h => by
    rw [SpansAny] at h
    exact h.elim (fun h => h.bounds) fun h => h.bounds

end

mutual

/-- The positions that the search finds are those where a match ends. -/
theorem traces_advance : ∀ pattern, Proper pattern →
    Traces text.size (advance text pattern) (Spans text pattern)
  | empty, _ => by
    intro positions hpositions j
    simp [advance, Spans]
  | one set _, _ => by
    intro positions hpositions j
    simp [advance, Spans, and_assoc, @eq_comm _ j]
  | anchor a, _ => by
    intro positions hpositions j
    simp [advance, Spans]
  | group _ pattern, hproper => by
    intro positions hpositions j
    rw [Proper] at hproper
    simp only [advance, Spans]
    exact traces_advance pattern hproper positions hpositions j
  | sequence patterns, hproper => by
    intro positions hpositions j
    rw [Proper] at hproper
    simp only [advance, Spans]
    exact traces_advanceAll patterns hproper positions hpositions j
  | choice patterns, hproper => by
    intro positions hpositions j
    rw [Proper] at hproper
    simp only [advance, Spans]
    exact traces_advanceAny patterns hproper positions hpositions j
  | repeated pattern least greatest _, hproper => by
    intro positions hpositions j
    rw [Proper] at hproper
    simp only [advance, Spans]
    refine traces_repeated (traces_advance pattern hproper.1) (fun _ _ h => h.bounds.1)
      (fun _ _ h => h.bounds.2) hproper.2 (fun count => ?_) positions hpositions j
    cases greatest with
    | none => simp
    | some greatest =>
      simp
      omega

theorem traces_advanceAll : ∀ patterns, AllProper patterns →
    Traces text.size (advanceAll text patterns) (SpansAll text patterns)
  | [], _ => by
    intro positions hpositions j
    simp [advanceAll, SpansAll]
  | pattern :: rest, hproper => by
    intro positions hpositions j
    rw [AllProper] at hproper
    have hfirst := traces_advance pattern hproper.1 positions hpositions
    have hreached : ∀ k ∈ advance text pattern positions, k ≤ text.size := by
      intro k hk
      obtain ⟨i, hi, hspans⟩ := (hfirst k).1 hk
      exact hspans.bounds.2 (hpositions i hi)
    rw [advanceAll, traces_advanceAll rest hproper.2 _ hreached]
    simp only [SpansAll, hfirst]
    constructor
    · rintro ⟨k, ⟨i, hi, hspans⟩, hrest⟩
      exact ⟨i, hi, k, hspans, hrest⟩
    · rintro ⟨i, hi, k, hspans, hrest⟩
      exact ⟨k, ⟨i, hi, hspans⟩, hrest⟩

theorem traces_advanceAny : ∀ patterns, AllProper patterns →
    Traces text.size (advanceAny text patterns) (SpansAny text patterns)
  | [], _ => by
    intro positions hpositions j
    simp [advanceAny, SpansAny]
  | pattern :: rest, hproper => by
    intro positions hpositions j
    rw [AllProper] at hproper
    rw [advanceAny, mem_unite_iff, traces_advance pattern hproper.1 positions hpositions,
      traces_advanceAny rest hproper.2 positions hpositions]
    simp only [SpansAny]
    simp only [and_or_left, exists_or]

end

/-- The search answers whether a pattern matches some part of a text. -/
theorem occursIn_eq_true_iff {pattern : Pattern} (hproper : Proper pattern) (text : String) :
    occursIn pattern text = true ↔
      ∃ i j, i ≤ text.toList.toArray.size ∧ Spans text.toList.toArray pattern i j := by
  have hsearch : Traces text.toList.toArray.size (advance text.toList.toArray pattern)
      (Spans text.toList.toArray pattern) := traces_advance pattern hproper
  have htraces := hsearch (List.range (text.toList.toArray.size + 1)) fun i hi => by
    rw [List.mem_range] at hi
    omega
  have hoccurs : occursIn pattern text = true ↔ ∃ j, j ∈ advance text.toList.toArray pattern
      (List.range (text.toList.toArray.size + 1)) := by
    rw [occursIn, Bool.not_eq_true', List.isEmpty_eq_false_iff_exists_mem]
  simp only [hoccurs, htraces, List.mem_range, Nat.lt_succ_iff]
  exact exists_comm

/-- A pattern that stands between the anchors of the beginning and of the end. -/
def whole (pattern : Pattern) : Pattern :=
  .sequence [.anchor .textStart, .group false pattern, .anchor .textEnd]

/-- A pattern between the anchors of the text is searched for as the whole text. -/
theorem occursIn_whole {pattern : Pattern} (hproper : Proper pattern) (text : String) :
    occursIn (whole pattern) text = true ↔
      Spans text.toList.toArray pattern 0 text.toList.toArray.size := by
  have hwhole : Proper (whole pattern) := by simp [whole, Proper, AllProper, hproper]
  rw [occursIn_eq_true_iff hwhole]
  simp only [whole, Spans, SpansAll, Anchor.holds, decide_eq_true_eq]
  constructor
  · rintro ⟨i, j, -, k, ⟨rfl, rfl⟩, l, hspans, m, ⟨hend, rfl⟩, rfl⟩
    exact hend ▸ hspans
  · intro h
    exact ⟨0, _, Nat.zero_le _, 0, ⟨rfl, rfl⟩, _, h, _, ⟨rfl, rfl⟩, rfl⟩

end Pattern

end Assessment
