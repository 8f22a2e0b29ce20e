import Assessment.Declaration.Mapping
import Assessment.Proofs.Value.Equality

/-!
# Scores of mappings

A mapping goes over the scalars of a response once, and keeps in mind which entries were hit and
which scalars were met that hit none. What it adds for a scalar depends on all the scalars before it
in a simple way: an entry counts for the first scalar that hits it, and the default counts for the
first of all scalars that are equal and hit no entry. Different scalars may hit one entry, as texts
do that agree but for the case of their letters.

So a scalar that equals one before it adds nothing, and nothing changes for those behind it.

## Main definitions

- `Mapping.hit?`: the first entry that is for a scalar.
- `Mapping.contribution?` and `Mapping.contributions`: what scalars add.
- `Mapping.IsScore`: what is to be shown of the score.

## Main results

- `Mapping.sum_eq_foldl`: the scores of entries and the default are added once each.
- `Mapping.contributions_append_again`: scalars that are met again add nothing.
- `Mapping.isScore_score`: the score of a mapping.
-/

namespace Assessment

/-! ### Bounds -/

namespace Double

variable {x y : Float}

theorem number?_eq_some (hx : x.isNaN = false) : number? x = some (value x) := by
  rw [number?, hx, if_neg Bool.false_ne_true]

theorem isNaN_of_number? {number : ℚ} (h : number? x = some number) :
    x.isNaN = false ∧ value x = number := by
  have hx := isSome_number?.1 (Option.isSome_of_eq_some h)
  exact ⟨hx, Option.some.inj ((number?_eq_some hx).symm.trans h)⟩

theorem number?_greater (hx : x.isNaN = false) (hy : y.isNaN = false) :
    number? (greater x y) = some (max (value x) (value y)) := by
  have hlt := (hasValue_value hy).lt_iff (hasValue_value hx)
  rw [greater, hx, hy, if_neg Bool.false_ne_true, if_neg Bool.false_ne_true]
  split
  next h => rw [number?_eq_some hx, max_eq_left (hlt.1 h).le]
  next h => rw [number?_eq_some hy, max_eq_right (not_lt.1 (hlt.not.1 h))]

theorem number?_lesser (hx : x.isNaN = false) (hy : y.isNaN = false) :
    number? (lesser x y) = some (min (value x) (value y)) := by
  have hlt := (hasValue_value hx).lt_iff (hasValue_value hy)
  rw [lesser, hx, hy, if_neg Bool.false_ne_true, if_neg Bool.false_ne_true]
  split
  next h => rw [number?_eq_some hx, min_eq_left (hlt.1 h).le]
  next h => rw [number?_eq_some hy, min_eq_right (not_lt.1 (hlt.not.1 h))]

/-- A number that is held between bounds: raised to the lower one, and then lowered to the upper
one. -/
def held (lower upper : Option Float) (number : ℚ) : ℚ :=
  let raised := lower.elim number fun bound => max number (value bound)
  upper.elim raised fun bound => min raised (value bound)

/-- Where no bound is without a number, a total that is one is held between them. -/
theorem number?_clampTo {lower upper : Option Float} {total : Float}
    (hlower : ∀ bound ∈ lower, bound.isNaN = false) (hupper : ∀ bound ∈ upper, bound.isNaN = false)
    (htotal : total.isNaN = false) :
    number? (clampTo lower upper total) = some (held lower upper (value total)) := by
  obtain ⟨raised, hraised, hnumber⟩ : ∃ raised, clampTo lower none total = raised ∧
      number? raised = some (held lower none (value total)) := by
    refine ⟨_, rfl, ?_⟩
    cases lower with
    | none => exact number?_eq_some htotal
    | some bound => exact number?_greater htotal (hlower bound rfl)
  cases upper with
  | none => rw [hraised, hnumber]
  | some bound =>
    obtain ⟨hnaN, hvalue⟩ := isNaN_of_number? hnumber
    have hclamp : clampTo lower (some bound) total = lesser raised bound := by
      rw [← hraised]
      rfl
    rw [hclamp, number?_lesser hnaN (hupper bound rfl), hvalue]
    rfl

end Double

/-! ### Entries and equal scalars -/

theorem Scalar.beq_symm {a b : Scalar} (h : (a == b) = true) : (b == a) = true := by
  obtain ⟨hnumeric, hmeaning⟩ := Scalar.beq_iff.1 h
  exact Scalar.beq_iff.2 ⟨Scalar.isNumeric_congr hmeaning hnumeric, hmeaning.symm⟩

theorem Scalar.beq_trans {a b c : Scalar} (h : (a == b) = true) (h' : (b == c) = true) :
    (a == c) = true :=
  Scalar.beq_iff.2 ⟨(Scalar.beq_iff.1 h).1, (Scalar.beq_iff.1 h).2.trans (Scalar.beq_iff.1 h').2⟩

/-- Scalars that are equal are equal to the same ones. -/
theorem Scalar.beq_congr_right {a b : Scalar} (h : (a == b) = true) (c : Scalar) :
    (c == a) = (c == b) :=
  Bool.eq_iff_iff.2
    ⟨fun ha => Scalar.beq_trans ha h, fun hb => Scalar.beq_trans hb (Scalar.beq_symm h)⟩

theorem Scalar.eq_string_of_beq {text : String} {b : Scalar} (h : (string text == b) = true) :
    b = string text := by
  have hmeaning := (Scalar.beq_iff.1 h).2
  cases b <;> cases hmeaning
  rfl

/-- An entry is for both or none of two scalars that are equal. -/
theorem MapEntry.accepts_congr {a b : Scalar} (h : (a == b) = true) (entry : MapEntry) :
    entry.accepts a = entry.accepts b := by
  have hkey := Scalar.beq_congr_right h entry.key
  -- Texts are equal only to themselves, so that it does not matter how their case is taken.
  by_cases htext : ∃ text, a = .string text
  · obtain ⟨text, rfl⟩ := htext
    rw [Scalar.eq_string_of_beq h]
  · have hother : ∀ scalar, (¬∃ text, scalar = .string text) →
        entry.accepts scalar = (entry.key == scalar) := by
      intro scalar hscalar
      unfold accepts
      split
      next text _ => exact absurd ⟨text, rfl⟩ hscalar
      next => rfl
    have htext' : ¬∃ text, b = .string text := by
      rintro ⟨text, rfl⟩
      exact htext ⟨text, Scalar.eq_string_of_beq (Scalar.beq_symm h)⟩
    rw [hother a htext, hother b htext', hkey]

namespace Mapping

variable {mapping : Mapping} {a b : Scalar} {before between scalars rest : List Scalar}

/-! ### What scalars add -/

/-- The position of the first entry that is for a scalar. -/
def hit? (mapping : Mapping) (scalar : Scalar) : Option Nat :=
  mapping.entries.findIdx? (·.accepts scalar)

/-- What a scalar adds that comes after some others. An entry counts for the first scalar that hits
it, and the default for the first of those that are equal and hit no entry. -/
def contribution? (mapping : Mapping) (before : List Scalar) (scalar : Scalar) : Option Float :=
  match mapping.hit? scalar with
  | some position =>
    if before.any fun earlier => mapping.hit? earlier = some position then none
    else mapping.entries[position]?.map (·.mapped)
  | none =>
    if before.any fun earlier => mapping.hit? earlier = none ∧ (earlier == scalar) = true then none
    else some mapping.defaultValue

/-- What scalars add in turn that come after some others. -/
def contributions (mapping : Mapping) (before : List Scalar) : List Scalar → List Float
  | [] => []
  | scalar :: rest =>
    (mapping.contribution? before scalar).toList ++ mapping.contributions (before ++ [scalar]) rest

theorem hit?_congr (h : (a == b) = true) : mapping.hit? a = mapping.hit? b := by
  unfold hit?
  congr 1
  funext entry
  exact entry.accepts_congr h

theorem contributions_append :
    mapping.contributions before (scalars ++ rest) =
      mapping.contributions before scalars ++ mapping.contributions (before ++ scalars) rest := by
  induction scalars generalizing before with
  | nil => rw [contributions, List.nil_append, List.nil_append, List.append_nil]
  | cons first scalars ih =>
    rw [List.cons_append, contributions, contributions, ih, List.append_assoc, List.append_assoc]
    rfl

/-! ### Scalars that are met again -/

/-- A scalar that equals one before it adds nothing. -/
theorem contribution?_eq_none (ha : a ∈ before) (h : (a == b) = true) :
    mapping.contribution? before b = none := by
  unfold contribution?
  split
  next position hhit =>
    refine if_pos (List.any_eq_true.2 ⟨a, ha, decide_eq_true ?_⟩)
    rw [hit?_congr h, hhit]
  next hhit =>
    refine if_pos (List.any_eq_true.2 ⟨a, ha, decide_eq_true ⟨?_, h⟩⟩)
    rw [hit?_congr h, hhit]

/-- Whether a scalar is met again makes no difference to what others add. -/
theorem contribution?_append_again (ha : a ∈ before) (h : (a == b) = true) (scalar : Scalar) :
    mapping.contribution? (before ++ b :: between) scalar =
      mapping.contribution? (before ++ between) scalar := by
  have hany : ∀ holds : Scalar → Bool, holds b = holds a →
      (before ++ b :: between).any holds = (before ++ between).any holds := by
    intro holds hsame
    rw [List.any_append, List.any_cons, List.any_append, hsame]
    cases hholds : holds a with
    | false => rw [Bool.false_or]
    | true => rw [List.any_eq_true.2 ⟨a, ha, hholds⟩, Bool.true_or, Bool.true_or]
  have hhit : mapping.hit? a = mapping.hit? b := hit?_congr h
  have hequal : (b == scalar) = (a == scalar) :=
    Bool.eq_iff_iff.2
      ⟨Scalar.beq_trans h, Scalar.beq_trans (Scalar.beq_symm h)⟩
  unfold contribution?
  simp only [hany (fun earlier => decide (mapping.hit? earlier = some _)) (by rw [hhit]),
    hany (fun earlier => decide (mapping.hit? earlier = none ∧ (earlier == scalar) = true))
      (by rw [hhit, hequal])]

theorem contributions_of_again (ha : a ∈ before) (h : (a == b) = true) :
    mapping.contributions (before ++ b :: between) rest =
      mapping.contributions (before ++ between) rest := by
  induction rest generalizing between with
  | nil => rfl
  | cons first rest ih =>
    rw [contributions, contributions, contribution?_append_again ha h, List.append_assoc,
      List.append_assoc, List.cons_append, ih]

/-- A scalar that is met again adds nothing, and those behind it add what they add without it. -/
theorem contributions_append_again (ha : a ∈ before) (h : (a == b) = true) :
    mapping.contributions before (between ++ b :: rest) =
      mapping.contributions before (between ++ rest) := by
  rw [contributions_append, contributions_append, contributions,
    contribution?_eq_none (List.mem_append_left _ ha) h, Option.toList_none, List.nil_append]
  congr 1
  refine (contributions_of_again (List.mem_append_left between ha) h).trans ?_
  rw [List.append_nil]

/-! ### The score -/

/-- The entries that were hit and the scalars kept in mind that hit none are those of the scalars
gone over so far. -/
structure Recalls (mapping : Mapping) (used : List Nat) (unmatched before : List Scalar) :
    Prop where
  /-- The entries are those that a scalar hit. -/
  used : ∀ position, used.contains position =
    before.any fun earlier => mapping.hit? earlier = some position
  /-- A scalar equals one that is kept just if it equals one that hit no entry. -/
  unmatched : ∀ scalar, unmatched.any (· == scalar) =
    before.any fun earlier => mapping.hit? earlier = none ∧ (earlier == scalar) = true

namespace Recalls

variable {used : List Nat} {unmatched : List Scalar} {scalar : Scalar} {position : Nat}

theorem nil : mapping.Recalls [] [] [] := ⟨fun _ => rfl, fun _ => rfl⟩

variable (h : mapping.Recalls used unmatched before)

include h

/-- What is kept in mind stays if the entry that is hit was hit before. -/
theorem hit_again (hhit : mapping.hit? scalar = some position)
    (hused : used.contains position = true) :
    mapping.Recalls used unmatched (before ++ [scalar]) where
  used other := by
    rw [h.used, List.any_append, List.any_cons, List.any_nil, Bool.or_false, hhit]
    by_cases hother : position = other
    · subst hother
      rw [← h.used, hused, Bool.true_or]
    · simp [hother]
  unmatched other := by simp [h.unmatched, hhit]

/-- The entry is kept in mind if it is hit for the first time. -/
theorem hit (hhit : mapping.hit? scalar = some position) :
    mapping.Recalls (position :: used) unmatched (before ++ [scalar]) where
  used other := by
    rw [List.contains_cons, h.used, List.any_append, List.any_cons, List.any_nil, Bool.or_false,
      hhit, Bool.or_comm]
    congr 1
    rw [Bool.eq_iff_iff, beq_iff_eq, decide_eq_true_eq, Option.some_inj, eq_comm]
  unmatched other := by simp [h.unmatched, hhit]

/-- What is kept in mind stays if a scalar hits no entry and equals one that is kept. -/
theorem miss_again (hhit : mapping.hit? scalar = none)
    (hknown : unmatched.any (· == scalar) = true) :
    mapping.Recalls used unmatched (before ++ [scalar]) where
  used other := by
    rw [List.any_append, ← h.used]
    simp [hhit]
  unmatched other := by
    rw [List.any_append, ← h.unmatched, List.any_cons, List.any_nil, Bool.or_false]
    -- What equals the scalar equals the one that is kept.
    by_cases hother : (scalar == other) = true
    · obtain ⟨known, hmem, hequal⟩ := List.any_eq_true.1 hknown
      have hsame : (known == other) = true := Scalar.beq_trans hequal hother
      rw [List.any_eq_true.2 ⟨known, hmem, hsame⟩, Bool.true_or]
    · simp [hother]

/-- A scalar is kept in mind if it hits no entry for the first time. -/
theorem miss (hhit : mapping.hit? scalar = none) :
    mapping.Recalls used (unmatched ++ [scalar]) (before ++ [scalar]) where
  used other := by
    rw [List.any_append, ← h.used]
    simp [hhit]
  unmatched other := by
    rw [List.any_append, List.any_append, h.unmatched, List.any_cons, List.any_cons, List.any_nil,
      List.any_nil, hhit]
    simp

end Recalls

/-- The sum adds what the scalars add in turn. -/
theorem sum_eq_foldl {used : List Nat} {unmatched : List Scalar} {total : Float}
    (h : mapping.Recalls used unmatched before) :
    mapping.sum used unmatched total scalars =
      (mapping.contributions before scalars).foldl (· + ·) total := by
  induction scalars generalizing used unmatched before total with
  | nil => rfl
  | cons scalar rest ih =>
    rw [sum, contributions, contribution?]
    cases hhit : mapping.hit? scalar with
    | some position =>
      have hfound : mapping.entries.findIdx? (·.accepts scalar) = some position := hhit
      obtain ⟨hlt, -⟩ := List.findIdx?_eq_some_iff_getElem.1 hfound
      simp only [hfound]
      rw [← h.used, List.getElem?_eq_getElem hlt]
      split
      next hused => exact ih (h.hit_again hhit hused)
      next => exact ih (h.hit hhit)
    | none =>
      have hmissed : mapping.entries.findIdx? (·.accepts scalar) = none := hhit
      simp only [hmissed]
      rw [← h.unmatched]
      cases hknown : unmatched.any (· == scalar) with
      | true => exact ih (h.miss_again hhit hknown)
      | false => exact ih (h.miss hhit)

/-- What the score of a mapping has to be. -/
structure IsScore (mapping : Mapping) (score : Value → Float) : Prop where
  /-- What the scalars of a value add is summed up in their order, and the sum is held between the
  bounds. -/
  sum : ∀ value, score value = clampTo mapping.lowerBound mapping.upperBound
    ((mapping.contributions [] value.elements).foldl (· + ·) 0.0)
  /-- Where the sum and the bounds are numbers, it is raised to the lower bound and then lowered to
  the upper one. -/
  held : ∀ value total, (mapping.contributions [] value.elements).foldl (· + ·) 0.0 = total →
    total.isNaN = false → (∀ bound ∈ mapping.lowerBound, bound.isNaN = false) →
    (∀ bound ∈ mapping.upperBound, bound.isNaN = false) →
    Double.number? (score value) =
      some (Double.held mapping.lowerBound mapping.upperBound (Double.value total))
  /-- A scalar that equals an earlier one may stand anywhere behind that. -/
  again : ∀ (value longer : Value) (before between rest : List Scalar) (a b : Scalar),
    value.elements = before ++ a :: (between ++ rest) →
    longer.elements = before ++ a :: (between ++ b :: rest) → (a == b) = true →
    score longer = score value

/-- **Each entry counts once, and so does the default for each distinct scalar without an entry.**
The score is what they add in turn, held between the bounds. -/
theorem isScore_score (mapping : Mapping) : mapping.IsScore mapping.score := by
  have hsum : ∀ value, mapping.score value = clampTo mapping.lowerBound mapping.upperBound
      ((mapping.contributions [] value.elements).foldl (· + ·) 0.0) := fun value => by
    rw [score, sum_eq_foldl .nil]
  refine ⟨hsum, ?_, ?_⟩
  · rintro value _ rfl htotal hlower hupper
    rw [hsum]
    exact Double.number?_clampTo hlower hupper htotal
  · intro value longer before between rest a b hvalue hlonger hequal
    -- Up to the first of the two equal scalars nothing differs.
    have hsplit : ∀ more : List Scalar, mapping.contributions [] (before ++ a :: more) =
        mapping.contributions [] (before ++ [a]) ++
          mapping.contributions (before ++ [a]) more := fun more => by
      rw [← List.singleton_append, ← List.append_assoc, contributions_append, List.nil_append]
    have ha : a ∈ before ++ [a] := List.mem_append_right before (List.mem_singleton_self a)
    rw [hsum, hsum, hvalue, hlonger, hsplit (between ++ b :: rest), hsplit (between ++ rest),
      contributions_append_again ha hequal]

-- Both spellings hit the first entry, which is for texts in any case; the second is never hit.
example : contributions ⟨[⟨.string "a", 1.0, false⟩, ⟨.string "A", 2.0, true⟩], 0.5, none, none⟩ []
    [.string "A", .string "b", .string "a", .string "b"] = [1.0, 0.5] := by decide +kernel

end Mapping

end Assessment
