import Mathlib.Algebra.GCDMonoid.Multiset
import Mathlib.Algebra.GCDMonoid.Nat
import Mathlib.Data.List.Perm.Subperm
import Assessment.Proofs.Integer.Basic

/-!
# Multiples and divisors of integers

The least common multiple is found word by word, among words without sign, and it is narrowed at
the end. A multiple that is no word without sign ends the search, and so does a zero. Without a
zero the result is exact: a multiple that is out of reach on the way is so at the end as well. With
a zero the multiple of all words is zero, but a multiple of the words before it may be out of reach,
and then there is an overflow. Whether this happens depends on the order of the words.

The greatest common divisor is found by Euclid's algorithm, word after word. Words without sign hold
the sizes of all words, also of the least one, so that the divisor is exact, and it does not depend
on the order of the words. Only the size of the least word is no word itself; it is the divisor of
words that are all zero or the least one.

## Main definitions

- `Word.multipleOf` and `Word.divisorOf`: the least common multiple and the greatest common divisor
  of words.
- `euclidRound`: what Euclid's algorithm does over and over.
- `Operator.MultipliesWords` and `Operator.DividesWords`: what the operators make of words.

## Main results

- `commonMultiple_of_zero_not_mem` and `commonMultiple_of_zero_mem`: what the search finds.
- `Operator.multipliesWords_lcm`: the multiple is exact, up to a zero that is found too late.
- `toNat_euclid` and `exists_iterate_euclidRound`: Euclid's algorithm ends with the divisor.
- `Word.divisorOf_eq_iff`: when the divisor is no word.
- `Operator.dividesWords_gcd`: the divisor is exact, and an overflow where it is no word.
-/

namespace Assessment

/-! ### Multiples of words -/

namespace Word

/-- The least common multiple of the sizes of words. It is zero if one of them is zero. -/
def multipleOf (words : List Int64) : Nat :=
  (words.map fun w => w.toInt.natAbs : Multiset ℕ).lcm

variable {words others : List Int64}

@[simp]
theorem multipleOf_nil : multipleOf [] = 1 := Multiset.lcm_zero

@[simp]
theorem multipleOf_cons (w : Int64) (words : List Int64) :
    multipleOf (w :: words) = Nat.lcm w.toInt.natAbs (multipleOf words) := by
  rw [multipleOf, List.map_cons, ← Multiset.cons_coe, Multiset.lcm_cons]
  rfl

theorem natAbs_toInt_eq_zero_iff (w : Int64) : w.toInt.natAbs = 0 ↔ w = 0 := by
  rw [Int.natAbs_eq_zero, ← Int64.toInt_inj, Int64.toInt_zero]

theorem multipleOf_eq_zero_iff : multipleOf words = 0 ↔ 0 ∈ words := by
  simp only [multipleOf, Multiset.lcm_eq_zero_iff, Multiset.mem_coe, List.mem_map,
    natAbs_toInt_eq_zero_iff, exists_eq_right]

theorem multipleOf_pos (h : 0 ∉ words) : 0 < multipleOf words :=
  Nat.pos_of_ne_zero (mt multipleOf_eq_zero_iff.1 h)

theorem multipleOf_perm (h : words.Perm others) : multipleOf words = multipleOf others := by
  rw [multipleOf, Multiset.coe_eq_coe.2 (h.map _), multipleOf]

/-- More words other than zero do not make the multiple less. -/
theorem multipleOf_mono (h : words ⊆ others) (hzero : 0 ∉ others) :
    multipleOf words ≤ multipleOf others := by
  refine Nat.le_of_dvd (multipleOf_pos hzero) (Multiset.lcm_mono ?_)
  exact Multiset.coe_subset.2 (List.map_subset _ h)

/-- An integer that is no word without sign is no word. -/
theorem not_inRange_of_count_le {n : ℕ} (h : count ≤ n) : ¬InRange n := by
  simp only [count] at h
  simp only [InRange, least, greatest]
  omega

end Word

open Word

/-! ### The search -/

section multiples

variable {operation : String} {policy : OverflowPolicy} {multiple : ℕ} {words front : List Int64}

/-- A word other than zero is taken into the multiple, as long as that is a word without sign. -/
theorem commonMultiple_cons {w : Int64} (h : w ≠ 0) (rest : List Int64) :
    commonMultiple operation policy multiple (w :: rest) =
      if Nat.lcm multiple w.toInt.natAbs < count then
        commonMultiple operation policy (Nat.lcm multiple w.toInt.natAbs) rest
      else onOverflow operation policy greatestWord := by
  have hlcm : multiple / Nat.gcd multiple w.toInt.natAbs * w.toInt.natAbs =
      Nat.lcm multiple w.toInt.natAbs :=
    Nat.div_mul_right_comm (Nat.gcd_dvd_left _ _) _
  rw [commonMultiple, if_neg (mt (natAbs_toInt_eq_zero_iff w).1 h), hlcm]

/-- More words do not bring a multiple back that is out of reach. -/
theorem lcm_le_lcm_multipleOf_cons {w : Int64} {rest : List Int64} (hmultiple : 0 < multiple)
    (hzero : 0 ∉ w :: rest) :
    Nat.lcm multiple w.toInt.natAbs ≤ Nat.lcm multiple (multipleOf (w :: rest)) := by
  refine Nat.le_of_dvd (Nat.lcm_pos hmultiple (multipleOf_pos hzero)) ?_
  rw [multipleOf_cons, ← Nat.lcm_assoc]
  exact Nat.dvd_lcm_left _ _

theorem wordOfNat_of_count_le {n : ℕ} (h : count ≤ n) :
    wordOfNat operation policy n = onOverflow operation policy greatestWord := by
  rw [wordOfNat, narrow?_of_not_inRange (not_inRange_of_count_le h)]

theorem lcm_natAbs_pos {w : Int64} (hmultiple : 0 < multiple) (h : w ≠ 0) :
    0 < Nat.lcm multiple w.toInt.natAbs :=
  Nat.lcm_pos hmultiple (Nat.pos_of_ne_zero (mt (natAbs_toInt_eq_zero_iff w).1 h))

/-- Without a zero the search finds the multiple of all words, and narrows it. -/
theorem commonMultiple_of_zero_not_mem (hmultiple : 0 < multiple) (hzero : 0 ∉ words) :
    commonMultiple operation policy multiple words =
      wordOfNat operation policy (Nat.lcm multiple (multipleOf words)) := by
  induction words generalizing multiple with
  | nil => rw [commonMultiple, multipleOf_nil, Nat.lcm_one_right]
  | cons w rest ih =>
    have hw : w ≠ 0 := fun h => hzero (h ▸ List.mem_cons_self)
    rw [commonMultiple_cons hw]
    split
    · rw [ih (lcm_natAbs_pos hmultiple hw) fun h => hzero (List.mem_cons_of_mem _ h),
        multipleOf_cons, Nat.lcm_assoc]
    next hcount =>
      have hle := lcm_le_lcm_multipleOf_cons hmultiple hzero
      rw [wordOfNat_of_count_le ((not_lt.1 hcount).trans hle)]

/-- A zero is found if the multiple of the words before it is a word without sign. -/
theorem commonMultiple_of_zero_mem (hmultiple : 0 < multiple) (hcount : multiple < count)
    (hzero : 0 ∉ front) (rest : List Int64) :
    commonMultiple operation policy multiple (front ++ 0 :: rest) =
      if Nat.lcm multiple (multipleOf front) < count then .ok 0
      else onOverflow operation policy greatestWord := by
  induction front generalizing multiple with
  | nil =>
    rw [multipleOf_nil, Nat.lcm_one_right, if_pos hcount]
    rfl
  | cons w front ih =>
    have hw : w ≠ 0 := fun h => hzero (h ▸ List.mem_cons_self)
    rw [List.cons_append, commonMultiple_cons hw]
    split
    next hlt =>
      rw [ih (lcm_natAbs_pos hmultiple hw) hlt fun h => hzero (List.mem_cons_of_mem _ h),
        multipleOf_cons, Nat.lcm_assoc]
    next hge =>
      have hle := lcm_le_lcm_multipleOf_cons hmultiple hzero
      rw [if_neg fun hlt => hge (hle.trans_lt hlt)]

/-! ### The operator for multiples -/

namespace Operator

/-- What the operator for the least common multiple makes of words. -/
structure MultipliesWords (operands : List Value) (words : List Int64) : Prop where
  /-- Without a zero the multiple of all words is exact, or is no word. -/
  exact : 0 ∉ words → ∀ policy source,
    lcm.apply policy operands source = lcm.settled policy (multipleOf words) source
  /-- With a zero it is zero, if the multiple of the words before it is a word without sign. -/
  zero : ∀ front rest, words = front ++ 0 :: rest → 0 ∉ front → multipleOf front < count →
    ∀ policy source, lcm.apply policy operands source = .ok (.integer 0, source)
  /-- Otherwise the words before it are an overflow. -/
  overflow : ∀ front rest, words = front ++ 0 :: rest → 0 ∉ front → count ≤ multipleOf front →
    ∀ source, lcm.apply .fail operands source = .error (.overflow "lcm") ∧
      lcm.apply .saturate operands source = .ok (.integer greatestWord, source)
  /-- How the words are spread over the operands does not matter. -/
  grouping : ∀ others, Operand.Hold others words → ∀ policy source,
    lcm.apply policy others source = lcm.apply policy operands source
  /-- In any order it is the multiple of all words exactly where, with a zero among them, the
  multiple of the other words is a word without sign. -/
  anyOrder : (0 ∈ words → multipleOf (words.filter (· != 0)) < count) ↔
    ∀ others reordered, reordered.Perm words → Operand.Hold others reordered → ∀ policy source,
      lcm.apply policy others source = lcm.settled policy (multipleOf words) source

variable {operands : List Value} {rest : List Int64}

theorem apply_lcm (h : Operand.Hold operands words) (policy : OverflowPolicy)
    (source : RandomSource) :
    lcm.apply policy operands source =
      (commonMultiple "lcm" policy 1 words).map (Value.integer ·, source) := by
  have hcompute : lcm.compute policy operands =
      (Operand.words "lcm" operands >>= fun words =>
        commonMultiple "lcm" policy 1 words >>= fun multiple => .ok (.integer multiple)) := rfl
  rw [apply_of_hold h (show lcm ≠ .random from nofun), hcompute, h.words_eq]
  show (commonMultiple "lcm" policy 1 words >>= fun multiple => _).map _ = _
  cases commonMultiple "lcm" policy 1 words <;> rfl

/-- A number without sign is settled as an integer. -/
theorem settled_natCast (operator : Operator) (policy : OverflowPolicy) (n : ℕ)
    (source : RandomSource) :
    (wordOfNat operator.name policy n).map (Value.integer ·, source) =
      operator.settled policy n source := by
  by_cases hrange : InRange n
  · rw [wordOfNat, narrow?_of_inRange hrange, settled_of_inRange hrange]
    rfl
  · have hgreat := greatest_le_of_not_inRange hrange (Int.natCast_nonneg n)
    rw [wordOfNat, narrow?_of_not_inRange hrange, settled_of_not_inRange hrange,
      clamp_of_greatest_le hgreat]

theorem apply_lcm_of_zero_not_mem (h : Operand.Hold operands words) (hzero : 0 ∉ words)
    (policy : OverflowPolicy) (source : RandomSource) :
    lcm.apply policy operands source = lcm.settled policy (multipleOf words) source := by
  rw [apply_lcm h, commonMultiple_of_zero_not_mem one_pos hzero, Nat.lcm_one_left]
  exact settled_natCast lcm policy _ source

theorem apply_lcm_of_zero_mem (h : Operand.Hold operands (front ++ 0 :: rest)) (hzero : 0 ∉ front)
    (policy : OverflowPolicy) (source : RandomSource) :
    lcm.apply policy operands source =
      if multipleOf front < count then .ok (.integer 0, source)
      else (onOverflow "lcm" policy greatestWord).map (Value.integer ·, source) := by
  rw [apply_lcm h, commonMultiple_of_zero_mem one_pos (by decide) hzero, Nat.lcm_one_left]
  split <;> rfl

/-- Words other than zero can come before a zero, and then have to have a multiple of their own. -/
theorem anyOrder_lcm_iff :
    (0 ∈ words → multipleOf (words.filter (· != 0)) < count) ↔
      ∀ others reordered, reordered.Perm words → Operand.Hold others reordered → ∀ policy source,
        lcm.apply policy others source = lcm.settled policy (multipleOf words) source := by
  refine ⟨fun hcount others reordered hperm hold policy source => ?_, fun horder hzero => ?_⟩
  · by_cases hzero : 0 ∈ reordered
    · obtain ⟨front, rest, rfl, hfront⟩ := List.eq_append_cons_of_mem hzero
      have hwords := hperm.mem_iff.1 hzero
      -- The words before the first zero are some of those other than zero.
      have hsubset : front ⊆ words.filter (· != 0) := fun w hw => by
        have hmem := hperm.mem_iff.1 (List.mem_append_left _ hw)
        have hne : w ≠ 0 := fun h => hfront (h ▸ hw)
        simpa using ⟨hmem, hne⟩
      have hle := multipleOf_mono hsubset (by simp)
      rw [apply_lcm_of_zero_mem hold hfront, if_pos (hle.trans_lt (hcount hwords)),
        multipleOf_eq_zero_iff.2 hwords]
      rfl
    · rw [apply_lcm_of_zero_not_mem hold hzero, multipleOf_perm hperm]
  · by_contra hcount
    have hperm := List.filter_append_perm (· != 0) words
    -- The zeros stand behind the other words.
    have hzeros : 0 ∈ words.filter fun w => !(w != 0) := List.mem_filter.2 ⟨hzero, rfl⟩
    obtain ⟨w, rest, hrest⟩ := List.exists_cons_of_ne_nil (List.ne_nil_of_mem hzeros)
    obtain rfl : w = 0 := by
      have hw : w ∈ words.filter fun w => !(w != 0) := hrest ▸ List.mem_cons_self
      simpa using (List.mem_filter.1 hw).2
    rw [hrest] at hperm
    have hresult := horder _ _ hperm (Operand.hold_map_integer _) .fail (.ofSeed 0)
    rw [apply_lcm_of_zero_mem (Operand.hold_map_integer _) (by simp), if_neg hcount,
      multipleOf_eq_zero_iff.2 hzero] at hresult
    cases hresult

/-- **The least common multiple of integers.** Without a zero it is exact, or an overflow where it
is no word. With a zero it is zero, unless the multiple of the words before the zero is no word
without sign: then it is an overflow. -/
theorem multipliesWords_lcm (h : Operand.Hold operands words) : MultipliesWords operands words where
  exact := apply_lcm_of_zero_not_mem h
  zero front rest hwords hzero hcount policy source := by
    subst hwords
    rw [apply_lcm_of_zero_mem h hzero, if_pos hcount]
  overflow front rest hwords hzero hcount source := by
    subst hwords
    simp only [apply_lcm_of_zero_mem h hzero, if_neg hcount.not_gt]
    exact ⟨rfl, rfl⟩
  grouping others hothers policy source := by
    rw [apply_lcm h, apply_lcm hothers]
  anyOrder := anyOrder_lcm_iff

/-- Four and a container of minus six have the multiple twelve. -/
theorem multipliesWords_lcm_small :
    lcm.apply .fail [.integer 4, .ordered ⟨.integer, [.integer (-6)], by decide⟩] (.ofSeed 0) =
      .ok (.integer 12, .ofSeed 0) := by
  have hcontainer : Operand.Hold [.ordered ⟨.integer, [.integer (-6)], by decide⟩] [-6] :=
    (Operand.hold_container rfl (by decide)).2
  have hlcm := multipliesWords_lcm ((Operand.hold_map_integer [4]).append hcontainer)
  have hmultiple : multipleOf ([4] ++ [-6]) = 12 := by
    rw [List.singleton_append, multipleOf_cons, multipleOf_cons, multipleOf_nil]
    rfl
  have hsettled := hlcm.exact (by decide) .fail (.ofSeed 0)
  rw [hmultiple, settled_of_inRange (by decide)] at hsettled
  exact hsettled

/-- Two great words without a common divisor before a zero are an overflow. -/
theorem not_forall_apply_lcm_eq_settled :
    ¬∀ (policy : OverflowPolicy) (source : RandomSource) (operands : List Value)
      (words : List Int64), Operand.Hold operands words → words ≠ [] →
      lcm.apply policy operands source = lcm.settled policy (multipleOf words) source := by
  intro h
  have heq := h .fail (.ofSeed 0) _ _
    (Operand.hold_map_integer [greatestWord, greatestWord - 1, 0]) (by decide)
  have hoverflow : lcm.apply .fail ([greatestWord, greatestWord - 1, 0].map .integer) (.ofSeed 0) =
      .error (.overflow "lcm") := rfl
  rw [hoverflow, multipleOf_eq_zero_iff.2 (by decide)] at heq
  cases heq

end Operator

end multiples

/-! ### Divisors of words -/

namespace Word

/-- The greatest common divisor of the sizes of words. It is zero if all words are. -/
def divisorOf (words : List Int64) : ℕ := (words.map fun w => w.toInt.natAbs : Multiset ℕ).gcd

variable {words others : List Int64}

@[simp]
theorem divisorOf_nil : divisorOf [] = 0 := Multiset.gcd_zero

@[simp]
theorem divisorOf_cons (w : Int64) (words : List Int64) :
    divisorOf (w :: words) = Nat.gcd w.toInt.natAbs (divisorOf words) := by
  rw [divisorOf, List.map_cons, ← Multiset.cons_coe, Multiset.gcd_cons]
  rfl

theorem divisorOf_perm (h : words.Perm others) : divisorOf words = divisorOf others := by
  rw [divisorOf, Multiset.coe_eq_coe.2 (h.map _), divisorOf]

theorem divisorOf_eq_zero_iff : divisorOf words = 0 ↔ ∀ w ∈ words, w = 0 := by
  simp only [divisorOf, Multiset.gcd_eq_zero_iff, Multiset.mem_coe, List.forall_mem_map,
    natAbs_toInt_eq_zero_iff]

/-- The divisors of the greatest common divisor are those that all words have. -/
theorem dvd_divisorOf_iff {n : ℕ} : n ∣ divisorOf words ↔ ∀ w ∈ words, (n : ℤ) ∣ w.toInt := by
  simp only [divisorOf, Multiset.dvd_gcd, Multiset.mem_coe, List.forall_mem_map,
    Int.natCast_dvd]

theorem natAbs_toInt_le (w : Int64) : w.toInt.natAbs ≤ 2 ^ 63 := by
  have hrange := inRange_toInt w
  simp only [InRange, least, greatest] at hrange
  omega

theorem natAbs_toInt_eq_iff (w : Int64) : w.toInt.natAbs = 2 ^ 63 ↔ w = leastWord := by
  have hrange := inRange_toInt w
  have hleast : leastWord.toInt = least := rfl
  rw [← Int64.toInt_inj, hleast]
  simp only [InRange, least, greatest] at hrange ⊢
  omega

/-- The divisor is at most the size of the least word. -/
theorem divisorOf_le (words : List Int64) : divisorOf words ≤ 2 ^ 63 := by
  by_cases h : ∀ w ∈ words, w = 0
  · rw [divisorOf_eq_zero_iff.2 h]
    exact Nat.zero_le _
  · push Not at h
    obtain ⟨w, hmem, hw⟩ := h
    have hdvd := Int.natCast_dvd.1 (dvd_divisorOf_iff.1 dvd_rfl w hmem)
    have hpos : 0 < w.toInt.natAbs := Nat.pos_of_ne_zero (mt (natAbs_toInt_eq_zero_iff w).1 hw)
    exact (Nat.le_of_dvd hpos hdvd).trans (natAbs_toInt_le w)

/-- The divisor is as great as it can be where all words are zero or the least one, and not all of
them zero. -/
theorem divisorOf_eq_iff :
    divisorOf words = 2 ^ 63 ↔ leastWord ∈ words ∧ ∀ w ∈ words, w = 0 ∨ w = leastWord := by
  have hsize : leastWord.toInt.natAbs = 2 ^ 63 := (natAbs_toInt_eq_iff _).2 rfl
  constructor
  · intro h
    have hall : ∀ w ∈ words, w = 0 ∨ w = leastWord := by
      intro w hmem
      have hdvd := Int.natCast_dvd.1 (dvd_divisorOf_iff.1 h.symm.dvd w hmem)
      by_cases hw : w = 0
      · exact .inl hw
      -- A multiple of the greatest size other than zero is that size.
      have hpos : 0 < w.toInt.natAbs := Nat.pos_of_ne_zero (mt (natAbs_toInt_eq_zero_iff w).1 hw)
      have hle := Nat.le_of_dvd hpos hdvd
      exact .inr ((natAbs_toInt_eq_iff w).1 ((natAbs_toInt_le w).antisymm hle))
    refine ⟨?_, hall⟩
    by_contra hnone
    have hzero : divisorOf words = 0 := divisorOf_eq_zero_iff.2 fun w hmem =>
      (hall w hmem).resolve_right fun hw => hnone (hw ▸ hmem)
    rw [hzero] at h
    cases h
  · rintro ⟨hleast, hall⟩
    refine Nat.dvd_antisymm ?_ (dvd_divisorOf_iff.2 fun w hmem => ?_)
    · rw [← hsize]
      exact Int.natCast_dvd.1 (dvd_divisorOf_iff.1 dvd_rfl _ hleast)
    · obtain rfl | rfl := hall w hmem
      · exact dvd_zero _
      · exact Int.natCast_dvd.2 hsize.symm.dvd

/-- The divisor is a word unless it is as great as it can be. -/
theorem inRange_divisorOf_iff (words : List Int64) :
    InRange (divisorOf words) ↔ divisorOf words ≠ 2 ^ 63 := by
  have hle := divisorOf_le words
  simp only [InRange, least, greatest]
  omega

end Word

/-! ### Euclid's algorithm -/

/-- A round of Euclid's algorithm. -/
def euclidRound (pair : UInt64 × UInt64) : UInt64 × UInt64 := (pair.2, pair.1 % pair.2)

/-- A round keeps the common divisors, so that the algorithm finds the greatest of them. -/
theorem toNat_euclid (a b : UInt64) : (euclid a b).toNat = Nat.gcd a.toNat b.toNat := by
  fun_induction euclid a b with
  | case1 a => exact (Nat.gcd_zero_right _).symm
  | case2 a b hb ih =>
    rw [ih, UInt64.toNat_mod, Nat.gcd_comm b.toNat, ← Nat.gcd_rec, Nat.gcd_comm]

/-- The rounds come to a second number that is zero, and the first one is then the result. -/
theorem exists_iterate_euclidRound (a b : UInt64) :
    ∃ rounds ≤ b.toNat, euclidRound^[rounds] (a, b) = (euclid a b, 0) ∧
      ∀ fewer < rounds, (euclidRound^[fewer] (a, b)).2 ≠ 0 := by
  fun_induction euclid a b with
  | case1 a => exact ⟨0, Nat.zero_le _, rfl, nofun⟩
  | case2 a b hb ih =>
    obtain ⟨rounds, hle, hend, hbefore⟩ := ih
    have hpos : 0 < b.toNat := Nat.pos_of_ne_zero fun hzero => hb (UInt64.toNat_inj.1 hzero)
    refine ⟨rounds + 1, ?_, hend, fun fewer hfewer => ?_⟩
    -- The remainder is less than the second number, which leaves room for this round.
    · rw [UInt64.toNat_mod] at hle
      exact hle.trans_lt (Nat.mod_lt _ hpos)
    · cases fewer with
      | zero => exact hb
      | succ fewer => exact hbefore fewer (Nat.lt_of_succ_lt_succ hfewer)

theorem toNat_foldl_euclid (words : List Int64) (divisor : UInt64) :
    (words.foldl (fun divisor n => euclid divisor (.ofNat n.toInt.natAbs)) divisor).toNat =
      Nat.gcd divisor.toNat (divisorOf words) := by
  induction words generalizing divisor with
  | nil => rw [List.foldl_nil, divisorOf_nil, Nat.gcd_zero_right]
  | cons w rest ih =>
    rw [List.foldl_cons, ih, toNat_euclid, toNat_ofNat_natAbs, divisorOf_cons, Nat.gcd_assoc]

/-- What is found word by word is the divisor of all of them. -/
theorem toNat_commonDivisor (words : List Int64) :
    (commonDivisor words).toNat = divisorOf words := by
  rw [commonDivisor, toNat_foldl_euclid]
  exact Nat.gcd_zero_left _

/-! ### The operator for divisors -/

namespace Operator

/-- What the operator for the greatest common divisor makes of words. -/
structure DividesWords (operands : List Value) (words : List Int64) : Prop where
  /-- It is a common divisor of all words, and all others divide it. -/
  greatest : ∀ n : ℕ, n ∣ divisorOf words ↔ ∀ w ∈ words, (n : ℤ) ∣ w.toInt
  /-- It is zero where all words are. -/
  zero : divisorOf words = 0 ↔ ∀ w ∈ words, w = 0
  /-- It is exact unless it is as great as the size of the least word. -/
  exact : divisorOf words ≠ 2 ^ 63 → ∃ w : Int64, w.toInt = divisorOf words ∧
    ∀ policy source, gcd.apply policy operands source = .ok (.integer w, source)
  /-- Otherwise it is an overflow. -/
  overflow : divisorOf words = 2 ^ 63 → ∀ source,
    gcd.apply .fail operands source = .error (.overflow "gcd") ∧
      gcd.apply .saturate operands source = .ok (.integer greatestWord, source)
  /-- So it is where the least word is among the words and all others are zero. -/
  overflow_iff : divisorOf words = 2 ^ 63 ↔
    leastWord ∈ words ∧ ∀ w ∈ words, w = 0 ∨ w = leastWord
  /-- The order of the words does not matter, nor does it how they are spread over the operands. -/
  anyOrder : ∀ others reordered, reordered.Perm words → Operand.Hold others reordered →
    ∀ policy source, gcd.apply policy others source = gcd.apply policy operands source

variable {operands : List Value} {words : List Int64}

theorem apply_gcd (h : Operand.Hold operands words) (policy : OverflowPolicy)
    (source : RandomSource) :
    gcd.apply policy operands source = gcd.settled policy (divisorOf words) source := by
  have hcompute : gcd.compute policy operands =
      (Operand.words "gcd" operands >>= fun words =>
        wordOfNat "gcd" policy (commonDivisor words).toNat >>= fun w => .ok (.integer w)) := rfl
  rw [apply_of_hold h (show gcd ≠ .random from nofun), hcompute, h.words_eq]
  show (wordOfNat "gcd" policy (commonDivisor words).toNat >>= fun w => _).map _ = _
  rw [toNat_commonDivisor, ← settled_natCast gcd policy (divisorOf words) source]
  show _ = (wordOfNat "gcd" policy (divisorOf words)).map _
  cases wordOfNat "gcd" policy (divisorOf words) <;> rfl

/-- **The greatest common divisor of integers.** The operator finds it for all words, the least one
included, and it is an overflow just where it is the size of that word. Euclid's algorithm ends
after as many rounds as its second number is great. -/
theorem dividesWords_gcd (h : Operand.Hold operands words) :
    DividesWords operands words ∧
      ∀ a b : UInt64, ∃ rounds ≤ b.toNat, euclidRound^[rounds] (a, b) = (euclid a b, 0) ∧
        ∀ fewer < rounds, (euclidRound^[fewer] (a, b)).2 ≠ 0 := by
  refine ⟨⟨fun _ => dvd_divisorOf_iff, divisorOf_eq_zero_iff, fun hword => ?_,
    fun hgreat source => ?_, divisorOf_eq_iff,
    fun others reordered hperm hothers policy source => ?_⟩, exists_iterate_euclidRound⟩
  · have hrange := (inRange_divisorOf_iff words).2 hword
    refine ⟨_, toInt_ofInt hrange, fun policy source => ?_⟩
    rw [apply_gcd h, settled_of_inRange hrange]
  -- A size is not negative, so that one that is no word is beyond the greatest word.
  · have hrange := mt (inRange_divisorOf_iff words).1 (not_not.2 hgreat)
    have hclamp : clamp (divisorOf words) = greatestWord :=
      clamp_of_greatest_le (greatest_le_of_not_inRange hrange (Int.natCast_nonneg _))
    simp only [apply_gcd h, settled_of_not_inRange hrange, hclamp]
    exact ⟨rfl, rfl⟩
  · rw [apply_gcd h, apply_gcd hothers, divisorOf_perm hperm]

/-- The least word and a container of a zero and of the least word have a divisor that is no
word. -/
theorem dividesWords_gcd_least :
    gcd.apply .fail [.integer leastWord,
        .ordered ⟨.integer, [.integer 0, .integer leastWord], by decide⟩] (.ofSeed 0) =
      .error (.overflow "gcd") ∧
    gcd.apply .saturate [.integer leastWord,
        .ordered ⟨.integer, [.integer 0, .integer leastWord], by decide⟩] (.ofSeed 0) =
      .ok (.integer greatestWord, .ofSeed 0) := by
  have hcontainer : Operand.Hold
      [.ordered ⟨.integer, [.integer 0, .integer leastWord], by decide⟩] [0, leastWord] :=
    (Operand.hold_container rfl (by decide)).2
  have hgcd := (dividesWords_gcd ((Operand.hold_map_integer [leastWord]).append hcontainer)).1
  exact hgcd.overflow (hgcd.overflow_iff.2 (by simp)) (.ofSeed 0)

end Operator

end Assessment
