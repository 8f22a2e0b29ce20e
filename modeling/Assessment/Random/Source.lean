import Assessment.Number.Word

/-!
# Random sources

A random source is a key and a count of the numbers drawn from it: the same seed always gives the
same numbers. They are the words of a stream cipher of twelve rounds that turns the key and a block
number into sixteen words, block after block. Integers below a bound are drawn without bias, by
drawing again where the bound does not divide the range of a word.

`RandomSource.below_lt` says that a number drawn below a bound is below it.
-/

namespace Assessment

/-! ### The block function -/

namespace Random

/-- The sixteen words that the rounds work on. -/
abbrev Block := Vector UInt32 16

/-- A word turned to the left. -/
def rotateLeft (word distance : UInt32) : UInt32 :=
  word <<< distance ||| word >>> (32 - distance)

/-- Add one word to another, and turn a third by the result. -/
def mixStep (target source turned : Fin 16) (distance : UInt32) (block : Block) : Block :=
  let sum := block[target] + block[source]
  (block.set target sum).set turned (rotateLeft (block[turned] ^^^ sum) distance)

/-- Mix four words. -/
def quarterRound (a b c d : Fin 16) (block : Block) : Block :=
  mixStep c d b 7 (mixStep a b d 8 (mixStep c d b 12 (mixStep a b d 16 block)))

/-- Mix the columns, then the diagonals. -/
def doubleRound (block : Block) : Block :=
  let block := quarterRound 0 4 8 12 block
  let block := quarterRound 1 5 9 13 block
  let block := quarterRound 2 6 10 14 block
  let block := quarterRound 3 7 11 15 block
  let block := quarterRound 0 5 10 15 block
  let block := quarterRound 1 6 11 12 block
  let block := quarterRound 2 7 8 13 block
  quarterRound 3 4 9 14 block

/-- The words before the rounds: four constants, the key, the block number and an empty stream
number. -/
def initialBlock (key : Vector UInt32 8) (number : Nat) : Block :=
  let low := UInt32.ofNat number
  let high := UInt32.ofNat (number / 0x100000000)
  #v[0x61707865, 0x3320646e, 0x79622d32, 0x6b206574,
    key[0], key[1], key[2], key[3], key[4], key[5], key[6], key[7], low, high, 0, 0]

/-- The random words of a block. -/
def cipherBlock (key : Vector UInt32 8) (number : Nat) : Block :=
  let start := initialBlock key number
  -- six double rounds; adding the start makes the block hard to invert
  Vector.zipWith (· + ·) (Nat.repeat doubleRound 6 start) start

end Random

/-! ### Sources -/

/-- A stream of random words. -/
structure RandomSource where
  /-- The key of the stream. -/
  key : Vector UInt32 8
  /-- How many double words were drawn. -/
  drawn : Nat
  deriving DecidableEq

namespace RandomSource

/-- The next state of the generator that spreads a seed over a key. -/
def spreadStep (state : UInt64) : UInt64 := state * 6364136223846793005 + 11634580027462260723

/-- The word that a state of that generator gives. -/
def spreadWord (state : UInt64) : UInt32 :=
  let mixed := (((state >>> 18) ^^^ state) >>> 27).toUInt32
  -- the highest bits of the state say how far to turn
  let distance := (state >>> 59).toUInt32
  Random.rotateLeft mixed (32 - distance)

/-- The words of a key that a seed gives. -/
def spread : Nat → UInt64 → List UInt32
  | 0, _ => []
  | count + 1, state => spreadWord (spreadStep state) :: spread count (spreadStep state)

theorem length_spread (count : Nat) (state : UInt64) : (spread count state).length = count := by
  induction count generalizing state with
  | zero => rfl
  | succ count ih => simp [spread, ih]

/-- The source of a seed. -/
def ofSeed (seed : UInt64) : RandomSource :=
  ⟨⟨(spread 8 seed).toArray, by simp [length_spread]⟩, 0⟩

/-- The next double word: two words of the stream, the low one first. -/
def next (source : RandomSource) : UInt64 × RandomSource :=
  let block := Random.cipherBlock source.key (source.drawn / 8)
  let place := source.drawn % 8
  let low := block[2 * place]
  let high := block[2 * place + 1]
  (low.toUInt64 ||| high.toUInt64 <<< 32, { source with drawn := source.drawn + 1 })

/-- The greatest low half of a product at which a number below a bound is accepted. -/
def acceptanceZone (bound : Nat) : Nat := bound * Nat.pow 2 (63 - bound.log2) - 1

/-- Draw a number below a bound, drawing again at most so often. The number is the high half of the
product of the bound and a double word, and it is rejected if the low half is too great. -/
def belowWithin : Nat → Nat → RandomSource → Nat × RandomSource
  | tries, bound, source =>
    let (word, rest) := source.next
    let product := word.toNat * bound
    match tries with
    -- all tries before were rejected, each with less than even chance
    | 0 => (product / Word.count, rest)
    | tries + 1 =>
      if product % Word.count ≤ acceptanceZone bound then (product / Word.count, rest)
      else belowWithin tries bound rest

/-- Draw a number below a bound, which is positive and at most the number of double words. Each try
is accepted with more than even chance, and the last one always. -/
def below (bound : Nat) (source : RandomSource) : Nat × RandomSource :=
  belowWithin 256 bound source

theorem belowWithin_lt (tries : Nat) {bound : Nat} (h : 0 < bound) (source : RandomSource) :
    (belowWithin tries bound source).1 < bound := by
  have high (word : UInt64) : word.toNat * bound / Word.count < bound := by
    rw [Nat.div_lt_iff_lt_mul (by decide), Nat.mul_comm bound]
    exact Nat.mul_lt_mul_of_pos_right word.toNat_lt h
  induction tries generalizing source with
  | zero => exact high _
  | succ tries ih =>
    unfold belowWithin
    dsimp only
    split
    · exact high _
    · exact ih _

theorem below_lt {bound : Nat} (h : 0 < bound) (source : RandomSource) :
    (source.below bound).1 < bound :=
  belowWithin_lt 256 h source

/-- The greatest number below one that a draw gives. -/
def greatestFraction : Float := 1.0 - Float.ofBits 0x3CB0000000000000

/-- The first double, going down from the one of some bits, with which the end of an interval is not
passed. The next smaller positive double is the one whose bits count one less. -/
def shrinkScale (least greatest : Float) : Nat → Float
  | 0 => Float.ofBits 0
  | bits + 1 =>
    let scale := Float.ofBits (UInt64.ofNat (bits + 1))
    if greatest < scale * greatestFraction + least then shrinkScale least greatest bits else scale

/-- Draw a double of an interval of finite and positive width. -/
def within (least greatest : Float) (source : RandomSource) : Float × RandomSource :=
  let width := (greatest - least) / greatestFraction
  let scale := shrinkScale least greatest width.toBits.toNat
  let (word, rest) := source.next
  -- 52 random bits behind the point of a number from one to two
  let fraction := Float.ofBits ((word >>> 12) ||| 0x3FF0000000000000) - 1.0
  (fraction * scale + least, rest)

end RandomSource

end Assessment
