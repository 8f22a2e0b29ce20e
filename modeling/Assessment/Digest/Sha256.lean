/-!
# SHA-256

The secure hash function of 256 bits: the message is padded to blocks of 64 bytes, and each block
is mixed into eight words of 32 bits in 64 rounds.
-/

namespace Assessment.Sha256

/-- The round constants: the first 32 bits of the fractional parts of the cube roots of the first
64 primes. -/
def roundConstants : List UInt32 :=
  [0x428a2f98, 0x71374491, 0xb5c0fbcf, 0xe9b5dba5, 0x3956c25b, 0x59f111f1, 0x923f82a4, 0xab1c5ed5,
    0xd807aa98, 0x12835b01, 0x243185be, 0x550c7dc3, 0x72be5d74, 0x80deb1fe, 0x9bdc06a7, 0xc19bf174,
    0xe49b69c1, 0xefbe4786, 0x0fc19dc6, 0x240ca1cc, 0x2de92c6f, 0x4a7484aa, 0x5cb0a9dc, 0x76f988da,
    0x983e5152, 0xa831c66d, 0xb00327c8, 0xbf597fc7, 0xc6e00bf3, 0xd5a79147, 0x06ca6351, 0x14292967,
    0x27b70a85, 0x2e1b2138, 0x4d2c6dfc, 0x53380d13, 0x650a7354, 0x766a0abb, 0x81c2c92e, 0x92722c85,
    0xa2bfe8a1, 0xa81a664b, 0xc24b8b70, 0xc76c51a3, 0xd192e819, 0xd6990624, 0xf40e3585, 0x106aa070,
    0x19a4c116, 0x1e376c08, 0x2748774c, 0x34b0bcb5, 0x391c0cb3, 0x4ed8aa4a, 0x5b9cca4f, 0x682e6ff3,
    0x748f82ee, 0x78a5636f, 0x84c87814, 0x8cc70208, 0x90befffa, 0xa4506ceb, 0xbef9a3f7, 0xc67178f2]

/-- The eight words that blocks are mixed into. -/
structure State where
  /-- The first word. -/
  a : UInt32
  /-- The second word. -/
  b : UInt32
  /-- The third word. -/
  c : UInt32
  /-- The fourth word. -/
  d : UInt32
  /-- The fifth word. -/
  e : UInt32
  /-- The sixth word. -/
  f : UInt32
  /-- The seventh word. -/
  g : UInt32
  /-- The eighth word. -/
  h : UInt32

/-- The words before the first block: the first 32 bits of the fractional parts of the square roots
of the first eight primes. -/
def start : State :=
  ⟨0x6a09e667, 0xbb67ae85, 0x3c6ef372, 0xa54ff53a, 0x510e527f, 0x9b05688c, 0x1f83d9ab, 0x5be0cd19⟩

/-- Rotate a word to the right. -/
def rotateRight (x : UInt32) (n : UInt32) : UInt32 := (x >>> n) ||| (x <<< (32 - n))

/-- One round. -/
def round (s : State) (constant word : UInt32) : State :=
  let sigma1 := rotateRight s.e 6 ^^^ rotateRight s.e 11 ^^^ rotateRight s.e 25
  let choice := (s.e &&& s.f) ^^^ (s.e.complement &&& s.g)
  let t1 := s.h + sigma1 + choice + constant + word
  let sigma0 := rotateRight s.a 2 ^^^ rotateRight s.a 13 ^^^ rotateRight s.a 22
  let majority := (s.a &&& s.b) ^^^ (s.a &&& s.c) ^^^ (s.b &&& s.c)
  ⟨t1 + (sigma0 + majority), s.a, s.b, s.c, s.d + t1, s.e, s.f, s.g⟩

/-- The word that follows sixteen words of the message schedule. -/
def nextWord (schedule : Array UInt32) (i : Nat) : UInt32 :=
  let w15 := schedule.getD (i - 15) 0
  let w2 := schedule.getD (i - 2) 0
  let small0 := rotateRight w15 7 ^^^ rotateRight w15 18 ^^^ (w15 >>> 3)
  let small1 := rotateRight w2 17 ^^^ rotateRight w2 19 ^^^ (w2 >>> 10)
  schedule.getD (i - 16) 0 + small0 + schedule.getD (i - 7) 0 + small1

/-- The message schedule of a block: its sixteen words, extended to 64. -/
def schedule (block : Array UInt32) : Array UInt32 :=
  (List.range 48).foldl (fun words i => words.push (nextWord words (i + 16))) block

/-- Mix a block of sixteen words in. -/
def mix (s : State) (block : Array UInt32) : State :=
  let words := schedule block
  let rounds := roundConstants.zip words.toList
  let t := rounds.foldl (fun t (constant, word) => round t constant word) s
  ⟨s.a + t.a, s.b + t.b, s.c + t.c, s.d + t.d, s.e + t.e, s.f + t.f, s.g + t.g, s.h + t.h⟩

/-- The bytes of a number, the most significant first. -/
def bigEndian (count n : Nat) : List UInt8 :=
  (List.range count).map fun i => UInt8.ofNat (n / Nat.pow 256 (count - 1 - i) % 256)

/-- A message with its padding: a one bit, zeros, and its length in bits. -/
def pad (message : List UInt8) : List UInt8 :=
  -- so many that the length ends a block
  let zeros := (119 - message.length % 64) % 64
  message ++ 0x80 :: List.replicate zeros 0 ++ bigEndian 8 (8 * message.length)

/-- The big-endian words of a list of bytes. -/
def toWords : List UInt8 → List UInt32
  | a :: b :: c :: d :: rest =>
    ((a.toUInt32 <<< 24) ||| (b.toUInt32 <<< 16) ||| (c.toUInt32 <<< 8) ||| d.toUInt32) ::
      toWords rest
  | _ => []

/-- Mix in blocks of sixteen words as long as there are any. `count` is the number of blocks. -/
def mixAll : Nat → State → List UInt32 → State
  | 0, s, _ => s
  | count + 1, s, words => mixAll count (mix s (words.take 16).toArray) (words.drop 16)

/-- The digest of a message, as eight words. -/
def digest (message : List UInt8) : List UInt32 :=
  let padded := pad message
  -- the padded message fills whole blocks
  let s := mixAll (padded.length / 64) start (toWords padded)
  [s.a, s.b, s.c, s.d, s.e, s.f, s.g, s.h]

/-- The eight hexadecimal digits of a word, in lower case. -/
def hexWord (word : UInt32) : String :=
  let digit := fun i =>
    let n := (word.toNat / Nat.pow 16 (7 - i)) % 16
    if n < 10 then Char.ofNat (48 + n) else Char.ofNat (87 + n)
  String.ofList ((List.range 8).map digit)

/-- The digest of the bytes of a text, in hexadecimal digits. -/
def hexDigest (text : String) : String :=
  String.join ((digest text.toUTF8.toList).map hexWord)

end Assessment.Sha256
