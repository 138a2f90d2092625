import HostRoster.Encoding.Bytes
import HostRoster.Number.Modular

/-!
# Digests

The SHA-2 family of digests. Its members differ in the width of their words, the number of rounds
and the distances of their rotations, which a `Digest` record holds; the constants are the leading
fraction bits of square and cube roots of the first primes.
-/

set_option autoImplicit false

namespace HostRoster

/-- The parameters of a digest. -/
structure Digest where
  /-- The bits of a word. -/
  width : Nat
  /-- The words that the digest has. -/
  outputWords : Nat
  /-- The words of the start state. -/
  start : List Nat
  /-- The constant of each round. -/
  rounds : List Nat
  /-- The rotations of the two sums of a round. -/
  sums : (Nat × Nat × Nat) × (Nat × Nat × Nat)
  /-- The two rotations and the shift of the two mixers of the schedule. -/
  mixers : (Nat × Nat × Nat) × (Nat × Nat × Nat)

namespace Digest

/-! ## Constants -/

/-- Whether a number has no divisor between two and itself. -/
def isPrime (value : Nat) : Bool :=
  2 ≤ value && (List.range value).all fun divisor => divisor < 2 || value % divisor != 0

/-- The primes below 410, which are the first eighty. -/
def primes : List Nat := (List.range 410).filter isPrime

/-- The first fraction bits of the root of a number. -/
def fractionOfRoot (degree width value : Nat) : Nat :=
  Modular.root degree (value * Nat.pow 2 (degree * width)) % Nat.pow 2 width

/-- The digest of 256 bits. -/
def sha256 : Digest where
  width := 32
  outputWords := 8
  start := (primes.take 8).map (fractionOfRoot 2 32)
  rounds := (primes.take 64).map (fractionOfRoot 3 32)
  sums := ((2, 13, 22), (6, 11, 25))
  mixers := ((7, 18, 3), (17, 19, 10))

/-- The digest of 512 bits. -/
def sha512 : Digest where
  width := 64
  outputWords := 8
  start := (primes.take 8).map (fractionOfRoot 2 64)
  rounds := primes.map (fractionOfRoot 3 64)
  sums := ((28, 34, 39), (14, 18, 41))
  mixers := ((1, 8, 7), (19, 61, 6))

/-- The digest of 384 bits: the larger one with another start and two words less. -/
def sha384 : Digest :=
  { sha512 with
    outputWords := 6
    start := ((primes.drop 8).take 8).map (fractionOfRoot 2 64) }

/-! ## Words -/

/-- A word rotated to the right. -/
def rotate (width distance word : Nat) : Nat :=
  (word >>> distance) ||| ((word <<< (width - distance)) % Nat.pow 2 width)

/-- The exclusive sum of three rotations of a word. -/
def sum (width : Nat) (distances : Nat × Nat × Nat) (word : Nat) : Nat :=
  rotate width distances.1 word ^^^ rotate width distances.2.1 word ^^^
    rotate width distances.2.2 word

/-- The exclusive sum of two rotations and a shift of a word. -/
def mix (width : Nat) (distances : Nat × Nat × Nat) (word : Nat) : Nat :=
  rotate width distances.1 word ^^^ rotate width distances.2.1 word ^^^
    (word >>> distances.2.2)

/-- Bits of the second word where the first has ones, and of the third where it has zeros. -/
def choose (selector ifOne ifZero : Nat) : Nat :=
  ifZero ^^^ (selector &&& (ifOne ^^^ ifZero))

/-- Bits that at least two of three words have. -/
def majority (a b c : Nat) : Nat := (a &&& b) ||| (c &&& (a ||| b))

/-! ## Blocks -/

/-- The bytes of a word. -/
def wordBytes (digest : Digest) : Nat := digest.width / 8

/-- The message with a one bit, zeros and its length behind it, as whole blocks of 16 words. -/
def pad (digest : Digest) (message : Bytes) : Bytes :=
  let block := 16 * digest.wordBytes
  let lengthField := 2 * digest.wordBytes
  let used := (message.length + 1 + lengthField) % block
  let zeros := (block - used) % block
  message ++ 0x80 :: (List.replicate zeros 0 ++ Bytes.ofNumber lengthField (8 * message.length))

/-- The words of whole blocks. -/
def words (digest : Digest) (count : Nat) (bytes : Bytes) : List Nat :=
  match count with
  | 0 => []
  | count + 1 =>
    Bytes.number (bytes.take digest.wordBytes) ::
      digest.words count (bytes.drop digest.wordBytes)

/-- The schedule of a block, to which so many words are added at the end. -/
def schedule (digest : Digest) : Nat → Array Nat → Array Nat
  | 0, known => known
  | steps + 1, known =>
    let at' (back : Nat) : Nat := known.getD (known.size - back) 0
    let next := (at' 16 + mix digest.width digest.mixers.1 (at' 15) + at' 7 +
      mix digest.width digest.mixers.2 (at' 2)) % Nat.pow 2 digest.width
    schedule digest steps (known.push next)

/-- The eight words of a state. -/
structure State where
  /-- First word. -/
  a : Nat
  /-- Second word. -/
  b : Nat
  /-- Third word. -/
  c : Nat
  /-- Fourth word. -/
  d : Nat
  /-- Fifth word. -/
  e : Nat
  /-- Sixth word. -/
  f : Nat
  /-- Seventh word. -/
  g : Nat
  /-- Eighth word. -/
  h : Nat

/-- The state of eight words. -/
def State.ofWords : List Nat → State
  | [a, b, c, d, e, f, g, h] => ⟨a, b, c, d, e, f, g, h⟩
  | _ => ⟨0, 0, 0, 0, 0, 0, 0, 0⟩

/-- The words of a state. -/
def State.toWords (state : State) : List Nat :=
  [state.a, state.b, state.c, state.d, state.e, state.f, state.g, state.h]

/-- One round with its constant and its word of the schedule. -/
def round (digest : Digest) (state : State) (step : Nat × Nat) : State :=
  let bound := Nat.pow 2 digest.width
  let first := state.h + sum digest.width digest.sums.2 state.e +
    choose state.e state.f state.g + step.1 + step.2
  let second := sum digest.width digest.sums.1 state.a + majority state.a state.b state.c
  ⟨(first + second) % bound, state.a, state.b, state.c,
    (state.d + first) % bound, state.e, state.f, state.g⟩

/-- Takes one block of words into the state. -/
def compress (digest : Digest) (state : List Nat) (block : List Nat) : List Nat :=
  let known := digest.schedule (digest.rounds.length - 16) block.toArray
  let final := (digest.rounds.zip known.toList).foldl digest.round (.ofWords state)
  (state.zip final.toWords).map fun (old, new) => (old + new) % Nat.pow 2 digest.width

/-- Takes blocks of bytes into the state. -/
def absorb (digest : Digest) : Nat → Bytes → List Nat → List Nat
  | 0, _, state => state
  | blocks + 1, bytes, state =>
    let size := 16 * digest.wordBytes
    digest.absorb blocks (bytes.drop size)
      (digest.compress state (digest.words 16 (bytes.take size)))

/-- The digest of a message. -/
def hash (digest : Digest) (message : Bytes) : Bytes :=
  let padded := digest.pad message
  let state := digest.absorb (padded.length / (16 * digest.wordBytes)) padded digest.start
  (state.take digest.outputWords).flatMap (Bytes.ofNumber digest.wordBytes)

end Digest

end HostRoster
