/-!
# Secure hash algorithm 1

The digest of a sequence of bytes: the padded message is taken in blocks of sixteen words, each of
which is spread over eighty rounds on a state of five words.
-/

namespace OpcachePreload.Digest

/-- Five words. -/
structure Words where
  a : UInt32
  b : UInt32
  c : UInt32
  d : UInt32
  e : UInt32
  deriving DecidableEq, Repr

/-- Rotate a word to the left by `n` bits, `n` between 1 and 31. -/
def rotate (n : UInt32) (word : UInt32) : UInt32 :=
  (word <<< n) ||| (word >>> (32 - n))

/-- `count` bytes of a number, the most significant first. -/
def bigEndian (count n : Nat) : List UInt8 :=
  (List.range count).map fun i => UInt8.ofNat (n / Nat.pow 256 (count - 1 - i))

/-- A message with a one bit, zeros and its length in bits after it, in whole blocks. -/
def padded (message : List UInt8) : List UInt8 :=
  let zeros := (119 - message.length % 64) % 64
  message ++ 0x80 :: List.replicate zeros 0 ++ bigEndian 8 (8 * message.length)

/-- The words that bytes make, the most significant byte of each first. -/
def words : List UInt8 → List UInt32
  | a :: b :: c :: d :: rest =>
    ((a.toUInt32 <<< 24) ||| (b.toUInt32 <<< 16) ||| (c.toUInt32 <<< 8) ||| d.toUInt32) ::
      words rest
  | _ => []

/-- The words of a block spread over `count` rounds. `window` are the last sixteen words, the first
of them the oldest. -/
def schedule : (count : Nat) → (window : List UInt32) → List UInt32
  | 0, _ => []
  | count + 1, window =>
    match window with
    | [] => []
    | word :: rest =>
      let next := rotate 1 (word ^^^ window.getD 2 0 ^^^ window.getD 8 0 ^^^ window.getD 13 0)
      word :: schedule count (rest ++ [next])

/-- The function and the constant of a round. -/
def roundFunction (round : Nat) (s : Words) : UInt32 × UInt32 :=
  if round < 20 then ((s.b &&& s.c) ||| (~~~s.b &&& s.d), 0x5a827999)
  else if round < 40 then (s.b ^^^ s.c ^^^ s.d, 0x6ed9eba1)
  else if round < 60 then ((s.b &&& s.c) ||| (s.b &&& s.d) ||| (s.c &&& s.d), 0x8f1bbcdc)
  else (s.b ^^^ s.c ^^^ s.d, 0xca62c1d6)

/-- The rounds from a number on, one for each word. -/
def rounds (round : Nat) (s : Words) : List UInt32 → Words
  | [] => s
  | word :: rest =>
    let (mixed, constant) := roundFunction round s
    let a := rotate 5 s.a + mixed + s.e + constant + word
    rounds (round + 1) ⟨a, s.a, rotate 30 s.b, s.c, s.d⟩ rest

/-- The state after a block. -/
def block (s : Words) (window : List UInt32) : Words :=
  let t := rounds 0 s (schedule 80 window)
  ⟨s.a + t.a, s.b + t.b, s.c + t.c, s.d + t.d, s.e + t.e⟩

/-- The state after all the blocks that some words make. -/
def blocks (s : Words) (all : List UInt32) : Words :=
  if all.length < 16 then s else blocks (block s (all.take 16)) (all.drop 16)
termination_by all.length

/-- The digest of a message. -/
def sha1 (message : List UInt8) : Words :=
  blocks ⟨0x67452301, 0xefcdab89, 0x98badcfe, 0x10325476, 0xc3d2e1f0⟩ (words (padded message))

end OpcachePreload.Digest
