/-!
# UserDirectory — SHA-1

The hash function that stored passwords are made with. A message is padded to whole blocks of
sixteen 32-bit words, and each block is mixed into the state in eighty rounds.

Main result: `length_sha1` — a digest has twenty bytes.
-/

namespace UserDirectory.Password

/-- The state of the hash: five words. -/
structure Sha1State where
  a : UInt32
  b : UInt32
  c : UInt32
  d : UInt32
  e : UInt32

namespace Sha1State

/-- The state before the first block. -/
def initial : Sha1State := ⟨0x67452301, 0xEFCDAB89, 0x98BADCFE, 0x10325476, 0xC3D2E1F0⟩

/-- Turn a word to the left by `n` bits. -/
def turn (n x : UInt32) : UInt32 := (x <<< n) ||| (x >>> (32 - n))

/-- What round `t` makes of three words. -/
def choose (t : Nat) (b c d : UInt32) : UInt32 :=
  if t < 20 then (b &&& c) ||| (~~~b &&& d)
  else if 40 ≤ t && t < 60 then (b &&& c) ||| (b &&& d) ||| (c &&& d)
  else b ^^^ c ^^^ d

/-- The constant of round `t`. -/
def constant (t : Nat) : UInt32 :=
  if t < 20 then 0x5A827999
  else if t < 40 then 0x6ED9EBA1
  else if t < 60 then 0x8F1BBCDC
  else 0xCA62C1D6

/-- Round `t` with the word `w`. -/
def round (t : Nat) (w : UInt32) (s : Sha1State) : Sha1State :=
  ⟨turn 5 s.a + choose t s.b s.c s.d + s.e + constant t + w, s.a, turn 30 s.b, s.c, s.d⟩

/-- The word that a round adds behind the sixteen words it sees. -/
def nextWord (window : List UInt32) : UInt32 :=
  turn 1 (window.getD 13 0 ^^^ window.getD 8 0 ^^^ window.getD 2 0 ^^^ window.getD 0 0)

/-- The last `n` of the eighty rounds. -/
def rounds : Nat → List UInt32 → Sha1State → Sha1State
  | 0, _, s => s
  | n + 1, window, s =>
    rounds n (window.tail ++ [nextWord window]) (round (80 - (n + 1)) (window.headD 0) s)

/-- Mix a block of sixteen words into the state. -/
def compress (s : Sha1State) (block : List UInt32) : Sha1State :=
  let r := rounds 80 block s
  ⟨s.a + r.a, s.b + r.b, s.c + r.c, s.d + r.d, s.e + r.e⟩

end Sha1State

/-- Four bytes as a word, the most significant first. -/
def wordOf (a b c d : UInt8) : UInt32 :=
  (a.toUInt32 <<< 24) ||| (b.toUInt32 <<< 16) ||| (c.toUInt32 <<< 8) ||| d.toUInt32

/-- The bytes of a word, the most significant first. -/
def bytesOf (w : UInt32) : List UInt8 :=
  [(w >>> 24).toUInt8, (w >>> 16).toUInt8, (w >>> 8).toUInt8, w.toUInt8]

/-- Bytes as words; fewer than four at the end are dropped. -/
def wordsOf : List UInt8 → List UInt32
  | a :: b :: c :: d :: rest => wordOf a b c d :: wordsOf rest
  | _ => []

/-- The message with a one bit, zeros up to eight bytes short of a whole block, and its length in
bits. -/
def padded (message : List UInt8) : List UInt8 :=
  let n := message.length
  message ++ 0x80 :: List.replicate ((119 - n % 64) % 64) 0 ++
    (List.range 8).map fun i => UInt8.ofNat (8 * n / Nat.pow 256 (7 - i))

/-- Mix all blocks of sixteen words into the state. -/
def absorb (s : Sha1State) (words : List UInt32) : Sha1State :=
  if 16 ≤ words.length then absorb (s.compress (words.take 16)) (words.drop 16) else s
termination_by words.length
decreasing_by simp only [List.length_drop]; omega

/-- The digest of a message. -/
def sha1 (message : List UInt8) : List UInt8 :=
  let s := absorb .initial (wordsOf (padded message))
  bytesOf s.a ++ bytesOf s.b ++ bytesOf s.c ++ bytesOf s.d ++ bytesOf s.e

@[simp] theorem length_sha1 (message : List UInt8) : (sha1 message).length = 20 := by
  simp [sha1, bytesOf]

end UserDirectory.Password
