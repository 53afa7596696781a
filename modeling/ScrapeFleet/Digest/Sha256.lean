/-
# ScrapeFleet.Digest.Sha256 — the SHA-256 digest

A digest of 256 bits for a string of bytes. The bytes are padded to whole blocks of 64, each block is
stretched to 64 words, one for each round, and the rounds stir the words into a state of eight words.
Nothing here assumes that two strings have different digests; that is for whoever relies on it.
-/

namespace ScrapeFleet.Digest

/-- The eight words that the rounds stir. -/
structure Sha256State where
  a : UInt32
  b : UInt32
  c : UInt32
  d : UInt32
  e : UInt32
  f : UInt32
  g : UInt32
  h : UInt32
deriving DecidableEq, Repr

namespace Sha256

/-- The round constants: the fractional parts of the cube roots of the first 64 primes. -/
def constants : List UInt32 :=
  [
    0x428a2f98, 0x71374491, 0xb5c0fbcf, 0xe9b5dba5, 0x3956c25b, 0x59f111f1, 0x923f82a4, 0xab1c5ed5,
    0xd807aa98, 0x12835b01, 0x243185be, 0x550c7dc3, 0x72be5d74, 0x80deb1fe, 0x9bdc06a7, 0xc19bf174,
    0xe49b69c1, 0xefbe4786, 0x0fc19dc6, 0x240ca1cc, 0x2de92c6f, 0x4a7484aa, 0x5cb0a9dc, 0x76f988da,
    0x983e5152, 0xa831c66d, 0xb00327c8, 0xbf597fc7, 0xc6e00bf3, 0xd5a79147, 0x06ca6351, 0x14292967,
    0x27b70a85, 0x2e1b2138, 0x4d2c6dfc, 0x53380d13, 0x650a7354, 0x766a0abb, 0x81c2c92e, 0x92722c85,
    0xa2bfe8a1, 0xa81a664b, 0xc24b8b70, 0xc76c51a3, 0xd192e819, 0xd6990624, 0xf40e3585, 0x106aa070,
    0x19a4c116, 0x1e376c08, 0x2748774c, 0x34b0bcb5, 0x391c0cb3, 0x4ed8aa4a, 0x5b9cca4f, 0x682e6ff3,
    0x748f82ee, 0x78a5636f, 0x84c87814, 0x8cc70208, 0x90befffa, 0xa4506ceb, 0xbef9a3f7, 0xc67178f2]

/-- The state at the start: the fractional parts of the square roots of the first eight primes. -/
def initial : Sha256State :=
  ⟨0x6a09e667, 0xbb67ae85, 0x3c6ef372, 0xa54ff53a,
    0x510e527f, 0x9b05688c, 0x1f83d9ab, 0x5be0cd19⟩

/-- The word turned right by `n` places. -/
def turned (x : UInt32) (n : UInt32) : UInt32 := (x >>> n) ||| (x <<< (32 - n))

/-- One round: a constant and a word of the stretched block are stirred in. -/
def round (s : Sha256State) (k w : UInt32) : Sha256State :=
  let s1 := turned s.e 6 ^^^ turned s.e 11 ^^^ turned s.e 25
  let choice := (s.e &&& s.f) ^^^ (~~~s.e &&& s.g)
  let t1 := s.h + s1 + choice + k + w
  let s0 := turned s.a 2 ^^^ turned s.a 13 ^^^ turned s.a 22
  let majority := (s.a &&& s.b) ^^^ (s.a &&& s.c) ^^^ (s.b &&& s.c)
  ⟨t1 + (s0 + majority), s.a, s.b, s.c, s.d + t1, s.e, s.f, s.g⟩

/-- The word that follows sixteen words of a stretched block. -/
def nextWord (words : Array UInt32) (t : Nat) : UInt32 :=
  let w (back : Nat) : UInt32 := words.getD (t - back) 0
  let x := w 15
  let y := w 2
  w 16 + (turned x 7 ^^^ turned x 18 ^^^ (x >>> 3)) + w 7
    + (turned y 17 ^^^ turned y 19 ^^^ (y >>> 10))

/-- A block of 16 words, stretched to 64. -/
def stretched (block : Array UInt32) : Array UInt32 :=
  (List.range 48).foldl (fun words i => words.push (nextWord words (i + 16))) block

/-- The state with all rounds of a block stirred in. -/
def absorb (s : Sha256State) (block : Array UInt32) : Sha256State :=
  let r := (constants.zip (stretched block).toList).foldl (fun s (k, w) => round s k w) s
  ⟨s.a + r.a, s.b + r.b, s.c + r.c, s.d + r.d, s.e + r.e, s.f + r.f, s.g + r.g, s.h + r.h⟩

/-- The bytes of a number, the most significant first. -/
def bytesOf (count n : Nat) : List UInt8 :=
  (List.range count).map fun i => UInt8.ofNat (n >>> (8 * (count - 1 - i)))

/-- What is put behind a text of `n` bytes to fill whole blocks: a bit, zeros and the length in bits. -/
def padding (n : Nat) : List UInt8 :=
  0x80 :: List.replicate ((119 - n % 64) % 64) 0 ++ bytesOf 8 (8 * n)

/-- The words of a string of bytes, four bytes each; an incomplete word is left out. -/
def wordsOf : List UInt8 → List UInt32
  | a :: b :: c :: d :: rest =>
    (a.toUInt32 <<< 24 ||| b.toUInt32 <<< 16 ||| c.toUInt32 <<< 8 ||| d.toUInt32) :: wordsOf rest
  | _ => []

/-- Absorbs block after block, a block being 16 words. -/
def absorbAll (s : Sha256State) (words : List UInt32) : Sha256State :=
  if _h : words.length < 16 then s
  else absorbAll (absorb s (words.take 16).toArray) (words.drop 16)
termination_by words.length
decreasing_by simp only [List.length_drop]; omega

/-- The state after all bytes. -/
def run (bytes : List UInt8) : Sha256State :=
  absorbAll initial (wordsOf (bytes ++ padding bytes.length))

/-- The words of a state. -/
def words (s : Sha256State) : List UInt32 := [s.a, s.b, s.c, s.d, s.e, s.f, s.g, s.h]

/-- Eight hexadecimal digits. -/
def wordText (w : UInt32) : String :=
  let digits := Nat.toDigits 16 w.toNat
  String.ofList (List.replicate (8 - digits.length) '0' ++ digits)

end Sha256

/-- The SHA-256 digest of a string of bytes, in 64 hexadecimal digits. -/
def sha256 (bytes : List UInt8) : String :=
  String.join ((Sha256.words (Sha256.run bytes)).map Sha256.wordText)

end ScrapeFleet.Digest
