/-!
# SHA-256

The digest of a text's UTF-8 bytes, written as 64 lower-case hexadecimal digits, and its leading
digits. A message is padded to blocks of 64 bytes; each block is stretched to 64 words and folded
into the eight words of the state.
-/

namespace ScopeAlgebra.Digest

/-- The first 32 bits of the fractional parts of the cube roots of the first 64 primes. -/
def roundConstants : List UInt32 :=
  [0x428a2f98, 0x71374491, 0xb5c0fbcf, 0xe9b5dba5, 0x3956c25b, 0x59f111f1, 0x923f82a4, 0xab1c5ed5,
    0xd807aa98, 0x12835b01, 0x243185be, 0x550c7dc3, 0x72be5d74, 0x80deb1fe, 0x9bdc06a7, 0xc19bf174,
    0xe49b69c1, 0xefbe4786, 0x0fc19dc6, 0x240ca1cc, 0x2de92c6f, 0x4a7484aa, 0x5cb0a9dc, 0x76f988da,
    0x983e5152, 0xa831c66d, 0xb00327c8, 0xbf597fc7, 0xc6e00bf3, 0xd5a79147, 0x06ca6351, 0x14292967,
    0x27b70a85, 0x2e1b2138, 0x4d2c6dfc, 0x53380d13, 0x650a7354, 0x766a0abb, 0x81c2c92e, 0x92722c85,
    0xa2bfe8a1, 0xa81a664b, 0xc24b8b70, 0xc76c51a3, 0xd192e819, 0xd6990624, 0xf40e3585, 0x106aa070,
    0x19a4c116, 0x1e376c08, 0x2748774c, 0x34b0bcb5, 0x391c0cb3, 0x4ed8aa4a, 0x5b9cca4f, 0x682e6ff3,
    0x748f82ee, 0x78a5636f, 0x84c87814, 0x8cc70208, 0x90befffa, 0xa4506ceb, 0xbef9a3f7, 0xc67178f2]

/-- The eight working words. -/
structure State where
  a : UInt32
  b : UInt32
  c : UInt32
  d : UInt32
  e : UInt32
  f : UInt32
  g : UInt32
  h : UInt32

/-- The first 32 bits of the fractional parts of the square roots of the first eight primes. -/
def State.start : State :=
  ⟨0x6a09e667, 0xbb67ae85, 0x3c6ef372, 0xa54ff53a, 0x510e527f, 0x9b05688c, 0x1f83d9ab, 0x5be0cd19⟩

/-- Word-wise sum of two states. -/
def State.add (s t : State) : State :=
  ⟨s.a + t.a, s.b + t.b, s.c + t.c, s.d + t.d, s.e + t.e, s.f + t.f, s.g + t.g, s.h + t.h⟩

/-- The words of a state in order. -/
def State.words (s : State) : List UInt32 := [s.a, s.b, s.c, s.d, s.e, s.f, s.g, s.h]

/-- Rotation to the right by `n` of 1 to 31 bits. -/
def rotate (n x : UInt32) : UInt32 := (x >>> n) ||| (x <<< (32 - n))

/-- One round with the sum `k` of a schedule word and its constant. -/
def State.round (s : State) (k : UInt32) : State :=
  let choice := (s.e &&& s.f) ^^^ (~~~s.e &&& s.g)
  let majority := (s.a &&& s.b) ^^^ (s.a &&& s.c) ^^^ (s.b &&& s.c)
  let t₁ := s.h + (rotate 6 s.e ^^^ rotate 11 s.e ^^^ rotate 25 s.e) + choice + k
  let t₂ := (rotate 2 s.a ^^^ rotate 13 s.a ^^^ rotate 22 s.a) + majority
  ⟨t₁ + t₂, s.a, s.b, s.c, s.d + t₁, s.e, s.f, s.g⟩

/-- The next schedule word after sixteen words, newest first. -/
def nextWord (newest : List UInt32) : UInt32 :=
  let w₁₅ := newest.getD 14 0
  let w₂ := newest.getD 1 0
  (rotate 17 w₂ ^^^ rotate 19 w₂ ^^^ (w₂ >>> 10)) + newest.getD 6 0 +
    (rotate 7 w₁₅ ^^^ rotate 18 w₁₅ ^^^ (w₁₅ >>> 3)) + newest.getD 15 0

/-- The schedule of a block, newest word first, after `n` words more. -/
def stretch : Nat → List UInt32 → List UInt32
  | 0, newest => newest
  | n + 1, newest => stretch n (nextWord newest :: newest)

/-- Folds one block of sixteen words into the state. -/
def State.absorb (s : State) (block : List UInt32) : State :=
  let schedule := (stretch 48 block.reverse).reverse
  s.add ((schedule.zipWith (· + ·) roundConstants).foldl State.round s)

/-- The big-endian bytes of a number, `width` of them. -/
def bytesOfNat (width n : Nat) : List UInt8 :=
  (List.range width).reverse.map fun i => UInt8.ofNat (n >>> (8 * i))

/-- The message with a one bit, zeros and the bit length behind it, a whole number of blocks. -/
def padded (message : List UInt8) : List UInt8 :=
  message ++ [0x80] ++ List.replicate ((119 - message.length % 64) % 64) 0 ++
    bytesOfNat 8 (8 * message.length)

/-- Big-endian words of four bytes each. -/
def wordsOfBytes : List UInt8 → List UInt32
  | b₃ :: b₂ :: b₁ :: b₀ :: rest =>
    ((b₃.toUInt32 <<< 24) ||| (b₂.toUInt32 <<< 16) ||| (b₁.toUInt32 <<< 8) ||| b₀.toUInt32) ::
      wordsOfBytes rest
  | _ => []

/-- Blocks of sixteen words each. -/
def blocksOfWords (words : List UInt32) : List (List UInt32) :=
  (List.range (words.length / 16)).map fun i => (words.drop (16 * i)).take 16

/-- The digits of a word in base 16, eight of them. -/
def hexOfWord (word : UInt32) : List Char :=
  (List.range 8).reverse.map fun i => Nat.digitChar ((word.toNat >>> (4 * i)) % 16)

/-- The SHA-256 digest of a message as hexadecimal digits. -/
def sha256 (message : List UInt8) : List Char :=
  let final := (blocksOfWords (wordsOfBytes (padded message))).foldl State.absorb State.start
  final.words.flatMap hexOfWord

/-- The first `length` digits of the digest of a text; a negative length leaves out that many digits
at the end. -/
def leadingDigits (length : Int) (text : String) : String :=
  let count := if length < 0 then 64 - length.natAbs else length.toNat
  String.ofList ((sha256 text.toUTF8.toList).take count)

/-- The first twelve digits of the digest of a text. -/
def shortHash (text : String) : String := leadingDigits 12 text

end ScopeAlgebra.Digest
