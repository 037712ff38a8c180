import SuseokTrader.Lib.Text

/-!
# SHA-256

The digest of a text's UTF-8 encoding, written as 64 lower-case hexadecimal
digits. Words are natural numbers below `2 ^ 32`; every sum is reduced modulo
`2 ^ 32` where the standard says so. Nothing is assumed about collisions.
-/

namespace SuseokTrader.Sha256

def wordSize : Nat := 4294967296

def add32 (left right : Nat) : Nat :=
  (left + right) % wordSize

def rotateRight (word count : Nat) : Nat :=
  (word >>> count) ||| ((word <<< (32 - count)) % wordSize)

def complement (word : Nat) : Nat :=
  (wordSize - 1) ^^^ word

def choose (x y z : Nat) : Nat :=
  (x &&& y) ^^^ (complement x &&& z)

def majority (x y z : Nat) : Nat :=
  (x &&& y) ^^^ (x &&& z) ^^^ (y &&& z)

def bigSigma0 (x : Nat) : Nat :=
  rotateRight x 2 ^^^ rotateRight x 13 ^^^ rotateRight x 22

def bigSigma1 (x : Nat) : Nat :=
  rotateRight x 6 ^^^ rotateRight x 11 ^^^ rotateRight x 25

def smallSigma0 (x : Nat) : Nat :=
  rotateRight x 7 ^^^ rotateRight x 18 ^^^ (x >>> 3)

def smallSigma1 (x : Nat) : Nat :=
  rotateRight x 17 ^^^ rotateRight x 19 ^^^ (x >>> 10)

/-- The first 32 bits of the fractional parts of the cube roots of the first 64 primes. -/
def roundConstants : List Nat := [
  0x428a2f98, 0x71374491, 0xb5c0fbcf, 0xe9b5dba5, 0x3956c25b, 0x59f111f1, 0x923f82a4, 0xab1c5ed5,
  0xd807aa98, 0x12835b01, 0x243185be, 0x550c7dc3, 0x72be5d74, 0x80deb1fe, 0x9bdc06a7, 0xc19bf174,
  0xe49b69c1, 0xefbe4786, 0x0fc19dc6, 0x240ca1cc, 0x2de92c6f, 0x4a7484aa, 0x5cb0a9dc, 0x76f988da,
  0x983e5152, 0xa831c66d, 0xb00327c8, 0xbf597fc7, 0xc6e00bf3, 0xd5a79147, 0x06ca6351, 0x14292967,
  0x27b70a85, 0x2e1b2138, 0x4d2c6dfc, 0x53380d13, 0x650a7354, 0x766a0abb, 0x81c2c92e, 0x92722c85,
  0xa2bfe8a1, 0xa81a664b, 0xc24b8b70, 0xc76c51a3, 0xd192e819, 0xd6990624, 0xf40e3585, 0x106aa070,
  0x19a4c116, 0x1e376c08, 0x2748774c, 0x34b0bcb5, 0x391c0cb3, 0x4ed8aa4a, 0x5b9cca4f, 0x682e6ff3,
  0x748f82ee, 0x78a5636f, 0x84c87814, 0x8cc70208, 0x90befffa, 0xa4506ceb, 0xbef9a3f7, 0xc67178f2]

structure Words where
  a : Nat
  b : Nat
  c : Nat
  d : Nat
  e : Nat
  f : Nat
  g : Nat
  h : Nat

def initialWords : Words :=
  ⟨0x6a09e667, 0xbb67ae85, 0x3c6ef372, 0xa54ff53a, 0x510e527f, 0x9b05688c, 0x1f83d9ab, 0x5be0cd19⟩

def Words.add (left right : Words) : Words :=
  ⟨add32 left.a right.a, add32 left.b right.b, add32 left.c right.c, add32 left.d right.d,
    add32 left.e right.e, add32 left.f right.f, add32 left.g right.g, add32 left.h right.h⟩

def Words.toList (words : Words) : List Nat :=
  [words.a, words.b, words.c, words.d, words.e, words.f, words.g, words.h]

def round (words : Words) (constant word : Nat) : Words :=
  let t1 := (words.h + bigSigma1 words.e + choose words.e words.f words.g + constant + word) %
    wordSize
  let t2 := (bigSigma0 words.a + majority words.a words.b words.c) % wordSize
  ⟨add32 t1 t2, words.a, words.b, words.c, add32 words.d t1, words.e, words.f, words.g⟩

/-- The rounds of one block; the window holds the next sixteen words of the message schedule. -/
def rounds : List Nat → List Nat → Words → Words
  | [], _, words => words
  | constant :: constants, window, words =>
      let current := window.getD 0 0
      let fresh := (smallSigma1 (window.getD 14 0) + window.getD 9 0 +
        smallSigma0 (window.getD 1 0) + current) % wordSize
      rounds constants (window.tail ++ [fresh]) (round words constant current)

def compress (words : Words) (block : List Nat) : Words :=
  words.add (rounds roundConstants block words)

/-- The big-endian bytes of a number, `count` of them. -/
def bytesOf : Nat → Nat → List Nat
  | 0, _ => []
  | count + 1, n => bytesOf count (n / 256) ++ [n % 256]

def wordsOfBytes : List Nat → List Nat
  | a :: b :: c :: d :: rest => (a * 16777216 + b * 65536 + c * 256 + d) :: wordsOfBytes rest
  | _ => []

def pad (message : List Nat) : List Nat :=
  message ++ [128] ++ List.replicate ((119 - message.length % 64) % 64) 0 ++
    bytesOf 8 (8 * message.length)

def compressBlocks : Nat → List Nat → Words → Words
  | 0, _, words => words
  | count + 1, message, words =>
      compressBlocks count (message.drop 16) (compress words (message.take 16))

def digest (message : List Nat) : Words :=
  let words := wordsOfBytes (pad message)
  compressBlocks (words.length / 16) words initialWords

def hexDigit (n : Nat) : Char :=
  if n < 10 then Char.ofNat (48 + n) else Char.ofNat (87 + n)

def hexOfByte (byte : Nat) : List Char :=
  [hexDigit (byte / 16), hexDigit (byte % 16)]

def hexOfWord (word : Nat) : List Char :=
  (bytesOf 4 word).flatMap hexOfByte

def utf8 (s : String) : List Nat :=
  s.toList.flatMap fun c => (String.utf8EncodeChar c).map UInt8.toNat

def hexdigest (s : String) : String :=
  String.ofList ((digest (utf8 s)).toList.flatMap hexOfWord)

example : hexdigest "abc" =
    "ba7816bf8f01cfea414140de5dae2223b00361a396177a9cb410ff61f20015ad" := by
  decide +kernel

end SuseokTrader.Sha256
