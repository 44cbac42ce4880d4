import ReleasePipeline.Text.Utf8

/-!
# ReleasePipeline.Digest.Sha256

The SHA-256 digest of a byte string, in lower-case hexadecimal. The message is padded to whole
blocks of sixty-four bytes; each block is read as sixteen words, and sixty-four rounds mix them into
the eight chaining words. Instead of a schedule of sixty-four words the rounds carry a window of the
next sixteen: each round uses the first and appends the word that the recurrence gives.
-/

namespace ReleasePipeline.Sha256

/-! ### Padding -/

/-- The length of a message in bits, as eight bytes, highest first. -/
def lengthBytes (size : Nat) : Bytes :=
  [56, 48, 40, 32, 24, 16, 8, 0].map fun shift => UInt8.ofNat ((size * 8) >>> shift)

/-- How many zero bytes stand between the closing bit and the length. -/
def paddingZeros (size : Nat) : Nat :=
  (119 - size % 64) % 64

/-- A message filled up to whole blocks: a closing one bit, zeros, and the length. -/
def pad (message : Bytes) : Bytes :=
  message ++ 0x80 :: List.replicate (paddingZeros message.length) 0 ++ lengthBytes message.length

/-! ### Words -/

/-- Bytes as words of four, highest byte first. -/
def wordsOf : Bytes → List UInt32
  | a :: b :: c :: d :: rest =>
    (a.toUInt32 <<< 24 ||| b.toUInt32 <<< 16 ||| c.toUInt32 <<< 8 ||| d.toUInt32) :: wordsOf rest
  | _ => []

/-- A word turned right by some bits. -/
def rotate (word : UInt32) (bits : UInt32) : UInt32 :=
  word >>> bits ||| word <<< (32 - bits)

/-- The eight chaining words. -/
structure Chain where
  a : UInt32
  b : UInt32
  c : UInt32
  d : UInt32
  e : UInt32
  f : UInt32
  g : UInt32
  h : UInt32
  deriving DecidableEq, Repr

/-- The chaining words before the first block. -/
def Chain.start : Chain :=
  ⟨0x6A09E667, 0xBB67AE85, 0x3C6EF372, 0xA54FF53A, 0x510E527F, 0x9B05688C, 0x1F83D9AB, 0x5BE0CD19⟩

/-- Adds two chains word by word. -/
def Chain.add (x y : Chain) : Chain :=
  ⟨x.a + y.a, x.b + y.b, x.c + y.c, x.d + y.d, x.e + y.e, x.f + y.f, x.g + y.g, x.h + y.h⟩

/-- The constants of the sixty-four rounds. -/
def roundConstants : List UInt32 :=
  [0x428A2F98, 0x71374491, 0xB5C0FBCF, 0xE9B5DBA5, 0x3956C25B, 0x59F111F1, 0x923F82A4, 0xAB1C5ED5,
   0xD807AA98, 0x12835B01, 0x243185BE, 0x550C7DC3, 0x72BE5D74, 0x80DEB1FE, 0x9BDC06A7, 0xC19BF174,
   0xE49B69C1, 0xEFBE4786, 0x0FC19DC6, 0x240CA1CC, 0x2DE92C6F, 0x4A7484AA, 0x5CB0A9DC, 0x76F988DA,
   0x983E5152, 0xA831C66D, 0xB00327C8, 0xBF597FC7, 0xC6E00BF3, 0xD5A79147, 0x06CA6351, 0x14292967,
   0x27B70A85, 0x2E1B2138, 0x4D2C6DFC, 0x53380D13, 0x650A7354, 0x766A0ABB, 0x81C2C92E, 0x92722C85,
   0xA2BFE8A1, 0xA81A664B, 0xC24B8B70, 0xC76C51A3, 0xD192E819, 0xD6990624, 0xF40E3585, 0x106AA070,
   0x19A4C116, 0x1E376C08, 0x2748774C, 0x34B0BCB5, 0x391C0CB3, 0x4ED8AA4A, 0x5B9CCA4F, 0x682E6FF3,
   0x748F82EE, 0x78A5636F, 0x84C87814, 0x8CC70208, 0x90BEFFFA, 0xA4506CEB, 0xBEF9A3F7, 0xC67178F2]

/-! ### Rounds -/

/-- One round: mixes a constant and a word into the chain. -/
def Chain.mix (x : Chain) (constant word : UInt32) : Chain :=
  let sum1 := rotate x.e 6 ^^^ rotate x.e 11 ^^^ rotate x.e 25
  let choice := (x.e &&& x.f) ^^^ (~~~x.e &&& x.g)
  let t1 := x.h + sum1 + choice + constant + word
  let sum0 := rotate x.a 2 ^^^ rotate x.a 13 ^^^ rotate x.a 22
  let majority := (x.a &&& x.b) ^^^ (x.a &&& x.c) ^^^ (x.b &&& x.c)
  ⟨t1 + sum0 + majority, x.a, x.b, x.c, x.d + t1, x.e, x.f, x.g⟩

/-- The first word of a window and the window one round on. A window that does not hold sixteen
words gives zeros. -/
def nextWord : List UInt32 → UInt32 × List UInt32
  | [w0, w1, w2, w3, w4, w5, w6, w7, w8, w9, w10, w11, w12, w13, w14, w15] =>
    let small0 := rotate w1 7 ^^^ rotate w1 18 ^^^ w1 >>> 3
    let small1 := rotate w14 17 ^^^ rotate w14 19 ^^^ w14 >>> 10
    (w0, [w1, w2, w3, w4, w5, w6, w7, w8, w9, w10, w11, w12, w13, w14, w15,
      w0 + small0 + w9 + small1])
  | _ => (0, [])

/-- Mixes a block of sixteen words into the chain. -/
def compress (chain : Chain) (block : List UInt32) : Chain :=
  let last := roundConstants.foldl
    (fun (x, window) constant =>
      let (word, window) := nextWord window
      (x.mix constant word, window))
    (chain, block)
  chain.add last.1

/-- Mixes all words into the chain, sixteen at a time. -/
def absorb (chain : Chain) : List UInt32 → Chain
  | w0 :: w1 :: w2 :: w3 :: w4 :: w5 :: w6 :: w7 :: w8 :: w9 :: w10 :: w11 :: w12 :: w13 :: w14 ::
      w15 :: rest =>
    absorb (compress chain [w0, w1, w2, w3, w4, w5, w6, w7, w8, w9, w10, w11, w12, w13, w14, w15])
      rest
  | _ => chain

/-! ### Hexadecimal -/

/-- A word as eight lower-case hexadecimal digits. -/
def hexWord (word : UInt32) : List Char :=
  [28, 24, 20, 16, 12, 8, 4, 0].map fun shift => Nat.digitChar ((word.toNat >>> shift) % 16)

/-- The digest of a message, as sixty-four lower-case hexadecimal digits. -/
def digest (message : Bytes) : String :=
  let x := absorb .start (wordsOf (pad message))
  String.ofList ([x.a, x.b, x.c, x.d, x.e, x.f, x.g, x.h].flatMap hexWord)

end ReleasePipeline.Sha256
