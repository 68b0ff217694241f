import SparkRsi.Shared.Bytes

set_option autoImplicit false

/-!
# SHA-256

The concrete hash, on natural numbers so that the kernel can evaluate it. The
development is generic in `HexHash`; this is the function runs are tried on.
-/

namespace Shared.Sha256

abbrev Word := Nat

def wrap (n : Nat) : Word := n % 4294967296

def rotr (x : Word) (n : Nat) : Word := wrap (x >>> n ||| x <<< (32 - n))

def roundConstants : List Word :=
  [0x428a2f98, 0x71374491, 0xb5c0fbcf, 0xe9b5dba5, 0x3956c25b, 0x59f111f1, 0x923f82a4, 0xab1c5ed5,
   0xd807aa98, 0x12835b01, 0x243185be, 0x550c7dc3, 0x72be5d74, 0x80deb1fe, 0x9bdc06a7, 0xc19bf174,
   0xe49b69c1, 0xefbe4786, 0x0fc19dc6, 0x240ca1cc, 0x2de92c6f, 0x4a7484aa, 0x5cb0a9dc, 0x76f988da,
   0x983e5152, 0xa831c66d, 0xb00327c8, 0xbf597fc7, 0xc6e00bf3, 0xd5a79147, 0x06ca6351, 0x14292967,
   0x27b70a85, 0x2e1b2138, 0x4d2c6dfc, 0x53380d13, 0x650a7354, 0x766a0abb, 0x81c2c92e, 0x92722c85,
   0xa2bfe8a1, 0xa81a664b, 0xc24b8b70, 0xc76c51a3, 0xd192e819, 0xd6990624, 0xf40e3585, 0x106aa070,
   0x19a4c116, 0x1e376c08, 0x2748774c, 0x34b0bcb5, 0x391c0cb3, 0x4ed8aa4a, 0x5b9cca4f, 0x682e6ff3,
   0x748f82ee, 0x78a5636f, 0x84c87814, 0x8cc70208, 0x90befffa, 0xa4506ceb, 0xbef9a3f7, 0xc67178f2]

def initialState : List Word :=
  [0x6a09e667, 0xbb67ae85, 0x3c6ef372, 0xa54ff53a, 0x510e527f, 0x9b05688c, 0x1f83d9ab, 0x5be0cd19]

def schedule : Nat → List Word → List Word
  | 0, words => words
  | n + 1, words =>
    let w2 := words.getD 1 0
    let w15 := words.getD 14 0
    let s0 := rotr w15 7 ^^^ rotr w15 18 ^^^ (w15 >>> 3)
    let s1 := rotr w2 17 ^^^ rotr w2 19 ^^^ (w2 >>> 10)
    schedule n (wrap (words.getD 15 0 + s0 + words.getD 6 0 + s1) :: words)

def round : List Word → Word × Word → List Word
  | [a, b, c, d, e, f, g, h], (constant, word) =>
    let s1 := rotr e 6 ^^^ rotr e 11 ^^^ rotr e 25
    let choice := (e &&& f) ^^^ ((4294967295 - e) &&& g)
    let t1 := h + s1 + choice + constant + word
    let s0 := rotr a 2 ^^^ rotr a 13 ^^^ rotr a 22
    let majority := (a &&& b) ^^^ (a &&& c) ^^^ (b &&& c)
    [wrap (t1 + s0 + majority), a, b, c, wrap (d + t1), e, f, g]
  | state, _ => state

def compress (state block : List Word) : List Word :=
  let words := (schedule 48 block.reverse).reverse
  state.zipWith (fun x y => wrap (x + y)) ((roundConstants.zip words).foldl round state)

def bigEndian (width n : Nat) : Bytes :=
  (List.range width).map fun i => UInt8.ofNat (n / 256 ^ (width - 1 - i))

def words : Bytes → List Word
  | a :: b :: c :: d :: rest =>
    (a.toNat * 16777216 + b.toNat * 65536 + c.toNat * 256 + d.toNat) :: words rest
  | _ => []

def blocks : Nat → List Word → List (List Word)
  | 0, _ => []
  | n + 1, ws => ws.take 16 :: blocks n (ws.drop 16)

def pad (message : Bytes) : Bytes :=
  message ++ 0x80 :: List.replicate ((119 - message.length % 64) % 64) 0 ++
    bigEndian 8 (message.length * 8)

def digest (message : Bytes) : Bytes :=
  let ws := words (pad message)
  ((blocks (ws.length / 16) ws).foldl compress initialState).flatMap (bigEndian 4)

theorem round_length (state : List Word) (input : Word × Word) :
    (round state input).length = state.length := by
  fun_cases round state input <;> rfl

theorem compress_length (state block : List Word) : (compress state block).length = state.length := by
  have rounds (inputs : List (Word × Word)) (start : List Word) :
      (inputs.foldl round start).length = start.length := by
    induction inputs generalizing start with
    | nil => rfl
    | cons input rest ih => rw [List.foldl_cons, ih, round_length]
  simp [compress, rounds]

theorem digest_length (message : Bytes) : (digest message).length = 32 := by
  have chained (bs : List (List Word)) (state : List Word) :
      (bs.foldl compress state).length = state.length := by
    induction bs generalizing state with
    | nil => rfl
    | cons b rest ih => rw [List.foldl_cons, ih, compress_length]
  have printed (ws : List Word) : (ws.flatMap (bigEndian 4)).length = 4 * ws.length := by
    induction ws with
    | nil => rfl
    | cons w rest ih =>
      simp only [List.flatMap_cons, List.length_append, List.length_cons, ih]
      simp [bigEndian]
      omega
  rw [digest, printed, chained]
  rfl

end Sha256

def sha256 : HexHash where
  digest := Sha256.digest
  length_digest := Sha256.digest_length

example : sha256.hex [97, 98, 99] =
    "ba7816bf8f01cfea414140de5dae2223b00361a396177a9cb410ff61f20015ad" := by decide +kernel

end Shared
