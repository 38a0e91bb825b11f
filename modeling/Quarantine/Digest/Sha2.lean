/-!
# The SHA-2 digests

    digest  =  the state after all blocks of the padded message, cut to the width asked for

A message is padded with a bit, zeros and its length in bits to whole blocks of sixteen words.
The round constants are the fractional parts of the cube roots of the first primes, the start
values those of square roots of primes.
-/

namespace Quarantine.Digest

/-! ## Words -/

/-- The operations on words of one width. -/
structure WordOps (W : Type) where
  bytes : Nat
  ofNat : Nat → W
  toNat : W → Nat
  add : W → W → W
  and : W → W → W
  xor : W → W → W
  not : W → W
  rotateRight : W → Nat → W
  shiftRight : W → Nat → W

def words32 : WordOps UInt32 where
  bytes := 4
  ofNat := UInt32.ofNat
  toNat := UInt32.toNat
  add := (· + ·)
  and := (· &&& ·)
  xor := (· ^^^ ·)
  not := (~~~ ·)
  rotateRight w n := (w >>> UInt32.ofNat n) ||| (w <<< UInt32.ofNat (32 - n))
  shiftRight w n := w >>> UInt32.ofNat n

def words64 : WordOps UInt64 where
  bytes := 8
  ofNat := UInt64.ofNat
  toNat := UInt64.toNat
  add := (· + ·)
  and := (· &&& ·)
  xor := (· ^^^ ·)
  not := (~~~ ·)
  rotateRight w n := (w >>> UInt64.ofNat n) ||| (w <<< UInt64.ofNat (64 - n))
  shiftRight w n := w >>> UInt64.ofNat n

/-! ## One family -/

/-- What sets the digests of one word width apart: the amounts of the four mixing functions,
the last of each lower pair a shift, and the round constants. -/
structure Family (W : Type) where
  ops : WordOps W
  upperA : Nat × Nat × Nat
  upperE : Nat × Nat × Nat
  lower0 : Nat × Nat × Nat
  lower1 : Nat × Nat × Nat
  rounds : List W

/-- The state between blocks. -/
structure State (W : Type) where
  a : W
  b : W
  c : W
  d : W
  e : W
  f : W
  g : W
  h : W

namespace Family

variable {W : Type} (F : Family W)

def upper (r : Nat × Nat × Nat) (w : W) : W :=
  F.ops.xor (F.ops.xor (F.ops.rotateRight w r.1) (F.ops.rotateRight w r.2.1))
    (F.ops.rotateRight w r.2.2)

def lower (r : Nat × Nat × Nat) (w : W) : W :=
  F.ops.xor (F.ops.xor (F.ops.rotateRight w r.1) (F.ops.rotateRight w r.2.1))
    (F.ops.shiftRight w r.2.2)

/-- The next word of the schedule; the sixteen before it come latest first. -/
def nextWord (last : List W) : W :=
  let nth (n : Nat) := (last[n]?).getD (F.ops.ofNat 0)
  F.ops.add (F.ops.add (F.lower F.lower1 (nth 1)) (nth 6))
    (F.ops.add (F.lower F.lower0 (nth 14)) (nth 15))

/-- `n` more words of the schedule, the words so far latest first. -/
def schedule : (n : Nat) → (last : List W) → List W
  | 0, last => last.reverse
  | n + 1, last => schedule n (F.nextWord last :: last)

def round (s : State W) (k w : W) : State W :=
  let o := F.ops
  let choice := o.xor (o.and s.e s.f) (o.and (o.not s.e) s.g)
  let majority := o.xor (o.xor (o.and s.a s.b) (o.and s.a s.c)) (o.and s.b s.c)
  let t1 := o.add (o.add (o.add s.h (F.upper F.upperE s.e)) (o.add choice k)) w
  let t2 := o.add (F.upper F.upperA s.a) majority
  ⟨o.add t1 t2, s.a, s.b, s.c, o.add s.d t1, s.e, s.f, s.g⟩

/-- The state after one block of sixteen words. -/
def block (s : State W) (words : List W) : State W :=
  let ws := F.schedule (F.rounds.length - 16) words.reverse
  let t := (F.rounds.zip ws).foldl (fun t kw => F.round t kw.1 kw.2) s
  let o := F.ops
  ⟨o.add s.a t.a, o.add s.b t.b, o.add s.c t.c, o.add s.d t.d,
    o.add s.e t.e, o.add s.f t.f, o.add s.g t.g, o.add s.h t.h⟩

/-- A number as bytes, the most significant first. -/
def bytesOf (count n : Nat) : List UInt8 :=
  ((List.range count).map fun i => UInt8.ofNat (n / Nat.pow 256 i)).reverse

/-- A message filled up to whole blocks. -/
def pad (message : List UInt8) : List UInt8 :=
  let size := 16 * F.ops.bytes
  let used := message.length + 1 + 2 * F.ops.bytes
  let zeros := (size - used % size) % size
  message ++ 0x80 :: List.replicate zeros 0 ++ bytesOf (2 * F.ops.bytes) (8 * message.length)

/-- Bytes in groups of `n`, and what is left over not at all. -/
def chunks {α : Type} (n : Nat) : (fuel : Nat) → List α → List (List α)
  | 0, _ => []
  | fuel + 1, xs => if xs.length < n then [] else xs.take n :: chunks n fuel (xs.drop n)

def wordOf (bytes : List UInt8) : W :=
  F.ops.ofNat (bytes.foldl (fun n b => n * 256 + b.toNat) 0)

/-- The bytes of the state after all blocks of a message. -/
def digest (start : State W) (message : List UInt8) : List UInt8 :=
  let padded := F.pad message
  let words := (chunks F.ops.bytes padded.length padded).map F.wordOf
  let s := (chunks 16 words.length words).foldl F.block start
  [s.a, s.b, s.c, s.d, s.e, s.f, s.g, s.h].flatMap fun w => bytesOf F.ops.bytes (F.ops.toNat w)

end Family

/-! ## The digests -/

def family32 : Family UInt32 where
  ops := words32
  upperA := (2, 13, 22)
  upperE := (6, 11, 25)
  lower0 := (7, 18, 3)
  lower1 := (17, 19, 10)
  rounds := [
    0x428a2f98, 0x71374491, 0xb5c0fbcf, 0xe9b5dba5, 0x3956c25b, 0x59f111f1, 0x923f82a4, 0xab1c5ed5,
    0xd807aa98, 0x12835b01, 0x243185be, 0x550c7dc3, 0x72be5d74, 0x80deb1fe, 0x9bdc06a7, 0xc19bf174,
    0xe49b69c1, 0xefbe4786, 0x0fc19dc6, 0x240ca1cc, 0x2de92c6f, 0x4a7484aa, 0x5cb0a9dc, 0x76f988da,
    0x983e5152, 0xa831c66d, 0xb00327c8, 0xbf597fc7, 0xc6e00bf3, 0xd5a79147, 0x06ca6351, 0x14292967,
    0x27b70a85, 0x2e1b2138, 0x4d2c6dfc, 0x53380d13, 0x650a7354, 0x766a0abb, 0x81c2c92e, 0x92722c85,
    0xa2bfe8a1, 0xa81a664b, 0xc24b8b70, 0xc76c51a3, 0xd192e819, 0xd6990624, 0xf40e3585, 0x106aa070,
    0x19a4c116, 0x1e376c08, 0x2748774c, 0x34b0bcb5, 0x391c0cb3, 0x4ed8aa4a, 0x5b9cca4f, 0x682e6ff3,
    0x748f82ee, 0x78a5636f, 0x84c87814, 0x8cc70208, 0x90befffa, 0xa4506ceb, 0xbef9a3f7, 0xc67178f2]

def family64 : Family UInt64 where
  ops := words64
  upperA := (28, 34, 39)
  upperE := (14, 18, 41)
  lower0 := (1, 8, 7)
  lower1 := (19, 61, 6)
  rounds := [
    0x428a2f98d728ae22, 0x7137449123ef65cd, 0xb5c0fbcfec4d3b2f, 0xe9b5dba58189dbbc,
    0x3956c25bf348b538, 0x59f111f1b605d019, 0x923f82a4af194f9b, 0xab1c5ed5da6d8118,
    0xd807aa98a3030242, 0x12835b0145706fbe, 0x243185be4ee4b28c, 0x550c7dc3d5ffb4e2,
    0x72be5d74f27b896f, 0x80deb1fe3b1696b1, 0x9bdc06a725c71235, 0xc19bf174cf692694,
    0xe49b69c19ef14ad2, 0xefbe4786384f25e3, 0x0fc19dc68b8cd5b5, 0x240ca1cc77ac9c65,
    0x2de92c6f592b0275, 0x4a7484aa6ea6e483, 0x5cb0a9dcbd41fbd4, 0x76f988da831153b5,
    0x983e5152ee66dfab, 0xa831c66d2db43210, 0xb00327c898fb213f, 0xbf597fc7beef0ee4,
    0xc6e00bf33da88fc2, 0xd5a79147930aa725, 0x06ca6351e003826f, 0x142929670a0e6e70,
    0x27b70a8546d22ffc, 0x2e1b21385c26c926, 0x4d2c6dfc5ac42aed, 0x53380d139d95b3df,
    0x650a73548baf63de, 0x766a0abb3c77b2a8, 0x81c2c92e47edaee6, 0x92722c851482353b,
    0xa2bfe8a14cf10364, 0xa81a664bbc423001, 0xc24b8b70d0f89791, 0xc76c51a30654be30,
    0xd192e819d6ef5218, 0xd69906245565a910, 0xf40e35855771202a, 0x106aa07032bbd1b8,
    0x19a4c116b8d2d0c8, 0x1e376c085141ab53, 0x2748774cdf8eeb99, 0x34b0bcb5e19b48a8,
    0x391c0cb3c5c95a63, 0x4ed8aa4ae3418acb, 0x5b9cca4f7763e373, 0x682e6ff3d6b2b8a3,
    0x748f82ee5defb2fc, 0x78a5636f43172f60, 0x84c87814a1f0ab72, 0x8cc702081a6439ec,
    0x90befffa23631e28, 0xa4506cebde82bde9, 0xbef9a3f7b2c67915, 0xc67178f2e372532b,
    0xca273eceea26619c, 0xd186b8c721c0c207, 0xeada7dd6cde0eb1e, 0xf57d4f7fee6ed178,
    0x06f067aa72176fba, 0x0a637dc5a2c898a6, 0x113f9804bef90dae, 0x1b710b35131c471b,
    0x28db77f523047d84, 0x32caab7b40c72493, 0x3c9ebe0a15c9bebc, 0x431d67c49c100d4c,
    0x4cc5d4becb3e42b6, 0x597f299cfc657e2a, 0x5fcb6fab3ad6faec, 0x6c44198c4a475817]

def start224 : State UInt32 := ⟨
    0xc1059ed8, 0x367cd507, 0x3070dd17, 0xf70e5939,
    0xffc00b31, 0x68581511, 0x64f98fa7, 0xbefa4fa4⟩

def start256 : State UInt32 := ⟨
    0x6a09e667, 0xbb67ae85, 0x3c6ef372, 0xa54ff53a,
    0x510e527f, 0x9b05688c, 0x1f83d9ab, 0x5be0cd19⟩

def start384 : State UInt64 := ⟨
    0xcbbb9d5dc1059ed8, 0x629a292a367cd507, 0x9159015a3070dd17, 0x152fecd8f70e5939,
    0x67332667ffc00b31, 0x8eb44a8768581511, 0xdb0c2e0d64f98fa7, 0x47b5481dbefa4fa4⟩

def start512 : State UInt64 := ⟨
    0x6a09e667f3bcc908, 0xbb67ae8584caa73b, 0x3c6ef372fe94f82b, 0xa54ff53a5f1d36f1,
    0x510e527fade682d1, 0x9b05688c2b3e6c1f, 0x1f83d9abfb41bd6b, 0x5be0cd19137e2179⟩

def sha224 (message : List UInt8) : List UInt8 := (family32.digest start224 message).take 28

def sha256 (message : List UInt8) : List UInt8 := family32.digest start256 message

def sha384 (message : List UInt8) : List UInt8 := (family64.digest start384 message).take 48

def sha512 (message : List UInt8) : List UInt8 := family64.digest start512 message

/-- Two digits in base sixteen for each byte, lower case. -/
def hexBytes (bytes : List UInt8) : String :=
  String.ofList (bytes.flatMap fun b => [Nat.digitChar (b.toNat / 16), Nat.digitChar (b.toNat % 16)])

end Quarantine.Digest
