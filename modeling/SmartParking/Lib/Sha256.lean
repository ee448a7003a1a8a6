import Mathlib.Data.List.Basic

namespace SmartParking.Lib.Sha256

-- SHA-256 over natural numbers below 2^32. Everything is structurally
-- recursive, so a digest of a literal is computed by the kernel.
def word (n : Nat) : Nat := n % 4294967296

def rotr (n x : Nat) : Nat := (x >>> n) ||| word (x <<< (32-n))

def sigma0 (x : Nat) : Nat := rotr 7 x ^^^ rotr 18 x ^^^ (x >>> 3)
def sigma1 (x : Nat) : Nat := rotr 17 x ^^^ rotr 19 x ^^^ (x >>> 10)
def Sigma0 (x : Nat) : Nat := rotr 2 x ^^^ rotr 13 x ^^^ rotr 22 x
def Sigma1 (x : Nat) : Nat := rotr 6 x ^^^ rotr 11 x ^^^ rotr 25 x
def ch (x y z : Nat) : Nat := (x &&& y) ^^^ ((x ^^^ 0xffffffff) &&& z)
def maj (x y z : Nat) : Nat := (x &&& y) ^^^ (x &&& z) ^^^ (y &&& z)

def roundConstants : List Nat :=
  [0x428a2f98,0x71374491,0xb5c0fbcf,0xe9b5dba5,0x3956c25b,0x59f111f1,0x923f82a4,0xab1c5ed5,
   0xd807aa98,0x12835b01,0x243185be,0x550c7dc3,0x72be5d74,0x80deb1fe,0x9bdc06a7,0xc19bf174,
   0xe49b69c1,0xefbe4786,0x0fc19dc6,0x240ca1cc,0x2de92c6f,0x4a7484aa,0x5cb0a9dc,0x76f988da,
   0x983e5152,0xa831c66d,0xb00327c8,0xbf597fc7,0xc6e00bf3,0xd5a79147,0x06ca6351,0x14292967,
   0x27b70a85,0x2e1b2138,0x4d2c6dfc,0x53380d13,0x650a7354,0x766a0abb,0x81c2c92e,0x92722c85,
   0xa2bfe8a1,0xa81a664b,0xc24b8b70,0xc76c51a3,0xd192e819,0xd6990624,0xf40e3585,0x106aa070,
   0x19a4c116,0x1e376c08,0x2748774c,0x34b0bcb5,0x391c0cb3,0x4ed8aa4a,0x5b9cca4f,0x682e6ff3,
   0x748f82ee,0x78a5636f,0x84c87814,0x8cc70208,0x90befffa,0xa4506ceb,0xbef9a3f7,0xc67178f2]

structure Chain where
  a : Nat
  b : Nat
  c : Nat
  d : Nat
  e : Nat
  f : Nat
  g : Nat
  h : Nat

def initial : Chain :=
  ⟨0x6a09e667,0xbb67ae85,0x3c6ef372,0xa54ff53a,0x510e527f,0x9b05688c,0x1f83d9ab,0x5be0cd19⟩

def round (s : Chain) (k w : Nat) : Chain :=
  let t1 := s.h + Sigma1 s.e + ch s.e s.f s.g + k + w
  let t2 := Sigma0 s.a + maj s.a s.b s.c
  ⟨word (t1+t2),s.a,s.b,s.c,word (s.d+t1),s.e,s.f,s.g⟩

-- The schedule is built newest word first, so position `i` counts backwards.
def extend : Nat → List Nat → List Nat
  | 0,words => words
  | n+1,words =>
    extend n (word (sigma1 (words.getD 1 0) + words.getD 6 0 +
      sigma0 (words.getD 14 0) + words.getD 15 0) :: words)

def wordsOf : List Nat → List Nat
  | a::b::c::d::rest => (a*16777216 + b*65536 + c*256 + d) :: wordsOf rest
  | _ => []

def rounds : Chain → List Nat → List Nat → Chain
  | s,k::ks,w::ws => rounds (round s k w) ks ws
  | s,_,_ => s

def compress (s : Chain) (block : List Nat) : Chain :=
  let t := rounds s roundConstants (extend 48 (wordsOf block).reverse).reverse
  ⟨word (s.a+t.a),word (s.b+t.b),word (s.c+t.c),word (s.d+t.d),
   word (s.e+t.e),word (s.f+t.f),word (s.g+t.g),word (s.h+t.h)⟩

def bigEndian : Nat → Nat → List Nat
  | 0,_ => []
  | n+1,x => bigEndian n (x/256) ++ [x%256]

def pad (bytes : List Nat) : List Nat :=
  bytes ++ 128 :: List.replicate ((119 - bytes.length%64)%64) 0 ++ bigEndian 8 (bytes.length*8)

def blocks : Nat → Chain → List Nat → Chain
  | 0,s,_ => s
  | n+1,s,bytes => blocks n (compress s (bytes.take 64)) (bytes.drop 64)

def hash (bytes : List Nat) : List Nat :=
  let padded := pad bytes
  let s := blocks (padded.length/64) initial padded
  [s.a,s.b,s.c,s.d,s.e,s.f,s.g,s.h].flatMap (bigEndian 4)

def hexDigit (n : Nat) : Char := "0123456789abcdef".toList.getD n '0'

def utf8 (c : Char) : List Nat :=
  let n := c.toNat
  if n < 0x80 then [n]
  else if n < 0x800 then [0xc0 + n/64,0x80 + n%64]
  else if n < 0x10000 then [0xe0 + n/4096,0x80 + n/64%64,0x80 + n%64]
  else [0xf0 + n/262144,0x80 + n/4096%64,0x80 + n/64%64,0x80 + n%64]

def hex (bytes : List Nat) : List Char := bytes.flatMap fun byte => [hexDigit (byte/16),hexDigit (byte%16)]

def encode (text : String) : List Nat := text.toList.flatMap utf8

def hexdigest (text : String) : List Char := hex (hash (encode text))

-- HMAC-SHA256: a key longer than a block is hashed first.
def hmac (key message : List Nat) : List Nat :=
  let key := if 64 < key.length then hash key else key
  let block := key ++ List.replicate (64-key.length) 0
  hash (block.map (· ^^^ 0x5c) ++ hash (block.map (· ^^^ 0x36) ++ message))

example : String.ofList (hexdigest "abc") =
    "ba7816bf8f01cfea414140de5dae2223b00361a396177a9cb410ff61f20015ad" := by decide +kernel

example : String.ofList (hex (hmac (encode "Jefe") (encode "what do ya want for nothing?"))) =
    "5bdcc146bf60754e6a042426089575c75a003f089d2739839dec58b964ec3843" := by decide +kernel

end SmartParking.Lib.Sha256
