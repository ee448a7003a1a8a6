import Mathlib.Data.List.GetD
import SmartParking.Lib.Sha256

namespace SmartParking.Lib.Md5
open Sha256 (word wordsOf encode hex hexDigit)

-- MD5 over natural numbers below 2^32, with its words in little-endian order.
def rotl (n x : Nat) : Nat := word (x <<< n) ||| (x >>> (32-n))

def roundConstants : List Nat :=
  [0xd76aa478,0xe8c7b756,0x242070db,0xc1bdceee,0xf57c0faf,0x4787c62a,0xa8304613,0xfd469501,
   0x698098d8,0x8b44f7af,0xffff5bb1,0x895cd7be,0x6b901122,0xfd987193,0xa679438e,0x49b40821,
   0xf61e2562,0xc040b340,0x265e5a51,0xe9b6c7aa,0xd62f105d,0x02441453,0xd8a1e681,0xe7d3fbc8,
   0x21e1cde6,0xc33707d6,0xf4d50d87,0x455a14ed,0xa9e3e905,0xfcefa3f8,0x676f02d9,0x8d2a4c8a,
   0xfffa3942,0x8771f681,0x6d9d6122,0xfde5380c,0xa4beea44,0x4bdecfa9,0xf6bb4b60,0xbebfbc70,
   0x289b7ec6,0xeaa127fa,0xd4ef3085,0x04881d05,0xd9d4d039,0xe6db99e5,0x1fa27cf8,0xc4ac5665,
   0xf4292244,0x432aff97,0xab9423a7,0xfc93a039,0x655b59c3,0x8f0ccc92,0xffeff47d,0x85845dd1,
   0x6fa87e4f,0xfe2ce6e0,0xa3014314,0x4e0811a1,0xf7537e82,0xbd3af235,0x2ad7d2bb,0xeb86d391]

def shifts : List (List Nat) := [[7,12,17,22],[5,9,14,20],[4,11,16,23],[6,10,15,21]]

structure Chain where
  a : Nat
  b : Nat
  c : Nat
  d : Nat

def initial : Chain := ⟨0x67452301,0xefcdab89,0x98badcfe,0x10325476⟩

def negate (x : Nat) : Nat := x ^^^ 0xffffffff

-- The function of the round and the word of the block it takes.
def mix (i : Nat) (s : Chain) : Nat × Nat :=
  match i/16 with
  | 0 => ((s.b &&& s.c) ||| (negate s.b &&& s.d),i)
  | 1 => ((s.d &&& s.b) ||| (negate s.d &&& s.c),(5*i+1)%16)
  | 2 => (s.b ^^^ s.c ^^^ s.d,(3*i+5)%16)
  | _ => (s.c ^^^ (s.b ||| negate s.d),7*i%16)

def round (words : List Nat) (s : Chain) (i k : Nat) : Chain :=
  let f := mix i s
  let turned := rotl ((shifts.getD (i/16) []).getD (i%4) 0) (word (f.1 + s.a + k + words.getD f.2 0))
  ⟨s.d,word (s.b + turned),s.b,s.c⟩

def rounds (words : List Nat) : Chain → Nat → List Nat → Chain
  | s,_,[] => s
  | s,i,k::ks => rounds words (round words s i k) (i+1) ks

def littleEndian : Nat → Nat → List Nat
  | 0,_ => []
  | n+1,x => x%256 :: littleEndian n (x/256)

-- The four bytes of each word, turned round.
def flip : List Nat → List Nat
  | a::b::c::d::rest => d::c::b::a::flip rest
  | _ => []

def compress (s : Chain) (block : List Nat) : Chain :=
  let t := rounds (wordsOf (flip block)) s 0 roundConstants
  ⟨word (s.a+t.a),word (s.b+t.b),word (s.c+t.c),word (s.d+t.d)⟩

def pad (bytes : List Nat) : List Nat :=
  bytes ++ 128 :: List.replicate ((119 - bytes.length%64)%64) 0 ++ littleEndian 8 (bytes.length*8)

def blocks : Nat → Chain → List Nat → Chain
  | 0,s,_ => s
  | n+1,s,bytes => blocks n (compress s (bytes.take 64)) (bytes.drop 64)

def hash (bytes : List Nat) : List Nat :=
  let padded := pad bytes
  let s := blocks (padded.length/64) initial padded
  [s.a,s.b,s.c,s.d].flatMap (littleEndian 4)

def hexdigest (text : String) : List Char := hex (hash (encode text))

theorem mem_hexDigits (n : Nat) : hexDigit n ∈ "0123456789abcdef".toList := by
  unfold hexDigit
  rcases Nat.lt_or_ge n "0123456789abcdef".toList.length with inside | outside
  · rw [List.getD_eq_getElem _ _ inside]
    exact List.getElem_mem inside
  · rw [List.getD_eq_default _ _ outside]
    decide

theorem hexdigest_digits (text : String) : ∀ c ∈ hexdigest text, c ∈ "0123456789abcdef".toList := by
  intro c member
  obtain ⟨byte,_,digit⟩ := List.mem_flatMap.mp member
  rcases List.mem_pair.mp digit with rfl | rfl
  · exact mem_hexDigits _
  · exact mem_hexDigits _

example : String.ofList (hexdigest "message digest") = "f96b697d7cb7938d525a2f31aaf161d0" := by decide +kernel

end SmartParking.Lib.Md5
