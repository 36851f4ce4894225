import ThreatHunt.Text.Words

/-!
The 64-bit XXH3 digest of a byte string, with its default secret and seed 0. Row identifiers and
cache labels are digests, written as 16 hexadecimal digits.
-/

namespace ThreatHunt.Digest

/-- The default secret. -/
def secret : ByteArray := ⟨#[
  0xb8, 0xfe, 0x6c, 0x39, 0x23, 0xa4, 0x4b, 0xbe, 0x7c, 0x01, 0x81, 0x2c, 0xf7, 0x21, 0xad, 0x1c,
  0xde, 0xd4, 0x6d, 0xe9, 0x83, 0x90, 0x97, 0xdb, 0x72, 0x40, 0xa4, 0xa4, 0xb7, 0xb3, 0x67, 0x1f,
  0xcb, 0x79, 0xe6, 0x4e, 0xcc, 0xc0, 0xe5, 0x78, 0x82, 0x5a, 0xd0, 0x7d, 0xcc, 0xff, 0x72, 0x21,
  0xb8, 0x08, 0x46, 0x74, 0xf7, 0x43, 0x24, 0x8e, 0xe0, 0x35, 0x90, 0xe6, 0x81, 0x3a, 0x26, 0x4c,
  0x3c, 0x28, 0x52, 0xbb, 0x91, 0xc3, 0x00, 0xcb, 0x88, 0xd0, 0x65, 0x8b, 0x1b, 0x53, 0x2e, 0xa3,
  0x71, 0x64, 0x48, 0x97, 0xa2, 0x0d, 0xf9, 0x4e, 0x38, 0x19, 0xef, 0x46, 0xa9, 0xde, 0xac, 0xd8,
  0xa8, 0xfa, 0x76, 0x3f, 0xe3, 0x9c, 0x34, 0x3f, 0xf9, 0xdc, 0xbb, 0xc7, 0xc7, 0x0b, 0x4f, 0x1d,
  0x8a, 0x51, 0xe0, 0x4b, 0xcd, 0xb4, 0x59, 0x31, 0xc8, 0x9f, 0x7e, 0xc9, 0xd9, 0x78, 0x73, 0x64,
  0xea, 0xc5, 0xac, 0x83, 0x34, 0xd3, 0xeb, 0xc3, 0xc5, 0x81, 0xa0, 0xff, 0xfa, 0x13, 0x63, 0xeb,
  0x17, 0x0d, 0xdd, 0x51, 0xb7, 0xf0, 0xda, 0x49, 0xd3, 0x16, 0x55, 0x26, 0x29, 0xd4, 0x68, 0x9e,
  0x2b, 0x16, 0xbe, 0x58, 0x7d, 0x47, 0xa1, 0xfc, 0x8f, 0xf8, 0xb8, 0xd1, 0x7a, 0xd0, 0x31, 0xce,
  0x45, 0xcb, 0x3a, 0x8f, 0x95, 0x16, 0x04, 0x28, 0xaf, 0xd7, 0xfb, 0xca, 0xbb, 0x4b, 0x40, 0x7e]⟩

def prime32a : UInt64 := 0x9E3779B1
def prime32b : UInt64 := 0x85EBCA77
def prime32c : UInt64 := 0xC2B2AE3D
def prime64a : UInt64 := 0x9E3779B185EBCA87
def prime64b : UInt64 := 0xC2B2AE3D27D4EB4F
def prime64c : UInt64 := 0x165667B19E3779F9
def prime64d : UInt64 := 0x85EBCA77C2B2AE63
def prime64e : UInt64 := 0x27D4EB2F165667C5

/-- The byte at an index, zero past the end. -/
def byteAt (b : ByteArray) (i : Nat) : UInt64 :=
  if h : i < b.size then b[i].toUInt64 else 0

/-- The little-endian number in `count` bytes from an index on. -/
def readLittle (b : ByteArray) : Nat → Nat → UInt64
  | _, 0 => 0
  | i, count + 1 => byteAt b i + (readLittle b (i + 1) count <<< 8)

def read32 (b : ByteArray) (i : Nat) : UInt64 := readLittle b i 4
def read64 (b : ByteArray) (i : Nat) : UInt64 := readLittle b i 8

/-- The low and high halves of a 128-bit product, folded by exclusive or. -/
def foldProduct (x y : UInt64) : UInt64 :=
  let product := x.toNat * y.toNat
  UInt64.ofNat product ^^^ UInt64.ofNat (product >>> 64)

def rotateLeft (x n : UInt64) : UInt64 := (x <<< n) ||| (x >>> (64 - n))

/-- The eight bytes in opposite order. -/
def swapBytes (x : UInt64) : UInt64 :=
  (List.range 8).foldl (fun acc i =>
    (acc <<< 8) ||| ((x >>> UInt64.ofNat (8 * i)) &&& 0xff)) 0

def avalanche (h : UInt64) : UInt64 :=
  let h := (h ^^^ (h >>> 37)) * 0x165667919E3779F9
  h ^^^ (h >>> 32)

def avalancheShort (h : UInt64) : UInt64 :=
  let h := (h ^^^ (h >>> 33)) * prime64b
  let h := (h ^^^ (h >>> 29)) * prime64c
  h ^^^ (h >>> 32)

/-- Mixes the 16 bytes at `i` with the secret at `k`. -/
def mix16 (b : ByteArray) (i k : Nat) : UInt64 :=
  foldProduct (read64 b i ^^^ read64 secret k) (read64 b (i + 8) ^^^ read64 secret (k + 8))

/-- Digest of 1 to 3 bytes. -/
def upTo3 (b : ByteArray) : UInt64 :=
  let n := b.size
  let combined := (byteAt b 0 <<< 16) ||| (byteAt b (n / 2) <<< 24) ||| byteAt b (n - 1) |||
    (UInt64.ofNat n <<< 8)
  avalancheShort (combined ^^^ (read32 secret 0 ^^^ read32 secret 4))

/-- Digest of 4 to 8 bytes. -/
def upTo8 (b : ByteArray) : UInt64 :=
  let n := b.size
  let input := read32 b (n - 4) + (read32 b 0 <<< 32)
  let h := input ^^^ (read64 secret 8 ^^^ read64 secret 16)
  let h := (h ^^^ rotateLeft h 49 ^^^ rotateLeft h 24) * 0x9FB21C651E98DF25
  let h := (h ^^^ ((h >>> 35) + UInt64.ofNat n)) * 0x9FB21C651E98DF25
  h ^^^ (h >>> 28)

/-- Digest of 9 to 16 bytes. -/
def upTo16 (b : ByteArray) : UInt64 :=
  let n := b.size
  let low := read64 b 0 ^^^ (read64 secret 24 ^^^ read64 secret 32)
  let high := read64 b (n - 8) ^^^ (read64 secret 40 ^^^ read64 secret 48)
  avalanche (UInt64.ofNat n + swapBytes low + high + foldProduct low high)

/-- Digest of 17 to 128 bytes: pairs of blocks from both ends inwards. -/
def upTo128 (b : ByteArray) : UInt64 :=
  let n := b.size
  let pairs := (n - 1) / 32 + 1
  let sum := (List.range pairs).foldl (fun acc i =>
    acc + mix16 b (16 * i) (32 * i) + mix16 b (n - 16 * (i + 1)) (32 * i + 16))
    (UInt64.ofNat n * prime64a)
  avalanche sum

/-- Digest of 129 to 240 bytes. -/
def upTo240 (b : ByteArray) : UInt64 :=
  let n := b.size
  let first := (List.range 8).foldl (fun acc i => acc + mix16 b (16 * i) (16 * i))
    (UInt64.ofNat n * prime64a)
  let rest := (List.range (n / 16 - 8)).foldl (fun acc i =>
    acc + mix16 b (16 * (i + 8)) (16 * i + 3)) (avalanche first)
  avalanche (rest + mix16 b (n - 16) 119)

/-- The eight accumulators of a long digest. -/
def initialLanes : List UInt64 :=
  [prime32c, prime64a, prime64b, prime64c, prime64d, prime32b, prime64e, prime32a]

/-- Adds the 64 bytes at `i` under the secret at `k`. Each value goes to its neighbour lane and
each product to its own. -/
def accumulate (b : ByteArray) (lanes : List UInt64) (i k : Nat) : List UInt64 :=
  lanes.mapIdx (fun (lane : Nat) (acc : UInt64) =>
    let own := read64 b (i + 8 * lane)
    let neighbour := read64 b (i + 8 * (if lane % 2 = 0 then lane + 1 else lane - 1))
    let keyed := own ^^^ read64 secret (k + 8 * lane)
    acc + neighbour + (keyed &&& (0xffffffff : UInt64)) * (keyed >>> 32))

def scramble (lanes : List UInt64) : List UInt64 :=
  lanes.mapIdx (fun (lane : Nat) (acc : UInt64) =>
    ((acc ^^^ (acc >>> 47)) ^^^ read64 secret (128 + 8 * lane)) * prime32a)

/-- Adds `count` stripes of 64 bytes from `start` on. -/
def accumulateStripes (b : ByteArray) (lanes : List UInt64) (start count : Nat) : List UInt64 :=
  (List.range count).foldl (fun lanes s => accumulate b lanes (start + 64 * s) (8 * s)) lanes

def mergeLanes (start : UInt64) : List UInt64 → Nat → UInt64
  | x :: y :: more, k =>
    mergeLanes (start + foldProduct (x ^^^ read64 secret k) (y ^^^ read64 secret (k + 8))) more
      (k + 16)
  | _, _ => avalanche start

/-- Digest of more than 240 bytes: blocks of 16 stripes, a scramble after each. -/
def beyond240 (b : ByteArray) : UInt64 :=
  let n := b.size
  let blocks := (n - 1) / 1024
  let lanes := (List.range blocks).foldl (fun lanes i =>
    scramble (accumulateStripes b lanes (1024 * i) 16)) initialLanes
  let lanes := accumulateStripes b lanes (1024 * blocks) ((n - 1 - 1024 * blocks) / 64)
  let lanes := accumulate b lanes (n - 64) 121
  mergeLanes (UInt64.ofNat n * prime64a) lanes 11

/-- The digest of a byte string. -/
def hash64 (b : ByteArray) : UInt64 :=
  let n := b.size
  if n = 0 then avalancheShort (read64 secret 56 ^^^ read64 secret 64)
  else if n ≤ 3 then upTo3 b
  else if n ≤ 8 then upTo8 b
  else if n ≤ 16 then upTo16 b
  else if n ≤ 128 then upTo128 b
  else if n ≤ 240 then upTo240 b
  else beyond240 b

/-- The digest of a text as 16 hexadecimal digits. -/
def ofText (s : String) : String :=
  String.ofList (Text.hex 16 (hash64 s.toUTF8).toNat)

end ThreatHunt.Digest
