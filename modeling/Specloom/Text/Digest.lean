import Specloom.Text.Hex

/-!
# A 64-bit digest of octets

The XXH3 hash with 64 bits, seed zero and the standard secret. Short inputs are mixed in one step
for each class of lengths; inputs above 240 octets run through eight accumulators, 64 octets a
time.

## Main definitions

* `Digest.xxh3`: the hash of octets
* `Digest.hex`: its sixteen hexadecimal digits
-/

namespace Specloom.Text.Digest

/-- The secret that inputs are mixed with. -/
def secret : Array UInt8 := #[
  0xb8, 0xfe, 0x6c, 0x39, 0x23, 0xa4, 0x4b, 0xbe, 0x7c, 0x01, 0x81, 0x2c, 0xf7, 0x21, 0xad, 0x1c,
  0xde, 0xd4, 0x6d, 0xe9, 0x83, 0x90, 0x97, 0xdb, 0x72, 0x40, 0xa4, 0xa4, 0xb7, 0xb3, 0x67, 0x1f,
  0xcb, 0x79, 0xe6, 0x4e, 0xcc, 0xc0, 0xe5, 0x78, 0x82, 0x5a, 0xd0, 0x7d, 0xcc, 0xff, 0x72, 0x21,
  0xb8, 0x08, 0x46, 0x74, 0xf7, 0x43, 0x24, 0x8e, 0xe0, 0x35, 0x90, 0xe6, 0x81, 0x3a, 0x26, 0x4c,
  0x3c, 0x28, 0x52, 0xbb, 0x91, 0xc3, 0x00, 0xcb, 0x88, 0xd0, 0x65, 0x8b, 0x1b, 0x53, 0x2e, 0xa3,
  0x71, 0x64, 0x48, 0x97, 0xa2, 0x0d, 0xf9, 0x4e, 0x38, 0x19, 0xef, 0x46, 0xa9, 0xde, 0xac, 0xd8,
  0xa8, 0xfa, 0x76, 0x3f, 0xe3, 0x9c, 0x34, 0x3f, 0xf9, 0xdc, 0xbb, 0xc7, 0xc7, 0x0b, 0x4f, 0x1d,
  0x8a, 0x51, 0xe0, 0x4b, 0xcd, 0xb4, 0x59, 0x31, 0xc8, 0x9f, 0x7e, 0xc9, 0xd9, 0x78, 0x73, 0x64,
  0xea, 0xc5, 0xac, 0x83, 0x34, 0xd3, 0xeb, 0xc3, 0xc5, 0x81, 0xa0, 0xff, 0xfa, 0x13, 0x63, 0xeb,
  0x17, 0x0d, 0xdd, 0x51, 0xb7, 0xf0, 0xda, 0x49, 0xd3, 0x16, 0x55, 0x26, 0x29, 0xd4, 0x68, 0x9e,
  0x2b, 0x16, 0xbe, 0x58, 0x7d, 0x47, 0xa1, 0xfc, 0x8f, 0xf8, 0xb8, 0xd1, 0x7a, 0xd0, 0x31, 0xce,
  0x45, 0xcb, 0x3a, 0x8f, 0x95, 0x16, 0x04, 0x28, 0xaf, 0xd7, 0xfb, 0xca, 0xbb, 0x4b, 0x40, 0x7e]

/-- Three primes of 32 bits and five of 64. -/
def prime32A : UInt64 := 0x9e3779b1
@[inherit_doc prime32A] def prime32B : UInt64 := 0x85ebca77
@[inherit_doc prime32A] def prime32C : UInt64 := 0xc2b2ae3d
@[inherit_doc prime32A] def prime64A : UInt64 := 0x9e3779b185ebca87
@[inherit_doc prime32A] def prime64B : UInt64 := 0xc2b2ae3d27d4eb4f
@[inherit_doc prime32A] def prime64C : UInt64 := 0x165667b19e3779f9
@[inherit_doc prime32A] def prime64D : UInt64 := 0x85ebca77c2b2ae63
@[inherit_doc prime32A] def prime64E : UInt64 := 0x27d4eb2f165667c5

/-- The number in the `width` octets from `i` on, least significant first. -/
def readWord (octets : Array UInt8) (i : Nat) : Nat → UInt64
  | 0 => 0
  | width + 1 => (octets.getD i 0).toUInt64 ||| (readWord octets (i + 1) width <<< 8)

/-- The 64-bit word at an index. -/
def word (octets : Array UInt8) (i : Nat) : UInt64 :=
  readWord octets i 8

/-- The 32-bit word at an index. -/
def halfWord (octets : Array UInt8) (i : Nat) : UInt64 :=
  readWord octets i 4

/-- A word rotated to the left. -/
def rotateLeft (w : UInt64) (n : UInt64) : UInt64 :=
  (w <<< n) ||| (w >>> (64 - n))

/-- A word with its octets in reverse. -/
def swapOctets (w : UInt64) : UInt64 :=
  (List.range 8).foldl
    (fun (r : UInt64) i => (r <<< 8) ||| ((w >>> UInt64.ofNat (8 * i)) &&& 0xff)) 0

/-- The two halves of the 128-bit product, combined by exclusive or. -/
def foldProduct (a b : UInt64) : UInt64 :=
  let p := a.toNat * b.toNat
  UInt64.ofNat (p % Nat.pow 2 64) ^^^ UInt64.ofNat (p / Nat.pow 2 64)

/-- The final mixing of short inputs. -/
def avalancheShort (h : UInt64) : UInt64 :=
  let h := (h ^^^ (h >>> 33)) * prime64B
  let h := (h ^^^ (h >>> 29)) * prime64C
  h ^^^ (h >>> 32)

/-- The final mixing of longer inputs. -/
def avalanche (h : UInt64) : UInt64 :=
  let h := (h ^^^ (h >>> 37)) * 0x165667919e3779f9
  h ^^^ (h >>> 32)

/-- Mixes sixteen octets of the input with sixteen of the secret. -/
def mix16 (octets : Array UInt8) (i s : Nat) : UInt64 :=
  foldProduct (word octets i ^^^ word secret s) (word octets (i + 8) ^^^ word secret (s + 8))

/-- Inputs of one to three octets. -/
def hash1to3 (octets : Array UInt8) : UInt64 :=
  let n := octets.size
  let octet (i : Nat) : UInt64 := (octets.getD i 0).toUInt64
  let combined :=
    (octet 0 <<< 16) ||| (octet (n / 2) <<< 24) ||| octet (n - 1) ||| (n.toUInt64 <<< 8)
  avalancheShort (combined ^^^ (halfWord secret 0 ^^^ halfWord secret 4))

/-- Inputs of four to eight octets. -/
def hash4to8 (octets : Array UInt8) : UInt64 :=
  let n := octets.size
  let input := halfWord octets (n - 4) + (halfWord octets 0 <<< 32)
  let h := input ^^^ (word secret 8 ^^^ word secret 16)
  let h := h ^^^ rotateLeft h 49 ^^^ rotateLeft h 24
  let h := h * 0x9fb21c651e98df25
  let h := h ^^^ ((h >>> 35) + n.toUInt64)
  let h := h * 0x9fb21c651e98df25
  h ^^^ (h >>> 28)

/-- Inputs of nine to sixteen octets. -/
def hash9to16 (octets : Array UInt8) : UInt64 :=
  let n := octets.size
  let lo := word octets 0 ^^^ (word secret 24 ^^^ word secret 32)
  let hi := word octets (n - 8) ^^^ (word secret 40 ^^^ word secret 48)
  avalanche (n.toUInt64 + swapOctets lo + hi + foldProduct lo hi)

/-- Inputs of 17 to 128 octets: pairs of pieces from both ends, the outermost last. -/
def hash17to128 (octets : Array UInt8) : UInt64 :=
  let n := octets.size
  let pairs := (n - 1) / 32 + 1
  avalanche <| (List.range pairs).foldl
    (fun acc i => acc + mix16 octets (16 * i) (32 * i) +
      mix16 octets (n - 16 * (i + 1)) (32 * i + 16))
    (n.toUInt64 * prime64A)

/-- Inputs of 129 to 240 octets. -/
def hash129to240 (octets : Array UInt8) : UInt64 :=
  let n := octets.size
  let first := (List.range 8).foldl
    (fun acc i => acc + mix16 octets (16 * i) (16 * i)) (n.toUInt64 * prime64A)
  let rest := (List.range (n / 16 - 8)).foldl
    (fun acc i => acc + mix16 octets (16 * (i + 8)) (16 * i + 3)) (avalanche first)
  avalanche (rest + mix16 octets (n - 16) 119)

/-- The accumulators before any input. -/
def startLanes : List UInt64 :=
  [prime32C, prime64A, prime64B, prime64C, prime64D, prime32B, prime64E, prime32A]

/-- Adds the 64 octets at `i` to the accumulators, under the secret from `s` on. Each lane also
receives the plain word of its neighbour. -/
def addStripe (octets : Array UInt8) (i s : Nat) (lanes : List UInt64) : List UInt64 :=
  lanes.mapIdx fun k (lane : UInt64) =>
    let key := word octets (i + 8 * k) ^^^ word secret (s + 8 * k)
    let neighbour := word octets (i + 8 * (if k % 2 = 0 then k + 1 else k - 1))
    let lowHalf : UInt64 := key &&& 0xffffffff
    let highHalf : UInt64 := key >>> 32
    lane + neighbour + lowHalf * highHalf

/-- Mixes the accumulators after a block. -/
def scramble (lanes : List UInt64) : List UInt64 :=
  lanes.mapIdx fun k (lane : UInt64) =>
    let shifted : UInt64 := lane >>> 47
    (lane ^^^ shifted ^^^ word secret (128 + 8 * k)) * prime32A

/-- Adds `count` stripes from `i` on. -/
def addStripes (octets : Array UInt8) (i count : Nat) (lanes : List UInt64) : List UInt64 :=
  (List.range count).foldl (fun lanes k => addStripe octets (i + 64 * k) (8 * k) lanes) lanes

/-- Combines the accumulators two by two. -/
def mergeLanes (start : UInt64) : Nat → List UInt64 → UInt64
  | s, a :: b :: rest =>
    mergeLanes (start + foldProduct (a ^^^ word secret s) (b ^^^ word secret (s + 8))) (s + 16) rest
  | _, _ => avalanche start

/-- Inputs above 240 octets, in blocks of sixteen stripes. -/
def hashLong (octets : Array UInt8) : UInt64 :=
  let n := octets.size
  let blocks := (n - 1) / 1024
  let lanes := (List.range blocks).foldl
    (fun lanes b => scramble (addStripes octets (1024 * b) 16 lanes)) startLanes
  let lanes := addStripes octets (1024 * blocks) ((n - 1 - 1024 * blocks) / 64) lanes
  let lanes := addStripe octets (n - 64) 121 lanes
  mergeLanes (n.toUInt64 * prime64A) 11 lanes

/-- The hash of octets. -/
def xxh3 (input : List UInt8) : UInt64 :=
  let octets := input.toArray
  let n := octets.size
  if n = 0 then avalancheShort (word secret 56 ^^^ word secret 64)
  else if n ≤ 3 then hash1to3 octets
  else if n ≤ 8 then hash4to8 octets
  else if n ≤ 16 then hash9to16 octets
  else if n ≤ 128 then hash17to128 octets
  else if n ≤ 240 then hash129to240 octets
  else hashLong octets

/-- The sixteen hexadecimal digits of the hash. -/
def hex (input : List UInt8) : List Char :=
  lowerHex 16 (xxh3 input).toNat

end Specloom.Text.Digest
