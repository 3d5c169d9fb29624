namespace RouteQuote.Hash

abbrev Lanes := List UInt64

def lane (a : Lanes) (x y : Nat) : UInt64 := a.getD (x % 5 + 5 * (y % 5)) 0

def lanes (f : Nat → Nat → UInt64) : Lanes := [0, 1, 2, 3, 4].flatMap fun y => [0, 1, 2, 3, 4].map fun x => f x y

def rotate (w : UInt64) (n : Nat) : UInt64 :=
  if n = 0 then w else (w <<< UInt64.ofNat n) ||| (w >>> UInt64.ofNat (64 - n))

-- By how much the lane at x + 5 y is rotated.
def rotations : List Nat :=
  [0, 1, 62, 28, 27, 36, 44, 6, 55, 20, 3, 10, 43, 25, 39, 41, 45, 15, 21, 8, 18, 2, 61, 56, 14]

def roundConstants : List UInt64 := [
  0x0000000000000001, 0x0000000000008082, 0x800000000000808A, 0x8000000080008000, 0x000000000000808B,
  0x0000000080000001, 0x8000000080008081, 0x8000000000008009, 0x000000000000008A, 0x0000000000000088,
  0x0000000080008009, 0x000000008000000A, 0x000000008000808B, 0x800000000000008B, 0x8000000000008089,
  0x8000000000008003, 0x8000000000008002, 0x8000000000000080, 0x000000000000800A, 0x800000008000000A,
  0x8000000080008081, 0x8000000000008080, 0x0000000080000001, 0x8000000080008008]

def theta (a : Lanes) : Lanes :=
  let c := [0, 1, 2, 3, 4].map fun x => lane a x 0 ^^^ lane a x 1 ^^^ lane a x 2 ^^^ lane a x 3 ^^^ lane a x 4
  let d := [0, 1, 2, 3, 4].map fun x => c.getD ((x + 4) % 5) 0 ^^^ rotate (c.getD ((x + 1) % 5) 0) 1
  lanes fun x y => lane a x y ^^^ d.getD x 0

-- Rotates each lane and moves it: the lane at (x, y) comes from (x + 3 y, x).
def rhoPi (a : Lanes) : Lanes :=
  lanes fun x y =>
    let sx := (x + 3 * y) % 5
    rotate (lane a sx x) (rotations.getD (sx + 5 * x) 0)

def chi (a : Lanes) : Lanes :=
  lanes fun x y => lane a x y ^^^ ((lane a (x + 1) y ^^^ 0xFFFFFFFFFFFFFFFF) &&& lane a (x + 2) y)

def iota (constant : UInt64) : Lanes → Lanes
  | [] => []
  | first :: rest => (first ^^^ constant) :: rest

def permute (a : Lanes) : Lanes := roundConstants.foldl (fun a constant => iota constant (chi (rhoPi (theta a)))) a

def blockSize : Nat := 136

-- The message, a one bit, zeros, and a one bit at the end of a block.
def pad (message : List UInt8) : List UInt8 :=
  let missing := blockSize - message.length % blockSize
  if missing = 1 then message ++ [0x81]
  else message ++ 0x01 :: List.replicate (missing - 2) 0 ++ [0x80]

-- Eight bytes, the least significant first, as a lane.
def laneOfBytes (bytes : List UInt8) : UInt64 :=
  bytes.foldr (fun b w => (w <<< 8) ||| b.toUInt64) 0

def bytesOfLane (w : UInt64) : List UInt8 :=
  [0, 1, 2, 3, 4, 5, 6, 7].map fun i : Nat => (w >>> (8 * UInt64.ofNat i)).toUInt8

def groups (size : Nat) : Nat → List UInt8 → List (List UInt8)
  | 0, _ => []
  | count + 1, bytes => bytes.take size :: groups size count (bytes.drop size)

def absorb (a : Lanes) (block : List UInt8) : Lanes :=
  let words := (groups 8 17 block).map laneOfBytes ++ List.replicate 8 0
  permute (List.zipWith (· ^^^ ·) a words)

def keccak256 (message : List UInt8) : List UInt8 :=
  let padded := pad message
  let a := (groups blockSize (padded.length / blockSize) padded).foldl absorb (List.replicate 25 0)
  (a.take 4).flatMap bytesOfLane

end RouteQuote.Hash
