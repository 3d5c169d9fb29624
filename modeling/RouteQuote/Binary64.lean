namespace RouteQuote

-- The value ± significand · 2 ^ exponent. Beyond the greatest exponent stand infinity and what is no number.
structure Binary64 where
  negative : Bool
  significand : Nat
  exponent : Int
deriving DecidableEq, Repr

namespace Binary64

def leastExponent : Int := -1074

def greatestExponent : Int := 971

def zero (negative : Bool) : Binary64 := ⟨negative, 0, leastExponent⟩

def infinity (negative : Bool) : Binary64 := ⟨negative, Nat.pow 2 52, greatestExponent + 1⟩

def notNumber (negative : Bool) : Binary64 := ⟨negative, Nat.pow 2 52 + 1, greatestExponent + 1⟩

-- The word for a value that is not finite.
def word? (x : Binary64) : Option String :=
  if x.exponent ≤ greatestExponent then none
  else if x.significand != Nat.pow 2 52 then some "NaN"
  else some (if x.negative then "-inf" else "inf")

-- The integer nearest to a quotient, a half going to the even neighbour.
def nearestQuotient (num den : Nat) : Nat :=
  let q := num / den
  let r := num % den
  if 2 * r < den then q else if den < 2 * r then q + 1 else q + q % 2

-- num / (den · 2 ^ e) as a quotient of naturals.
def scaled (num den : Nat) (e : Int) : Nat × Nat :=
  if 0 ≤ e then (num, den * Nat.pow 2 e.toNat) else (num * Nat.pow 2 (-e).toNat, den)

-- The number nearest to a positive quotient; none when it lies beyond the greatest.
def ofRatio? (negative : Bool) (num den : Nat) : Option Binary64 :=
  if num = 0 then some (zero negative) else
    let guess := max leastExponent ((num.log2 : Int) - den.log2 - 52)
    let (n, d) := scaled num den guess
    let e := if n / d < Nat.pow 2 52 ∧ leastExponent < guess then guess - 1 else guess
    let (n, d) := scaled num den e
    let m := nearestQuotient n d
    let (m, e) := if m = Nat.pow 2 53 then (Nat.pow 2 52, e + 1) else (m, e)
    if greatestExponent < e then none else some ⟨negative, m, e⟩

def isZero (x : Binary64) : Bool := x.significand == 0

def ratio (x : Binary64) : Nat × Nat :=
  if 0 ≤ x.exponent then (x.significand * Nat.pow 2 x.exponent.toNat, 1) else (x.significand, Nat.pow 2 (-x.exponent).toNat)

def ofNat? (negative : Bool) (n : Nat) : Option Binary64 := ofRatio? negative n 1

def mul? (x y : Binary64) : Option Binary64 :=
  let (a, b) := x.ratio
  let (c, d) := y.ratio
  ofRatio? (x.negative != y.negative) (a * c) (b * d)

def div? (x y : Binary64) : Option Binary64 :=
  let (a, b) := x.ratio
  let (c, d) := y.ratio
  ofRatio? (x.negative != y.negative) (a * d) (b * c)

-- The nearest integer below a bound: halves go away from zero, what is below zero or no number goes to zero.
def toNatClamped (x : Binary64) (greatest : Nat) : Nat :=
  let (a, b) := x.ratio
  if x.negative || x.word? == some "NaN" then 0 else min greatest ((2 * a + b) / (2 * b))

end Binary64

end RouteQuote

namespace RouteQuote.Binary64

-- Digits d₁…dₙ and a point p stand for 0.d₁…dₙ · 10 ^ p.
structure Digits where
  digits : List Char
  point : Int
deriving DecidableEq, Repr

-- Whether a / b is among the reals that round to x: the ends count when the significand is even.
def covers (x : Binary64) (a b : Nat) : Bool :=
  let m := x.significand
  let (c, d) := x.ratio
  -- the interval in quarters of the last place, so that the lower end may be nearer at a power of two
  let quarter := if m = Nat.pow 2 52 ∧ leastExponent < x.exponent then 1 else 2
  let low := (4 * m - quarter) * c * b
  let high := (4 * m + 2) * c * b
  let value := 4 * m * a * d
  if m % 2 = 0 then low ≤ value && value ≤ high else low < value && value < high

-- How many decimal digits the integer part of a / b has; at most zero when a / b is below one.
def pointOf (a b : Nat) : Int :=
  if b ≤ a then ((Nat.toDigits 10 (a / b)).length : Int)
  else 1 - ((Nat.toDigits 10 ((b - 1) / a)).length : Int)

-- The decimals of n digits on either side of the number, with the power of ten of their last digit.
def neighbours (x : Binary64) (n : Nat) : List (Nat × Int) :=
  let (a, b) := x.ratio
  let scale := pointOf a b - n
  let (num, den) := if 0 ≤ scale then (a, b * Nat.pow 10 scale.toNat) else (a * Nat.pow 10 (-scale).toNat, b)
  let q := num / den
  [(q, scale), (q + 1, scale)]

def decimalRatio (q : Nat) (scale : Int) : Nat × Nat :=
  if 0 ≤ scale then (q * Nat.pow 10 scale.toNat, 1) else (q, Nat.pow 10 (-scale).toNat)

-- The distance of a decimal from the number, over a denominator that is the same for all decimals of
-- one scale.
def distance (x : Binary64) (q : Nat) (scale : Int) : Nat :=
  let (a, b) := x.ratio
  let (c, d) := decimalRatio q scale
  let l := c * b
  let r := a * d
  if l ≤ r then r - l else l - r

def digitsOf (q : Nat) (scale : Int) : Digits :=
  let all := Nat.toDigits 10 q
  ⟨(all.reverse.dropWhile (· == '0')).reverse, all.length + scale⟩

-- The first length from n on at which a neighbour reads back.
def shortestFrom (x : Binary64) (n : Nat) : Nat → Digits
  | 0 => let (q, scale) := (neighbours x n).headD (0, 0); digitsOf q scale
  | fuel + 1 =>
    match (neighbours x n).filter fun (q, scale) => q != 0 && covers x (decimalRatio q scale).1 (decimalRatio q scale).2 with
    | [] => shortestFrom x (n + 1) fuel
    | [(q, scale)] => digitsOf q scale
    | (q, scale) :: (r, _) :: _ =>
      if distance x q scale < distance x r scale || (distance x q scale == distance x r scale && q % 2 == 0)
      then digitsOf q scale else digitsOf r scale

def shortest (x : Binary64) : Digits := if x.isZero then ⟨['0'], 1⟩ else shortestFrom x 1 17

def zeros (n : Int) : List Char := List.replicate n.toNat '0'

def positionalParts (d : Digits) : List Char × List Char :=
  let n : Int := d.digits.length
  if d.point ≤ 0 then (['0'], zeros (-d.point) ++ d.digits)
  else if n ≤ d.point then (d.digits ++ zeros (d.point - n), [])
  else (d.digits.take d.point.toNat, d.digits.drop d.point.toNat)

def signText (x : Binary64) : List Char := if x.negative then ['-'] else []

-- Positional, and without a point when there is nothing after it.
def positional (x : Binary64) : String :=
  match x.word? with
  | some word => word
  | none =>
    let (whole, fraction) := positionalParts x.shortest
    String.ofList (signText x ++ whole ++ if fraction.isEmpty then [] else '.' :: fraction)

-- Positional, with at least one digit after the point.
def positionalWithPoint (x : Binary64) : String :=
  match x.word? with
  | some word => word
  | none =>
    let (whole, fraction) := positionalParts x.shortest
    String.ofList (signText x ++ whole ++ '.' :: if fraction.isEmpty then ['0'] else fraction)

def exponentText (e : Int) : List Char :=
  (if e < 0 then ['e', '-'] else ['e', '+']) ++ Nat.toDigits 10 e.natAbs

-- Positional while the point lies between five places before the digits and sixteen after the first;
-- else one digit, the others after a point, and an exponent.
def compactText (x : Binary64) : String :=
  let d := x.shortest
  if x.isZero || (-5 < d.point && d.point ≤ 16) then positionalWithPoint x
  else
    let rest := d.digits.drop 1
    String.ofList (signText x ++ d.digits.take 1 ++ (if rest.isEmpty then [] else '.' :: rest) ++ exponentText (d.point - 1))

end RouteQuote.Binary64
