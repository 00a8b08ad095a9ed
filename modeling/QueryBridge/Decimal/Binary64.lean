/-!
# Numbers in binary floating point

A `Binary64` is a number of the 64-bit binary format: a sign with a significand and
an exponent, an infinity, or no number.  It is built from a ratio of naturals by
rounding to the nearest number, where a tie goes to the even significand.
-/

namespace QueryBridge.Decimal

/-- `finite s m e` is `m * 2 ^ e` with a sign.  A number in reduced form has
`m < 2 ^ 53` and `-1074 ≤ e ≤ 971`, and `2 ^ 52 ≤ m` unless `e = -1074`. -/
inductive Binary64 where
  | finite (negative : Bool) (significand : Nat) (exponent : Int)
  | infinite (negative : Bool)
  | nan
deriving Repr, DecidableEq

namespace Binary64

def minExponent : Int := -1074

def maxExponent : Int := 971

def zero (negative : Bool) : Binary64 :=
  .finite negative 0 minExponent

/-! ## Rounding -/

/-- A ratio `numerator / denominator` divided by `base ^ exponent`, as a ratio. -/
def scaleDown (base numerator denominator : Nat) (exponent : Int) : Nat × Nat :=
  if 0 ≤ exponent then (numerator, denominator * base.pow exponent.toNat)
  else (numerator * base.pow (-exponent).toNat, denominator)

/-- The natural number nearest to a ratio, the even one of two. -/
def roundDiv (numerator denominator : Nat) : Nat :=
  let quotient := numerator / denominator
  let twice := 2 * (numerator % denominator)
  if twice < denominator then quotient
  else if denominator < twice then quotient + 1
  else if quotient % 2 = 0 then quotient
  else quotient + 1

/-- The exponent under which a positive ratio has a significand of 53 bits. -/
def exponentOf (numerator denominator : Nat) : Int :=
  let guess : Int := (numerator.log2 : Int) - (denominator.log2 : Int) - 52
  let scaled := scaleDown 2 numerator denominator guess
  if scaled.1 < scaled.2 * Nat.pow 2 52 then guess - 1 else guess

/-- The number nearest to a ratio with a positive denominator. -/
def ofRatio (negative : Bool) (numerator denominator : Nat) : Binary64 :=
  if numerator = 0 then
    zero negative
  else
    let exponent := max (exponentOf numerator denominator) minExponent
    let scaled := scaleDown 2 numerator denominator exponent
    let significand := roundDiv scaled.1 scaled.2
    let carried := significand = Nat.pow 2 53
    let exponent := if carried then exponent + 1 else exponent
    if maxExponent < exponent then .infinite negative
    else .finite negative (if carried then Nat.pow 2 52 else significand) exponent

/-- The number nearest to `digits * 10 ^ exponent`.  Powers of ten far outside the
range need no computation. -/
def ofScientific (negative : Bool) (digits : Nat) (exponent : Int) : Binary64 :=
  if digits = 0 then
    zero negative
  else
    let size := (Nat.toDigits 10 digits).length
    if 310 < size + exponent then .infinite negative
    else if size + exponent < -330 then zero negative
    else
      let ratio := scaleDown 10 digits 1 (-exponent)
      ofRatio negative ratio.1 ratio.2

/-- The number nearest to an integer, unless it is beyond the range. -/
def ofInt? (value : Int) : Option Binary64 :=
  match ofRatio (value < 0) value.natAbs 1 with
  | .finite negative significand exponent => some (.finite negative significand exponent)
  | .infinite _ | .nan => none

/-! ## Arithmetic -/

/-- A finite number as a signed ratio. -/
private def ratio (negative : Bool) (significand : Nat) (exponent : Int) : Int × Nat :=
  let scaled := scaleDown 2 significand 1 (-exponent)
  (if negative then -(scaled.1 : Int) else scaled.1, scaled.2)

def isNegative : Binary64 → Bool
  | .finite negative _ _ | .infinite negative => negative
  | .nan => false

def neg : Binary64 → Binary64
  | .finite negative significand exponent => .finite (!negative) significand exponent
  | .infinite negative => .infinite (!negative)
  | .nan => .nan

def add : Binary64 → Binary64 → Binary64
  | .finite s m e, .finite s' m' e' =>
      let left := ratio s m e
      let right := ratio s' m' e'
      let sum := left.1 * right.2 + right.1 * left.2
      ofRatio (if sum = 0 then s && s' else sum < 0) sum.natAbs (left.2 * right.2)
  | .infinite s, .infinite s' => if s = s' then .infinite s else .nan
  | .infinite s, .finite .. => .infinite s
  | .finite .., .infinite s => .infinite s
  | .nan, _ | _, .nan => .nan

def mul : Binary64 → Binary64 → Binary64
  | .finite s m e, .finite s' m' e' =>
      let left := ratio s m e
      let right := ratio s' m' e'
      ofRatio (s != s') (left.1 * right.1).natAbs (left.2 * right.2)
  | .infinite s, .infinite s' => .infinite (s != s')
  | .infinite s, .finite s' m _ | .finite s m _, .infinite s' =>
      if m = 0 then .nan else .infinite (s != s')
  | .nan, _ | _, .nan => .nan

/-- The integer part of a finite number. -/
def truncate? : Binary64 → Option Int
  | .finite negative significand exponent =>
      let whole := (ratio false significand exponent).1 / (ratio false significand exponent).2
      some (if negative then -whole else whole)
  | .infinite _ | .nan => none

end Binary64

end QueryBridge.Decimal
