import QueryBridge.Decimal.Binary64

/-!
# Shortest decimal digits

A finite number other than zero is written with the fewest digits that read back as
the same number; of several such decimals the nearest to the number is taken, and of
two equally near ones the one with an even last digit.

On the grid of decimals with a given count of digits, the number has two neighbours.
If a grid has a decimal that reads back, one of these two does, so only they are
tried.
-/

namespace QueryBridge.Decimal

/-- The decimal `0.d₁d₂…` times ten to the power `point`, with its digits read as a
natural number. -/
structure Digits where
  digits : Nat
  point : Int
deriving Repr, DecidableEq

/-- The least `k` from `start` on, within `fuel` steps, with the ratio below `10 ^ k`. -/
private def pointFrom (numerator denominator : Nat) : Nat → Int → Int
  | 0, start => start
  | fuel + 1, start =>
      let scaled := Binary64.scaleDown 10 numerator denominator start
      if scaled.1 < scaled.2 then start
      else pointFrom numerator denominator fuel (start + 1)

/-- The power of ten that a positive ratio is just below. -/
def pointOf (numerator denominator : Nat) : Int :=
  let bits : Int := (numerator.log2 : Int) - (denominator.log2 : Int)
  pointFrom numerator denominator 6 (bits * 1233 / 4096 - 2)

/-- Of two neighbours on a grid, the one that reads back and is nearer to the ratio
`numerator / denominator`, which counts grid steps. -/
private def choose (readsBack : Nat → Bool) (numerator denominator : Nat) : Option Nat :=
  let lower := numerator / denominator
  let twice := 2 * (numerator % denominator)
  let lowerFirst := twice < denominator || (twice == denominator && lower % 2 == 0)
  let candidates := if lowerFirst then [lower, lower + 1] else [lower + 1, lower]
  candidates.find? readsBack

/-- Tries grids of `count`, `count + 1`, … digits, `fuel` of them. -/
private def search (value : Binary64) (numerator denominator : Nat) (point : Int) :
    Nat → Nat → Digits
  | 0, count => ⟨numerator / denominator, count⟩
  | fuel + 1, count =>
      let step := point - count
      let scaled := Binary64.scaleDown 10 numerator denominator step
      let readsBack := fun digits =>
        Binary64.ofScientific value.isNegative digits step == value
      match choose readsBack scaled.1 scaled.2 with
      | some digits =>
          if digits = Nat.pow 10 count then ⟨1, point + 1⟩ else ⟨digits, point⟩
      | none => search value numerator denominator point fuel (count + 1)

/-- The shortest digits of `significand * 2 ^ exponent`, which is not zero. -/
def shortest (negative : Bool) (significand : Nat) (exponent : Int) : Digits :=
  let ratio := Binary64.scaleDown 2 significand 1 (-exponent)
  search (.finite negative significand exponent) ratio.1 ratio.2
    (pointOf ratio.1 ratio.2) 17 1

end QueryBridge.Decimal
