import QueryBridge.Decimal.Shortest

/-!
# The text of a number

A number from `0.0001` up to `10 ^ 16` is written positionally, with at least one
digit on either side of the point; any other finite number has an exponent of at
least two digits and always a sign.  The words for infinities and for no number
depend on the format that the number is written into.
-/

namespace QueryBridge.Decimal

/-- How numbers are laid out. -/
structure Layout where
  /-- The least position of the point that is written positionally. -/
  leastPoint : Int
  /-- The greatest position of the point that is written positionally. -/
  greatestPoint : Int
  infinity : String
  notANumber : String

/-- The layout of numbers in messages. -/
def plain : Layout := ⟨-3, 16, "inf", "nan"⟩

/-- The layout of numbers in JSON documents. -/
def json : Layout := ⟨-3, 16, "Infinity", "NaN"⟩

private def zeros (count : Int) : List Char :=
  List.replicate count.toNat '0'

private def positional (digits : List Char) (point : Int) : List Char :=
  if point ≤ 0 then
    '0' :: '.' :: zeros (-point) ++ digits
  else
    let whole := digits.take point.toNat ++ zeros (point - digits.length)
    let fraction := digits.drop point.toNat
    whole ++ '.' :: (if fraction.isEmpty then ['0'] else fraction)

private def exponential (digits : List Char) (point : Int) : List Char :=
  let exponent := point - 1
  let power := Nat.toDigits 10 exponent.natAbs
  let mantissa := match digits with
    | [] => []
    | [d] => [d]
    | d :: rest => d :: '.' :: rest
  mantissa ++ 'e' :: (if exponent < 0 then '-' else '+') ::
    (List.replicate (2 - power.length) '0' ++ power)

private def dropEndZeros (digits : List Char) : List Char :=
  (digits.reverse.dropWhile (· == '0')).reverse

def Layout.unsigned (layout : Layout) (decimal : Digits) : List Char :=
  let digits := dropEndZeros (Nat.toDigits 10 decimal.digits)
  if layout.leastPoint ≤ decimal.point && decimal.point ≤ layout.greatestPoint then
    positional digits decimal.point
  else
    exponential digits decimal.point

def Layout.render (layout : Layout) : Binary64 → String
  | .nan => layout.notANumber
  | .infinite negative => (if negative then "-" else "") ++ layout.infinity
  | .finite negative significand exponent =>
      let body :=
        if significand = 0 then "0.0"
        else String.ofList (layout.unsigned (shortest negative significand exponent))
      (if negative then "-" else "") ++ body

end QueryBridge.Decimal
