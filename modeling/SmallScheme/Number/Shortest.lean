import SmallScheme.Number.Decimal

/-! The text of a double: the fewest decimal digits that read back as the same double, of
several the nearest, in positional notation. -/

namespace SmallScheme.Number

open Format Decimal

def quotient (units : Nat) (exponent : Int) : Nat × Nat × Nat :=
  let n := units * tenPow (-exponent).toNat
  let d := twoPow double.scale * tenPow exponent.toNat
  (n / d, n % d, d)

def onGrid? (k : Nat) (exponent : Int) : Option (Nat × Int) :=
  let (below, rest, whole) := quotient (double.units k) exponent
  let reads (coefficient : Nat) := position double coefficient exponent == k
  match reads below, reads (below + 1) with
  | true, true => some (if 2 * rest < whole then below else below + 1, exponent)
  | true, false => some (below, exponent)
  | false, true => some (below + 1, exponent)
  | false, false => none

def digitCount (n : Nat) : Nat :=
  (Nat.toDigits 10 n).length

def leading (units : Nat) : Int :=
  let one := twoPow double.scale
  if one ≤ units then digitCount (units / one) else 1 - (digitCount ((one - 1) / units) : Int)

/-- Coefficient and exponent of the shortest decimal for the double numbered `k`. Seventeen
digits always suffice; past them stands the decimal that is equal to the double. -/
def shortest (k : Nat) : Nat × Int :=
  let top := leading (double.units k)
  match (List.range 17).findSome? fun (i : Nat) => onGrid? k (top - (i + 1)) with
  | some digits => digits
  | none => (double.units k * Nat.pow 5 double.scale, -(double.scale : Int))

def spellMagnitude (k : Nat) : List Char :=
  if k = 0 then ['0']
  else if k < double.infinity then
    let (coefficient, exponent) := shortest k
    positional coefficient exponent
  else "inf".toList

def spell (x : Float) : List Char :=
  if x.isNaN then "NaN".toList
  else if isNegative x then '-' :: spellMagnitude (magnitude x)
  else spellMagnitude (magnitude x)

def text (x : Float) : String :=
  String.ofList (spell x)

end SmallScheme.Number
