import SmallScheme.Number.Format

/-! Decimal numerals: `[+-]? (D+ | D+ . D* | . D+) ([eE] [+-]? D+)?`, with `D` a digit, the
double nearest to one, and positional text. -/

namespace SmallScheme

structure Decimal where
  negative : Bool
  coefficient : Nat
  exponent : Int
deriving DecidableEq

namespace Decimal

def digitsValue (cs : List Char) : Nat :=
  cs.foldl (fun n c => 10 * n + (c.toNat - '0'.toNat)) 0

def splitSign : List Char → Bool × List Char
  | '-' :: cs => (true, cs)
  | '+' :: cs => (false, cs)
  | cs => (false, cs)

def splitFraction : List Char → List Char × List Char
  | '.' :: cs => (cs.takeWhile Char.isDigit, cs.dropWhile Char.isDigit)
  | cs => ([], cs)

def exponentOf? : List Char → Option Int
  | [] => some 0
  | mark :: cs =>
    let (negative, digits) := splitSign cs
    if (mark == 'e' || mark == 'E') && !digits.isEmpty && digits.all Char.isDigit then
      some (if negative then -(digitsValue digits : Int) else digitsValue digits)
    else none

def ofChars? (cs : List Char) : Option Decimal :=
  let (negative, cs) := splitSign cs
  let whole := cs.takeWhile Char.isDigit
  let (fraction, rest) := splitFraction (cs.dropWhile Char.isDigit)
  if whole.isEmpty && fraction.isEmpty then none
  else
    (exponentOf? rest).map fun e =>
      ⟨negative, digitsValue (whole ++ fraction), e - fraction.length⟩

/-- The number of the value of `f` nearest to `coefficient * 10 ^ exponent`. The two bounds
keep powers of ten small: beyond them every format has only infinity or zero to offer. -/
def position (f : Format) (coefficient : Nat) (exponent : Int) : Nat :=
  if coefficient = 0 then 0
  else if 4096 < exponent then f.infinity
  else if exponent < -(4096 + coefficient.log2 : Int) then 0
  else if 0 ≤ exponent then f.nearest (coefficient * tenPow exponent.toNat) 1
  else f.nearest coefficient (tenPow (-exponent).toNat)

def toFloat (d : Decimal) : Float :=
  Number.ofMagnitude d.negative (position Format.double d.coefficient d.exponent)

def toSingle (d : Decimal) : Float :=
  Number.widen d.negative (position Format.single d.coefficient d.exponent)

def padded (width n : Nat) : List Char :=
  let digits := Nat.toDigits 10 n
  List.replicate (width - digits.length) '0' ++ digits

def dropTrailingZeros (cs : List Char) : List Char :=
  (cs.reverse.dropWhile (· == '0')).reverse

/-- Positional text of `coefficient * 10 ^ exponent`: no exponent mark, no zero at the end of
the fraction, and no point without a fraction. -/
def positional (coefficient : Nat) (exponent : Int) : List Char :=
  if 0 ≤ exponent then Nat.toDigits 10 (coefficient * tenPow exponent.toNat)
  else
    let places := (-exponent).toNat
    let whole := Nat.toDigits 10 (coefficient / tenPow places)
    match dropTrailingZeros (padded places (coefficient % tenPow places)) with
    | [] => whole
    | fraction => whole ++ '.' :: fraction

end Decimal

namespace Number

def ofName? (cs : List Char) : Option Float :=
  let (negative, name) := Decimal.splitSign cs
  match String.ofList (name.map Char.toLower) with
  | "nan" => some (0.0 / 0.0)
  | "inf" | "infinity" => some (ofMagnitude negative Format.double.infinity)
  | _ => none

def ofText? (cs : List Char) : Option Float :=
  match Decimal.ofChars? cs with
  | some d => some d.toFloat
  | none => ofName? cs

def singleOfText? (cs : List Char) : Option Float :=
  match Decimal.ofChars? cs with
  | some d => some d.toSingle
  | none => ofName? cs

end Number

end SmallScheme
