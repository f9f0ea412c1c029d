/-! Binary floating-point formats. The non-negative values of a format are numbered from zero
upwards; a real number is rounded to the number of the nearest value, which for doubles is the
bit pattern without its sign. -/

namespace SmallScheme

def twoPow (k : Nat) : Nat :=
  Nat.pow 2 k

def tenPow (k : Nat) : Nat :=
  Nat.pow 10 k

/-- The natural number nearest to `n / d`; of two equally near the even one. -/
def roundDiv (n d : Nat) : Nat :=
  let q := n / d
  let r := n % d
  if 2 * r < d then q else if d < 2 * r then q + 1 else q + q % 2

/-- Values have `digits` significant bits and are multiples of `2 ^ -scale`; `infinity` is the
number of the first value that is too large. -/
structure Format where
  digits : Nat
  scale : Nat
  infinity : Nat
deriving DecidableEq

namespace Format

def double : Format := ⟨53, 1074, 2047 * twoPow 52⟩

def single : Format := ⟨24, 149, 255 * twoPow 23⟩

/-- The number of the value nearest to `n / d`. Below `2 ^ digits` units of `2 ^ -scale` the
values are the units themselves; above, the unit doubles with each further binary digit, and
each doubling takes `2 ^ (digits - 1)` more numbers. -/
def nearest (f : Format) (n d : Nat) : Nat :=
  let units := n * twoPow f.scale
  let shift := (units / d).log2 + 1 - f.digits
  let k := shift * twoPow (f.digits - 1) + roundDiv units (d * twoPow shift)
  if k < f.infinity then k else f.infinity

def units (f : Format) (k : Nat) : Nat :=
  let step := twoPow (f.digits - 1)
  if k < step then k else (k % step + step) * twoPow (k / step - 1)

end Format

namespace Number

def magnitude (x : Float) : Nat :=
  x.toBits.toNat % twoPow 63

def isNegative (x : Float) : Bool :=
  decide (twoPow 63 ≤ x.toBits.toNat)

def ofMagnitude (negative : Bool) (k : Nat) : Float :=
  Float.ofBits (UInt64.ofNat (if negative then twoPow 63 + k else k))

def widen (negative : Bool) (k : Nat) : Float :=
  ofMagnitude negative <|
    if k < Format.single.infinity then
      Format.double.nearest (Format.single.units k) (twoPow Format.single.scale)
    else Format.double.infinity

end Number

end SmallScheme
