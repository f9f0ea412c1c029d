namespace SmallScheme

inductive Arity where
  | exactly (n : Nat)
  | atLeast (n : Nat)
  | between (least most : Nat)
deriving DecidableEq

namespace Arity

def broken? : Arity → Nat → Option Nat
  | exactly n, count => if count = n then none else some n
  | atLeast n, count => if count < n then some n else none
  | between least most, count =>
    if count < least then some least else if most < count then some most else none

def Admits : Arity → Nat → Prop
  | exactly n, count => count = n
  | atLeast n, count => n ≤ count
  | between least most, count => least ≤ count ∧ count ≤ most

theorem broken?_eq_none_iff (a : Arity) (count : Nat) : a.broken? count = none ↔ a.Admits count := by
  cases a with
  | exactly n => simp [broken?, Admits]
  | atLeast n => simp [broken?, Admits]
  | between least most =>
    simp only [broken?, Admits]
    split <;> simp <;> omega

def inspect : Arity → String
  | exactly n => "Exact(" ++ toString n ++ ")"
  | atLeast n => "AtLeast(" ++ toString n ++ ")"
  | between least most => "Range(" ++ toString least ++ ", " ++ toString most ++ ")"

end Arity

end SmallScheme
