import SmallScheme.Text.Cluster.Ranges
import SmallScheme.Text.Ranges

namespace SmallScheme.Text.Cluster

inductive Kind where
  | other
  | carriageReturn
  | lineFeed
  | control
  | extending
  | joiner
  | spacing
  | prepended
  | regional
  | pictograph
  | consonant
  | leadingJamo
  | vowelJamo
  | trailingJamo
  | openSyllable
  | closedSyllable
deriving DecidableEq

def hangulKind? (n : Nat) : Option Kind :=
  if 0xAC00 ≤ n ∧ n ≤ 0xD7A3 then
    some (if (n - 0xAC00) % 28 = 0 then .openSyllable else .closedSyllable)
  else if 0x1100 ≤ n ∧ n ≤ 0x115F ∨ 0xA960 ≤ n ∧ n ≤ 0xA97C then some .leadingJamo
  else if 0x1160 ≤ n ∧ n ≤ 0x11A7 ∨ 0xD7B0 ≤ n ∧ n ≤ 0xD7C6 then some .vowelJamo
  else if n = 0x16D63 ∨ 0x16D67 ≤ n ∧ n ≤ 0x16D6A then some .vowelJamo
  else if 0x11A8 ≤ n ∧ n ≤ 0x11FF ∨ 0xD7CB ≤ n ∧ n ≤ 0xD7FB then some .trailingJamo
  else none

def asciiKind (n : Nat) : Kind :=
  if n = 0x0D then .carriageReturn
  else if n = 0x0A then .lineFeed
  else if n < 0x20 then .control
  else .other

def wideKind (c : Char) : Kind :=
  if c.toNat = 0x200D then .joiner
  else if 0x1F1E6 ≤ c.toNat ∧ c.toNat ≤ 0x1F1FF then .regional
  else if inRanges controls c then .control
  else if inRanges extending c || inRanges modifiers c then .extending
  else if inRanges spacing c then .spacing
  else if inRanges prepended c then .prepended
  else if inRanges pictographs c then .pictograph
  else if inRanges consonants c then .consonant
  else (hangulKind? c.toNat).getD .other

def kind (c : Char) : Kind :=
  if c.toNat < 0x7F then asciiKind c.toNat else wideKind c

structure Context where
  last : Kind
  -- The text ends in an odd number of regional indicators.
  oddRegional : Bool
  pictograph : Bool
  -- The text ends in a consonant and marks; the flag tells whether one of them links.
  conjunct : Option Bool

namespace Context

def start : Context := ⟨.control, false, false, none⟩

def nextConjunct (x : Context) (c : Char) (k : Kind) : Option Bool :=
  if k = .consonant then some false
  else if (k = .extending ∧ c.toNat ≠ 0x200C) ∨ k = .joiner then
    x.conjunct.map (· || inRanges linkers c)
  else none

def next (x : Context) (c : Char) : Context :=
  let k := kind c
  { last := k
    oddRegional := k = .regional && !x.oddRegional
    pictograph := k = .pictograph ||
      (x.pictograph && x.last ≠ .joiner && (k = .extending || k = .joiner))
    conjunct := x.nextConjunct c k }

def isBreaking (k : Kind) : Bool :=
  k = .control || k = .carriageReturn || k = .lineFeed

def joins (x : Context) (k : Kind) : Bool :=
  if x.last = .carriageReturn ∧ k = .lineFeed then true
  else if isBreaking x.last || isBreaking k then false
  else if x.last = .prepended then true
  else
    match k with
    | .extending | .joiner | .spacing => true
    | .consonant => x.conjunct == some true
    | .pictograph => x.last = .joiner && x.pictograph
    | .regional => x.oddRegional
    | .leadingJamo | .openSyllable | .closedSyllable => x.last = .leadingJamo
    | .vowelJamo => [Kind.leadingJamo, .vowelJamo, .openSyllable].contains x.last
    | .trailingJamo =>
      [Kind.vowelJamo, .trailingJamo, .openSyllable, .closedSyllable].contains x.last
    | _ => false

end Context

def clustersFrom (x : Context) (current : List Char) : List Char → List (List Char)
  | [] => [current.reverse]
  | c :: cs =>
    if x.joins (kind c) then clustersFrom (x.next c) (c :: current) cs
    else current.reverse :: clustersFrom (x.next c) [c] cs

def clusters : List Char → List (List Char)
  | [] => []
  | c :: cs => clustersFrom (Context.start.next c) [c] cs

end SmallScheme.Text.Cluster
