import SmallScheme.Text.Blank
import SmallScheme.Text.Cluster

namespace SmallScheme.Text

def backspace : Char := '\x08'

structure Typed where
  text : List Char
  sizes : List UInt8
deriving DecidableEq

namespace Typed

def empty : Typed := ⟨[], []⟩

def dropBytes : Nat → List Char → List Char
  | _, [] => []
  | n, c :: cs => if c.utf8Size ≤ n then dropBytes (n - c.utf8Size) cs else c :: cs

def add (t : Typed) (cluster : List Char) : Typed :=
  ⟨cluster.reverse ++ t.text, (byteLength cluster).toUInt8 :: t.sizes⟩

def takeBack (t : Typed) : Typed :=
  match t.sizes with
  | [] => t
  | n :: sizes => ⟨dropBytes n.toNat t.text, sizes⟩

def type (t : Typed) (cluster : List Char) : Typed :=
  if cluster = [backspace] then t.takeBack else t.add cluster

end Typed

def typed (line : String) : String :=
  String.ofList ((Cluster.clusters line.toList).foldl Typed.type .empty).text.reverse

end SmallScheme.Text
