namespace SmallScheme.Text

def split {α : Type} [BEq α] (separator : α) : List α → List (List α)
  | [] => [[]]
  | x :: xs =>
    if x == separator then [] :: split separator xs
    else
      match split separator xs with
      | [] => [[x]]
      | first :: rest => (x :: first) :: rest

def newline : UInt8 := 10

def carriageReturn : UInt8 := 13

def dropReturn (line : List UInt8) : List UInt8 :=
  if line.getLast? = some carriageReturn then line.dropLast else line

def lineBytes : List (List UInt8) → List (List UInt8)
  | [] => []
  | [last] => if last.isEmpty then [] else [last]
  | line :: rest => dropReturn line :: lineBytes rest

def lines (bytes : List UInt8) : List (Option String) :=
  (lineBytes (split newline bytes)).map fun line => String.fromUTF8? ⟨line.toArray⟩

end SmallScheme.Text
