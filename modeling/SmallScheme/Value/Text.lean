import SmallScheme.Number.Shortest
import SmallScheme.Text.Hidden
import SmallScheme.Value

namespace SmallScheme

inductive Style where
  | written
  | displayed
deriving DecidableEq

namespace Value

mutual

def spell (style : Style) : Value → List Char
  | number x => Number.spell x
  | symbol s => s.name.toList
  | string text =>
    match style with
    | .written => '"' :: text.toList ++ ['"']
    | .displayed => text.toList
  | bool b => ['#', if b then 't' else 'f']
  | list [] => ['(', ')']
  | list (v :: vs) => '(' :: spell style v ++ spellRest style vs
  | host p => "#<host-procedure:".toList ++ p.name.toList ++ ['>']
  | closure _ params _ _ => "#<closure/".toList ++ Nat.toDigits 10 params.length ++ ['>']
  | unspecified => "#<unspecified>".toList

def spellRest (style : Style) : List Value → List Char
  | [] => [')']
  | v :: vs => ' ' :: spell style v ++ spellRest style vs

end

theorem spell_symbol (style : Style) (s : Symbol) : (symbol s).spell style = s.name.toList := rfl

theorem spell_cons (style : Style) (v : Value) (vs : List Value) :
    (list (v :: vs)).spell style = '(' :: (v.spell style ++ spellRest style vs) := rfl

theorem spellRest_cons (style : Style) (v : Value) (vs : List Value) :
    spellRest style (v :: vs) = ' ' :: (v.spell style ++ spellRest style vs) := rfl

def written (v : Value) : String :=
  String.ofList (v.spell .written)

def displayed (v : Value) : String :=
  String.ofList (v.spell .displayed)

end Value

namespace Text

def escapedCode (c : Char) : List Char :=
  ['\\', 'u', '\x7b'] ++ Nat.toDigits 16 c.toNat ++ ['\x7d']

def escape (c : Char) : List Char :=
  if c == '"' || c == '\\' then ['\\', c]
  else if c == '\t' then ['\\', 't']
  else if c == '\n' then ['\\', 'n']
  else if c == '\r' then ['\\', 'r']
  else if c == '\x00' then ['\\', '0']
  else if isHidden c then escapedCode c
  else [c]

def quoted (s : String) : String :=
  "\"" ++ String.ofList (s.toList.flatMap escape) ++ "\""

end Text

namespace Value

mutual

def inspect : Value → String
  | number x => "Number(" ++ Number.text x ++ ")"
  | symbol s => "Symbol(" ++ s.name ++ ")"
  | string text => "String(\"" ++ text ++ "\")"
  | bool b => "Bool(" ++ (if b then "true" else "false") ++ ")"
  | list vs => "List(" ++ ", ".intercalate (inspectAll vs) ++ ")"
  | host p => "HostProcedure(" ++ p.name ++ ")"
  | closure _ params body _ =>
    "Closure(params=[" ++ ", ".intercalate (params.map fun s => Text.quoted s.name) ++ "], body=["
      ++ ", ".intercalate (inspectAll body) ++ "])"
  | unspecified => "Unspecified"

def inspectAll : List Value → List String
  | [] => []
  | v :: vs => inspect v :: inspectAll vs

end

end Value

end SmallScheme
