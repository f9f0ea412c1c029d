import SmallScheme.Store
import SmallScheme.Value.Text

namespace SmallScheme.Listing

def isHost (pair : String × Value) : Bool :=
  match pair.2 with
  | .host _ => true
  | _ => false

def rows : List String → List (List String)
  | a :: b :: c :: d :: rest => [a, b, c, d] :: rows rest
  | [] => []
  | last => [last]

def cell (name : String) : String :=
  "  " ++ name ++ String.ofList (List.replicate (15 - name.length) ' ')

def row (names : List String) : String :=
  String.join (names.map cell) ++ "\n"

def hostSection (names : List String) : String :=
  if names.isEmpty then ""
  else
    "Host procedures (" ++ toString names.length ++ "):\n" ++ String.join ((rows names).map row)
      ++ "\n"

def entry (pair : String × Value) : String :=
  "  " ++ pair.1 ++ " = " ++ pair.2.written ++ "\n"

def valueSection (pairs : List (String × Value)) : String :=
  if pairs.isEmpty then ""
  else
    "User-defined values (" ++ toString pairs.length ++ "):\n" ++ String.join (pairs.map entry)

def render (pairs : List (String × Value)) : String :=
  if pairs.isEmpty then "Environment is empty.\n"
  else
    "Environment bindings (" ++ toString pairs.length ++ " total):\n\n"
      ++ hostSection ((pairs.filter isHost).map Prod.fst)
      ++ valueSection (pairs.filter fun pair => !isHost pair)

end SmallScheme.Listing

namespace SmallScheme.Store

def listing (st : Store) (e : Scope) : String :=
  Listing.render (st.visible e)

end SmallScheme.Store
