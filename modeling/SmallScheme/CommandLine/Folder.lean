import SmallScheme.Text.Blank
import SmallScheme.Text.Split

/-! The folder a command works in. A path is walked name by name, and every name but the last
must lead to a folder. -/

namespace SmallScheme.CommandLine

inductive FileFault where
  | missing
  | notFolder
  | folder
  | nameTooLong
  | undecodable
deriving DecidableEq

namespace FileFault

def message : FileFault → String
  | missing => "No such file or directory (os error 2)"
  | notFolder => "Not a directory (os error 20)"
  | folder => "Is a directory (os error 21)"
  | nameTooLong => "File name too long (os error 36)"
  | undecodable => "stream did not contain valid UTF-8"

end FileFault

inductive Entry where
  | file (bytes : List UInt8)
  | folder
deriving DecidableEq

namespace Entry

def text : Entry → Except FileFault String
  | file bytes =>
    match String.fromUTF8? ⟨bytes.toArray⟩ with
    | some text => .ok text
    | none => .error .undecodable
  | folder => .error .folder

end Entry

inductive Place where
  | inside (names : List String)
  | rooted (names : List String)
  | around
deriving DecidableEq

namespace Place

def parent : Place → Place
  | inside [] => around
  | inside (_ :: names) => inside names
  | rooted [] => rooted []
  | rooted (_ :: names) => rooted names
  | around => around

def child? (name : String) : Place → Option Place
  | inside names => some (inside (name :: names))
  | rooted names => some (rooted (name :: names))
  | around => none

end Place

structure Folder where
  entries : List (List String × Entry)
deriving DecidableEq

namespace Folder

def names (path : String) : List String :=
  (Text.split '/' path.toList).map String.ofList

def ofPaths (paths : List (String × Entry)) : Folder :=
  ⟨paths.map fun (path, entry) => ((names path).reverse, entry)⟩

def system : Folder :=
  ofPaths [("dev", .folder), ("dev/null", .file []), ("tmp", .folder)]

def get? (f : Folder) (names : List String) : Option Entry :=
  match f.entries.find? fun pair => pair.1 == names with
  | some pair => some pair.2
  | none =>
    if names.isEmpty || f.entries.any fun pair => names.isSuffixOf pair.1 then some .folder
    else none

def entryAt (f : Folder) : Place → Option Entry
  | .inside names => f.get? names
  | .rooted names => system.get? names
  | .around => some .folder

def nameLimit : Nat := 255

def pathLimit : Nat := 4096

def enter (f : Folder) (p : Place) (name : String) : Except FileFault Place :=
  if name = "" ∨ name = "." then .ok p
  else if name = ".." then .ok p.parent
  else if nameLimit < Text.byteLength name.toList then .error .nameTooLong
  else
    match p.child? name with
    | none => .error .missing
    | some q => if (f.entryAt q).isSome then .ok q else .error .missing

def walk (f : Folder) (p : Place) : List String → Except FileFault Place
  | [] => .ok p
  | name :: rest =>
    match f.entryAt p with
    | some .folder =>
      match f.enter p name with
      | .ok q => f.walk q rest
      | .error e => .error e
    | some (.file _) => .error .notFolder
    | none => .error .missing

def locate (f : Folder) (path : String) : Except FileFault Place :=
  if pathLimit ≤ Text.byteLength path.toList then .error .nameTooLong
  else if path = "" then .error .missing
  else
    match names path with
    | "" :: rest => f.walk (.rooted []) rest
    | names => f.walk (.inside []) names

def read (f : Folder) (path : String) : Except FileFault String :=
  match f.locate path with
  | .error e => .error e
  | .ok p =>
    match f.entryAt p with
    | some entry => entry.text
    | none => .error .missing

end Folder

structure Disk where
  text : String → Except String String
  historyFault : Option String

namespace Folder

def disk (f : Folder) (history : String) : Disk where
  text path := (f.read path).mapError FileFault.message
  historyFault :=
    if f.get? [history] = some .folder then some FileFault.folder.message else none

end Folder

end SmallScheme.CommandLine
