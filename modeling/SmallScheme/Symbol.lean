namespace SmallScheme

structure Symbol where
  index : Nat
  name : String
deriving DecidableEq

namespace Symbol

/-- Symbols are told apart by number alone; a number means a name only within one table. -/
def same (a b : Symbol) : Bool :=
  a.index == b.index

def inspect (s : Symbol) : String :=
  "Symbol(" ++ s.name ++ "#" ++ toString s.index ++ ")"

end Symbol

structure SymbolTable where
  names : List String
deriving DecidableEq

namespace SymbolTable

def empty : SymbolTable := ⟨[]⟩

def size (t : SymbolTable) : Nat :=
  t.names.length

def get? (t : SymbolTable) (name : String) : Option Symbol :=
  (t.names.idxOf? name).map fun index => ⟨index, name⟩

def intern (t : SymbolTable) (name : String) : Symbol × SymbolTable :=
  match t.get? name with
  | some s => (s, t)
  | none => (⟨t.size, name⟩, ⟨t.names ++ [name]⟩)

def inspect (t : SymbolTable) : String :=
  "Interner \x7b symbols: " ++ toString t.size ++ " \x7d"

@[simp]
theorem names_empty : empty.names = [] := rfl

theorem intern_of_get? {t : SymbolTable} {name : String} {s : Symbol} (h : t.get? name = some s) :
    t.intern name = (s, t) := by
  simp [intern, h]

theorem name_of_get? {t : SymbolTable} {name : String} {s : Symbol} (h : t.get? name = some s) :
    s.name = name := by
  obtain ⟨i, -, rfl⟩ := Option.map_eq_some_iff.1 h
  rfl

@[simp]
theorem intern_name (t : SymbolTable) (name : String) : (t.intern name).1.name = name := by
  unfold intern
  split
  · next h => exact name_of_get? h
  · rfl

end SymbolTable

end SmallScheme
