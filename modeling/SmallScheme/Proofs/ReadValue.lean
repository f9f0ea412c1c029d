import SmallScheme.Proofs.Reading

namespace SmallScheme

namespace Value

mutual

def IsText : Value → Prop
  | number _ | symbol _ | string _ | bool _ => True
  | list vs => IsTextAll vs
  | _ => False

def IsTextAll : List Value → Prop
  | [] => True
  | v :: vs => v.IsText ∧ IsTextAll vs

end

end Value

namespace Grammar

open Value Reader

lemma isText_atom (a : Atom) (symbols : SymbolTable) : (a.value symbols).1.IsText := by
  cases a <;> trivial

mutual

lemma isText_tree (t : Tree) (symbols : SymbolTable) : (t.value symbols).1.IsText := by
  cases t with
  | atom name => exact isText_atom _ symbols
  | string body => trivial
  | list gap forms => exact isText_forms forms symbols

lemma isText_forms (f : Forms) (symbols : SymbolTable) : IsTextAll (f.values symbols).1 := by
  cases f with
  | nil => trivial
  | cons tree gap rest => exact ⟨isText_tree tree symbols, isText_forms rest _⟩

end

end Grammar

namespace Reader

variable {comments : Bool} {text : String} {symbols symbols' : SymbolTable}

lemma isText_of_forms {vs : List Value}
    (h : forms comments symbols text.toList = (.ok vs, symbols')) : Value.IsTextAll vs := by
  obtain ⟨p, -, -, hvalues⟩ := forms_ok_iff.1 h
  have hp := Grammar.isText_forms p.forms symbols
  rwa [hvalues] at hp

lemma isText_of_readAll {vs : List Value}
    (h : readAll comments text symbols = (.ok vs, symbols')) : Value.IsTextAll vs :=
  isText_of_forms (readAll_ok_iff.1 h)

lemma isText_of_read {x : Value} (h : read comments text symbols = (.ok (some x), symbols')) :
    x.IsText :=
  (isText_of_forms (read_ok_iff.1 h)).1

end Reader

end SmallScheme
