import SmallScheme.Proofs.NumberText
import SmallScheme.Proofs.Reading
import SmallScheme.Value.Text

namespace SmallScheme

open Text Reader Grammar

structure IsName (comments : Bool) (name : List Char) : Prop extends IsToken comments name where
  notTrue : name ≠ ['#', 't']
  notFalse : name ≠ ['#', 'f']
  notNumber : Decimal.ofChars? name = none

namespace Value

mutual

/-- `v` is made of parts with a text of their own and stands inside `depth` lists, as deep as
forms may; its numbers and symbols are the given ones. -/
def Legible (comments : Bool) (number : Float → Prop) (symbol : Symbol → Prop) (depth : Nat) :
    Value → Prop
  | .number x => depth < nestingLimit ∧ number x
  | .symbol s => depth < nestingLimit ∧ IsName comments s.name.toList ∧ symbol s
  | .string text => depth < nestingLimit ∧ '"' ∉ text.toList
  | .bool _ => depth < nestingLimit
  | .list vs => depth < nestingLimit ∧ LegibleAll comments number symbol (depth + 1) vs
  | _ => False

def LegibleAll (comments : Bool) (number : Float → Prop) (symbol : Symbol → Prop)
    (depth : Nat) : List Value → Prop
  | [] => True
  | v :: vs => v.Legible comments number symbol depth ∧ LegibleAll comments number symbol depth vs

end

def Readable (comments : Bool) (symbols : SymbolTable) (v : Value) : Prop :=
  v.Legible comments (fun x => x.isFinite = true) (fun s => symbols.get? s.name = some s) 0

def separator : List Value → Gap
  | [] => []
  | _ :: _ => [.blank ' ']

mutual

def tree : Value → Tree
  | .number x => .atom (Number.spell x)
  | .symbol s => .atom s.name.toList
  | .bool b => .atom ['#', if b then 't' else 'f']
  | .string text => .string text.toList
  | .list vs => .list [] (trees vs)
  | _ => .atom []

def trees : List Value → Forms
  | [] => .nil
  | v :: vs => .cons v.tree (separator vs) (trees vs)

end

section Legible

variable {comments : Bool} {number : Float → Prop} {symbol : Symbol → Prop}

mutual

lemma text_tree {v : Value} {depth : Nat} (h : v.Legible comments number symbol depth) :
    v.tree.text = v.spell .written := by
  cases v with
  | number x => rfl
  | symbol s => rfl
  | bool b => rfl
  | string text => rfl
  | list vs =>
    cases vs with
    | nil => rfl
    | cons v vs =>
      have hv := text_tree h.2.1
      have hvs := text_rest h.2.2
      rw [spell_cons, ← hv, ← hvs]
      simp [tree, trees, Tree.text, Forms.text, Gap.text]
  | host procedure => exact h.elim
  | closure identity params body scope => exact h.elim
  | unspecified => exact h.elim

lemma text_rest {vs : List Value} {depth : Nat}
    (h : LegibleAll comments number symbol depth vs) :
    (separator vs).text ++ ((trees vs).text ++ [')']) = spellRest .written vs := by
  cases vs with
  | nil => rfl
  | cons v vs =>
    have hv := text_tree h.1
    have hvs := text_rest h.2
    rw [spellRest_cons, ← hv, ← hvs]
    simp [trees, separator, Forms.text, Gap.text, Piece.text]

end

mutual

lemma within_tree {v : Value} {depth : Nat} (h : v.Legible comments number symbol depth) :
    v.tree.Within depth := by
  cases v with
  | number x => exact h.1
  | symbol s => exact h.1
  | bool b => exact h
  | string text => exact h.1
  | list vs => exact ⟨h.1, within_trees h.2⟩
  | host procedure => exact h.elim
  | closure identity params body scope => exact h.elim
  | unspecified => exact h.elim

lemma within_trees {vs : List Value} {depth : Nat}
    (h : LegibleAll comments number symbol depth vs) : (trees vs).Within depth := by
  cases vs with
  | nil => exact trivial
  | cons v vs => exact ⟨within_tree h.1, within_trees h.2⟩

end

lemma isToken_bool (b : Bool) : IsToken comments ['#', if b then 't' else 'f'] := by
  cases b <;> exact isToken_of_all (by decide) (by decide) (by decide)

lemma stands_separator (vs : List Value) (after : List Char) :
    (separator vs).Stands comments after := by
  cases vs with
  | nil => exact trivial
  | cons v vs => exact ⟨(by decide : isBlank ' ' = true), trivial⟩

lemma separator_ends (vs : List Value) (after : List Char) :
    ∀ c ∈ ((separator vs).text ++ ((trees vs).text ++ ')' :: after)).head?,
      isTokenChar c = false := by
  intro c hc
  cases vs with
  | nil => exact ends_token (by decide) c hc
  | cons v vs => exact ends_token (by decide) c hc

mutual

lemma stands_tree {v : Value} {depth : Nat} {after : List Char}
    (h : v.Legible comments number symbol depth) (hn : ∀ x, number x → x.isNaN = false)
    (ha : ∀ c ∈ after.head?, isTokenChar c = false) : v.tree.Stands comments after := by
  cases v with
  | number x => exact ⟨(Number.isToken_spell (hn x h.2) comments).1, ha⟩
  | symbol s => exact ⟨h.2.1.toIsToken, ha⟩
  | bool b => exact ⟨isToken_bool b, ha⟩
  | string text => exact h.2
  | list vs => exact ⟨trivial, stands_trees h.2 hn⟩
  | host procedure => exact h.elim
  | closure identity params body scope => exact h.elim
  | unspecified => exact h.elim

lemma stands_trees {vs : List Value} {depth : Nat} {after : List Char}
    (h : LegibleAll comments number symbol depth vs) (hn : ∀ x, number x → x.isNaN = false) :
    (trees vs).Stands comments (')' :: after) := by
  cases vs with
  | nil => exact trivial
  | cons v vs =>
    exact ⟨stands_tree h.1 hn (separator_ends vs after), stands_separator vs _,
      stands_trees h.2 hn⟩

end

lemma derives_written {v : Value} (h : v.Legible comments number symbol 0)
    (hn : ∀ x, number x → x.isNaN = false) :
    Program.Derives comments ⟨[], .cons v.tree [] .nil⟩ v.written.toList where
  text := by
    simp [Program.text, Gap.text, Forms.text, written, text_tree h]
  gap := trivial
  forms := ⟨stands_tree h hn (by simp [Gap.text, Forms.text]), trivial, trivial⟩

lemma read_written_eq {v : Value} (h : v.Legible comments number symbol 0)
    (hn : ∀ x, number x → x.isNaN = false) (symbols : SymbolTable) :
    Reader.read comments v.written symbols =
      (.ok (some (v.tree.value symbols).1), (v.tree.value symbols).2) := by
  refine read_ok_iff.2 (forms_ok_iff.2 ⟨_, derives_written h hn, ⟨within_tree h, trivial⟩, ?_⟩)
  rfl

end Legible

lemma ofChars_spell {x : Float} (hx : x.isFinite = true) :
    Atom.ofChars (Number.spell x) = .number x := by
  obtain ⟨-, hhead⟩ := Number.isToken_spell (Number.isNaN_of_isFinite hx) false
  obtain ⟨d, hd, hfloat⟩ := Number.spell_reads hx
  rw [Atom.ofChars, if_neg, if_neg, hd]
  · simp [hfloat]
  · intro h
    simp [h] at hhead
  · intro h
    simp [h] at hhead

lemma ofChars_name {comments : Bool} {s : Symbol} (h : IsName comments s.name.toList) :
    Atom.ofChars s.name.toList = .name s.name := by
  rw [Atom.ofChars, if_neg h.notTrue, if_neg h.notFalse, h.notNumber, String.ofList_toList]

lemma ofChars_bool (b : Bool) : Atom.ofChars ['#', if b then 't' else 'f'] = .bool b := by
  cases b <;> rfl

mutual

lemma value_tree {comments : Bool} {symbols : SymbolTable} {v : Value} {depth : Nat}
    (h : v.Legible comments (fun x => x.isFinite = true)
      (fun s => symbols.get? s.name = some s) depth) : v.tree.value symbols = (v, symbols) := by
  cases v with
  | number x => rw [tree, Tree.value, ofChars_spell h.2, Atom.value]
  | symbol s =>
    rw [tree, Tree.value, ofChars_name h.2.1, Atom.value, SymbolTable.intern_of_get? h.2.2]
  | bool b => rw [tree, Tree.value, ofChars_bool, Atom.value]
  | string text => rw [tree, Tree.value, String.ofList_toList]
  | list vs => rw [tree, Tree.value, values_trees h.2]
  | host procedure => exact h.elim
  | closure identity params body scope => exact h.elim
  | unspecified => exact h.elim

lemma values_trees {comments : Bool} {symbols : SymbolTable} {vs : List Value} {depth : Nat}
    (h : LegibleAll comments (fun x => x.isFinite = true)
      (fun s => symbols.get? s.name = some s) depth vs) :
    (trees vs).values symbols = (vs, symbols) := by
  cases vs with
  | nil => rfl
  | cons v vs => rw [trees, Forms.values_cons, value_tree h.1, values_trees h.2]

end

variable {comments : Bool}

abbrev IsNumber (x : Float) : Prop :=
  x.isNaN = false

lemma legible_atom {name : List Char} (hn : IsToken comments name) {depth : Nat}
    (hd : depth < nestingLimit) (symbols : SymbolTable) :
    ((Atom.ofChars name).value symbols).1.Legible comments IsNumber (fun _ => True) depth := by
  unfold Atom.ofChars
  split
  · exact hd
  split
  · exact hd
  split
  · next d _ => exact ⟨hd, Decimal.isNaN_toFloat d⟩
  · next htrue hfalse _ hnumber =>
    have hname : (symbols.intern (String.ofList name)).1.name.toList = name := by simp
    refine ⟨hd, ?_, trivial⟩
    rw [hname]
    exact ⟨hn, htrue, hfalse, hnumber⟩

mutual

lemma legible_value {t : Tree} {after : List Char} {depth : Nat}
    (hs : t.Stands comments after) (hw : t.Within depth) (symbols : SymbolTable) :
    (t.value symbols).1.Legible comments IsNumber (fun _ => True) depth := by
  cases t with
  | atom name => exact legible_atom hs.1 hw symbols
  | string body =>
    refine ⟨hw, ?_⟩
    rw [String.toList_ofList]
    exact hs
  | list gap forms => exact ⟨hw.1, legible_values hs.2 hw.2 symbols⟩

lemma legible_values {f : Forms} {after : List Char} {depth : Nat}
    (hs : f.Stands comments after) (hw : f.Within depth) (symbols : SymbolTable) :
    LegibleAll comments IsNumber (fun _ => True) depth (f.values symbols).1 := by
  cases f with
  | nil => exact trivial
  | cons t gap rest =>
    rw [Forms.values_cons]
    exact ⟨legible_value hs.1 hw.1 symbols, legible_values hs.2.2 hw.2 _⟩

end

lemma spell_name (symbols : SymbolTable) (name : List Char) :
    ((Atom.name (String.ofList name)).value symbols).1.spell .written = name := by
  rw [Atom.value, spell_symbol, SymbolTable.intern_name, String.toList_ofList]

lemma spell_atom {x : Float} (hx : IsNumber x) (symbols : SymbolTable) :
    ((Atom.ofChars (Number.spell x)).value symbols).1.spell .written = Number.spell x := by
  by_cases hfinite : x.isFinite = true
  · rw [ofChars_spell hfinite]
    rfl
  -- An infinite number is written as a name.
  · rcases Number.spell_of_infinite hx hfinite with h | h <;> rw [h] <;>
      exact spell_name symbols _

mutual

lemma spell_value_tree {symbol : Symbol → Prop} {v : Value} {depth : Nat}
    (h : v.Legible comments IsNumber symbol depth) (symbols : SymbolTable) :
    (v.tree.value symbols).1.spell .written = v.spell .written := by
  cases v with
  | number x => exact spell_atom h.2 symbols
  | symbol s =>
    rw [tree, Tree.value, ofChars_name h.2.1, Atom.value, spell_symbol, SymbolTable.intern_name,
      spell_symbol]
  | bool b =>
    rw [tree, Tree.value, ofChars_bool]
    rfl
  | string text =>
    rw [tree, Tree.value, String.ofList_toList]
  | list vs =>
    rw [tree, Tree.value]
    exact (spell_values_trees h.2 symbols).1
  | host procedure => exact h.elim
  | closure identity params body scope => exact h.elim
  | unspecified => exact h.elim

lemma spell_values_trees {symbol : Symbol → Prop} {vs : List Value} {depth : Nat}
    (h : LegibleAll comments IsNumber symbol depth vs) (symbols : SymbolTable) :
    (list ((trees vs).values symbols).1).spell .written = (list vs).spell .written ∧
      spellRest .written ((trees vs).values symbols).1 = spellRest .written vs := by
  cases vs with
  | nil => exact ⟨rfl, rfl⟩
  | cons v vs =>
    have hv := spell_value_tree h.1 symbols
    obtain ⟨-, hvs⟩ := spell_values_trees h.2 (v.tree.value symbols).2
    rw [trees, Forms.values_cons, spell_cons, spellRest_cons, hv, hvs]
    exact ⟨rfl, rfl⟩

end

lemma legible_of_read {text : String} {symbols symbols' : SymbolTable} {v : Value}
    (h : Reader.read comments text symbols = (.ok (some v), symbols')) :
    v.Legible comments IsNumber (fun _ => True) 0 := by
  obtain ⟨p, hp, hw, hvalues⟩ := forms_ok_iff.1 (read_ok_iff.1 h)
  have hall := legible_values hp.forms hw symbols
  rw [hvalues] at hall
  exact hall.1

/-- Reading undoes writing, and writing what was read keeps the text from then on, also where a
number was too large to be read back as one. -/
theorem read_written (comments : Bool) :
    (∀ (symbols : SymbolTable) (v : Value), v.Readable comments symbols →
      Reader.read comments v.written symbols = (.ok (some v), symbols)) ∧
    (∀ (text : String) (symbols symbols' : SymbolTable) (v : Value),
      Reader.read comments text symbols = (.ok (some v), symbols') →
      ∀ table, ∃ u table', Reader.read comments v.written table = (.ok (some u), table') ∧
        u.written = v.written) := by
  constructor
  · intro symbols v h
    rw [read_written_eq h (fun x hx => Number.isNaN_of_isFinite hx), value_tree h]
  · intro text symbols symbols' v h table
    have hv := legible_of_read h
    refine ⟨_, _, read_written_eq hv (fun x hx => hx) table, ?_⟩
    rw [written, spell_value_tree hv, written]

def sample : Value :=
  .list [.symbol ⟨0, "a"⟩, .number (Number.ofMagnitude true 0), .string "b (c", .list []]

lemma sample_readable : sample.Readable true ⟨["a"]⟩ := by
  have hfinite : (Number.ofMagnitude true 0).isFinite = true := by decide +kernel
  have hname : IsName true "a".toList := ⟨isToken_a, by decide, by decide, by decide⟩
  have hone : 1 < nestingLimit := by decide
  exact ⟨by decide, ⟨hone, hname, by decide⟩, ⟨hone, hfinite⟩, ⟨hone, by decide⟩, ⟨hone, trivial⟩,
    trivial⟩

def large : Value :=
  .number (Number.ofMagnitude false Format.double.infinity)

lemma read_large : Reader.read true "1e5000" .empty = (.ok (some large), .empty) := by
  refine read_ok_iff.2 (forms_ok_iff.2
    ⟨⟨[], .cons (.atom "1e5000".toList) [] .nil⟩, ⟨by decide, trivial, ?_⟩, ?_, ?_⟩)
  · exact ⟨⟨isToken_of_all (by decide) (by decide) (by decide), by simp [Gap.text, Forms.text]⟩,
      trivial, trivial⟩
  · exact ⟨(by decide : 0 < nestingLimit), trivial⟩
  · rfl

theorem read_written_sample :
    sample.written = "(a -0 \"b (c\" ())" ∧
    Reader.read true sample.written ⟨["a"]⟩ = (.ok (some sample), ⟨["a"]⟩) ∧
    large.written = "inf" ∧
    ∃ u table', Reader.read true large.written .empty = (.ok (some u), table') ∧
      u.written = large.written :=
  ⟨by decide +kernel, (read_written true).1 _ _ sample_readable, by decide +kernel,
    (read_written true).2 _ _ _ _ read_large _⟩

end Value

end SmallScheme
