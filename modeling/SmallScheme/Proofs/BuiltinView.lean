import Mathlib.Data.List.Forall2
import SmallScheme.Builtin

/-! The built-in procedures look at their arguments in few ways. Over values of any type that can
be looked at so, they compute the same, and related arguments give related answers. -/

namespace SmallScheme

structure View (α : Type) where
  number : Float → α
  bool : Bool → α
  number? : α → Option Float
  bool? : α → Option Bool
  typeName : α → String
  equal : α → α → Bool

inductive Alike {ε α β : Type} (results : α → β → Prop) : Except ε α → Except ε β → Prop
  | ok {a : α} {b : β} : results a b → Alike results (.ok a) (.ok b)
  | error {e : ε} : Alike results (.error e) (.error e)

namespace View

variable {α β : Type} (V : View α)

def combine (op : Float → Float → Float) (total a : α) : α :=
  match V.number? total, V.number? a with
  | some x, some y => V.number (op x y)
  | _, _ => total

def fold? (op : Float → Float → Float) : List α → Option α
  | [] => none
  | a :: as => some (as.foldl (V.combine op) a)

def reduce (op : Float → Float → Float) (alone : Float → Float) (args : List α) :
    Except Error α :=
  match args with
  | [] => .error (.arity 1 0 none)
  | [a] => .ok ((V.number? a).elim a fun x => V.number (alone x))
  | a :: as => .ok (as.foldl (V.combine op) a)

def numbers (procedure : String) : List α → Except Error (List Float)
  | [] => .ok []
  | a :: as =>
    match V.number? a with
    | none => .error (.wrongType (.notNumber procedure (V.typeName a)) [])
    | some x => (numbers procedure as).map (x :: ·)

def compare (procedure : String) (r : Float → Float → Bool) (args : List α) : Except Error α :=
  (V.numbers procedure args).map fun xs => V.bool (Builtin.chained r xs)

def negation : List α → Except Error α
  | [a] => .ok (V.bool (V.bool? a == some false))
  | args => .error (.arity 1 args.length none)

def apply (b : Builtin) (args : List α) : Except Error α :=
  match b with
  | .add => .ok ((V.fold? (· + ·) args).getD (V.number 0))
  | .mul => .ok ((V.fold? (· * ·) args).getD (V.number 1))
  | .sub => V.reduce (· - ·) (- ·) args
  | .div => V.reduce (· / ·) (1 / ·) args
  | .equal => .ok (V.bool (Builtin.chained V.equal args))
  | .less => V.compare b.name (fun x y => decide (x < y)) args
  | .greater => V.compare b.name (fun x y => decide (y < x)) args
  | .atMost => V.compare b.name (fun x y => decide (x ≤ y)) args
  | .atLeast => V.compare b.name (fun x y => decide (y ≤ x)) args
  | .not => V.negation args

structure Respects (V : View α) (W : View β) (related : α → β → Prop) : Prop where
  number (x : Float) : related (V.number x) (W.number x)
  bool (b : Bool) : related (V.bool b) (W.bool b)
  number? {a : α} {b : β} : related a b → V.number? a = W.number? b
  bool? {a : α} {b : β} : related a b → V.bool? a = W.bool? b
  typeName {a : α} {b : β} : related a b → V.typeName a = W.typeName b
  equal {a a' : α} {b b' : β} : related a b → related a' b' → V.equal a a' = W.equal b b'

variable {V} {W : View β} {related : α → β → Prop}

lemma combine_related (h : V.Respects W related) (op : Float → Float → Float) {t a : α}
    {u b : β} (ht : related t u) (ha : related a b) :
    related (V.combine op t a) (W.combine op u b) := by
  unfold combine
  rw [h.number? ht, h.number? ha]
  split
  · exact h.number _
  · exact ht

lemma foldl_related (h : V.Respects W related) (op : Float → Float → Float) {as : List α}
    {bs : List β} (has : List.Forall₂ related as bs) {t : α} {u : β} (ht : related t u) :
    related (as.foldl (V.combine op) t) (bs.foldl (W.combine op) u) := by
  induction has generalizing t u with
  | nil => exact ht
  | cons ha _ ih => exact ih (combine_related h op ht ha)

lemma fold?_related (h : V.Respects W related) (op : Float → Float → Float) (x : Float)
    {as : List α} {bs : List β} (has : List.Forall₂ related as bs) :
    related ((V.fold? op as).getD (V.number x)) ((W.fold? op bs).getD (W.number x)) := by
  cases has with
  | nil => exact h.number x
  | cons ha has => exact foldl_related h op has ha

lemma reduce_related (h : V.Respects W related) (op : Float → Float → Float)
    (alone : Float → Float) {as : List α} {bs : List β} (has : List.Forall₂ related as bs) :
    Alike related (V.reduce op alone as) (W.reduce op alone bs) := by
  cases has with
  | nil => exact .error
  | @cons a b as bs ha has =>
    cases has with
    | nil =>
      apply Alike.ok
      rw [h.number? ha]
      cases W.number? b with
      | none => exact ha
      | some x => exact h.number (alone x)
    | cons ha' has => exact .ok (foldl_related h op (.cons ha' has) ha)

lemma numbers_related (h : V.Respects W related) (procedure : String) {as : List α}
    {bs : List β} (has : List.Forall₂ related as bs) :
    V.numbers procedure as = W.numbers procedure bs := by
  induction has with
  | nil => rfl
  | cons ha _ ih => simp only [numbers, h.number? ha, h.typeName ha, ih]

lemma compare_related (h : V.Respects W related) (procedure : String)
    (r : Float → Float → Bool) {as : List α} {bs : List β} (has : List.Forall₂ related as bs) :
    Alike related (V.compare procedure r as) (W.compare procedure r bs) := by
  unfold compare
  rw [numbers_related h procedure has]
  cases W.numbers procedure bs with
  | error e => exact .error
  | ok xs => exact .ok (h.bool _)

lemma chained_related (h : V.Respects W related) {as : List α} {bs : List β}
    (has : List.Forall₂ related as bs) :
    Builtin.chained V.equal as = Builtin.chained W.equal bs := by
  induction has with
  | nil => rfl
  | cons ha has ih =>
    cases has with
    | nil => rfl
    | cons ha' has => rw [Builtin.chained, Builtin.chained, h.equal ha ha', ih]

lemma negation_related (h : V.Respects W related) {as : List α} {bs : List β}
    (has : List.Forall₂ related as bs) : Alike related (V.negation as) (W.negation bs) := by
  cases has with
  | nil => exact .error
  | cons ha has =>
    cases has with
    | nil =>
      apply Alike.ok
      rw [h.bool? ha]
      exact h.bool _
    | cons _ has =>
      rw [negation, negation]
      · rw [List.length_cons, List.length_cons, has.length_eq]
        exact .error
      all_goals simp

lemma apply_related (h : V.Respects W related) (b : Builtin) {as : List α} {bs : List β}
    (has : List.Forall₂ related as bs) : Alike related (V.apply b as) (W.apply b bs) := by
  cases b with
  | add => exact .ok (fold?_related h _ 0 has)
  | mul => exact .ok (fold?_related h _ 1 has)
  | sub => exact reduce_related h _ _ has
  | div => exact reduce_related h _ _ has
  | equal =>
    apply Alike.ok
    rw [chained_related h has]
    exact h.bool _
  | less => exact compare_related h _ _ has
  | greater => exact compare_related h _ _ has
  | atMost => exact compare_related h _ _ has
  | atLeast => exact compare_related h _ _ has
  | not => exact negation_related h has

end View

def Value.view : View Value where
  number := .number
  bool := .bool
  number? := Value.number?
  bool? := Value.bool?
  typeName := Value.typeName
  equal := Value.equal

namespace Builtin

lemma reduce_eq (op : Float → Float → Float) (alone : Float → Float) (args : List Value) :
    reduce op alone args = Value.view.reduce op alone args := by
  match args with
  | [] => rfl
  | [v] => cases v <;> rfl
  | _ :: _ :: _ => simp [reduce, fold?, View.reduce]; rfl

lemma numbers_eq (procedure : String) (args : List Value) :
    numbers procedure args = Value.view.numbers procedure args := by
  induction args with
  | nil => rfl
  | cons v vs ih =>
    simp only [numbers, View.numbers, ih]
    rfl

lemma negation_eq (args : List Value) : negation args = Value.view.negation args := by
  match args with
  | [] => rfl
  | [v] =>
    cases v with
    | bool b => cases b <;> rfl
    | _ => rfl
  | _ :: _ :: _ => simp [negation, View.negation]

lemma apply_eq (b : Builtin) (args : List Value) : b.apply args = Value.view.apply b args := by
  cases b with
  | add => cases args <;> rfl
  | mul => cases args <;> rfl
  | sub => exact reduce_eq _ _ args
  | div => exact reduce_eq _ _ args
  | equal => rfl
  | less => exact congrArg (Except.map _) (numbers_eq _ args)
  | greater => exact congrArg (Except.map _) (numbers_eq _ args)
  | atMost => exact congrArg (Except.map _) (numbers_eq _ args)
  | atLeast => exact congrArg (Except.map _) (numbers_eq _ args)
  | not => exact negation_eq args

end Builtin

end SmallScheme
