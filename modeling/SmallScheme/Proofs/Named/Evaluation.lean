import SmallScheme.Proofs.BuiltinView
import SmallScheme.Proofs.Machine

/-! An interpreter without a symbol table: symbols are strings, frames are keyed by name, and a
form is special by the name of its head alone. -/

namespace SmallScheme

namespace SpecialForm

def ofName? (name : String) : Option SpecialForm :=
  all.find? fun form => form.name == name

lemma ofName?_eq_none {name : String} (h : ∀ form : SpecialForm, form.name ≠ name) :
    ofName? name = none := by
  unfold ofName?
  rw [List.find?_eq_none]
  intro form _ hform
  exact h form (beq_iff_eq.1 hform)

end SpecialForm

namespace Named

inductive Value where
  | number (x : Float)
  | symbol (name : String)
  | string (text : String)
  | bool (b : Bool)
  | list (elements : List Value)
  | host (procedure : HostProcedure)
  | closure (identity : Nat) (params : List String) (body : List Value) (scope : Scope)
  | unspecified

namespace Value

mutual

/-- The value with the number 0 for every symbol. Texts and types show names only, so those of
the one are those of the other. -/
def toValue : Value → SmallScheme.Value
  | number x => .number x
  | symbol name => .symbol ⟨0, name⟩
  | string text => .string text
  | bool b => .bool b
  | list vs => .list (toValues vs)
  | host p => .host p
  | closure i params body e => .closure i (params.map (⟨0, ·⟩)) (toValues body) e
  | unspecified => .unspecified

def toValues : List Value → List SmallScheme.Value
  | [] => []
  | v :: vs => toValue v :: toValues vs

end

def written (v : Value) : String :=
  v.toValue.written

def displayed (v : Value) : String :=
  v.toValue.displayed

mutual

def equal : Value → Value → Bool
  | number x, number y => x == y
  | symbol s, symbol t => s == t
  | string s, string t => s == t
  | bool b, bool c => b == c
  | list vs, list ws => equalAll vs ws
  | host p, host q => p.name == q.name
  | closure i _ _ _, closure j _ _ _ => i == j
  | _, _ => false

def equalAll : List Value → List Value → Bool
  | [], [] => true
  | v :: vs, w :: ws => equal v w && equalAll vs ws
  | _, _ => false

end

def view : View Value where
  number := number
  bool := bool
  number? v := v.toValue.number?
  bool? v := v.toValue.bool?
  typeName v := v.toValue.typeName
  equal := equal

def shape : Value → Shape String Value
  | symbol name => .symbol name
  | list vs => .list vs
  | host p => .host p
  | closure _ params body e => .closure params body e
  | bool b => .bool b
  | _ => .other

end Value

abbrev Frame := List (String × Value)

namespace Frame

def get? (f : Frame) (name : String) : Option Value :=
  (f.find? fun b => b.1 == name).map Prod.snd

def put (name : String) (v : Value) : Frame → Frame
  | [] => [(name, v)]
  | (key, u) :: rest => if key = name then (key, v) :: rest else (key, u) :: put name v rest

lemma get?_put (f : Frame) (a b : String) (v : Value) :
    (f.put a v).get? b = if a = b then some v else f.get? b := by
  induction f with
  | nil =>
    by_cases h : a = b
    · simp [put, get?, h]
    · simp [put, get?, h]
  | cons pair rest ih =>
    obtain ⟨key, u⟩ := pair
    unfold get? at ih ⊢
    by_cases hkey : key = a
    · subst hkey
      by_cases h : key = b
      · simp [put, h]
      · simp [put, h]
    · by_cases h : key = b
      · subst h
        simp [put, hkey, Ne.symm hkey]
      · simpa [put, hkey, h] using ih

end Frame

structure Store where
  frames : Array Frame
  closures : Nat

namespace Store

def frame (st : Store) (i : Nat) : Frame :=
  st.frames.getD i []

def newFrame (st : Store) : Store :=
  { st with frames := st.frames.push [] }

def put (st : Store) (i : Nat) (name : String) (v : Value) : Store :=
  { st with frames := st.frames.modify i (Frame.put name v) }

def defineAll (st : Store) (i : Nat) : List String → List Value → Store
  | name :: names, v :: vs => (st.put i name v).defineAll i names vs
  | _, _ => st

def lookup? (st : Store) (e : Scope) (name : String) : Option Value :=
  e.chain.findSome? fun i => (st.frame i).get? name

def home? (st : Store) (e : Scope) (name : String) : Option Nat :=
  e.chain.find? fun i => ((st.frame i).get? name).isSome

@[simp]
lemma size_put (st : Store) (i : Nat) (name : String) (v : Value) :
    (st.put i name v).frames.size = st.frames.size := by
  simp [put]

@[simp]
lemma size_newFrame (st : Store) : st.newFrame.frames.size = st.frames.size + 1 := by
  simp [newFrame]

lemma frame_put (st : Store) (i k : Nat) (name : String) (v : Value) :
    (st.put i name v).frame k =
      if i = k ∧ i < st.frames.size then (st.frame i).put name v else st.frame k := by
  simp only [put, frame, Array.getD_eq_getD_getElem?, Array.getElem?_modify]
  by_cases hk : i = k
  · subst hk
    by_cases hi : i < st.frames.size
    · simp [hi]
    · simp [hi]
  · simp [hk]

@[simp]
lemma frame_newFrame (st : Store) (k : Nat) : st.newFrame.frame k = st.frame k := by
  simp only [newFrame, frame, Array.getD_eq_getD_getElem?, Array.getElem?_push]
  by_cases hk : k = st.frames.size
  · simp [hk]
  · simp [hk]

variable {st : Store} {i j : Nat} {a b : String} {v : Value}

lemma frame_of_size_le (h : st.frames.size ≤ i) : st.frame i = [] := by
  simp [frame, Array.getD_eq_getD_getElem?, h]

lemma lookup?_eq (st : Store) (e : Scope) (name : String) :
    st.lookup? e name = (st.home? e name).bind fun i => (st.frame i).get? name := by
  unfold lookup? home?
  induction e.chain with
  | nil => rfl
  | cons i is ih =>
    rw [List.findSome?_cons, List.find?_cons]
    cases hget : (st.frame i).get? name with
    | none => simpa [hget] using ih
    | some v => simp [hget]

def Binds (st : Store) (i : Nat) (name : String) : Prop :=
  ((st.frame i).get? name).isSome

lemma Binds.put (h : st.Binds j b) (i : Nat) (a : String) (v : Value) :
    (st.put i a v).Binds j b := by
  unfold Binds at *
  rw [frame_put]
  split
  · next hi =>
    rw [Frame.get?_put]
    split
    · rfl
    · rwa [hi.1]
  · exact h

lemma binds_put (h : i < st.frames.size) (a : String) (v : Value) : (st.put i a v).Binds i a := by
  unfold Binds
  rw [frame_put, if_pos ⟨rfl, h⟩, Frame.get?_put, if_pos rfl]
  rfl

lemma Binds.defineAll (h : st.Binds j b) (i : Nat) (names : List String) (vs : List Value) :
    (st.defineAll i names vs).Binds j b := by
  induction names generalizing st vs with
  | nil => exact h
  | cons a names ih =>
    cases vs with
    | nil => exact h
    | cons v vs => exact ih (h.put i a v) vs

lemma binds_defineAll (hi : i < st.frames.size) {names : List String} {vs : List Value}
    (hlen : names.length = vs.length) (ha : a ∈ names) : (st.defineAll i names vs).Binds i a := by
  induction names generalizing st vs with
  | nil => cases ha
  | cons b names ih =>
    cases vs with
    | nil => cases hlen
    | cons v vs =>
      rcases List.mem_cons.1 ha with rfl | ha
      · exact (binds_put hi a v).defineAll i names vs
      · exact ih (by simpa using hi) (Nat.succ.inj hlen) ha

def visible (st : Store) (e : Scope) : List (String × SmallScheme.Value) :=
  e.chain.foldr (fun i pairs => (st.frame i).foldl (fun pairs b =>
    SmallScheme.Store.insertNamed b.1 b.2.toValue pairs) pairs) []

end Store

structure World where
  store : Store
  sink : Sink
  output : String

abbrev Run := EStateM Error World

namespace Run

def lookup (e : Scope) (name : String) : Run Value := do
  match (← get).store.lookup? e name with
  | some v => pure v
  | none => throw (.unbound name)

def define (e : Scope) (name : String) (v : Value) : Run Unit :=
  modify fun w => { w with store := w.store.put e.frame name v }

def assign (e : Scope) (name : String) (v : Value) : Run Unit := do
  match (← get).store.home? e name with
  | some i => modify fun w => { w with store := w.store.put i name v }
  | none => throw (.unbound name)

def newClosure (params : List String) (body : List Value) (e : Scope) : Run Value :=
  modifyGet fun w =>
    (.closure w.store.closures params body e,
      { w with store := { w.store with closures := w.store.closures + 1 } })

def enter (e : Scope) (params : List String) (args : List Value) : Run Scope :=
  modifyGet fun w =>
    (⟨w.store.frames.size, e.chain⟩,
      { w with store := w.store.newFrame.defineAll w.store.frames.size params args })

def write (text : String) : Run Unit := fun w =>
  let written := { w with output := w.output ++ text }
  match w.sink.writeFault, w.sink.flushFault with
  | some fault, _ => .error (.io fault) w
  | none, some fault => .error (.io fault) written
  | none, none => .ok () written

def ofExcept {α : Type} (outcome : Except Error α) : Run α :=
  match outcome with
  | .ok a => pure a
  | .error e => throw e

def callHost (p : HostProcedure) (args : List Value) : Run Value := do
  ofExcept (p.arity.check args.length)
  match p.code with
  | .builtin b => ofExcept (Value.view.apply b args)
  | .display => do
    write (" ".intercalate (args.map Value.displayed) ++ "\n")
    pure .unspecified
  | .external _ => throw (.notApplicable p.name)

end Run

end Named

def named : Machine String Named.Value Named.World where
  shape := Named.Value.shape
  written := Named.Value.written
  unspecified := .unspecified
  name := id
  same a b := a == b
  special? := SpecialForm.ofName?
  lookup := Named.Run.lookup
  isBound e name := do
    return ((← get).store.home? e name).isSome
  define := Named.Run.define
  assign := Named.Run.assign
  newClosure := Named.Run.newClosure
  enter := Named.Run.enter
  callHost := Named.Run.callHost

end SmallScheme
