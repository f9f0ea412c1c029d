import SmallScheme.Value

namespace SmallScheme

structure Frame where
  bindings : List (Symbol × Value)

namespace Frame

def empty : Frame := ⟨[]⟩

def get? (f : Frame) (s : Symbol) : Option Value :=
  (f.bindings.find? fun b => b.1.same s).map Prod.snd

def binds (f : Frame) (s : Symbol) : Bool :=
  (f.get? s).isSome

def size (f : Frame) : Nat :=
  f.bindings.length

def putIn (s : Symbol) (v : Value) : List (Symbol × Value) → List (Symbol × Value)
  | [] => [(s, v)]
  | (k, w) :: rest => if k.same s then (k, v) :: rest else (k, w) :: putIn s v rest

def put (f : Frame) (s : Symbol) (v : Value) : Frame :=
  ⟨putIn s v f.bindings⟩

theorem get?_put (f : Frame) (s t : Symbol) (v : Value) :
    (f.put s v).get? t = if s.same t then some v else f.get? t := by
  obtain ⟨bs⟩ := f
  simp only [get?, put]
  induction bs with
  | nil => cases h : s.same t <;> simp [putIn, h]
  | cons b rest ih =>
    obtain ⟨k, w⟩ := b
    simp only [putIn]
    cases hk : k.same s with
    | true =>
      have hkt : k.same t = s.same t := by simp_all [Symbol.same]
      cases ht : s.same t <;> simp [hkt, ht]
    | false =>
      cases ht : k.same t with
      | true =>
        have hst : s.same t = false := by
          simp only [Symbol.same, beq_eq_false_iff_ne, beq_iff_eq] at *
          omega
        simp [ht, hst]
      | false => simpa [ht] using ih

end Frame

structure Store where
  frames : Array Frame
  closures : Nat

namespace Store

def empty : Store := ⟨#[], 0⟩

def frame (st : Store) (i : Nat) : Frame :=
  st.frames.getD i .empty

def enter (st : Store) (outer : List Nat) : Scope × Store :=
  (⟨st.frames.size, outer⟩, { st with frames := st.frames.push .empty })

def newRoot (st : Store) : Scope × Store :=
  st.enter []

def newChild (st : Store) (e : Scope) : Scope × Store :=
  st.enter e.chain

def newClosure (st : Store) : Nat × Store :=
  (st.closures, { st with closures := st.closures + 1 })

def put (st : Store) (i : Nat) (s : Symbol) (v : Value) : Store :=
  { st with frames := st.frames.modify i (·.put s v) }

def define (st : Store) (e : Scope) (s : Symbol) (v : Value) : Store :=
  st.put e.frame s v

def defineAll (st : Store) (e : Scope) : List Symbol → List Value → Store
  | s :: ss, v :: vs => (st.define e s v).defineAll e ss vs
  | _, _ => st

def lookup? (st : Store) (e : Scope) (s : Symbol) : Option Value :=
  e.chain.findSome? fun i => (st.frame i).get? s

def home? (st : Store) (e : Scope) (s : Symbol) : Option Nat :=
  e.chain.find? fun i => (st.frame i).binds s

def isBound (st : Store) (e : Scope) (s : Symbol) : Bool :=
  (st.home? e s).isSome

def bindsLocally (st : Store) (e : Scope) (s : Symbol) : Bool :=
  (st.frame e.frame).binds s

def assign? (st : Store) (e : Scope) (s : Symbol) (v : Value) : Option Store :=
  (st.home? e s).map fun i => st.put i s v

def insertNamed (name : String) (v : Value) : List (String × Value) → List (String × Value)
  | [] => [(name, v)]
  | (n, w) :: rest =>
    if name < n then (name, v) :: (n, w) :: rest
    else if name = n then (name, v) :: rest
    else (n, w) :: insertNamed name v rest

def insertFrame (f : Frame) (pairs : List (String × Value)) : List (String × Value) :=
  f.bindings.foldl (fun pairs b => insertNamed b.1.name b.2 pairs) pairs

def visible (st : Store) (e : Scope) : List (String × Value) :=
  e.chain.foldr (fun i pairs => insertFrame (st.frame i) pairs) []

def inspectScope (st : Store) (e : Scope) : String :=
  "Environment \x7b bindings: " ++ toString (st.frame e.frame).size ++ ", depth: "
    ++ toString e.depth ++ " \x7d"

end Store

end SmallScheme
