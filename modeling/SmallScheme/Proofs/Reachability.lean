import Mathlib.Tactic.Lemma
import SmallScheme.Store

namespace SmallScheme

namespace Value

mutual

def frames : Value → List Nat
  | list vs => framesAll vs
  | closure _ _ body e => e.chain ++ framesAll body
  | _ => []

def framesAll : List Value → List Nat
  | [] => []
  | v :: vs => frames v ++ framesAll vs

end

end Value

namespace Store

inductive Reaches (st : Store) (roots : List Nat) : Nat → Prop
  | root {i : Nat} : i ∈ roots → Reaches st roots i
  | bound {i j : Nat} {s : Symbol} {v : Value} :
      Reaches st roots i → (st.frame i).get? s = some v → j ∈ v.frames → Reaches st roots j

lemma Reaches.closed {st : Store} {roots : List Nat} {P : Nat → Prop} {i : Nat}
    (h : st.Reaches roots i) (hroots : ∀ i ∈ roots, P i)
    (hbound : ∀ i s v, P i → (st.frame i).get? s = some v → ∀ j ∈ v.frames, P j) : P i := by
  induction h with
  | root hi => exact hroots _ hi
  | bound _ hv hj ih => exact hbound _ _ _ ih hv _ hj

@[simp]
lemma size_put (st : Store) (i : Nat) (s : Symbol) (v : Value) :
    (st.put i s v).frames.size = st.frames.size := by
  simp [put]

@[simp]
lemma size_enter (st : Store) (outer : List Nat) :
    (st.enter outer).2.frames.size = st.frames.size + 1 := by
  simp [enter]

lemma frame_put (st : Store) (i k : Nat) (s : Symbol) (v : Value) :
    (st.put i s v).frame k =
      if i = k ∧ i < st.frames.size then (st.frame i).put s v else st.frame k := by
  simp only [put, frame, Array.getD_eq_getD_getElem?, Array.getElem?_modify]
  by_cases hk : i = k
  · subst hk
    by_cases hi : i < st.frames.size
    · simp [hi]
    · simp [hi]
  · simp [hk]

@[simp]
lemma frame_enter (st : Store) (outer : List Nat) (k : Nat) :
    (st.enter outer).2.frame k = st.frame k := by
  -- A frame that was not made yet reads as the empty frame that it is when made.
  simp only [enter, frame, Array.getD_eq_getD_getElem?, Array.getElem?_push]
  by_cases hk : k = st.frames.size
  · simp [hk]
  · simp [hk]

end Store

end SmallScheme
