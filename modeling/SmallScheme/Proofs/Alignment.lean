import Mathlib.Order.Basic
import SmallScheme.Error

/-! Two computations side by side. An index records what corresponds on the two sides; it only
grows, and computations are aligned if they end alike in states that correspond. -/

namespace SmallScheme

def mapError {V α : Type} (f : Error → Error) (m : EStateM Error V α) : EStateM Error V α := fun v =>
  match m v with
  | .ok a v => .ok a v
  | .error e v => .error (f e) v

structure Correspondence (κ V W : Type) where
  states : κ → V → W → Prop
  errors : Error → Error → Prop

namespace Correspondence

variable {κ V W α β γ δ : Type}

inductive Outcomes (c : Correspondence κ V W) (k : κ) (r : κ → α → β → Prop) :
    EStateM.Result Error V α → EStateM.Result Error W β → Prop
  | ok {a : α} {b : β} {v : V} {w : W} :
      r k a b → c.states k v w → Outcomes c k r (.ok a v) (.ok b w)
  | error {e e' : Error} {v : V} {w : W} :
      c.errors e e' → c.states k v w → Outcomes c k r (.error e v) (.error e' w)

def Aligned [LE κ] (c : Correspondence κ V W) (k : κ) (r : κ → α → β → Prop)
    (m : EStateM Error V α) (m' : EStateM Error W β) : Prop :=
  ∀ l, k ≤ l → ∀ v w, c.states l v w → ∃ l', l ≤ l' ∧ Outcomes c l' r (m v) (m' w)

variable [Preorder κ] {c : Correspondence κ V W} {k : κ} {r : κ → α → β → Prop}
  {q : κ → γ → δ → Prop} {m : EStateM Error V α} {m' : EStateM Error W β}

lemma Aligned.bind {f : α → EStateM Error V γ} {f' : β → EStateM Error W δ}
    (hm : c.Aligned k r m m') (hf : ∀ l, k ≤ l → ∀ a b, r l a b → c.Aligned l q (f a) (f' b)) :
    c.Aligned k q (m >>= f) (m' >>= f') := by
  intro l hkl v w hs
  obtain ⟨l', hl, ho⟩ := hm l hkl v w hs
  change ∃ l', l ≤ l' ∧ Outcomes c l' q (EStateM.bind m f v) (EStateM.bind m' f' w)
  unfold EStateM.bind
  generalize m v = result at ho
  generalize m' w = result' at ho
  cases ho with
  | ok hr hs' =>
    obtain ⟨l'', hl', ho'⟩ := hf l' (hkl.trans hl) _ _ hr l' le_rfl _ _ hs'
    exact ⟨l'', hl.trans hl', ho'⟩
  | error he hs' => exact ⟨l', hl, .error he hs'⟩

lemma Aligned.mapError {f f' : Error → Error} (hm : c.Aligned k r m m')
    (hf : ∀ e e', c.errors e e' → c.errors (f e) (f' e')) :
    c.Aligned k r (mapError f m) (mapError f' m') := by
  intro l hkl v w hs
  obtain ⟨l', hl, ho⟩ := hm l hkl v w hs
  refine ⟨l', hl, ?_⟩
  unfold SmallScheme.mapError
  generalize m v = result at ho
  generalize m' w = result' at ho
  cases ho with
  | ok hr hs' => exact .ok hr hs'
  | error he hs' => exact .error (hf _ _ he) hs'

lemma aligned_pure {a : α} {b : β} (h : ∀ l, k ≤ l → r l a b) :
    c.Aligned k r (pure a) (pure b) :=
  fun l hkl _ _ hs => ⟨l, le_rfl, .ok (h l hkl) hs⟩

lemma aligned_throw {e e' : Error} (h : c.errors e e') : c.Aligned k r (throw e) (throw e') :=
  fun l _ _ _ hs => ⟨l, le_rfl, .error h hs⟩

lemma aligned_get {f : V → EStateM Error V α} {f' : W → EStateM Error W β}
    (h : ∀ l, k ≤ l → ∀ v w, c.states l v w → c.Aligned l r (f v) (f' w)) :
    c.Aligned k r (get >>= f) (get >>= f') :=
  fun l hkl v w hs => h l hkl v w hs l le_rfl v w hs

lemma aligned_modify {f : V → V} {f' : W → W}
    (h : ∀ l, k ≤ l → ∀ v w, c.states l v w → c.states l (f v) (f' w)) :
    c.Aligned k (fun _ _ _ => True) (modify f : EStateM Error V PUnit)
      (modify f' : EStateM Error W PUnit) :=
  fun l hkl v w hs => ⟨l, le_rfl, .ok trivial (h l hkl v w hs)⟩

end Correspondence

end SmallScheme
