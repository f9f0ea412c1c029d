import SmallScheme.Proofs.DepthLimit
import SmallScheme.Proofs.Invariant

namespace SmallScheme

namespace Run

inductive Ending {α : Type} (P : World → Prop) (Q : α → Prop) (E : Error → Prop) :
    EStateM.Result Error World α → Prop
  | ok {a : α} {w : World} : Q a → P w → Ending P Q E (.ok a w)
  | error {err : Error} {w : World} : E err → P w → Ending P Q E (.error err w)

def Ensures {α : Type} (P : World → Prop) (Q : α → Prop) (E : Error → Prop) (m : Run α) : Prop :=
  ∀ w, P w → Ending P Q E (m w)

variable {α β : Type} {P : World → Prop} {Q : α → Prop} {R : β → Prop} {E : Error → Prop}

lemma Ensures.bind {m : Run α} {f : α → Run β} (hm : Ensures P Q E m)
    (hf : ∀ a, Q a → Ensures P R E (f a)) : Ensures P R E (m >>= f) := by
  intro w hw
  have hend := hm w hw
  change Ending P R E (EStateM.bind m f w)
  rw [EStateM.bind]
  generalize m w = result at hend
  cases hend with
  | ok ha hu => exact hf _ ha _ hu
  | error herr hu => exact .error herr hu

lemma ensures_pure {a : α} (h : Q a) : Ensures P Q E (pure a) :=
  fun _ hw => .ok h hw

lemma ensures_throw {err : Error} (h : E err) : Ensures P Q E (throw err) :=
  fun _ hw => .error h hw

lemma ensures_get {f : World → Run α} (h : ∀ w, P w → Ensures P Q E (f w)) :
    Ensures P Q E (get >>= f) :=
  fun w hw => h w hw w hw

lemma ensures_modify {f : World → World} (h : ∀ w, P w → P (f w)) :
    Ensures P (fun _ => True) E (modify f) :=
  fun w hw => .ok trivial (h w hw)

lemma ensures_ofExcept {outcome : Except Error α} (hok : ∀ a, outcome = .ok a → Q a)
    (herror : ∀ err, outcome = .error err → E err) : Ensures P Q E (ofExcept outcome) := by
  cases outcome with
  | ok a => exact ensures_pure (hok a rfl)
  | error err => exact ensures_throw (herror err rfl)

structure Upheld (P : World → Prop) (Q : Value → Prop) (E : Error → Prop) : Prop where
  noted {w : World} (event : Event) : P w → P { w with events := w.events.push event }
  written {w : World} (text : String) : P w → P { w with output := w.output ++ text }
  called {w : World} {slot : Nat} {f : External} : P w → w.externals[slot]? = some f →
    P { w with externals := w.externals.setIfInBounds slot { f with calls := f.calls + 1 } }
  number (x : Float) : Q (.number x)
  bool (b : Bool) : Q (.bool b)
  unspecified : Q .unspecified
  plain {err : Error} : err.evaluationText? = none → E err
  answers {w : World} {f : External} {calls : Nat} {args : List Value} {v : Value} : P w →
    f ∈ w.externals → (∀ a ∈ args, Q a) → f.function calls args = .ok v → Q v
  refuses {w : World} {f : External} {calls : Nat} {args : List Value} {err : Error} : P w →
    f ∈ w.externals → (∀ a ∈ args, Q a) → f.function calls args = .error err → E err

end Run

namespace Builtin

variable {args : List Value} {err : Error}

lemma evaluationText?_of_reduce {op : Float → Float → Float} {alone : Float → Float}
    (h : reduce op alone args = .error err) : err.evaluationText? = none := by
  rw [reduce.eq_def] at h
  split at h
  · cases h
  · split at h
    · cases h
    · obtain rfl := Except.error.inj h
      rfl

lemma evaluationText?_of_numbers {name : String} (h : numbers name args = .error err) :
    err.evaluationText? = none := by
  induction args with
  | nil => cases h
  | cons v vs ih =>
    rw [numbers] at h
    split at h
    · obtain rfl := Except.error.inj h
      rfl
    · cases hvs : numbers name vs with
      | ok xs =>
        rw [hvs] at h
        cases h
      | error err' =>
        rw [hvs] at h
        obtain rfl := Except.error.inj h
        exact ih hvs

lemma evaluationText?_of_compare {name : String} {r : Float → Float → Bool}
    (h : compare name r args = .error err) : err.evaluationText? = none := by
  rw [compare] at h
  cases hxs : numbers name args with
  | ok xs =>
    rw [hxs] at h
    cases h
  | error err' =>
    rw [hxs] at h
    obtain rfl := Except.error.inj h
    exact evaluationText?_of_numbers hxs

lemma evaluationText?_of_apply {b : Builtin} (h : b.apply args = .error err) :
    err.evaluationText? = none := by
  cases b with
  | add => cases h
  | mul => cases h
  | equal => cases h
  | sub => exact evaluationText?_of_reduce h
  | div => exact evaluationText?_of_reduce h
  | not =>
    rw [apply, negation.eq_def] at h
    split at h
    · cases h
    · cases h
    · obtain rfl := Except.error.inj h
      rfl
  | _ => exact evaluationText?_of_compare h

end Builtin

namespace Run

variable {P : World → Prop} {Q : Value → Prop} {E : Error → Prop} (h : Upheld P Q E)
include h

lemma Upheld.note (event : Event) : Ensures P (fun _ => True) E (Run.note event) :=
  ensures_modify fun _ hw => h.noted event hw

lemma Upheld.write (text : String) : Ensures P (fun _ => True) E (Run.write text) := by
  intro w hw
  have hwritten := h.written text hw
  rw [write_apply]
  cases w.sink.writeFault with
  | some fault => exact .error (h.plain rfl) hw
  | none =>
    cases w.sink.flushFault with
    | some fault => exact .error (h.plain rfl) hwritten
    | none => exact .ok trivial hwritten

lemma Upheld.callExternal (name : String) (slot : Nat) {args : List Value}
    (hargs : ∀ a ∈ args, Q a) : Ensures P Q E (Run.callExternal name slot args) := by
  intro w hw
  rw [Run.callExternal_apply]
  cases hf : w.externals[slot]? with
  | none => exact .error (h.plain rfl) hw
  | some f =>
    have hmem := Array.mem_of_getElem? hf
    refine ensures_ofExcept (fun v hv => ?_) (fun err herr => ?_) _ (h.called hw hf)
    · exact h.answers hw hmem hargs hv
    · exact h.refuses hw hmem hargs herr

lemma Upheld.callHost (p : HostProcedure) {args : List Value} (hargs : ∀ a ∈ args, Q a) :
    Ensures P Q E (Eval.callHost p args) := by
  have hcheck : Ensures P (fun _ => True) E (ofExcept (p.arity.check args.length)) := by
    refine ensures_ofExcept (fun _ _ => trivial) fun err herr => ?_
    rw [Arity.check] at herr
    split at herr
    · obtain rfl := Except.error.inj herr
      exact h.plain rfl
    · cases herr
  refine (h.note _).bind fun _ _ => hcheck.bind fun _ _ => ?_
  cases p.code with
  | builtin b =>
    refine ensures_ofExcept (fun v hv => ?_) (fun err herr => ?_)
    · exact Builtin.keeps h.number h.bool hargs hv
    · exact h.plain (Builtin.evaluationText?_of_apply herr)
  | display => exact (h.write _).bind fun _ _ => ensures_pure h.unspecified
  | external slot => exact h.callExternal p.name slot hargs

end Run

end SmallScheme
