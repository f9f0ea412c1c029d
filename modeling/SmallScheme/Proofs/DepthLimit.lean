import Mathlib.Tactic.Lemma
import SmallScheme.Eval

/-! More room changes nothing but the error of having none left: two runs of one program at
different depths agree, or the deeper one stops early with that error. -/

namespace SmallScheme

namespace World

def Shows (w : World) (text : String) (w' : World) : Prop :=
  w'.output = w.output ++ text

def Extends (w w' : World) : Prop :=
  ∃ text, w.Shows text w'

lemma Extends.refl (w : World) : w.Extends w :=
  ⟨"", by simp [Shows]⟩

lemma Extends.of_output_eq {w w' : World} (h : w'.output = w.output) : w.Extends w' :=
  ⟨"", by simp [Shows, h]⟩

lemma Extends.trans {w₁ w₂ w₃ : World} (h : w₁.Extends w₂) (h' : w₂.Extends w₃) :
    w₁.Extends w₃ := by
  obtain ⟨text, ht⟩ := h
  obtain ⟨more, hm⟩ := h'
  refine ⟨text ++ more, ?_⟩
  unfold Shows at *
  rw [hm, ht, String.append_assoc]

end World

namespace Run

variable {α β : Type}

def after (m : Run α) (w : World) : World :=
  match m w with
  | .ok _ w' => w'
  | .error _ w' => w'

def Grows (m : Run α) : Prop :=
  ∀ w : World, w.Extends (m.after w)

lemma Grows.bind {m : Run α} {f : α → Run β} (hm : Grows m) (hf : ∀ a, Grows (f a)) :
    Grows (m >>= f) := by
  intro w
  have hw := hm w
  change w.Extends (after (EStateM.bind m f) w)
  simp only [after, EStateM.bind] at hw ⊢
  cases h : m w with
  | ok a u =>
    rw [h] at hw
    exact hw.trans (hf a u)
  | error e u =>
    rw [h] at hw
    exact hw

lemma grows_pure (a : α) : Grows (pure a : Run α) :=
  fun w => .refl w

lemma grows_throw (e : Error) : Grows (throw e : Run α) :=
  fun w => .refl w

lemma grows_get : Grows (get : Run World) :=
  fun w => .refl w

lemma grows_modify {f : World → World} (hf : ∀ w : World, w.Extends (f w)) :
    Grows (modify f : Run PUnit) :=
  hf

lemma grows_ofExcept (outcome : Except Error α) : Grows (ofExcept outcome) := by
  cases outcome with
  | ok a => exact grows_pure a
  | error e => exact grows_throw e

lemma grows_note (event : Event) : Grows (note event) :=
  fun _ => .of_output_eq rfl

lemma grows_lookup (e : Scope) (s : Symbol) : Grows (lookup e s) := by
  refine grows_get.bind fun w => ?_
  split
  · exact grows_pure _
  · exact grows_throw _

lemma grows_define (e : Scope) (s : Symbol) (v : Value) : Grows (define e s v) :=
  fun _ => .of_output_eq rfl

lemma grows_assign (e : Scope) (s : Symbol) (v : Value) : Grows (assign e s v) := by
  refine grows_get.bind fun w => ?_
  split
  · exact grows_modify fun w => .of_output_eq rfl
  · exact grows_throw _

lemma grows_newChild (e : Scope) : Grows (newChild e) :=
  fun _ => .of_output_eq rfl

lemma grows_newClosure (params : List Symbol) (body : List Value) (e : Scope) :
    Grows (newClosure params body e) :=
  fun _ => .of_output_eq rfl

lemma grows_write (text : String) : Grows (write text) := by
  refine grows_get.bind fun w => ?_
  split
  · refine (grows_throw _).bind fun _ => grows_get.bind fun w => ?_
    split
    · exact grows_throw _
    · exact grows_pure _
  · refine Grows.bind (grows_modify fun w => ?_) fun _ => grows_get.bind fun w => ?_
    · exact ⟨text, rfl⟩
    split
    · exact grows_throw _
    · exact grows_pure _

lemma after_get_bind (f : World → Run α) (w : World) :
    after (get >>= f) w = after (f w) w := rfl

lemma grows_callExternal (name : String) (slot : Nat) (args : List Value) :
    Grows (callExternal name slot args) := by
  intro w
  apply World.Extends.of_output_eq
  -- A call counts itself in the table it found, so the world is not rebuilt from parts.
  rw [callExternal, after_get_bind]
  split
  · rfl
  · next f _ =>
    change (after (ofExcept (f.function (f.calls + 1) args)) _).output = w.output
    cases f.function (f.calls + 1) args <;> rfl

def OutOfRoom (m : Run α) (w w₁ : World) : Prop :=
  ∃ trail, m w = .error (.evaluation .tooDeep trail) w₁

/-- `m` does what `m'` does, or it runs out of levels on the way, with nothing displayed that
`m'` does not display too. -/
structure Below (m m' : Run α) : Prop where
  agrees (w : World) : m w = m' w ∨ ∃ w₁, OutOfRoom m w w₁ ∧ w₁.Extends (m'.after w)
  grows : Grows m'

namespace Below

lemma refl {m : Run α} (hm : Grows m) : Below m m :=
  ⟨fun _ => .inl rfl, hm⟩

lemma bind {m m' : Run α} {f f' : α → Run β} (hm : Below m m')
    (hf : ∀ a, Below (f a) (f' a)) : Below (m >>= f) (m' >>= f') where
  agrees w := by
    change EStateM.bind m f w = EStateM.bind m' f' w ∨
      ∃ w₁, OutOfRoom (EStateM.bind m f) w w₁ ∧ w₁.Extends (after (EStateM.bind m' f') w)
    simp only [OutOfRoom, after, EStateM.bind]
    rcases hm.agrees w with h | ⟨w₁, ⟨trail, h⟩, hx⟩
    · rw [h]
      cases m' w with
      | ok a u => exact (hf a).agrees u
      | error e u => exact .inl rfl
    · rw [h]
      refine .inr ⟨w₁, ⟨trail, rfl⟩, ?_⟩
      unfold after at hx
      cases h' : m' w with
      | ok a u =>
        rw [h'] at hx
        exact hx.trans ((hf a).grows u)
      | error e u =>
        rw [h'] at hx
        exact hx
  grows := hm.grows.bind fun a => (hf a).grows

end Below

end Run

namespace Eval

open Run

lemma within_below {form : List Value} {m m' : Run Value} (h : Below m m') :
    Below (within form m) (within form m') where
  agrees w := by
    simp only [OutOfRoom, after, within]
    rcases h.agrees w with h | ⟨w₁, ⟨trail, h⟩, hx⟩
    · exact .inl (by rw [h])
    · refine .inr ⟨w₁, ⟨trail ++ [formText form], by rw [h]; rfl⟩, ?_⟩
      unfold after at hx
      cases h' : m' w <;> simpa only [h'] using hx
  grows w := by
    have hg := h.grows w
    unfold after within at *
    cases h' : m' w <;> simpa only [h'] using hg

def EvalBelow (run run' : Evaluator) : Prop :=
  ∀ x e, Below (run x e) (run' x e)

variable {inner inner' body body' : Evaluator}

lemma operands_below (hi : EvalBelow inner inner') (e : Scope) (xs : List Value) :
    Below (operands inner e xs) (operands inner' e xs) := by
  induction xs with
  | nil => exact .refl (grows_pure _)
  | cons x xs ih => exact (hi x e).bind fun v => ih.bind fun vs => .refl (grows_pure _)

lemma sequence_below (hb : EvalBelow body body') (e : Scope) (last : Value) (xs : List Value) :
    Below (sequence body e last xs) (sequence body' e last xs) := by
  induction xs generalizing last with
  | nil => exact .refl (grows_pure _)
  | cons x xs ih => exact (hb x e).bind fun v => ih v

lemma grows_callHost (p : HostProcedure) (args : List Value) : Grows (callHost p args) := by
  refine (grows_note _).bind fun _ => (grows_ofExcept _).bind fun _ => ?_
  split
  · exact grows_ofExcept _
  · exact (grows_write _).bind fun _ => grows_pure _
  · exact grows_callExternal _ _ _

lemma callClosure_below (hb : EvalBelow body body') (params : List Symbol)
    (forms : List Value) (e : Scope) (args : List Value) :
    Below (callClosure body params forms e args) (callClosure body' params forms e args) := by
  refine (Below.refl (grows_note _)).bind fun _ => ?_
  refine (Below.refl (grows_newChild _)).bind fun frame => ?_
  refine Below.bind (.refl (grows_modify fun w => ?_)) fun _ => sequence_below hb frame _ forms
  exact .of_output_eq rfl

lemma call_below (hb : EvalBelow body body') (procedure : Value) (args : List Value) :
    Below (call body procedure args) (call body' procedure args) := by
  cases procedure with
  | host p => exact .refl (grows_callHost p args)
  | closure _ params forms e => exact callClosure_below hb params forms e args
  | _ => exact .refl (grows_throw _)

lemma grows_evalLambda (form : List Value) (e : Scope) : Grows (evalLambda form e) := by
  unfold evalLambda
  split
  · exact grows_throw _
  · exact (grows_ofExcept _).bind fun params => grows_newClosure params _ e
  · exact grows_throw _
  · exact grows_throw _

lemma evalDefine_below (hi : EvalBelow inner inner') (form : List Value) (e : Scope) :
    Below (evalDefine inner form e) (evalDefine inner' form e) := by
  unfold evalDefine
  split
  · next s x =>
    refine (hi x e).bind fun v => .refl ?_
    exact (grows_note _).bind fun _ => (grows_define e s v).bind fun _ => grows_pure _
  · exact .refl (grows_throw _)
  · exact .refl (grows_throw _)

lemma evalAssignment_below (hi : EvalBelow inner inner') (form : List Value) (e : Scope) :
    Below (evalAssignment inner form e) (evalAssignment inner' form e) := by
  unfold evalAssignment
  split
  · next s x =>
    refine (Below.refl grows_get).bind fun w => ?_
    split
    · refine (hi x e).bind fun v => .refl ?_
      exact (grows_note _).bind fun _ => (grows_assign e s v).bind fun _ => grows_pure _
    · exact .refl (grows_throw _)
  · exact .refl (grows_throw _)
  · exact .refl (grows_throw _)

lemma branch_below (hi : EvalBelow inner inner') (test first : Value) (second : Option Value)
    (e : Scope) : Below (branch inner test first second e) (branch inner' test first second e) := by
  refine (hi test e).bind fun v => ?_
  split
  · exact hi first e
  · cases second with
    | none => exact .refl (grows_pure _)
    | some y => exact hi y e

lemma evalConditional_below (hi : EvalBelow inner inner') (form : List Value) (e : Scope) :
    Below (evalConditional inner form e) (evalConditional inner' form e) := by
  unfold evalConditional
  split
  · exact branch_below hi _ _ none e
  · exact branch_below hi _ _ (some _) e
  · exact .refl (grows_throw _)

lemma special_below (hi : EvalBelow inner inner') (s : SpecialForm) (form : List Value)
    (e : Scope) : Below (special s inner form e) (special s inner' form e) := by
  cases s with
  | lambda => exact .refl (grows_evalLambda form e)
  | define => exact evalDefine_below hi form e
  | conditional => exact evalConditional_below hi form e
  | assignment => exact evalAssignment_below hi form e

lemma evalCall_below (hi : EvalBelow inner inner') (hb : EvalBelow body body')
    (procedure : Value) (form args : List Value) (e : Scope) :
    Below (evalCall inner body procedure form args e)
      (evalCall inner' body' procedure form args e) := by
  have hcall : Below (operands inner e args >>= call body procedure)
      (operands inner' e args >>= call body' procedure) :=
    (operands_below hi e args).bind fun vs => call_below hb procedure vs
  unfold evalCall
  split
  · exact hcall
  · split
    · exact hcall
    · exact .refl (grows_throw _)
  · split
    · exact .refl (grows_pure _)
    · exact .refl (grows_throw _)

lemma level_below (hi : EvalBelow inner inner') (hb : EvalBelow body body') :
    EvalBelow (level inner body) (level inner' body') := by
  intro x e
  cases x with
  | symbol s => exact .refl (grows_lookup e s)
  | list form =>
    refine within_below ?_
    cases form with
    | nil => exact .refl (grows_throw _)
    | cons head args =>
      simp only [evalForm]
      cases SpecialForm.ofHead? head with
      | some s => exact special_below hi s (head :: args) e
      | none => exact (hi head e).bind fun p => evalCall_below hi hb p (head :: args) args e
  | _ => exact .refl (grows_pure _)

lemma eval_below {room room' : Nat} (h : room ≤ room') :
    EvalBelow (eval room) (eval room') := by
  induction room' using Nat.strongRecOn generalizing room with
  | ind room' ih =>
    cases room' with
    | zero =>
      obtain rfl := Nat.le_zero.1 h
      exact fun x e => .refl (grows_throw _)
    | succ n =>
      have hlevel : EvalBelow (eval (n + 1)) (eval (n + 1)) := by
        rw [eval_succ]
        exact level_below (ih n (by omega) (Nat.le_refl n))
          (ih (n - 1) (by omega) (Nat.le_refl _))
      cases room with
      | zero =>
        intro x e
        have hg := (hlevel x e).grows
        exact ⟨fun w => .inr ⟨w, ⟨[], rfl⟩, hg w⟩, hg⟩
      | succ m =>
        rw [eval_succ, eval_succ]
        exact level_below (ih n (by omega) (by omega)) (ih (n - 1) (by omega) (by omega))

end Eval

namespace Error

def evaluationText? : Error → Option String
  | .evaluation fault trail => some (fault.message ++ trailText trail)
  | _ => none

def ExceedsDepth (err : Error) : Prop :=
  ∃ rest, err.evaluationText? = some ("Evaluation depth limit exceeded" ++ rest)

lemma limitText_append (text : String) :
    "Evaluation depth limit exceeded (max: " ++ text
      = "Evaluation depth limit exceeded" ++ (" (max: " ++ text) := by
  rw [← String.append_assoc]
  congr 1

lemma exceedsDepth_tooDeep (trail : List String) : (evaluation .tooDeep trail).ExceedsDepth := by
  have hmessage : EvalFault.tooDeep.message =
      "Evaluation depth limit exceeded (max: " ++ toString depthLimit ++ ")" := rfl
  refine ⟨" (max: " ++ (toString depthLimit ++ (")" ++ trailText trail)), ?_⟩
  rw [evaluationText?, hmessage, String.append_assoc, String.append_assoc, limitText_append]

end Error

open Run in
/-- The depth at which an expression is evaluated shows only in the error of exceeding the limit,
and what was displayed before that error is displayed at any lesser depth as well. -/
theorem eval_depth_transparent {d' d : Nat} (h : d' ≤ d) (x : Value) (e : Scope) (w : World) :
    (Eval.eval (depthLimit - d') x e w = Eval.eval (depthLimit - d) x e w ∨
      ∃ err w₁, Eval.eval (depthLimit - d) x e w = .error err w₁ ∧ err.ExceedsDepth) ∧
    ∀ err w₁, Eval.eval (depthLimit - d) x e w = .error err w₁ → err.ExceedsDepth →
      ∃ text more, w.Shows text w₁ ∧
        w.Shows (text ++ more) (after (Eval.eval (depthLimit - d') x e) w) := by
  have hroom : depthLimit - d ≤ depthLimit - d' := by omega
  have hbelow := Eval.eval_below hroom x e
  have hself := Eval.eval_below (Nat.le_refl (depthLimit - d)) x e
  constructor
  · rcases hbelow.agrees w with heq | ⟨w₁, ⟨trail, herr⟩, -⟩
    · exact .inl heq.symm
    · exact .inr ⟨_, w₁, herr, Error.exceedsDepth_tooDeep trail⟩
  · intro err w₁ herr _
    obtain ⟨text, ht⟩ : w.Extends w₁ := by
      have hw := hself.grows w
      unfold after at hw
      simpa only [herr] using hw
    obtain ⟨more, hm⟩ : w₁.Extends (after (Eval.eval (depthLimit - d') x e) w) := by
      rcases hbelow.agrees w with heq | ⟨w₂, ⟨trail, herr'⟩, hx⟩
      · unfold after
        rw [← heq, herr]
        exact .refl w₁
      · rw [herr] at herr'
        cases herr'
        exact hx
    refine ⟨text, more, ht, ?_⟩
    unfold World.Shows at *
    rw [hm, ht, String.append_assoc]

def speaker : World :=
  { World.start .collecting with
    store := ⟨#[⟨[(⟨4, "say"⟩, .host ⟨"display", .atLeast 0, .display⟩)]⟩], 0⟩ }

def sayThenNest : Value :=
  -- `(if (say "a") #t ((#f)))`
  .list [.symbol ⟨2, "if"⟩, .list [.symbol ⟨4, "say"⟩, .string "a"], .bool true,
    .list [.list [.bool false]]]

open Run in
theorem eval_depth_transparent_display :
    0 ≤ 253 ∧ ∃ err w₁, Eval.eval (depthLimit - 253) sayThenNest ⟨0, []⟩ speaker = .error err w₁ ∧
      err.ExceedsDepth ∧ w₁.output = "a\n" ∧
      ∃ text more, speaker.Shows text w₁ ∧
        speaker.Shows (text ++ more)
          (after (Eval.eval (depthLimit - 0) sayThenNest ⟨0, []⟩) speaker) := by
  obtain ⟨trail, w₁, h, ho⟩ : ∃ trail w₁,
      Eval.eval (depthLimit - 253) sayThenNest ⟨0, []⟩ speaker
        = .error (.evaluation .tooDeep trail) w₁ ∧ w₁.output = "a\n" :=
    ⟨_, _, rfl, by decide⟩
  have he := Error.exceedsDepth_tooDeep trail
  exact ⟨by decide, _, w₁, h, he, ho,
    (eval_depth_transparent (by decide) sayThenNest ⟨0, []⟩ speaker).2 _ w₁ h he⟩

end SmallScheme
