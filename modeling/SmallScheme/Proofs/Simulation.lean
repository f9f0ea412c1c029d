import Mathlib.Data.List.Forall2
import SmallScheme.Proofs.Machine

/-! Two machines whose operations go alike evaluate alike. What is alike may differ between the
regions that code belongs to, and grows along an index while code runs. -/

namespace SmallScheme

namespace Error

inductive Kind where
  | read
  | unbound
  | defineTarget
  | assignTarget
  | parameters
  | conditional
  | arity
  | notApplicable
  | wrongType
  | evaluation
  | io
deriving DecidableEq

def kind : Error → Kind
  | read _ => .read
  | unbound _ => .unbound
  | defineTarget _ => .defineTarget
  | assignTarget _ => .assignTarget
  | parameters _ => .parameters
  | conditional _ => .conditional
  | arity .. => .arity
  | notApplicable _ => .notApplicable
  | wrongType .. => .wrongType
  | evaluation .. => .evaluation
  | io _ => .io

@[simp]
lemma kind_within (text : String) (e : Error) : (e.within text).kind = e.kind := by
  cases e <;> rfl

end Error

namespace Shape

variable {σ υ : Type}

def IsConstant : Shape σ υ → Prop
  | symbol _ | list _ => False
  | _ => True

def IsInert : Shape σ υ → Prop
  | host _ | closure .. | bool _ => False
  | _ => True

lemma IsConstant.cases {s : Shape σ υ} (h : s.IsConstant) :
    (∃ p, s = host p) ∨ (∃ params body e, s = closure params body e) ∨ (∃ b, s = bool b) ∨
      s = other := by
  cases s with
  | symbol => exact h.elim
  | list => exact h.elim
  | _ => simp

lemma IsInert.cases {s : Shape σ υ} (h : s.IsInert) :
    (∃ x, s = symbol x) ∨ (∃ vs, s = list vs) ∨ s = other := by
  cases s with
  | host => exact h.elim
  | closure => exact h.elim
  | bool => exact h.elim
  | _ => simp

end Shape

section Shapes

variable {σ υ σ' υ' : Type}

inductive CodeShapes (names : σ → σ' → Prop) (code : υ → υ' → Prop)
    (lambdas : List υ → List υ' → Prop) (constants : Prop) : Shape σ υ → Shape σ' υ' → Prop
  | symbol {s : σ} {s' : σ'} : names s s' → CodeShapes names code lambdas constants (.symbol s)
      (.symbol s')
  | list {form : List υ} {form' : List υ'} : List.Forall₂ code form form' →
      CodeShapes names code lambdas constants (.list form) (.list form')
  | lambda {form : List υ} {form' : List υ'} : lambdas form form' →
      CodeShapes names code lambdas constants (.list form) (.list form')
  | constant {s : Shape σ υ} {s' : Shape σ' υ'} : s.IsConstant → s'.IsConstant → constants →
      CodeShapes names code lambdas constants s s'

inductive ValueShapes
    (closures : List σ → List υ → Scope → List σ' → List υ' → Scope → Prop) :
    Shape σ υ → Shape σ' υ' → Prop
  | bool (b : Bool) : ValueShapes closures (.bool b) (.bool b)
  | host (p : HostProcedure) : ValueShapes closures (.host p) (.host p)
  | closure {params : List σ} {body : List υ} {e : Scope} {params' : List σ'} {body' : List υ'}
      {e' : Scope} : closures params body e params' body' e' →
      ValueShapes closures (.closure params body e) (.closure params' body' e')
  | inert {s : Shape σ υ} {s' : Shape σ' υ'} : s.IsInert → s'.IsInert →
      ValueShapes closures s s'

end Shapes

lemma Machine.special?_congr {σ υ ω : Type} (M : Machine σ υ ω) {s s' : σ} (h : s = s') :
    M.special? s = M.special? s' := by
  rw [h]

structure Simulation {σ υ ω σ' υ' ω' : Type} (M : Machine σ υ ω) (M' : Machine σ' υ' ω')
    (κ ρ : Type) [Preorder κ] where
  runs : Correspondence κ ω ω'
  texts : String → String → Prop
  names : ρ → σ → σ' → Prop
  values : κ → υ → υ' → Prop
  code : κ → ρ → υ → υ' → Prop
  scopes : κ → ρ → Scope → Scope → Prop
  errors_refl (err : Error) : runs.errors err err
  errors_text {t t' : String} (f : String → Error) : (∀ t t', (f t).kind = (f t').kind) →
    texts t t' → runs.errors (f t) (f t')
  errors_within {t t' : String} {err err' : Error} : texts t t' → runs.errors err err' →
    runs.errors (err.within t) (err'.within t')
  text_name {r : ρ} {s : σ} {s' : σ'} : names r s s' → texts (M.name s) (M'.name s')
  text_value {k : κ} {v : υ} {v' : υ'} : values k v v' → texts (M.written v) (M'.written v')
  text_code {k : κ} {r : ρ} {x : υ} {x' : υ'} : code k r x x' → texts (M.written x) (M'.written x')
  same_eq {r : ρ} {s t : σ} {s' t' : σ'} : names r s s' → names r t t' → M.same s t = M'.same s' t'
  special_eq {r : ρ} {s : σ} {s' : σ'} : names r s s' → M.special? s = M'.special? s'
  values_mono {k l : κ} {v : υ} {v' : υ'} : k ≤ l → values k v v' → values l v v'
  code_mono {k l : κ} {r : ρ} {x : υ} {x' : υ'} : k ≤ l → code k r x x' → code l r x x'
  scopes_mono {k l : κ} {r : ρ} {e e' : Scope} : k ≤ l → scopes k r e e' → scopes l r e e'
  unspecified (k : κ) : values k M.unspecified M'.unspecified
  -- The parts of a lambda form may be alike in another region than the one it stands in, if the
  -- closure is. As the parameters of another lambda form it is refused on both sides.
  code_shapes {k : κ} {r : ρ} {x : υ} {x' : υ'} : code k r x x' →
    CodeShapes (names r) (code k r)
      (fun form form' =>
        (form.head?.bind M.head? = some .lambda ∧ form'.head?.bind M'.head? = some .lambda) ∧
        (∃ err err', M.parameters [] form = .error err ∧ M'.parameters [] form' = .error err' ∧
          runs.errors err err') ∧
        ∃ q, List.Forall₂ (code k q) form form' ∧
          ∀ {e e' head x params body body' ps ps'}, scopes k r e e' → form = head :: x :: body →
            M.shape x = .list params → M.parameters [] params = .ok ps →
            List.Forall₂ (names q) ps ps' → List.Forall₂ (code k q) body body' →
            runs.Aligned k values (M.newClosure ps body e) (M'.newClosure ps' body' e'))
      (values k x x') (M.shape x) (M'.shape x')
  value_shapes {k : κ} {v : υ} {v' : υ'} : values k v v' →
    ValueShapes
      (fun params body e params' body' e' =>
        params.length = params'.length ∧
        ∀ {args args'}, List.Forall₂ (values k) args args' → params.length = args.length →
          ∃ r, List.Forall₂ (code k r) body body' ∧
            runs.Aligned k (fun l => scopes l r) (M.enter e params args)
              (M'.enter e' params' args'))
      (M.shape v) (M'.shape v')
  lookup {k : κ} {r : ρ} {e e' : Scope} {s : σ} {s' : σ'} : scopes k r e e' → names r s s' →
    runs.Aligned k values (M.lookup e s) (M'.lookup e' s')
  isBound {k : κ} {r : ρ} {e e' : Scope} {s : σ} {s' : σ'} : scopes k r e e' → names r s s' →
    runs.Aligned k (fun _ => Eq) (M.isBound e s) (M'.isBound e' s')
  define {k : κ} {r : ρ} {e e' : Scope} {s : σ} {s' : σ'} {v : υ} {v' : υ'} : scopes k r e e' →
    names r s s' → values k v v' →
    runs.Aligned k (fun _ _ _ => True) (M.define e s v) (M'.define e' s' v')
  assign {k : κ} {r : ρ} {e e' : Scope} {s : σ} {s' : σ'} {v : υ} {v' : υ'} : scopes k r e e' →
    names r s s' → values k v v' →
    runs.Aligned k (fun _ _ _ => True) (M.assign e s v) (M'.assign e' s' v')
  newClosure {k : κ} {r : ρ} {e e' : Scope} {xs : List υ} {params : List σ} {params' : List σ'}
    {body : List υ} {body' : List υ'} : scopes k r e e' → M.parameters [] xs = .ok params →
    body ≠ [] → List.Forall₂ (names r) params params' → List.Forall₂ (code k r) body body' →
    runs.Aligned k values (M.newClosure params body e) (M'.newClosure params' body' e')
  callHost {k : κ} (p : HostProcedure) {args : List υ} {args' : List υ'} :
    List.Forall₂ (values k) args args' →
    runs.Aligned k values (M.callHost p args) (M'.callHost p args')

namespace Simulation

open Correspondence List

variable {σ υ ω σ' υ' ω' κ ρ : Type} [Preorder κ] {M : Machine σ υ ω} {M' : Machine σ' υ' ω'}
  (S : Simulation M M' κ ρ) {k l : κ} {r : ρ} {e e' : Scope} {t t' : String}

def Respects (run : M.Evaluator) (run' : M'.Evaluator) : Prop :=
  ∀ {k r x x' e e'}, S.code k r x x' → S.scopes k r e e' →
    S.runs.Aligned k S.values (run x e) (run' x' e')

variable {S} {inner body : M.Evaluator} {inner' body' : M'.Evaluator}

lemma forms_mono {form : List υ} {form' : List υ'} (h : Forall₂ (S.code k r) form form')
    (hkl : k ≤ l) : Forall₂ (S.code l r) form form' :=
  h.imp fun _ _ => S.code_mono hkl

lemma throw_text {α β : Type} {q : κ → α → β → Prop} (f : String → Error)
    (hf : ∀ t t', (f t).kind = (f t').kind) (h : S.texts t t') :
    S.runs.Aligned k q (throw (f t)) (throw (f t')) :=
  aligned_throw (S.errors_text f hf h)

lemma operands_aligned (hi : S.Respects inner inner') {xs : List υ} {xs' : List υ'}
    (h : Forall₂ (S.code k r) xs xs') (he : S.scopes k r e e') :
    S.runs.Aligned k (fun l vs vs' => vs.length = xs.length ∧ Forall₂ (S.values l) vs vs')
      (M.operands inner e xs) (M'.operands inner' e' xs') := by
  induction xs generalizing k xs' with
  | nil =>
    cases h
    exact aligned_pure fun _ _ => ⟨rfl, .nil⟩
  | cons x xs ih =>
    cases h with
    | cons hx hxs =>
      refine (hi hx he).bind fun l hkl v v' hv => ?_
      refine (ih (forms_mono hxs hkl) (S.scopes_mono hkl he)).bind fun m hlm vs vs' hvs => ?_
      refine aligned_pure fun n hmn => ⟨congrArg (· + 1) hvs.1, ?_⟩
      exact .cons (S.values_mono (hlm.trans hmn) hv) (hvs.2.imp fun _ _ => S.values_mono hmn)

lemma sequence_aligned (hb : S.Respects body body') {xs : List υ} {xs' : List υ'}
    (h : Forall₂ (S.code k r) xs xs') (he : S.scopes k r e e') {last : υ} {last' : υ'}
    (hl : S.values k last last') :
    S.runs.Aligned k S.values (M.sequence body e last xs) (M'.sequence body' e' last' xs') := by
  induction xs generalizing k xs' last last' with
  | nil =>
    cases h
    exact aligned_pure fun _ hkl => S.values_mono hkl hl
  | cons x xs ih =>
    cases h with
    | cons hx hxs =>
      refine (hb hx he).bind fun l hkl v v' hv => ?_
      exact ih (forms_mono hxs hkl) (S.scopes_mono hkl he) hv

def Fits (M : Machine σ υ ω) (p : υ) (args : List υ) : Prop :=
  ∀ params body e, M.shape p = .closure params body e → params.length = args.length

lemma call_aligned (hb : S.Respects body body') {p : υ} {p' : υ'} (hp : S.values k p p')
    {args : List υ} {args' : List υ'} (h : Forall₂ (S.values k) args args')
    (hfits : Fits M p args) :
    S.runs.Aligned k S.values (M.call body p args) (M'.call body' p' args') := by
  have hother := throw_text (S := S) (k := k) (q := S.values) .notApplicable (fun _ _ => rfl)
    (S.text_value hp)
  have hshapes := S.value_shapes hp
  unfold Machine.call
  unfold Fits at hfits
  generalize M.shape p = shape at hshapes hfits
  generalize M'.shape p' = shape' at hshapes
  cases hshapes with
  | bool b => exact hother
  | host p => exact S.callHost p h
  | closure hclosures =>
    obtain ⟨r, hbody, henter⟩ := hclosures.2 h (hfits _ _ _ rfl)
    refine henter.bind fun l hkl frame frame' hframe => ?_
    exact sequence_aligned hb (forms_mono hbody hkl) hframe (S.unspecified l)
  | inert hs hs' =>
    rcases hs.cases with ⟨_, rfl⟩ | ⟨_, rfl⟩ | rfl <;>
      rcases hs'.cases with ⟨_, rfl⟩ | ⟨_, rfl⟩ | rfl <;> exact hother

lemma any_same_eq {seen : List σ} {seen' : List σ'} (h : Forall₂ (S.names r) seen seen') {s : σ}
    {s' : σ'} (hs : S.names r s s') : seen.any (M.same · s) = seen'.any (M'.same · s') := by
  induction h with
  | nil => rfl
  | cons hn _ ih => rw [List.any_cons, List.any_cons, S.same_eq hn hs, ih]

inductive ParametersAlike (S : Simulation M M' κ ρ) (r : ρ) :
    Except Error (List σ) → Except Error (List σ') → Prop
  | ok {params : List σ} {params' : List σ'} : Forall₂ (S.names r) params params' →
      ParametersAlike S r (.ok params) (.ok params')
  | error {err err' : Error} : S.runs.errors err err' → ParametersAlike S r (.error err) (.error err')

lemma parameters_alike {xs : List υ} {xs' : List υ'} (h : Forall₂ (S.code k r) xs xs')
    {seen : List σ} {seen' : List σ'} (hseen : Forall₂ (S.names r) seen seen') :
    ParametersAlike S r (M.parameters seen xs) (M'.parameters seen' xs') := by
  induction h generalizing seen seen' with
  | nil => exact .ok (List.rel_reverse hseen)
  | @cons x x' xs xs' hx _ ih =>
    have hother : ParametersAlike S r (.error (.parameters (.notSymbol (M.written x))))
        (.error (.parameters (.notSymbol (M'.written x')))) :=
      .error (S.errors_text (.parameters ∘ .notSymbol) (fun _ _ => rfl) (S.text_code hx))
    have hshapes := S.code_shapes hx
    simp only [Machine.parameters]
    generalize M.shape x = shape at hshapes
    generalize M'.shape x' = shape' at hshapes
    cases hshapes with
    | symbol hs =>
      simp only [any_same_eq hseen hs]
      split
      · exact .error (S.errors_text (.parameters ∘ .repeated) (fun _ _ => rfl) (S.text_name hs))
      · exact ih (.cons hs hseen)
    | list _ => exact hother
    | lambda _ => exact hother
    | constant hs hs' =>
      rcases hs.cases with ⟨_, rfl⟩ | ⟨_, _, _, rfl⟩ | ⟨_, rfl⟩ | rfl <;>
        rcases hs'.cases with ⟨_, rfl⟩ | ⟨_, _, _, rfl⟩ | ⟨_, rfl⟩ | rfl <;> exact hother

lemma notTwo_errors {form : List υ} {form' : List υ'} (hlen : form.length = form'.length)
    (ht : S.texts t t') : S.runs.errors (Machine.notTwo t form) (Machine.notTwo t' form') := by
  unfold Machine.notTwo
  rw [hlen]
  exact S.errors_text (fun t => .arity 2 (form'.length - 1) (some t)) (fun _ _ => rfl) ht

lemma makeClosure_aligned {params body : List υ} {params' body' : List υ'}
    (h : Forall₂ (S.code k r) params params')
    (hnew : ∀ {ps ps'}, M.parameters [] params = .ok ps → Forall₂ (S.names r) ps ps' →
      S.runs.Aligned k S.values (M.newClosure ps body e) (M'.newClosure ps' body' e')) :
    S.runs.Aligned k S.values (M.makeClosure params body e) (M'.makeClosure params' body' e') := by
  have halike := parameters_alike h .nil
  unfold Machine.makeClosure
  generalize hp : M.parameters [] params = result at halike
  generalize M'.parameters [] params' = result' at halike
  cases halike with
  | ok hps => exact hnew hp hps
  | error herr => exact aligned_throw herr

lemma evalLambda_aligned {form : List υ} {form' : List υ'}
    (h : Forall₂ (S.code k r) form form') (ht : S.texts t t')
    (hnew : ∀ {head x params body body' ps ps'}, form = head :: x :: body →
      M.shape x = .list params → M.parameters [] params = .ok ps → body ≠ [] →
      Forall₂ (S.names r) ps ps' → Forall₂ (S.code k r) body body' →
      S.runs.Aligned k S.values (M.newClosure ps body e) (M'.newClosure ps' body' e')) :
    S.runs.Aligned k S.values (M.evalLambda t form e) (M'.evalLambda t' form' e') := by
  -- The parts of the form are alike in the region `r`; the closure may be made in another.
  have hshort : S.runs.Aligned k S.values (throw (Machine.notTwo t form))
      (throw (Machine.notTwo t' form')) := aligned_throw (notTwo_errors h.length_eq ht)
  match h with
  | .nil => exact hshort
  | .cons _ .nil => exact hshort
  | .cons _ (.cons (a := x) (b := x') hx hbody) =>
    have hother := throw_text (S := S) (k := k) (q := S.values) (.parameters ∘ .notList)
      (fun _ _ => rfl) (S.text_code hx)
    have hshapes := S.code_shapes hx
    simp only [Machine.evalLambda]
    generalize hs : M.shape x = shape at hshapes
    generalize M'.shape x' = shape' at hshapes
    cases hshapes with
    | symbol _ => exact hother
    | list hparams =>
      cases hbody with
      | nil => exact hshort
      | cons hx hbody =>
        refine makeClosure_aligned hparams fun hp hps => ?_
        exact hnew rfl hs hp (List.cons_ne_nil _ _) hps (.cons hx hbody)
    | lambda hlambdas =>
      obtain ⟨-, ⟨err, err', hp, hp', herr⟩, -⟩ := hlambdas
      cases hbody with
      | nil => exact hshort
      | cons _ _ =>
        simp only [Machine.makeClosure, hp, hp']
        exact aligned_throw herr
    | constant hs hs' =>
      rcases hs.cases with ⟨_, rfl⟩ | ⟨_, _, _, rfl⟩ | ⟨_, rfl⟩ | rfl <;>
        rcases hs'.cases with ⟨_, rfl⟩ | ⟨_, _, _, rfl⟩ | ⟨_, rfl⟩ | rfl <;> exact hother

lemma withTarget_aligned {form : List υ} {form' : List υ'}
    (h : Forall₂ (S.code k r) form form') (ht : S.texts t t') (fault : String → Error)
    (hfault : ∀ t t', (fault t).kind = (fault t').kind) {act : σ → υ → EStateM Error ω υ}
    {act' : σ' → υ' → EStateM Error ω' υ'}
    (hact : ∀ {s s' x x'}, S.names r s s' → S.code k r x x' →
      S.runs.Aligned k S.values (act s x) (act' s' x')) :
    S.runs.Aligned k S.values (M.withTarget fault act t form) (M'.withTarget fault act' t' form') := by
  have hshort : S.runs.Aligned k S.values (throw (Machine.notTwo t form))
      (throw (Machine.notTwo t' form')) := aligned_throw (notTwo_errors h.length_eq ht)
  match h with
  | .nil => exact hshort
  | .cons _ .nil => exact hshort
  | .cons _ (.cons _ .nil) => exact hshort
  | .cons _ (.cons _ (.cons _ (.cons _ _))) => exact hshort
  | .cons _ (.cons (a := x) (b := x') hx (.cons hy .nil)) =>
    have hother := throw_text (S := S) (k := k) (q := S.values) fault hfault (S.text_code hx)
    have hshapes := S.code_shapes hx
    simp only [Machine.withTarget]
    generalize M.shape x = shape at hshapes
    generalize M'.shape x' = shape' at hshapes
    cases hshapes with
    | symbol hs => exact hact hs hy
    | list _ => exact hother
    | lambda _ => exact hother
    | constant hs hs' =>
      rcases hs.cases with ⟨_, rfl⟩ | ⟨_, _, _, rfl⟩ | ⟨_, rfl⟩ | rfl <;>
        rcases hs'.cases with ⟨_, rfl⟩ | ⟨_, _, _, rfl⟩ | ⟨_, rfl⟩ | rfl <;> exact hother

lemma evalDefine_aligned (hi : S.Respects inner inner') {form : List υ} {form' : List υ'}
    (h : Forall₂ (S.code k r) form form') (ht : S.texts t t') (he : S.scopes k r e e') :
    S.runs.Aligned k S.values (M.evalDefine inner e t form) (M'.evalDefine inner' e' t' form') := by
  refine withTarget_aligned h ht _ (fun _ _ => rfl) fun hs hx => ?_
  refine (hi hx he).bind fun l hkl v v' hv => ?_
  refine (S.define (S.scopes_mono hkl he) hs hv).bind fun m _ _ _ _ => ?_
  exact aligned_pure fun n _ => S.unspecified n

lemma evalAssignment_aligned (hi : S.Respects inner inner') {form : List υ} {form' : List υ'}
    (h : Forall₂ (S.code k r) form form') (ht : S.texts t t') (he : S.scopes k r e e') :
    S.runs.Aligned k S.values (M.evalAssignment inner e t form)
      (M'.evalAssignment inner' e' t' form') := by
  refine withTarget_aligned h ht _ (fun _ _ => rfl) fun hs hx => ?_
  refine (S.isBound he hs).bind fun l hkl b b' hb => ?_
  subst hb
  split
  · refine (hi (S.code_mono hkl hx) (S.scopes_mono hkl he)).bind fun m hlm v v' hv => ?_
    refine (S.assign (S.scopes_mono (hkl.trans hlm) he) hs hv).bind fun n _ _ _ _ => ?_
    exact aligned_pure fun n _ => S.unspecified n
  · exact throw_text .unbound (fun _ _ => rfl) (S.text_name hs)

lemma branch_aligned (hi : S.Respects inner inner') {test first : υ} {test' first' : υ'}
    {second : Option υ} {second' : Option υ'} (ht : S.code k r test test')
    (hf : S.code k r first first') (hs : Option.Rel (S.code k r) second second')
    (he : S.scopes k r e e') :
    S.runs.Aligned k S.values (M.branch inner test first second e)
      (M'.branch inner' test' first' second' e') := by
  refine (hi ht he).bind fun l hkl v v' hv => ?_
  have hfirst := hi (S.code_mono hkl hf) (S.scopes_mono hkl he)
  have hsecond : S.runs.Aligned l S.values (M.alternative inner e second)
      (M'.alternative inner' e' second') := by
    cases hs with
    | some hx => exact hi (S.code_mono hkl hx) (S.scopes_mono hkl he)
    | none => exact aligned_pure fun n _ => S.unspecified n
  have hshapes := S.value_shapes hv
  generalize M.shape v = shape at hshapes
  generalize M'.shape v' = shape' at hshapes
  cases hshapes with
  | bool b =>
    cases b with
    | true => exact hfirst
    | false => exact hsecond
  | host _ => exact hsecond
  | closure _ => exact hsecond
  | inert hs hs' =>
    rcases hs.cases with ⟨_, rfl⟩ | ⟨_, rfl⟩ | rfl <;>
      rcases hs'.cases with ⟨_, rfl⟩ | ⟨_, rfl⟩ | rfl <;> exact hsecond

lemma evalConditional_aligned (hi : S.Respects inner inner') {form : List υ} {form' : List υ'}
    (h : Forall₂ (S.code k r) form form') (ht : S.texts t t') (he : S.scopes k r e e') :
    S.runs.Aligned k S.values (M.evalConditional inner t form e)
      (M'.evalConditional inner' t' form' e') := by
  have hother := throw_text (S := S) (k := k) (q := S.values) .conditional (fun _ _ => rfl) ht
  match h with
  | .nil => exact hother
  | .cons _ .nil => exact hother
  | .cons _ (.cons _ .nil) => exact hother
  | .cons _ (.cons hx (.cons hy .nil)) => exact branch_aligned hi hx hy .none he
  | .cons _ (.cons hx (.cons hy (.cons hz .nil))) => exact branch_aligned hi hx hy (.some hz) he
  | .cons _ (.cons _ (.cons _ (.cons _ (.cons _ _)))) => exact hother

lemma special_aligned (hi : S.Respects inner inner') (s : SpecialForm) {form : List υ}
    {form' : List υ'} (h : Forall₂ (S.code k r) form form') (ht : S.texts t t')
    (he : S.scopes k r e e') :
    S.runs.Aligned k S.values (M.special s inner t form e) (M'.special s inner' t' form' e') := by
  cases s with
  | lambda =>
    exact evalLambda_aligned h ht fun _ _ hp hne hps hbody => S.newClosure he hp hne hps hbody
  | define => exact evalDefine_aligned hi h ht he
  | conditional => exact evalConditional_aligned hi h ht he
  | assignment => exact evalAssignment_aligned hi h ht he

lemma evalCall_aligned (hi : S.Respects inner inner') (hb : S.Respects body body') {p : υ}
    {p' : υ'} (hp : S.values k p p') {args : List υ} {args' : List υ'}
    (h : Forall₂ (S.code k r) args args') (ht : S.texts t t') (he : S.scopes k r e e') :
    S.runs.Aligned k S.values (M.evalCall inner body p t args e)
      (M'.evalCall inner' body' p' t' args' e') := by
  have hcall : Fits M p args → S.runs.Aligned k S.values
      (M.operands inner e args >>= M.call body p)
      (M'.operands inner' e' args' >>= M'.call body' p') := by
    intro hfits
    refine (operands_aligned hi h he).bind fun l hkl vs vs' hvs => ?_
    refine call_aligned hb (S.values_mono hkl hp) hvs.2 fun params _ _ hs => ?_
    rw [hvs.1]
    exact hfits params _ _ hs
  have hother : S.runs.Aligned k S.values
      (if args.isEmpty then pure p else throw (.notApplicable (M.written p)))
      (if args'.isEmpty then pure p' else throw (.notApplicable (M'.written p'))) := by
    cases h with
    | nil => exact aligned_pure fun _ hkl => S.values_mono hkl hp
    | cons _ _ => exact throw_text .notApplicable (fun _ _ => rfl) (S.text_value hp)
  have hshapes := S.value_shapes hp
  unfold Machine.evalCall
  unfold Fits at hcall
  generalize M.shape p = shape at hshapes hcall
  generalize M'.shape p' = shape' at hshapes
  cases hshapes with
  | bool b => exact hother
  | host p => exact hcall (by simp)
  | closure hclosures =>
    simp only [← hclosures.1, ← h.length_eq]
    split
    · next hlen =>
      refine hcall ?_
      rintro params _ _ ⟨⟩
      exact hlen
    · exact throw_text (fun t => .arity _ args.length (some t)) (fun _ _ => rfl) ht
  | inert hs hs' =>
    rcases hs.cases with ⟨_, rfl⟩ | ⟨_, rfl⟩ | rfl <;>
      rcases hs'.cases with ⟨_, rfl⟩ | ⟨_, rfl⟩ | rfl <;> exact hother

lemma head?_eq {x : υ} {x' : υ'} (h : S.code k r x x') : M.head? x = M'.head? x' := by
  have hshapes := S.code_shapes h
  unfold Machine.head?
  generalize M.shape x = shape at hshapes
  generalize M'.shape x' = shape' at hshapes
  cases hshapes with
  | symbol hs => exact S.special_eq hs
  | list _ => rfl
  | lambda _ => rfl
  | constant hs hs' =>
    rcases hs.cases with ⟨_, rfl⟩ | ⟨_, _, _, rfl⟩ | ⟨_, rfl⟩ | rfl <;>
      rcases hs'.cases with ⟨_, rfl⟩ | ⟨_, _, _, rfl⟩ | ⟨_, rfl⟩ | rfl <;> rfl

lemma evalForm_aligned (hi : S.Respects inner inner') (hb : S.Respects body body')
    {form : List υ} {form' : List υ'} (h : Forall₂ (S.code k r) form form') (ht : S.texts t t')
    (he : S.scopes k r e e') :
    S.runs.Aligned k S.values (M.evalForm inner body t form e)
      (M'.evalForm inner' body' t' form' e') := by
  cases h with
  | nil => exact aligned_throw (S.errors_refl _)
  | cons hx hxs =>
    simp only [Machine.evalForm, head?_eq hx]
    split
    · exact special_aligned hi _ (.cons hx hxs) ht he
    · refine (hi hx he).bind fun l hkl p p' hp => ?_
      exact evalCall_aligned hi hb hp (forms_mono hxs hkl) ht (S.scopes_mono hkl he)

lemma evalForm_of_lambda {form : List υ} (h : form.head?.bind M.head? = some .lambda) :
    M.evalForm inner body t form e = M.evalLambda t form e := by
  cases form with
  | nil => cases h
  | cons x xs =>
    have hx : M.head? x = some .lambda := h
    simp only [Machine.evalForm, hx, Machine.special]

lemma level_aligned (hi : S.Respects inner inner') (hb : S.Respects body body') :
    S.Respects (M.level inner body) (M'.level inner' body') := by
  intro k r x x' e e' hx he
  have ht := S.text_code hx
  have hshapes := S.code_shapes hx
  unfold Machine.level
  generalize M.shape x = shape at hshapes
  generalize M'.shape x' = shape' at hshapes
  cases hshapes with
  | symbol hs => exact S.lookup he hs
  | list h =>
    exact (evalForm_aligned hi hb h ht he).mapError fun _ _ herr => S.errors_within ht herr
  | lambda h =>
    obtain ⟨⟨hhead, hhead'⟩, -, q, hparts, hnew⟩ := h
    -- The form stands in the region `r`, but its parts are alike in `q`.
    simp only [evalForm_of_lambda hhead, evalForm_of_lambda hhead']
    refine (evalLambda_aligned hparts ht ?_).mapError fun _ _ herr => S.errors_within ht herr
    exact fun hform hs hp _ hps hbody => hnew he hform hs hp hps hbody
  | constant hs hs' hv =>
    have hself : S.runs.Aligned k S.values (pure x) (pure x') :=
      aligned_pure fun _ hkl => S.values_mono hkl hv
    rcases hs.cases with ⟨_, rfl⟩ | ⟨_, _, _, rfl⟩ | ⟨_, rfl⟩ | rfl <;>
      rcases hs'.cases with ⟨_, rfl⟩ | ⟨_, _, _, rfl⟩ | ⟨_, rfl⟩ | rfl <;> exact hself

variable (S)

lemma eval_aligned (room : Nat) : S.Respects (M.eval room) (M'.eval room) := by
  -- Parts of a form have one level less, bodies of closures two.
  induction room using Nat.strongRecOn with
  | ind room ih =>
    cases room with
    | zero =>
      intro k r x x' e e' _ _
      exact aligned_throw (S.errors_refl _)
    | succ m =>
      rw [Machine.eval_succ, Machine.eval_succ]
      exact level_aligned (ih m (by omega)) (ih (m - 1) (by omega))

variable {S}

lemma apply_aligned {p : υ} {p' : υ'} (hp : S.values k p p') {args : List υ} {args' : List υ'}
    (h : Forall₂ (S.values k) args args') :
    S.runs.Aligned k S.values (M.apply p args) (M'.apply p' args') := by
  have hcall : Fits M p args → S.runs.Aligned k S.values
      (M.call (M.eval (depthLimit - 2)) p args) (M'.call (M'.eval (depthLimit - 2)) p' args') :=
    call_aligned (S.eval_aligned _) hp h
  have hshapes := S.value_shapes hp
  unfold Machine.apply
  unfold Fits at hcall
  generalize M.shape p = shape at hshapes hcall
  generalize M'.shape p' = shape' at hshapes
  cases hshapes with
  | bool b => exact hcall (by simp)
  | host p => exact hcall (by simp)
  | closure hclosures =>
    simp only [← hclosures.1, ← h.length_eq]
    split
    · next hlen =>
      refine hcall ?_
      rintro params _ _ ⟨⟩
      exact hlen
    · exact aligned_throw (S.errors_refl _)
  | inert hs hs' =>
    rcases hs.cases with ⟨_, rfl⟩ | ⟨_, rfl⟩ | rfl <;>
      rcases hs'.cases with ⟨_, rfl⟩ | ⟨_, rfl⟩ | rfl <;> exact hcall (by simp)

end Simulation

end SmallScheme
