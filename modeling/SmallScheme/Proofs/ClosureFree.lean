import SmallScheme.Proofs.Application
import SmallScheme.Proofs.HostLookup

/-! Code without closures never comes near the depth limit. What is read is nested less deeply than
evaluation may go, and with no closure about, evaluation goes no deeper than its code. -/

namespace SmallScheme

namespace Value

inductive Inside (x : Value) : Nat → Value → Prop
  | whole : Inside x 0 x
  | element {n : Nat} {v : Value} {vs : List Value} : v ∈ vs → Inside x n v →
      Inside x (n + 1) (.list vs)

def isClosure : Value → Bool
  | closure .. => true
  | _ => false

structure Tame (room : Nat) (x : Value) : Prop where
  text : x.IsText
  shallow {y : Value} {n : Nat} : y.Inside n x → n < room
  noLambda : ∀ s ∈ x.symbols, SpecialForm.lambda.symbol.same s = false

namespace Tame

variable {room room' : Nat} {x : Value} {form : List Value}

lemma pos (h : x.Tame room) : 0 < room :=
  h.shallow .whole

lemma mono (h : x.Tame room) (hle : room ≤ room') : x.Tame room' :=
  ⟨h.text, fun hy => (h.shallow hy).trans_le hle, h.noLambda⟩

lemma part (h : (list form).Tame (room + 1)) : ∀ x ∈ form, x.Tame room := by
  intro x hx
  refine ⟨isTextAll_iff.1 h.text x hx, fun hy => ?_, fun s hs => ?_⟩
  · exact Nat.lt_of_succ_lt_succ (h.shallow (.element hx hy))
  · exact h.noLambda s (mem_symbolsAll.2 ⟨x, hx, hs⟩)

lemma ofHead?_ne_lambda (h : x.Tame room) : SpecialForm.ofHead? x ≠ some .lambda := by
  cases x with
  | symbol s =>
    intro hs
    have hsame : SpecialForm.lambda.symbol.same s = true := by
      simpa using List.find?_some hs
    rw [h.noLambda s (List.mem_singleton_self s)] at hsame
    cases hsame
  | _ => exact fun hs => by cases hs

end Tame

end Value

namespace Grammar

open Value

mutual

lemma lt_of_inside_tree {t : Tree} {depth n : Nat} {x : Value} {symbols : SymbolTable}
    (h : t.Within depth) (hx : x.Inside n (t.value symbols).1) :
    depth + n < Reader.nestingLimit := by
  cases t with
  | atom name =>
    have hdepth : depth < Reader.nestingLimit := h
    rw [Tree.value] at hx
    generalize Reader.Atom.ofChars name = a at hx
    cases a <;> cases hx <;> exact hdepth
  | string body =>
    cases hx
    exact h
  | list gap forms =>
    cases hx with
    | whole => exact h.1
    | @element n v vs hv hx =>
      have hlt := lt_of_inside_forms h.2 hv hx
      omega

lemma lt_of_inside_forms {f : Forms} {depth n : Nat} {v x : Value} {symbols : SymbolTable}
    (h : f.Within depth) (hv : v ∈ (f.values symbols).1) (hx : x.Inside n v) :
    depth + n < Reader.nestingLimit := by
  cases f with
  | nil => cases hv
  | cons tree gap rest =>
    rw [Forms.values_cons] at hv
    rcases List.mem_cons.1 hv with rfl | hv
    · exact lt_of_inside_tree h.1 hx
    · exact lt_of_inside_forms h.2 hv hx

end

end Grammar

namespace Reader

variable {comments : Bool} {text : String} {symbols symbols' : SymbolTable} {vs : List Value}

lemma shallow_of_forms (h : forms comments symbols text.toList = (.ok vs, symbols')) :
    ∀ v ∈ vs, ∀ {x : Value} {n : Nat}, x.Inside n v → n < nestingLimit := by
  intro v hv x n hx
  obtain ⟨p, -, hwithin, hvalues⟩ := forms_ok_iff.1 h
  have hmem : v ∈ (p.forms.values symbols).1 := by rwa [hvalues]
  simpa using Grammar.lt_of_inside_forms hwithin hmem hx

lemma tame_of_forms (h : forms comments symbols text.toList = (.ok vs, symbols'))
    (hknows : symbols.Has SpecialForm.lambda.symbol)
    (hlambda : "lambda" ∉ names (tokens comments text.toList)) : ∀ v ∈ vs, v.Tame nestingLimit := by
  intro v hv
  obtain ⟨ts, hentered, hnames, hsymbols⟩ := entered_of_forms h
  have htext := Value.isTextAll_iff.1 (isText_of_forms h) v hv
  refine ⟨htext, shallow_of_forms h v hv, fun s hs => ?_⟩
  have hmem : s ∈ Value.symbolsAll vs := Value.mem_symbolsAll.2 ⟨v, hv, hs⟩
  rw [Bool.eq_false_iff]
  intro hsame
  have hname := ((hknows.mono hentered.le).same_iff (hsymbols s hmem)).1 hsame
  rw [hentered.lexed.tokens_eq, ← hnames] at hlambda
  exact hlambda (List.mem_map.2 ⟨s, hmem, hname.symm⟩)

end Reader

namespace Error

variable {err : Error}

lemma not_exceedsDepth_of_none (h : err.evaluationText? = none) : ¬ err.ExceedsDepth := by
  rintro ⟨rest, hrest⟩
  cases h.symm.trans hrest

lemma exceedsDepth_iff {fault : EvalFault} {trail : List String} :
    (evaluation fault trail).ExceedsDepth ↔
      "Evaluation depth limit exceeded".toList <+: (fault.message ++ trailText trail).toList := by
  constructor
  · rintro ⟨rest, hrest⟩
    rw [evaluationText?, Option.some_inj] at hrest
    rw [hrest, String.toList_append]
    exact List.prefix_append _ _
  · rintro ⟨rest, hrest⟩
    refine ⟨String.ofList rest, congrArg some (String.toList_inj.1 (hrest.symm.trans ?_))⟩
    rw [String.toList_append, String.toList_ofList (l := rest)]

lemma not_exceedsDepth_emptyForm : ¬ (evaluation .emptyForm []).ExceedsDepth := by
  rw [exceedsDepth_iff]
  decide

lemma prefix_of_not_mem {α : Type} {l a b : List α} {c : α} (h : l <+: a ++ c :: b)
    (hc : c ∉ l) : l <+: a := by
  rcases List.prefix_or_prefix_of_prefix h (List.prefix_append a _) with hl | ⟨m, rfl⟩
  · exact hl
  · cases m with
    | nil => simp
    | cons d m =>
      obtain ⟨rfl, -⟩ := List.cons_prefix_cons.1 ((List.prefix_append_right_inj a).1 h)
      exact absurd (by simp) hc

lemma exceedsDepth_of_within {form : String} (h : (err.within form).ExceedsDepth) :
    err.ExceedsDepth := by
  -- A trail begins on a line of its own, so it cannot complete the text of the error.
  cases err with
  | evaluation fault trail =>
    have hline : "\n  Context: while evaluating: ".toList =
        '\n' :: "  Context: while evaluating: ".toList := by decide
    rw [within, exceedsDepth_iff, trailText_append, ← String.append_assoc, ← String.append_assoc,
      String.toList_append, String.toList_append, hline, List.append_assoc, List.cons_append] at h
    exact exceedsDepth_iff.2 (prefix_of_not_mem h (by decide))
  | _ => exact h

end Error

/-- Given no closure it gives none, and it does not itself report that the limit is exceeded. -/
structure HostFunction.ClosureFree (f : HostFunction) : Prop where
  answers {calls : Nat} {args : List Value} {v : Value} : (∀ a ∈ args, a.isClosure = false) →
    f calls args = .ok v → v.isClosure = false
  refuses {calls : Nat} {args : List Value} {err : Error} : (∀ a ∈ args, a.isClosure = false) →
    f calls args = .error err → ¬ err.ExceedsDepth

def Store.ClosureFree (st : Store) : Prop :=
  ∀ f ∈ st.frames, ∀ b ∈ f.bindings, b.2.isClosure = false

instance (st : Store) : Decidable st.ClosureFree :=
  inferInstanceAs (Decidable (∀ f ∈ st.frames, ∀ b ∈ f.bindings, b.2.isClosure = false))

lemma Store.closureFree_iff {st : Store} :
    st.ClosureFree ↔ ∀ i, ∀ b ∈ (st.frame i).bindings, b.2.isClosure = false := by
  constructor
  · intro h i b hb
    rw [frame, Array.getD_eq_getD_getElem?] at hb
    cases hi : st.frames[i]? with
    | none => simp [hi, Frame.empty] at hb
    | some f =>
      rw [hi] at hb
      exact h f (Array.mem_of_getElem? hi) b hb
  · intro h f hf b hb
    obtain ⟨i, hi⟩ := Array.mem_iff_getElem?.1 hf
    apply h i b
    rwa [frame, Array.getD_eq_getD_getElem?, hi]

structure World.ClosureFree (w : World) : Prop where
  store : w.store.ClosureFree
  externals : ∀ f ∈ w.externals, f.function.ClosureFree

lemma World.ClosureFree.put {w : World} (h : w.ClosureFree) (i : Nat) (s : Symbol) {v : Value}
    (hv : v.isClosure = false) : ClosureFree { w with store := w.store.put i s v } := by
  refine ⟨Store.closureFree_iff.2 fun k b hb => ?_, h.externals⟩
  rcases Store.mem_put hb with hb | hb
  · rwa [hb]
  · exact Store.closureFree_iff.1 h.store k b hb

namespace Eval

open Run

abbrev Safe {α : Type} (Q : α → Prop) (m : Run α) : Prop :=
  Ensures World.ClosureFree Q (fun err => ¬ err.ExceedsDepth) m

abbrev SafeValue (m : Run Value) : Prop :=
  Safe (fun v => v.isClosure = false) m

lemma upheld_closureFree : Upheld World.ClosureFree (fun v => v.isClosure = false)
    fun err => ¬ err.ExceedsDepth where
  noted _ h := ⟨h.store, h.externals⟩
  written _ h := ⟨h.store, h.externals⟩
  called := by
    intro w slot f h hf
    refine ⟨h.store, fun g hg => ?_⟩
    rcases Array.mem_or_eq_of_mem_setIfInBounds hg with hg | rfl
    · exact h.externals g hg
    · exact h.externals f (Array.mem_of_getElem? hf)
  number _ := rfl
  bool _ := rfl
  unspecified := rfl
  plain := Error.not_exceedsDepth_of_none
  answers h hf := (h.externals _ hf).answers
  refuses h hf := (h.externals _ hf).refuses

lemma safe_throw {α : Type} {Q : α → Prop} {err : Error} (h : err.evaluationText? = none) :
    Safe Q (throw err) :=
  ensures_throw (Error.not_exceedsDepth_of_none h)

lemma safe_lookup (e : Scope) (s : Symbol) : SafeValue (lookup e s) := by
  apply ensures_get
  intro w hw
  cases hv : w.store.lookup? e s with
  | none => exact safe_throw rfl
  | some v =>
    obtain ⟨i, b, hb, rfl⟩ := Store.mem_of_lookup? hv
    exact ensures_pure (Store.closureFree_iff.1 hw.store i b hb)

lemma safe_within {m : Run Value} (form : List Value) (h : SafeValue m) :
    SafeValue (within form m) := by
  intro w hw
  have hend := h w hw
  rw [within]
  generalize m w = result at hend
  cases hend with
  | ok hv hu => exact .ok hv hu
  | error herr hu => exact .error (fun hdeep => herr (Error.exceedsDepth_of_within hdeep)) hu

variable {inner body : Evaluator} {e : Scope}

lemma safe_operands {xs : List Value} (h : ∀ x ∈ xs, SafeValue (inner x e)) :
    Safe (fun vs => ∀ v ∈ vs, v.isClosure = false) (operands inner e xs) := by
  induction xs with
  | nil => exact ensures_pure (by simp)
  | cons x xs ih =>
    have hxs := ih fun y hy => h y (List.mem_cons_of_mem x hy)
    refine (h x (by simp)).bind fun v hv => hxs.bind fun vs hvs => ensures_pure ?_
    simpa using ⟨hv, hvs⟩

lemma safe_sequence {xs : List Value} (h : ∀ x ∈ xs, SafeValue (inner x e)) {last : Value}
    (hlast : last.isClosure = false) : SafeValue (sequence inner e last xs) := by
  induction xs generalizing last with
  | nil => exact ensures_pure hlast
  | cons x xs ih =>
    refine (h x (by simp)).bind fun v hv => ?_
    exact ih (fun y hy => h y (List.mem_cons_of_mem x hy)) hv

lemma safe_withTarget {fault : String → Error} {act : Symbol → Value → Run Value}
    {form : List Value} (hfault : ∀ text, (fault text).evaluationText? = none)
    (hact : ∀ s, ∀ x ∈ form, SafeValue (act s x)) : SafeValue (withTarget fault act form) := by
  rw [withTarget.eq_def]
  split
  · exact hact _ _ (by simp)
  · exact safe_throw (hfault _)
  · exact safe_throw rfl

lemma safe_evalCall {procedure : Value} {form args : List Value}
    (hp : procedure.isClosure = false) (hargs : ∀ x ∈ args, SafeValue (inner x e)) :
    SafeValue (evalCall inner body procedure form args e) := by
  cases procedure with
  | host p => exact (safe_operands hargs).bind fun vs hvs => upheld_closureFree.callHost p hvs
  | closure => cases hp
  | _ =>
    change SafeValue (if args.isEmpty then pure _ else throw _)
    split
    · exact ensures_pure rfl
    · exact safe_throw rfl

section Parts

variable {form : List Value} (h : ∀ x ∈ form, SafeValue (inner x e))
include h

lemma safe_evalDefine : SafeValue (evalDefine inner form e) := by
  rw [evalDefine_eq]
  refine safe_withTarget (fun _ => rfl) fun s x hx => (h x hx).bind fun v hv => ?_
  refine (upheld_closureFree.note _).bind fun _ _ => ?_
  refine (ensures_modify fun w hw => hw.put e.frame s hv).bind fun _ _ => ?_
  exact ensures_pure rfl

lemma safe_evalAssignment : SafeValue (evalAssignment inner form e) := by
  rw [evalAssignment_eq]
  refine safe_withTarget (fun _ => rfl) fun s x hx => ensures_get fun w hw => ?_
  split
  · refine (h x hx).bind fun v hv => (upheld_closureFree.note _).bind fun _ _ => ?_
    refine Ensures.bind (Q := fun _ => True) (ensures_get fun u hu => ?_) fun _ _ =>
      ensures_pure rfl
    cases u.store.home? e s with
    | none => exact safe_throw rfl
    | some i => exact ensures_modify fun _ hw => hw.put i s hv
  · exact safe_throw rfl

lemma safe_branch {test first : Value} {second : Option Value} (htest : test ∈ form)
    (hfirst : first ∈ form) (hsecond : ∀ x ∈ second, x ∈ form) :
    SafeValue (branch inner test first second e) := by
  refine (h test htest).bind fun v _ => ?_
  split
  · exact h first hfirst
  · cases second with
    | none => exact ensures_pure rfl
    | some x => exact h x (hsecond x rfl)

lemma safe_evalConditional : SafeValue (evalConditional inner form e) := by
  rw [evalConditional.eq_def]
  split
  · exact safe_branch h (by simp) (by simp) (by simp)
  · exact safe_branch h (by simp) (by simp) (by simp)
  · exact safe_throw rfl

lemma safe_special {s : SpecialForm} (hs : s ≠ .lambda) : SafeValue (special s inner form e) := by
  cases s with
  | lambda => exact absurd rfl hs
  | define => exact safe_evalDefine h
  | conditional => exact safe_evalConditional h
  | assignment => exact safe_evalAssignment h

end Parts

lemma safe_eval {room : Nat} {x : Value} (hx : x.Tame room) (e : Scope) :
    SafeValue (eval room x e) := by
  -- With no closure to call, evaluation goes one level in where its code does.
  -- The parts of a list are a level further in and inside one list less. Bodies are two levels in,
  -- but there are none to run.
  induction room generalizing x with
  | zero => exact absurd hx.pos (Nat.lt_irrefl 0)
  | succ room ih =>
    rw [eval_succ]
    cases x with
    | symbol s => exact safe_lookup e s
    | list form =>
      have hparts : ∀ y ∈ form, SafeValue (eval room y e) := fun y hy => ih (hx.part y hy)
      apply safe_within
      cases form with
      | nil => exact ensures_throw Error.not_exceedsDepth_emptyForm
      | cons head args =>
        have hhead := hx.part head (by simp)
        rw [evalForm]
        cases hs : SpecialForm.ofHead? head with
        | some s =>
          refine safe_special hparts ?_
          rintro rfl
          exact hhead.ofHead?_ne_lambda hs
        | none =>
          refine (hparts head (by simp)).bind fun p hp => safe_evalCall hp fun y hy => ?_
          exact hparts y (List.mem_cons_of_mem head hy)
    | host => exact hx.text.elim
    | closure => exact hx.text.elim
    | unspecified => exact hx.text.elim
    | _ => exact ensures_pure rfl

end Eval

namespace Session

variable {s s' : Session} {may : Session → Value → Scope → Prop} {sink : Sink} {text : String}

lemma symbols_perform (run : Run Value) (s : Session) :
    (s.after (perform run)).symbols = s.symbols := by
  rw [after, perform]
  cases run s.world <;> rfl

lemma le_evaluateText (text : String) (e : Scope) (s : Session) :
    s.symbols ≤ (s.after (evaluateText text e)).symbols := by
  have hle := Reader.le_of_read s.comments text s.symbols
  rw [after, evaluateText_apply]
  cases hread : Reader.read s.comments text s.symbols with
  | mk outcome symbols =>
    rw [hread] at hle
    rcases outcome with err | _ | x
    · exact hle
    · exact hle
    · exact hle.trans_eq (symbols_perform (evaluate x e) { s with symbols }).symm

lemma le_runText (text : String) (s : Session) :
    s.symbols ≤ (s.after (runText text)).symbols := by
  have hle := Reader.le_of_readAll s.comments text s.symbols
  rw [after, runText_apply]
  cases hread : Reader.readAll s.comments text s.symbols with
  | mk outcome symbols =>
    rw [hread] at hle
    cases outcome with
    | error err => exact hle
    | ok forms =>
      let noted : Session := { s with
        symbols
        world := { s.world with events := s.world.events.push (.running forms.length) } }
      change s.symbols ≤ (noted.after (perform (Eval.sequence evaluate _ _ forms))).symbols
      rwa [symbols_perform]

lemma le_define (name : String) (v : Value) (s : Session) :
    s.symbols ≤ (s.define name v).symbols :=
  s.symbols.le_intern name

lemma le_defineBuiltins (bs : List Builtin) (s : Session) :
    s.symbols ≤ (bs.foldl (fun s b => s.define b.name (.host b.procedure)) s).symbols := by
  induction bs generalizing s with
  | nil => exact le_refl _
  | cons b bs ih => exact (le_define b.name _ s).trans (ih (s.define b.name _))

lemma Reached.le (h : Reached may sink s) : (bare sink).symbols ≤ s.symbols := by
  induction h with
  | start =>
    rw [start_eq]
    exact (le_defineBuiltins Builtin.all (bare sink)).trans (le_define _ _ _)
  | comments _ _ ih => exact ih
  | intern name _ ih => exact ih.trans (SymbolTable.le_intern _ name)
  | define name v _ ih => exact ih.trans (le_define name v _)
  | register name _ _ _ ih => exact ih.trans (SymbolTable.le_intern _ name)
  | newScope _ _ ih => exact ih
  | @read s text _ ih =>
    have hle := ih.trans (Reader.le_of_read s.comments text s.symbols)
    rw [after, Session.read, reading]
    cases hread : Reader.read s.comments text s.symbols with
    | mk outcome symbols =>
      rw [hread] at hle
      cases outcome <;> exact hle
  | evaluate _ _ ih => rwa [symbols_perform]
  | apply _ _ _ ih => rwa [symbols_perform]
  | @request s q _ ih =>
    cases q with
    | evaluate text e => exact ih.trans (le_evaluateText text e s)
    | run text => exact ih.trans (le_runText text s)
    | load path content =>
      let noted : Session := { s with
        world := { s.world with events := s.world.events.push (.loading path) } }
      cases content with
      | error fault => exact ih
      | ok text => exact ih.trans (le_runText text noted)

lemma Reached.has_lambda (h : Reached may sink s) :
    s.symbols.Has SpecialForm.lambda.symbol := by
  have hbare : (bare sink).symbols = ⟨["lambda", "define", "if", "set!"]⟩ := rfl
  have hhas : (bare sink).symbols.Has SpecialForm.lambda.symbol := by
    rw [hbare, SymbolTable.Has]
    decide
  exact hhas.mono h.le

lemma not_exceedsDepth_of_perform {run : Run Value} {err : Error}
    (h : perform run s = .error err s') (hrun : Eval.SafeValue run) (hw : s.world.ClosureFree) :
    ¬ err.ExceedsDepth := by
  have hend := hrun s.world hw
  rw [perform] at h
  generalize run s.world = result at hend h
  cases hend with
  | ok _ _ => cases h
  | error herr _ =>
    obtain ⟨rfl, -⟩ := EStateM.Result.error.inj h
    exact herr

lemma safe_evaluate {x : Value} (hx : x.Tame Reader.nestingLimit) (e : Scope) :
    Eval.SafeValue (evaluate x e) :=
  Eval.safe_eval (hx.mono (by decide)) e

variable (hknows : s.symbols.Has SpecialForm.lambda.symbol) (hw : s.world.ClosureFree)
  (hlambda : "lambda" ∉ Reader.names (Reader.tokens s.comments text.toList)) {err : Error}
include hknows hw hlambda

lemma not_exceedsDepth_of_evaluateText {e : Scope}
    (herr : evaluateText text e s = .error err s') : ¬ err.ExceedsDepth := by
  rw [evaluateText_apply] at herr
  cases hread : Reader.read s.comments text s.symbols with
  | mk outcome symbols =>
    rw [hread] at herr
    rcases outcome with fault | _ | x
    · obtain ⟨rfl, -⟩ := EStateM.Result.error.inj herr
      exact Error.not_exceedsDepth_of_none rfl
    · cases herr
    · have hforms := Reader.tame_of_forms (Reader.read_ok_iff.1 hread) hknows hlambda
      have hx := hforms x (List.mem_singleton_self x)
      exact not_exceedsDepth_of_perform herr (safe_evaluate hx e) hw

lemma not_exceedsDepth_of_runText (herr : runText text s = .error err s') :
    ¬ err.ExceedsDepth := by
  rw [runText_apply] at herr
  cases hread : Reader.readAll s.comments text s.symbols with
  | mk outcome symbols =>
    rw [hread] at herr
    cases outcome with
    | error fault =>
      obtain ⟨rfl, -⟩ := EStateM.Result.error.inj herr
      exact Error.not_exceedsDepth_of_none rfl
    | ok forms =>
      have hforms := Reader.tame_of_forms (Reader.readAll_ok_iff.1 hread) hknows hlambda
      refine not_exceedsDepth_of_perform herr ?_ ⟨hw.store, hw.externals⟩
      exact Eval.safe_sequence (fun x hx => safe_evaluate (hforms x hx) s.global) rfl

end Session

namespace Session

def hosting (f : HostFunction) : Session :=
  (start .collecting).register "f" (.atLeast 0) f

lemma reached_hosting (f : HostFunction) : Reached Owns .collecting (hosting f) :=
  .register _ _ _ .start

lemma symbols_hosting (f : HostFunction) : (hosting f).symbols = ⟨["lambda", "define", "if",
    "set!", "+", "*", "-", "/", "=", "<", ">", "<=", ">=", "not", "display", "f"]⟩ := by
  change (hosting .collect).symbols = _
  decide +kernel

lemma closureFree_hosting (f : HostFunction) : (hosting f).world.store.ClosureFree := by
  change (hosting .collect).world.store.ClosureFree
  decide +kernel

lemma closureFree_collect : HostFunction.collect.ClosureFree where
  answers _ h := by
    obtain rfl := Except.ok.inj h
    rfl
  refuses _ h := by cases h

def listed : Nat → Value
  | 0 => .bool true
  | n + 1 => .list [listed n]

open Run Eval in
lemma eval_listed (n : Nat) (e : Scope) (w : World) :
    ∃ trail, eval n (listed n) e w = .error (.evaluation .tooDeep trail) w := by
  induction n with
  | zero => exact ⟨[], rfl⟩
  | succ n ih =>
    have hordinary : SpecialForm.ofHead? (listed n) = none := by cases n <;> rfl
    obtain ⟨trail, htrail⟩ := ih
    rw [listed, eval_of_ordinary hordinary, within_of_error (bind_of_error htrail _)]
    exact ⟨_, rfl⟩

def descending (n : Nat) : Value := .closure 0 [] [listed n] ⟨0, []⟩

open Run Eval in
lemma call_descending (n : Nat) (w : World) :
    ∃ trail w', call (eval n) (descending n) [] w = .error (.evaluation .tooDeep trail) w' := by
  let noted : World := { w with events := w.events.push (.closureCall 0) }
  let entered : World := { noted with store := (w.store.newChild ⟨0, []⟩).2 }
  obtain ⟨trail, htrail⟩ := eval_listed n (w.store.newChild ⟨0, []⟩).1 entered
  exact ⟨trail, entered, bind_of_error htrail _⟩

open Run Eval in
lemma eval_of_descending {n : Nat} {head : Value} {e : Scope} {w w₁ : World}
    (hordinary : SpecialForm.ofHead? head = none)
    (hhead : eval (n + 1) head e w = .ok (descending n) w₁) :
    ∃ trail w', eval (n + 2) (.list [head]) e w = .error (.evaluation .tooDeep trail) w' := by
  obtain ⟨trail, w', hcall⟩ := call_descending n w₁
  have hbody : (eval (n + 1) head e >>= fun p =>
      evalCall (eval (n + 1)) (eval n) p [head] [] e) w = .error (.evaluation .tooDeep trail) w' :=
    (bind_of_ok hhead _).trans hcall
  rw [eval_of_ordinary hordinary, Nat.add_sub_cancel, within_of_error hbody]
  exact ⟨_, _, rfl⟩

structure Overruns (s : Session) (text : String) : Prop where
  reached : Reached Owns .collecting s
  store : s.world.store.ClosureFree
  noLambda : "lambda" ∉ Reader.names (Reader.tokens s.comments text.toList)
  fails : ∃ err s', evaluateText text s.global s = .error err s' ∧ err.ExceedsDepth

lemma overruns_hosting {f : HostFunction}
    (h : ∃ trail w, evaluate (.list [.list [.symbol ⟨15, "f"⟩]]) (hosting f).global
      (hosting f).world = .error (.evaluation .tooDeep trail) w) :
    (hosting f).Overruns "((f))" := by
  have hcomments : (hosting f).comments = false := rfl
  have hread : Reader.read (hosting f).comments "((f))" (hosting f).symbols =
      (.ok (some (.list [.list [.symbol ⟨15, "f"⟩]])), (hosting f).symbols) := by
    rw [symbols_hosting, hcomments]
    cbv
  have hnames : Reader.names (Reader.tokens false "((f))".toList) = ["f"] := by cbv
  obtain ⟨trail, w, hw⟩ := h
  refine ⟨reached_hosting f, closureFree_hosting f, ?_, _, { hosting f with world := w }, ?_,
    Error.exceedsDepth_tooDeep trail⟩
  · rw [hcomments, hnames]
    decide
  · simp only [evaluateText_apply, hread, perform, hw]

end Session

end SmallScheme
