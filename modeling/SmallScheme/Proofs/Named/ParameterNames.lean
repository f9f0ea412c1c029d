import Mathlib
import SmallScheme.Proofs.Named.SpeltSession
import SmallScheme.Proofs.Named.Variants
import SmallScheme.Proofs.ReadValue

namespace SmallScheme

open List

namespace Named

namespace Value

mutual

def rename (x y : String) : Value → Value
  | symbol name => .symbol (if name = x then y else name)
  | list vs => .list (renameAll x y vs)
  | v => v

def renameAll (x y : String) : List Value → List Value
  | [] => []
  | v :: vs => rename x y v :: renameAll x y vs

end

mutual

def symbols : Value → List String
  | symbol name => [name]
  | list vs => symbolsAll vs
  | _ => []

def symbolsAll : List Value → List String
  | [] => []
  | v :: vs => symbols v ++ symbolsAll vs

end

lemma isTextAll_around {before after : List Value} {v : Value} :
    SmallScheme.Value.IsTextAll (toValues (before ++ v :: after)) ↔
      SmallScheme.Value.IsTextAll (toValues before) ∧ v.toValue.IsText ∧
        SmallScheme.Value.IsTextAll (toValues after) := by
  induction before with
  | nil => simp [toValues, SmallScheme.Value.IsTextAll]
  | cons w before ih => simp [toValues, SmallScheme.Value.IsTextAll, ih, and_assoc]

end Value

inductive Context where
  | hole
  | inside (before : List Value) (c : Context) (after : List Value)

def Context.fill : Context → Value → Value
  | hole, v => v
  | inside before c after, v => .list (before ++ c.fill v :: after)

lemma Context.isText_of_fill {v : Value} {c : Context} (h : (c.fill v).toValue.IsText) :
    v.toValue.IsText := by
  induction c with
  | hole => exact h
  | inside before c after ih => exact ih (Value.isTextAll_around.1 h).2.1

namespace Variants

variable {x y : String}

mutual

lemma CodeAlike.refl (v : Value) (h : v.toValue.IsText) : CodeAlike x y .outside v v := by
  cases v with
  | number n => exact .number n
  | symbol name => exact .symbol rfl
  | string text => exact .string text
  | bool b => exact .bool b
  | list vs => exact .list (FormsAlike.refl vs h)
  | host p => exact h.elim
  | closure i params body e => exact h.elim
  | unspecified => exact h.elim

lemma FormsAlike.refl (vs : List Value) (h : SmallScheme.Value.IsTextAll (Value.toValues vs)) :
    FormsAlike x y .outside vs vs := by
  cases vs with
  | nil => exact .nil
  | cons v vs => exact .cons (CodeAlike.refl v h.1) (FormsAlike.refl vs h.2)

end

mutual

lemma CodeAlike.rename (v : Value) (h : v.toValue.IsText) (hy : y ∉ v.symbols) :
    CodeAlike x y .inside v (v.rename x y) := by
  cases v with
  | number n => exact .number n
  | symbol name =>
    refine .symbol ⟨?_, rfl⟩
    rintro rfl
    exact hy (List.mem_singleton.2 rfl)
  | string text => exact .string text
  | bool b => exact .bool b
  | list vs => exact .list (FormsAlike.rename vs h hy)
  | host p => exact h.elim
  | closure i params body e => exact h.elim
  | unspecified => exact h.elim

lemma FormsAlike.rename (vs : List Value) (h : SmallScheme.Value.IsTextAll (Value.toValues vs))
    (hy : y ∉ Value.symbolsAll vs) : FormsAlike x y .inside vs (Value.renameAll x y vs) := by
  cases vs with
  | nil => exact .nil
  | cons v vs =>
    rw [Value.symbolsAll, List.mem_append, not_or] at hy
    exact .cons (CodeAlike.rename v h.1 hy.1) (FormsAlike.rename vs h.2 hy.2)

end

lemma FormsAlike.around {before after : List Value} {v v' : Value}
    (h : SmallScheme.Value.IsTextAll (Value.toValues (before ++ v :: after)))
    (hv : CodeAlike x y .outside v v') :
    FormsAlike x y .outside (before ++ v :: after) (before ++ v' :: after) := by
  obtain ⟨hbefore, -, hafter⟩ := Value.isTextAll_around.1 h
  have hbefore := formsAlike_iff.1 (FormsAlike.refl (x := x) (y := y) before hbefore)
  have hafter := formsAlike_iff.1 (FormsAlike.refl (x := x) (y := y) after hafter)
  exact formsAlike_iff.2 (List.rel_append hbefore (.cons hv hafter))

lemma CodeAlike.fill {v v' : Value} (hv : CodeAlike x y .outside v v') (c : Context)
    (h : (c.fill v).toValue.IsText) : CodeAlike x y .outside (c.fill v) (c.fill v') := by
  induction c with
  | hole => exact hv
  | inside before c after ih =>
    exact .list (FormsAlike.around h (ih (Value.isTextAll_around.1 h).2.1))

lemma CodeAlike.rename_lambda (hx : SpecialForm.ofName? x = none) {params body : List Value}
    (hmem : .symbol x ∈ params) (h : (Value.lambdaForm params body).toValue.IsText)
    (hy : y ∉ (Value.lambdaForm params body).symbols) :
    CodeAlike x y .outside (.lambdaForm params body) ((Value.lambdaForm params body).rename x y) := by
  have hhead : SpecialForm.lambda.name ≠ x := by
    rintro rfl
    cases hx
  have hrename : (Value.lambdaForm params body).rename x y =
      .lambdaForm (Value.renameAll x y params) (Value.renameAll x y body) := by
    simp [Value.lambdaForm, Value.rename, Value.renameAll, hhead]
  rw [hrename]
  simp only [Value.lambdaForm, Value.symbols, Value.symbolsAll, List.mem_append, not_or] at hy
  exact .lambda hmem (FormsAlike.rename params h.2.1 hy.2.1) (FormsAlike.rename body h.2.2 hy.2.2)

end Variants

namespace Session

open Variants

def ending : EStateM.Result Error Session Value → Except Error.Kind String × String
  | .ok v s => (.ok v.written, s.world.output)
  | .error err s => (.error err.kind, s.world.output)

lemma runText_of_readAll {s : Session} {text : String} {forms : List Value}
    (h : Reader.readAll s.comments text = .ok forms) :
    runText text s = perform (named.sequence named.evaluate s.global .unspecified forms) s := by
  have hread : readAll text s = .ok forms s := by simp only [readAll, reading, h]
  change EStateM.bind (readAll text) _ s = _
  simp only [EStateM.bind, hread]
  rfl

variable {x y : String}

structure Untouched (x y : String) (s : Session) : Prop where
  world : WorldsAlike x y ⟨[.outer]⟩ s.world s.world
  global : s.global = ⟨0, []⟩

lemma Untouched.define {s : Session} (h : Untouched x y s) (name : String) (p : HostProcedure) :
    Untouched x y (s.define name (.host p)) := by
  have hframe : Layout.HasTag ⟨[.outer]⟩ s.global.frame .outer := by
    rw [h.global]
    rfl
  exact ⟨h.world.put hframe rfl (.host p), h.global⟩

lemma Untouched.withComments {s : Session} (h : Untouched x y s) (comments : Bool) :
    Untouched x y { s with comments } :=
  ⟨h.world, h.global⟩

lemma untouched_start (sink : Sink) : Untouched x y (start sink) := by
  have hfold : ∀ (bs : List Builtin) (s : Session), Untouched x y s →
      Untouched x y (bs.foldl (fun s b => s.define b.name (.host b.procedure)) s) := by
    intro bs
    induction bs with
    | nil => exact fun _ h => h
    | cons b bs ih => exact fun s h => ih _ (h.define b.name b.procedure)
  unfold start
  apply Untouched.define
  apply hfold
  refine ⟨⟨⟨rfl, rfl, rfl, ?_⟩, ?_, rfl, rfl⟩, rfl⟩
  · intro i tag hi
    obtain rfl : i = 0 := Nat.lt_one_iff.1 hi.lt
    exact .nil
  · intro i hi
    obtain rfl : i = 0 := Nat.lt_one_iff.1 hi.lt
    cases hi

lemma ending_eq (hx : SpecialForm.ofName? x = none) (hy : SpecialForm.ofName? y = none)
    {s : Session} (hs : Untouched x y s) {text text' : String} {forms forms' : List Value}
    (hread : Reader.readAll s.comments text = .ok forms)
    (hread' : Reader.readAll s.comments text' = .ok forms')
    (hforms : FormsAlike x y .outside forms forms') :
    ending (runText text s) = ending (runText text' s) := by
  let S := variantSimulation hx hy
  have hglobal : Chain ⟨[.outer]⟩ .outside s.global.chain := by
    rw [hs.global]
    exact .outer rfl .nil
  obtain ⟨l, -, ho⟩ := Simulation.sequence_aligned (S := S) (S.eval_aligned depthLimit)
    (formsAlike_iff.1 hforms) ⟨rfl, hglobal⟩ (S.unspecified _) _ le_rfl _ _ hs.world
  rw [runText_of_readAll hread, runText_of_readAll hread']
  unfold perform
  change Correspondence.Outcomes _ _ _
    (named.sequence named.evaluate s.global .unspecified forms s.world)
    (named.sequence named.evaluate s.global .unspecified forms' s.world) at ho
  generalize named.sequence named.evaluate s.global .unspecified forms s.world = result at ho
  generalize named.sequence named.evaluate s.global .unspecified forms' s.world = result' at ho
  cases ho with
  | ok hv hw =>
    have hwritten := congrArg String.ofList (ValuesAlike.spell_eq .written hv)
    exact Prod.ext (congrArg Except.ok hwritten) hw.output
  | error herr hw => exact Prod.ext (congrArg Except.error herr) hw.output

end Session

end Named

mutual

def Value.toNamed : Value → Named.Value
  | .number x => .number x
  | .symbol s => .symbol s.name
  | .string text => .string text
  | .bool b => .bool b
  | .list vs => .list (Value.toNamedAll vs)
  | .host p => .host p
  | .closure i params body e => .closure i (params.map Symbol.name) (Value.toNamedAll body) e
  | .unspecified => .unspecified

def Value.toNamedAll : List Value → List Named.Value
  | [] => []
  | v :: vs => v.toNamed :: Value.toNamedAll vs

end

mutual

lemma Spelt.toNamed_eq {t : SymbolTable} {v : Value} {w : Named.Value} (h : Spelt t v w) :
    v.toNamed = w := by
  cases h with
  | symbol hs => exact congrArg Named.Value.symbol hs.1
  | list hs => exact congrArg Named.Value.list hs.toNamedAll_eq
  | closure i e hps hbody =>
    have hnames : ∀ {params : List Symbol} {names : List String},
        Forall₂ t.Spells params names → params.map Symbol.name = names := by
      intro params names h
      induction h with
      | nil => rfl
      | cons hs _ ih => rw [List.map_cons, hs.1, ih]
    rw [Value.toNamed, hnames hps, hbody.toNamedAll_eq]
  | _ => rfl

lemma SpeltAll.toNamedAll_eq {t : SymbolTable} {vs : List Value} {ws : List Named.Value}
    (h : SpeltAll t vs ws) : Value.toNamedAll vs = ws := by
  cases h with
  | nil => rfl
  | cons h hs => rw [Value.toNamedAll, h.toNamed_eq, hs.toNamedAll_eq]

end

mutual

lemma Spelt.isText {t : SymbolTable} {v : Value} {w : Named.Value} (h : Spelt t v w)
    (hv : v.IsText) : w.toValue.IsText := by
  cases h with
  | list hs => exact hs.isTextAll hv
  | host p => exact hv.elim
  | closure i e hps hbody => exact hv.elim
  | unspecified => exact hv.elim
  | _ => trivial

lemma SpeltAll.isTextAll {t : SymbolTable} {vs : List Value} {ws : List Named.Value}
    (h : SpeltAll t vs ws) (hvs : Value.IsTextAll vs) :
    Value.IsTextAll (Named.Value.toValues ws) := by
  cases h with
  | nil => trivial
  | cons h hs => exact ⟨h.isText hvs.1, hs.isTextAll hvs.2⟩

end

namespace Session

def fresh (sink : Sink) (comments : Bool) : Session :=
  { start sink with comments }

def formsOf (text : String) (s : Session) : Except ReadError (List Named.Value) :=
  (Reader.readAll s.comments text s.symbols).1.map Value.toNamedAll

def ending : EStateM.Result Error Session Value → Except Error.Kind String × String
  | .ok v s => (.ok v.written, s.world.output)
  | .error err s => (.error err.kind, s.world.output)

variable {t : SymbolTable} {s : Session} {s' : Named.Session} {text : String}
  {forms : List Named.Value}

lemma withComments_spelt (h : SessionSpelt t s s') (comments : Bool) :
    SessionSpelt t { s with comments } { s' with comments } :=
  ⟨h.symbols, h.sound, h.world, h.global, rfl⟩

lemma fresh_spelt (sink : Sink) (comments : Bool) :
    ∃ t, SessionSpelt t (fresh sink comments) { Named.Session.start sink with comments } := by
  obtain ⟨t, hs⟩ := SessionSpelt.start sink
  exact ⟨t, withComments_spelt hs comments⟩

lemma readAll_of_formsOf (hs : SessionSpelt t s s') (h : s.formsOf text = .ok forms) :
    Named.Reader.readAll s'.comments text = .ok forms ∧
      Value.IsTextAll (Named.Value.toValues forms) := by
  obtain rfl := hs.symbols
  obtain ⟨-, -, halike⟩ := Reader.readAll_spelt hs.sound s.comments text
  unfold formsOf at h
  rw [← hs.comments]
  generalize hread : Reader.readAll s.comments text s.symbols = result at h halike
  obtain ⟨outcome, symbols⟩ := result
  generalize Named.Reader.readAll s.comments text = outcome' at halike
  cases halike with
  | error => cases h
  | ok hforms =>
    have hall := speltAll_iff.2 hforms
    obtain rfl : _ = forms := hall.toNamedAll_eq.symm.trans (Except.ok.inj h)
    exact ⟨rfl, hall.isTextAll (Reader.isText_of_readAll hread)⟩

lemma ending_eq_named (hs : SessionSpelt t s s') (text : String) :
    ending (runText text s) = Named.Session.ending (Named.Session.runText text s') := by
  obtain ⟨l, -, ho⟩ := SpeltSession.runText_aligned text t le_rfl s s' hs
  generalize runText text s = result at ho
  generalize Named.Session.runText text s' = result' at ho
  cases ho with
  | ok hv hs => exact Prod.ext (congrArg Except.ok hv.written_eq) hs.world.output
  | error herr hs =>
    have hkind := congrArg Error.kind herr
    exact Prod.ext (congrArg Except.error hkind) hs.world.output

end Session

open Named (Context)
open Named.Value (lambdaForm)

/-- Renaming a parameter throughout its lambda form, to a name that the form does not mention,
changes neither what a program comes to nor its output. The form may stand anywhere. -/
theorem runText_rename_parameter (sink : Sink) (comments : Bool) (text text' : String)
    (before after : List Named.Value) (c : Context) (params body : List Named.Value)
    (x y : String) (hx : ∀ form : SpecialForm, form.name ≠ x)
    (hy : ∀ form : SpecialForm, form.name ≠ y) (hparam : .symbol x ∈ params)
    (hfresh : y ∉ (lambdaForm params body).symbols)
    (htext : (Session.fresh sink comments).formsOf text =
      .ok (before ++ c.fill (lambdaForm params body) :: after))
    (htext' : (Session.fresh sink comments).formsOf text' =
      .ok (before ++ c.fill ((lambdaForm params body).rename x y) :: after)) :
    Session.ending (Session.runText text (Session.fresh sink comments)) =
      Session.ending (Session.runText text' (Session.fresh sink comments)) := by
  -- Both texts run as they do without a table, where the two runs go side by side.
  obtain ⟨t, hs⟩ := Session.fresh_spelt sink comments
  have hglobal := (Named.Session.untouched_start (x := x) (y := y) sink).withComments comments
  generalize Session.fresh sink comments = s at hs htext htext'
  generalize { Named.Session.start sink with comments } = s' at hs hglobal
  have hx : SpecialForm.ofName? x = none := SpecialForm.ofName?_eq_none hx
  have hy : SpecialForm.ofName? y = none := SpecialForm.ofName?_eq_none hy
  obtain ⟨hread, hforms⟩ := Session.readAll_of_formsOf hs htext
  obtain ⟨hread', -⟩ := Session.readAll_of_formsOf hs htext'
  have hfill := (Named.Value.isTextAll_around.1 hforms).2.1
  have hlambda := Named.Variants.CodeAlike.rename_lambda hx hparam
    (Context.isText_of_fill hfill) hfresh
  have halike := Named.Variants.FormsAlike.around hforms (hlambda.fill c hfill)
  calc Session.ending (Session.runText text s)
      = Named.Session.ending (Named.Session.runText text s') := Session.ending_eq_named hs text
    _ = Named.Session.ending (Named.Session.runText text' s') :=
        Named.Session.ending_eq hx hy hglobal hread hread' halike
    _ = Session.ending (Session.runText text' s) := (Session.ending_eq_named hs text').symm

namespace Toggle

def text : String :=
  "(define f (lambda (x) (lambda () (set! x (not x)) x))) (display ((f #t)))"

def text' : String :=
  "(define f (lambda (f) (lambda () (set! f (not f)) f))) (display ((f #t)))"

def params : List Named.Value := [.symbol "x"]

def body : List Named.Value :=
  [lambdaForm [] [.list [.symbol "set!", .symbol "x", .list [.symbol "not", .symbol "x"]],
    .symbol "x"]]

def context : Context :=
  .inside [.symbol "define", .symbol "f"] .hole []

def after : List Named.Value :=
  [.list [.symbol "display", .list [.list [.symbol "f", .bool true]]]]

end Toggle

open Toggle in
theorem runText_rename_parameter_toggle :
    Session.ending (Session.runText Toggle.text (Session.fresh ⟨none, none⟩ false)) =
      (.ok "#<unspecified>", "#f\n") ∧
    Session.ending (Session.runText Toggle.text (Session.fresh ⟨none, none⟩ false)) =
      Session.ending (Session.runText Toggle.text' (Session.fresh ⟨none, none⟩ false)) := by
  refine ⟨by decide +kernel, ?_⟩
  have hname : ∀ form : SpecialForm, form.name ≠ "x" ∧ form.name ≠ "f" := by
    intro form
    cases form <;> decide
  exact runText_rename_parameter ⟨none, none⟩ false Toggle.text Toggle.text' [] after context
    params body "x" "f" (fun form => (hname form).1) (fun form => (hname form).2) (.head _)
    (by decide) (by cbv) (by cbv)

end SmallScheme
