import SmallScheme.Proofs.Adequacy
import SmallScheme.Proofs.Assignment

namespace SmallScheme

open Semantics Eval

inductive WellShaped : SpecialForm → List Value → Prop
  | lambda {params : List Symbol} {body : List Value} : Distinct params → body ≠ [] →
      WellShaped .lambda (.list (params.map .symbol) :: body)
  | define (t : Symbol) (x : Value) : WellShaped .define [.symbol t, x]
  | conditional (test first : Value) (second : Option Value) :
      WellShaped .conditional (test :: first :: second.toList)
  | assignment (t : Symbol) (x : Value) : WellShaped .assignment [.symbol t, x]

inductive Offends : List Value → ParameterFault → Prop
  | notSymbol {before : List Symbol} {v : Value} (after : List Value) :
      Distinct before → v.symbol? = none →
      Offends (before.map .symbol ++ v :: after) (.notSymbol v.written)
  | repeated {before : List Symbol} {s t : Symbol} (after : List Value) :
      Distinct before → t ∈ before → t.same s = true →
      Offends (before.map .symbol ++ .symbol s :: after) (.repeated s.name)

inductive Misshapen (head : Value) : SpecialForm → List Value → Error → Prop
  | defineCount {args : List Value} : args.length ≠ 2 →
      Misshapen head .define args (.arity 2 args.length (some (formText (head :: args))))
  | defineTarget {v x : Value} : v.symbol? = none →
      Misshapen head .define [v, x] (.defineTarget v.written)
  | assignCount {args : List Value} : args.length ≠ 2 →
      Misshapen head .assignment args (.arity 2 args.length (some (formText (head :: args))))
  | assignTarget {v x : Value} : v.symbol? = none →
      Misshapen head .assignment [v, x] (.assignTarget v.written)
  | branches {args : List Value} : args.length ≠ 2 → args.length ≠ 3 →
      Misshapen head .conditional args (.conditional (formText (head :: args)))
  | noParameters : Misshapen head .lambda [] (.arity 2 0 (some (formText [head])))
  | noBody {params : List Value} :
      Misshapen head .lambda [.list params] (.arity 2 1 (some (formText [head, .list params])))
  | notList {v : Value} {body : List Value} : (∀ params, v ≠ .list params) →
      Misshapen head .lambda (v :: body) (.parameters (.notList v.written))
  | parameter {params body : List Value} {fault : ParameterFault} : body ≠ [] →
      Offends params fault → Misshapen head .lambda (.list params :: body) (.parameters fault)

section Parameters

variable {seen : List Symbol} {xs : List Value}

lemma parameters_append {before : List Symbol} (h : Distinct (seen.reverse ++ before))
    (xs : List Value) :
    parameters seen (before.map .symbol ++ xs) = parameters (before.reverse ++ seen) xs := by
  induction before generalizing seen with
  | nil => rfl
  | cons s before ih =>
    have hnew : seen.any (·.same s) = false := by
      rw [List.any_eq_false]
      intro t ht
      simp [(List.pairwise_append.1 h).2.2 t (List.mem_reverse.2 ht) s (by simp)]
    have hrest : Distinct ((s :: seen).reverse ++ before) := by simpa using h
    rw [List.map_cons, List.cons_append, parameters, hnew]
    simpa using ih hrest

lemma Offends.parameters_eq {fault : ParameterFault} (h : Offends xs fault) :
    parameters [] xs = .error (.parameters fault) := by
  cases h with
  | @notSymbol before v after hd hv =>
    have hd : Distinct (([] : List Symbol).reverse ++ before) := hd
    rw [parameters_append hd]
    cases v with
    | symbol s => cases hv
    | _ => rfl
  | @repeated before s t after hd ht hs =>
    have hd : Distinct (([] : List Symbol).reverse ++ before) := hd
    have hseen : (before.reverse ++ []).any (·.same s) = true :=
      List.any_eq_true.2 ⟨t, by simpa using ht, hs⟩
    rw [parameters_append hd, parameters, if_pos hseen]

lemma offends_of_parameters {err : Error} (hd : Distinct seen.reverse)
    (h : parameters seen xs = .error err) :
    ∃ fault, err = .parameters fault ∧ Offends (seen.reverse.map .symbol ++ xs) fault := by
  induction xs generalizing seen with
  | nil => cases h
  | cons x xs ih =>
    cases x with
    | symbol s =>
      rw [parameters] at h
      split at h
      · next hs =>
        obtain ⟨t, ht, hts⟩ := List.any_eq_true.1 hs
        cases h
        exact ⟨_, rfl, .repeated xs hd (List.mem_reverse.2 ht) hts⟩
      · next hs =>
        have hnew : Distinct (s :: seen).reverse := by
          rw [List.reverse_cons]
          refine List.pairwise_append.2 ⟨hd, List.pairwise_singleton _ s, ?_⟩
          intro t ht r hr
          obtain rfl := List.mem_singleton.1 hr
          simpa using (List.any_eq_false.1 (by simpa using hs)) t (List.mem_reverse.1 ht)
        obtain ⟨fault, herr, hoffends⟩ := ih hnew h
        exact ⟨fault, herr, by simpa using hoffends⟩
    | _ =>
      cases h
      exact ⟨_, rfl, .notSymbol xs hd rfl⟩

end Parameters

section Target

variable {fault : String → Error} {act : Symbol → Value → Run Value} {head : Value}

lemma withTarget_of_count {args : List Value} (h : args.length ≠ 2) :
    withTarget fault act (head :: args) =
      throw (.arity 2 args.length (some (formText (head :: args)))) := by
  unfold withTarget
  split
  · next hform =>
    cases hform
    exact absurd rfl h
  · next hform =>
    cases hform
    exact absurd rfl h
  · rfl

lemma withTarget_of_other {v : Value} (hv : v.symbol? = none) (x : Value) :
    withTarget fault act [head, v, x] = throw (fault v.written) := by
  cases v with
  | symbol s => cases hv
  | _ => rfl

end Target

section Shape

variable {head : Value} {s : SpecialForm} {args : List Value} {err : Error}

lemma evalConditional_of_count {inner : Evaluator} {e : Scope} (htwo : args.length ≠ 2)
    (hthree : args.length ≠ 3) :
    evalConditional inner (head :: args) e = throw (.conditional (formText (head :: args))) := by
  match args with
  | [] => rfl
  | [_] => rfl
  | [_, _] => exact absurd rfl htwo
  | [_, _, _] => exact absurd rfl hthree
  | _ :: _ :: _ :: _ :: _ => rfl

lemma evalLambda_of_other {v : Value} {e : Scope} (hv : ∀ params, v ≠ .list params)
    (body : List Value) :
    evalLambda (head :: v :: body) e = throw (.parameters (.notList v.written)) := by
  cases v with
  | list params => exact absurd rfl (hv params)
  | _ => rfl

lemma evalLambda_of_body {params body : List Value} {e : Scope} (h : body ≠ []) :
    evalLambda (head :: .list params :: body) e =
      Run.ofExcept (parameters [] params) >>= fun params => Run.newClosure params body e := by
  cases body with
  | nil => exact absurd rfl h
  | cons x xs => rfl

lemma Misshapen.special_eq (h : Misshapen head s args err) (inner : Evaluator) (e : Scope)
    (w : World) : special s inner (head :: args) e w = .error err w := by
  cases h with
  | defineCount hcount => rw [special, evalDefine_eq, withTarget_of_count hcount]; rfl
  | @defineTarget v x hv => rw [special, evalDefine_eq, withTarget_of_other hv]; rfl
  | assignCount hcount => rw [special, evalAssignment_eq, withTarget_of_count hcount]; rfl
  | @assignTarget v x hv => rw [special, evalAssignment_eq, withTarget_of_other hv]; rfl
  | branches htwo hthree => rw [special, evalConditional_of_count htwo hthree]; rfl
  | noParameters => rfl
  | noBody => rfl
  | @notList v body hv => rw [special, evalLambda_of_other hv]; rfl
  | @parameter params body fault hbody hoffends =>
    rw [special, evalLambda_of_body hbody, hoffends.parameters_eq]
    rfl

lemma target_cases (args : List Value) :
    (∃ t x, args = [.symbol t, x]) ∨ (∃ v x, args = [v, x] ∧ v.symbol? = none) ∨
      args.length ≠ 2 := by
  match args with
  | [v, x] =>
    cases v with
    | symbol t => exact .inl ⟨t, x, rfl⟩
    | _ => exact .inr (.inl ⟨_, x, rfl, rfl⟩)
  | [] | [_] | _ :: _ :: _ :: _ => exact .inr (.inr (by simp))

lemma Misshapen.within_eq (h : Misshapen head s args err) (text : String) :
    err.within text = err := by
  cases h <;> rfl

lemma wellShaped_or_misshapen (head : Value) (s : SpecialForm) (args : List Value) :
    WellShaped s args ∨ ∃ err, Misshapen head s args err := by
  cases s with
  | lambda =>
    rcases args with - | ⟨v, body⟩
    · exact .inr ⟨_, .noParameters⟩
    cases v with
    | list params =>
      rcases body with - | ⟨x, xs⟩
      · exact .inr ⟨_, .noBody⟩
      have hbody : x :: xs ≠ [] := by simp
      cases hparams : parameters [] params with
      | ok names =>
        obtain ⟨rest, rfl, -, hd, -⟩ := parameters_ok_iff.1 hparams
        exact .inl (.lambda hd hbody)
      | error err =>
        have hnil : Distinct ([] : List Symbol).reverse := .nil
        obtain ⟨fault, -, hoffends⟩ := offends_of_parameters hnil hparams
        exact .inr ⟨_, .parameter hbody hoffends⟩
    | _ => exact .inr ⟨_, .notList (by simp)⟩
  | define =>
    rcases target_cases args with ⟨t, x, rfl⟩ | ⟨v, x, rfl, hv⟩ | hcount
    · exact .inl (.define t x)
    · exact .inr ⟨_, .defineTarget hv⟩
    · exact .inr ⟨_, .defineCount hcount⟩
  | conditional =>
    match args with
    | [test, first] => exact .inl (.conditional test first none)
    | [test, first, second] => exact .inl (.conditional test first (some second))
    | [] | [_] | _ :: _ :: _ :: _ :: _ => exact .inr ⟨_, .branches (by simp) (by simp)⟩
  | assignment =>
    rcases target_cases args with ⟨t, x, rfl⟩ | ⟨v, x, rfl, hv⟩ | hcount
    · exact .inl (.assignment t x)
    · exact .inr ⟨_, .assignTarget hv⟩
    · exact .inr ⟨_, .assignCount hcount⟩

lemma WellShaped.exists_ok (head : Value) (h : WellShaped s args) :
    ∃ inner e w v w', special s inner (head :: args) e w = .ok v w' := by
  let inner : Evaluator := fun _ _ => pure .unspecified
  cases h with
  | @lambda params body hd hbody =>
    exact ⟨inner, ⟨0, []⟩, .start .collecting, _, _,
      evalLambda_ok_iff.2 ⟨head, params, body, rfl, hbody, hd, rfl, rfl⟩⟩
  | define t x =>
    exact ⟨inner, ⟨0, []⟩, .start .collecting, _, _,
      evalDefine_ok_iff.2 ⟨head, t, x, _, _, rfl, rfl, rfl, rfl⟩⟩
  | conditional test first second =>
    cases second <;> exact ⟨inner, ⟨0, []⟩, .start .collecting, _, _, rfl⟩
  | assignment t x =>
    let w : World := { World.start .collecting with store := ⟨#[⟨[(t, .unspecified)]⟩], 0⟩ }
    have hhome : w.store.home? ⟨0, []⟩ t = some 0 := by
      simp [w, Store.home?, Scope.chain, Store.frame, Frame.binds, Frame.get?, Symbol.same]
    have hbound : w.store.isBound ⟨0, []⟩ t = true := by
      rw [Store.isBound, hhome]
      rfl
    exact ⟨inner, ⟨0, []⟩, w, _, _,
      evalAssignment_ok_iff.2 ⟨head, t, x, _, _, 0, rfl, hbound, rfl, hhome, rfl, rfl⟩⟩

lemma misshapen_iff : Misshapen head s args err ↔
    ∀ inner e w, special s inner (head :: args) e w = .error err w := by
  refine ⟨fun h => h.special_eq, fun h => ?_⟩
  rcases wellShaped_or_misshapen head s args with hshape | ⟨err', h'⟩
  · obtain ⟨inner, e, w, v, w', hrun⟩ := hshape.exists_ok head
    cases hrun.symm.trans (h inner e w)
  · have hrun := h (fun _ _ => pure .unspecified) ⟨0, []⟩ (.start .collecting)
    rw [h'.special_eq] at hrun
    cases hrun
    exact h'

lemma misshapen_iff_not_wellShaped :
    (∃ err, Misshapen head s args err) ↔ ¬ WellShaped s args := by
  constructor
  · rintro ⟨err, h⟩ hshape
    obtain ⟨inner, e, w, v, w', hrun⟩ := hshape.exists_ok head
    cases hrun.symm.trans (h.special_eq inner e w)
  · exact (wellShaped_or_misshapen head s args).resolve_left

end Shape

section Failure

variable {head : Value} {s : SpecialForm} {args : List Value} {room : Nat} {e : Scope}
  {w w' : World} {err : Error}

inductive PartFails (room : Nat) (head : Value) (args : List Value) (e : Scope) (w : World) :
    SpecialForm → Error → World → Prop
  | unbound {t : Symbol} {x : Value} : args = [.symbol t, x] → w.store.isBound e t = false →
      PartFails room head args e w .assignment (.unbound t.name) w
  | part {s : SpecialForm} {x : Value} {err : Error} {u w' : World} : x ∈ args →
      eval room x e u = .error err w' →
      PartFails room head args e w s (err.within (formText (head :: args))) w'

lemma define_part {inner : Evaluator} {t : Symbol} {x : Value} (head : Value)
    (h : evalDefine inner [head, .symbol t, x] e w = .error err w') :
    inner x e w = .error err w' := by
  cases hx : inner x e w with
  | ok v w₁ =>
    cases (evalDefine_ok_iff.2 ⟨head, t, x, v, w₁, rfl, hx, rfl, rfl⟩).symm.trans h
  | error err₁ w₁ =>
    rw [evalDefine, Run.bind_of_error hx] at h
    exact h

lemma branch_part {inner : Evaluator} {test first : Value} {second : Option Value}
    (h : branch inner test first second e w = .error err w') :
    ∃ x ∈ test :: first :: second.toList, ∃ u, inner x e u = .error err w' := by
  cases htest : inner test e w with
  | error err₁ w₁ =>
    rw [branch.eq_def, Run.bind_of_error htest] at h
    exact ⟨test, by simp, w, htest.trans h⟩
  | ok v w₁ =>
    rw [branch.eq_def, Run.bind_of_ok htest] at h
    split at h
    · exact ⟨first, by simp, w₁, h⟩
    · cases second with
      | none => cases h
      | some y => exact ⟨y, by simp, w₁, h⟩

lemma assignment_part {t : Symbol} {x : Value} (head : Value)
    (h : evalAssignment (eval room) [head, .symbol t, x] e w = .error err w') :
    (w.store.isBound e t = false ∧ err = .unbound t.name ∧ w' = w) ∨
      eval room x e w = .error err w' := by
  cases hbound : w.store.isBound e t with
  | false =>
    rw [evalAssignment_unbound head hbound] at h
    cases h
    exact .inl ⟨rfl, rfl, rfl⟩
  | true =>
    cases hx : eval room x e w with
    | error err₁ w₁ =>
      rw [evalAssignment_of_error head hbound hx] at h
      exact .inr h
    | ok v w₁ =>
      obtain ⟨i, hi⟩ := Store.exists_nearest ((grown_of_eval hx).isBound hbound)
      cases (evalAssignment_of_ok head hbound hx hi).symm.trans h

lemma WellShaped.partFails (hhead : SpecialForm.ofHead? head = some s)
    (hshape : WellShaped s args)
    (h : eval (room + 1) (.list (head :: args)) e w = .error err w') :
    PartFails room head args e w s err w' := by
  rw [eval_of_special hhead] at h
  cases hrun : special s (eval room) (head :: args) e w with
  | ok v w₁ => cases (within_ok_iff.2 hrun).symm.trans h
  | error err₁ w₁ =>
    rw [within_of_error hrun] at h
    cases h
    cases hshape with
    | @lambda params body hd hbody =>
      cases (evalLambda_ok_iff.2 ⟨head, params, body, rfl, hbody, hd, rfl, rfl⟩).symm.trans hrun
    | define t x => exact .part (by simp) (define_part head hrun)
    | conditional test first second =>
      have hbranch : branch (eval room) test first second e w = .error err₁ w' := by
        cases second <;> exact hrun
      obtain ⟨x, hx, u, hfails⟩ := branch_part hbranch
      exact .part hx hfails
    | assignment t x =>
      rcases assignment_part head hrun with ⟨hbound, rfl, rfl⟩ | hx
      · exact .unbound rfl hbound
      · exact .part (by simp) hx

end Failure

section Registry

variable {head : Value} {s : SpecialForm} {args : List Value} {err : Error}

lemma find?_name (s : SpecialForm) : Operation.find? s.name = some (.special s) := by
  cases s <;> decide

lemma WellShaped.admits (h : WellShaped s args) : s.arity.Admits args.length := by
  cases h with
  | @lambda params body _ hbody =>
    have hlength : 0 < body.length := List.length_pos_iff.2 hbody
    exact Nat.succ_le_succ hlength
  | define t x => rfl
  | conditional test first second =>
    cases second with
    | none => exact ⟨by simp, by simp⟩
    | some y => exact ⟨by simp, by simp⟩
  | assignment t x => rfl

lemma Misshapen.kind_of_admits (h : Misshapen head s args err)
    (hcount : s.arity.Admits args.length) : err.kind ≠ .arity ∧ err.kind ≠ .conditional := by
  cases h with
  | defineCount hne => exact absurd hcount hne
  | assignCount hne => exact absurd hcount hne
  | branches htwo hthree =>
    obtain ⟨hleast, hmost⟩ := hcount
    omega
  | noParameters =>
    have hcount : 2 ≤ 0 := hcount
    omega
  | noBody =>
    have hcount : 2 ≤ 1 := hcount
    omega
  | _ => exact ⟨by simp [Error.kind], by simp [Error.kind]⟩

lemma misshapen_of_count (head : Value) (h : s.arity.check args.length ≠ .ok ()) :
    ∃ err, Misshapen head s args err :=
  misshapen_iff_not_wellShaped.2 fun hshape => h (check_eq_ok_iff.2 hshape.admits)

end Registry

/-- A special form is refused whatever its parts would do, in any world and with nothing changed,
exactly when it has not the right shape. Otherwise it fails only as one of its parts fails, or for
an unbound target. A number of operands that the registry does not allow is refused, and one that
it allows is never the reason. -/
theorem refused_iff_misshapen {head : Value} {s : SpecialForm}
    (hhead : SpecialForm.ofHead? head = some s) (args : List Value) :
    (∀ err, Misshapen head s args err ↔
      ∀ inner e w, special s inner (head :: args) e w = .error err w) ∧
    (∀ err, Misshapen head s args err → ∀ room e w,
      eval (room + 1) (.list (head :: args)) e w = .error err w) ∧
    ((∃ err, Misshapen head s args err) ↔ ¬ WellShaped s args) ∧
    (WellShaped s args → ∀ room e w err w',
      eval (room + 1) (.list (head :: args)) e w = .error err w' →
        PartFails room head args e w s err w') ∧
    ∃ op, Operation.find? s.name = some op ∧
      (op.arity.check args.length ≠ .ok () → ∃ err, Misshapen head s args err) ∧
      (op.arity.check args.length = .ok () → ∀ err, Misshapen head s args err →
        err.kind ≠ .arity ∧ err.kind ≠ .conditional) := by
  refine ⟨fun err => misshapen_iff, fun err h room e w => ?_, misshapen_iff_not_wellShaped,
    fun hshape room e w err w' hrun => hshape.partFails hhead hrun, .special s, find?_name s,
    misshapen_of_count head, fun hcount err h => h.kind_of_admits (check_eq_ok_iff.1 hcount)⟩
  rw [eval_of_special hhead, within_of_error (h.special_eq (eval room) e w), h.within_eq]

theorem refused_iff_misshapen_repeated :
    (∀ room e w, eval (room + 1) (.list [.symbol ⟨0, "lambda"⟩, .list [.symbol ⟨4, "x"⟩,
      .symbol ⟨5, "y"⟩, .symbol ⟨4, "x"⟩, .list []], .bool true]) e w =
        .error (.parameters (.repeated "x")) w) ∧
    ∃ err, ∀ room e w,
      eval (room + 1) (.list [.symbol ⟨3, "set!"⟩, .symbol ⟨4, "x"⟩]) e w = .error err w := by
  -- The forms `(lambda (x y x ()) #t)` and `(set! x)`.
  have hlambda : SpecialForm.ofHead? (.symbol ⟨0, "lambda"⟩) = some .lambda := rfl
  have hassign : SpecialForm.ofHead? (.symbol ⟨3, "set!"⟩) = some .assignment := rfl
  constructor
  · have hd : Distinct [⟨4, "x"⟩, ⟨5, "y"⟩] := by simp [Distinct, Symbol.same]
    have hmem : (⟨4, "x"⟩ : Symbol) ∈ [⟨4, "x"⟩, ⟨5, "y"⟩] := by simp
    have hoffends : Offends [.symbol ⟨4, "x"⟩, .symbol ⟨5, "y"⟩, .symbol ⟨4, "x"⟩, .list []]
        (.repeated "x") := .repeated [.list []] hd hmem rfl
    obtain ⟨-, hrefused, -⟩ := refused_iff_misshapen hlambda
      [.list [.symbol ⟨4, "x"⟩, .symbol ⟨5, "y"⟩, .symbol ⟨4, "x"⟩, .list []], .bool true]
    exact hrefused _ (.parameter (by simp) hoffends)
  · obtain ⟨-, hrefused, -, -, op, hop, hcount, -⟩ :=
      refused_iff_misshapen hassign [.symbol ⟨4, "x"⟩]
    obtain rfl : Operation.special .assignment = op := Option.some.inj hop
    have hcheck : (Operation.special .assignment).arity.check 1 ≠ .ok () := by
      simp [Operation.arity, SpecialForm.arity, Arity.check, Arity.broken?]
    obtain ⟨err, herr⟩ := hcount hcheck
    exact ⟨err, hrefused err herr⟩

end SmallScheme
