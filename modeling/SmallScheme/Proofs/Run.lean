import SmallScheme.Eval
import SmallScheme.Proofs.Alignment

namespace SmallScheme

namespace Run

variable {α β : Type} {w w' : World}

lemma bind_ok_iff {m : Run α} {f : α → Run β} {b : β} :
    (m >>= f) w = .ok b w' ↔ ∃ a u, m w = .ok a u ∧ f a u = .ok b w' := by
  change EStateM.bind m f w = _ ↔ _
  unfold EStateM.bind
  cases m w with
  | ok a u =>
    constructor
    · intro h
      exact ⟨a, u, rfl, h⟩
    · rintro ⟨_, _, h, hf⟩
      cases h
      exact hf
  | error e u => simp

lemma bind_of_ok {m : Run α} {a : α} (h : m w = .ok a w') (f : α → Run β) :
    (m >>= f) w = f a w' := by
  change EStateM.bind m f w = _
  rw [EStateM.bind, h]

lemma bind_of_error {m : Run α} {err : Error} (h : m w = .error err w') (f : α → Run β) :
    (m >>= f) w = .error err w' := by
  change EStateM.bind m f w = _
  rw [EStateM.bind, h]

@[simp]
lemma pure_ok_iff {a b : α} : (pure a : Run α) w = .ok b w' ↔ a = b ∧ w = w' := by
  change EStateM.Result.ok a w = _ ↔ _
  simp

@[simp]
lemma throw_ok_iff {e : Error} {b : α} : (throw e : Run α) w = .ok b w' ↔ False := by
  change EStateM.Result.error e w = _ ↔ _
  simp

@[simp]
lemma ofExcept_ok_iff {outcome : Except Error α} {b : α} :
    ofExcept outcome w = .ok b w' ↔ outcome = .ok b ∧ w = w' := by
  cases outcome with
  | ok a => simp [ofExcept]
  | error e => simp [ofExcept]

@[simp]
lemma get_ok_iff {u : World} : (get : Run World) w = .ok u w' ↔ w = u ∧ w = w' := by
  change EStateM.Result.ok w w = _ ↔ _
  simp

lemma get_bind_apply (f : World → Run α) : (get >>= f) w = f w w := rfl

@[simp]
lemma modify_ok_iff {f : World → World} {b : PUnit} :
    (modify f : Run PUnit) w = .ok b w' ↔ f w = w' := by
  change EStateM.Result.ok PUnit.unit (f w) = _ ↔ _
  simp

@[simp]
lemma note_ok_iff {event : Event} {b : Unit} :
    note event w = .ok b w' ↔ { w with events := w.events.push event } = w' :=
  modify_ok_iff

@[simp]
lemma lookup_ok_iff {e : Scope} {s : Symbol} {v : Value} :
    lookup e s w = .ok v w' ↔ w.store.lookup? e s = some v ∧ w = w' := by
  rw [lookup, get_bind_apply]
  cases w.store.lookup? e s with
  | none => simp
  | some u => simp

@[simp]
lemma define_ok_iff {e : Scope} {s : Symbol} {v : Value} {b : Unit} :
    define e s v w = .ok b w' ↔ { w with store := w.store.define e s v } = w' :=
  modify_ok_iff

@[simp]
lemma assign_ok_iff {e : Scope} {s : Symbol} {v : Value} {b : Unit} :
    assign e s v w = .ok b w' ↔
      ∃ i, w.store.home? e s = some i ∧ { w with store := w.store.put i s v } = w' := by
  rw [assign, get_bind_apply]
  cases w.store.home? e s with
  | none => simp
  | some i => simp

@[simp]
lemma newChild_ok_iff {e e' : Scope} :
    newChild e w = .ok e' w' ↔
      (w.store.newChild e).1 = e' ∧ { w with store := (w.store.newChild e).2 } = w' := by
  change EStateM.Result.ok (w.store.newChild e).1 { w with store := (w.store.newChild e).2 } = _ ↔ _
  simp only [EStateM.Result.ok.injEq]

@[simp]
lemma newClosure_ok_iff {params : List Symbol} {body : List Value} {e : Scope} {v : Value} :
    newClosure params body e w = .ok v w' ↔
      Value.closure w.store.closures params body e = v ∧
        { w with store := w.store.newClosure.2 } = w' := by
  change EStateM.Result.ok (Value.closure w.store.closures params body e)
    { w with store := w.store.newClosure.2 } = _ ↔ _
  simp only [EStateM.Result.ok.injEq]

end Run

namespace Eval

variable {inner body : Evaluator} {w w' : World} {e : Scope}

lemma within_ok_iff {form : List Value} {run : Run Value} {v : Value} :
    within form run w = .ok v w' ↔ run w = .ok v w' := by
  unfold within
  cases run w with
  | ok u u' => simp
  | error err u' => simp

@[simp]
lemma operands_nil_ok_iff {vs : List Value} :
    operands inner e [] w = .ok vs w' ↔ [] = vs ∧ w = w' :=
  Run.pure_ok_iff

lemma operands_cons_ok_iff {x : Value} {xs vs : List Value} :
    operands inner e (x :: xs) w = .ok vs w' ↔
      ∃ v us u, inner x e w = .ok v u ∧ operands inner e xs u = .ok us w' ∧ v :: us = vs := by
  simp only [operands, Run.bind_ok_iff, Run.pure_ok_iff]
  constructor
  · rintro ⟨v, u, hx, us, _, hxs, hv, rfl⟩
    exact ⟨v, us, u, hx, hxs, hv⟩
  · rintro ⟨v, us, u, hx, hxs, hv⟩
    exact ⟨v, u, hx, us, w', hxs, hv, rfl⟩

@[simp]
lemma sequence_nil_ok_iff {last v : Value} :
    sequence inner e last [] w = .ok v w' ↔ last = v ∧ w = w' :=
  Run.pure_ok_iff

lemma sequence_cons_ok_iff {last x v : Value} {xs : List Value} :
    sequence inner e last (x :: xs) w = .ok v w' ↔
      ∃ u w₁, inner x e w = .ok u w₁ ∧ sequence inner e u xs w₁ = .ok v w' :=
  Run.bind_ok_iff

lemma callClosure_ok_iff {params : List Symbol} {forms args : List Value} {v : Value} :
    callClosure body params forms e args w = .ok v w' ↔
      sequence body (w.store.newChild e).1 .unspecified forms
        { w with
          events := w.events.push (.closureCall params.length)
          store := (w.store.newChild e).2.defineAll (w.store.newChild e).1 params args }
        = .ok v w' := by
  simp only [callClosure, Run.bind_ok_iff, Run.note_ok_iff, Run.newChild_ok_iff,
    Run.modify_ok_iff]
  constructor
  · rintro ⟨_, _, rfl, _, _, ⟨rfl, rfl⟩, _, _, rfl, h⟩
    exact h
  · intro h
    exact ⟨(), _, rfl, _, _, ⟨rfl, rfl⟩, (), _, rfl, h⟩

lemma parameters_ok_iff {seen params : List Symbol} {xs : List Value} :
    parameters seen xs = .ok params ↔
      ∃ rest, xs = rest.map .symbol ∧ params = seen.reverse ++ rest ∧
        rest.Pairwise (fun s t => s.same t = false) ∧
        ∀ s ∈ seen, ∀ t ∈ rest, s.same t = false := by
  induction xs generalizing seen with
  | nil =>
    constructor
    · intro h
      cases h
      exact ⟨[], by simp⟩
    · rintro ⟨rest, hx, rfl, -⟩
      obtain rfl := List.map_eq_nil_iff.1 hx.symm
      simp [parameters]
  | cons x xs ih =>
    cases x with
    | symbol s =>
      simp only [parameters]
      split
      · next hs =>
        obtain ⟨t, ht, hts⟩ := List.any_eq_true.1 hs
        constructor
        · simp
        · rintro ⟨rest, hx, -, -, hd⟩
          obtain ⟨r, rest, rfl, hr, -⟩ := List.map_eq_cons_iff.1 hx.symm
          cases hr
          simp [hd t ht s (by simp)] at hts
      · next hs =>
        have hs' : ∀ t ∈ seen, t.same s = false := by simpa using hs
        rw [ih]
        constructor
        · rintro ⟨rest, rfl, rfl, hp, hd⟩
          refine ⟨s :: rest, rfl, by simp, List.pairwise_cons.2 ⟨hd s (by simp), hp⟩, ?_⟩
          intro t ht r hr
          rcases List.mem_cons.1 hr with rfl | hr
          · exact hs' t ht
          · exact hd t (List.mem_cons_of_mem _ ht) r hr
        · rintro ⟨rest, hx, rfl, hp, hd⟩
          obtain ⟨r, rest, rfl, hr, rfl⟩ := List.map_eq_cons_iff.1 hx.symm
          cases hr
          obtain ⟨hr, hp⟩ := List.pairwise_cons.1 hp
          refine ⟨rest, rfl, by simp, hp, ?_⟩
          intro t ht q hq
          rcases List.mem_cons.1 ht with rfl | ht
          · exact hr q hq
          · exact hd t ht q (List.mem_cons_of_mem _ hq)
    | _ =>
      constructor
      · simp [parameters]
      · rintro ⟨rest, hx, -⟩
        obtain ⟨r, rest, rfl, hr, -⟩ := List.map_eq_cons_iff.1 hx.symm
        cases hr

lemma evalLambda_ok_iff {form : List Value} {v : Value} :
    evalLambda form e w = .ok v w' ↔
      ∃ head params forms, form = head :: .list (params.map .symbol) :: forms ∧ forms ≠ [] ∧
        params.Pairwise (fun s t => s.same t = false) ∧
        Value.closure w.store.closures params forms e = v ∧
        { w with store := w.store.newClosure.2 } = w' := by
  unfold evalLambda
  split
  · next head xs =>
    constructor
    · simp
    · rintro ⟨_, params, forms, hf, hn, -⟩
      cases hf
      simp at hn
  · next head xs forms hn =>
    simp only [Run.bind_ok_iff, Run.ofExcept_ok_iff, Run.newClosure_ok_iff, parameters_ok_iff]
    constructor
    · rintro ⟨params, _, ⟨⟨_, rfl, rfl, hp, -⟩, rfl⟩, hv, hw⟩
      exact ⟨head, params, forms, rfl, hn, hp, hv, hw⟩
    · rintro ⟨_, params, _, hf, -, hp, hv, hw⟩
      cases hf
      exact ⟨params, w, ⟨⟨params, rfl, rfl, hp, by simp⟩, rfl⟩, hv, hw⟩
  · next head v rest hl hn =>
    constructor
    · simp
    · rintro ⟨_, params, forms, hf, -⟩
      cases hf
      exact (hn _ rfl).elim
  · next hn hl hm =>
    constructor
    · simp
    · rintro ⟨head, params, forms, rfl, -⟩
      exact (hm _ _ _ rfl).elim

lemma evalDefine_ok_iff {form : List Value} {v : Value} :
    evalDefine inner form e w = .ok v w' ↔
      ∃ head s x u w₁, form = [head, .symbol s, x] ∧ inner x e w = .ok u w₁ ∧
        .unspecified = v ∧
        { w₁ with
          events := w₁.events.push (.defined s.name u)
          store := w₁.store.define e s u } = w' := by
  unfold evalDefine
  split
  · next head s x =>
    simp only [Run.bind_ok_iff, Run.note_ok_iff, Run.define_ok_iff, Run.pure_ok_iff]
    constructor
    · rintro ⟨u, w₁, hx, _, _, rfl, _, _, rfl, hv, rfl⟩
      exact ⟨head, s, x, u, w₁, rfl, hx, hv, rfl⟩
    · rintro ⟨_, _, _, u, w₁, hf, hx, hv, rfl⟩
      cases hf
      exact ⟨u, w₁, hx, (), _, rfl, (), _, rfl, hv, rfl⟩
  · next head target x hn =>
    constructor
    · simp
    · rintro ⟨_, s, _, _, _, hf, -⟩
      cases hf
      exact (hn _ rfl).elim
  · next hn hm =>
    constructor
    · simp
    · rintro ⟨head, s, x, _, _, rfl, -⟩
      exact (hm _ _ _ rfl).elim

lemma evalAssignment_ok_iff {form : List Value} {v : Value} :
    evalAssignment inner form e w = .ok v w' ↔
      ∃ head s x u w₁ i, form = [head, .symbol s, x] ∧ w.store.isBound e s = true ∧
        inner x e w = .ok u w₁ ∧ w₁.store.home? e s = some i ∧ .unspecified = v ∧
        { w₁ with
          events := w₁.events.push (.assigned s.name u)
          store := w₁.store.put i s u } = w' := by
  unfold evalAssignment
  split
  · next head s x =>
    rw [Run.bind_ok_iff]
    simp only [Run.get_ok_iff]
    constructor
    · rintro ⟨_, _, ⟨rfl, rfl⟩, h⟩
      split at h
      · next hb =>
        simp only [Run.bind_ok_iff, Run.note_ok_iff, Run.assign_ok_iff, Run.pure_ok_iff] at h
        obtain ⟨u, w₁, hx, _, _, rfl, _, _, ⟨i, hi, rfl⟩, hv, rfl⟩ := h
        exact ⟨head, s, x, u, w₁, i, rfl, hb, hx, hi, hv, rfl⟩
      · simp at h
    · rintro ⟨_, _, _, u, w₁, i, hf, hb, hx, hi, hv, rfl⟩
      cases hf
      refine ⟨w, w, ⟨rfl, rfl⟩, ?_⟩
      rw [if_pos hb]
      simp only [Run.bind_ok_iff, Run.note_ok_iff, Run.assign_ok_iff, Run.pure_ok_iff]
      exact ⟨u, w₁, hx, (), _, rfl, (), _, ⟨i, hi, rfl⟩, hv, rfl⟩
  · next head target x hn =>
    constructor
    · simp
    · rintro ⟨_, s, _, _, _, _, hf, -⟩
      cases hf
      exact (hn _ rfl).elim
  · next hn hm =>
    constructor
    · simp
    · rintro ⟨head, s, x, _, _, _, rfl, -⟩
      exact (hm _ _ _ rfl).elim

lemma branch_ok_iff {test first v : Value} {second : Option Value} :
    branch inner test first second e w = .ok v w' ↔
      ∃ u w₁, inner test e w = .ok u w₁ ∧
        (u = .bool true ∧ inner first e w₁ = .ok v w' ∨
          u ≠ .bool true ∧ ((∃ y, second = some y ∧ inner y e w₁ = .ok v w') ∨
            second = none ∧ .unspecified = v ∧ w₁ = w')) := by
  unfold branch
  rw [Run.bind_ok_iff]
  refine exists_congr fun u => exists_congr fun w₁ => and_congr_right fun _ => ?_
  split
  · simp
  · next hn =>
    have hu : u ≠ .bool true := fun h => hn h
    cases second with
    | none => simp [hu]
    | some y => simp [hu]

lemma evalConditional_ok_iff {form : List Value} {v : Value} :
    evalConditional inner form e w = .ok v w' ↔
      ∃ head test first second, form = head :: test :: first :: second.toList ∧
        branch inner test first second e w = .ok v w' := by
  unfold evalConditional
  split
  · next head test first =>
    constructor
    · intro h
      exact ⟨head, test, first, none, rfl, h⟩
    · rintro ⟨_, _, _, second, hf, h⟩
      cases second with
      | none => cases hf; exact h
      | some y => cases hf
  · next head test first second =>
    constructor
    · intro h
      exact ⟨head, test, first, some second, rfl, h⟩
    · rintro ⟨_, _, _, second, hf, h⟩
      cases second with
      | none => cases hf
      | some y => cases hf; exact h
  · next hn hm =>
    constructor
    · simp
    · rintro ⟨head, test, first, second, rfl, -⟩
      cases second with
      | none => exact (hn _ _ _ rfl).elim
      | some y => exact (hm _ _ _ _ rfl).elim

lemma evalCall_ok_iff {procedure v : Value} {form args : List Value} :
    evalCall inner body procedure form args e w = .ok v w' ↔
      (∃ p vs w₁, procedure = .host p ∧ operands inner e args w = .ok vs w₁ ∧
        callHost p vs w₁ = .ok v w') ∨
      (∃ identity params forms captured vs w₁,
        procedure = .closure identity params forms captured ∧ params.length = args.length ∧
        operands inner e args w = .ok vs w₁ ∧
        callClosure body params forms captured vs w₁ = .ok v w') ∨
      (procedure.isProcedure = false ∧ args = [] ∧ procedure = v ∧ w = w') := by
  unfold evalCall
  split
  · next p => simp [Run.bind_ok_iff, call, Value.isProcedure]
  · next identity params forms captured =>
    split
    · next hl =>
      simp only [Run.bind_ok_iff, call]
      constructor
      · rintro ⟨vs, w₁, ho, hc⟩
        exact .inr (.inl ⟨_, _, _, _, vs, w₁, rfl, hl, ho, hc⟩)
      · rintro (⟨_, _, _, hp, -⟩ | ⟨_, _, _, _, vs, w₁, hp, -, ho, hc⟩ | ⟨hp, -⟩)
        · cases hp
        · cases hp
          exact ⟨vs, w₁, ho, hc⟩
        · simp [Value.isProcedure] at hp
    · next hl =>
      constructor
      · simp
      · rintro (⟨_, _, _, hp, -⟩ | ⟨_, _, _, _, vs, w₁, hp, hl', -⟩ | ⟨hp, -⟩)
        · cases hp
        · cases hp
          exact (hl hl').elim
        · simp [Value.isProcedure] at hp
  · next hh hc =>
    have hp : procedure.isProcedure = false := by
      cases procedure with
      | host p => exact (hh p rfl).elim
      | closure _ _ _ _ => exact (hc _ _ _ _ rfl).elim
      | _ => rfl
    cases args with
    | nil =>
      rw [List.isEmpty_nil, if_pos rfl, Run.pure_ok_iff]
      constructor
      · rintro ⟨hv, hw⟩
        exact .inr (.inr ⟨hp, rfl, hv, hw⟩)
      · rintro (⟨p, _, _, rfl, -⟩ | ⟨_, _, _, _, _, _, rfl, -⟩ | ⟨-, -, hv, hw⟩)
        · exact (hh _ rfl).elim
        · exact (hc _ _ _ _ rfl).elim
        · exact ⟨hv, hw⟩
    | cons x xs =>
      constructor
      · simp
      · rintro (⟨p, _, _, rfl, -⟩ | ⟨_, _, _, _, _, _, rfl, -⟩ | ⟨-, hx, -⟩)
        · exact (hh _ rfl).elim
        · exact (hc _ _ _ _ rfl).elim
        · cases hx

lemma evalForm_ok_iff {form : List Value} {v : Value} :
    evalForm inner body form e w = .ok v w' ↔
      ∃ head args, form = head :: args ∧
        ((∃ s, SpecialForm.ofHead? head = some s ∧ special s inner form e w = .ok v w') ∨
          (SpecialForm.ofHead? head = none ∧ ∃ procedure w₁, inner head e w = .ok procedure w₁ ∧
            evalCall inner body procedure form args e w₁ = .ok v w')) := by
  cases form with
  | nil => simp [evalForm]
  | cons head args =>
    simp only [evalForm]
    cases hs : SpecialForm.ofHead? head with
    | some s =>
      constructor
      · intro h
        exact ⟨head, args, rfl, .inl ⟨s, hs, h⟩⟩
      · rintro ⟨_, _, hf, ⟨t, ht, h⟩ | ⟨ht, -⟩⟩
        · cases hf
          rw [hs] at ht
          cases ht
          exact h
        · cases hf
          simp [hs] at ht
    | none =>
      simp only [Run.bind_ok_iff]
      constructor
      · intro h
        exact ⟨head, args, rfl, .inr ⟨hs, h⟩⟩
      · rintro ⟨_, _, hf, ⟨t, ht, -⟩ | ⟨-, h⟩⟩
        · cases hf
          simp [hs] at ht
        · cases hf
          exact h

lemma evalForm_of_special {s : SpecialForm} {head v : Value} {args : List Value}
    (hs : SpecialForm.ofHead? head = some s) (h : special s inner (head :: args) e w = .ok v w') :
    evalForm inner body (head :: args) e w = .ok v w' :=
  evalForm_ok_iff.2 ⟨head, args, rfl, .inl ⟨s, hs, h⟩⟩

lemma evalForm_of_branch {head test first v : Value} {second : Option Value}
    (hs : SpecialForm.ofHead? head = some .conditional)
    (h : branch inner test first second e w = .ok v w') :
    evalForm inner body (head :: test :: first :: second.toList) e w = .ok v w' :=
  evalForm_of_special hs (evalConditional_ok_iff.2 ⟨head, test, first, second, rfl, h⟩)

lemma evalForm_of_call {head procedure v : Value} {args : List Value} {w₁ : World}
    (hs : SpecialForm.ofHead? head = none) (hh : inner head e w = .ok procedure w₁)
    (h : evalCall inner body procedure (head :: args) args e w₁ = .ok v w') :
    evalForm inner body (head :: args) e w = .ok v w' :=
  evalForm_ok_iff.2 ⟨head, args, rfl, .inr ⟨hs, procedure, w₁, hh, h⟩⟩

lemma within_of_error {form : List Value} {run : Run Value} {err : Error}
    (h : run w = .error err w') : within form run w = .error (err.within (formText form)) w' := by
  rw [within, h]

lemma eval_of_special {s : SpecialForm} {head : Value} (hs : SpecialForm.ofHead? head = some s)
    (room : Nat) (args : List Value) (e : Scope) :
    eval (room + 1) (.list (head :: args)) e =
      within (head :: args) (special s (eval room) (head :: args) e) := by
  simp only [eval_succ, level, evalForm, hs]

lemma eval_of_ordinary {head : Value} (hs : SpecialForm.ofHead? head = none) (room : Nat)
    (args : List Value) (e : Scope) :
    eval (room + 1) (.list (head :: args)) e = within (head :: args) (eval room head e >>= fun p =>
      evalCall (eval room) (eval (room - 1)) p (head :: args) args e) := by
  simp only [eval_succ, level, evalForm, hs]

lemma within_eq (form : List Value) (run : Run Value) :
    within form run = mapError (Error.within (formText form)) run := by
  funext w
  unfold within mapError
  cases run w <;> rfl

def withTarget (fault : String → Error) (act : Symbol → Value → Run Value) (form : List Value) :
    Run Value :=
  match form with
  | [_, .symbol s, x] => act s x
  | [_, target, _] => throw (fault target.written)
  | _ => throw (notTwo form)

lemma evalDefine_eq (inner : Evaluator) (form : List Value) (e : Scope) :
    evalDefine inner form e = withTarget .defineTarget (fun s x => do
      let v ← inner x e
      Run.note (.defined s.name v)
      Run.define e s v
      pure .unspecified) form := rfl

lemma evalAssignment_eq (inner : Evaluator) (form : List Value) (e : Scope) :
    evalAssignment inner form e = withTarget .assignTarget (fun s x => do
      if (← get).store.isBound e s then
        let v ← inner x e
        Run.note (.assigned s.name v)
        Run.assign e s v
        pure .unspecified
      else throw (.unbound s.name)) form := rfl

end Eval

end SmallScheme
