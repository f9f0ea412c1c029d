import SmallScheme.Proofs.Invariant

/-! The log of a run. Evaluation writes the log and never reads it: whatever was logged before, it
does the same, and adds the same to the log. -/

namespace SmallScheme

open Correspondence

namespace Run

variable {α β : Type}

def withLog (events : Array Event) : EStateM.Result Error World α → EStateM.Result Error World α
  | .ok a w => .ok a { w with events }
  | .error err w => .error err { w with events }

def Quiet (m : Run α) : Prop :=
  ∀ w events, m { w with events } = withLog events (m w)

lemma quiet_ofExcept (outcome : Except Error α) : Quiet (ofExcept outcome) := by
  cases outcome with
  | ok a => exact fun _ _ => rfl
  | error err => exact fun _ _ => rfl

lemma quiet_lookup (e : Scope) (s : Symbol) : Quiet (lookup e s) := by
  intro w events
  rw [lookup, get_bind_apply, get_bind_apply]
  cases w.store.lookup? e s <;> rfl

lemma quiet_assign (e : Scope) (s : Symbol) (v : Value) : Quiet (assign e s v) := by
  intro w events
  rw [assign, get_bind_apply, get_bind_apply]
  cases w.store.home? e s <;> rfl

lemma quiet_write (text : String) : Quiet (write text) := by
  intro w events
  rw [write_apply, write_apply]
  cases w.sink.writeFault with
  | some fault => rfl
  | none => cases w.sink.flushFault <;> rfl

lemma quiet_callExternal (name : String) (slot : Nat) (args : List Value) :
    Quiet (callExternal name slot args) := by
  intro w events
  rw [Run.callExternal_apply, Run.callExternal_apply]
  cases w.externals[slot]? with
  | none => rfl
  | some f =>
    have hresult := quiet_ofExcept (f.function (f.calls + 1) args)
    exact hresult { w with externals := w.externals.setIfInBounds slot ⟨f.calls + 1, _⟩ } events

def logging (log log' : Array Event) : Correspondence Unit World World where
  states _ w w' := ∃ added, w.events = log ++ added ∧ w' = { w with events := log' ++ added }
  errors := Eq

variable {log log' : Array Event}

abbrev Logs (log log' : Array Event) (m : Run α) : Prop :=
  (logging log log').Aligned () (fun _ => Eq) m m

lemma Quiet.logs {m : Run α} (h : Quiet m) : Logs log log' m := by
  rintro _ - w _ ⟨added, hw, rfl⟩
  refine ⟨(), le_rfl, ?_⟩
  have hlog : m w = withLog w.events (m w) := h w w.events
  rw [h w (log' ++ added), hlog, hw]
  generalize m w = result
  cases result with
  | ok a u => exact .ok rfl ⟨added, rfl, rfl⟩
  | error err u => exact .error rfl ⟨added, rfl, rfl⟩

lemma logs_note (event : Event) : Logs log log' (note event) := by
  rintro _ - w _ ⟨added, hw, rfl⟩
  refine ⟨(), le_rfl, .ok rfl ⟨added.push event, ?_, ?_⟩⟩
  · change w.events.push event = _
    rw [hw, Array.append_push]
  · rw [Array.append_push]

lemma Logs.bind {m : Run α} {f : α → Run β} (hm : Logs log log' m)
    (hf : ∀ a, Logs log log' (f a)) : Logs log log' (m >>= f) := by
  refine Aligned.bind hm fun _ _ a b hab => ?_
  obtain rfl := hab
  exact hf a

lemma Logs.does {m : Run Unit} (h : Logs log log' m) :
    (logging log log').Aligned () (fun _ _ _ => True) m m := by
  have hunit : (fun _ _ _ : Unit => True) = fun _ => Eq := by
    funext _ a b
    exact (eq_true (Subsingleton.elim a b)).symm
  rw [hunit]
  exact h

lemma logs_enter (e : Scope) (params : List Symbol) (args : List Value) :
    Logs log log' (numbered.enter e params args) := by
  refine (logs_note _).bind fun _ => ?_
  apply Quiet.logs
  exact fun _ _ => rfl

lemma logs_callHost (p : HostProcedure) (args : List Value) :
    Logs log log' (Eval.callHost p args) := by
  refine (logs_note _).bind fun _ => (quiet_ofExcept _).logs.bind fun _ => ?_
  cases p.code with
  | builtin b => exact (quiet_ofExcept _).logs
  | display => exact (quiet_write _).logs.bind fun _ => Quiet.logs fun _ _ => rfl
  | external slot => exact (quiet_callExternal p.name slot args).logs

end Run

open Run

def relogged (log log' : Array Event) : Simulation numbered numbered Unit Unit where
  runs := logging log log'
  texts := Eq
  names _ := Eq
  values _ := Eq
  code _ _ := Eq
  scopes _ _ := Eq
  errors_refl _ := rfl
  errors_text f _ h := congrArg f h
  errors_within h h' := congr (congrArg Error.within h) h'
  text_name h := congrArg Symbol.name h
  text_value h := congrArg Value.written h
  text_code h := congrArg Value.written h
  same_eq h h' := congrArg₂ Symbol.same h h'
  special_eq h := numbered.special?_congr h
  values_mono _ h := h
  code_mono _ h := h
  scopes_mono _ h := h
  unspecified _ := rfl
  code_shapes := by
    rintro _ _ x _ rfl
    cases x with
    | symbol s => exact .symbol rfl
    | list form => exact .list (List.forall₂_refl form)
    | _ => exact .constant trivial trivial rfl
  value_shapes := by
    rintro _ v _ rfl
    cases v with
    | bool b => exact .bool b
    | host p => exact .host p
    | closure i params body e =>
      refine .closure ⟨rfl, fun hargs _ => ⟨(), List.forall₂_refl body, ?_⟩⟩
      obtain rfl := List.forall₂_eq_eq_eq ▸ hargs
      exact logs_enter e params _
    | _ => exact .inert trivial trivial
  lookup := by
    rintro _ _ e _ s _ rfl rfl
    exact (quiet_lookup e s).logs
  isBound := by
    rintro _ _ e _ s _ rfl rfl
    exact Quiet.logs fun _ _ => rfl
  define := by
    rintro _ _ e _ s _ v _ rfl rfl rfl
    exact ((logs_note _).bind fun _ => Quiet.logs fun _ _ => rfl).does
  assign := by
    rintro _ _ e _ s _ v _ rfl rfl rfl
    exact ((logs_note _).bind fun _ => (quiet_assign e s v).logs).does
  newClosure := by
    rintro _ _ e _ xs params params' body body' rfl - - hps hforms
    obtain rfl := List.forall₂_eq_eq_eq ▸ hps
    obtain rfl := List.forall₂_eq_eq_eq ▸ hforms
    exact Quiet.logs fun _ _ => rfl
  callHost p _ _ hargs := by
    obtain rfl := List.forall₂_eq_eq_eq ▸ hargs
    exact logs_callHost p _

lemma logs_sequence (log log' : Array Event) (e : Scope) (last : Value) (forms : List Value) :
    Logs log log' (Eval.sequence evaluate e last forms) := by
  change Logs log log' (Eval.sequence (Eval.eval depthLimit) e last forms)
  have hforms : List.Forall₂ Eq forms forms := List.forall₂_refl forms
  rw [Eval.sequence_eq, Eval.eval_eq]
  exact Simulation.sequence_aligned (S := relogged log log') (r := ())
    ((relogged log log').eval_aligned depthLimit) hforms rfl rfl

end SmallScheme
