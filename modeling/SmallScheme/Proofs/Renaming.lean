import Mathlib.Data.List.Forall2
import Mathlib.Order.Basic
import SmallScheme.Proofs.BuiltinView
import SmallScheme.Proofs.Reachability
import SmallScheme.Value.Text

/-! One-to-one renamings of frames and of closures. Values that a renaming takes to each other
cannot be told apart: they have the same texts and the built-in procedures answer alike. -/

namespace SmallScheme

structure Renaming where
  frame : Nat → Nat → Prop
  identity : Nat → Nat → Prop
  frame_iff {i i' j j' : Nat} : frame i i' → frame j j' → (i = j ↔ i' = j')
  identity_iff {i i' j j' : Nat} : identity i i' → identity j j' → (i = j ↔ i' = j')

namespace Renaming

instance : Preorder Renaming where
  le R S := (∀ i j, R.frame i j → S.frame i j) ∧ ∀ i j, R.identity i j → S.identity i j
  le_refl _ := ⟨fun _ _ h => h, fun _ _ h => h⟩
  le_trans _ _ _ h h' := ⟨fun i j hf => h'.1 i j (h.1 i j hf), fun i j hf => h'.2 i j (h.2 i j hf)⟩

def Scopes (R : Renaming) (e e' : Scope) : Prop :=
  List.Forall₂ R.frame e.chain e'.chain

def withFrame (R : Renaming) (n n' : Nat) (h : ∀ i j, R.frame i j → (i = n ↔ j = n')) :
    Renaming where
  frame i j := R.frame i j ∨ i = n ∧ j = n'
  identity := R.identity
  frame_iff := by
    rintro i i' j j' (hi | ⟨rfl, rfl⟩) (hj | ⟨rfl, rfl⟩)
    · exact R.frame_iff hi hj
    · exact h _ _ hi
    · exact eq_comm.trans ((h _ _ hj).trans eq_comm)
    · simp
  identity_iff := R.identity_iff

def withIdentity (R : Renaming) (n n' : Nat) (h : ∀ i j, R.identity i j → (i = n ↔ j = n')) :
    Renaming where
  frame := R.frame
  identity i j := R.identity i j ∨ i = n ∧ j = n'
  frame_iff := R.frame_iff
  identity_iff := by
    rintro i i' j j' (hi | ⟨rfl, rfl⟩) (hj | ⟨rfl, rfl⟩)
    · exact R.identity_iff hi hj
    · exact h _ _ hi
    · exact eq_comm.trans ((h _ _ hj).trans eq_comm)
    · simp

def on (R : Renaming) (P : Nat → Prop) : Renaming where
  frame i j := R.frame i j ∧ P i
  identity := R.identity
  frame_iff h h' := R.frame_iff h.1 h'.1
  identity_iff := R.identity_iff

def refl : Renaming where
  frame := Eq
  identity := Eq
  frame_iff h h' := by rw [h, h']
  identity_iff h h' := by rw [h, h']

lemma Scopes.mono {R S : Renaming} {e e' : Scope} (h : R.Scopes e e') (hRS : R ≤ S) :
    S.Scopes e e' :=
  h.imp fun i j => hRS.1 i j

lemma Scopes.head {R : Renaming} {e e' : Scope} (h : R.Scopes e e') :
    R.frame e.frame e'.frame := by
  cases h with
  | cons h _ => exact h

lemma Scopes.domain {R : Renaming} {e e' : Scope} (h : R.Scopes e e') :
    ∀ i ∈ e.chain, ∃ j, R.frame i j := by
  intro i hi
  have key : ∀ {is js : List Nat}, List.Forall₂ R.frame is js → ∀ i ∈ is, ∃ j, R.frame i j := by
    intro is js h
    induction h with
    | nil => simp
    | cons h _ ih =>
      intro i hi
      rcases List.mem_cons.1 hi with rfl | hi
      · exact ⟨_, h⟩
      · exact ih i hi
  exact key h i hi

lemma Scopes.on {R : Renaming} {P : Nat → Prop} {e e' : Scope} (h : R.Scopes e e')
    (hP : ∀ i ∈ e.chain, P i) : (R.on P).Scopes e e' := by
  unfold Scopes at *
  generalize e.chain = is at h hP
  generalize e'.chain = js at h
  induction h with
  | nil => exact .nil
  | cons h _ ih =>
    refine .cons ⟨h, hP _ (by simp)⟩ (ih ?_)
    intro i hi
    exact hP i (List.mem_cons_of_mem _ hi)

end Renaming

mutual

inductive Renamed (R : Renaming) : Value → Value → Prop
  | number (x : Float) : Renamed R (.number x) (.number x)
  | symbol (s : Symbol) : Renamed R (.symbol s) (.symbol s)
  | string (text : String) : Renamed R (.string text) (.string text)
  | bool (b : Bool) : Renamed R (.bool b) (.bool b)
  | list {vs ws : List Value} : RenamedAll R vs ws → Renamed R (.list vs) (.list ws)
  | host (p : HostProcedure) : Renamed R (.host p) (.host p)
  | closure {i j : Nat} {params : List Symbol} {body body' : List Value} {e e' : Scope} :
      R.identity i j → RenamedAll R body body' → R.Scopes e e' →
      Renamed R (.closure i params body e) (.closure j params body' e')
  | unspecified : Renamed R .unspecified .unspecified

inductive RenamedAll (R : Renaming) : List Value → List Value → Prop
  | nil : RenamedAll R [] []
  | cons {v w : Value} {vs ws : List Value} :
      Renamed R v w → RenamedAll R vs ws → RenamedAll R (v :: vs) (w :: ws)

end

variable {R S : Renaming}

mutual

lemma Renamed.mono {v w : Value} (h : Renamed R v w) (hRS : R ≤ S) : Renamed S v w := by
  cases h with
  | number x => exact .number x
  | symbol s => exact .symbol s
  | string text => exact .string text
  | bool b => exact .bool b
  | list hs => exact .list (hs.mono hRS)
  | host p => exact .host p
  | closure hi hb he => exact .closure (hRS.2 _ _ hi) (hb.mono hRS) (he.mono hRS)
  | unspecified => exact .unspecified

lemma RenamedAll.mono {vs ws : List Value} (h : RenamedAll R vs ws) (hRS : R ≤ S) :
    RenamedAll S vs ws := by
  cases h with
  | nil => exact .nil
  | cons h hs => exact .cons (h.mono hRS) (hs.mono hRS)

end

lemma renamedAll_iff {vs ws : List Value} : RenamedAll R vs ws ↔ List.Forall₂ (Renamed R) vs ws := by
  constructor
  · intro h
    induction vs generalizing ws with
    | nil =>
      cases h
      exact .nil
    | cons v vs ih =>
      cases h with
      | cons h hs => exact .cons h (ih hs)
  · intro h
    induction h with
    | nil => exact .nil
    | cons h _ ih => exact .cons h ih

lemma RenamedAll.forall₂ {vs ws : List Value} (h : RenamedAll R vs ws) :
    List.Forall₂ (Renamed R) vs ws :=
  renamedAll_iff.1 h

mutual

lemma Renamed.on {P : Nat → Prop} {v w : Value} (h : Renamed R v w) (hP : ∀ i ∈ v.frames, P i) :
    Renamed (R.on P) v w := by
  cases h with
  | number x => exact .number x
  | symbol s => exact .symbol s
  | string text => exact .string text
  | bool b => exact .bool b
  | list hs => exact .list (hs.on hP)
  | host p => exact .host p
  | closure hi hb he =>
    simp only [Value.frames, List.mem_append] at hP
    exact .closure hi (hb.on fun i h => hP i (.inr h)) (he.on fun i h => hP i (.inl h))
  | unspecified => exact .unspecified

lemma RenamedAll.on {P : Nat → Prop} {vs ws : List Value} (h : RenamedAll R vs ws)
    (hP : ∀ i ∈ Value.framesAll vs, P i) : RenamedAll (R.on P) vs ws := by
  cases h with
  | nil => exact .nil
  | cons h hs =>
    simp only [Value.framesAll, List.mem_append] at hP
    exact .cons (h.on fun i h => hP i (.inl h)) (hs.on fun i h => hP i (.inr h))

end

mutual

lemma Renamed.domain {v w : Value} (h : Renamed R v w) : ∀ i ∈ v.frames, ∃ j, R.frame i j := by
  cases h with
  | list hs => exact hs.domain
  | closure _ hb he =>
    intro i hi
    rcases List.mem_append.1 hi with hi | hi
    · exact he.domain i hi
    · exact hb.domain i hi
  | _ => simp [Value.frames]

lemma RenamedAll.domain {vs ws : List Value} (h : RenamedAll R vs ws) :
    ∀ i ∈ Value.framesAll vs, ∃ j, R.frame i j := by
  cases h with
  | nil => simp [Value.framesAll]
  | cons h hs =>
    intro i hi
    rcases List.mem_append.1 hi with hi | hi
    · exact h.domain i hi
    · exact hs.domain i hi

end

lemma Renaming.scopes_refl (e : Scope) : Renaming.refl.Scopes e e :=
  List.forall₂_same.2 fun _ _ => rfl

mutual

lemma renamed_refl (v : Value) : Renamed .refl v v := by
  cases v with
  | number x => exact .number x
  | symbol s => exact .symbol s
  | string text => exact .string text
  | bool b => exact .bool b
  | list vs => exact .list (renamedAll_refl vs)
  | host p => exact .host p
  | closure i params body e => exact .closure rfl (renamedAll_refl body) (Renaming.scopes_refl e)
  | unspecified => exact .unspecified

lemma renamedAll_refl (vs : List Value) : RenamedAll .refl vs vs := by
  cases vs with
  | nil => exact .nil
  | cons v vs => exact .cons (renamed_refl v) (renamedAll_refl vs)

end

mutual

lemma Renamed.spell_eq (style : Style) {v w : Value} (h : Renamed R v w) :
    v.spell style = w.spell style := by
  cases h with
  | list hs =>
    cases hs with
    | nil => rfl
    | cons h hs => rw [Value.spell_cons, Value.spell_cons, h.spell_eq style, hs.spellRest_eq style]
  | _ => rfl

lemma RenamedAll.spellRest_eq (style : Style) {vs ws : List Value} (h : RenamedAll R vs ws) :
    Value.spellRest style vs = Value.spellRest style ws := by
  cases h with
  | nil => rfl
  | cons h hs =>
    rw [Value.spellRest_cons, Value.spellRest_cons, h.spell_eq style, hs.spellRest_eq style]

end

lemma Renamed.written_eq {v w : Value} (h : Renamed R v w) : v.written = w.written :=
  congrArg String.ofList (h.spell_eq .written)

lemma Renamed.displayed_eq {v w : Value} (h : Renamed R v w) : v.displayed = w.displayed :=
  congrArg String.ofList (h.spell_eq .displayed)

mutual

lemma Renamed.equal_eq {v w v' w' : Value} (h : Renamed R v w) (h' : Renamed R v' w') :
    v.equal v' = w.equal w' := by
  cases h with
  | list hs =>
    cases h' with
    | list hs' => exact hs.equalAll_eq hs'
    | _ => rfl
  | closure hi _ _ =>
    cases h' with
    | closure hj _ _ =>
      rw [Value.equal, Value.equal, Bool.eq_iff_iff, beq_iff_eq, beq_iff_eq]
      exact R.identity_iff hi hj
    | _ => rfl
  | _ => cases h' <;> rfl

lemma RenamedAll.equalAll_eq {vs ws vs' ws' : List Value} (h : RenamedAll R vs ws)
    (h' : RenamedAll R vs' ws') : Value.equalAll vs vs' = Value.equalAll ws ws' := by
  cases h with
  | nil => cases h' <;> rfl
  | cons h hs =>
    cases h' with
    | nil => rfl
    | cons h' hs' => rw [Value.equalAll, Value.equalAll, h.equal_eq h', hs.equalAll_eq hs']

end

lemma view_respects (R : Renaming) : Value.view.Respects Value.view (Renamed R) where
  number := .number
  bool := .bool
  number? h := by cases h <;> rfl
  bool? h := by cases h <;> rfl
  typeName h := by cases h <;> rfl
  equal := Renamed.equal_eq

lemma apply_renamed (b : Builtin) {args args' : List Value}
    (h : List.Forall₂ (Renamed R) args args') :
    Alike (Renamed R) (b.apply args) (b.apply args') := by
  rw [Builtin.apply_eq, Builtin.apply_eq]
  exact View.apply_related (view_respects R) b h

end SmallScheme
