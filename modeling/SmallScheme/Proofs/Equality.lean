import SmallScheme.Proofs.ClosureIdentity
import SmallScheme.Proofs.FloatBits

namespace SmallScheme

namespace Number

open Float.Model (UnpackedFloat)

lemma unpacked_beq_iff {a b : UnpackedFloat} :
    a.beq b = true ↔ (a = b ∧ a.isNaN = false) ∨ ∃ s t, a = .zero s ∧ b = .zero t := by
  -- Only the two zeros are equal without being the same.
  rw [UnpackedFloat.beq, beq_iff_eq]
  cases a with
  | notANumber => cases b <;> simp [UnpackedFloat.compare, UnpackedFloat.isNaN]
  | infinity s =>
    cases b with
    | infinity t =>
      cases s <;> cases t <;> simp [UnpackedFloat.compare, UnpackedFloat.isNaN] <;> decide
    | _ => cases s <;> simp [UnpackedFloat.compare, UnpackedFloat.isNaN]
  | zero s =>
    cases b with
    | infinity t => cases t <;> simp [UnpackedFloat.compare, UnpackedFloat.isNaN]
    | finite t m e hm => cases t <;> simp [UnpackedFloat.compare, UnpackedFloat.isNaN]
    | _ => simp [UnpackedFloat.compare, UnpackedFloat.isNaN]
  | finite s m e hm =>
    cases b with
    | infinity t => cases t <;> simp [UnpackedFloat.compare, UnpackedFloat.isNaN]
    | notANumber => simp [UnpackedFloat.compare]
    | zero t => cases s <;> simp [UnpackedFloat.compare, UnpackedFloat.isNaN]
    | finite t m' e' hm' =>
      cases s <;> cases t <;> simp [UnpackedFloat.compare, UnpackedFloat.isNaN, and_comm]

lemma beq_iff {x y : Float} :
    (x == y) = true ↔ (x.toModel.unpack = y.toModel.unpack ∧ x.isNaN = false) ∨
      ∃ s t, x.toModel.unpack = .zero s ∧ y.toModel.unpack = .zero t :=
  unpacked_beq_iff

lemma isNaN_eq (x : Float) : x.isNaN = x.toModel.unpack.isNaN := rfl

lemma beq_symm {x y : Float} (h : (x == y) = true) : (y == x) = true := by
  rw [beq_iff] at h ⊢
  rcases h with ⟨heq, hx⟩ | ⟨s, t, hx, hy⟩
  · rw [isNaN_eq, heq] at hx
    exact .inl ⟨heq.symm, hx⟩
  · exact .inr ⟨t, s, hy, hx⟩

lemma beq_trans {x y z : Float} (h : (x == y) = true) (h' : (y == z) = true) :
    (x == z) = true := by
  rw [beq_iff] at h h' ⊢
  rcases h with ⟨heq, hx⟩ | ⟨s, t, hx, hy⟩
  · rw [heq]
    rcases h' with ⟨heq', -⟩ | hzero
    · exact .inl ⟨heq', hx⟩
    · exact .inr hzero
  · rcases h' with ⟨heq', -⟩ | ⟨_, u, -, hz⟩
    · exact .inr ⟨s, t, hx, heq' ▸ hy⟩
    · exact .inr ⟨s, u, hx, hz⟩

lemma beq_self_iff {x : Float} : (x == x) = true ↔ x.isNaN = false := by
  rw [beq_iff]
  constructor
  · rintro (⟨-, hx⟩ | ⟨s, t, hx, -⟩)
    · exact hx
    · rw [isNaN_eq, hx]
      rfl
  · intro hx
    exact .inl ⟨rfl, hx⟩

end Number

namespace Value

mutual

lemma equal_symm {v w : Value} (h : v.equal w = true) : w.equal v = true := by
  cases v <;> cases w
  case number.number x y => exact Number.beq_symm h
  case symbol.symbol s t => exact BEq.symm h
  case string.string s t => exact BEq.symm h
  case bool.bool b c => exact BEq.symm h
  case list.list vs ws => exact equalAll_symm h
  case host.host p q => exact BEq.symm (a := p.name) h
  case closure.closure i _ _ _ j _ _ _ => exact BEq.symm (a := i) h
  all_goals cases h

lemma equalAll_symm {vs ws : List Value} (h : equalAll vs ws = true) :
    equalAll ws vs = true := by
  match vs, ws with
  | [], [] => rfl
  | v :: vs, w :: ws =>
    rw [equalAll, Bool.and_eq_true] at h ⊢
    exact ⟨equal_symm h.1, equalAll_symm h.2⟩
  | [], _ :: _ | _ :: _, [] => cases h

lemma equal_trans {u v w : Value} (h : u.equal v = true) (h' : v.equal w = true) :
    u.equal w = true := by
  cases u <;> cases v
  case number.number x y =>
    cases w with
    | number z => exact Number.beq_trans h h'
    | _ => cases h'
  case symbol.symbol s t =>
    cases w with
    | symbol r => exact BEq.trans (a := s.index) h h'
    | _ => cases h'
  case string.string s t =>
    cases w with
    | string r => exact BEq.trans (a := s) h h'
    | _ => cases h'
  case bool.bool b c =>
    cases w with
    | bool d => exact BEq.trans (a := b) h h'
    | _ => cases h'
  case list.list us vs =>
    cases w with
    | list ws => exact equalAll_trans h h'
    | _ => cases h'
  case host.host p q =>
    cases w with
    | host r => exact BEq.trans (a := p.name) h h'
    | _ => cases h'
  case closure.closure i _ _ _ j _ _ _ =>
    cases w with
    | closure l _ _ _ => exact BEq.trans (a := i) h h'
    | _ => cases h'
  all_goals cases h

lemma equalAll_trans {us vs ws : List Value} (h : equalAll us vs = true)
    (h' : equalAll vs ws = true) : equalAll us ws = true := by
  match us, vs, ws with
  | [], [], [] => rfl
  | u :: us, v :: vs, w :: ws =>
    rw [equalAll, Bool.and_eq_true] at h h' ⊢
    exact ⟨equal_trans h.1 h'.1, equalAll_trans h.2 h'.2⟩
  | [], _ :: _, _ | _ :: _, [], _ => cases h
  | [], [], _ :: _ | _ :: _, _ :: _, [] => cases h'

end

lemma typeName_eq_of_equal {v w : Value} (h : v.equal w = true) : v.typeName = w.typeName := by
  cases v <;> cases w <;> first | rfl | cases h

inductive OccursIn (u : Value) : Value → Prop
  | self : OccursIn u u
  | element {v : Value} {vs : List Value} : v ∈ vs → OccursIn u v → OccursIn u (.list vs)

def Comparable (v : Value) : Prop :=
  ¬ OccursIn .unspecified v ∧ ∀ x, x.isNaN = true → ¬ OccursIn (.number x) v

lemma comparable_list {vs : List Value} : (list vs).Comparable ↔ ∀ v ∈ vs, v.Comparable := by
  constructor
  · intro h v hv
    exact ⟨fun hu => h.1 (.element hv hu), fun x hx hu => h.2 x hx (.element hv hu)⟩
  · intro h
    refine ⟨fun hu => ?_, fun x hx hu => ?_⟩
    · cases hu with
      | element hv hu => exact (h _ hv).1 hu
    · cases hu with
      | element hv hu => exact (h _ hv).2 x hx hu

lemma comparable_number {x : Float} : (number x).Comparable ↔ x.isNaN = false := by
  rw [← Bool.not_eq_true]
  constructor
  · intro h hx
    exact h.2 x hx .self
  · intro h
    refine ⟨nofun, fun y hy ho => ?_⟩
    cases ho
    exact h hy

mutual

lemma equal_self_iff (v : Value) : v.equal v = true ↔ v.Comparable := by
  cases v with
  | number x => exact Number.beq_self_iff.trans comparable_number.symm
  | list vs => exact (equalAll_self_iff vs).trans comparable_list.symm
  | unspecified => exact iff_of_false nofun fun h => h.1 .self
  | symbol s => exact iff_of_true (BEq.rfl (a := s.index)) ⟨nofun, nofun⟩
  | string text => exact iff_of_true (BEq.rfl (a := text)) ⟨nofun, nofun⟩
  | bool b => exact iff_of_true (BEq.rfl (a := b)) ⟨nofun, nofun⟩
  | host p => exact iff_of_true (BEq.rfl (a := p.name)) ⟨nofun, nofun⟩
  | closure i _ _ _ => exact iff_of_true (BEq.rfl (a := i)) ⟨nofun, nofun⟩

lemma equalAll_self_iff (vs : List Value) :
    equalAll vs vs = true ↔ ∀ v ∈ vs, v.Comparable := by
  match vs with
  | [] => exact iff_of_true rfl nofun
  | v :: vs =>
    rw [equalAll, Bool.and_eq_true, equal_self_iff v, equalAll_self_iff vs, List.forall_mem_cons]

end

end Value

namespace Builtin

lemma chained_iff_isChain {α : Type} {r : α → α → Bool} {xs : List α} :
    chained r xs = true ↔ xs.IsChain fun x y => r x y = true := by
  match xs with
  | [] => simp [chained]
  | [x] => simp [chained]
  | x :: y :: rest =>
    rw [chained, Bool.and_eq_true, List.isChain_cons_cons, chained_iff_isChain]

lemma chained_equal_iff {args : List Value} :
    chained Value.equal args = true ↔ args.Pairwise fun v w => v.equal w = true := by
  have : IsTrans Value fun v w => v.equal w = true := ⟨fun _ _ _ => Value.equal_trans⟩
  rw [chained_iff_isChain, List.isChain_iff_pairwise]

lemma chained_equal_perm {args args' : List Value} (h : args.Perm args') :
    chained Value.equal args = chained Value.equal args' := by
  rw [Bool.eq_iff_iff, chained_equal_iff, chained_equal_iff]
  exact h.pairwise_iff Value.equal_symm

end Builtin

/-- Equality is symmetric and transitive, and reflexive on what holds neither an unspecified value
nor one that is no number. Values of different types are never equal; closures are equal if one
evaluation of a lambda form made them. Arguments are all equal if each equals the next, in
whichever order they stand. -/
theorem equality_relates_all_pairs :
    (∀ v w : Value, v.equal w = true → w.equal v = true) ∧
    (∀ u v w : Value, u.equal v = true → v.equal w = true → u.equal w = true) ∧
    (∀ v : Value, v.equal v = true ↔
      ¬ Value.OccursIn .unspecified v ∧ ∀ x, x.isNaN = true → ¬ Value.OccursIn (.number x) v) ∧
    (∀ v w : Value, v.typeName ≠ w.typeName → v.equal w = false) ∧
    (∀ sink r, Recorded.Steps (.start sink) r →
      r.Faithful ∧ ∀ r', Recorded.Steps r r' → r.made <+: r'.made) ∧
    (∀ args, ∃ b, Builtin.equal.apply args = .ok (.bool b) ∧
      (b = true ↔ args.Pairwise fun v w => v.equal w = true)) ∧
    ∀ args args', args.Perm args' → Builtin.equal.apply args = Builtin.equal.apply args' := by
  refine ⟨fun v w => Value.equal_symm, fun u v w => Value.equal_trans, Value.equal_self_iff,
    fun v w hne => ?_, fun sink r hr => ?_, fun args => ?_, fun args args' hperm => ?_⟩
  · rw [← Bool.not_eq_true]
    exact fun h => hne (Value.typeName_eq_of_equal h)
  · exact ⟨hr.faithful, fun r' hr' => hr.made_prefix hr'⟩
  · exact ⟨Builtin.chained Value.equal args, rfl, Builtin.chained_equal_iff⟩
  · rw [Builtin.apply, Builtin.apply, Builtin.chained_equal_perm hperm]

namespace Recorded

def thunk : Value :=
  .list [.symbol SpecialForm.lambda.symbol, .list [], .string "here"]

def twice : Recorded :=
  reached (recording.evaluate thunk ⟨0, []⟩
    (reached (recording.evaluate thunk ⟨0, []⟩ (start .collecting))))

lemma steps_twice : Steps (start .collecting) twice := by
  have hthunk : ∀ r : Recorded, r.Owns thunk := by
    intro r
    simp [Owns, thunk, Value.closures, Value.closuresAll]
  exact (Relation.ReflTransGen.single (.evaluate (hthunk _))).tail (.evaluate (hthunk _))

end Recorded

theorem equality_relates_all_pairs_thunks :
    ∃ c c', Recorded.twice.made = [c, c'] ∧ c.written = c'.written ∧ c.equal c' = false ∧
      Builtin.equal.apply [c, c, c'] = Builtin.equal.apply [c, c', c] := by
  obtain ⟨-, -, -, -, hclosures, -, hperm⟩ := equality_relates_all_pairs
  have hfaithful := (hclosures .collecting _ Recorded.steps_twice).1
  let c : Nat → Value := fun i => .closure i [] [.string "here"] ⟨0, []⟩
  have hfirst : Recorded.twice.made[0]? = some (c 0) := rfl
  have hsecond : Recorded.twice.made[1]? = some (c 1) := rfl
  refine ⟨c 0, c 1, rfl, rfl, ?_, hperm _ _ (.cons _ (.swap _ _ []))⟩
  rw [← Bool.not_eq_true, hfaithful.apart hfirst hsecond]
  exact Nat.zero_ne_one

end SmallScheme
