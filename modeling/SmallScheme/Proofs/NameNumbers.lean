import SmallScheme.Proofs.ReadNames

/-! The numbers of names over any history of use. A table may have its numbers from a store of
texts and keep only the names beside it, each at its number. The two then stay in step, and give
the answers of one list of names. -/

namespace SmallScheme

namespace SymbolTable

inductive Call where
  | intern (name : String)
  | get (name : String)
deriving DecidableEq

def Call.interned? : Call → Option String
  | intern name => some name
  | get _ => none

def distinct (calls : List Call) : List String :=
  (calls.filterMap Call.interned?).eraseDups

def call (t : SymbolTable) : Call → Option Symbol × SymbolTable
  | .intern name => (some (t.intern name).1, (t.intern name).2)
  | .get name => (t.get? name, t)

def calls (t : SymbolTable) : List Call → List (Option Symbol) × SymbolTable
  | [] => ([], t)
  | c :: cs => ((t.call c).1 :: ((t.call c).2.calls cs).1, ((t.call c).2.calls cs).2)

variable {t : SymbolTable} {s : Symbol} {name : String} {cs : List Call}

lemma mem_distinct : name ∈ distinct cs ↔ .intern name ∈ cs := by
  rw [distinct, List.mem_eraseDups, List.mem_filterMap]
  constructor
  · rintro ⟨c, hc, hname⟩
    cases c with
    | intern other =>
      obtain rfl := Option.some.inj hname
      exact hc
    | get other => cases hname
  · exact fun h => ⟨.intern name, h, rfl⟩

lemma table_calls (t : SymbolTable) (cs : List Call) :
    (t.calls cs).2 = t.internAll (cs.filterMap Call.interned?) := by
  induction cs generalizing t with
  | nil => rfl
  | cons c cs ih =>
    rw [calls, ih]
    cases c <;> rfl

lemma names_calls (cs : List Call) : (empty.calls cs).2.names = distinct cs := by
  rw [table_calls, names_internAll]
  simp [fresh, distinct]

lemma le_call (t : SymbolTable) (c : Call) : t ≤ (t.call c).2 := by
  cases c with
  | intern name => exact le_intern t name
  | get name => exact le_refl t

lemma le_calls (t : SymbolTable) (cs : List Call) : t ≤ (t.calls cs).2 := by
  induction cs generalizing t with
  | nil => exact le_refl t
  | cons c cs ih => exact (le_call t c).trans (ih _)

lemma has_call {c : Call} (h : (t.call c).1 = some s) : (t.call c).2.Has s := by
  cases c with
  | intern name =>
    obtain rfl := Option.some.inj h
    exact has_intern t name
  | get name =>
    have hget : t.get? name = some s := h
    rw [← name_of_get? hget] at hget
    exact hget

lemma has_calls (h : some s ∈ (t.calls cs).1) : (t.calls cs).2.Has s := by
  induction cs generalizing t with
  | nil => cases h
  | cons c cs ih =>
    rcases List.mem_cons.1 h with h | h
    · exact (has_call h.symm).mono (le_calls _ cs)
    · exact ih h

lemma getElem?_calls {i : Nat} {c : Call} (h : cs[i]? = some c) :
    (t.calls cs).1[i]? = some ((t.calls (cs.take i)).2.call c).1 := by
  induction cs generalizing t i with
  | nil => cases h
  | cons d cs ih =>
    cases i with
    | zero =>
      obtain rfl := Option.some.inj h
      rfl
    | succ i => exact ih h

lemma get?_eq_idxOf (h : name ∈ t.names) : t.get? name = some ⟨t.names.idxOf name, name⟩ := by
  obtain ⟨i, hi⟩ := Option.isSome_iff_exists.1 (List.isSome_idxOf?.2 h)
  rw [get?, List.idxOf_eq_getD_idxOf?, hi]
  rfl

lemma Has.eq_idxOf (h : t.Has s) : s = ⟨t.names.idxOf s.name, s.name⟩ := by
  have hmem : s.name ∈ t.names := by
    by_contra hmem
    rw [Has, get?, List.idxOf?_eq_none_iff.2 hmem] at h
    cases h
  exact Option.some.inj (h.symm.trans (get?_eq_idxOf hmem))

lemma get?_kept (h : name ∈ t.names) (more : List Call) :
    (t.calls more).2.get? name = some ⟨t.names.idxOf name, name⟩ :=
  Has.mono (s := ⟨_, name⟩) (get?_eq_idxOf h) (le_calls t more)

structure Numbered (calls : List Call) (answers : List (Option Symbol)) (names : List String) :
    Prop where
  order : names = distinct calls
  entered {i : Nat} {name : String} : calls[i]? = some (.intern name) →
    answers[i]? = some (some ⟨names.idxOf name, name⟩)
  found {i : Nat} {name : String} : calls[i]? = some (.get name) → answers[i]? =
    some (if .intern name ∈ calls.take i then some ⟨names.idxOf name, name⟩ else none)
  same {a b : Symbol} : some a ∈ answers → some b ∈ answers → (a.same b = true ↔ a.name = b.name)

lemma numbered (calls : List Call) :
    Numbered calls (empty.calls calls).1 (empty.calls calls).2.names where
  order := names_calls calls
  entered {i name} h := by
    have hanswer := getElem?_calls (t := empty) h
    have hsymbol := (has_calls (List.mem_of_getElem? hanswer)).eq_idxOf
    rw [intern_name] at hsymbol
    exact hanswer.trans (congrArg (some ∘ some) hsymbol)
  found {i name} h := by
    have hanswer := getElem?_calls (t := empty) h
    rw [call] at hanswer
    have hiff : Call.intern name ∈ calls.take i ↔
        name ∈ (empty.calls (calls.take i)).2.names := by
      rw [names_calls, mem_distinct]
    rw [hanswer, if_congr hiff rfl rfl]
    cases hget : (empty.calls (calls.take i)).2.get? name with
    | none => rw [if_neg (not_mem_of_get? hget)]
    | some s =>
      have hname := name_of_get? hget
      have hmem : name ∈ (empty.calls (calls.take i)).2.names :=
        List.mem_of_getElem? (spells_of_get? hget).2
      rw [hget] at hanswer
      rw [if_pos hmem, (has_calls (List.mem_of_getElem? hanswer)).eq_idxOf, hname]
  same ha hb := (has_calls ha).same_iff (has_calls hb)

lemma idxOf?_concat {names : List String} (h : name ∉ names) (other : String) :
    (names ++ [name]).idxOf? other =
      if other = name then some names.length else names.idxOf? other := by
  have hnone : names.findIdx? (· == name) = none := List.idxOf?_eq_none_iff.2 h
  change (names ++ [name]).findIdx? (· == other) = _
  rw [List.findIdx?_append]
  by_cases hother : other = name
  · simp [hother, hnone, List.findIdx?_cons]
  · simp [hother, List.findIdx?_cons, Ne.symm hother, List.idxOf?]

end SymbolTable

open SymbolTable (Call Numbered)

structure TextStore (σ : Type) where
  empty : σ
  size : σ → Nat
  find? : σ → String → Option Nat
  enter : σ → String → Nat × σ

structure TextStore.Dense {σ : Type} (store : TextStore σ) : Prop where
  size_empty : store.size store.empty = 0
  find?_empty (text : String) : store.find? store.empty text = none
  number (s : σ) (text : String) :
    (store.enter s text).1 = (store.find? s text).getD (store.size s)
  size_enter (s : σ) (text : String) : store.size (store.enter s text).2 =
    if (store.find? s text).isSome then store.size s else store.size s + 1
  find?_enter (s : σ) (text other : String) : store.find? (store.enter s text).2 other =
    if other = text then some (store.enter s text).1 else store.find? s other

structure PairedTable (σ : Type) where
  numbers : σ
  names : List String

namespace PairedTable

variable {σ : Type}

def start (store : TextStore σ) : PairedTable σ := ⟨store.empty, []⟩

/-- The name is put down if its number is the next free one. There is no answer if nothing stands at
that number. -/
def intern (store : TextStore σ) (t : PairedTable σ) (name : String) :
    Option (Symbol × PairedTable σ) :=
  let (index, numbers) := store.enter t.numbers name
  let names := if index = t.names.length then t.names ++ [name] else t.names
  names[index]?.map fun name => (⟨index, name⟩, ⟨numbers, names⟩)

def get? (store : TextStore σ) (t : PairedTable σ) (name : String) : Option Symbol :=
  (store.find? t.numbers name).bind fun index =>
    t.names[index]?.map fun name => ⟨index, name⟩

def call (store : TextStore σ) (t : PairedTable σ) :
    Call → Option (Option Symbol × PairedTable σ)
  | .intern name => (t.intern store name).map fun (s, t) => (some s, t)
  | .get name => some (t.get? store name, t)

def calls (store : TextStore σ) (t : PairedTable σ) :
    List Call → Option (List (Option Symbol) × PairedTable σ)
  | [] => some ([], t)
  | c :: cs => do
    let (answer, t) ← t.call store c
    let (answers, t) ← t.calls store cs
    return (answer :: answers, t)

lemma calls_append {store : TextStore σ} {t t₁ t₂ : PairedTable σ} {cs ds : List Call}
    {answers answers' : List (Option Symbol)} (h : t.calls store cs = some (answers, t₁))
    (h' : t₁.calls store ds = some (answers', t₂)) :
    t.calls store (cs ++ ds) = some (answers ++ answers', t₂) := by
  induction cs generalizing t answers with
  | nil =>
    obtain ⟨rfl, rfl⟩ := Prod.mk.inj (Option.some.inj h)
    exact h'
  | cons c cs ih =>
    obtain ⟨⟨answer, u⟩, hcall, h⟩ := Option.bind_eq_some_iff.1 h
    obtain ⟨⟨rest, u'⟩, hcalls, h⟩ := Option.bind_eq_some_iff.1 h
    obtain ⟨rfl, rfl⟩ := Prod.mk.inj (Option.some.inj h)
    simp [calls, hcall, ih hcalls]

structure InStep (store : TextStore σ) (t : PairedTable σ) (table : SymbolTable) : Prop where
  names : t.names = table.names
  size : store.size t.numbers = table.size
  find? (name : String) : store.find? t.numbers name = table.names.idxOf? name

variable {store : TextStore σ} {t : PairedTable σ} {table : SymbolTable}

lemma inStep_start (h : store.Dense) : (start store).InStep store .empty where
  names := rfl
  size := h.size_empty
  find? name := by simp [start, h.find?_empty]

lemma InStep.get?_eq (ht : t.InStep store table) (name : String) :
    t.get? store name = table.get? name := by
  rw [get?, SymbolTable.get?, ht.find?, ht.names]
  cases h : table.names.idxOf? name with
  | none => rfl
  | some i =>
    obtain ⟨hlt, hname, -⟩ := List.idxOf?_eq_some_iff.1 h
    simp [List.getElem?_eq_getElem hlt, hname]

lemma InStep.intern_known (h : store.Dense) (ht : t.InStep store table) {name : String} {i : Nat}
    (hi : table.names.idxOf? name = some i) :
    ∃ t', t.intern store name = some (⟨i, name⟩, t') ∧ t'.InStep store table := by
  obtain ⟨hlt, hname, -⟩ := List.idxOf?_eq_some_iff.1 hi
  have hfind : store.find? t.numbers name = some i := by rw [ht.find?, hi]
  have hindex : (store.enter t.numbers name).1 = i := by simp [h.number, hfind]
  refine ⟨⟨(store.enter t.numbers name).2, t.names⟩, ?_, ht.names, ?_, fun other => ?_⟩
  · have hne : i ≠ table.names.length := Nat.ne_of_lt hlt
    simp [intern, hindex, ht.names, hne, List.getElem?_eq_getElem hlt, hname]
  · simp [h.size_enter, hfind, ht.size]
  · rw [h.find?_enter, hindex]
    split
    · next hother => rw [hother, hi]
    · exact ht.find? other

lemma InStep.intern_new (h : store.Dense) (ht : t.InStep store table) {name : String}
    (hname : name ∉ table.names) :
    ∃ t', t.intern store name = some (⟨table.size, name⟩, t') ∧
      t'.InStep store ⟨table.names ++ [name]⟩ := by
  have hfind : store.find? t.numbers name = none := by
    rw [ht.find?, List.idxOf?_eq_none_iff]
    exact hname
  have hindex : (store.enter t.numbers name).1 = table.names.length := by
    simp [h.number, hfind, ht.size, SymbolTable.size]
  refine ⟨⟨(store.enter t.numbers name).2, t.names ++ [name]⟩, ?_, ?_, ?_, fun other => ?_⟩
  · simp [intern, hindex, ht.names, SymbolTable.size]
  · rw [ht.names]
  · simp [h.size_enter, hfind, ht.size, SymbolTable.size]
  · rw [h.find?_enter, hindex, ht.find?, SymbolTable.idxOf?_concat hname]

lemma InStep.intern (h : store.Dense) (ht : t.InStep store table) (name : String) :
    ∃ t', t.intern store name = some ((table.intern name).1, t') ∧
      t'.InStep store (table.intern name).2 := by
  cases hi : table.names.idxOf? name with
  | some i =>
    have hget : table.get? name = some ⟨i, name⟩ := by rw [SymbolTable.get?, hi]; rfl
    rw [SymbolTable.intern_of_get? hget]
    exact ht.intern_known h hi
  | none =>
    have hget : table.get? name = none := by rw [SymbolTable.get?, hi]; rfl
    rw [SymbolTable.intern, hget]
    exact ht.intern_new h (List.idxOf?_eq_none_iff.1 hi)

lemma InStep.call (h : store.Dense) (ht : t.InStep store table) (c : Call) :
    ∃ t', t.call store c = some ((table.call c).1, t') ∧ t'.InStep store (table.call c).2 := by
  cases c with
  | intern name =>
    obtain ⟨t', hintern, ht'⟩ := ht.intern h name
    exact ⟨t', by simp [PairedTable.call, SymbolTable.call, hintern], ht'⟩
  | get name =>
    exact ⟨t, by rw [PairedTable.call, SymbolTable.call, ht.get?_eq], ht⟩

lemma InStep.calls (h : store.Dense) (ht : t.InStep store table) (cs : List Call) :
    ∃ t', t.calls store cs = some ((table.calls cs).1, t') ∧
      t'.InStep store (table.calls cs).2 := by
  induction cs generalizing t table with
  | nil => exact ⟨t, rfl, ht⟩
  | cons c cs ih =>
    obtain ⟨t₁, hcall, ht₁⟩ := ht.call h c
    obtain ⟨t₂, hcalls, ht₂⟩ := ih ht₁
    exact ⟨t₂, by simp [PairedTable.calls, SymbolTable.calls, hcall, hcalls], ht₂⟩

end PairedTable

/-- However a table is used from the start on, no number lies beyond its names, which are as many
as the store has numbered, and the answers are those of one list of names. Looking for a name
changes nothing, and no later use gives a name another symbol. -/
theorem names_numbered_by_first_use {σ : Type} {store : TextStore σ} (h : store.Dense)
    (calls : List Call) :
    ∃ answers t, (PairedTable.start store).calls store calls = some (answers, t) ∧
      SymbolTable.empty.calls calls = (answers, ⟨t.names⟩) ∧
      t.names.length = store.size t.numbers ∧ Numbered calls answers t.names ∧
      (∀ name, (PairedTable.start store).calls store (calls ++ [.get name]) =
        some (answers ++ [t.get? store name], t)) ∧
      ∀ more name, Call.intern name ∈ calls → ∃ answers' t' t'',
        (PairedTable.start store).calls store (calls ++ more) = some (answers ++ answers', t') ∧
        t'.get? store name = some ⟨t.names.idxOf name, name⟩ ∧
        t'.intern store name = some (⟨t.names.idxOf name, name⟩, t'') := by
  have hstart := PairedTable.inStep_start h
  obtain ⟨t, hcalls, ht⟩ := hstart.calls h calls
  have htable : (⟨t.names⟩ : SymbolTable) = (SymbolTable.empty.calls calls).2 := by
    rw [ht.names]
  refine ⟨_, t, hcalls, by rw [htable], ?_, ?_, fun name => ?_, fun more name hname => ?_⟩
  · rw [ht.size, ht.names, SymbolTable.size]
  · rw [ht.names]
    exact SymbolTable.numbered calls
  · exact PairedTable.calls_append hcalls rfl
  · have hmem : name ∈ (SymbolTable.empty.calls calls).2.names := by
      rwa [SymbolTable.names_calls, SymbolTable.mem_distinct]
    have hkept := SymbolTable.get?_kept hmem more
    obtain ⟨t', hcalls', ht'⟩ := ht.calls h more
    obtain ⟨t'', hintern, -⟩ := ht'.intern h name
    rw [SymbolTable.intern_of_get? hkept] at hintern
    refine ⟨((SymbolTable.empty.calls calls).2.calls more).1, t', t'', ?_, ?_, ?_⟩
    · exact PairedTable.calls_append hcalls hcalls'
    · rw [ht'.get?_eq, hkept, ht.names]
    · rw [hintern, ht.names]

namespace TextStore

def ofPairs : TextStore (List (String × Nat)) where
  empty := []
  size := List.length
  find? pairs text := pairs.lookup text
  enter pairs text :=
    match pairs.lookup text with
    | some i => (i, pairs)
    | none => (pairs.length, (text, pairs.length) :: pairs)

lemma enter_known {pairs : List (String × Nat)} {text : String} {i : Nat}
    (h : pairs.lookup text = some i) : ofPairs.enter pairs text = (i, pairs) := by
  simp [ofPairs, h]

lemma enter_new {pairs : List (String × Nat)} {text : String} (h : pairs.lookup text = none) :
    ofPairs.enter pairs text = (pairs.length, (text, pairs.length) :: pairs) := by
  simp [ofPairs, h]

lemma dense_ofPairs : ofPairs.Dense where
  size_empty := rfl
  find?_empty _ := rfl
  number pairs text := by
    change _ = (pairs.lookup text).getD pairs.length
    cases h : pairs.lookup text with
    | some i => rw [enter_known h, Option.getD_some]
    | none => rw [enter_new h, Option.getD_none]
  size_enter pairs text := by
    change List.length _ = if (pairs.lookup text).isSome then pairs.length else pairs.length + 1
    cases h : pairs.lookup text with
    | some i => simp [enter_known h]
    | none => simp [enter_new h]
  find?_enter pairs text other := by
    change List.lookup other _ = if other = text then _ else pairs.lookup other
    cases h : pairs.lookup text with
    | some i =>
      rw [enter_known h]
      split_ifs with hother
      · rw [hother, h]
      · rfl
    | none =>
      rw [enter_new h, List.lookup_cons]
      cases hother : other == text with
      | true => rw [if_pos (beq_iff_eq.1 hother)]
      | false => rw [if_neg (beq_eq_false_iff_ne.1 hother)]

end TextStore

theorem names_numbered_by_first_use_again : ∃ t answers t' t'',
    (PairedTable.start .ofPairs).calls .ofPairs [.intern "x", .get "y", .intern "y", .intern "x"] =
      some ([some ⟨0, "x"⟩, none, some ⟨1, "y"⟩, some ⟨0, "x"⟩], t) ∧
    t.names = ["x", "y"] ∧ TextStore.ofPairs.size t.numbers = 2 ∧
    (PairedTable.start .ofPairs).calls .ofPairs
        [.intern "x", .get "y", .intern "y", .intern "x", .intern "z"] =
      some ([some ⟨0, "x"⟩, none, some ⟨1, "y"⟩, some ⟨0, "x"⟩] ++ answers, t') ∧
    t'.intern .ofPairs "y" = some (⟨1, "y"⟩, t'') := by
  obtain ⟨answers, t, hcalls, htable, hsize, hnumbered, -, hkept⟩ :=
    names_numbered_by_first_use TextStore.dense_ofPairs
      [.intern "x", .get "y", .intern "y", .intern "x"]
  have hanswers : [some ⟨0, "x"⟩, none, some ⟨1, "y"⟩, some ⟨0, "x"⟩] = answers :=
    congrArg Prod.fst htable
  have hnames : t.names = ["x", "y"] := hnumbered.order
  obtain ⟨answers', t', t'', hcalls', -, hintern⟩ := hkept [.intern "z"] "y" (by decide)
  rw [hnames] at hsize hintern
  subst hanswers
  exact ⟨t, answers', t', t'', hcalls, hnames, hsize.symm, hcalls', hintern⟩

end SmallScheme
