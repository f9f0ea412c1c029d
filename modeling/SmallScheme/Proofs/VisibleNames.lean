import Mathlib.Data.List.Find
import Mathlib.Data.String.Basic
import SmallScheme.Listing
import SmallScheme.Proofs.Assignment
import SmallScheme.Proofs.Named.Spelling

namespace SmallScheme

/-! ### Byte order -/

namespace Text

lemma ofNat_cons_lt_iff {m n : Nat} (hm : m < 256) (hn : n < 256) {r r' : List UInt8} :
    UInt8.ofNat m :: r < UInt8.ofNat n :: r' ↔ m < n ∨ m = n ∧ r < r' := by
  rw [List.cons_lt_cons_iff, UInt8.lt_iff_toNat_lt, ← UInt8.toNat_inj, UInt8.toNat_ofNat_of_lt' hm,
    UInt8.toNat_ofNat_of_lt' hn]

lemma utf8EncodeChar_lt {c d : Char} (h : c < d) (r r' : List UInt8) :
    String.utf8EncodeChar c ++ r < String.utf8EncodeChar d ++ r' := by
  have hlt : c.val.toNat < d.val.toNat := h
  have hmax : d.val.toNat < 0x110000 := by
    rcases d.valid with hd | hd
    · exact hd.trans (by decide)
    · exact hd.2
  simp only [String.utf8EncodeChar]
  generalize c.val.toNat = m at *
  generalize d.val.toNat = n at *
  -- The digits to the base 64, from the lowest on: the first pair that differs decides.
  have hm : m / 4096 = m / 64 / 64 ∧ m / 262144 = m / 64 / 64 / 64 := by omega
  have hn : n / 4096 = n / 64 / 64 ∧ n / 262144 = n / 64 / 64 / 64 := by omega
  have hlow : m / 64 < n / 64 ∨ m / 64 = n / 64 ∧ m % 64 < n % 64 := by omega
  have hmiddle : m / 64 / 64 < n / 64 / 64 ∨
      m / 64 / 64 = n / 64 / 64 ∧ m / 64 % 64 ≤ n / 64 % 64 := by omega
  have hhigh : m / 64 / 64 / 64 < n / 64 / 64 / 64 ∨
      m / 64 / 64 / 64 = n / 64 / 64 / 64 ∧ m / 64 / 64 % 64 ≤ n / 64 / 64 % 64 := by omega
  have htop : m / 64 / 64 / 64 < 8 ∧ n / 64 / 64 / 64 < 8 := by omega
  rw [hm.1, hm.2, hn.1, hn.2, Nat.mod_eq_of_lt htop.1, Nat.mod_eq_of_lt htop.2]
  split_ifs <;> simp (disch := omega) only [List.cons_append, ofNat_cons_lt_iff] <;> omega

lemma flatMap_utf8EncodeChar_lt {cs ds : List Char} (h : cs < ds) :
    cs.flatMap String.utf8EncodeChar < ds.flatMap String.utf8EncodeChar := by
  induction cs generalizing ds with
  | nil =>
    cases ds with
    | nil => cases h
    | cons d ds =>
      rw [List.flatMap_nil, List.flatMap_cons]
      have hne : String.utf8EncodeChar d ≠ [] := String.utf8EncodeChar_ne_nil
      cases hd : String.utf8EncodeChar d with
      | nil => exact absurd hd hne
      | cons b bs => exact List.nil_lt_cons ..
  | cons c cs ih =>
    cases ds with
    | nil => cases h
    | cons d ds =>
      rw [List.flatMap_cons, List.flatMap_cons]
      rcases List.cons_lt_cons_iff.1 h with hlt | ⟨rfl, hlt⟩
      · exact utf8EncodeChar_lt hlt _ _
      · exact List.append_left_lt (ih hlt)

lemma toUTF8_lt {s s' : String} (h : s < s') : s.toUTF8.data.toList < s'.toUTF8.data.toList := by
  have hbytes (s : String) : s.toUTF8.data.toList = s.toList.flatMap String.utf8EncodeChar := by
    obtain ⟨cs, rfl⟩ : ∃ cs, s = String.ofList cs := ⟨s.toList, s.ofList_toList.symm⟩
    simp [List.utf8Encode]
  rw [hbytes, hbytes]
  exact flatMap_utf8EncodeChar_lt (String.lt_iff.1 h)

end Text

/-! ### Frames with symbols of one table -/

namespace SymbolTable

variable {t : SymbolTable} {s s' : Symbol}

def Has (t : SymbolTable) (s : Symbol) : Prop :=
  t.get? s.name = some s

lemma Has.same_iff (h : t.Has s) (h' : t.Has s') : s.same s' = true ↔ s.name = s'.name := by
  constructor
  · intro hsame
    have hindex : s.index = s'.index := beq_iff_eq.1 hsame
    have hname := (spells_of_get? h).2
    rw [hindex, (spells_of_get? h').2] at hname
    exact (Option.some.inj hname).symm
  · intro hname
    rw [Has, hname] at h
    obtain rfl := Option.some.inj (h.symm.trans h')
    exact beq_self_eq_true s.index

end SymbolTable

namespace Frame

variable {t : SymbolTable} {f : Frame}

inductive Of (t : SymbolTable) : Frame → Prop
  | empty : Of t .empty
  | put {f : Frame} {s : Symbol} (v : Value) : Of t f → t.Has s → Of t (f.put s v)

lemma bindings_put_of_not_binds {s : Symbol} (h : f.binds s = false) (v : Value) :
    (f.put s v).bindings = f.bindings ++ [(s, v)] := by
  obtain ⟨bs⟩ := f
  change putIn s v bs = bs ++ [(s, v)]
  induction bs with
  | nil => rfl
  | cons b rest ih =>
    obtain ⟨k, u⟩ := b
    have hk : k.same s = false := by
      by_contra hk
      simp [binds, get?, hk] at h
    have hrest : (⟨rest⟩ : Frame).binds s = false := by
      simpa [binds, get?, List.find?_cons, hk] using h
    rw [putIn, hk, if_neg Bool.false_ne_true, ih hrest, List.cons_append]

lemma not_binds_iff {s : Symbol} :
    f.binds s = false ↔ ∀ b ∈ f.bindings, b.1.same s = false := by
  simp [binds, get?]

namespace Of

lemma has (h : Of t f) : ∀ s ∈ f.bindings.map Prod.fst, t.Has s := by
  induction h with
  | empty => simp [Frame.empty]
  | @put f s v _ hs ih =>
    cases hb : f.binds s with
    | true =>
      rw [keys_put hb]
      exact ih
    | false =>
      rw [bindings_put_of_not_binds hb, List.map_append, List.forall_mem_append]
      exact ⟨ih, by simpa using hs⟩

lemma nodup (h : Of t f) : ((f.bindings.map Prod.fst).map Symbol.name).Nodup := by
  induction h with
  | empty => exact List.nodup_nil
  | @put f s v hf hs ih =>
    cases hb : f.binds s with
    | true =>
      rw [keys_put hb]
      exact ih
    | false =>
      rw [bindings_put_of_not_binds hb, List.map_append, List.map_append]
      refine List.Nodup.append ih (List.nodup_singleton _) ?_
      intro name hname hsame
      obtain rfl : name = s.name := by simpa using hsame
      obtain ⟨k, hk, hname⟩ := List.mem_map.1 hname
      obtain ⟨b, hmem, rfl⟩ := List.mem_map.1 hk
      -- Symbols of one table that differ in number differ in name.
      have hdiffer := not_binds_iff.1 hb b hmem
      rw [((hf.has b.1 hk).same_iff hs).2 hname] at hdiffer
      cases hdiffer

end Of

def named? (f : Frame) (name : String) : Option Value :=
  (f.bindings.find? fun b => b.1.name == name).map Prod.snd

lemma Of.named?_eq (h : Of t f) (name : String) : f.named? name = (t.get? name).bind f.get? := by
  have hhas : ∀ b ∈ f.bindings, t.Has b.1 := fun b hb => h.has b.1 (List.mem_map_of_mem hb)
  cases hs : t.get? name with
  | none =>
    have hnone : f.bindings.find? (fun b => b.1.name == name) = none := by
      refine List.find?_eq_none.2 fun b hb hname => ?_
      have hb := hhas b hb
      rw [SymbolTable.Has, beq_iff_eq.1 hname, hs] at hb
      cases hb
    rw [named?, hnone]
    rfl
  | some s =>
    obtain rfl := SymbolTable.name_of_get? hs
    refine congrArg (Option.map Prod.snd) (List.find?_congr fun b hb => ?_)
    rw [Bool.eq_iff_iff, (hhas b hb).same_iff hs, beq_iff_eq]

end Frame

/-! ### What is visible -/

namespace Store

variable {t : SymbolTable} {st : Store} {f : Frame} {name : String} {v : Value}
  {pairs : List (String × Value)}

def InOrder (pairs : List (String × Value)) : Prop :=
  pairs.Pairwise fun p q => p.1 < q.1

lemma lt_of_not_lt_of_ne {a b : String} (h : ¬ a < b) (hne : a ≠ b) : b < a := by
  by_contra h'
  exact hne (String.le_antisymm (String.not_lt.1 h') (String.not_lt.1 h))

lemma ne_of_mem (h : ∀ p ∈ pairs, name < p.1) {p : String × Value} (hp : p ∈ pairs) :
    p.1 ≠ name := by
  intro hname
  have hlt := h p hp
  rw [hname] at hlt
  exact String.lt_irrefl name hlt

lemma mem_insertNamed (hpairs : InOrder pairs) {p : String × Value} :
    p ∈ insertNamed name v pairs ↔ p = (name, v) ∨ p.1 ≠ name ∧ p ∈ pairs := by
  induction pairs with
  | nil => simp [insertNamed]
  | cons q rest ih =>
    obtain ⟨n, w⟩ := q
    obtain ⟨hlt, hrest⟩ := List.pairwise_cons.1 hpairs
    rw [insertNamed]
    split
    · next h =>
      have hbelow : ∀ q ∈ (n, w) :: rest, name < q.1 := by
        refine List.forall_mem_cons.2 ⟨h, fun q hq => ?_⟩
        exact String.lt_trans h (hlt q hq)
      rw [List.mem_cons]
      exact or_congr_right ⟨fun hp => ⟨ne_of_mem hbelow hp, hp⟩, fun hp => hp.2⟩
    · next h =>
      split
      · next heq =>
        subst heq
        rw [List.mem_cons, List.mem_cons]
        refine or_congr_right ⟨fun hp => ⟨ne_of_mem hlt hp, .inr hp⟩, fun hp => ?_⟩
        exact hp.2.resolve_left fun heq => hp.1 (congrArg Prod.fst heq)
      · next hne =>
        rw [List.mem_cons, List.mem_cons, ih hrest]
        constructor
        · rintro (rfl | rfl | ⟨hp, hmem⟩)
          · exact .inr ⟨Ne.symm hne, .inl rfl⟩
          · exact .inl rfl
          · exact .inr ⟨hp, .inr hmem⟩
        · rintro (rfl | ⟨hp, rfl | hmem⟩)
          · exact .inr (.inl rfl)
          · exact .inl rfl
          · exact .inr (.inr ⟨hp, hmem⟩)

lemma inOrder_insertNamed (hpairs : InOrder pairs) : InOrder (insertNamed name v pairs) := by
  induction pairs with
  | nil => exact List.pairwise_singleton _ _
  | cons q rest ih =>
    obtain ⟨n, w⟩ := q
    obtain ⟨hlt, hrest⟩ := List.pairwise_cons.1 hpairs
    rw [insertNamed]
    split
    · next h =>
      refine List.pairwise_cons.2 ⟨List.forall_mem_cons.2 ⟨h, fun q hq => ?_⟩, hpairs⟩
      exact String.lt_trans h (hlt q hq)
    · next h =>
      split
      · next heq =>
        subst heq
        exact List.pairwise_cons.2 ⟨hlt, hrest⟩
      · next hne =>
        refine List.pairwise_cons.2 ⟨fun q hq => ?_, ih hrest⟩
        rcases (mem_insertNamed hrest).1 hq with rfl | ⟨-, hq⟩
        · exact lt_of_not_lt_of_ne h hne
        · exact hlt q hq

lemma inOrder_insertFrame (f : Frame) (hpairs : InOrder pairs) :
    InOrder (insertFrame f pairs) := by
  obtain ⟨bs⟩ := f
  change InOrder (bs.foldl (fun pairs b => insertNamed b.1.name b.2 pairs) pairs)
  induction bs generalizing pairs with
  | nil => exact hpairs
  | cons b bs ih => exact ih (inOrder_insertNamed hpairs)

lemma mem_insertFrame (hf : f.Of t) (hpairs : InOrder pairs) :
    (name, v) ∈ insertFrame f pairs ↔
      f.named? name = some v ∨ f.named? name = none ∧ (name, v) ∈ pairs := by
  have hnodup := hf.nodup
  clear hf
  obtain ⟨bs⟩ := f
  change (name, v) ∈ bs.foldl (fun pairs b => insertNamed b.1.name b.2 pairs) pairs ↔ _
  induction bs generalizing pairs with
  | nil => simp [Frame.named?]
  | cons b bs ih =>
    obtain ⟨s, w⟩ := b
    obtain ⟨hs, hnodup⟩ := List.nodup_cons.1 hnodup
    rw [List.foldl_cons, ih (inOrder_insertNamed hpairs) hnodup, mem_insertNamed hpairs]
    by_cases hname : s.name = name
    · subst hname
      have hrest : (⟨bs⟩ : Frame).named? s.name = none := by
        refine Option.map_eq_none_iff.2 (List.find?_eq_none.2 fun b hb hsame => hs ?_)
        rw [← beq_iff_eq.1 hsame]
        exact List.mem_map_of_mem (List.mem_map_of_mem hb)
      have hfirst : (⟨(s, w) :: bs⟩ : Frame).named? s.name = some w := by simp [Frame.named?]
      rw [hrest, hfirst]
      simp [eq_comm]
    · have hskip : (⟨(s, w) :: bs⟩ : Frame).named? name = (⟨bs⟩ : Frame).named? name := by
        simp [Frame.named?, hname]
      rw [hskip]
      simp [Ne.symm hname]

lemma inOrder_foldr (st : Store) (is : List Nat) :
    InOrder (is.foldr (fun i pairs => insertFrame (st.frame i) pairs) []) := by
  induction is with
  | nil => exact List.Pairwise.nil
  | cons i is ih => exact inOrder_insertFrame (st.frame i) ih

lemma mem_foldr_insertFrame {is : List Nat} (h : ∀ i ∈ is, (st.frame i).Of t) :
    (name, v) ∈ is.foldr (fun i pairs => insertFrame (st.frame i) pairs) [] ↔
      ∃ s, t.get? name = some s ∧ is.findSome? (fun i => (st.frame i).get? s) = some v := by
  induction is with
  | nil => simp
  | cons i is ih =>
    obtain ⟨hi, his⟩ := List.forall_mem_cons.1 h
    have horder : InOrder (is.foldr (fun i pairs => insertFrame (st.frame i) pairs) []) :=
      inOrder_foldr st is
    rw [List.foldr_cons, mem_insertFrame hi horder, ih his, hi.named?_eq]
    cases t.get? name with
    | none => simp
    | some s =>
      cases hget : (st.frame i).get? s with
      | none => simp [hget]
      | some u => simp [hget]

end Store

/-! ### The listing -/

namespace Listing

structure Rows (names : List String) (rows : List (List String)) : Prop where
  flatten : rows.flatten = names
  full : ∀ row ∈ rows.dropLast, row.length = 4
  last : ∀ row ∈ rows, row ≠ [] ∧ row.length ≤ 4

lemma rows_rows (names : List String) : Rows names (rows names) := by
  fun_induction rows names with
  | case1 a b c d rest ih =>
    refine ⟨congrArg (a :: b :: c :: d :: ·) ih.flatten, fun row hrow => ?_, fun row hrow => ?_⟩
    · cases hrest : rows rest with
      | nil => simp [hrest] at hrow
      | cons next more =>
        rw [hrest, List.dropLast_cons_cons, ← hrest] at hrow
        rcases List.mem_cons.1 hrow with rfl | hrow
        · rfl
        · exact ih.full row hrow
    · rcases List.mem_cons.1 hrow with rfl | hrow
      · simp
      · exact ih.last row hrow
  | case2 => exact ⟨rfl, by simp, by simp⟩
  | case3 last hlong hne =>
    refine ⟨List.append_nil last, by simp, fun row hrow => ?_⟩
    obtain rfl := List.mem_singleton.1 hrow
    match row with
    | [] => exact absurd rfl hne
    | [_] | [_, _] | [_, _, _] => simp
    | a :: b :: c :: d :: rest => exact absurd rfl (hlong a b c d rest)

structure Sections (pairs : List (String × Value)) (hosts : List String)
    (others : List (String × Value)) : Prop where
  mem_hosts (name : String) : name ∈ hosts ↔ ∃ p, (name, .host p) ∈ pairs
  mem_others (name : String) (v : Value) :
    (name, v) ∈ others ↔ (name, v) ∈ pairs ∧ ∀ p, v ≠ .host p
  hosts_order : hosts.Sublist (pairs.map Prod.fst)
  others_order : others.Sublist pairs
  once : (hosts ++ others.map Prod.fst).Perm (pairs.map Prod.fst)
  total : hosts.length + others.length = pairs.length

lemma isHost_iff {name : String} {v : Value} : isHost (name, v) = true ↔ ∃ p, v = .host p := by
  cases v <;> simp [isHost]

lemma sections_filter (pairs : List (String × Value)) :
    Sections pairs ((pairs.filter isHost).map Prod.fst) (pairs.filter fun p => !isHost p) where
  mem_hosts name := by
    rw [List.mem_map]
    constructor
    · rintro ⟨⟨_, v⟩, hpair, rfl⟩
      obtain ⟨hpair, hv⟩ := List.mem_filter.1 hpair
      obtain ⟨p, rfl⟩ := isHost_iff.1 hv
      exact ⟨p, hpair⟩
    · rintro ⟨p, hpair⟩
      exact ⟨(name, .host p), List.mem_filter.2 ⟨hpair, rfl⟩, rfl⟩
  mem_others name v := by
    rw [List.mem_filter, Bool.not_eq_true', ← Bool.not_eq_true, isHost_iff, not_exists]
  hosts_order := List.filter_sublist.map Prod.fst
  others_order := List.filter_sublist
  once := by
    rw [← List.map_append]
    exact (List.filter_append_perm isHost pairs).map Prod.fst
  total := by
    rw [List.length_map]
    exact (List.length_eq_length_filter_add isHost).symm

end Listing

open Listing in
/-- The names visible from a scope come in the order of their bytes, each once, with the value
that looking up its symbol finds. The listing tells how many they are, and shows the host
procedures in rows of four and then the other names with their values. -/
theorem listing_shows_what_lookup_sees {t : SymbolTable} {st : Store} {e : Scope}
    (h : ∀ i ∈ e.chain, (st.frame i).Of t) :
    ((st.visible e).Pairwise fun p q => p.1.toUTF8.data.toList < q.1.toUTF8.data.toList) ∧
    ((st.visible e).map Prod.fst).Nodup ∧
    (∀ name v, (name, v) ∈ st.visible e ↔
      ∃ s, t.get? name = some s ∧ st.lookup? e s = some v) ∧
    (st.visible e ≠ [] → ∃ hosts others rows,
      Sections (st.visible e) hosts others ∧ Rows hosts rows ∧
      st.listing e = "Environment bindings (" ++ toString (st.visible e).length ++ " total):\n\n" ++
        (if hosts.isEmpty then "" else
          "Host procedures (" ++ toString hosts.length ++ "):\n" ++
            String.join (rows.map fun names =>
              String.join (names.map fun name =>
                "  " ++ name ++ String.ofList (List.replicate (15 - name.length) ' ')) ++ "\n") ++
            "\n") ++
        if others.isEmpty then "" else
          "User-defined values (" ++ toString others.length ++ "):\n" ++
            String.join (others.map fun pair =>
              "  " ++ pair.1 ++ " = " ++ pair.2.written ++ "\n")) := by
  have horder := Store.inOrder_foldr st e.chain
  refine ⟨horder.imp fun hlt => Text.toUTF8_lt hlt, ?_, fun name v => ?_, fun hne => ?_⟩
  · refine List.pairwise_map.2 (horder.imp fun {p q} hlt heq => ?_)
    rw [heq] at hlt
    exact String.lt_irrefl q.1 hlt
  · exact Store.mem_foldr_insertFrame h
  · refine ⟨_, _, _, sections_filter _, rows_rows _, ?_⟩
    rw [Store.listing, render, if_neg (by simpa using hne), hostSection, valueSection]
    -- What is left are the texts of a row and of an entry.
    rfl

namespace Store

def shadowing : Store :=
  ⟨#[(Frame.empty.put ⟨0, "<"⟩ (.host Builtin.less.procedure)).put ⟨1, "not"⟩
      (.host Builtin.not.procedure), Frame.empty.put ⟨1, "not"⟩ (.bool true)], 0⟩

end Store

theorem listing_shows_what_lookup_sees_shadowing :
    ("not", .bool true) ∈ Store.shadowing.visible ⟨1, [0]⟩ ∧
    Store.shadowing.listing ⟨1, [0]⟩ = "Environment bindings (2 total):\n\n" ++
      "Host procedures (1):\n" ++ "  <              \n\n" ++
      "User-defined values (1):\n" ++ "  not = #t\n" := by
  have hframes : ∀ i ∈ (⟨1, [0]⟩ : Scope).chain,
      (Store.shadowing.frame i).Of ⟨["<", "not"]⟩ := by
    intro i hi
    rcases List.mem_cons.1 hi with rfl | hi
    · exact .put _ .empty rfl
    · obtain rfl := List.mem_singleton.1 hi
      exact .put _ (.put _ .empty rfl) rfl
  obtain ⟨-, -, hmem, -⟩ := listing_shows_what_lookup_sees hframes
  refine ⟨(hmem "not" (.bool true)).2 ⟨⟨1, "not"⟩, rfl, rfl⟩, ?_⟩
  decide +kernel

end SmallScheme
