import Mathlib.Tactic.Lemma
import SmallScheme.Reader.Form

/-! The grammar of texts, as trees that keep every character. What may stand at a place depends
on the text after it, since tokens and comments run as far as they can. -/

namespace SmallScheme.Grammar

open Text Reader

inductive Piece where
  | blank (c : Char)
  | comment (body : List Char)

abbrev Gap := List Piece

mutual

inductive Tree where
  | atom (name : List Char)
  | string (body : List Char)
  | list (gap : Gap) (forms : Forms)

inductive Forms where
  | nil
  | cons (tree : Tree) (gap : Gap) (rest : Forms)

end

structure Program where
  gap : Gap
  forms : Forms

namespace Piece

def text : Piece → List Char
  | blank c => [c]
  | comment body => ';' :: body

def Stands (comments : Bool) : Piece → List Char → Prop
  | blank c, _ => isBlank c = true
  | comment body, after =>
    comments = true ∧ '\n' ∉ body ∧ ∀ c ∈ after.head?, c = '\n'

end Piece

namespace Gap

def text : Gap → List Char
  | [] => []
  | piece :: rest => piece.text ++ text rest

def Stands (comments : Bool) : Gap → List Char → Prop
  | [], _ => True
  | piece :: rest, after => piece.Stands comments (text rest ++ after) ∧ Stands comments rest after

end Gap

structure IsToken (comments : Bool) (name : List Char) : Prop where
  nonempty : name ≠ []
  chars : ∀ c ∈ name, isTokenChar c = true
  noComment : comments = true → name.head? ≠ some ';'

lemma isToken_of_all {comments : Bool} {name : List Char} (hne : name ≠ [])
    (hchars : name.all isTokenChar = true) (hc : name.head? ≠ some ';') : IsToken comments name where
  nonempty := hne
  chars := List.all_eq_true.1 hchars
  noComment _ := hc

lemma ends_token {c : Char} {cs : List Char} (hc : isTokenChar c = false) :
    ∀ d ∈ (c :: cs).head?, isTokenChar d = false := by
  intro d hd
  obtain rfl : c = d := by simpa using hd
  exact hc

mutual

def Tree.text : Tree → List Char
  | .atom name => name
  | .string body => '"' :: (body ++ ['"'])
  | .list gap forms => '(' :: (gap.text ++ (forms.text ++ [')']))

def Forms.text : Forms → List Char
  | .nil => []
  | .cons tree gap rest => tree.text ++ (gap.text ++ rest.text)

end

mutual

def Tree.Stands (comments : Bool) : Tree → List Char → Prop
  | .atom name, after => IsToken comments name ∧ ∀ c ∈ after.head?, isTokenChar c = false
  | .string body, _ => '"' ∉ body
  | .list gap forms, after =>
    gap.Stands comments (forms.text ++ ')' :: after) ∧ forms.Stands comments (')' :: after)

def Forms.Stands (comments : Bool) : Forms → List Char → Prop
  | .nil, _ => True
  | .cons tree gap rest, after =>
    tree.Stands comments (gap.text ++ (rest.text ++ after)) ∧
      gap.Stands comments (rest.text ++ after) ∧ rest.Stands comments after

end

mutual

/-- No form stands directly inside too many lists, when `depth` lists are open around. -/
def Tree.Within (depth : Nat) : Tree → Prop
  | .atom _ => depth < nestingLimit
  | .string _ => depth < nestingLimit
  | .list _ forms => depth < nestingLimit ∧ forms.Within (depth + 1)

def Forms.Within (depth : Nat) : Forms → Prop
  | .nil => True
  | .cons tree _ rest => tree.Within depth ∧ rest.Within depth

end

end SmallScheme.Grammar

namespace SmallScheme.Reader.Atom

def value (symbols : SymbolTable) : Atom → Value × SymbolTable
  | bool b => (.bool b, symbols)
  | number x => (.number x, symbols)
  | name text => ((symbols.intern text).1 |> .symbol, (symbols.intern text).2)

end SmallScheme.Reader.Atom

namespace SmallScheme.Grammar

open Text Reader

mutual

def Tree.value (symbols : SymbolTable) : Tree → Value × SymbolTable
  | .atom name => (Atom.ofChars name).value symbols
  | .string body => (.string (String.ofList body), symbols)
  | .list _ forms => (.list (forms.values symbols).1, (forms.values symbols).2)

def Forms.values (symbols : SymbolTable) : Forms → List Value × SymbolTable
  | .nil => ([], symbols)
  | .cons tree _ rest =>
    let (v, symbols) := tree.value symbols
    let (vs, symbols) := rest.values symbols
    (v :: vs, symbols)

end

lemma Forms.values_cons (symbols : SymbolTable) (tree : Tree) (gap : Gap) (rest : Forms) :
    (cons tree gap rest).values symbols =
      ((tree.value symbols).1 :: (rest.values (tree.value symbols).2).1,
        (rest.values (tree.value symbols).2).2) := rfl

namespace Program

def text (p : Program) : List Char :=
  p.gap.text ++ p.forms.text

structure Derives (comments : Bool) (p : Program) (cs : List Char) : Prop where
  text : p.text = cs
  gap : p.gap.Stands comments p.forms.text
  forms : p.forms.Stands comments []

end Program

lemma run_unique {p : Char → Bool} {a b x y : List Char} (h : a ++ x = b ++ y)
    (ha : ∀ c ∈ a, p c = true) (hb : ∀ c ∈ b, p c = true)
    (hx : ∀ c ∈ x.head?, p c = false) (hy : ∀ c ∈ y.head?, p c = false) : a = b ∧ x = y := by
  induction a generalizing b with
  | nil =>
    cases b with
    | nil => exact ⟨rfl, h⟩
    | cons c b =>
      have hc : p c = false := hx c (by simp at h; simp [h])
      simp [hb c (by simp)] at hc
  | cons c a ih =>
    cases b with
    | nil =>
      have hc : p c = false := hy c (by simp at h; simp [← h])
      simp [ha c (by simp)] at hc
    | cons d b =>
      simp only [List.cons_append, List.cons.injEq] at h
      obtain ⟨rfl, h⟩ := h
      obtain ⟨rfl, rfl⟩ := ih h (fun e he => ha e (by simp [he])) (fun e he => hb e (by simp [he]))
      exact ⟨rfl, rfl⟩

lemma span_append {p : Char → Bool} {a b : List Char} (ha : ∀ c ∈ a, p c = true)
    (hb : ∀ c ∈ b.head?, p c = false) :
    (a ++ b).takeWhile p = a ∧ (a ++ b).dropWhile p = b := by
  rw [List.takeWhile_append_of_pos ha, List.dropWhile_append_of_pos ha]
  cases b with
  | nil => simp
  | cons c b => simp [hb c rfl]

def NoTrivia (comments : Bool) (cs : List Char) : Prop :=
  ∀ c ∈ cs.head?, isBlank c = false ∧ (comments = true → c ≠ ';')

def Ends (cs : List Char) : Prop :=
  ∀ c ∈ cs.head?, c = ')'

variable {comments : Bool}

lemma Ends.noTrivia {cs : List Char} (h : Ends cs) : NoTrivia comments cs := by
  intro c hc
  obtain rfl := h c hc
  exact ⟨by decide, fun _ => by decide⟩

lemma Ends.close (cs : List Char) : Ends (')' :: cs) := by
  intro c hc
  simpa using hc.symm

lemma not_noTrivia_piece {piece : Piece} {cs : List Char}
    (hs : piece.Stands comments cs) : ¬ NoTrivia comments (piece.text ++ cs) := by
  intro h
  cases piece with
  | blank c =>
    have hc : isBlank c = true := hs
    simp [h c rfl] at hc
  | comment body => exact (h ';' rfl).2 hs.1 rfl

lemma piece_unique {piece piece' : Piece} {after after' : List Char}
    (h : piece.text ++ after = piece'.text ++ after') (hs : piece.Stands comments after)
    (hs' : piece'.Stands comments after') : piece = piece' ∧ after = after' := by
  cases piece with
  | blank c =>
    cases piece' with
    | blank c' =>
      simp only [Piece.text, List.singleton_append, List.cons.injEq] at h
      obtain ⟨rfl, rfl⟩ := h
      exact ⟨rfl, rfl⟩
    | comment body =>
      simp only [Piece.text, List.cons_append, List.nil_append, List.cons.injEq] at h
      obtain ⟨rfl, -⟩ := h
      exact absurd (show isBlank ';' = true from hs) (by decide)
  | comment body =>
    cases piece' with
    | blank c =>
      simp only [Piece.text, List.cons_append, List.nil_append, List.cons.injEq] at h
      obtain ⟨rfl, -⟩ := h
      exact absurd (show isBlank ';' = true from hs') (by decide)
    | comment body' =>
      simp only [Piece.text, List.cons_append, List.cons.injEq, true_and] at h
      obtain ⟨-, hb, ha⟩ := hs
      obtain ⟨-, hb', ha'⟩ := hs'
      obtain ⟨rfl, rfl⟩ := run_unique (p := (· != '\n')) h
        (fun c hc => by simp; rintro rfl; exact hb hc)
        (fun c hc => by simp; rintro rfl; exact hb' hc)
        (fun c hc => by simp [ha c hc]) (fun c hc => by simp [ha' c hc])
      exact ⟨rfl, rfl⟩

lemma gap_unique {gap gap' : Gap} {after after' : List Char}
    (h : gap.text ++ after = gap'.text ++ after') (hs : gap.Stands comments after)
    (hs' : gap'.Stands comments after') (ha : NoTrivia comments after)
    (ha' : NoTrivia comments after') : gap = gap' ∧ after = after' := by
  induction gap generalizing gap' with
  | nil =>
    cases gap' with
    | nil => exact ⟨rfl, h⟩
    | cons piece rest =>
      simp only [Gap.text, List.nil_append, List.append_assoc] at h
      rw [h] at ha
      exact (not_noTrivia_piece hs'.1 ha).elim
  | cons piece rest ih =>
    cases gap' with
    | nil =>
      simp only [Gap.text, List.nil_append, List.append_assoc] at h
      rw [← h] at ha'
      exact (not_noTrivia_piece hs.1 ha').elim
    | cons piece' rest' =>
      simp only [Gap.text, List.append_assoc] at h
      obtain ⟨rfl, hrest⟩ := piece_unique h hs.1 hs'.1
      obtain ⟨rfl, rfl⟩ := ih hrest hs.2 hs'.2
      exact ⟨rfl, rfl⟩

lemma tree_head {t : Tree} {after : List Char} (hs : t.Stands comments after) :
    ∃ c cs, t.text = c :: cs ∧ isBlank c = false ∧ c ≠ ')' ∧ (comments = true → c ≠ ';') := by
  cases t with
  | atom name =>
    obtain ⟨hn, -⟩ := hs
    cases name with
    | nil => exact absurd rfl hn.nonempty
    | cons c cs =>
      have hc := hn.chars c (by simp)
      refine ⟨c, cs, rfl, ?_, ?_, fun h hc => hn.noComment h (by simp [hc])⟩
      · cases hb : isBlank c with
        | false => rfl
        | true => simp [isTokenChar, isWhiteSpace_of_isBlank hb] at hc
      · rintro rfl
        exact absurd hc (by decide)
  | string body => exact ⟨'"', _, rfl, by decide, by decide, fun _ => by decide⟩
  | list gap forms => exact ⟨'(', _, rfl, by decide, by decide, fun _ => by decide⟩

lemma not_ends_tree {t : Tree} {after rest : List Char} (hs : t.Stands comments after) :
    ¬ Ends (t.text ++ rest) := by
  obtain ⟨c, cs, ht, -, hc, -⟩ := tree_head hs
  intro h
  exact hc (h c (by simp [ht]))

lemma forms_noTrivia {f : Forms} {after : List Char} (hs : f.Stands comments after)
    (ha : Ends after) : NoTrivia comments (f.text ++ after) := by
  cases f with
  | nil => exact ha.noTrivia
  | cons t gap rest =>
    obtain ⟨c, cs, ht, hb, -, hc⟩ := tree_head hs.1
    intro d hd
    simp only [Forms.text, ht, List.cons_append, List.head?_cons, Option.mem_def,
      Option.some.injEq] at hd
    exact hd ▸ ⟨hb, hc⟩

lemma atom_unique {name name' : List Char} {after after' : List Char}
    (h : name ++ after = name' ++ after') (hs : (Tree.atom name).Stands comments after)
    (hs' : (Tree.atom name').Stands comments after') : name = name' ∧ after = after' :=
  run_unique h hs.1.chars hs'.1.chars hs.2 hs'.2

lemma string_unique {body body' : List Char} {after after' : List Char}
    (h : body ++ '"' :: after = body' ++ '"' :: after') (hs : '"' ∉ body) (hs' : '"' ∉ body') :
    body = body' ∧ after = after' := by
  obtain ⟨rfl, h⟩ := run_unique (p := isBody) h
    (fun c hc => by simp [isBody]; rintro rfl; exact hs hc)
    (fun c hc => by simp [isBody]; rintro rfl; exact hs' hc)
    (by simp [isBody]) (by simp [isBody])
  exact ⟨rfl, by simpa using h⟩

lemma not_token_of_head {name cs : List Char} {after : List Char} {c : Char}
    (hs : (Tree.atom name).Stands comments after) (h : name ++ after = c :: cs)
    (hc : isTokenChar c = false) : False := by
  obtain ⟨hn, -⟩ := hs
  cases name with
  | nil => exact hn.nonempty rfl
  | cons d name =>
    simp only [List.cons_append, List.cons.injEq] at h
    obtain ⟨rfl, -⟩ := h
    simp [hn.chars d (by simp)] at hc

mutual

lemma tree_unique {t t' : Tree} {after after' : List Char}
    (h : t.text ++ after = t'.text ++ after') (hs : t.Stands comments after)
    (hs' : t'.Stands comments after') : t = t' ∧ after = after' := by
  cases t with
  | atom name =>
    cases t' with
    | atom name' =>
      obtain ⟨rfl, rfl⟩ := atom_unique h hs hs'
      exact ⟨rfl, rfl⟩
    | string body' => exact (not_token_of_head hs h (by decide)).elim
    | list gap' forms' => exact (not_token_of_head hs h (by decide)).elim
  | string body =>
    cases t' with
    | atom name' => exact (not_token_of_head hs' h.symm (by decide)).elim
    | string body' =>
      simp only [Tree.text, List.cons_append, List.append_assoc, List.nil_append,
        List.cons.injEq, true_and] at h
      obtain ⟨rfl, rfl⟩ := string_unique h hs hs'
      exact ⟨rfl, rfl⟩
    | list gap' forms' => simp [Tree.text] at h
  | list gap forms =>
    cases t' with
    | atom name' => exact (not_token_of_head hs' h.symm (by decide)).elim
    | string body' => simp [Tree.text] at h
    | list gap' forms' =>
      simp only [Tree.text, List.cons_append, List.append_assoc, List.nil_append,
        List.cons.injEq, true_and] at h
      obtain ⟨rfl, hforms⟩ := gap_unique h hs.1 hs'.1 (forms_noTrivia hs.2 (.close _))
        (forms_noTrivia hs'.2 (.close _))
      obtain ⟨rfl, hafter⟩ := forms_unique hforms hs.2 hs'.2 (.close _) (.close _)
      exact ⟨rfl, by simpa using hafter⟩

lemma forms_unique {f f' : Forms} {after after' : List Char}
    (h : f.text ++ after = f'.text ++ after') (hs : f.Stands comments after)
    (hs' : f'.Stands comments after') (ha : Ends after) (ha' : Ends after') :
    f = f' ∧ after = after' := by
  cases f with
  | nil =>
    cases f' with
    | nil => exact ⟨rfl, h⟩
    | cons t' gap' rest' =>
      simp only [Forms.text, List.nil_append, List.append_assoc] at h
      rw [h] at ha
      exact (not_ends_tree hs'.1 ha).elim
  | cons t gap rest =>
    cases f' with
    | nil =>
      simp only [Forms.text, List.nil_append, List.append_assoc] at h
      rw [← h] at ha'
      exact (not_ends_tree hs.1 ha').elim
    | cons t' gap' rest' =>
      simp only [Forms.text, List.append_assoc] at h
      obtain ⟨rfl, hgap⟩ := tree_unique h hs.1 hs'.1
      obtain ⟨rfl, hrest⟩ := gap_unique hgap hs.2.1 hs'.2.1 (forms_noTrivia hs.2.2 ha)
        (forms_noTrivia hs'.2.2 ha')
      obtain ⟨rfl, rfl⟩ := forms_unique hrest hs.2.2 hs'.2.2 ha ha'
      exact ⟨rfl, rfl⟩

end

lemma program_unique {p q : Program} {cs : List Char} (hp : p.Derives comments cs)
    (hq : q.Derives comments cs) : p = q := by
  have hend : Ends [] := by simp [Ends]
  have h : p.gap.text ++ (p.forms.text ++ []) = q.gap.text ++ (q.forms.text ++ []) := by
    simpa [Program.text] using hp.text.trans hq.text.symm
  obtain ⟨hgap, hforms⟩ := gap_unique h (by simpa using hp.gap) (by simpa using hq.gap)
    (forms_noTrivia hp.forms hend) (forms_noTrivia hq.forms hend)
  obtain ⟨hforms, -⟩ := forms_unique hforms hp.forms hq.forms hend hend
  cases p
  cases q
  cases hgap
  cases hforms
  rfl

def Follows (after after' : List Char) : Prop :=
  ∀ c ∈ after'.head?, c ∈ after.head? ∨ c = '\n'

variable {after after' : List Char}

lemma Follows.append (h : Follows after after') (cs : List Char) :
    Follows (cs ++ after) (cs ++ after') := by
  cases cs with
  | nil => exact h
  | cons c cs => exact fun d hd => .inl hd

lemma follows_line (cs line : List Char) : Follows cs (cs ++ '\n' :: line) := by
  have hline : Follows [] ('\n' :: line) := fun c hc => .inr (by simpa using hc.symm)
  simpa using hline.append cs

lemma Piece.Stands.follow {piece : Piece} (hs : piece.Stands comments after)
    (h : Follows after after') : piece.Stands comments after' := by
  cases piece with
  | blank c => exact hs
  | comment body =>
    obtain ⟨hcomments, hbody, hafter⟩ := hs
    exact ⟨hcomments, hbody, fun c hc => (h c hc).elim (hafter c) id⟩

lemma Gap.Stands.follow {gap : Gap} (hs : gap.Stands comments after)
    (h : Follows after after') : gap.Stands comments after' := by
  induction gap with
  | nil => trivial
  | cons piece rest ih => exact ⟨hs.1.follow (h.append (text rest)), ih hs.2⟩

mutual

lemma Tree.Stands.follow {t : Tree} {after after' : List Char} (hs : t.Stands comments after)
    (h : Follows after after') : t.Stands comments after' := by
  cases t with
  | atom name =>
    refine ⟨hs.1, fun c hc => ?_⟩
    rcases h c hc with hc | rfl
    · exact hs.2 c hc
    · decide
  | string body => exact hs
  | list gap forms =>
    have hclose : Follows (')' :: after) (')' :: after') := h.append [')']
    exact ⟨hs.1.follow (hclose.append forms.text), Forms.Stands.follow hs.2 hclose⟩

lemma Forms.Stands.follow {f : Forms} {after after' : List Char} (hs : f.Stands comments after)
    (h : Follows after after') : f.Stands comments after' := by
  cases f with
  | nil => trivial
  | cons t gap rest =>
    exact ⟨Tree.Stands.follow hs.1 ((h.append rest.text).append gap.text),
      hs.2.1.follow (h.append rest.text), Forms.Stands.follow hs.2.2 h⟩

end

end SmallScheme.Grammar
