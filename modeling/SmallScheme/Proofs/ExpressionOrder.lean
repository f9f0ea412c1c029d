import Mathlib.Data.List.Nodup
import SmallScheme.CommandLine.Console

/-! The order in which the expressions of a command line run. Each spelling of their option is
gathered by itself, so the expressions keep their order only if the short spelling is not used
after the long one. -/

namespace SmallScheme.CommandLine

structure Word where
  text : String
  plain : text.toList.head? ≠ some '-'

inductive Spelling where
  | short
  | long
deriving DecidableEq

def Spelling.option : Spelling → String
  | short => "-e"
  | long => "--eval"

inductive Item where
  | file (name : Word)
  | expression (spelling : Spelling) (word : Word)

namespace Item

def arguments : Item → List String
  | file name => [name.text]
  | expression spelling word => [spelling.option, word.text]

def name? : Item → Option String
  | file name => some name.text
  | expression _ _ => none

def expression? : Item → Option String
  | file _ => none
  | expression _ word => some word.text

def uses (s : Spelling) : Item → Bool
  | file _ => false
  | expression spelling _ => spelling == s

end Item

abbrev Line := List Item

namespace Line

variable {items : Line} {s t : Spelling}

def arguments (items : Line) : List String :=
  items.flatMap Item.arguments

def names (items : Line) : List String :=
  items.filterMap Item.name?

def expressions (items : Line) : List String :=
  items.filterMap Item.expression?

def only (s : Spelling) (items : Line) : Line :=
  items.filter fun item => item.uses s

def without (s : Spelling) (items : Line) : Line :=
  items.filter fun item => !item.uses s

def ShortFirst (items : Line) : Prop :=
  items.Pairwise fun a b => a.uses .long = true → b.uses .short = false

def given (items : Line) : Options where
  files := names items
  expressions := expressions items
  interactive := false
  verbose := false

def gathered (items : Line) : Options :=
  { given items with
    expressions := expressions (only .short items) ++ expressions (only .long items) }

end Line

/-! ### Taking options out -/

section Take

variable {option name arg : String} {flags args : List String} {items : Line} {s t : Spelling}

lemma Word.text_ne (w : Word) (h : arg.toList.head? = some '-') : w.text ≠ arg := by
  rintro rfl
  exact w.plain h

namespace Spelling

lemma head?_option (s : Spelling) : s.option.toList.head? = some '-' := by
  cases s <;> rfl

lemma option_ne (h : s ≠ t) : s.option ≠ t.option := by
  cases s <;> cases t <;> first | exact absurd rfl h | decide

end Spelling

lemma takeFlag_of_notMem (h : ∀ name ∈ flags, name ∉ args) :
    takeFlag flags args = (false, args) := by
  induction flags with
  | nil => rfl
  | cons name flags ih =>
    obtain ⟨hname, hflags⟩ := List.forall_mem_cons.1 h
    rw [takeFlag, if_neg (by rwa [List.contains_iff_mem]), ih hflags]

lemma takeValues_cons_of_ne (h : arg ≠ option) (args : List String) :
    takeValues option (arg :: args) =
      (takeValues option args).map fun (values, others) => (values, arg :: others) := by
  cases args with
  | nil => exact if_neg h
  | cons value args => exact if_neg h

lemma takeValues_cons_option (option value : String) (args : List String) :
    takeValues option (option :: value :: args) =
      (takeValues option args).map fun (values, others) => (value :: values, others) :=
  if_pos rfl

namespace Line

lemma notMem_arguments (hdash : name.toList.head? = some '-')
    (hname : ∀ s : Spelling, name ≠ s.option) : name ∉ arguments items := by
  intro h
  obtain ⟨item, -, hitem⟩ := List.mem_flatMap.1 h
  cases item with
  | file word => exact word.text_ne hdash (List.mem_singleton.1 hitem).symm
  | expression spelling word =>
    rcases List.mem_pair.1 hitem with hoption | hword
    · exact hname spelling hoption
    · exact word.text_ne hdash hword.symm

lemma takeValues_arguments (s : Spelling) (items : Line) :
    takeValues s.option (arguments items) =
      .ok (expressions (only s items), arguments (without s items)) := by
  induction items with
  | nil => rfl
  | cons item items ih =>
    cases item with
    | file word =>
      have hword := word.text_ne s.head?_option
      change takeValues s.option (word.text :: arguments items) = _
      rw [takeValues_cons_of_ne hword, ih]
      rfl
    | expression spelling word =>
      change takeValues s.option (spelling.option :: word.text :: arguments items) = _
      by_cases hs : spelling = s
      · subst hs
        rw [takeValues_cons_option, ih]
        simp [only, without, Item.uses, expressions, Item.expression?, Except.map]
      · have hword := word.text_ne s.head?_option
        rw [takeValues_cons_of_ne (Spelling.option_ne hs), takeValues_cons_of_ne hword, ih]
        simp [only, without, Item.uses, arguments, Item.arguments, Except.map, hs]

lemma only_without (h : s ≠ t) (items : Line) : only s (without t items) = only s items := by
  rw [only, without, List.filter_filter]
  refine List.filter_congr fun item _ => ?_
  cases item with
  | file name => rfl
  | expression spelling word =>
    simp only [Item.uses]
    grind

lemma arguments_without (items : Line) :
    arguments (without .long (without .short items)) = names items := by
  induction items with
  | nil => rfl
  | cons item items ih =>
    cases item with
    | file word => exact congrArg (word.text :: ·) ih
    | expression spelling word => cases spelling <;> exact ih

lemma parse_arguments (items : Line) :
    Options.parse (arguments items) = .ok (some (gathered items)) := by
  have hflags : ∀ flags ∈ [["-h", "--help"], ["-i", "--interactive"], ["-v", "--verbose"]],
      takeFlag flags (arguments items) = (false, arguments items) := by
    intro flags hflags
    refine takeFlag_of_notMem fun name hname => notMem_arguments ?_ fun spelling => ?_
    · revert name flags
      decide
    · revert name flags
      cases spelling <;> decide
  simp only [List.forall_mem_cons] at hflags
  obtain ⟨hhelp, hinteractive, hverbose, -⟩ := hflags
  have hshort : takeValues "-e" (arguments items) =
      .ok (expressions (only .short items), arguments (without .short items)) :=
    takeValues_arguments .short items
  have hlong : takeValues "--eval" (arguments (without .short items)) =
      .ok (expressions (only .long items), names items) := by
    rw [← only_without (t := .short) (by decide), ← arguments_without]
    exact takeValues_arguments .long (without .short items)
  simp [Options.parse, hhelp, hinteractive, hverbose, hshort, hlong, bind, Except.bind, gathered,
    given]

end Line

end Take

/-! ### The order -/

namespace Line

variable {items : Line} {s : Spelling}

lemma gathered_eq_given_iff : gathered items = given items ↔
    expressions (only .short items) ++ expressions (only .long items) = expressions items := by
  simp [gathered, given]

lemma mem_expressions_of_only {text : String} (h : text ∈ expressions (only s items)) :
    text ∈ expressions items :=
  (List.filter_sublist.filterMap Item.expression?).mem h

lemma expressions_only_eq_nil_iff :
    expressions (only s items) = [] ↔ ∀ item ∈ items, item.uses s = false := by
  rw [expressions, only, List.filterMap_eq_nil_iff]
  refine ⟨fun h item hitem => ?_, fun h item hitem => ?_⟩
  · by_contra huses
    rw [Bool.not_eq_false] at huses
    have hnone := h item (List.mem_filter.2 ⟨hitem, huses⟩)
    cases item with
    | file name => cases huses
    | expression spelling word => cases hnone
  · obtain ⟨hmem, huses⟩ := List.mem_filter.1 hitem
    rw [h item hmem] at huses
    cases huses

lemma gathered_of_shortFirst (h : ShortFirst items) : gathered items = given items := by
  rw [gathered_eq_given_iff]
  induction items with
  | nil => rfl
  | cons item items ih =>
    obtain ⟨hfirst, hrest⟩ := List.pairwise_cons.1 h
    have hitems := ih hrest
    match item with
    | .file name => exact hitems
    | .expression .short word => exact congrArg (word.text :: ·) hitems
    | .expression .long word =>
      have hshort : expressions (only .short items) = [] :=
        expressions_only_eq_nil_iff.2 fun item hitem => hfirst item hitem rfl
      change expressions (only .short items) ++ word.text :: expressions (only .long items) =
        word.text :: expressions items
      rw [← hitems, hshort]
      rfl

lemma shortFirst_of_gathered (hdistinct : (expressions items).Nodup)
    (h : gathered items = given items) : ShortFirst items := by
  rw [gathered_eq_given_iff] at h
  induction items with
  | nil => exact .nil
  | cons item items ih =>
    match item with
    | .file name => exact .cons (fun _ _ hlong => nomatch hlong) (ih hdistinct h)
    | .expression .short word =>
      exact .cons (fun _ _ hlong => nomatch hlong) (ih hdistinct.of_cons (List.cons.inj h).2)
    | .expression .long word =>
      change expressions (only .short items) ++ word.text :: expressions (only .long items) =
        word.text :: expressions items at h
      have hfirst : word.text ∉ expressions items := (List.nodup_cons.1 hdistinct).1
      match hshort : expressions (only .short items) with
      | [] =>
        rw [hshort] at h
        refine .cons (fun item hitem _ => expressions_only_eq_nil_iff.1 hshort item hitem)
          (ih hdistinct.of_cons ?_)
        rw [hshort]
        exact (List.cons.inj h).2
      | text :: texts =>
        -- the text would come first in both orders, and stand twice on the line
        rw [hshort] at h
        have hmem : text ∈ expressions items :=
          mem_expressions_of_only (hshort ▸ List.mem_cons_self)
        rw [(List.cons.inj h).1] at hmem
        exact absurd hmem hfirst

end Line

/-! ### The run -/

namespace Console

variable {c c' c'' : Console} {disk : Disk} {o : Options} {earlier later : List String}

lemma runExpressions_append (c : Console) (xs ys : List String) :
    c.runExpressions (xs ++ ys) =
      match c.runExpressions xs with
      | (true, c) => c.runExpressions ys
      | (false, c) => (false, c) := by
  induction xs generalizing c with
  | nil => rfl
  | cons text xs ih =>
    rw [List.cons_append, runExpressions, runExpressions]
    split
    · exact ih _
    · rfl

lemma runBatch_expression {text : String} (hfiles : c.runFiles disk o.files = (true, c'))
    (hearlier : c'.runExpressions earlier = (true, c''))
    (h : o.expressions = earlier ++ text :: later) :
    c.runBatch disk o =
      match c''.perform (Session.runText text) with
      | (.ok v, c) => (c.print (Prompt.resultLine v)).runExpressions later
      | (.error e, c) => (false, c.complain ("Error: " ++ e.message ++ "\n")) := by
  have hrest : c.runBatch disk o = c''.runExpressions (text :: later) := by
    rw [runBatch, hfiles, h]
    simp only [runExpressions_append, hearlier]
  rw [hrest]
  rfl

end Console

namespace Line

variable {items : Line}

lemma wantsPrompt_gathered (h : items ≠ []) : (gathered items).wantsPrompt = false := by
  match items, h with
  | .file name :: items, _ => rfl
  | .expression .short word :: items, _ => exact Bool.and_false _
  | .expression .long word :: items, _ =>
    simp [Options.wantsPrompt, gathered, given, only, Item.uses, expressions, Item.expression?]

lemma run_arguments {disk : Disk} {input : List UInt8} {setting : Option String}
    {succeeded : Bool} {c : Console} (h : items ≠ [])
    (hbatch : (Console.start (filterFor setting false)).runBatch disk (gathered items) =
      (succeeded, c)) :
    run (arguments items) disk input setting = ⟨status succeeded, c.output, c.errors⟩ := by
  have hverbose : (gathered items).verbose = false := rfl
  rw [run, parse_arguments]
  simp only [runOptions, wantsPrompt_gathered h, hverbose, hbatch, Bool.false_eq_true, if_false]

end Line

open Line

/-- File names keep their order, and the expressions of one spelling keep theirs, with the short
spelling first. So all expressions are in the order of the command line if no long spelling is
before a short one; distinct expressions are not in any other case. They run one after the other
in the session of the files. -/
theorem expressions_run_by_spelling (items : Line) :
    Options.parse (arguments items) = .ok (some (gathered items)) ∧
    (ShortFirst items → gathered items = given items) ∧
    ((expressions items).Nodup → gathered items = given items → ShortFirst items) ∧
    (items ≠ [] → ∀ disk input setting succeeded c,
      (Console.start (filterFor setting false)).runBatch disk (gathered items) = (succeeded, c) →
      run (arguments items) disk input setting = ⟨status succeeded, c.output, c.errors⟩) ∧
    ∀ disk c c' c'' earlier text later,
      Console.runFiles disk c (names items) = (true, c') →
      c'.runExpressions earlier = (true, c'') →
      (gathered items).expressions = earlier ++ text :: later →
      c.runBatch disk (gathered items) =
        match c''.perform (Session.runText text) with
        | (.ok v, c) => (c.print (Prompt.resultLine v)).runExpressions later
        | (.error e, c) => (false, c.complain ("Error: " ++ e.message ++ "\n")) := by
  refine ⟨parse_arguments items, gathered_of_shortFirst, shortFirst_of_gathered, ?_, ?_⟩
  · intro h disk input setting succeeded c hbatch
    exact run_arguments h hbatch
  · intro disk c c' c'' earlier text later hfiles hearlier h
    exact Console.runBatch_expression hfiles hearlier h

theorem expressions_run_by_spelling_ordered :
    let items : Line := [.expression .short ⟨"#t", by decide⟩, .file ⟨"a", by decide⟩,
      .expression .long ⟨"x", by decide⟩]
    let disk : Disk := ⟨fun _ => .ok "(define x #f)", none⟩
    let start := Console.start (filterFor none false)
    Options.parse ["-e", "#t", "a", "--eval", "x"] = .ok (some (given items)) ∧
      ShortFirst items ∧
      run ["-e", "#t", "a", "--eval", "x"] disk [] none = ⟨0, "#t\n#f\n", ""⟩ ∧
      ∃ c : Console, c.output = "#t\n" ∧
        start.runBatch disk (given items) = c.runExpressions ["x"] := by
  intro items disk start
  obtain ⟨hparse, hordered, hshort, hrun, hnext⟩ := expressions_run_by_spelling items
  have hgiven : gathered items = given items :=
    hordered (by simp [items, ShortFirst, Item.uses])
  rw [hgiven] at hparse hrun hnext
  have hpair : ∀ p : Bool × Console, p.1 = true → p = (true, p.2) := fun p h => Prod.ext h rfl
  have hfiles := hpair (start.runFiles disk (names items)) (by decide +kernel)
  have hearlier := hpair ((start.runFiles disk (names items)).2.runExpressions ["#t"])
    (by decide +kernel)
  refine ⟨hparse, hshort (by decide) hgiven, ?_, _, ?_,
    hnext disk start _ _ ["#t"] "x" [] hfiles hearlier rfl⟩
  · refine (hrun (List.cons_ne_nil _ _) disk [] none _ _ rfl).trans ?_
    decide +kernel
  · decide +kernel

theorem long_spelling_runs_last :
    Options.parse ["--eval", "1", "-e", "2"] = .ok (some ⟨[], ["2", "1"], false, false⟩) ∧
    run ["--eval", "1", "-e", "2"] ⟨fun _ => .ok "", none⟩ [] none = ⟨0, "2\n1\n", ""⟩ ∧
    ¬ ∀ items : Line, Options.parse (arguments items) = .ok (some (given items)) := by
  refine ⟨by decide, by decide +kernel, fun h => ?_⟩
  have hgiven := h [.expression .long ⟨"1", by decide⟩, .expression .short ⟨"2", by decide⟩]
  revert hgiven
  decide

end SmallScheme.CommandLine
