import SmallScheme.Prompt
import SmallScheme.Proofs.JoinedText
import SmallScheme.Proofs.Named.Interning
import SmallScheme.Proofs.Named.ParameterNames
import SmallScheme.Proofs.TextSession

/-! The lines typed at the prompt. A line that runs no program may enter names into the table of the
session, and that shows nowhere: without such lines every other line is answered as with them. -/

namespace SmallScheme

def Named.Session.cleared (n : Named.Session) : Named.Session :=
  { n with world := { n.world with output := "" } }

namespace Session

/-- Sessions that began afresh and were asked by texts since. What they displayed and logged may
have been taken on the way. The command line makes no others. A host that registers a function or
defines a value makes sessions that are not of this kind: a function may tell by the numbers of
symbols which lines were left out. -/
inductive Used (sink : Sink) : Session → Prop
  | start : Used sink (start sink)
  | comments {s : Session} (on : Bool) : Used sink s → Used sink { s with comments := on }
  | scope {s : Session} (outer : List Nat) : Used sink s →
      Used sink { s with world := { s.world with store := (s.world.store.enter outer).2 } }
  | request {s : Session} (q : TextRequest) : Used sink s → Used sink (s.after q.action)
  | shown {s : Session} : Used sink s → Used sink s.takeOutput.2
  | logged {s : Session} : Used sink s → Used sink s.takeEvents.2

variable {t : SymbolTable} {s : Session} {n : Named.Session}

lemma spelt_after {m : Action Value} {m' : Named.Session.Action Named.Value}
    (hm : sessionSpelling.Aligned t Spelt m m') (hs : SessionSpelt t s n) :
    ∃ t n, SessionSpelt t (s.after m) n := by
  obtain ⟨l, -, ho⟩ := hm t le_rfl s n hs
  rw [after]
  generalize m s = result at ho
  generalize m' n = result' at ho
  cases ho with
  | ok _ hs => exact ⟨l, _, hs⟩
  | error _ hs => exact ⟨l, _, hs⟩

lemma withEvents_spelt (hs : SessionSpelt t s n) (events : Array Event) :
    SessionSpelt t { s with world := { s.world with events } } n :=
  ⟨hs.symbols, hs.sound, ⟨hs.world.store, hs.world.sink, hs.world.output, hs.world.externals⟩,
    hs.global, hs.comments⟩

lemma takeOutput_spelt (hs : SessionSpelt t s n) :
    SessionSpelt t s.takeOutput.2 n.cleared :=
  ⟨hs.symbols, hs.sound, ⟨hs.world.store, hs.world.sink, rfl, hs.world.externals⟩, hs.global,
    hs.comments⟩

lemma request_spelt (hs : SessionSpelt t s n) (q : TextRequest) :
    ∃ t n, SessionSpelt t (s.after q.action) n := by
  cases q with
  | evaluate text e => exact spelt_after (SpeltSession.evaluateText_aligned text e) hs
  | run text => exact spelt_after (SpeltSession.runText_aligned text) hs
  | load path content =>
    have hnoted := withEvents_spelt hs (s.world.events.push (.loading path))
    cases content with
    | ok text =>
      have hrun := spelt_after (SpeltSession.runText_aligned text) hnoted
      exact hrun
    | error fault => exact ⟨t, n, hnoted⟩

lemma Used.spelt {sink : Sink} (h : Used sink s) : ∃ t n, SessionSpelt t s n := by
  induction h with
  | start =>
    obtain ⟨t, hs⟩ := SessionSpelt.start sink
    exact ⟨t, _, hs⟩
  | comments on _ ih =>
    obtain ⟨t, n, hs⟩ := ih
    exact ⟨t, _, withComments_spelt hs on⟩
  | scope outer _ ih =>
    obtain ⟨t, n, hs⟩ := ih
    have hworld := hs.world.withStore (hs.world.store.newFrame outer)
    exact ⟨t, { n with world := { n.world with store := n.world.store.newFrame } }, hs.symbols,
      hs.sound, hworld, hs.global, hs.comments⟩
  | request q _ ih =>
    obtain ⟨t, n, hs⟩ := ih
    exact request_spelt hs q
  | shown _ ih =>
    obtain ⟨t, n, hs⟩ := ih
    exact ⟨t, _, takeOutput_spelt hs⟩
  | logged _ ih =>
    obtain ⟨t, n, hs⟩ := ih
    exact ⟨t, n, withEvents_spelt hs #[]⟩

lemma lookup_toNamed (hs : SessionSpelt t s n) (name : String) :
    (s.lookup name).map Value.toNamed = n.lookup name := by
  have halike := SpeltSession.lookup_alike hs name
  generalize s.lookup name = outcome at halike
  generalize n.lookup name = outcome' at halike
  cases halike with
  | ok hv => exact congrArg Except.ok hv.toNamed_eq
  | error => rfl

end Session

namespace Command

/-- Neither runs a program nor ends the conversation. A text that cannot be read with the empty
table cannot be read with any. -/
def IsIdle (comments : Bool) : Command → Prop
  | quit => False
  | evaluate text => ¬ Reader.Accepts comments text .empty
  | _ => True

instance (comments : Bool) (c : Command) : Decidable (c.IsIdle comments) :=
  match c with
  | quit => inferInstanceAs (Decidable False)
  | evaluate text => inferInstanceAs (Decidable (¬ Reader.Accepts comments text .empty))
  | help | listing | unknown _ | blank => inferInstanceAs (Decidable True)

end Command

namespace Prompt

def replies (s : Session) : List String → List String
  | [] => []
  | line :: rest =>
    let c := Command.ofLine line
    let (text, s) := answer c s
    if c = .quit then [text] else text :: replies s rest

def final (s : Session) (lines : List String) : Session :=
  (converse s (lines.map some)).2.2

lemma converse_cons (s : Session) (line : String) (rest : List (Option String)) :
    converse s (some line :: rest) =
      if Command.ofLine line = .quit then
        (.done, mark ++ (answer (Command.ofLine line) s).1, (answer (Command.ofLine line) s).2)
      else
        ((converse (answer (Command.ofLine line) s).2 rest).1,
          mark ++ (answer (Command.ofLine line) s).1 ++
            (converse (answer (Command.ofLine line) s).2 rest).2.1,
          (converse (answer (Command.ofLine line) s).2 rest).2.2) := by
  rw [converse]

lemma replies_cons (s : Session) (line : String) (rest : List String) :
    replies s (line :: rest) =
      if Command.ofLine line = .quit then [(answer (Command.ofLine line) s).1]
      else (answer (Command.ofLine line) s).1 ::
        replies (answer (Command.ofLine line) s).2 rest := by
  rw [replies]

lemma final_cons (s : Session) (line : String) (rest : List String) :
    final s (line :: rest) =
      if Command.ofLine line = .quit then (answer (Command.ofLine line) s).2
      else final (answer (Command.ofLine line) s).2 rest := by
  rw [final, List.map_cons, converse_cons]
  split
  · rfl
  · rfl

lemma text_eq (s : Session) (lines : List String) :
    (converse s (lines.map some)).1 = .done ∧
    (converse s (lines.map some)).2.1 = String.join ((replies s lines).map (mark ++ ·)) ++
      if .quit ∈ lines.map Command.ofLine then "" else mark ++ farewell := by
  induction lines generalizing s with
  | nil => exact ⟨rfl, rfl⟩
  | cons line rest ih =>
    obtain ⟨hdone, htext⟩ := ih (answer (Command.ofLine line) s).2
    rw [List.map_cons, converse_cons, replies_cons, List.map_cons]
    by_cases hquit : Command.ofLine line = .quit
    · rw [if_pos hquit, if_pos hquit, if_pos (by simp [hquit])]
      simp
    · rw [if_neg hquit, if_neg hquit]
      refine ⟨hdone, ?_⟩
      simp only [htext, List.map_cons, List.mem_cons, Ne.symm hquit, false_or]
      simp [String.append_assoc]

lemma converse_append_quit {quit : String} (hquit : Command.ofLine quit = .quit)
    (s : Session) (before after : List (Option String)) :
    converse s (before ++ some quit :: after) = converse s (before ++ [some quit]) := by
  induction before generalizing s with
  | nil =>
    rw [List.nil_append, List.nil_append, converse_cons, converse_cons, if_pos hquit, if_pos hquit]
  | cons line before ih =>
    cases line with
    | none => rfl
    | some line =>
      rw [List.cons_append, List.cons_append, converse_cons, converse_cons, ih]

end Prompt

lemma Spelt.resultLine_eq {t : SymbolTable} {v : Value} {w : Named.Value} (h : Spelt t v w) :
    Prompt.resultLine v = Prompt.resultLine w.toValue := by
  have hwritten : v.written = w.toValue.written := h.written_eq
  rw [Prompt.resultLine, Prompt.resultLine, hwritten]
  cases h <;> rfl

namespace Named.Session

def shown : EStateM.Result Error Session Value → String × Session
  | .ok v n => (n.world.output ++ Prompt.resultLine v.toValue, n.cleared)
  | .error e n => (n.world.output ++ "Error: " ++ e.message ++ "\n", n.cleared)

lemma runText_of_readAll_error {n : Session} {text : String} {err : ReadError}
    (h : Reader.readAll n.comments text = .error err) :
    runText text n = .error (.read err) n := by
  have hread : readAll text n = .error (.read err) n := by simp only [readAll, reading, h]
  change EStateM.bind (readAll text) _ n = _
  simp only [EStateM.bind, hread]

lemma shown_runText (n : Session) (text : String) :
    (shown (runText text n)).2.world.output = "" ∧
      (shown (runText text n)).2.comments = n.comments := by
  cases hread : Reader.readAll n.comments text with
  | error err =>
    rw [runText_of_readAll_error hread]
    exact ⟨rfl, rfl⟩
  | ok forms =>
    rw [runText_of_readAll hread, perform]
    cases named.sequence named.evaluate n.global .unspecified forms n.world with
    | ok v w => exact ⟨rfl, rfl⟩
    | error err w => exact ⟨rfl, rfl⟩

end Named.Session

namespace Prompt

variable {t : SymbolTable} {s s' : Session} {n : Named.Session}

lemma evaluate_spelt (hs : SessionSpelt t s n) (text : String) :
    (evaluate text s).1 = (Named.Session.shown (Named.Session.runText text n)).1 ∧
      ∃ t, SessionSpelt t (evaluate text s).2
        (Named.Session.shown (Named.Session.runText text n)).2 := by
  obtain ⟨l, -, ho⟩ := SpeltSession.runText_aligned text t le_rfl s n hs
  rw [evaluate]
  generalize Session.runText text s = result at ho
  generalize Named.Session.runText text n = result' at ho
  cases ho with
  | @ok v w s n hv hs =>
    refine ⟨?_, l, Session.takeOutput_spelt hs⟩
    change s.world.output ++ resultLine v = n.world.output ++ resultLine w.toValue
    rw [hs.world.output, hv.resultLine_eq]
  | @error err err' s n herr hs =>
    refine ⟨?_, l, Session.takeOutput_spelt hs⟩
    obtain rfl : err = err' := herr
    change s.world.output ++ "Error: " ++ err.message ++ "\n" =
      n.world.output ++ "Error: " ++ err.message ++ "\n"
    rw [hs.world.output]

structure Ready (n : Named.Session) (s : Session) : Prop where
  output : n.world.output = ""
  spelt : ∃ t, SessionSpelt t s n

lemma answer_alike (h : Ready n s) (h' : Ready n s') (c : Command) :
    (answer c s).1 = (answer c s').1 ∧
      ∃ m, m.comments = n.comments ∧ Ready m (answer c s).2 ∧ Ready m (answer c s').2 := by
  obtain ⟨t, hs⟩ := h.spelt
  obtain ⟨t', hs'⟩ := h'.spelt
  cases c with
  | evaluate text =>
    obtain ⟨htext, hafter⟩ := evaluate_spelt hs text
    obtain ⟨htext', hafter'⟩ := evaluate_spelt hs' text
    obtain ⟨hout, hcomments⟩ := Named.Session.shown_runText n text
    exact ⟨htext.trans htext'.symm, _, hcomments, ⟨hout, hafter⟩, ⟨hout, hafter'⟩⟩
  | listing =>
    refine ⟨?_, n, rfl, h, h'⟩
    change Listing.render (s.world.store.visible s.global) =
      Listing.render (s'.world.store.visible s'.global)
    rw [hs.global, hs'.global, Listing.render_eq (hs.world.store.visible n.global),
      Listing.render_eq (hs'.world.store.visible n.global)]
  | _ => exact ⟨rfl, n, rfl, h, h'⟩

lemma readAll_named_error (hs : SessionSpelt t s n) {text : String}
    (h : ¬ Reader.Accepts n.comments text .empty) :
    ∃ err, Named.Reader.readAll n.comments text = .error err := by
  obtain ⟨-, -, halike⟩ := Reader.readAll_spelt hs.sound n.comments text
  generalize hread : Reader.readAll n.comments text t = result at halike
  obtain ⟨outcome, symbols⟩ := result
  generalize Named.Reader.readAll n.comments text = outcome' at halike
  cases halike with
  | error => exact ⟨_, rfl⟩
  | ok _ =>
    obtain ⟨ws, table, hok, -⟩ := Reader.readAll_any hread .empty
    exact absurd ⟨ws, table, hok⟩ h

lemma Ready.idle (h : Ready n s) {c : Command} (hc : c.IsIdle n.comments) :
    c ≠ .quit ∧ Ready n (answer c s).2 := by
  cases c with
  | quit => exact hc.elim
  | evaluate text =>
    obtain ⟨t, hs⟩ := h.spelt
    obtain ⟨err, hread⟩ := readAll_named_error hs hc
    obtain ⟨-, hafter⟩ := evaluate_spelt hs text
    -- Names may have been entered into the table of `s`; `n` has none.
    rw [Named.Session.runText_of_readAll_error hread] at hafter
    have hcleared : n.cleared = n := by
      obtain ⟨⟨store, sink, output⟩, global, comments⟩ := n
      obtain rfl : output = "" := h.output
      rfl
    rw [Named.Session.shown, hcleared] at hafter
    exact ⟨nofun, h.output, hafter⟩
  | _ => exact ⟨nofun, h⟩

lemma replies_filter (marked : List (String × Bool)) (h : Ready n s) (h' : Ready n s')
    (hidle : ∀ p ∈ marked, p.2 = false → (Command.ofLine p.1).IsIdle n.comments) :
    replies s' ((marked.filter Prod.snd).map Prod.fst) =
      (((replies s (marked.map Prod.fst)).zip (marked.map Prod.snd)).filter Prod.snd).map Prod.fst ∧
    ∃ m, Ready m (final s (marked.map Prod.fst)) ∧
      Ready m (final s' ((marked.filter Prod.snd).map Prod.fst)) := by
  -- A line that is left out takes the one session on, and both are still `n` but for their tables.
  induction marked generalizing n s s' with
  | nil => exact ⟨rfl, n, h, h'⟩
  | cons p rest ih =>
    obtain ⟨line, kept⟩ := p
    obtain ⟨hline, hrest⟩ := List.forall_mem_cons.1 hidle
    cases kept with
    | false =>
      obtain ⟨hquit, hready⟩ := h.idle (hline rfl)
      obtain ⟨hreplies, m, hm, hm'⟩ := ih hready h' hrest
      refine ⟨?_, m, ?_, hm'⟩
      · rw [List.map_cons, List.map_cons, replies_cons, if_neg hquit]
        exact hreplies
      · rw [List.map_cons, final_cons, if_neg hquit]
        exact hm
    | true =>
      obtain ⟨htext, m, hcomments, hm, hm'⟩ := answer_alike h h' (Command.ofLine line)
      have hkept : (((line, true) :: rest).filter Prod.snd).map Prod.fst =
          line :: (rest.filter Prod.snd).map Prod.fst := rfl
      rw [hkept, List.map_cons, List.map_cons, replies_cons, replies_cons, final_cons, final_cons]
      by_cases hquit : Command.ofLine line = .quit
      · simp only [if_pos hquit]
        refine ⟨?_, m, hm, hm'⟩
        rw [htext]
        rfl
      · simp only [if_neg hquit]
        rw [← hcomments] at hrest
        obtain ⟨hreplies, j, hj, hj'⟩ := ih hm hm' hrest
        refine ⟨?_, j, hj, hj'⟩
        rw [hreplies, htext]
        rfl

end Prompt

open Prompt in
/-- A conversation prints the reply to each line after a mark. Leaving out lines that run no program
changes neither the replies to the others nor, by name, what is bound in the end; and nothing comes
of what stands after a line that ends the conversation. -/
theorem prompt_lines_independent {sink : Sink} {s : Session} (hs : s.Used sink)
    (hout : s.world.output = "") :
    (∀ lines : List String, (converse s (lines.map some)).1 = .done ∧
      (converse s (lines.map some)).2.1 = String.join ((replies s lines).map (mark ++ ·)) ++
        if .quit ∈ lines.map Command.ofLine then "" else mark ++ farewell) ∧
    (∀ marked : List (String × Bool),
      (∀ p ∈ marked, p.2 = false → (Command.ofLine p.1).IsIdle s.comments) →
      replies s ((marked.filter Prod.snd).map Prod.fst) =
        (((replies s (marked.map Prod.fst)).zip (marked.map Prod.snd)).filter Prod.snd).map
          Prod.fst ∧
      ∀ name, ((final s ((marked.filter Prod.snd).map Prod.fst)).lookup name).map Value.toNamed =
        ((final s (marked.map Prod.fst)).lookup name).map Value.toNamed) ∧
    ∀ before quit after, Command.ofLine quit = .quit →
      converse s (before ++ some quit :: after) = converse s (before ++ [some quit]) := by
  obtain ⟨t, n, hspelt⟩ := hs.spelt
  have hready : Ready n s := ⟨hspelt.world.output ▸ hout, t, hspelt⟩
  refine ⟨text_eq s, fun marked hidle => ?_, fun before quit after hquit => ?_⟩
  · rw [hspelt.comments] at hidle
    obtain ⟨hreplies, m, ⟨-, t₁, hall⟩, ⟨-, t₂, hkept⟩⟩ := replies_filter marked hready hready hidle
    refine ⟨hreplies, fun name => ?_⟩
    rw [Session.lookup_toNamed hkept, Session.lookup_toNamed hall]
  · exact converse_append_quit hquit s before after

namespace Prompt

def visit : List (String × Bool) :=
  [("(y x", false), (":env", false), ("(define x #t)", true), (" ", false), ("x", true),
    ("y", true), (":quit", true), ("x", true)]

end Prompt

open Prompt in
theorem prompt_lines_independent_visit :
    replies (Session.fresh .collecting true) ["(define x #t)", "x", "y", ":quit", "x"] =
      ["", "#t\n", "Error: Unbound symbol: y\n", "Goodbye!\n"] := by
  have hused : (Session.fresh .collecting true).Used .collecting := .comments true .start
  have hidle : ∀ p ∈ visit, p.2 = false → (Command.ofLine p.1).IsIdle true := by decide +kernel
  obtain ⟨-, hlines, -⟩ := prompt_lines_independent hused (by decide +kernel)
  obtain ⟨hreplies, -⟩ := hlines visit hidle
  refine hreplies.trans ?_
  decide +kernel

end SmallScheme
