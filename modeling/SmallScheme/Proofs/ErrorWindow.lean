import SmallScheme.Proofs.FirstForm

namespace SmallScheme

namespace Text

def startsBefore (cs : List Char) (offset : Nat) : Nat :=
  (List.range cs.length).countP fun i =>
    decide ((String.ofList (cs.take i)).utf8ByteSize < offset)

def slice (cs : List Char) (first last : Nat) : List Char :=
  (cs.take last).drop first

def inLine (c : Char) : List Char :=
  if c = '\n' then "\\n".toList else if c = '\r' then [] else [c]

def cutMark (cut : Prop) [Decidable cut] : List Char :=
  if cut then "[...]".toList else []

variable {cs before after : List Char} {offset : Nat}

lemma utf8ByteSize_ofList (cs : List Char) :
    (String.ofList cs).utf8ByteSize = byteLength cs := by
  rw [String.utf8ByteSize_ofList]
  induction cs with
  | nil => rfl
  | cons c cs ih => rw [String.utf8Len_cons, byteLength_cons, ih, Nat.add_comm]

lemma charsBefore_zero (cs : List Char) : charsBefore 0 cs = 0 := by
  cases cs <;> rfl

lemma charsBefore_eq (cs : List Char) (offset : Nat) :
    charsBefore offset cs = startsBefore cs offset := by
  unfold startsBefore
  simp only [utf8ByteSize_ofList]
  induction cs generalizing offset with
  | nil => cases offset <;> rfl
  | cons c cs ih =>
    cases offset with
    | zero => simp [charsBefore]
    | succ offset =>
      have hlater : ∀ i, decide (byteLength ((c :: cs).take (i + 1)) < offset + 1) =
          decide (byteLength (cs.take i) < offset + 1 - c.utf8Size) := by
        intro i
        rw [List.take_succ_cons, byteLength_cons, decide_eq_decide]
        omega
      rw [charsBefore, ih, List.length_cons, List.range_succ_eq_map, List.countP_cons,
        List.countP_map]
      simp only [Function.comp_def, hlater]
      simp

lemma charsBefore_append (h : byteLength before ≤ offset) :
    charsBefore offset (before ++ after) =
      before.length + charsBefore (offset - byteLength before) after := by
  induction before generalizing offset with
  | nil => simp
  | cons c before ih =>
    have hsize := c.utf8Size_pos
    rw [byteLength_cons] at h
    obtain ⟨offset, rfl⟩ := Nat.exists_eq_add_one_of_ne_zero (n := offset) (by omega)
    rw [List.cons_append, charsBefore, ih (by omega), byteLength_cons, List.length_cons,
      Nat.sub_add_eq]
    omega

lemma charsBefore_at {c : Char} (after : List Char) (h : byteLength before ≤ offset)
    (hc : offset < byteLength before + c.utf8Size) :
    before.length ≤ charsBefore offset (before ++ c :: after) ∧
      charsBefore offset (before ++ c :: after) ≤ before.length + 1 := by
  rw [charsBefore_append h]
  obtain ⟨inside, hinside⟩ : ∃ inside, offset - byteLength before = inside := ⟨_, rfl⟩
  rw [hinside]
  cases inside with
  | zero => simp [charsBefore]
  | succ inside =>
    have hend : inside + 1 - c.utf8Size = 0 := by omega
    simp [charsBefore, hend, charsBefore_zero]

lemma charsBefore_byteLength (before after : List Char) :
    charsBefore (byteLength before) (before ++ after) = before.length := by
  rw [charsBefore_append le_rfl, Nat.sub_self, charsBefore_zero, Nat.add_zero]

lemma charsBefore_le (cs : List Char) (offset : Nat) : charsBefore offset cs ≤ cs.length := by
  rw [charsBefore_eq]
  exact List.countP_le_length.trans_eq List.length_range

lemma onOneLine_eq (cs : List Char) : onOneLine cs = cs.flatMap inLine := by
  rw [onOneLine, List.filter_flatMap]
  refine congrArg (List.flatMap · cs) (funext fun c => ?_)
  by_cases hn : c = '\n'
  · subst hn
    rfl
  · by_cases hr : c = '\r' <;> simp [inLine, hn, hr]

lemma flatMap_cutMark (cut : Prop) [Decidable cut] :
    (cutMark cut).flatMap inLine = cutMark cut := by
  unfold cutMark
  split <;> rfl

lemma ne_break_of_mem_inLine {c d : Char} (h : d ∈ inLine c) : d ≠ '\n' ∧ d ≠ '\r' := by
  unfold inLine at h
  split at h
  · have hmark : ∀ d ∈ "\\n".toList, d ≠ '\n' ∧ d ≠ '\r' := by simp
    exact hmark d h
  · next hn =>
    split at h
    · cases h
    · next hr =>
      obtain rfl := List.mem_singleton.1 h
      exact ⟨hn, hr⟩

lemma ne_break_of_mem_cutMark {cut : Prop} [Decidable cut] {d : Char} (h : d ∈ cutMark cut) :
    d ≠ '\n' ∧ d ≠ '\r' := by
  rw [← flatMap_cutMark, List.mem_flatMap] at h
  obtain ⟨c, -, hd⟩ := h
  exact ne_break_of_mem_inLine hd

def firstShown (cs : List Char) (offset : Nat) : Nat :=
  startsBefore cs offset - 20

def lastShown (cs : List Char) (offset : Nat) : Nat :=
  min cs.length (firstShown cs offset + 100)

def shown (cs : List Char) (offset : Nat) : List Char :=
  slice cs (firstShown cs offset) (lastShown cs offset)

lemma firstShown_le (cs : List Char) (offset : Nat) : firstShown cs offset ≤ cs.length := by
  have hle := charsBefore_le cs offset
  rw [charsBefore_eq] at hle
  rw [firstShown]
  omega

lemma shown_eq (cs : List Char) (offset : Nat) :
    shown cs offset = (cs.drop (firstShown cs offset)).take 100 := by
  have hfirst := firstShown_le cs offset
  rw [shown, slice, List.drop_take, List.take_eq_take_iff, List.length_drop, lastShown]
  omega

lemma length_shown (cs : List Char) (offset : Nat) :
    (shown cs offset).length = min 100 (cs.length - firstShown cs offset) := by
  rw [shown_eq, List.length_take, List.length_drop]

lemma window_eq (cs : List Char) (offset : Nat) :
    window cs offset = cutMark (0 < firstShown cs offset) ++ (shown cs offset).flatMap inLine ++
      cutMark (firstShown cs offset + 100 < cs.length) := by
  have hfirst := firstShown_le cs offset
  have hcut : firstShown cs offset + (shown cs offset).length < cs.length ↔
      firstShown cs offset + 100 < cs.length := by
    rw [length_shown]
    omega
  have hwindow : window cs offset = onOneLine (cutMark (0 < firstShown cs offset) ++
      shown cs offset ++
        cutMark (firstShown cs offset + (shown cs offset).length < cs.length)) := by
    rw [shown_eq, firstShown, ← charsBefore_eq]
    rfl
  rw [hwindow, onOneLine_eq, List.flatMap_append, List.flatMap_append, flatMap_cutMark,
    flatMap_cutMark]
  simp only [hcut]

lemma ne_break_of_mem_window {d : Char} (h : d ∈ window cs offset) : d ≠ '\n' ∧ d ≠ '\r' := by
  rw [window_eq, List.mem_append, List.mem_append, List.mem_flatMap] at h
  rcases h with (h | ⟨c, -, h⟩) | h
  · exact ne_break_of_mem_cutMark h
  · exact ne_break_of_mem_inLine h
  · exact ne_break_of_mem_cutMark h

lemma slice_spec (cs : List Char) {first last : Nat} (h : first ≤ last) :
    cs = cs.take first ++ slice cs first last ++ cs.drop last := by
  have hfirst : cs.take first = (cs.take last).take first := by
    rw [List.take_take, Nat.min_eq_left h]
  rw [slice, hfirst, List.take_append_drop, List.take_append_drop]

lemma getElem?_slice {first last i : Nat} (hfirst : first ≤ i) (hlast : i < last) :
    (slice cs first last)[i - first]? = cs[i]? := by
  rw [slice, List.getElem?_drop, Nat.add_sub_cancel' hfirst, List.getElem?_take_of_lt hlast]

lemma mem_shown {c : Char} (hcs : cs = before ++ c :: after) (h : byteLength before ≤ offset)
    (hc : offset < byteLength before + c.utf8Size) :
    firstShown cs offset ≤ before.length ∧ before.length < lastShown cs offset ∧
      (shown cs offset)[before.length - firstShown cs offset]? = some c := by
  obtain ⟨hlow, hhigh⟩ := charsBefore_at after h hc
  rw [← hcs, charsBefore_eq] at hlow hhigh
  have hlength : before.length < cs.length := by
    rw [hcs, List.length_append, List.length_cons]
    omega
  have hfirst : firstShown cs offset ≤ before.length := by
    rw [firstShown]
    omega
  have hlast : before.length < lastShown cs offset := by
    rw [lastShown, firstShown]
    omega
  refine ⟨hfirst, hlast, ?_⟩
  rw [shown, getElem?_slice hfirst hlast, hcs]
  simp

end Text

namespace Reader

open Text Grammar

variable {comments : Bool} {text : String} {symbols symbols' : SymbolTable} {err : ReadError}

inductive StopsAt (comments : Bool) (cs : List Char) (position : Nat) :
    List Char → ReadFault → String → Prop
  | fault {rest : List Char} {kind : ReadFault} {message : String} :
      Fault comments cs position rest kind message →
      StopsAt comments cs position rest kind message
  | trailing {t : Tree} {c : Char} {after : List Char} : Begins comments cs t (c :: after) →
      c ≠ ')' → StopsAt comments cs position (c :: after) .trailingContent
        ("Unexpected remaining input: '" ++ String.ofList ((c :: after).take 10) ++ "'")

structure Blames (comments : Bool) (cs : List Char) (err : ReadError) (before : List Char)
    (c : Char) (after : List Char) : Prop where
  place : cs = before ++ c :: after
  stops : StopsAt comments cs (byteLength before) (c :: after) err.fault err.message
  near : err = .near err.fault err.message cs (byteLength before) (some (String.singleton c))

lemma blames_of_reports {f : Failure} {cs before after : List Char} {c : Char}
    (hcs : cs = before ++ c :: after) (hrest : f.rest = c :: after)
    (h : err.Reports f cs (byteLength before))
    (hstops : StopsAt comments cs (byteLength before) (c :: after) f.cause.fault
      (f.message (byteLength before))) : Blames comments cs err before c after where
  place := hcs
  stops := by rwa [h.fault, h.message]
  near := by
    have hfound : err.found = some (String.singleton c) := by
      rw [h.found, hrest]
      rfl
    obtain ⟨fault, message, context, found⟩ := err
    rw [ReadError.near, ← h.context, ← hfound]

lemma blames_of_readAll (h : readAll comments text symbols = (.error err, symbols')) :
    ∃ before c after, Blames comments text.toList err before c after := by
  obtain ⟨q, f, hrun, rfl⟩ := readAll_error h
  have hfault : f.Located comments text.toList :=
    Opened.run_error (p := .start symbols) (.top .refl) hrun
  obtain ⟨before, htext, hreports⟩ := Failure.reports_of_suffix hfault.suffix
  obtain ⟨c, after, hrest⟩ := List.exists_cons_of_ne_nil hfault.ne_nil
  have hposition : f.position text.toList = byteLength before := by
    rw [htext, f.position_append]
  rw [Failure.Located, hposition, hrest] at hfault
  exact ⟨before, c, after, blames_of_reports (hrest ▸ htext) hrest hreports (.fault hfault)⟩

lemma blames_of_read (h : read comments text symbols = (.error err, symbols')) :
    ∃ before c after, Blames comments text.toList err before c after := by
  have hagree := readersAgree comments text symbols
  by_cases hfirst : ∃ t rest, Begins comments text.toList t rest
  · obtain ⟨t, rest, hbegins⟩ := hfirst
    match rest, hbegins with
    | [], hbegins => cases h.symm.trans (hagree.alone t hbegins)
    | c :: after, hbegins =>
      by_cases hc : c = ')'
      · subst hc
        obtain ⟨-, err', -, -, hread, hall⟩ := hagree.closing t after hbegins
        cases h.symm.trans hread
        exact blames_of_readAll hall
      · obtain ⟨before, err', htext, hreports, hread⟩ := hagree.trailing t c after hbegins hc
        cases h.symm.trans hread
        exact ⟨before, c, after, blames_of_reports htext rfl hreports (.trailing hbegins hc)⟩
  · exact blames_of_readAll ((read_error_iff fun t rest hb => hfirst ⟨t, rest, hb⟩).1 h)

end Reader

open Text Reader

/-- An error about a place in a text, given by any number of bytes, shows the characters from twenty
before it on, up to a hundred, on one line and with a mark where something is cut off; the
character at the place is among them. The errors of the reader are about the character where it
stops, and all characters before that one are counted. -/
theorem errors_show_window (text : String) :
    (∀ offset fault message found,
      let cs := text.toList
      let first := firstShown cs offset
      let context := cutMark (0 < first) ++ (shown cs offset).flatMap inLine ++
        cutMark (first + 100 < cs.length)
      ReadError.near fault message cs offset found =
          ⟨fault, message, some (String.ofList context), found⟩ ∧
        ('\n' ∉ context ∧ '\r' ∉ context) ∧
        (shown cs offset).length ≤ 100 ∧
        cs = cs.take first ++ shown cs offset ++ cs.drop (lastShown cs offset) ∧
        ∀ before c after, cs = before ++ c :: after → byteLength before ≤ offset →
          offset < byteLength before + c.utf8Size →
          first ≤ before.length ∧ (shown cs offset)[before.length - first]? = some c) ∧
    ∀ comments symbols symbols' err,
      readAll comments text symbols = (.error err, symbols') ∨
        read comments text symbols = (.error err, symbols') →
      ∃ before c after, Blames comments text.toList err before c after ∧
        startsBefore text.toList (byteLength before) = before.length := by
  constructor
  · intro offset fault message found cs first context
    have hfirst : first ≤ lastShown cs offset :=
      Nat.le_min.2 ⟨firstShown_le cs offset, Nat.le_add_right first 100⟩
    have hwindow : window cs offset = context := window_eq cs offset
    refine ⟨?_, ?_, ?_, slice_spec cs hfirst, fun before c after hcs hbefore hc => ?_⟩
    · rw [ReadError.near, hwindow]
    · rw [← hwindow]
      exact ⟨fun h => (ne_break_of_mem_window h).1 rfl, fun h => (ne_break_of_mem_window h).2 rfl⟩
    · exact (length_shown cs offset).trans_le (Nat.min_le_left _ _)
    · obtain ⟨hle, -, hget⟩ := mem_shown hcs hbefore hc
      exact ⟨hle, hget⟩
  · intro comments symbols symbols' err h
    obtain ⟨before, c, after, hblames⟩ := h.elim blames_of_readAll blames_of_read
    refine ⟨before, c, after, hblames, ?_⟩
    rw [← charsBefore_eq, hblames.place, charsBefore_byteLength]

theorem errors_show_window_two_bytes :
    (shown "é\n)".toList 1)[0 - firstShown "é\n)".toList 1]? = some 'é' ∧
    ∃ err before c after, readAll false "é\n)" .empty = (.error err, ⟨["é"]⟩) ∧
      err.context = some "é\\n)" ∧ Blames false "é\n)".toList err before c after ∧
      startsBefore "é\n)".toList (byteLength before) = before.length := by
  obtain ⟨hwindow, herrors⟩ := errors_show_window "é\n)"
  have hfail : readAll false "é\n)" .empty = (.error ⟨.unmatchedParen,
      "Unexpected ')' at position 3", some "é\\n)", some ")"⟩, ⟨["é"]⟩) := by cbv
  constructor
  · obtain ⟨-, -, -, -, hcovers⟩ := hwindow 1 .unmatchedParen "" none
    exact (hcovers [] 'é' ['\n', ')'] (by decide) (by decide) (by decide)).2
  · obtain ⟨before, c, after, hblames, hcount⟩ := herrors false .empty _ _ (.inl hfail)
    exact ⟨_, before, c, after, hfail, rfl, hblames, hcount⟩

end SmallScheme
