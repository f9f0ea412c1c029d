import Mathlib
import SmallScheme.Proofs.JoinedText
import SmallScheme.Proofs.ReadFailure

namespace SmallScheme

open Text

structure ReadError.Reports (err : ReadError) (f : Reader.Failure) (text : List Char)
    (position : Nat) : Prop where
  fault : err.fault = f.cause.fault
  message : err.message = f.message position
  context : err.context = some (String.ofList (window text position))
  found : err.found = f.rest.head?.map String.singleton

namespace Reader

variable {comments : Bool} {symbols symbols' symbols'' : SymbolTable} {vs : List Value}

lemma Failure.reports (f : Failure) (before : List Char) :
    (f.report (before ++ f.rest)).Reports f (before ++ f.rest) (byteLength before) := by
  have hposition := f.position_append before
  refine ⟨rfl, ?_, ?_, rfl⟩
  · change f.message (f.position (before ++ f.rest)) = _
    rw [hposition]
  · change some (String.ofList (window _ (f.position (before ++ f.rest)))) = _
    rw [hposition]

lemma forms_error {text : String} {err : ReadError}
    (h : readAll comments text symbols = (.error err, symbols')) :
    ∃ f before, forms comments symbols text.toList = (.error f, symbols') ∧
      text.toList = before ++ f.rest ∧ f.rest ≠ [] ∧ f.report text.toList = err := by
  obtain ⟨q, f, hrun, hreport⟩ := readAll_error h
  have hfault : f.Located comments text.toList :=
    Opened.run_error (p := .start symbols) (.top .refl) hrun
  obtain ⟨before, htext⟩ := hfault.suffix
  refine ⟨f, before, ?_, htext.symm, hfault.ne_nil, hreport⟩
  simp only [readAll, forms, hrun] at h ⊢
  rw [(Prod.mk.inj h).2]
  rfl

lemma byteLength_line (a b : List Char) :
    byteLength (a ++ '\n' :: b) = byteLength a + 1 + byteLength b := by
  rw [byteLength_append, byteLength_cons]
  have hline : Char.utf8Size '\n' = 1 := rfl
  omega

lemma readAll_line_error {a b : String} {err : ReadError}
    (ha : readAll comments a symbols = (.ok vs, symbols'))
    (hb : readAll comments b symbols' = (.error err, symbols'')) :
    ∃ f before err', b.toList = before ++ f.rest ∧ f.rest ≠ [] ∧
      err.Reports f b.toList (byteLength before) ∧
      readAll comments (a ++ "\n" ++ b) symbols = (.error err', symbols'') ∧
      err'.Reports f (a ++ "\n" ++ b).toList (byteLength a.toList + 1 + byteLength before) := by
  obtain ⟨f, before, hforms, htext, hne, rfl⟩ := forms_error hb
  have hjoined : (a ++ "\n" ++ b).toList = (a.toList ++ '\n' :: before) ++ f.rest := by
    simp [htext]
  have hline : (a ++ "\n" ++ b).toList = a.toList ++ '\n' :: b.toList := by simp
  refine ⟨f, before, f.report (a ++ "\n" ++ b).toList, htext, hne, ?_, ?_, ?_⟩
  · rw [htext]
    exact f.reports before
  · rw [readAll, hline, forms_line (readAll_ok_iff.1 ha), hforms]
    rfl
  · rw [hjoined, ← byteLength_line]
    exact f.reports (a.toList ++ '\n' :: before)

theorem readAll_line_by_line {a : String} (ha : readAll comments a symbols = (.ok vs, symbols'))
    (b : String) :
    (∀ ws symbols'', readAll comments b symbols' = (.ok ws, symbols'') →
      readAll comments (a ++ "\n" ++ b) symbols = (.ok (vs ++ ws), symbols'')) ∧
    ∀ err symbols'', readAll comments b symbols' = (.error err, symbols'') →
      ∃ f before err', b.toList = before ++ f.rest ∧ f.rest ≠ [] ∧
        err.Reports f b.toList (byteLength before) ∧
        readAll comments (a ++ "\n" ++ b) symbols = (.error err', symbols'') ∧
        err'.Reports f (a ++ "\n" ++ b).toList (byteLength a.toList + 1 + byteLength before) ∧
        err'.fault = err.fault ∧ err'.found = err.found := by
  refine ⟨fun ws symbols'' hb => readAll_line ha hb, fun err symbols'' hb => ?_⟩
  obtain ⟨f, before, err', htext, hne, herr, hread, herr'⟩ := readAll_line_error ha hb
  exact ⟨f, before, err', htext, hne, herr, hread, herr', herr'.fault.trans herr.fault.symm,
    herr'.found.trans herr.found.symm⟩

theorem readAll_line_by_line_commented : ∃ f before err',
    "é )".toList = before ++ f.rest ∧
    readAll true "x ; (\né )" .empty = (.error err', ⟨["x", "é"]⟩) ∧
    err'.Reports f "x ; (\né )".toList (6 + byteLength before) ∧
    err'.fault = .unmatchedParen ∧ err'.found = some ")" := by
  have ha : readAll true "x ; (" .empty = (.ok [.symbol ⟨0, "x"⟩], ⟨["x"]⟩) := by cbv
  have hb : readAll true "é )" ⟨["x"]⟩ =
      (.error ⟨.unmatchedParen, "Unexpected ')' at position 3", some "é )", some ")"⟩,
        ⟨["x", "é"]⟩) := by cbv
  obtain ⟨-, hfail⟩ := readAll_line_by_line ha "é )"
  obtain ⟨f, before, err', htext, -, -, hread, hreports, hfault, hfound⟩ := hfail _ _ hb
  exact ⟨f, before, err', htext, hread, hreports, hfault, hfound⟩

end Reader

end SmallScheme
