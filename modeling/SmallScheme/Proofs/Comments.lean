import SmallScheme.Proofs.Tokens

/-! Comments. With comments on, a text is read as if its comments were not there. A semicolon in a
token starts no comment, since tokens run on to white space, a parenthesis or a quote. -/

namespace SmallScheme.Reader

open Text Grammar

inductive Place where
  | between
  | token
  | string
  | comment
deriving DecidableEq

namespace Place

def enter (c : Char) : Place :=
  if c = '"' then string else if isTokenChar c then token else between

/-- With `cut` a semicolon starts a comment also in a token. -/
def next (cut : Bool) (place : Place) (c : Char) : Place :=
  match place with
  | string => if c = '"' then between else string
  | comment => if c = '\n' then between else comment
  | between => if c = ';' then comment else enter c
  | token => if cut = true ∧ c = ';' then comment else enter c

def scan (cut : Bool) (place : Place) (cs : List Char) : Place :=
  cs.foldl (next cut) place

end Place

def strip (cut : Bool) : Place → List Char → List Char
  | _, [] => []
  | place, c :: cs =>
    if place.next cut c = .comment then strip cut .comment cs
    else c :: strip cut (place.next cut c) cs

def uncommented (cut : Bool) (text : String) : String :=
  String.ofList (strip cut .between text.toList)

def Avoids (places : Place → Prop) : Place → List Char → Prop
  | _, [] => True
  | place, c :: cs => (places place → c ≠ ';') ∧ Avoids places (place.next false c) cs

instance decidableAvoids (places : Place → Prop) [DecidablePred places] :
    (place : Place) → (cs : List Char) → Decidable (Avoids places place cs)
  | _, [] => inferInstanceAs (Decidable True)
  | place, c :: cs =>
    have := decidableAvoids places (place.next false c) cs
    inferInstanceAs (Decidable ((places place → c ≠ ';') ∧ Avoids places (place.next false c) cs))

section Scan

variable {cut : Bool} {place place' : Place} {places : Place → Prop} {c : Char}
  {cs after body name : List Char}

lemma strip_append (cut : Bool) (place : Place) (cs after : List Char) :
    strip cut place (cs ++ after) = strip cut place cs ++ strip cut (place.scan cut cs) after := by
  induction cs generalizing place with
  | nil => rfl
  | cons c cs ih =>
    rw [List.cons_append, strip, strip, ih, ih]
    change _ = _ ++ strip cut ((place.next cut c).scan cut cs) after
    split
    · next h => rw [h]
    · rfl

lemma avoids_append (place : Place) (cs after : List Char) :
    Avoids places place (cs ++ after) ↔
      Avoids places place cs ∧ Avoids places (place.scan false cs) after := by
  induction cs generalizing place with
  | nil => exact (and_iff_right trivial).symm
  | cons c cs ih => exact (and_congr_right fun _ => ih _).trans and_assoc.symm

lemma strip_congr (h : ∀ c ∈ cs.head?, place.next cut c = place'.next cut c) :
    strip cut place cs = strip cut place' cs := by
  cases cs with
  | nil => rfl
  | cons c cs => rw [strip, strip, h c rfl]

lemma avoids_congr (h : ∀ c ∈ cs.head?, c ≠ ';' ∧ place.next false c = place'.next false c) :
    Avoids places place cs ↔ Avoids places place' cs := by
  cases cs with
  | nil => rfl
  | cons c cs =>
    obtain ⟨hc, hnext⟩ := h c rfl
    rw [Avoids, Avoids, hnext]
    exact and_congr_left fun _ => ⟨fun _ _ => hc, fun _ _ => hc⟩

lemma scan_stay (h : ∀ c ∈ cs, place.next cut c = place) : place.scan cut cs = place := by
  induction cs with
  | nil => rfl
  | cons c cs ih =>
    change (place.next cut c).scan cut cs = place
    rw [h c List.mem_cons_self]
    exact ih fun d hd => h d (List.mem_cons_of_mem c hd)

lemma strip_stay (h : ∀ c ∈ cs, place.next cut c = place) :
    strip cut place cs = if place = .comment then [] else cs := by
  induction cs with
  | nil => simp [strip]
  | cons c cs ih =>
    have ih := ih fun d hd => h d (List.mem_cons_of_mem c hd)
    rw [strip, h c List.mem_cons_self]
    split
    · next hp => rw [← hp, ih, if_pos hp]
    · next hp => rw [ih, if_neg hp]

lemma avoids_stay (h : ∀ c ∈ cs, place.next false c = place) :
    Avoids places place cs ↔ (places place → ';' ∉ cs) := by
  induction cs with
  | nil => simp [Avoids]
  | cons c cs ih =>
    have ih := ih fun d hd => h d (List.mem_cons_of_mem c hd)
    rw [Avoids, h c List.mem_cons_self, ih, List.mem_cons, not_or, ← forall_and]
    exact forall_congr' fun _ => and_congr_left fun _ => ne_comm

namespace Place

lemma next_string (hc : c ≠ '"') : string.next cut c = string :=
  if_neg hc

lemma next_comment (hc : c ≠ '\n') : comment.next cut c = comment :=
  if_neg hc

lemma next_of_ne (hc : c ≠ ';') (hp : place = between ∨ place = token) :
    place.next cut c = enter c := by
  rcases hp with rfl | rfl <;> simp [next, hc]

lemma enter_of_isTokenChar (hc : isTokenChar c = true) : enter c = token := by
  rw [enter, if_neg, if_pos hc]
  rintro rfl
  exact absurd hc (by decide)

lemma enter_of_not_isTokenChar (hc : isTokenChar c = false) (hq : c ≠ '"') :
    enter c = between := by
  rw [enter, if_neg hq, if_neg (by simp [hc])]

lemma next_token (hc : isTokenChar c = true) : token.next false c = token := by
  simpa [next] using enter_of_isTokenChar hc

lemma ne_semicolon_of_not_isTokenChar (hc : isTokenChar c = false) : c ≠ ';' := by
  rintro rfl
  exact absurd hc (by decide)

lemma next_between (hc : isTokenChar c = false) (hq : c ≠ '"') :
    between.next cut c = between := by
  rw [next_of_ne (ne_semicolon_of_not_isTokenChar hc) (.inl rfl)]
  exact enter_of_not_isTokenChar hc hq

lemma next_cut (h : place = token → c ≠ ';') : place.next true c = place.next false c := by
  cases place with
  | token => rw [next_of_ne (h rfl) (.inr rfl), next_of_ne (h rfl) (.inr rfl)]
  | _ => rfl

end Place

lemma strip_plain (hc : isTokenChar c = false) (hq : c ≠ '"') :
    strip cut .between (c :: cs) = c :: strip cut .between cs := by
  rw [strip, Place.next_between hc hq, if_neg (by decide)]

lemma avoids_plain (hc : isTokenChar c = false) (hq : c ≠ '"') :
    Avoids places .between (c :: cs) ↔ Avoids places .between cs := by
  rw [Avoids, Place.next_between hc hq]
  exact and_iff_right fun _ => Place.ne_semicolon_of_not_isTokenChar hc

lemma not_isTokenChar_of_isWhiteSpace (hc : isWhiteSpace c = true) : isTokenChar c = false := by
  simp [isTokenChar, hc]

lemma ne_quote_of_isWhiteSpace (hc : isWhiteSpace c = true) : c ≠ '"' := by
  rintro rfl
  exact absurd hc (by decide)

lemma strip_space (hc : isWhiteSpace c = true) :
    strip cut .between (c :: cs) = c :: strip cut .between cs :=
  strip_plain (not_isTokenChar_of_isWhiteSpace hc) (ne_quote_of_isWhiteSpace hc)

lemma avoids_space (hc : isWhiteSpace c = true) :
    Avoids places .between (c :: cs) ↔ Avoids places .between cs :=
  avoids_plain (not_isTokenChar_of_isWhiteSpace hc) (ne_quote_of_isWhiteSpace hc)

lemma stay_string (hb : '"' ∉ body) : ∀ c ∈ body, Place.string.next cut c = .string := by
  intro c hc
  apply Place.next_string
  rintro rfl
  exact hb hc

lemma strip_string (hb : '"' ∉ body) :
    strip cut .between ('"' :: (body ++ '"' :: after)) =
      '"' :: (body ++ '"' :: strip cut .between after) := by
  have hopen : Place.between.next cut '"' = .string := rfl
  have hclose : Place.string.next cut '"' = .between := rfl
  rw [strip, hopen, if_neg (by decide), strip_append, strip_stay (stay_string hb),
    scan_stay (stay_string hb), if_neg (by decide), strip, hclose, if_neg (by decide)]

lemma avoids_string (hb : '"' ∉ body) (hp : ¬ places .string) :
    Avoids places .between ('"' :: (body ++ '"' :: after)) ↔ Avoids places .between after := by
  have hopen : Place.between.next false '"' = .string := rfl
  have hclose : Place.string.next false '"' = .between := rfl
  rw [Avoids, hopen, avoids_append, avoids_stay (stay_string hb), scan_stay (stay_string hb),
    Avoids, hclose]
  simp [hp]

lemma strip_unterminated (hb : '"' ∉ body) : strip cut .between ('"' :: body) = '"' :: body := by
  have hopen : Place.between.next cut '"' = .string := rfl
  rw [strip, hopen, if_neg (by decide), strip_stay (stay_string hb), if_neg (by decide)]

lemma stay_comment (hb : '\n' ∉ body) : ∀ c ∈ body, Place.comment.next cut c = .comment := by
  intro c hc
  apply Place.next_comment
  rintro rfl
  exact hb hc

lemma next_line {c : Char} (hc : c = '\n') :
    Place.comment.next cut c = Place.between.next cut c := by
  obtain rfl := hc
  exact (Place.next_between (by decide) (by decide)).symm

lemma strip_comment (hb : '\n' ∉ body) (ha : ∀ c ∈ after.head?, c = '\n') :
    strip cut .between (';' :: (body ++ after)) = strip cut .between after := by
  have hopen : Place.between.next cut ';' = .comment := rfl
  rw [strip, hopen, if_pos rfl, strip_append, strip_stay (stay_comment hb),
    scan_stay (stay_comment hb), if_pos rfl, List.nil_append]
  exact strip_congr fun c hc => next_line (ha c hc)

lemma avoids_comment (hb : '\n' ∉ body) (ha : ∀ c ∈ after.head?, c = '\n')
    (hp : ¬ places .between) (hp' : ¬ places .comment) :
    Avoids places .between (';' :: (body ++ after)) ↔ Avoids places .between after := by
  have hopen : Place.between.next false ';' = .comment := rfl
  have hafter : Avoids places .comment after ↔ Avoids places .between after := by
    apply avoids_congr
    intro c hc
    refine ⟨?_, next_line (ha c hc)⟩
    rw [ha c hc]
    decide
  rw [Avoids, hopen, avoids_append, avoids_stay (stay_comment hb), scan_stay (stay_comment hb),
    hafter]
  simp [hp, hp']

lemma next_end (hc : isTokenChar c = false) :
    Place.token.next false c = Place.between.next false c := by
  have hne := Place.ne_semicolon_of_not_isTokenChar hc
  rw [Place.next_of_ne hne (.inr rfl), Place.next_of_ne hne (.inl rfl)]

lemma next_name {comments : Bool} (hn : IsToken comments (c :: cs)) (hc : c ≠ ';') :
    Place.between.next false c = .token ∧ ∀ d ∈ cs, Place.token.next false d = .token := by
  have henter := Place.enter_of_isTokenChar (hn.chars c List.mem_cons_self)
  refine ⟨(Place.next_of_ne hc (.inl rfl)).trans henter, fun d hd => ?_⟩
  exact Place.next_token (hn.chars d (List.mem_cons_of_mem c hd))

lemma strip_name (hn : IsToken true name) (ha : ∀ c ∈ after.head?, isTokenChar c = false) :
    strip false .between (name ++ after) = name ++ strip false .between after := by
  cases name with
  | nil => exact absurd rfl hn.nonempty
  | cons c name =>
    have hc : c ≠ ';' := fun h => hn.noComment rfl (by simp [h])
    obtain ⟨hopen, hstay⟩ := next_name hn hc
    rw [List.cons_append, strip, hopen, if_neg (by decide), strip_append, strip_stay hstay,
      scan_stay hstay, if_neg (by decide), strip_congr fun d hd => next_end (ha d hd)]
    rfl

lemma avoids_name {comments : Bool} (hn : IsToken comments name) (hhead : name.head? ≠ some ';')
    (ha : ∀ c ∈ after.head?, isTokenChar c = false) (hp : places .token) :
    Avoids places .between (name ++ after) ↔ ';' ∉ name ∧ Avoids places .between after := by
  cases name with
  | nil => exact absurd rfl hn.nonempty
  | cons c name =>
    have hc : c ≠ ';' := fun h => hhead (by simp [h])
    obtain ⟨hopen, hstay⟩ := next_name hn hc
    have hafter : Avoids places .token after ↔ Avoids places .between after :=
      avoids_congr fun d hd => ⟨Place.ne_semicolon_of_not_isTokenChar (ha d hd), next_end (ha d hd)⟩
    rw [List.cons_append, Avoids, hopen, avoids_append, avoids_stay hstay, scan_stay hstay, hafter]
    simp [hp, hc, Ne.symm hc]

lemma head_of_avoids (h : Avoids places place cs) (hp : places place) : cs.head? ≠ some ';' := by
  cases cs with
  | nil => simp
  | cons c cs => simpa using h.1 hp

lemma strip_cut_of_avoids (h : Avoids (· = .token) place cs) :
    strip true place cs = strip false place cs := by
  induction cs generalizing place with
  | nil => rfl
  | cons c cs ih =>
    obtain ⟨hc, hrest⟩ := h
    rw [strip, strip, Place.next_cut hc, ih hrest]
    split
    · next hnext => rw [ih (hnext ▸ hrest)]
    · rfl

lemma avoids_strip (hp : place' ≠ .comment)
    (h : place = place' ∨ place = .comment ∧ place' ≠ .string) :
    Avoids (· ≠ .string) place' (strip true place cs) := by
  -- In a comment the scan of what is left stands still, in a token or between two.
  induction cs generalizing place place' with
  | nil => trivial
  | cons c cs ih =>
    rw [strip]
    split
    · next hnext =>
      refine ih hp (.inr ⟨rfl, ?_⟩)
      rcases h with rfl | ⟨-, hp'⟩
      · rintro rfl
        rw [Place.next] at hnext
        split at hnext <;> cases hnext
      · exact hp'
    · next hnext =>
      rcases h with rfl | ⟨rfl, hp'⟩
      · have hc : place ≠ .string → c ≠ ';' := by
          rintro hs rfl
          cases place <;> simp_all [Place.next]
        have hcut : place.next true c = place.next false c := by
          apply Place.next_cut
          rintro rfl
          exact hc (by decide)
        exact ⟨hc, ih (hcut ▸ hnext) (.inl hcut)⟩
      · obtain rfl : c = '\n' := Classical.not_not.1 fun hc => hnext (Place.next_comment hc)
        have hline : place'.next false '\n' = .between := by
          cases place' with
          | string => exact absurd rfl hp'
          | comment => exact absurd rfl hp
          | _ => rfl
        exact ⟨fun _ => by decide, ih (by rw [hline]; decide) (.inl hline.symm)⟩

end Scan

section Lexed

variable {cs : List Char} {ts : List Token}

lemma head_strip {c : Char} (ha : ∀ d ∈ cs.head?, isTokenChar d = false)
    (hc : c ∈ (strip false .between cs).head?) : isTokenChar c = false := by
  cases cs with
  | nil => cases hc
  | cons d cs =>
    have hd := ha d rfl
    have hnext : Place.between.next false d ≠ .comment := by
      rw [Place.next_of_ne (Place.ne_semicolon_of_not_isTokenChar hd) (.inl rfl), Place.enter]
      split
      · decide
      · simp [hd]
    rw [strip, if_neg hnext] at hc
    obtain rfl : d = c := by simpa using hc
    exact hd

lemma Lexed.stripped (h : Lexed true cs ts) : Lexed false (strip false .between cs) ts := by
  induction h with
  | nil => exact .nil
  | @piece piece cs _ hs _ ih =>
    cases piece with
    | blank c =>
      have hc : isBlank c = true := hs
      rw [Piece.text, List.singleton_append, strip_space (isWhiteSpace_of_isBlank hc)]
      have hs : (Piece.blank c).Stands false (strip false .between cs) := hc
      exact .piece hs ih
    | comment body =>
      obtain ⟨-, hb, ha⟩ := hs
      rw [Piece.text, List.cons_append, strip_comment hb ha]
      exact ih
  | opening _ ih =>
    rw [strip_plain (by decide) (by decide)]
    exact .opening ih
  | closing _ ih =>
    rw [strip_plain (by decide) (by decide)]
    exact .closing ih
  | string hb _ ih =>
    rw [strip_string hb]
    exact .string hb ih
  | atom hs _ ih =>
    obtain ⟨hn, ha⟩ := hs
    rw [strip_name hn ha]
    have hn' : IsToken false _ := ⟨hn.nonempty, hn.chars, nofun⟩
    exact .atom ⟨hn', fun c hc => head_strip ha hc⟩ ih
  | unterminated hq =>
    rw [strip_unterminated hq]
    exact .unterminated hq
  | stray hspace hblank =>
    rw [strip_space hspace]
    exact .stray hspace hblank

lemma tokens_strip (cs : List Char) :
    tokens false (strip false .between cs) = tokens true cs :=
  (lexed true cs).stripped.tokens_eq

lemma Lexed.avoids (h : Lexed true cs ts)
    (ht : ∀ t ∈ ts, ¬ t.Marked ∧ t ≠ .unterminated ∧ t ≠ .stray) :
    Avoids (· = .token) .between cs := by
  induction h with
  | nil => trivial
  | @piece piece cs _ hs _ ih =>
    cases piece with
    | blank c =>
      have hc : isBlank c = true := hs
      exact (avoids_space (isWhiteSpace_of_isBlank hc)).2 (ih ht)
    | comment body =>
      obtain ⟨-, hb, ha⟩ := hs
      exact (avoids_comment hb ha (by decide) (by decide)).2 (ih ht)
  | opening _ ih =>
    exact (avoids_plain (by decide) (by decide)).2 (ih (List.forall_mem_cons.1 ht).2)
  | closing _ ih =>
    exact (avoids_plain (by decide) (by decide)).2 (ih (List.forall_mem_cons.1 ht).2)
  | string hb _ ih =>
    exact (avoids_string hb (by decide)).2 (ih (List.forall_mem_cons.1 ht).2)
  | atom hs _ ih =>
    obtain ⟨hn, ha⟩ := hs
    obtain ⟨⟨hname, -⟩, hrest⟩ := List.forall_mem_cons.1 ht
    exact (avoids_name hn (hn.noComment rfl) ha (by decide)).2 ⟨hname, ih hrest⟩
  | unterminated _ => exact absurd rfl (List.forall_mem_cons.1 ht).1.2.1
  | stray _ _ => exact absurd rfl (List.forall_mem_cons.1 ht).1.2.2

lemma Lexed.not_marked (h : Lexed false cs ts) (ha : Avoids (· ≠ .string) .between cs) :
    ∀ t ∈ ts, ¬ t.Marked := by
  induction h with
  | nil => nofun
  | @piece piece cs _ hs _ ih =>
    cases piece with
    | blank c =>
      have hc : isBlank c = true := hs
      exact ih ((avoids_space (isWhiteSpace_of_isBlank hc)).1 ha)
    | comment body => cases hs.1
  | opening _ ih =>
    exact List.forall_mem_cons.2 ⟨id, ih ((avoids_plain (by decide) (by decide)).1 ha)⟩
  | closing _ ih =>
    exact List.forall_mem_cons.2 ⟨id, ih ((avoids_plain (by decide) (by decide)).1 ha)⟩
  | string hb _ ih => exact List.forall_mem_cons.2 ⟨id, ih ((avoids_string hb (by simp)).1 ha)⟩
  | @atom name cs _ hs _ ih =>
    obtain ⟨hn, hafter⟩ := hs
    have hhead : name.head? ≠ some ';' := by
      intro hname
      exact head_of_avoids ha (by decide) (by rw [List.head?_append, hname, Option.some_or])
    obtain ⟨hname, hrest⟩ := (avoids_name hn hhead hafter (by decide)).1 ha
    exact List.forall_mem_cons.2 ⟨hname, ih hrest⟩
  | unterminated _ => simp [Token.Marked]
  | stray _ _ => simp [Token.Marked]

end Lexed

lemma avoids_of_forms {cs : List Char} {symbols symbols₁ symbols₂ : SymbolTable} {vs : List Value}
    (h : forms true symbols cs = (.ok vs, symbols₁))
    (h' : forms false symbols (strip true .between cs) = (.ok vs, symbols₂)) :
    Avoids (· = .token) .between cs := by
  have hstrip : Avoids (· ≠ .string) .between (strip true .between cs) :=
    avoids_strip (by decide) (.inl rfl)
  obtain ⟨hmarked, htokens⟩ := marked_forms h
  obtain ⟨hmarked', -⟩ := marked_forms h'
  refine (lexed true cs).avoids fun t ht => ⟨fun hm => ?_, htokens t ht⟩
  obtain ⟨t', ht', hm'⟩ := hmarked'.1 (hmarked.2 ⟨t, ht, hm⟩)
  exact (lexed false _).not_marked hstrip t' ht' hm'

lemma readAll_name {comments : Bool} {name : List Char} (hn : IsToken comments name)
    (symbols : SymbolTable) :
    readAll comments (String.ofList name) symbols =
      (.ok [((Atom.ofChars name).value symbols).1], ((Atom.ofChars name).value symbols).2) := by
  rw [readAll_ok_iff, forms_ok_iff, String.toList_ofList]
  refine ⟨⟨[], .cons (.atom name) [] .nil⟩, ⟨?_, trivial, ⟨hn, nofun⟩, trivial, trivial⟩,
    ⟨?_, trivial⟩, rfl⟩
  · simp [Program.text, Gap.text, Forms.text, Tree.text]
  · exact (by decide : 0 < nestingLimit)

/-- With comments on, a text is read as the text without its comments is with comments off. A
semicolon in a token starts none; where there is no such semicolon, and only there, the same forms
are read when every semicolon outside strings is taken to start a comment. -/
theorem reads_uncommented (text : String) (symbols : SymbolTable) :
    (Same (readAll true text symbols) (readAll false (uncommented false text) symbols) ∧
      Same (read true text symbols) (read false (uncommented false text) symbols)) ∧
    (Avoids (· = .token) .between text.toList →
      Same (readAll true text symbols) (readAll false (uncommented true text) symbols) ∧
      Same (read true text symbols) (read false (uncommented true text) symbols)) ∧
    (∀ vs, (readAll true text symbols).1 = .ok vs →
      (readAll false (uncommented true text) symbols).1 = .ok vs →
      Avoids (· = .token) .between text.toList) ∧
    (∀ form, (read true text symbols).1 = .ok form →
      (read false (uncommented true text) symbols).1 = .ok form →
      Avoids (· = .token) .between text.toList) := by
  have hlist : ∀ cut, (uncommented cut text).toList = strip cut .between text.toList :=
    fun cut => String.toList_ofList
  have htokens : tokens true text.toList = tokens false (uncommented false text).toList := by
    rw [hlist, tokens_strip]
  have hsame := And.intro (readAll_of_tokens htokens symbols) (read_of_tokens htokens symbols)
  refine ⟨hsame, fun h => ?_, fun vs h h' => ?_, fun form h h' => ?_⟩
  · have htext : uncommented true text = uncommented false text := by
      rw [uncommented, uncommented, strip_cut_of_avoids h]
    rw [htext]
    exact hsame
  · have hforms := readAll_ok_iff.1 (Prod.ext h rfl)
    have hforms' := readAll_ok_iff.1 (Prod.ext h' rfl)
    rw [hlist] at hforms'
    exact avoids_of_forms hforms hforms'
  · have hforms := read_ok_iff.1 (Prod.ext h rfl)
    have hforms' := read_ok_iff.1 (Prod.ext h' rfl)
    rw [hlist] at hforms'
    exact avoids_of_forms hforms hforms'

theorem reads_uncommented_quoted :
    Same (readAll true "(f \"a;b\");c\nx" .empty) (readAll false "(f \"a;b\")\nx" .empty) ∧
    Same (readAll true "x;y" .empty) (readAll false "x;y" .empty) ∧
    ¬ Avoids (· = .token) .between "x;y".toList := by
  obtain ⟨-, hquoted, -⟩ := reads_uncommented "(f \"a;b\");c\nx" .empty
  obtain ⟨hglued, -⟩ := reads_uncommented "x;y" .empty
  have htext : uncommented true "(f \"a;b\");c\nx" = "(f \"a;b\")\nx" := by decide
  have hsame : uncommented false "x;y" = "x;y" := by decide
  rw [htext] at hquoted
  rw [hsame] at hglued
  exact ⟨(hquoted (by decide)).1, hglued.1, by decide⟩

theorem semicolon_kept_in_token :
    (readAll true "x;y" .empty).1 = .ok [.symbol ⟨0, "x;y"⟩] ∧
    (readAll false (uncommented true "x;y") .empty).1 = .ok [.symbol ⟨0, "x"⟩] ∧
    ¬ ∀ vs, (readAll true "x;y" .empty).1 = .ok vs ↔
      (readAll false (uncommented true "x;y") .empty).1 = .ok vs := by
  have hread : readAll true (String.ofList "x;y".toList) .empty = _ :=
    readAll_name (isToken_of_all (by decide) (by decide) (by decide)) .empty
  have hcut : readAll false (String.ofList "x".toList) .empty = _ :=
    readAll_name (isToken_of_all (by decide) (by decide) (by decide)) .empty
  have htext : uncommented true "x;y" = String.ofList "x".toList := by decide
  rw [String.ofList_toList] at hread
  rw [htext, hread, hcut]
  refine ⟨rfl, rfl, fun h => ?_⟩
  have hforms := (h _).1 rfl
  cases hforms

end SmallScheme.Reader
