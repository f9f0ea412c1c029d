import SmallScheme.Text.Blank

/-! Lexemes: the text cut at parentheses, quotes and white space. A token is a maximal run of
token characters; a string runs to the next quote. -/

namespace SmallScheme.Reader

open Text

inductive Token where
  | opening
  | closing
  | string (body : List Char)
  | atom (name : List Char)
  | unterminated
  | stray
deriving DecidableEq

structure Lexeme where
  token : Token
  start : List Char
  rest : List Char
deriving DecidableEq

mutual

def skipBlank (comments : Bool) : List Char → List Char
  | [] => []
  | c :: cs =>
    if isBlank c then skipBlank comments cs
    else if comments && c == ';' then skipComment comments cs
    else c :: cs

def skipComment (comments : Bool) : List Char → List Char
  | [] => []
  | c :: cs => if c == '\n' then skipBlank comments cs else skipComment comments cs

end

def isTokenChar (c : Char) : Bool :=
  !isWhiteSpace c && c != '(' && c != ')' && c != '"'

def isBody (c : Char) : Bool :=
  c != '"'

/-- The lexeme at the start of a text that begins with neither blank nor comment. After a
character that starts nothing there is nothing more to read. -/
def lexemeAt : List Char → Option Lexeme
  | [] => none
  | c :: cs =>
    let start := c :: cs
    if c == '(' then some ⟨.opening, start, cs⟩
    else if c == ')' then some ⟨.closing, start, cs⟩
    else if c == '"' then
      match cs.dropWhile isBody with
      | [] => some ⟨.unterminated, start, []⟩
      | _ :: rest => some ⟨.string (cs.takeWhile isBody), start, rest⟩
    else if isTokenChar c then
      some ⟨.atom (start.takeWhile isTokenChar), start, cs.dropWhile isTokenChar⟩
    else some ⟨.stray, start, []⟩

theorem length_dropWhile_le (p : Char → Bool) (cs : List Char) :
    (cs.dropWhile p).length ≤ cs.length :=
  (List.dropWhile_suffix p).length_le

mutual

theorem length_skipBlank_le (comments : Bool) (cs : List Char) :
    (skipBlank comments cs).length ≤ cs.length := by
  cases cs with
  | nil => simp [skipBlank]
  | cons c cs =>
    have hb := length_skipBlank_le comments cs
    have hc := length_skipComment_le comments cs
    simp only [skipBlank, List.length_cons]
    split
    · omega
    · split
      · omega
      · simp

theorem length_skipComment_le (comments : Bool) (cs : List Char) :
    (skipComment comments cs).length ≤ cs.length := by
  cases cs with
  | nil => simp [skipComment]
  | cons c cs =>
    have hb := length_skipBlank_le comments cs
    have hc := length_skipComment_le comments cs
    simp only [skipComment, List.length_cons]
    split <;> omega

end

theorem length_rest_lexemeAt {cs : List Char} {l : Lexeme} (h : lexemeAt cs = some l) :
    l.rest.length < cs.length := by
  cases cs with
  | nil => simp [lexemeAt] at h
  | cons c cs =>
    have hd := fun p => length_dropWhile_le p cs
    simp only [lexemeAt] at h
    split at h
    · obtain rfl := Option.some.inj h
      simp
    split at h
    · obtain rfl := Option.some.inj h
      simp
    split at h
    · split at h
      · obtain rfl := Option.some.inj h
        simp
      · next d rest hr =>
        obtain rfl := Option.some.inj h
        have := hd isBody
        rw [hr] at this
        simp only [List.length_cons] at this ⊢
        omega
    split at h
    · obtain rfl := Option.some.inj h
      have := hd isTokenChar
      simp only [List.length_cons]
      omega
    · obtain rfl := Option.some.inj h
      simp

def next? (comments : Bool) (cs : List Char) : Option Lexeme :=
  lexemeAt (skipBlank comments cs)

theorem length_rest_next? {comments : Bool} {cs : List Char} {l : Lexeme}
    (h : next? comments cs = some l) : l.rest.length < cs.length :=
  Nat.lt_of_lt_of_le (length_rest_lexemeAt h) (length_skipBlank_le comments cs)

def lexemes (comments : Bool) (cs : List Char) : List Lexeme :=
  match _h : next? comments cs with
  | none => []
  | some l => l :: lexemes comments l.rest
termination_by cs.length
decreasing_by exact length_rest_next? _h

end SmallScheme.Reader
