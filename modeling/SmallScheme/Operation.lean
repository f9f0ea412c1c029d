import SmallScheme.Value

namespace SmallScheme

inductive SpecialForm where
  | lambda
  | define
  | conditional
  | assignment
deriving DecidableEq

namespace SpecialForm

def all : List SpecialForm :=
  [lambda, define, conditional, assignment]

def name : SpecialForm → String
  | lambda => "lambda"
  | define => "define"
  | conditional => "if"
  | assignment => "set!"

def arity : SpecialForm → Arity
  | lambda => .atLeast 2
  | define => .exactly 2
  | conditional => .between 2 3
  | assignment => .exactly 2

/-- Every session numbers the names of the special forms first, so that these are their
symbols. -/
def symbol : SpecialForm → Symbol
  | lambda => ⟨0, "lambda"⟩
  | define => ⟨1, "define"⟩
  | conditional => ⟨2, "if"⟩
  | assignment => ⟨3, "set!"⟩

def ofSymbol? (s : Symbol) : Option SpecialForm :=
  all.find? fun form => form.symbol.same s

def ofHead? : Value → Option SpecialForm
  | .symbol s => ofSymbol? s
  | _ => none

end SpecialForm

namespace Builtin

def all : List Builtin :=
  [add, mul, sub, div, equal, less, greater, atMost, atLeast, not]

def name : Builtin → String
  | add => "+"
  | mul => "*"
  | sub => "-"
  | div => "/"
  | equal => "="
  | less => "<"
  | greater => ">"
  | atMost => "<="
  | atLeast => ">="
  | not => "not"

def arity : Builtin → Arity
  | add => .atLeast 0
  | mul => .atLeast 0
  | sub => .atLeast 1
  | div => .atLeast 1
  | equal => .atLeast 0
  | less => .atLeast 2
  | greater => .atLeast 2
  | atMost => .atLeast 2
  | atLeast => .atLeast 2
  | not => .exactly 1

def procedure (b : Builtin) : HostProcedure :=
  ⟨b.name, b.arity, .builtin b⟩

end Builtin

inductive Operation where
  | special (form : SpecialForm)
  | builtin (b : Builtin)
deriving DecidableEq

namespace Operation

def all : List Operation :=
  SpecialForm.all.map special ++ Builtin.all.map builtin

def name : Operation → String
  | special form => form.name
  | builtin b => b.name

def arity : Operation → Arity
  | special form => form.arity
  | builtin b => b.arity

def isSpecial : Operation → Bool
  | special _ => true
  | builtin _ => false

def find? (name : String) : Option Operation :=
  all.find? fun op => op.name == name

theorem mem_all (op : Operation) : op ∈ all := by
  rcases op with form | b
  · cases form <;> decide
  · cases b <;> decide

theorem name_injective {a b : Operation} (h : a.name = b.name) : a = b := by
  have key : ∀ a ∈ all, ∀ b ∈ all, a.name = b.name → a = b := by decide
  exact key a (mem_all a) b (mem_all b) h

def inspect (op : Operation) : String :=
  "BuiltinOp \x7b scheme_id: \"" ++ op.name ++ "\", op_kind: "
    ++ (if op.isSpecial then "SpecialForm(<fn>)" else "Function(<fn>)")
    ++ ", arity: " ++ op.arity.inspect ++ " \x7d"

end Operation

end SmallScheme
