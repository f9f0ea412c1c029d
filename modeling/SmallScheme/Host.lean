import SmallScheme.Error

namespace SmallScheme

/-- A function of the host: how often it was called, this call included, and its arguments. The
count tells one call from the next, so such a function can give whatever answers a host gives in
a run. It cannot change a frame, as a host may that kept a scope. -/
abbrev HostFunction := Nat → List Value → Except Error Value

namespace HostFunction

def countArguments : HostFunction := fun _ args =>
  .ok (.number (Float.ofNat args.length))

def typeNames : HostFunction := fun _ args =>
  .ok (.list (args.map fun v => .string v.typeName))

def collect : HostFunction := fun _ args =>
  .ok (.list args)

def first (args : List Value) : Value :=
  args.head?.getD .unspecified

def double : HostFunction := fun _ args =>
  (first args).toNumber.map fun x => .number (x * 2)

def flip : HostFunction := fun _ args =>
  (first args).toBool.map fun b => .bool !b

def countCalls : HostFunction := fun calls _ =>
  .ok (.number (Float.ofNat calls))

def constant (v : Value) : HostFunction := fun _ _ =>
  .ok v

def failure (e : Error) : HostFunction := fun _ _ =>
  .error e

end HostFunction

end SmallScheme
