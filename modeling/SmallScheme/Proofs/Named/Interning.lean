import SmallScheme.Proofs.Named.SpeltSession

namespace SmallScheme

open List

inductive Constant where
  | number (x : Float)
  | string (text : String)
  | bool (b : Bool)
  | host (p : HostProcedure)
  | unspecified

structure Interface (σ υ : Type) where
  intern : String → EStateM Error σ υ
  constant : Constant → υ
  list : List υ → υ
  closure : List String → List υ → Scope → EStateM Error σ υ
  read : String → EStateM Error σ (Option υ)
  evaluate : υ → Scope → EStateM Error σ υ
  evaluateText : String → Scope → EStateM Error σ υ
  runText : String → EStateM Error σ υ
  apply : υ → List υ → EStateM Error σ υ
  define : String → υ → EStateM Error σ Unit
  lookup : String → EStateM Error σ υ
  newScope : Scope → EStateM Error σ Scope
  setComments : Bool → EStateM Error σ Unit
  listing : Scope → EStateM Error σ (List (String × String) × String)
  global : σ → Scope
  output : σ → String
  written : υ → String
  displayed : υ → String

inductive Datum where
  | constant (c : Constant)
  | symbol (name : String)
  | list (elements : List Datum)
  | closure (params : List String) (body : List Datum) (scope : Nat)
  | earlier (number : Nat)

inductive Request where
  | intern (name : String)
  | read (text : String)
  | evaluate (d : Datum) (scope : Nat)
  | evaluateText (text : String) (scope : Nat)
  | runText (text : String)
  | apply (p : Datum) (args : List Datum)
  | define (name : String) (d : Datum)
  | lookup (name : String)
  | newScope (outer : Nat)
  | setComments (on : Bool)
  | listing (scope : Nat)

inductive Reply (υ : Type) where
  | nothing
  | value (v : υ)
  | scope (e : Scope)
  | listing (bindings : List (String × String)) (text : String)

inductive Answer where
  | error (e : Error)
  | nothing
  | value (written displayed : String)
  | scope
  | listing (bindings : List (String × String)) (text : String)
deriving DecidableEq

structure Desk (σ υ : Type) where
  session : σ
  values : List υ
  scopes : List Scope

namespace Interface

variable {σ υ : Type} (I : Interface σ υ)

def begin (s : σ) : Desk σ υ := ⟨s, [], [I.global s]⟩

def scopeAt (d : Desk σ υ) (number : Nat) : Scope :=
  d.scopes.getD number (I.global d.session)

mutual

def build (d : Desk σ υ) : Datum → EStateM Error σ υ
  | .constant c => pure (I.constant c)
  | .symbol name => I.intern name
  | .list elements => do
    return I.list (← buildAll d elements)
  | .closure params body scope => do
    I.closure params (← buildAll d body) (I.scopeAt d scope)
  | .earlier number => pure (d.values.getD number (I.constant .unspecified))

def buildAll (d : Desk σ υ) : List Datum → EStateM Error σ (List υ)
  | [] => pure []
  | x :: xs => do
    let v ← build d x
    let vs ← buildAll d xs
    pure (v :: vs)

end

def respond (d : Desk σ υ) : Request → EStateM Error σ (Reply υ)
  | .intern name => return .value (← I.intern name)
  | .read text => do
    match ← I.read text with
    | some v => return .value v
    | none => return .nothing
  | .evaluate x scope => do
    let x ← I.build d x
    return .value (← I.evaluate x (I.scopeAt d scope))
  | .evaluateText text scope => return .value (← I.evaluateText text (I.scopeAt d scope))
  | .runText text => return .value (← I.runText text)
  | .apply p args => do
    let p ← I.build d p
    let args ← I.buildAll d args
    return .value (← I.apply p args)
  | .define name x => do
    let v ← I.build d x
    I.define name v
    return .nothing
  | .lookup name => return .value (← I.lookup name)
  | .newScope outer => return .scope (← I.newScope (I.scopeAt d outer))
  | .setComments on => do
    I.setComments on
    return .nothing
  | .listing scope => do
    let (bindings, text) ← I.listing (I.scopeAt d scope)
    return .listing bindings text

def answer : Reply υ → Answer
  | .nothing => .nothing
  | .value v => .value (I.written v) (I.displayed v)
  | .scope _ => .scope
  | .listing bindings text => .listing bindings text

def keep (d : Desk σ υ) (s : σ) : Reply υ → Desk σ υ
  | .value v => { d with session := s, values := d.values ++ [v] }
  | .scope e => { d with session := s, scopes := d.scopes ++ [e] }
  | _ => { d with session := s }

def ask (d : Desk σ υ) (q : Request) : Answer × Desk σ υ :=
  match I.respond d q d.session with
  | .ok reply s => (I.answer reply, keep d s reply)
  | .error e s => (.error e, { d with session := s })

def enterNames (d : Desk σ υ) (names : List String) : Desk σ υ :=
  { d with session := names.foldl (fun s name =>
      match I.intern name s with
      | .ok _ s => s
      | .error _ s => s) d.session }

/-- The answers to a script, each with all that was displayed up to then. Before every request
some names are entered that it does not need. -/
def transcript (d : Desk σ υ) : List (List String × Request) → List (Answer × String)
  | [] => []
  | (names, q) :: rest =>
    let asked := I.ask (I.enterNames d names) q
    (asked.1, I.output asked.2.session) :: transcript asked.2 rest

end Interface

namespace Constant

def value : Constant → Value
  | number x => .number x
  | string text => .string text
  | bool b => .bool b
  | host p => .host p
  | unspecified => .unspecified

def named : Constant → Named.Value
  | number x => .number x
  | string text => .string text
  | bool b => .bool b
  | host p => .host p
  | unspecified => .unspecified

end Constant

namespace Session

def internAll : List String → Action (List Symbol)
  | [] => pure []
  | name :: names => do
    let s ← modifyGet (intern name)
    let ss ← internAll names
    pure (s :: ss)

def interface : Interface Session Value where
  intern name := return .symbol (← modifyGet (intern name))
  constant := Constant.value
  list := .list
  closure params body e := do
    let params ← internAll params
    perform (Run.newClosure params body e)
  read := read
  evaluate x e := perform (evaluate x e)
  evaluateText := evaluateText
  runText := runText
  apply p args := perform (apply p args)
  define name v := modify (define name v)
  lookup name := do
    match (← get).lookup name with
    | .ok v => pure v
    | .error e => throw e
  newScope e := modifyGet (newScope e)
  setComments on := modify fun s => { s with comments := on }
  listing e := do
    let st := (← get).world.store
    return ((st.visible e).map fun b => (b.1, b.2.written), st.listing e)
  global := global
  output s := s.world.output
  written := Value.written
  displayed := Value.displayed

end Session

namespace Named.Session

def interface : Interface Session Value where
  intern name := pure (.symbol name)
  constant := Constant.named
  list := .list
  closure params body e := perform (Run.newClosure params body e)
  read := read
  evaluate x e := perform (named.evaluate x e)
  evaluateText := evaluateText
  runText := runText
  apply p args := perform (named.apply p args)
  define name v := modify (define name v)
  lookup name := do
    match (← get).lookup name with
    | .ok v => pure v
    | .error e => throw e
  newScope e := modifyGet (newScope e)
  setComments on := modify fun s => { s with comments := on }
  listing e := do
    let st := (← get).world.store
    return ((st.visible e).map fun b => (b.1, b.2.written), Listing.render (st.visible e))
  global := global
  output s := s.world.output
  written := Value.written
  displayed := Value.displayed

end Named.Session

namespace Listing

def PairsAlike (b b' : String × Value) : Prop :=
  b.1 = b'.1 ∧ b.2.written = b'.2.written ∧ isHost b = isHost b'

lemma insertNamed_alike {name : String} {v v' : Value} (h : PairsAlike (name, v) (name, v'))
    {pairs pairs' : List (String × Value)} (hpairs : Forall₂ PairsAlike pairs pairs') :
    Forall₂ PairsAlike (Store.insertNamed name v pairs) (Store.insertNamed name v' pairs') := by
  induction hpairs with
  | nil => exact .cons h .nil
  | @cons b b' rest rest' hb hrest ih =>
    obtain ⟨n, u⟩ := b
    obtain ⟨n', u'⟩ := b'
    obtain rfl : n = n' := hb.1
    rw [Store.insertNamed, Store.insertNamed]
    by_cases hlt : name < n
    · rw [if_pos hlt, if_pos hlt]
      exact .cons h (.cons hb hrest)
    · rw [if_neg hlt, if_neg hlt]
      by_cases heq : name = n
      · rw [if_pos heq, if_pos heq]
        exact .cons h hrest
      · rw [if_neg heq, if_neg heq]
        exact .cons hb ih

lemma filter_alike {p : String × Value → Bool} (hp : ∀ b b', PairsAlike b b' → p b = p b')
    {pairs pairs' : List (String × Value)} (h : Forall₂ PairsAlike pairs pairs') :
    Forall₂ PairsAlike (pairs.filter p) (pairs'.filter p) := by
  induction h with
  | nil => exact .nil
  | @cons b b' _ _ hb _ ih =>
    rw [List.filter_cons, List.filter_cons, hp b b' hb]
    split
    · exact .cons hb ih
    · exact ih

lemma map_eq_of_alike {β : Type} {f : String × Value → β}
    (hf : ∀ b b', PairsAlike b b' → f b = f b') {pairs pairs' : List (String × Value)}
    (h : Forall₂ PairsAlike pairs pairs') : pairs.map f = pairs'.map f := by
  induction h with
  | nil => rfl
  | cons hb _ ih => rw [List.map_cons, List.map_cons, hf _ _ hb, ih]

lemma isEmpty_eq_of_alike {pairs pairs' : List (String × Value)}
    (h : Forall₂ PairsAlike pairs pairs') : pairs.isEmpty = pairs'.isEmpty := by
  cases h <;> rfl

lemma render_eq {pairs pairs' : List (String × Value)} (h : Forall₂ PairsAlike pairs pairs') :
    render pairs = render pairs' := by
  have hhosts := map_eq_of_alike (fun _ _ hb => hb.1) (filter_alike (fun _ _ hb => hb.2.2) h)
  have hrest := filter_alike (fun _ _ hb => congrArg (! ·) hb.2.2) h
  have hentries := map_eq_of_alike (f := entry)
    (fun b b' hb => by rw [entry, entry, hb.1, hb.2.1]) hrest
  unfold render valueSection
  rw [isEmpty_eq_of_alike h, h.length_eq, hhosts, isEmpty_eq_of_alike hrest, hrest.length_eq,
    hentries]

end Listing

variable {t : SymbolTable}

lemma Spelt.pairsAlike (name : String) {v : Value} {w : Named.Value} (h : Spelt t v w) :
    Listing.PairsAlike (name, v) (name, w.toValue) := by
  refine ⟨rfl, h.written_eq, ?_⟩
  cases h <;> rfl

lemma StoreSpelt.visible {st : Store} {st' : Named.Store} (h : StoreSpelt t st st') (e : Scope) :
    Forall₂ Listing.PairsAlike (st.visible e) (st'.visible e) := by
  have hframe : ∀ {f : Frame} {f' : Named.Frame}, FrameSpelt t f f' → ∀ {pairs pairs'},
      Forall₂ Listing.PairsAlike pairs pairs' →
      Forall₂ Listing.PairsAlike (Store.insertFrame f pairs)
        (f'.foldl (fun pairs b => Store.insertNamed b.1 b.2.toValue pairs) pairs') := by
    intro f f' hf
    unfold FrameSpelt at hf
    unfold Store.insertFrame
    generalize f.bindings = bindings at hf
    induction hf with
    | nil => exact id
    | cons hb _ ih =>
      intro pairs pairs' hpairs
      refine ih ?_
      simp only [hb.1.1]
      exact Listing.insertNamed_alike (hb.2.pairsAlike _) hpairs
  unfold Store.visible Named.Store.visible
  induction e.chain with
  | nil => exact .nil
  | cons i is ih => exact hframe (h.frames i) ih

namespace SpeltSession

open Correspondence

lemma internSymbol_aligned (name : String) :
    sessionSpelling.Aligned t (fun l s n => l.Spells s n ∧ n = name)
      (modifyGet (Session.intern name)) (pure name) := by
  intro l _ s s' hs
  obtain rfl := hs.symbols
  exact ⟨_, s.symbols.le_intern name, .ok ⟨s.symbols.spells_intern name, rfl⟩ (hs.intern name)⟩

lemma intern_aligned (name : String) :
    sessionSpelling.Aligned t Spelt (Session.interface.intern name)
      (Named.Session.interface.intern name) :=
  (internSymbol_aligned name).bind fun _ _ _ _ hs =>
    aligned_pure fun _ hle => .symbol (hs.1.mono hle)

lemma internAll_aligned (names : List String) :
    sessionSpelling.Aligned t (fun l ss ns => Forall₂ l.Spells ss ns ∧ ns = names)
      (Session.internAll names) (pure names) := by
  induction names generalizing t with
  | nil => exact aligned_pure fun _ _ => ⟨.nil, rfl⟩
  | cons name names ih =>
    change sessionSpelling.Aligned t _ _
      (pure name >>= fun n => pure names >>= fun ns => pure (n :: ns))
    refine (internSymbol_aligned name).bind fun l _ s n hs => ?_
    refine ih.bind fun k hle ss ns hss => ?_
    obtain ⟨hs, rfl⟩ := hs
    obtain ⟨hss, rfl⟩ := hss
    refine aligned_pure fun j hkj => ⟨.cons (hs.mono (hle.trans hkj)) ?_, rfl⟩
    exact hss.imp fun _ _ h => h.mono hkj

lemma closure_aligned (params : List String) {body : List Value} {body' : List Named.Value}
    (hb : Forall₂ (Spelt t) body body') (e : Scope) :
    sessionSpelling.Aligned t Spelt (Session.interface.closure params body e)
      (Named.Session.interface.closure params body' e) := by
  change sessionSpelling.Aligned t Spelt _
    (pure params >>= fun params => Named.Session.perform (Named.Run.newClosure params body' e))
  refine (internAll_aligned params).bind fun l hle ss ns hss => ?_
  obtain ⟨hss, rfl⟩ := hss
  apply perform_aligned
  intro k hlk _
  apply Spelling.newClosure_aligned
  · exact hss.imp fun _ _ h => h.mono hlk
  · exact hb.imp fun _ _ h => h.mono (hle.trans hlk)

lemma define_aligned (name : String) {v : Value} {w : Named.Value} (hv : Spelt t v w) :
    sessionSpelling.Aligned t (fun _ _ _ => True) (Session.interface.define name v)
      (Named.Session.interface.define name w) := by
  intro l hle s s' hs
  exact ⟨_, l.le_intern name, .ok trivial (hs.define name (hv.mono hle))⟩

lemma lookup?_of_not_mem {st : Store} {st' : Named.Store} (h : StoreSpelt t st st') (e : Scope)
    {name : String} (hname : name ∉ t.names) : st'.lookup? e name = none := by
  unfold Named.Store.lookup?
  rw [List.findSome?_eq_none_iff]
  intro i _
  unfold Named.Frame.get?
  rw [Option.map_eq_none_iff, List.find?_eq_none]
  intro b hb hkey
  obtain ⟨b', hs⟩ : ∃ b' : Symbol × Value, t.Spells b'.1 b.1 := by
    have hframe := h.frames i
    unfold FrameSpelt at hframe
    generalize (st.frame i).bindings = bindings at hframe
    generalize st'.frame i = f at hframe hb
    induction hframe with
    | nil => simp at hb
    | cons hpair _ ih =>
      rcases List.mem_cons.1 hb with rfl | hb
      · exact ⟨_, hpair.1⟩
      · exact ih hb
  rw [← beq_iff_eq.1 hkey] at hname
  exact hname (List.mem_of_getElem? hs.2)

lemma lookup_alike {s : Session} {s' : Named.Session} (hs : SessionSpelt t s s')
    (name : String) : Alike (Spelt t) (s.lookup name) (s'.lookup name) := by
  obtain rfl := hs.symbols
  unfold Session.lookup Named.Session.lookup
  rw [← hs.global]
  cases hget : s.symbols.get? name with
  | none =>
    -- A name without a number is the key of no frame.
    rw [lookup?_of_not_mem hs.world.store s.global (SymbolTable.not_mem_of_get? hget)]
    exact .error
  | some symbol =>
    have hl := hs.world.store.lookup hs.sound s.global (SymbolTable.spells_of_get? hget)
    simp only
    generalize s.world.store.lookup? s.global symbol = found at hl
    generalize s'.world.store.lookup? s.global name = found' at hl
    cases hl with
    | some hv => exact .ok hv
    | none => exact .error

lemma lookup_aligned (name : String) :
    sessionSpelling.Aligned t Spelt (Session.interface.lookup name)
      (Named.Session.interface.lookup name) := by
  apply aligned_get
  intro l _ s s' hs
  have halike := lookup_alike hs name
  generalize s.lookup name = outcome at halike
  generalize s'.lookup name = outcome' at halike
  cases halike with
  | ok hv => exact aligned_pure fun _ hle => hv.mono hle
  | error => exact aligned_throw rfl

lemma newScope_aligned (e : Scope) :
    sessionSpelling.Aligned t (fun _ => Eq) (Session.interface.newScope e)
      (Named.Session.interface.newScope e) := by
  intro l _ s s' hs
  refine ⟨l, le_rfl, .ok ?_ ?_⟩
  · exact congrArg (Scope.mk · e.chain) hs.world.store.size
  · exact ⟨hs.symbols, hs.sound, hs.world.withStore (hs.world.store.newFrame e.chain), hs.global,
      hs.comments⟩

lemma setComments_aligned (on : Bool) :
    sessionSpelling.Aligned t (fun _ _ _ => True) (Session.interface.setComments on)
      (Named.Session.interface.setComments on) :=
  aligned_modify fun _ _ _ _ hs => ⟨hs.symbols, hs.sound, hs.world, hs.global, rfl⟩

lemma listing_aligned (e : Scope) :
    sessionSpelling.Aligned t (fun _ => Eq) (Session.interface.listing e)
      (Named.Session.interface.listing e) := by
  apply aligned_get
  intro l _ s s' hs
  have hvisible := hs.world.store.visible e
  refine aligned_pure fun _ _ => Prod.ext ?_ (Listing.render_eq hvisible)
  exact Listing.map_eq_of_alike (fun b b' hb => by rw [hb.1, hb.2.1]) hvisible

structure DeskAlike (t : SymbolTable) (d : Desk Session Value)
    (d' : Desk Named.Session Named.Value) : Prop where
  values : Forall₂ (Spelt t) d.values d'.values
  scopes : d.scopes = d'.scopes
  global : d.session.global = d'.session.global

variable {d : Desk Session Value} {d' : Desk Named.Session Named.Value}

lemma DeskAlike.mono {l : SymbolTable} (h : DeskAlike t d d') (hle : t ≤ l) :
    DeskAlike l d d' :=
  ⟨h.values.imp fun _ _ hv => hv.mono hle, h.scopes, h.global⟩

lemma DeskAlike.scopeAt_eq (h : DeskAlike t d d') (number : Nat) :
    Session.interface.scopeAt d number = Named.Session.interface.scopeAt d' number := by
  unfold Interface.scopeAt
  rw [h.scopes]
  exact congrArg _ h.global

lemma constant_spelt (c : Constant) : Spelt t c.value c.named := by
  cases c with
  | number x => exact .number x
  | string text => exact .string text
  | bool b => exact .bool b
  | host p => exact .host p
  | unspecified => exact .unspecified

lemma getD_spelt {vs : List Value} {ws : List Named.Value} (h : Forall₂ (Spelt t) vs ws)
    (number : Nat) :
    Spelt t (vs.getD number .unspecified) (ws.getD number .unspecified) := by
  induction h generalizing number with
  | nil => exact .unspecified
  | cons hv _ ih =>
    cases number with
    | zero => exact hv
    | succ number => exact ih number

mutual

lemma build_aligned {t : SymbolTable} (hd : DeskAlike t d d') (x : Datum) :
    sessionSpelling.Aligned t Spelt (Session.interface.build d x)
      (Named.Session.interface.build d' x) := by
  cases x with
  | constant c => exact aligned_pure fun _ _ => constant_spelt c
  | symbol name => exact intern_aligned name
  | list elements =>
    refine (buildAll_aligned hd elements).bind fun l _ vs ws hvs => ?_
    exact aligned_pure fun _ hle => (Spelt.list (speltAll_iff.2 hvs)).mono hle
  | closure params body scope =>
    refine (buildAll_aligned hd body).bind fun l _ vs ws hvs => ?_
    rw [hd.scopeAt_eq]
    exact closure_aligned params hvs _
  | earlier number => exact aligned_pure fun _ hle => (getD_spelt hd.values number).mono hle

lemma buildAll_aligned {t : SymbolTable} (hd : DeskAlike t d d') (xs : List Datum) :
    sessionSpelling.Aligned t (fun l => Forall₂ (Spelt l)) (Session.interface.buildAll d xs)
      (Named.Session.interface.buildAll d' xs) := by
  cases xs with
  | nil => exact aligned_pure fun _ _ => .nil
  | cons x xs =>
    refine (build_aligned hd x).bind fun l htl v w hv => ?_
    refine (buildAll_aligned (hd.mono htl) xs).bind fun k hlk vs ws hvs => ?_
    refine aligned_pure fun j hkj => .cons (hv.mono (hlk.trans hkj)) ?_
    exact hvs.imp fun _ _ hv => hv.mono hkj

end

inductive ReplySpelt (t : SymbolTable) : Reply Value → Reply Named.Value → Prop
  | nothing : ReplySpelt t .nothing .nothing
  | value {v : Value} {w : Named.Value} : Spelt t v w → ReplySpelt t (.value v) (.value w)
  | scope (e : Scope) : ReplySpelt t (.scope e) (.scope e)
  | listing (bindings : List (String × String)) (text : String) :
      ReplySpelt t (.listing bindings text) (.listing bindings text)

lemma value_aligned {m : Session.Action Value} {m' : Named.Session.Action Named.Value}
    (h : sessionSpelling.Aligned t Spelt m m') :
    sessionSpelling.Aligned t ReplySpelt (m >>= fun v => pure (.value v))
      (m' >>= fun v => pure (.value v)) :=
  h.bind fun _ _ _ _ hv => aligned_pure fun _ hle => .value (hv.mono hle)

lemma nothing_aligned {m : Session.Action Unit} {m' : Named.Session.Action Unit}
    (h : sessionSpelling.Aligned t (fun _ _ _ => True) m m') :
    sessionSpelling.Aligned t ReplySpelt (m >>= fun _ => pure .nothing)
      (m' >>= fun _ => pure .nothing) :=
  h.bind fun _ _ _ _ _ => aligned_pure fun _ _ => .nothing

lemma respond_aligned (hd : DeskAlike t d d') (q : Request) :
    sessionSpelling.Aligned t ReplySpelt (Session.interface.respond d q)
      (Named.Session.interface.respond d' q) := by
  cases q with
  | intern name => exact value_aligned (intern_aligned name)
  | read text =>
    refine (read_aligned text).bind fun l _ v w hv => ?_
    cases hv with
    | some hv => exact aligned_pure fun _ hle => .value (hv.mono hle)
    | none => exact aligned_pure fun _ _ => .nothing
  | evaluate x scope =>
    refine (build_aligned hd x).bind fun l _ v w hv => ?_
    rw [hd.scopeAt_eq]
    exact value_aligned (evaluate_aligned hv _)
  | evaluateText text scope =>
    simp only [Interface.respond, hd.scopeAt_eq]
    exact value_aligned (evaluateText_aligned text _)
  | runText text => exact value_aligned (runText_aligned text)
  | apply p args =>
    refine (build_aligned hd p).bind fun l htl v w hv => ?_
    refine (buildAll_aligned (hd.mono htl) args).bind fun k hlk vs ws hvs => ?_
    exact value_aligned (apply_aligned (hv.mono hlk) hvs)
  | define name x =>
    refine (build_aligned hd x).bind fun l _ v w hv => ?_
    exact nothing_aligned (define_aligned name hv)
  | lookup name => exact value_aligned (lookup_aligned name)
  | newScope outer =>
    simp only [Interface.respond, hd.scopeAt_eq]
    refine (newScope_aligned _).bind fun l _ e e' he => ?_
    subst he
    exact aligned_pure fun _ _ => .scope e
  | setComments on => exact nothing_aligned (setComments_aligned on)
  | listing scope =>
    simp only [Interface.respond, hd.scopeAt_eq]
    refine (listing_aligned _).bind fun l _ b b' hb => ?_
    subst hb
    exact aligned_pure fun _ _ => .listing b.1 b.2

structure DeskSpelt (t : SymbolTable) (d : Desk Session Value)
    (d' : Desk Named.Session Named.Value) : Prop where
  session : SessionSpelt t d.session d'.session
  values : Forall₂ (Spelt t) d.values d'.values
  scopes : d.scopes = d'.scopes

lemma DeskSpelt.begin {s : Session} {s' : Named.Session} (h : SessionSpelt t s s') :
    DeskSpelt t (Session.interface.begin s) (Named.Session.interface.begin s') :=
  ⟨h, .nil, congrArg ([·]) h.global⟩

lemma DeskSpelt.enterNames (h : DeskSpelt t d d') (names : List String) :
    ∃ l, DeskSpelt l (Session.interface.enterNames d names) d' := by
  obtain ⟨session, values, scopes⟩ := d
  obtain ⟨hsession, hvalues, hscopes⟩ := h
  induction names generalizing t session with
  | nil => exact ⟨t, hsession, hvalues, hscopes⟩
  | cons name names ih =>
    have hle : t ≤ (t.intern name).2 := t.le_intern name
    exact ih _ (hsession.intern name) (hvalues.imp fun _ _ hv => hv.mono hle) hscopes

lemma DeskSpelt.ask (h : DeskSpelt t d d') (q : Request) :
    (Session.interface.ask d q).1 = (Named.Session.interface.ask d' q).1 ∧
      ∃ l, DeskSpelt l (Session.interface.ask d q).2 (Named.Session.interface.ask d' q).2 := by
  have hd : DeskAlike t d d' := ⟨h.values, h.scopes, h.session.global⟩
  obtain ⟨l, hle, ho⟩ := respond_aligned hd q t le_rfl _ _ h.session
  have hvalues : Forall₂ (Spelt l) d.values d'.values := h.values.imp fun _ _ hv => hv.mono hle
  unfold Interface.ask
  generalize Session.interface.respond d q d.session = result at ho
  generalize Named.Session.interface.respond d' q d'.session = result' at ho
  cases ho with
  | ok hr hs =>
    cases hr with
    | nothing => exact ⟨rfl, l, hs, hvalues, h.scopes⟩
    | value hv =>
      refine ⟨?_, l, hs, rel_append hvalues (.cons hv .nil), h.scopes⟩
      exact congr (congrArg Answer.value hv.written_eq) hv.displayed_eq
    | scope e => exact ⟨rfl, l, hs, hvalues, congrArg (· ++ [e]) h.scopes⟩
    | listing bindings text => exact ⟨rfl, l, hs, hvalues, h.scopes⟩
  | error he hs => exact ⟨congrArg Answer.error he, l, hs, hvalues, h.scopes⟩

lemma named_enterNames (d : Desk Named.Session Named.Value) (names : List String) :
    Named.Session.interface.enterNames d names = d := by
  induction names with
  | nil => rfl
  | cons _ _ ih => exact ih

lemma DeskSpelt.transcript_eq (h : DeskSpelt t d d') (script : List (List String × Request)) :
    Session.interface.transcript d script = Named.Session.interface.transcript d' script := by
  induction script generalizing t d d' with
  | nil => rfl
  | cons step rest ih =>
    obtain ⟨names, q⟩ := step
    obtain ⟨l, hl⟩ := h.enterNames names
    obtain ⟨hanswer, k, hk⟩ := hl.ask q
    have houtput := hk.session.world.output
    simp only [Interface.transcript, named_enterNames, hanswer, ih hk]
    exact congrArg (fun text => (_, text) :: _) houtput

lemma named_transcript (d : Desk Named.Session Named.Value)
    (script : List (List String × Request)) :
    Named.Session.interface.transcript d script =
      Named.Session.interface.transcript d (script.map fun step => ([], step.2)) := by
  induction script generalizing d with
  | nil => rfl
  | cons step rest ih =>
    simp only [Interface.transcript, List.map_cons, named_enterNames]
    rw [ih]

end SpeltSession

/-- A session answers every script as the one without a symbol table does, and it answers the same
whatever further names are entered between the requests. -/
theorem transcript_eq_named (sink : Sink) (script : List (List String × Request)) :
    Session.interface.transcript (Session.interface.begin (Session.start sink)) script =
      Named.Session.interface.transcript
        (Named.Session.interface.begin (Named.Session.start sink)) script ∧
    Session.interface.transcript (Session.interface.begin (Session.start sink)) script =
      Session.interface.transcript (Session.interface.begin (Session.start sink))
        (script.map fun step => ([], step.2)) := by
  obtain ⟨t, ht⟩ := SessionSpelt.start sink
  have heq := fun script => (SpeltSession.DeskSpelt.begin ht).transcript_eq script
  refine ⟨heq script, ?_⟩
  rw [heq, heq, SpeltSession.named_transcript]

end SmallScheme
