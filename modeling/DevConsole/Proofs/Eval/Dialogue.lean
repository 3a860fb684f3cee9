/-
# `DevConsole.Proofs.Eval.Dialogue` — evaluation as a dialogue with host code

An evaluation looks at objects and enters host code, and members carry that code as computations, so
what was entered, and with what, cannot be read off a result.  Here the same evaluation is written
down as a tree with the entries left open:

    done r        the end, with a value, a failure or a panic
    look k        the objects are looked at, and what follows depends on them
    call c k      host code is entered, and what follows depends on how it ended

The only way to host code is a `call`, and a call says more than host code is told: which arguments
were given, besides the values that they were turned into, and which type a cast goes to.  Running a
dialogue performs its calls in order (`Dialogue.run`), and `Dialogue.calls` lists the calls that
were performed, each with the objects as it found them.

Each step of evaluation that may enter host code has its dialogue, and so has each expression and
each line, built in the way the evaluator is built.  Active frames are passed down, as only failures
use them.
-/
import DevConsole.Eval.Evaluate

namespace DevConsole

/-! ## Calls -/

/-- One entry into host code. -/
inductive HostCall where
  | get (a : Accessor) (receiver : Value)
  | set (a : Accessor) (receiver v : Value)
  /-- A method, with the arguments as given and as bound to its parameters. -/
  | invoke (m : Method) (receiver : Value) (args bound : List Value)
  /-- A constructor of a type, likewise. -/
  | construct (t : TypeRef) (m : Method) (args bound : List Value)
  | apply (o : Overload) (l r : Value)
  /-- A conversion from the type of a value, for a cast to `t`. -/
  | convertTo (t : TypeRef) (c : Conversion) (v : Value)
  /-- A conversion into the type of a cast. -/
  | convertFrom (t : TypeRef) (c : Conversion) (v : Value)

/-- The host code behind a call.  A setter gives back the value that it was to store. -/
def HostCall.enter : HostCall → HostM Value
  | get a receiver => a.get receiver
  | set a receiver v => do
    a.write receiver v
    return v
  | invoke m receiver _ bound => m.invoke receiver bound
  | construct t m _ bound => m.invoke (.type t) bound
  | apply o l r => o.apply l r
  | convertTo _ c v => c.convert v
  | convertFrom _ c v => c.convert v

/-! ## Dialogues -/

/-- A computation with its entries into host code left open. -/
inductive Dialogue (α : Type) where
  | done (result : Except Abort α)
  | look (next : Store → Dialogue α)
  | call (c : HostCall) (next : Except Abort Value → Dialogue α)

namespace Dialogue

variable {α β : Type}

/-- Perform a dialogue. -/
def run : Dialogue α → HostM α
  | done result, s => (result, s)
  | look next, s => (next s).run s
  | call c next, s => (next (c.enter s).1).run (c.enter s).2

/-- The calls that performing a dialogue makes, in order, with the objects that each one found. -/
def calls : Dialogue α → Store → List (Store × HostCall)
  | done _, _ => []
  | look next, s => (next s).calls s
  | call c next, s => (s, c) :: (next (c.enter s).1).calls (c.enter s).2

/-- One dialogue after another; the second does not start if the first ends early. -/
protected def bind (f : α → Dialogue β) : Dialogue α → Dialogue β
  | done (.ok x) => f x
  | done (.error e) => done (.error e)
  | look next => look fun s => (next s).bind f
  | call c next => call c fun r => (next r).bind f

instance : Monad Dialogue where
  pure x := done (.ok x)
  bind p f := p.bind f

/-- Change how a dialogue ends. -/
def mapEnd (g : Except Abort α → Except Abort β) : Dialogue α → Dialogue β
  | done result => done (g result)
  | look next => look fun s => (next s).mapEnd g
  | call c next => call c fun r => (next r).mapEnd g

/-- End early with a failure. -/
def fail (f : Failure) : Dialogue α := done (.error (.failed f))

/-- End early with a failure of a cause. -/
def refuse (c : Cause) : Dialogue α := fail (.of c)

/-- A single call. -/
def enter (c : HostCall) : Dialogue Value := call c done

theorem run_bind (p : Dialogue α) (f : α → Dialogue β) (s : Store) :
    (p >>= f).run s =
      match p.run s with
      | (.ok x, s') => (f x).run s'
      | (.error e, s') => (.error e, s') := by
  show (p.bind f).run s = _
  induction p generalizing s with
  | done result => cases result <;> rfl
  | look next ih => exact ih s s
  | call c next ih => exact ih _ _

theorem calls_bind (p : Dialogue α) (f : α → Dialogue β) (s : Store) :
    (p >>= f).calls s = p.calls s ++
      match p.run s with
      | (.ok x, s') => (f x).calls s'
      | (.error _, _) => [] := by
  show (p.bind f).calls s = _
  induction p generalizing s with
  | done result => cases result <;> rfl
  | look next ih => exact ih s s
  | call c next ih => exact congrArg ((s, c) :: ·) (ih _ _)

/-- A call of two dialogues in sequence is one of the first or, if the first comes to its end, one
of the second. -/
theorem mem_calls_bind {p : Dialogue α} {f : α → Dialogue β} {s : Store} {e : Store × HostCall}
    (h : e ∈ (p >>= f).calls s) :
    e ∈ p.calls s ∨ ∃ x s', p.run s = (.ok x, s') ∧ e ∈ (f x).calls s' := by
  rw [calls_bind] at h
  rcases List.mem_append.1 h with h | h
  · exact .inl h
  · rcases hrun : p.run s with ⟨a | x, s'⟩
    · rw [hrun] at h
      exact absurd h List.not_mem_nil
    · rw [hrun] at h
      exact .inr ⟨x, s', rfl, h⟩

theorem run_mapEnd (g : Except Abort α → Except Abort β) (p : Dialogue α) (s : Store) :
    (p.mapEnd g).run s = (g (p.run s).1, (p.run s).2) := by
  induction p generalizing s with
  | done result => rfl
  | look next ih => exact ih s s
  | call c next ih => exact ih _ _

theorem calls_mapEnd (g : Except Abort α → Except Abort β) (p : Dialogue α) (s : Store) :
    (p.mapEnd g).calls s = p.calls s := by
  induction p generalizing s with
  | done result => rfl
  | look next ih => exact ih s s
  | call c next ih => exact congrArg ((s, c) :: ·) (ih _ _)

end Dialogue

/-! ## Dialogues of the steps that look at types -/

namespace World

variable (w : World)

/-- Reading a member. -/
def readDialogue (receiver : Value) (name : String) : Dialogue Value := .look fun s =>
  match s.receiverType receiver name with
  | .error f => .fail f
  | .ok (t, staticOnly) =>
    match w.find? t name with
    | some (.field a) | some (.property a) =>
      if staticOnly && !a.isStatic then .fail (w.instanceRequired t name)
      else .enter (.get a receiver)
    | some (.variant ordinal) => pure (.enum t ordinal)
    | some (.nested n) => pure (.type n)
    | none => .fail (w.unresolved t name)

/-- Reading an unqualified name. -/
def nameDialogue (root : Value) (name : String) : Dialogue Value :=
  (w.readDialogue root name).mapEnd fun
    | .error (.failed e) =>
      match Builtin.ofName? name with
      | some b => .ok (.type (.builtin b))
      | none => .error (.failed e)
    | r => r

/-- Writing a member. -/
def writeDialogue (receiver : Value) (name : String) (v : Value) : Dialogue Value := .look fun s =>
  match s.receiverType receiver name with
  | .error f => .fail f
  | .ok (t, staticOnly) =>
    let readOnly : Failure := .of (.readOnly (w.catalog.name t) name)
    match w.find? t name with
    | some (.field a) | some (.property a) =>
      if staticOnly && !a.isStatic then .fail (w.instanceRequired t name)
      else
        match a.set with
        | none => .fail readOnly
        | some _ =>
          match w.catalog.convert? s v (a.kind.resolve t) with
          | none => .fail (w.catalog.mismatch s (w.catalog.kindText (a.kind.resolve t)) v)
          | some converted => .enter (.set a receiver converted)
    | some (.variant _) | some (.nested _) => .fail readOnly
    | none => .fail (w.unresolved t name)

/-- Calling a method. -/
def callDialogue (receiver : Value) (name : String) (args : List Value) : Dialogue Value :=
  .look fun s =>
    match s.receiverType receiver name with
    | .error f => .fail f
    | .ok (t, staticOnly) =>
      let methods := w.methodsNamed t name
      if methods.isEmpty then .fail (w.unresolved t name)
      else
        let callable := methods.filter fun m => m.2.isStatic || !staticOnly
        if callable.isEmpty then .fail (w.instanceRequired t name)
        else
          match w.bindOverload? s callable args with
          | some (m, bound) => .enter (.invoke m receiver args bound)
          | none => .fail (w.noOverload s t name args)

/-- Constructing an object. -/
def constructDialogue (t : TypeRef) (args : List Value) : Dialogue Value := .look fun s =>
  match w.bindOverload? s ((w.members t).constructors.map (t, ·)) args with
  | some (m, bound) => .enter (.construct t m args bound)
  | none => .fail (w.noOverload s t "new" args)

/-- Casting a value. -/
def castDialogue (v : Value) (target : TypeRef) : Dialogue Value := .look fun s =>
  let kind := w.catalog.kindOf target
  if w.catalog.isAssignable s v kind then pure v
  else
    match (s.typeOf? v).bind (w.conversionTo? · kind) with
    | some c => .enter (.convertTo target c v)
    | none =>
      match w.conversionFrom? s target v with
      | some c => .enter (.convertFrom target c v)
      | none =>
        if w.catalog.isEnum target then pure ((w.catalog.convert? s v kind).getD v)
        else pure v

/-- Applying an operator. -/
def operatorDialogue (strict : Bool) (op : Operator) (l r : Value) : Dialogue Value :=
  .look fun s =>
    match w.overload? s op l r with
    | some o => .enter (.apply o l r)
    | none =>
      if op = .eq || op = .ne then pure (.bool (w.catalog.same l r == (op == .eq)))
      else if strict then .fail (Arithmetic.undefinedFor w.catalog s op l r)
      else pure r

end World

/-! ## Dialogues of expressions and lines -/

/-- A dialogue that depends on the active frames, innermost first. -/
abbrev FramedDialogue := ReaderT (List String) Dialogue

/-- A frame around a dialogue. -/
def FramedDialogue.within {α : Type} (label : String) (body : FramedDialogue α) :
    FramedDialogue α := fun frames =>
  (body (label :: frames)).mapEnd fun
    | .error (.failed e) => .error (.failed (e.traced (label :: frames)))
    | r => r

namespace Context

variable (cx : Context)

/-- Changing the sign of a value. -/
def signDialogue (negative : Bool) (v : Value) : Dialogue Value :=
  if negative then
    match v with
    | .int i => pure (.int (-i))
    | .float x => pure (.float (-x))
    | .double x => pure (.double (-x))
    | v => .look fun s => .fail (cx.world.catalog.mismatch s "a number" v)
  else pure v

/-- Applying an operator under the rule of the context. -/
def operateDialogue (op : Operator) (l r : Value) : Dialogue Value :=
  cx.world.operatorDialogue cx.strict op l r

/-- Asking for a type. -/
def typeDialogue (expr : Expr) : Value → Dialogue TypeRef
  | .type t => pure t
  | _ => .refuse (.notAType expr.text)

/-- Storing the value of an assignment. -/
def storeDialogue (op : Option Operator) (receiver : Value) (name : String) (v : Value) :
    Dialogue Value := do
  match op with
  | none => cx.world.writeDialogue receiver name v
  | some op =>
    let current ← cx.world.readDialogue receiver name
    let combined ← cx.operateDialogue op current v
    cx.world.writeDialogue receiver name combined

mutual

/-- The dialogue of an expression or, if `negative`, of the expression with its first operand
negated. -/
def signedDialogue (negative : Bool) : Expr → FramedDialogue Value
  | .literal l => cx.signDialogue negative (constant l)
  | .group inner => do
    let v ← signedDialogue false inner
    cx.signDialogue negative v
  | .binary op left right => do
    let l ← signedDialogue negative left
    match l with
    | .type t =>
      if !negative && op = .sub && left.isNameChainGroup then
        FramedDialogue.within (Expr.binary op left right).text do
          let v ← signedDialogue true right
          cx.world.castDialogue v t
      else
        let r ← signedDialogue false right
        cx.operateDialogue op l r
    | _ =>
      let r ← signedDialogue false right
      cx.operateDialogue op l r
  | .name n none => do
    let v ← FramedDialogue.within n (liftM (cx.world.nameDialogue cx.root n))
    cx.signDialogue negative v
  | .name n (some args) => do
    let v ← FramedDialogue.within (Expr.name n (some args)).text do
      let vs ← argsDialogue args
      cx.world.callDialogue cx.root n vs
    cx.signDialogue negative v
  | .member target n none => do
    let v ← FramedDialogue.within (Expr.member target n none).text do
      let receiver ← signedDialogue false target
      cx.world.readDialogue receiver n
    cx.signDialogue negative v
  | .member target n (some args) => do
    let v ← FramedDialogue.within (Expr.member target n (some args)).text do
      let receiver ← signedDialogue false target
      let vs ← argsDialogue args
      cx.world.callDialogue receiver n vs
    cx.signDialogue negative v
  | .cast type operand => do
    let v ← FramedDialogue.within (Expr.cast type operand).text do
      let tv ← signedDialogue false type
      let t ← typeDialogue type tv
      let v ← signedDialogue false operand
      cx.world.castDialogue v t
    cx.signDialogue negative v
  | .new type args => do
    let v ← FramedDialogue.within (Expr.new type args).text do
      let tv ← signedDialogue false type
      let t ← typeDialogue type tv
      let vs ← argsDialogue args
      cx.world.constructDialogue t vs
    cx.signDialogue negative v
  | .assign op (.name n none) value => do
    let v ← FramedDialogue.within (Expr.assign op (.name n none) value).text do
      let v ← signedDialogue false value
      cx.storeDialogue op cx.root n v
    cx.signDialogue negative v
  | .assign op (.member target n none) value => do
    let v ← FramedDialogue.within (Expr.assign op (.member target n none) value).text do
      let receiver ← signedDialogue false target
      let v ← signedDialogue false value
      cx.storeDialogue op receiver n v
    cx.signDialogue negative v
  | .assign op target value =>
    FramedDialogue.within (Expr.assign op target value).text
      (liftM (Dialogue.refuse
        (.evaluation ("cannot assign to '" ++ target.text ++ "'"))))

/-- The dialogue of arguments, from left to right. -/
def argsDialogue : List Expr → FramedDialogue (List Value)
  | [] => pure []
  | e :: es => do
    let v ← signedDialogue false e
    let vs ← argsDialogue es
    return v :: vs

end

/-- The dialogue for the value of a line, which starts with no frame active. -/
def valueDialogue (l : Line) : Dialogue Value :=
  match l.expr with
  | some e => cx.signedDialogue false e []
  | none => pure (if l.introspect then cx.root else .null)

/-- The dialogue of a parsed line. -/
def lineDialogue (l : Line) : Dialogue Outcome := do
  let v ← cx.valueDialogue l
  if l.introspect then .look fun s => pure (.members (cx.world.membersOf s v))
  else return .value v

/-- The dialogue of a line of text. -/
def dialogue (source : String) : Dialogue Outcome :=
  match Parser.parse source with
  | .ok l => cx.lineDialogue l
  | .error f => .fail f

end Context

end DevConsole
