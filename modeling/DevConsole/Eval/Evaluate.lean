/-
Evaluation of expressions.

Expressions are evaluated from left to right against a root value.  Names, members, casts,
constructions and assignments each run in a frame that bears their compact form; a failure that
arises in a frame takes the active frames with it, innermost first.  Operators and groups have no
frame.
-/
import DevConsole.Eval.Access
import DevConsole.Expr.Parser

namespace DevConsole

/-- What an evaluation goes by: the world, the rule for operators, and the root. -/
structure Context where
  world : World
  /-- Whether an operator that neither operand knows is a failure. -/
  strict : Bool
  root : Value

/-- The state of an evaluation: the objects, and the active frames, innermost first. -/
structure Run where
  store : Store
  frames : List String

/-- A computation over the state of an evaluation. -/
abbrev EvalM := Act Run

namespace EvalM

/-- Host code as a step of evaluation. -/
def host {α : Type} (a : HostM α) : EvalM α :=
  Act.onPart Run.store (fun s r => { r with store := s }) a

/-- A frame around a computation: failures that have no trace yet leave with the active frames. -/
def framed {α : Type} (label : String) (body : EvalM α) : EvalM α := fun r =>
  match body { r with frames := label :: r.frames } with
  | (.error (.failed e), r') =>
    (.error (.failed (e.traced r'.frames)), { r' with frames := r'.frames.tail })
  | (result, r') => (result, { r' with frames := r'.frames.tail })

end EvalM

namespace Context

variable (cx : Context)

/-- The value of a constant. -/
def constant : Literal → Value
  | .null => .null
  | .bool b => .bool b
  | .int i => .int i
  | .float x => .float x
  | .double x => .double x
  | .str s => .str s

/-- A number with its sign changed. -/
def negate (v : Value) : EvalM Value := do
  match v with
  | .int i => return .int (-i)
  | .float x => return .float (-x)
  | .double x => return .double (-x)
  | v =>
    let r ← Act.get
    Act.fail (cx.world.catalog.mismatch r.store "a number" v)

/-- A value as it is, or with its sign changed. -/
def signed (negative : Bool) (v : Value) : EvalM Value :=
  if negative then cx.negate v else pure v

/-- Apply an operator as a step of evaluation. -/
def operate (op : Operator) (l r : Value) : EvalM Value :=
  EvalM.host (cx.world.applyOperator cx.strict op l r)

/-- A value that must be a type; `expr` is the expression it came from. -/
def typeValue (expr : Expr) : Value → EvalM TypeRef
  | .type t => pure t
  | _ => Act.refuse (.notAType expr.text)

/-- Store the value of an assignment, after combining it with the current one if the assignment is
compound. -/
def store (op : Option Operator) (receiver : Value) (name : String) (v : Value) : EvalM Value := do
  match op with
  | none => EvalM.host (cx.world.writeMember receiver name v)
  | some op =>
    let current ← EvalM.host (cx.world.readMember receiver name)
    let combined ← cx.operate op current v
    EvalM.host (cx.world.writeMember receiver name combined)

mutual

/-- The value of an expression or, if `negative`, of the expression with its first operand negated:
the minus sign of `(T)-5 + 1` belongs to the five. -/
def evalSigned (negative : Bool) : Expr → EvalM Value
  | .literal l => cx.signed negative (constant l)
  | .group inner => do
    let v ← evalSigned false inner
    cx.signed negative v
  | .binary op left right => do
    let l ← evalSigned negative left
    match l with
    | .type t =>
      if !negative && op = .sub && left.isNameChainGroup then
        EvalM.framed (Expr.binary op left right).text do
          let v ← evalSigned true right
          EvalM.host (cx.world.cast v t)
      else
        let r ← evalSigned false right
        cx.operate op l r
    | _ =>
      let r ← evalSigned false right
      cx.operate op l r
  | .name n none => do
    let v ← EvalM.framed n (EvalM.host (cx.world.readName cx.root n))
    cx.signed negative v
  | .name n (some args) => do
    let v ← EvalM.framed (Expr.name n (some args)).text do
      let vs ← evalArgs args
      EvalM.host (cx.world.callMethod cx.root n vs)
    cx.signed negative v
  | .member target n none => do
    let v ← EvalM.framed (Expr.member target n none).text do
      let receiver ← evalSigned false target
      EvalM.host (cx.world.readMember receiver n)
    cx.signed negative v
  | .member target n (some args) => do
    let v ← EvalM.framed (Expr.member target n (some args)).text do
      let receiver ← evalSigned false target
      let vs ← evalArgs args
      EvalM.host (cx.world.callMethod receiver n vs)
    cx.signed negative v
  | .cast type operand => do
    let v ← EvalM.framed (Expr.cast type operand).text do
      let tv ← evalSigned false type
      let t ← typeValue type tv
      let v ← evalSigned false operand
      EvalM.host (cx.world.cast v t)
    cx.signed negative v
  | .new type args => do
    let v ← EvalM.framed (Expr.new type args).text do
      let tv ← evalSigned false type
      let t ← typeValue type tv
      let vs ← evalArgs args
      EvalM.host (cx.world.construct t vs)
    cx.signed negative v
  | .assign op (.name n none) value => do
    let v ← EvalM.framed (Expr.assign op (.name n none) value).text do
      let v ← evalSigned false value
      cx.store op cx.root n v
    cx.signed negative v
  | .assign op (.member target n none) value => do
    let v ← EvalM.framed (Expr.assign op (.member target n none) value).text do
      let receiver ← evalSigned false target
      let v ← evalSigned false value
      cx.store op receiver n v
    cx.signed negative v
  | .assign op target value =>
    EvalM.framed (Expr.assign op target value).text
      (Act.refuse (.evaluation ("cannot assign to '" ++ target.text ++ "'")))

/-- The values of arguments, from left to right. -/
def evalArgs : List Expr → EvalM (List Value)
  | [] => pure []
  | e :: es => do
    let v ← evalSigned false e
    let vs ← evalArgs es
    return v :: vs

end

/-- The value of an expression. -/
def eval (e : Expr) : EvalM Value := cx.evalSigned false e

/-- The value of an expression whose first operand is negated. -/
def evalNegated (e : Expr) : EvalM Value := cx.evalSigned true e

/-- Evaluate from a store, with no frame active. -/
def evalHost (e : Expr) : HostM Value := fun s =>
  let r := cx.eval e { store := s, frames := [] }
  (r.1, r.2.store)

end Context

/-- What a line of input gives: a value or, if it asks for them, the members of the value. -/
inductive Outcome where
  | value (v : Value)
  | members (es : List Entry)

/-- The value of a line: of its expression, else the root if members are asked for, else null. -/
def Context.lineValue (cx : Context) (l : Line) : HostM Value :=
  match l.expr with
  | some e => cx.evalHost e
  | none => pure (if l.introspect then cx.root else .null)

/-- Evaluate a parsed line. -/
def Context.evalLine (cx : Context) (l : Line) : HostM Outcome := do
  let v ← cx.lineValue l
  if l.introspect then
    let s ← Act.get
    return .members (cx.world.membersOf s v)
  else return .value v

/-- Parse and evaluate a line. -/
def Context.evaluate (cx : Context) (source : String) : HostM Outcome := do
  let l ← Act.ofExcept (Parser.parse source)
  cx.evalLine l

end DevConsole
