/-
The console at work: a session connected to a host.

The host hands over events frame by frame.  Lines are dispatched to commands, which report what goes
wrong; completion evaluates the chain before the word, and a panic of host code there is the one
thing that can end the handling of an event early.
-/
import DevConsole.Command.Standard
import DevConsole.Session.Basic

namespace DevConsole

/-- What a console is connected to: the world with its root, and the commands. -/
structure Setup where
  context : Context
  registry : Registry

/-- A session together with the host. -/
structure Console where
  session : Session
  host : Host
deriving Repr

namespace Setup

/-- The connection of a fresh console to a world. -/
def new (c : Config) (world : World) (root : Value) : Setup :=
  let context : Context := { world := world, strict := c.strictOperators, root := root }
  { context := context, registry := Standard.registry context c.placeholder }

end Setup

namespace Console

/-- A fresh console. -/
def new (c : Config) (store : Store) : Console :=
  { session := .new c, host := { store := store } }

/-- Ask the host to switch its own input, if the configuration says so. -/
def switchInput (c : Console) (enabled : Bool) : Console :=
  if c.session.config.suppressInput then { c with host := c.host.request (.input enabled) } else c

/-- Add a log record. -/
def info (c : Console) (text : String) : Console :=
  { c with host := c.host.record .info text }

/-- Change the session. -/
def edit (c : Console) (f : Session → Session) : Console := { c with session := f c.session }

/-- Open the console, unless it closed earlier in this frame. -/
def reveal (c : Console) : Console :=
  if c.session.mayOpen then
    let opened := c.edit fun s => { s with isOpen := true, scroll := 0 }
    (opened.switchInput false).info "Console opened"
  else c

/-- Close the console. -/
def close (c : Console) : Console :=
  if c.session.isOpen then
    let closed := c.edit fun s =>
      { s.resetCompletion with isOpen := false, closedFrame := some s.frame }
    (closed.switchInput true).info "Console closed"
  else c

/-- Open a closed console, or close an open one. -/
def toggle (c : Console) : Console := if c.session.isOpen then c.close else c.reveal

/-- Run a line as a command. -/
def dispatchLine (setup : Setup) (line : String) (c : Console) : Dispatch × Console :=
  let r := setup.registry.dispatchLine c.session.config.palette line
    { host := c.host, scrollback := c.session.scrollback }
  (r.1, { session := { c.session with scrollback := r.2.scrollback }, host := r.2.host })

/-- Submit a line as if typed: remember it, echo it, and run it. -/
def submit (setup : Setup) (line : String) (c : Console) : Dispatch × Console :=
  dispatchLine setup line <| c.edit fun s =>
    { s with
      history := s.history.push line
      scrollback := s.scrollback.push ⟨"> " ++ line, s.config.palette.echoColor⟩ }

/-- Run the line bound to a function key, if there is one.  It is neither remembered nor echoed. -/
def fire (setup : Setup) (slot : Nat) (c : Console) : Console :=
  match c.session.binding? slot with
  | none => c
  | some line =>
    (dispatchLine setup line
      (c.info ("F" ++ Decimal.natText (slot + 1) ++ " -> " ++ line))).2

/-- Submit the line being edited, unless it is empty. -/
def enter (setup : Setup) (c : Console) : Console :=
  if c.session.buffer.isEmpty then c
  else
    (submit setup (String.ofList c.session.buffer)
      (c.edit fun s => { s.replaceLine [] with seek := none })).2

/-! ## Completion -/

/-- Run a computation over the objects inside a console. -/
def onStore {α : Type} (a : HostM α) : Act Console α :=
  Act.onPart (fun c => c.host.store) (fun s c => { c with host := { c.host with store := s } }) a

/-- The names of the members of a chain, none if it cannot be evaluated. -/
def memberNames (cx : Context) (chain : List Char) : HostM (List String) := fun s =>
  match cx.evaluate (String.ofList (chain ++ ['@'])) s with
  | (.ok (.members es), s') => (.ok (es.map (·.name)), s')
  | (.ok (.value _), s') => (.ok [], s')
  | (.error (.failed _), s') => (.ok [], s')
  | (.error (.panicked p), s') => (.error (.panicked p), s')

/-- The names that answer a question. -/
def answer (setup : Setup) : Completion.Question → HostM (List String)
  | .commands => pure setup.registry.names
  | .members chain => memberNames setup.context chain
  | .nothing => pure []

/-- The names for the next step of completion; none are needed during a run. -/
def names (setup : Setup) (c : Console) : HostM (List String) :=
  match c.session.completion.question? c.session.buffer c.session.cursor with
  | some q => answer setup q
  | none => pure []

/-- Complete the word at the cursor. -/
def tab (setup : Setup) (d : Direction) : Act Console Unit := do
  let c ← Act.get
  let ns ← onStore (names setup c)
  Act.modify (·.edit (·.complete ns d))

/-! ## Events -/

/-- Handle a key that is neither the toggle key nor bound to a slot, while open.  Every key but Tab
ends the completion run first. -/
def handleKey (setup : Setup) (key : Key) (shift : Bool) : Act Console Unit :=
  match key with
  | .tab => tab setup (if shift then .backward else .forward)
  | key => Act.modify fun c =>
    let c := c.edit (·.resetCompletion)
    match key with
    | .escape => c.close
    | .enter => c.enter setup
    | .backspace => c.edit (·.backspace)
    | .delete => c.edit (·.replaceLine [])
    | .up => c.edit (·.older)
    | .down => c.edit (·.newer)
    | .left => c.edit (·.left)
    | .right => c.edit (·.right)
    | .tab | .backquote | .function _ => c

/-- Handle a key press. -/
def handlePress (setup : Setup) (key : Key) (shift : Bool) : Act Console Unit := do
  let c ← Act.get
  if key = c.session.config.toggleKey then Act.modify toggle
  else
    match key.slot? with
    | some slot => Act.modify (fire setup slot)
    | none => if c.session.isOpen then handleKey setup key shift else pure ()

/-- Handle an event. -/
def handleEvent (setup : Setup) : InputEvent → Act Console Unit
  | .keyPress key shift => handlePress setup key shift
  | .text ch => Act.modify fun c => if c.session.isOpen then c.edit (·.insert ch) else c
  | .wheel delta => Act.modify fun c => if c.session.isOpen then c.edit (·.scrollBy delta) else c

/-- Handle events one after another. -/
def handleEvents (setup : Setup) : List InputEvent → Act Console Unit
  | [] => pure ()
  | e :: es => do
    handleEvent setup e
    handleEvents setup es

/-- Handle the events of one frame. -/
def update (setup : Setup) (events : List InputEvent) : Act Console Unit := do
  Act.modify (·.edit (·.beginFrame))
  handleEvents setup events

end Console

end DevConsole
