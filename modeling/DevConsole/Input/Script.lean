/-
Frames of input written as text.

A line stands for the events of one frame: its characters are typed, and a name in angle brackets
presses that key instead.  A line whose last event is a character is submitted with Enter.  An
angle bracket that opens no key name is a character like any other.
-/
import DevConsole.Input.Key
import DevConsole.Text.Split

namespace DevConsole

namespace Script

/-- The key names between angle brackets, function keys apart. -/
def keyNames : List (String × Key) :=
  [("toggle", .backquote), ("\x60", .backquote), ("esc", .escape), ("enter", .enter),
    ("bs", .backspace), ("del", .delete), ("tab", .tab), ("up", .up), ("down", .down),
    ("left", .left), ("right", .right)]

/-- A key by its name in lower case: a listed one, or `f` and a number of at most 255. -/
def key? (name : List Char) : Option Key :=
  match keyNames.lookup (String.ofList name) with
  | some k => some k
  | none =>
    match name with
    | 'f' :: ds => (Decimal.readNatUpTo 255 ds).map fun n => .function (UInt8.ofNat n)
    | _ => none

/-- The event that a name between angle brackets stands for, read without regard to case. -/
def event? (token : List Char) : Option InputEvent :=
  match token.map Char.toLower with
  | 'w' :: 'h' :: 'e' :: 'e' :: 'l' :: delta => (Decimal.readIntOfWidth 32 delta).map .wheel
  | 's' :: '-' :: name => (key? name).map (.keyPress · true)
  | name => (key? name).map (.keyPress · false)

/-- The event at the start of what follows an opening bracket, and the text after its closing
bracket. -/
def tagged? (cs : List Char) : Option (InputEvent × List Char) :=
  match Text.splitOnce '>' cs with
  | some (token, rest) => (event? token).map (·, rest)
  | none => none

theorem splitOnce_length {x : Char} {cs a b : List Char} (h : Text.splitOnce x cs = some (a, b)) :
    b.length < cs.length := by
  induction cs generalizing a b with
  | nil => simp [Text.splitOnce] at h
  | cons c cs ih =>
    unfold Text.splitOnce at h
    split at h
    · simp only [Option.some.injEq, Prod.mk.injEq] at h
      simp [← h.2]
    · simp only [Option.map_eq_some_iff] at h
      obtain ⟨⟨a', b'⟩, hs, hab⟩ := h
      simp only [Prod.mk.injEq] at hab
      have := ih hs
      simp only [List.length_cons, ← hab.2]
      omega

/-- A bracketed name is consumed with its closing bracket. -/
theorem tagged?_length {cs rest : List Char} {e : InputEvent} (h : tagged? cs = some (e, rest)) :
    rest.length < cs.length := by
  unfold tagged? at h
  split at h
  · rename_i hs
    simp only [Option.map_eq_some_iff, Prod.mk.injEq] at h
    obtain ⟨_, _, _, rfl⟩ := h
    exact splitOnce_length hs
  · simp at h

/-- The events written in a line, without the closing Enter. -/
def eventsFrom : List Char → List InputEvent
  | [] => []
  | c :: cs =>
    if c = '<' then
      match h : tagged? cs with
      | some (e, rest) =>
        have : rest.length < cs.length := tagged?_length h
        e :: eventsFrom rest
      | none => .text c :: eventsFrom cs
    else .text c :: eventsFrom cs
termination_by cs => cs.length

/-- Whether a frame ends in a typed character. -/
def endsTyping (es : List InputEvent) : Bool :=
  match es.getLast? with
  | some (.text _) => true
  | _ => false

/-- The events of one line of input. -/
def lineEvents (line : List Char) : List InputEvent :=
  let es := eventsFrom line
  if endsTyping es then es ++ [.press .enter] else es

end Script

end DevConsole
