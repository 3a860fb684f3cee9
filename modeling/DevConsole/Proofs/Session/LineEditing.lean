/-
# `DevConsole.Proofs.Session.LineEditing` — the line is edited as two texts

The session keeps one line and a cursor that is counted from its end.  Its user sees two texts, what
stands before the cursor and what stands after it, and edits at the seam (`LineEditor`):

    text         the character comes behind the text before the cursor
    left         the last character before the cursor goes over to the text after it
    right        the first character after the cursor goes over to the text before it
    backspace    the last character before the cursor is taken away
    delete       both texts are emptied

In memory it is neither: the line is kept in UTF-8, and the place of an edit is a byte offset, which
has to be that of a character (`insertAt`, `removeAt`).

All three agree.  Each edit of the session is the one of the two texts (`Session.editor_…`), so that
any number of them are, by induction over the turns (`editor_takeAll`); and an edit of the line is the
one in memory, at an offset where a character begins (`insertAt_memory`, `removeAt_memory`).  What
both rest on is that the cursor stands within the line.
-/
import DevConsole.Proofs.Session.Typing

namespace DevConsole

/-! ## Two texts -/

/-- A line as two texts, what is before the cursor and what is after it. -/
structure LineEditor where
  before : List Char
  after : List Char
deriving Repr, DecidableEq

namespace LineEditor

/-- The keys that edit the line. -/
def keys : List Key := [.left, .right, .backspace, .delete]

/-- Whether a character is typed: control characters are not, and neither are those of the toggle
key. -/
def accepts (toggleKey : Key) (ch : Char) : Bool :=
  !Text.isControl ch && !(toggleKey = .backquote && (ch = '\x60' || ch = '~'))

/-- Type a character. -/
def type (e : LineEditor) (ch : Char) : LineEditor := ⟨e.before ++ [ch], e.after⟩

/-- Move the cursor over the character before it, if there is one. -/
def left (e : LineEditor) : LineEditor :=
  match e.before.getLast? with
  | some ch => ⟨e.before.dropLast, ch :: e.after⟩
  | none => e

/-- Move the cursor over the character after it, if there is one. -/
def right (e : LineEditor) : LineEditor :=
  match e.after with
  | ch :: rest => ⟨e.before ++ [ch], rest⟩
  | [] => e

theorem left_nil (after : List Char) : left ⟨[], after⟩ = ⟨[], after⟩ := rfl

theorem left_concat (front after : List Char) (ch : Char) :
    left ⟨front ++ [ch], after⟩ = ⟨front, ch :: after⟩ := by
  simp [left]

/-- Take away the character before the cursor, if there is one. -/
def backspace (e : LineEditor) : LineEditor := ⟨e.before.dropLast, e.after⟩

theorem backspace_type (e : LineEditor) (ch : Char) : (e.type ch).backspace = e := by
  rw [backspace, type, List.dropLast_concat]

/-- Empty the line. -/
def delete (_ : LineEditor) : LineEditor := ⟨[], []⟩

/-- What an operation does to the line. -/
def perform (toggleKey : Key) (e : LineEditor) : Operation → LineEditor
  | .event (.text ch) => if accepts toggleKey ch then e.type ch else e
  | .event (.keyPress .left _) => e.left
  | .event (.keyPress .right _) => e.right
  | .event (.keyPress .backspace _) => e.backspace
  | .event (.keyPress .delete _) => e.delete
  | _ => e

/-- What some operations do to the line, one after another. -/
def performAll (toggleKey : Key) (e : LineEditor) (ops : List Operation) : LineEditor :=
  ops.foldl (perform toggleKey) e

/-- Backspace undoes a typed character. -/
theorem performAll_backspace {toggleKey : Key} {ch : Char} (h : accepts toggleKey ch = true)
    (e : LineEditor) (shift : Bool) :
    e.performAll toggleKey [.event (.text ch), .event (.keyPress .backspace shift)] = e := by
  show backspace (if accepts toggleKey ch then e.type ch else e) = e
  rw [if_pos h, backspace_type]

end LineEditor

/-- The operation is an input that edits the line, or the beginning of a frame. -/
def Operation.Edits : Operation → Prop
  | beginFrame => True
  | event (.text _) => True
  | event (.keyPress key _) => key ∈ LineEditor.keys
  | _ => False

/-! ## Memory -/

namespace Utf8

/-- A text in memory with a character put in at a byte offset.  There is none if the offset is
within a character. -/
def insertAt (text : ByteArray) (offset : Nat) (ch : Char) : Option ByteArray :=
  if offset = text.size ∨ (text.utf8DecodeChar? offset).isSome then
    some (text.extract 0 offset ++ (String.utf8EncodeChar ch).toByteArray ++
      text.extract offset text.size)
  else none

/-- A text in memory without the character at a byte offset.  There is none if no character begins
there. -/
def removeAt (text : ByteArray) (offset : Nat) : Option ByteArray :=
  (text.utf8DecodeChar? offset).map fun ch =>
    text.extract 0 offset ++ text.extract (offset + ch.utf8Size) text.size

/-- Behind the bytes of one text, the first character of the next is read. -/
theorem utf8DecodeChar?_append (front back : ByteArray) :
    (front ++ back).utf8DecodeChar? front.size = back.utf8DecodeChar? 0 := by
  rw [ByteArray.utf8DecodeChar?_eq_utf8DecodeChar?_extract]
  congr 1
  exact ByteArray.extract_append_eq_right rfl ByteArray.size_append

theorem insertAt_utf8Encode (front back : List Char) (ch : Char) :
    insertAt (front ++ back).utf8Encode front.utf8Encode.size ch =
      some (front ++ ch :: back).utf8Encode := by
  have hboundary : front.utf8Encode.size = (front ++ back).utf8Encode.size ∨
      ((front ++ back).utf8Encode.utf8DecodeChar? front.utf8Encode.size).isSome = true := by
    cases back with
    | nil => exact .inl (by rw [List.append_nil])
    | cons next back =>
      rw [List.utf8Encode_append, utf8DecodeChar?_append, List.utf8DecodeChar?_utf8Encode_cons]
      exact .inr rfl
  rw [insertAt, if_pos hboundary, List.utf8Encode_append, ByteArray.extract_append_eq_left rfl,
    ByteArray.extract_append_eq_right rfl ByteArray.size_append, List.utf8Encode_append,
    @List.utf8Encode_cons ch back, List.utf8Encode_singleton, ByteArray.append_assoc]

theorem removeAt_utf8Encode (front back : List Char) (ch : Char) :
    removeAt (front ++ ch :: back).utf8Encode front.utf8Encode.size =
      some (front ++ back).utf8Encode := by
  have hch : ch.utf8Size = [ch].utf8Encode.size := by
    rw [List.utf8Encode_singleton, List.size_toByteArray, String.length_utf8EncodeChar]
  rw [removeAt, List.utf8Encode_append, utf8DecodeChar?_append,
    List.utf8DecodeChar?_utf8Encode_cons, Option.map_some, ByteArray.extract_append_eq_left rfl,
    List.utf8Encode_cons, ← ByteArray.append_assoc, hch, ← ByteArray.size_append,
    ByteArray.extract_append_eq_right rfl ByteArray.size_append, List.utf8Encode_append]

end Utf8

namespace Session

variable {s : Session} {ch : Char}

/-- The line as it is kept in memory. -/
def memory (s : Session) : ByteArray := (String.ofList s.buffer).toByteArray

/-- The byte offset of a character of the line, by the bytes of those before it. -/
def byteOffset (s : Session) (i : Nat) : Nat := (String.ofList (s.buffer.take i)).utf8ByteSize

/-- A typed character is put in at the cursor. -/
theorem insertAt_memory (h : s.Types ch) :
    Utf8.insertAt s.memory (s.byteOffset s.insertIndex) ch = some (s.insert ch).memory := by
  have hline := Utf8.insertAt_utf8Encode s.before s.after ch
  rw [before_append_after] at hline
  rw [insert_of_types h]
  exact hline

/-- Backspace takes away the character that ends at the cursor. -/
theorem removeAt_memory (h : 0 < s.insertIndex) :
    Utf8.removeAt s.memory (s.byteOffset (s.insertIndex - 1)) = some s.backspace.memory := by
  obtain ⟨front, ch, hbefore⟩ : ∃ front ch, s.before = front ++ [ch] := by
    refine (List.eq_nil_or_concat' s.before).resolve_left fun hnil => ?_
    rw [← length_before, hnil] at h
    exact Nat.lt_irrefl 0 h
  have hbuffer : s.buffer = front ++ ch :: s.after := by
    rw [← before_append_after, hbefore, List.append_assoc, List.singleton_append]
  have hindex : s.insertIndex - 1 = front.length := by
    rw [← length_before, hbefore, List.length_append, List.length_singleton, Nat.add_sub_cancel]
  have hbackspace : s.backspace.buffer = front ++ s.after := by
    rw [backspace, hbefore, List.dropLast_concat]
  rw [memory, byteOffset, hindex, hbuffer, List.take_left, memory, hbackspace]
  exact Utf8.removeAt_utf8Encode front s.after ch

/-! ## The session -/

/-- The line of a session as two texts. -/
def editor (s : Session) : LineEditor := ⟨s.before, s.after⟩

theorem editor_eq {before after : List Char} (hbuffer : s.buffer = before ++ after)
    (hcursor : s.cursor = after.length) : s.editor = ⟨before, after⟩ := by
  have hindex : s.insertIndex = before.length := by
    rw [insertIndex, hbuffer, hcursor, List.length_append, Nat.add_sub_cancel]
  rw [editor, Session.before, Session.after, hindex, hbuffer, List.take_left, List.drop_left]

theorem accepts_iff_types : LineEditor.accepts s.config.toggleKey ch = true ↔ s.Types ch := by
  unfold LineEditor.accepts Types isToggleChar
  rw [Bool.and_eq_true, Bool.not_eq_true', Bool.not_eq_true']

theorem editor_insert (hs : s.cursor ≤ s.buffer.length) (ch : Char) :
    (s.insert ch).editor =
      if LineEditor.accepts s.config.toggleKey ch then s.editor.type ch else s.editor := by
  split
  · rename_i haccepts
    have htypes := accepts_iff_types.1 haccepts
    rw [editor, before_insert hs htypes, after_insert hs htypes]
    rfl
  · rename_i hrefuses
    have hrefused : (Text.isControl ch || s.isToggleChar ch) = true := by
      refine Bool.of_not_eq_false fun h => hrefuses (accepts_iff_types.2 ?_)
      exact Bool.or_eq_false_iff.1 h
    rw [insert, if_pos hrefused]

theorem editor_backspace (hs : s.cursor ≤ s.buffer.length) :
    s.backspace.editor = s.editor.backspace :=
  editor_eq rfl (length_after hs).symm

theorem editor_replaceLine_nil (s : Session) : (s.replaceLine []).editor = s.editor.delete :=
  editor_eq rfl rfl

theorem editor_left (hs : s.cursor ≤ s.buffer.length) : s.left.editor = s.editor.left := by
  have hafter := length_after hs
  have hline := s.before_append_after
  have hlength := congrArg List.length hline
  rw [List.length_append, hafter] at hlength
  rcases List.eq_nil_or_concat' s.before with hbefore | ⟨front, ch, hbefore⟩
  · -- the cursor is at the start of the line and stays there
    have heditor : s.editor = ⟨[], s.after⟩ := congrArg (LineEditor.mk · s.after) hbefore
    rw [hbefore] at hline hlength
    rw [heditor, LineEditor.left_nil]
    refine editor_eq hline.symm ?_
    show min (s.cursor + 1) s.buffer.length = s.after.length
    rw [hafter, ← hlength, List.length_nil]
    omega
  · have heditor : s.editor = ⟨front ++ [ch], s.after⟩ :=
      congrArg (LineEditor.mk · s.after) hbefore
    rw [hbefore] at hline hlength
    rw [heditor, LineEditor.left_concat]
    refine editor_eq (hline.symm.trans (List.append_cons _ _ _).symm) ?_
    show min (s.cursor + 1) s.buffer.length = (ch :: s.after).length
    rw [List.length_cons, hafter, ← hlength, List.length_append, List.length_singleton]
    omega

theorem editor_right (hs : s.cursor ≤ s.buffer.length) : s.right.editor = s.editor.right := by
  have hcursor := length_after hs
  have hline := s.before_append_after
  cases hafter : s.after with
  | nil =>
    have heditor : s.editor = ⟨s.before, []⟩ := congrArg (LineEditor.mk s.before) hafter
    rw [hafter] at hcursor hline
    rw [heditor, LineEditor.right]
    refine editor_eq hline.symm ?_
    show s.cursor - 1 = 0
    rw [← hcursor]
    rfl
  | cons ch rest =>
    have heditor : s.editor = ⟨s.before, ch :: rest⟩ := congrArg (LineEditor.mk s.before) hafter
    rw [hafter] at hcursor hline
    rw [heditor, LineEditor.right]
    refine editor_eq (hline.symm.trans (List.append_cons _ _ _)) ?_
    show s.cursor - 1 = rest.length
    rw [← hcursor]
    rfl

end Session

/-! ## Turns -/

namespace Turn

variable {s : Session}

/-- A character that is typed into an open console. -/
theorem take_text {t : Turn} {ch : Char} (ht : t.operation = .event (.text ch))
    (hopen : s.isOpen = true) : t.take s = s.insert ch := by
  rw [take_event ht]
  show (if s.isOpen then _ else _ : Console).session = _
  rw [if_pos hopen]
  rfl

/-- An editing key that is pressed in an open console. -/
theorem take_editKey {t : Turn} {key : Key} {shift : Bool}
    (ht : t.operation = .event (.keyPress key shift)) (hmem : key ∈ LineEditor.keys)
    (hkey : s.config.toggleKey ∉ LineEditor.keys) (hopen : s.isOpen = true) :
    t.take s = ((Console.handleKey t.setup key shift).run ⟨s, t.host⟩).2.session := by
  have hslot : ∀ key ∈ LineEditor.keys, key.slot? = none := by decide
  exact take_keyPress ht (fun heq => hkey (heq ▸ hmem)) (hslot key hmem) hopen

/-- An editing turn does to the line what the two texts say, and the console stays open. -/
theorem editor_take {t : Turn} (ht : t.operation.Edits)
    (hkey : s.config.toggleKey ∉ LineEditor.keys) (hopen : s.isOpen = true)
    (hs : s.cursor ≤ s.buffer.length) :
    (t.take s).editor = s.editor.perform s.config.toggleKey t.operation ∧
      (t.take s).isOpen = true := by
  cases hop : t.operation with
  | beginFrame =>
    rw [take, hop]
    exact ⟨rfl, hopen⟩
  | event e =>
    rw [hop] at ht
    cases e with
    | text ch =>
      rw [take_text hop hopen]
      exact ⟨Session.editor_insert hs ch, (Console.isOpen_insert s ch).trans hopen⟩
    | keyPress key shift =>
      rw [take_editKey hop ht hkey hopen]
      cases key with
      | left => exact ⟨Session.editor_left (s := s.resetCompletion) hs, hopen⟩
      | right => exact ⟨Session.editor_right (s := s.resetCompletion) hs, hopen⟩
      | backspace => exact ⟨Session.editor_backspace (s := s.resetCompletion) hs, hopen⟩
      | delete => exact ⟨s.resetCompletion.editor_replaceLine_nil, hopen⟩
      | _ => simp [Operation.Edits, LineEditor.keys] at ht
    | wheel delta => exact ht.elim
  | _ =>
    rw [hop] at ht
    exact ht.elim

theorem sound_take {cfg : Config} (t : Turn) (hs : s.Sound cfg) : (t.take s).Sound cfg :=
  ((t.take_turned s).sound hs).1

/-- Any number of editing turns do to the line what the two texts say. -/
theorem editor_takeAll {cfg : Config} (hs : s.Sound cfg)
    (hkey : s.config.toggleKey ∉ LineEditor.keys) (hopen : s.isOpen = true) {us : List Turn}
    (hus : ∀ u ∈ us, u.operation.Edits) :
    (takeAll s us).editor = s.editor.performAll s.config.toggleKey (us.map (·.operation)) := by
  induction us generalizing s with
  | nil => rfl
  | cons u us ih =>
    obtain ⟨hu, hus⟩ := List.forall_mem_cons.1 hus
    obtain ⟨heditor, hopen'⟩ := editor_take hu hkey hopen hs.cursor_le
    have hconfig : (u.take s).config = s.config := config_takeAll s [u]
    have hrest := ih (u.sound_take hs) (hconfig ▸ hkey) hopen' hus
    rw [hconfig, heditor] at hrest
    exact hrest

/-- Whatever has been done to a session, while it is open its line is edited as two texts are: after
any input that edits the line, they make up the buffer, and the second begins at the cursor.  So
Backspace after a typed character leaves everything as it was.  In memory, a typed character goes in
at the byte offset of the cursor, and Backspace takes out the character before it; the offset is
never within a character. -/
theorem edits_line {cfg : Config} (hkey : cfg.toggleKey ∉ LineEditor.keys) {ts : List Turn}
    (hopen : (takeAll (.new cfg) ts).isOpen = true) :
    let s := takeAll (.new cfg) ts
    (∀ us : List Turn, (∀ u ∈ us, u.operation.Edits) →
      let e := LineEditor.performAll cfg.toggleKey ⟨s.before, s.after⟩ (us.map (·.operation))
      (takeAll s us).buffer = e.before ++ e.after ∧ (takeAll s us).cursor = e.after.length) ∧
    (∀ (t u : Turn) (ch : Char) (shift : Bool), LineEditor.accepts cfg.toggleKey ch = true →
      t.operation = .event (.text ch) → u.operation = .event (.keyPress .backspace shift) →
      (takeAll s [t, u]).buffer = s.buffer ∧ (takeAll s [t, u]).cursor = s.cursor) ∧
    (∀ (t : Turn) (ch : Char), LineEditor.accepts cfg.toggleKey ch = true →
      t.operation = .event (.text ch) →
      Utf8.insertAt s.memory (s.byteOffset s.insertIndex) ch = some (t.take s).memory) ∧
    (∀ (u : Turn) (shift : Bool), 0 < s.insertIndex →
      u.operation = .event (.keyPress .backspace shift) →
      Utf8.removeAt s.memory (s.byteOffset (s.insertIndex - 1)) = some (u.take s).memory) := by
  intro s
  have hs : s.Sound cfg := sound_takeAll cfg ts
  have hconfig : s.config = cfg := config_takeAll _ ts
  have hkey' : s.config.toggleKey ∉ LineEditor.keys := hconfig ▸ hkey
  have hline : ∀ us : List Turn, (∀ u ∈ us, u.operation.Edits) →
      let e := s.editor.performAll cfg.toggleKey (us.map (·.operation))
      (takeAll s us).buffer = e.before ++ e.after ∧ (takeAll s us).cursor = e.after.length := by
    intro us hus
    have heditor := editor_takeAll hs hkey' hopen hus
    have hsound : (takeAll s us).Sound cfg := by
      rw [← takeAll_append]
      exact sound_takeAll cfg (ts ++ us)
    rw [hconfig] at heditor
    rw [← heditor]
    exact ⟨(Session.before_append_after _).symm, (Session.length_after hsound.cursor_le).symm⟩
  refine ⟨hline, ?_, ?_, ?_⟩
  · intro t u ch shift haccepts ht hu
    have hedits : ∀ v ∈ [t, u], v.operation.Edits := by
      simp [ht, hu, Operation.Edits, LineEditor.keys]
    have hback : s.editor.performAll cfg.toggleKey ([t, u].map (·.operation)) = s.editor := by
      rw [List.map_cons, List.map_singleton, ht, hu]
      exact LineEditor.performAll_backspace haccepts s.editor shift
    obtain ⟨hbuffer, hcursor⟩ := hline [t, u] hedits
    obtain ⟨hbuffer₀, hcursor₀⟩ := hline [] (List.forall_mem_nil _)
    rw [hback] at hbuffer hcursor
    exact ⟨hbuffer.trans hbuffer₀.symm, hcursor.trans hcursor₀.symm⟩
  · intro t ch haccepts ht
    rw [take_text ht hopen]
    rw [← hconfig] at haccepts
    exact Session.insertAt_memory (Session.accepts_iff_types.1 haccepts)
  · intro u shift hindex hu
    rw [take_editKey hu (by decide) hkey' hopen]
    exact Session.removeAt_memory (s := s.resetCompletion) hindex

/-- Input of the game's console. -/
def input (es : List InputEvent) : List Turn :=
  es.map fun e => ⟨.new {} Game.world .null, {}, .event e⟩

/-- The toggle key is pressed. -/
def opening : List Turn := input [.press .backquote]

/-- A word with an accent is typed, and the accented letter taken away from within it. -/
def accent : List Turn :=
  input (['h', 'é', 'l', 'l', 'o'].map .text ++
    [.press .left, .press .left, .press .left, .press .backspace])

/-- The letter is gone, and the cursor stands where it was. -/
theorem edits_line_accent :
    ({} : Config).toggleKey ∉ LineEditor.keys ∧ (takeAll (.new {}) opening).isOpen = true ∧
      (∀ u ∈ accent, u.operation.Edits) ∧
      (takeAll (takeAll (.new {}) opening) accent).buffer = ['h', 'l', 'l', 'o'] ∧
      (takeAll (takeAll (.new {}) opening) accent).cursor = 3 := by
  have hkey : ({} : Config).toggleKey ∉ LineEditor.keys := by decide
  have hopen : (takeAll (.new {}) opening).isOpen = true := rfl
  have hedits : ∀ u ∈ accent, u.operation.Edits := by
    simp [accent, input, InputEvent.press, Operation.Edits, LineEditor.keys]
  obtain ⟨hbuffer, hcursor⟩ := (edits_line hkey hopen).1 accent hedits
  have hline : LineEditor.performAll ({} : Config).toggleKey
      ⟨(takeAll (.new {}) opening).before, (takeAll (.new {}) opening).after⟩
      (accent.map (·.operation)) = ⟨['h'], ['l', 'l', 'o']⟩ := rfl
  rw [hline] at hbuffer hcursor
  exact ⟨hkey, hopen, hedits, hbuffer, hcursor⟩

end Turn

end DevConsole
