/-
# `DevConsole.Proofs.Command.Report` — what dispatch reports

A line runs the action of one command at most, and once.  What the caller gets is read off how that
action ended (`Registry.conclude`), and off nothing else:

    no command has the name     `unknownCommand`     one line, with the name as it was written
    it ended normally           `completed`          nothing
    it failed                   `failed`             its message, then a line for each frame
    it panicked                 `failed`             one line, with the command and the payload

Lines are added behind what the action printed.  Dispatch adds them one by one; here they stand in
one piece (`Environment.reporting`), so that it can be seen what is in the scrollback afterwards and
that nothing but the scrollback and the log has changed.

The name is the first word of the line, found without cutting the line into words
(`Text.Begins`): what comes before it is blank, and what comes after it begins with a blank.
-/
import DevConsole.Command.Registry

namespace DevConsole

/-! ## The first word of a text -/

namespace Text

/-- Some characters, none of them blank. -/
structure IsWord (w : List Char) : Prop where
  ne_nil : w ≠ []
  not_isBlank : ∀ c ∈ w, isBlank c = false

/-- A text begins with a word, behind blanks, and the rest keeps apart from the word. -/
structure Begins (cs word rest : List Char) : Prop where
  isWord : IsWord word
  apart : ∀ c ∈ rest.head?, isBlank c = true
  eq : ∃ blanks, (∀ c ∈ blanks, isBlank c = true) ∧ cs = blanks ++ word ++ rest

theorem words_append_blank {c : Char} (hc : isBlank c = true) (xs ys : List Char) :
    words (xs ++ c :: ys) = words xs ++ words ys := by
  rw [words, splitBy_append_cons hc, List.filter_append]
  rfl

theorem words_of_blank {cs : List Char} (h : ∀ c ∈ cs, isBlank c = true) : words cs = [] := by
  induction cs with
  | nil => rfl
  | cons c cs ih =>
    obtain ⟨hc, hcs⟩ := List.forall_mem_cons.1 h
    exact (words_append_blank hc [] cs).trans (ih hcs)

theorem IsWord.words_append {w : List Char} (hw : IsWord w) {rest : List Char}
    (hrest : ∀ c ∈ rest.head?, isBlank c = true) : words (w ++ rest) = w :: words rest := by
  have halone : words w = [w] := by
    rw [words, splitBy_eq_singleton hw.not_isBlank]
    simp [hw.ne_nil]
  cases rest with
  | nil => rw [List.append_nil, halone]; rfl
  | cons c rest =>
    have hc : isBlank c = true := hrest c rfl
    rw [words_append_blank hc, halone]
    exact congrArg (w :: ·) (words_append_blank hc [] rest).symm

/-- The words of a text are its first word, and the words of the rest. -/
theorem Begins.words_eq {cs word rest : List Char} (h : Begins cs word rest) :
    words cs = word :: words rest := by
  obtain ⟨blanks, hblanks, heq⟩ := h.eq
  rw [heq, List.append_assoc, ← h.isWord.words_append h.apart]
  clear heq
  induction blanks with
  | nil => rfl
  | cons c blanks ih =>
    obtain ⟨hc, hblanks⟩ := List.forall_mem_cons.1 hblanks
    exact (words_append_blank hc [] _).trans (ih hblanks)

/-- A text is blank, or begins with a word. -/
theorem blank_or_begins (cs : List Char) :
    (∀ c ∈ cs, isBlank c = true) ∨ ∃ word rest, Begins cs word rest := by
  induction cs with
  | nil => exact .inl nofun
  | cons c cs ih =>
    by_cases hc : isBlank c = true
    · obtain hblank | ⟨word, rest, hword, hrest, blanks, hblanks, rfl⟩ := ih
      · exact .inl (List.forall_mem_cons.2 ⟨hc, hblank⟩)
      · exact .inr ⟨word, rest, hword, hrest, c :: blanks,
          List.forall_mem_cons.2 ⟨hc, hblanks⟩, rfl⟩
    · have hrun : ∀ x ∈ cs.takeWhile (!isBlank ·), isBlank x = false := by
        intro x hx
        simpa using List.all_eq_true.1 List.all_takeWhile x hx
      have hrest : ∀ x ∈ (cs.dropWhile (!isBlank ·)).head?, isBlank x = true := by
        intro x hx
        have hstop := List.head?_dropWhile_not (!isBlank ·) cs
        rw [Option.mem_def.1 hx] at hstop
        simpa using hstop
      refine .inr ⟨c :: cs.takeWhile (!isBlank ·), cs.dropWhile (!isBlank ·), ⟨nofun, ?_⟩, hrest,
        [], nofun, ?_⟩
      · exact List.forall_mem_cons.2 ⟨by simpa using hc, hrun⟩
      · simp [List.takeWhile_append_dropWhile]

end Text

/-! ## A report in one piece -/

namespace Environment

/-- The environment after some lines in the error color, each of them logged as well. -/
def reporting (palette : Palette) (env : Environment) (texts : List String) : Environment where
  host := { env.host with log := env.host.log ++ texts.map (LogRecord.mk .warn) }
  scrollback := { env.scrollback with
    lines := ((texts.map (OutputLine.mk · palette.errorColor)).reverse ++
      env.scrollback.lines).take env.scrollback.capacity }

theorem reportLine_eq (palette : Palette) (env : Environment) (text : String) :
    env.reportLine palette text = env.reporting palette [text] := rfl

/-- A line, and then some more, are reported in one piece. -/
theorem reporting_reportLine (palette : Palette) (env : Environment) (text : String)
    (texts : List String) :
    (env.reportLine palette text).reporting palette texts =
      env.reporting palette (text :: texts) := by
  simp [reporting, reportLine, record, print, Host.record, Scrollback.push,
    Scrollback.take_append_take]

/-- A report shows the message and then the frames. -/
theorem report_eq (env : Environment) (palette : Palette) (f : Failure) :
    env.report palette f = env.reporting palette (reportLines f) := by
  have hfold (texts : List String) : ∀ (text : String) (env : Environment),
      (text :: texts).foldl (reportLine palette) env = env.reporting palette (text :: texts) := by
    induction texts with
    | nil => exact fun text env => reportLine_eq palette env text
    | cons next texts ih =>
      intro text env
      exact (ih next (env.reportLine palette text)).trans
        (reporting_reportLine palette env text (next :: texts))
  exact hfold _ f.message env

end Environment

/-! ## Dispatch -/

namespace Registry

/-- What the caller of dispatch gets, from how the action of a command ended. -/
def conclude (palette : Palette) (name : String) :
    Except Abort Unit × Environment → Dispatch × Environment
  | (.ok (), after) => (.completed, after)
  | (.error a, after) =>
    (.failed, after.reporting palette (Environment.reportLines (failureOf name a)))

variable {r : Registry} {palette : Palette} {env : Environment}

theorem get?_eq_none_iff {name : String} :
    r.get? name = none ↔ ∀ c ∈ r.commands, Command.key c.name ≠ Command.key name := by
  simp [get?]

theorem mem_and_key_of_get? {name : String} {c : Command} (h : r.get? name = some c) :
    c ∈ r.commands ∧ Command.key c.name = Command.key name :=
  ⟨List.mem_of_find?_eq_some h, by simpa using List.find?_some h⟩

/-- A name that no command has is reported. -/
theorem dispatch_of_get?_eq_none {name : String} (h : r.get? name = none) (words : List String) :
    r.dispatch palette name words env =
      (.unknownCommand, env.reporting palette [(Cause.unknownCommand name).message]) := by
  rw [dispatch, h]
  rfl

/-- A command that is found is run, once, and its end is what the caller is told. -/
theorem dispatch_of_get?_eq_some {name : String} {c : Command} (h : r.get? name = some c)
    (words : List String) :
    r.dispatch palette name words env =
      conclude palette c.name ((r.perform palette c (Args.coerce c.params words)).run env) := by
  rw [dispatch, h]
  simp only
  rcases (r.perform palette c (Args.coerce c.params words)).run env with ⟨a | ⟨⟩, after⟩
  · exact congrArg (Dispatch.failed, ·) (after.report_eq palette (failureOf c.name a))
  · rfl

theorem dispatchLine_of_blank {line : String}
    (h : ∀ c ∈ line.toList, Text.isBlank c = true) :
    r.dispatchLine palette line env = (.completed, env) := by
  rw [dispatchLine, Text.words_of_blank h]
  rfl

theorem dispatchLine_of_begins {line : String} {word rest : List Char}
    (h : Text.Begins line.toList word rest) :
    r.dispatchLine palette line env =
      r.dispatch palette (.ofList word) ((Text.words rest).map .ofList) env := by
  rw [dispatchLine, h.words_eq]
  rfl

/-- The message for an unknown name shows the name. -/
theorem infix_unknownCommand (name : String) :
    name.toList <:+: (Cause.unknownCommand name).message.toList := by
  unfold Cause.message
  rw [String.toList_append, String.toList_append]
  exact List.infix_append _ _ _

/-- The message for a panic shows the command and the payload. -/
theorem infix_panicked (name : String) (p : Panic) :
    name.toList <:+: (Cause.command (name ++ " panicked: " ++ p.message)).message.toList ∧
      p.message.toList <:+:
        (Cause.command (name ++ " panicked: " ++ p.message)).message.toList := by
  unfold Cause.message
  simp only [String.toList_append, List.append_assoc]
  exact ⟨(List.prefix_append _ _).isInfix.trans (List.suffix_append _ _).isInfix,
    ((List.suffix_append _ _).trans (List.suffix_append _ _)).isInfix.trans
      (List.suffix_append _ _).isInfix⟩

/-- What a command runs on some arguments: its handler, or help on the name that is asked for. -/
inductive Acts (r : Registry) (palette : Palette) (args : Args) :
    Action → Act Environment Unit → Prop where
  | help : Acts r palette args .help (r.help palette (args.str "name"))
  | run (handler : Handler) : Acts r palette args (.run handler) (handler palette args)

theorem acts_iff {c : Command} {args : Args} {act : Act Environment Unit} :
    r.Acts palette args c.action act ↔ act = r.perform palette c args := by
  unfold perform
  generalize c.action = action
  constructor
  · rintro (_ | _) <;> rfl
  · rintro rfl
    cases action with
    | help => exact .help
    | run handler => exact .run handler

/-- Dispatch reports every failure, and nothing else.  Nothing happens for a blank line.  For any
other, either no command has its first word as a name, which is reported in one line with the word
as it was written, or one command has, and its handler, or help, is run with the values that the
other words are fitted to.  When the run ends normally, what it leaves is what there is; when it
fails or panics, the report of that is all that is added. -/
theorem dispatchLine_reports (r : Registry) (palette : Palette) (line : String)
    (env : Environment) :
    ((∀ c ∈ line.toList, Text.isBlank c = true) ∧
      r.dispatchLine palette line env = (.completed, env)) ∨
    ∃ word rest, Text.Begins line.toList word rest ∧
      (((∀ c ∈ r.commands, Command.key c.name ≠ Command.key (.ofList word)) ∧
        ∃ text : String, word <:+: text.toList ∧
          r.dispatchLine palette line env = (.unknownCommand, env.reporting palette [text])) ∨
      ∃ c ∈ r.commands, Command.key c.name = Command.key (.ofList word) ∧
        r.get? (.ofList word) = some c ∧
        ∃ act, r.Acts palette (Args.coerce c.params ((Text.words rest).map .ofList)) c.action act ∧
          match act.run env with
          | (.ok (), after) => r.dispatchLine palette line env = (.completed, after)
          | (.error (.failed f), after) =>
            r.dispatchLine palette line env =
              (.failed, after.reporting palette (f.message :: f.stack.map ("  at " ++ ·)))
          | (.error (.panicked p), after) =>
            ∃ text : String, c.name.toList <:+: text.toList ∧ p.message.toList <:+: text.toList ∧
              r.dispatchLine palette line env = (.failed, after.reporting palette [text])) := by
  obtain hblank | ⟨word, rest, hbegins⟩ := Text.blank_or_begins line.toList
  · exact .inl ⟨hblank, dispatchLine_of_blank hblank⟩
  refine .inr ⟨word, rest, hbegins, ?_⟩
  rw [dispatchLine_of_begins hbegins]
  cases hget : r.get? (.ofList word) with
  | none =>
    have hshown := infix_unknownCommand (.ofList word)
    rw [String.toList_ofList] at hshown
    exact .inl ⟨get?_eq_none_iff.1 hget, _, hshown, dispatch_of_get?_eq_none hget _⟩
  | some c =>
    obtain ⟨hmem, hkey⟩ := mem_and_key_of_get? hget
    refine .inr ⟨c, hmem, hkey, rfl, _, acts_iff.2 rfl, ?_⟩
    rw [dispatch_of_get?_eq_some hget]
    rcases (r.perform palette c (Args.coerce c.params ((Text.words rest).map .ofList))).run env with
      ⟨(f | p) | ⟨⟩, after⟩
    · rfl
    · exact ⟨_, (infix_panicked c.name p).1, (infix_panicked c.name p).2, rfl⟩
    · rfl

/-- A command that prints where it goes, and fails two calls deep. -/
def tripCommand : Command where
  name := "trip"
  help := ""
  params := [{ name := "way", kind := .string }]
  action := .run fun palette args => do
    Act.modify (·.print palette.outputColor ("going " ++ args.str "way"))
    Act.fail { cause := .evaluation "fell", trace := some ["step", "walk"] }

/-- The command runs once, under a name in another case, and its failure is reported with both
frames behind what it printed. -/
theorem dispatchLine_reports_trip :
    let palette : Palette := {}
    let env : Environment := { host := {}, scrollback := .empty 9 }
    (Registry.mk [helpCommand, tripCommand]).dispatchLine palette " Trip home" env =
      (.failed, (env.print palette.outputColor "going home").reporting palette
        ["evaluation error: fell", "  at step", "  at walk"]) := by
  intro palette env
  obtain ⟨hblank, -⟩ | ⟨word, rest, hbegins, h⟩ :=
    dispatchLine_reports ⟨[helpCommand, tripCommand]⟩ palette " Trip home" env
  · exact absurd (hblank 'T' (by decide)) (by decide)
  have hwords : Text.words " Trip home".toList = ["Trip".toList, "home".toList] := by decide +kernel
  obtain ⟨rfl, hrest⟩ := List.cons.inj (hwords.symm.trans hbegins.words_eq)
  have hkey : Command.key tripCommand.name = Command.key (.ofList "Trip".toList) := by
    decide +kernel
  obtain ⟨hnone, -⟩ | ⟨c, hc, hckey, -, act, hact, h⟩ := h
  · exact absurd hkey (hnone tripCommand (.tail _ (.head _)))
  obtain rfl | rfl : c = helpCommand ∨ c = tripCommand := by simpa using hc
  · exact absurd hckey (by decide +kernel)
  rw [← hrest] at hact
  cases hact
  exact h

end Registry

end DevConsole
