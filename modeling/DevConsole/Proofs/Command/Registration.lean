/-
# `DevConsole.Proofs.Command.Registration` — what a history of registrations makes of a registry

A registry starts with `help` alone and is changed by calls that register a command, some of which
fail.  After any number of them it is known from the calls that succeeded (`Registration.Holds`):

    commands    `help`, and then one command for each of these calls
    names       different, even when written in lower case

The next call succeeds if and only if its name is a word, its signature reads, and its name in lower
case is new (`perform_eq_ok_iff`), so that this is kept.  Names are kept as they were given and
compared in lower case throughout; nothing is asked of lower case, not even that it stays the same
when taken twice.

A name that is looked up leads to at most one of the calls, and that call's handler is what a line
with the name runs.
-/
import DevConsole.Proofs.Command.Report
import Mathlib.Data.List.Nodup

namespace DevConsole

/-! ## Names in order -/

namespace Registry

theorem perm_sorted (names : List String) : (sorted names).Perm names :=
  List.mergeSort_perm names _

theorem pairwise_sorted (names : List String) : (sorted names).Pairwise (· ≤ ·) := by
  have hle (a b : String) : (!decide (b < a)) = true ↔ a ≤ b := by
    rw [Bool.not_eq_true', decide_eq_false_iff_not, String.not_lt]
  have hsorted := @List.pairwise_mergeSort String (fun a b => !decide (b < a))
    (fun a b c hab hbc => (hle a c).2 (String.le_trans ((hle a b).1 hab) ((hle b c).1 hbc)))
    (fun a b => by
      rw [Bool.or_eq_true, hle, hle]
      exact String.le_total a b)
    names
  exact hsorted.imp fun {a b} => (hle a b).1

/-- Where names differ in lower case, a command is found by its name. -/
theorem get?_eq_some_iff {r : Registry} (hr : (r.commands.map fun c => Command.key c.name).Nodup)
    {name : String} {c : Command} :
    r.get? name = some c ↔ c ∈ r.commands ∧ Command.key c.name = Command.key name := by
  refine ⟨mem_and_key_of_get?, ?_⟩
  rintro ⟨hmem, hkey⟩
  cases hget : r.get? name with
  | none => exact absurd hkey (get?_eq_none_iff.1 hget c hmem)
  | some d =>
    obtain ⟨hd, hdkey⟩ := mem_and_key_of_get? hget
    rw [List.inj_on_of_nodup_map hr hd hmem (hdkey.trans hkey.symm)]

end Registry

/-- A call that registers a command. -/
structure Registration where
  name : String
  help : String
  signature : String
  handler : Handler

namespace Registration

/-- Register the command. -/
def perform (g : Registration) (r : Registry) : Except Failure Registry :=
  r.register g.name g.help g.signature g.handler

/-- The registry after a call.  One that fails leaves it as it was. -/
def after (r : Registry) (g : Registration) : Registry :=
  match g.perform r with
  | .ok r' => r'
  | .error _ => r

/-- A new registry after some calls. -/
def afterAll (calls : List Registration) : Registry := calls.foldl after .initial

/-- Of some calls on a registry, those that succeed. -/
def succeededFrom (r : Registry) : List Registration → List Registration
  | [] => []
  | g :: gs =>
    match g.perform r with
    | .ok r' => g :: succeededFrom r' gs
    | .error _ => succeededFrom r gs

/-- Of some calls on a new registry, those that succeed. -/
def succeeded (calls : List Registration) : List Registration := succeededFrom .initial calls

/-- The command that a call registers, if its signature reads. -/
def command (g : Registration) : Command where
  name := g.name
  help := g.help
  params := (ParamSpec.parseSignature g.signature).toOption.getD []
  action := .run g.handler

/-! ## One call -/

theorem isWord_iff (name : String) :
    (name.isEmpty || name.toList.any Text.isBlank) = false ↔ Text.IsWord name.toList := by
  rw [Bool.or_eq_false_iff, List.any_eq_false]
  constructor
  · rintro ⟨hempty, hblank⟩
    refine ⟨fun hnil => ?_, fun c hc => Bool.eq_false_iff.2 (hblank c hc)⟩
    rw [String.toList_eq_nil_iff.1 hnil] at hempty
    cases hempty
  · rintro ⟨hne, hblank⟩
    refine ⟨Bool.eq_false_iff.2 fun hempty => hne ?_, fun c hc => by simp [hblank c hc]⟩
    rw [String.isEmpty_iff.1 hempty, String.toList_empty]

/-- A call succeeds if its name is a word that is not taken and its signature reads, and adds its
command then. -/
theorem perform_eq_ok_iff {g : Registration} {r r' : Registry} :
    g.perform r = .ok r' ↔
      Text.IsWord g.name.toList ∧ r.get? g.name = none ∧
        (∃ params, ParamSpec.parseSignature g.signature = .ok params) ∧
        r' = ⟨r.commands ++ [g.command]⟩ := by
  unfold perform Registry.register
  rw [← isWord_iff]
  split
  · rename_i hname
    simp [hname]
  rename_i hname
  split
  · rename_i htaken
    obtain ⟨c, hc⟩ := Option.isSome_iff_exists.1 htaken
    simp [hc]
  rename_i hfree
  have hnone : r.get? g.name = none := Option.not_isSome_iff_eq_none.1 hfree
  unfold command
  split
  · rename_i e hsignature
    simp [hsignature]
  · rename_i params hsignature
    simp only [hsignature, Except.toOption, Option.getD_some, Except.ok.injEq]
    constructor
    · rintro rfl
      exact ⟨Bool.eq_false_iff.2 hname, hnone, ⟨params, rfl⟩, rfl⟩
    · rintro ⟨-, -, -, rfl⟩
      rfl

/-! ## A history of calls -/

/-- A registry is what some calls, all of which succeeded, have made of a new one. -/
structure Holds (r : Registry) (gs : List Registration) : Prop where
  commands_eq : r.commands = Registry.helpCommand :: gs.map command
  nodup : (r.commands.map fun c => Command.key c.name).Nodup
  reads : ∀ g ∈ gs, ∃ params, ParamSpec.parseSignature g.signature = .ok params

theorem holds_initial : Holds .initial [] where
  commands_eq := rfl
  nodup := List.nodup_singleton _
  reads := nofun

namespace Holds

variable {r r' : Registry} {gs : List Registration} {g : Registration}

theorem step (h : Holds r gs) (hg : g.perform r = .ok r') : Holds r' (gs ++ [g]) := by
  obtain ⟨-, hfree, hreads, rfl⟩ := perform_eq_ok_iff.1 hg
  refine ⟨?_, ?_, ?_⟩
  · rw [h.commands_eq, List.map_append]
    rfl
  · rw [List.map_append]
    refine List.nodup_append.2 ⟨h.nodup, List.nodup_singleton _, ?_⟩
    intro key hkey key' hkey'
    obtain ⟨c, hc, rfl⟩ := List.mem_map.1 hkey
    rw [List.mem_singleton.1 hkey']
    exact Registry.get?_eq_none_iff.1 hfree c hc
  · intro g' hg'
    obtain hg' | hg' := List.mem_append.1 hg'
    · exact h.reads g' hg'
    · rw [List.mem_singleton.1 hg']
      exact hreads

theorem run (h : Holds r gs) (calls : List Registration) :
    Holds (calls.foldl after r) (gs ++ succeededFrom r calls) := by
  induction calls generalizing r gs with
  | nil => rwa [succeededFrom, List.append_nil]
  | cons g calls ih =>
    rw [List.foldl_cons, after, succeededFrom]
    cases hg : g.perform r with
    | error f => exact ih h
    | ok r' =>
      have hrest := ih (h.step hg)
      rwa [List.append_assoc] at hrest

/-- The names of the commands. -/
theorem map_name (h : Holds r gs) :
    r.commands.map (·.name) = "help" :: gs.map (·.name) := by
  rw [h.commands_eq, List.map_cons, List.map_map]
  rfl

/-- A name is free if neither `help` nor a call has it. -/
theorem get?_eq_none_iff (h : Holds r gs) {name : String} :
    r.get? name = none ↔
      ∀ taken ∈ "help" :: gs.map (·.name), Command.key taken ≠ Command.key name := by
  rw [Registry.get?_eq_none_iff, ← h.map_name, List.forall_mem_map]

/-- A name leads to the call with that name. -/
theorem get?_eq_some (h : Holds r gs) (hg : g ∈ gs) {name : String}
    (hkey : Command.key g.name = Command.key name) : r.get? name = some g.command := by
  refine (Registry.get?_eq_some_iff h.nodup).2 ⟨?_, hkey⟩
  rw [h.commands_eq]
  exact List.mem_cons_of_mem _ (List.mem_map_of_mem hg)

theorem get?_help (h : Holds r gs) {name : String}
    (hkey : Command.key "help" = Command.key name) :
    r.get? name = some Registry.helpCommand := by
  refine (Registry.get?_eq_some_iff h.nodup).2 ⟨?_, hkey⟩
  rw [h.commands_eq]
  exact List.mem_cons_self

/-- No two calls have names that are equal in lower case. -/
theorem eq_of_key_eq (h : Holds r gs) {g g' : Registration} (hg : g ∈ gs) (hg' : g' ∈ gs)
    (hkey : Command.key g.name = Command.key g'.name) : g = g' := by
  have hnodup := h.nodup
  rw [h.commands_eq, List.map_cons, List.map_map] at hnodup
  exact List.inj_on_of_nodup_map (List.nodup_cons.1 hnodup).2 hg hg' hkey

/-- Which calls succeed next. -/
theorem exists_perform_iff (h : Holds r gs) :
    (∃ r', g.perform r = .ok r') ↔
      Text.IsWord g.name.toList ∧
        (∀ taken ∈ "help" :: gs.map (·.name), Command.key taken ≠ Command.key g.name) ∧
        ∃ params, ParamSpec.parseSignature g.signature = .ok params := by
  rw [← h.get?_eq_none_iff]
  constructor
  · rintro ⟨r', hr'⟩
    obtain ⟨hword, hfree, hreads, -⟩ := perform_eq_ok_iff.1 hr'
    exact ⟨hword, hfree, hreads⟩
  · rintro ⟨hword, hfree, hreads⟩
    exact ⟨_, perform_eq_ok_iff.2 ⟨hword, hfree, hreads, rfl⟩⟩

/-- The name of a call runs the handler of this call. -/
theorem dispatch_eq (h : Holds r gs) (hg : g ∈ gs) {name : String}
    (hkey : Command.key g.name = Command.key name) (palette : Palette) (words : List String)
    (env : Environment) :
    ∃ params, ParamSpec.parseSignature g.signature = .ok params ∧
      r.dispatch palette name words env =
        Registry.conclude palette g.name
          ((g.handler palette (Args.coerce params words)).run env) := by
  obtain ⟨params, hparams⟩ := h.reads g hg
  have hcommand : g.command.params = params := by
    rw [command, hparams]
    rfl
  refine ⟨params, hparams, ?_⟩
  rw [Registry.dispatch_of_get?_eq_some (h.get?_eq_some hg hkey), hcommand]
  rfl

/-- A name that is that of no call runs help, or nothing. -/
theorem dispatch_of_not_mem (h : Holds r gs) {name : String}
    (hname : ∀ g ∈ gs, Command.key g.name ≠ Command.key name) (palette : Palette)
    (words : List String) (env : Environment) :
    r.dispatch palette name words env =
      if Command.key "help" = Command.key name then
        Registry.conclude palette "help"
          ((r.help palette
            ((Args.coerce Registry.helpCommand.params words).str "name")).run env)
      else
        (.unknownCommand, env.reporting palette [(Cause.unknownCommand name).message]) := by
  split
  · rename_i hhelp
    exact Registry.dispatch_of_get?_eq_some (h.get?_help hhelp) words
  · rename_i hhelp
    refine Registry.dispatch_of_get?_eq_none (h.get?_eq_none_iff.2 ?_) words
    rw [List.forall_mem_cons, List.forall_mem_map]
    exact ⟨hhelp, hname⟩

end Holds

theorem holds_afterAll (calls : List Registration) : Holds (afterAll calls) (succeeded calls) :=
  holds_initial.run calls

/-- One more call. -/
theorem afterAll_concat (calls : List Registration) (g : Registration) :
    afterAll (calls ++ [g]) = after (afterAll calls) g := by
  rw [afterAll, List.foldl_append]
  rfl

/-- A registry after any calls.  The next call succeeds exactly when its name is a word, is new in
lower case and its signature reads, and changes nothing when it fails.  The names are those of the
calls that succeeded, and `help`, in order and different in lower case.  A line that begins with a
name dispatches this name with the other words.  A name runs the handler of the one call that has
it in lower case, if there is one, and otherwise help if it is the name of help, and is unknown if
not. -/
theorem registry_afterAll (calls : List Registration) :
    (∀ g : Registration, (∃ r, g.perform (afterAll calls) = .ok r) ↔
      Text.IsWord g.name.toList ∧
        (∀ taken ∈ "help" :: (succeeded calls).map (·.name),
          Command.key taken ≠ Command.key g.name) ∧
        ∃ params, ParamSpec.parseSignature g.signature = .ok params) ∧
    (∀ (g : Registration) (f : Failure), g.perform (afterAll calls) = .error f →
      afterAll (calls ++ [g]) = afterAll calls) ∧
    (afterAll calls).names.Pairwise (· ≤ ·) ∧
    (afterAll calls).names.Perm ("help" :: (succeeded calls).map (·.name)) ∧
    ((afterAll calls).names.map Command.key).Nodup ∧
    ∀ (palette : Palette) (env : Environment) (name : String),
      (∀ (line : String) (rest : List Char), Text.Begins line.toList name.toList rest →
        (afterAll calls).dispatchLine palette line env =
          (afterAll calls).dispatch palette name ((Text.words rest).map .ofList) env) ∧
      ∀ words : List String,
        (∃ g ∈ succeeded calls, Command.key g.name = Command.key name ∧
          (∀ g' ∈ succeeded calls, Command.key g'.name = Command.key name → g' = g) ∧
          ∃ params, ParamSpec.parseSignature g.signature = .ok params ∧
            (afterAll calls).dispatch palette name words env =
              Registry.conclude palette g.name
                ((g.handler palette (Args.coerce params words)).run env)) ∨
        ((∀ g ∈ succeeded calls, Command.key g.name ≠ Command.key name) ∧
          (afterAll calls).dispatch palette name words env =
            if Command.key "help" = Command.key name then
              Registry.conclude palette "help"
                (((afterAll calls).help palette
                  ((Args.coerce Registry.helpCommand.params words).str "name")).run env)
            else
              (.unknownCommand, env.reporting palette [(Cause.unknownCommand name).message])) := by
  have hholds := holds_afterAll calls
  have hnames : (afterAll calls).names.Perm ("help" :: (succeeded calls).map (·.name)) := by
    rw [← hholds.map_name]
    exact Registry.perm_sorted _
  refine ⟨?_, ?_, Registry.pairwise_sorted _, hnames, ?_, ?_⟩
  · intro g
    exact hholds.exists_perform_iff
  · intro g f hg
    rw [afterAll_concat, after, hg]
  · refine ((hnames.map Command.key).nodup_iff).2 ?_
    rw [← hholds.map_name, List.map_map]
    exact hholds.nodup
  · intro palette env name
    constructor
    · intro line rest hline
      rw [Registry.dispatchLine_of_begins hline, String.ofList_toList]
    · intro words
      by_cases hname : ∃ g ∈ succeeded calls, Command.key g.name = Command.key name
      · obtain ⟨g, hg, hkey⟩ := hname
        refine .inl ⟨g, hg, hkey, ?_, hholds.dispatch_eq hg hkey palette words env⟩
        intro g' hg' hkey'
        exact hholds.eq_of_key_eq hg' hg (hkey'.trans hkey.symm)
      · have hfree : ∀ g ∈ succeeded calls, Command.key g.name ≠ Command.key name := by
          intro g hg hkey
          exact hname ⟨g, hg, hkey⟩
        exact .inr ⟨hfree, hholds.dispatch_of_not_mem hfree palette words env⟩

/-- A greeting that is registered twice, in two spellings of its name. -/
def greetings : List Registration :=
  let greet : Handler := fun palette args =>
    Act.modify (·.print palette.outputColor ("Hello, " ++ args.str "who"))
  [⟨"Greet", "", "who:string", greet⟩, ⟨"gREET", "", "who:string", greet⟩]

/-- The first greeting stays, and leaves other names free. -/
theorem registry_afterAll_greetings :
    (afterAll greetings).names.Perm ["help", "Greet"] ∧
      ∃ r, (Registration.mk "bow" "" "" fun _ _ => pure ()).perform (afterAll greetings) = .ok r := by
  obtain ⟨hperform, -, -, hnames, -⟩ := registry_afterAll greetings
  have hsucceeded : (succeeded greetings).map (·.name) = ["Greet"] := by
    decide +kernel
  rw [hsucceeded] at hnames
  refine ⟨hnames, (hperform _).2 ⟨(isWord_iff "bow").1 rfl, ?_, [], rfl⟩⟩
  rw [hsucceeded]
  decide +kernel

end Registration

end DevConsole
