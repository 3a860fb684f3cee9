/-
# `DevConsole.Proofs.Command.Call` — what the call command hands to evaluation

An expression comes to evaluation by way of a command line.  The line is cut into words, the words
behind the name are fitted to the one parameter of the command, and the placeholder is read as a
space:

    no word          the text is empty
    one word         the text is that word
    several words    the text is the words with one space between neighbours

All three are the words single spaced (`Standard.handed_eq`).  So an expression whose spaces are
written as placeholders is one word and arrives as it is.  One that is written with blanks arrives
squeezed, with the same tokens unless that touches a text in quotes (`Standard.call_faithful`).

A squeezed text that cannot be read is refused for the same reason, at the same token.  But the
column in the message counts the characters that have arrived (`Standard.call_column`).
-/
import Mathlib
import DevConsole.Command.Standard
import DevConsole.Config.Basic
import DevConsole.Proofs.Command.Registration
import DevConsole.Proofs.Grammar.Columns
import DevConsole.Proofs.Lexing.Squeezing

namespace DevConsole

/-! ## Single spacing -/

namespace Text

theorem mem_squeeze {c : Char} {cs : List Char} (h : c ∈ squeeze cs) : c = ' ' ∨ c ∈ cs := by
  induction cs with
  | nil => exact .inr h
  | cons d cs ih =>
    have hrest (h : c ∈ squeeze cs) : c = ' ' ∨ c ∈ d :: cs := (ih h).imp_right (.tail d)
    rw [squeeze] at h
    split at h
    · split at h
      · exact hrest h
      · exact (List.mem_cons.1 h).elim .inl hrest
    · exact (List.mem_cons.1 h).elim (fun hc => .inr (hc ▸ List.mem_cons_self)) hrest

/-- Single spacing adds nothing but spaces. -/
theorem mem_singleSpaced {c : Char} {cs : List Char} (h : c ∈ singleSpaced cs) :
    c = ' ' ∨ c ∈ cs := by
  refine mem_squeeze ?_
  rw [squeeze_eq]
  split
  · rename_i hwords
    rwa [singleSpaced, hwords] at h
  · split
    · exact .tail _ h
    · exact h

/-- A text without blanks is single spaced. -/
theorem singleSpaced_of_not_isBlank {cs : List Char} (h : ∀ c ∈ cs, isBlank c = false) :
    singleSpaced cs = cs := by
  rcases cs with _ | ⟨c, cs⟩
  · rfl
  · have hword : IsWord (c :: cs) := ⟨List.cons_ne_nil _ _, h⟩
    have hend : ∀ d ∈ ([] : List Char).head?, isBlank d = true := by
      rintro d ⟨⟩
    have hwords := hword.words_append hend
    rw [List.append_nil] at hwords
    rw [singleSpaced, hwords]
    rfl

end Text

/-! ## Two spacings of one line -/

namespace Lexer

open Grammar (kinds)

/-- Columns of the same token in two spellings of a line, or those of the two ends. -/
inductive SamePlace (line line' : List Char) (ts ts' : List Token) : Nat → Nat → Prop
  | token (i : Nat) {t t' : Token} (h : ts[i]? = some t) (h' : ts'[i]? = some t') :
    SamePlace line line' ts ts' t.start t'.start
  | ending : SamePlace line line' ts ts' line.length line'.length

theorem alike_of_kinds_eq {line line' : List Char} {ts ts' : List Token}
    (h : kinds ts = kinds ts') : Parser.Alike (SamePlace line line' ts ts') ts ts' := by
  have hlength : ts.length = ts'.length := by
    simpa only [kinds, List.length_map] using congrArg List.length h
  refine List.forall₂_iff_get.2 ⟨hlength, fun i hi hi' => ⟨?_, ?_⟩⟩
  · have hkinds := List.getElem_of_eq h (List.length_map (f := Token.kind) ▸ hi)
    simpa only [kinds, List.getElem_map, List.get_eq_getElem] using hkinds
  · exact .token i (List.getElem?_eq_getElem hi) (List.getElem?_eq_getElem hi')

/-- Two texts with tokens of the same kinds are read as the same line, or refused for the same
reason at the same place. -/
theorem parse_agrees {source source' : String} {ts ts' : List Token}
    (h : tokenize source.toList = .ok ts) (h' : tokenize source'.toList = .ok ts')
    (hkinds : kinds ts = kinds ts') :
    Agrees (SamePlace source.toList source'.toList ts ts') (· = ·) (Parser.parse source)
      (Parser.parse source') := by
  have hparse {source : String} {ts : List Token} (h : tokenize source.toList = .ok ts) :
      Parser.parse source = Parser.line source.toList.length ts := by
    simp only [Parser.parse, h]
  rw [hparse h, hparse h']
  exact Parser.line_agrees .ending (alike_of_kinds_eq hkinds)

/-- A single spaced text has tokens of the same kinds, if its texts in quotes were tidy. -/
theorem exists_tokenize_singleSpaced {cs : List Char} {ts : List Token} (h : tokenize cs = .ok ts)
    (htidy : ∀ t ∈ ts, (∃ text, t.kind = .literal (.str text)) → Text.Tidy (slice cs t)) :
    ∃ ts', tokenize (Text.singleSpaced cs) = .ok ts' ∧ kinds ts' = kinds ts := by
  have hkinds : kindsFrom none (Text.singleSpaced cs) = some (kinds ts) := by
    rw [kindsFrom_singleSpaced]
    have hpos : 0 = ([] : List Char).length := rfl
    exact kindsFrom_squeeze h hpos htidy
  exact lexes_iff.2 hkinds 0

end Lexer

/-! ## The command in a registry -/

namespace Registration

/-- A command that is found is still found after another call. -/
theorem get?_after {r : Registry} {name : String} {c : Command} (h : r.get? name = some c)
    (g : Registration) : (after r g).get? name = some c := by
  rw [after]
  cases hg : g.perform r with
  | error f => exact h
  | ok r' =>
    obtain ⟨-, -, -, rfl⟩ := perform_eq_ok_iff.1 hg
    rw [Registry.get?] at h
    rw [Registry.get?, List.find?_append, h, Option.some_or]

theorem get?_foldl_after {r : Registry} {name : String} {c : Command} (h : r.get? name = some c)
    (calls : List Registration) : (calls.foldl after r).get? name = some c := by
  induction calls generalizing r with
  | nil => exact h
  | cons g calls ih => exact ih (get?_after h g)

end Registration

namespace Standard

variable (cx : Context) (placeholder : Char)

theorem get?_registry : (registry cx placeholder).get? "call" = some (call cx placeholder) := by
  have hnodup : ((registry cx placeholder).commands.map fun c => Command.key c.name).Nodup := by
    have hkeys : (["help", "clear", "exit", "vsync", "fixed", "framerate", "call"].map
        Command.key).Nodup := by
      decide +kernel
    exact hkeys
  refine (Registry.get?_eq_some_iff hnodup).2 ⟨?_, rfl⟩
  exact List.mem_of_getElem? (i := 6) rfl

/-- Evaluate a text, and print what it gives. -/
def evaluation (palette : Palette) (source : String) : Act Environment Unit := do
  let o ← onStore (cx.evaluate source)
  Act.modify (printOutcome cx.world.catalog palette.outputColor o)

/-- A text that reads as the same line evaluates alike. -/
theorem evaluation_congr {source source' : String} (h : Parser.parse source = Parser.parse source')
    (palette : Palette) : evaluation cx palette source = evaluation cx palette source' := by
  rw [evaluation, evaluation, Context.evaluate, Context.evaluate, h]

/-- The text that evaluation is handed for what stands behind the name of the command. -/
def handed (text : String) : String :=
  expression placeholder
    ((Args.coerce (call cx placeholder).params
      ((Text.words text.toList).map String.ofList)).str "expression")

/-- The words behind the name are joined with single spaces. -/
theorem handed_eq (text : String) :
    handed cx placeholder text =
      expression placeholder (String.ofList (Text.singleSpaced text.toList)) := by
  rw [handed, Text.singleSpaced]
  rcases Text.words text.toList with _ | ⟨w, _ | ⟨v, ws⟩⟩
  · rfl
  · rfl
  · have hjoin : Text.join " " ((w :: v :: ws).map String.ofList) =
        String.ofList (Text.joinWith [' '] (w :: v :: ws)) := by
      have hlists : ((w :: v :: ws).map String.ofList).map String.toList = w :: v :: ws := by
        rw [List.map_map]
        exact List.map_id'' (fun w => String.toList_ofList) _
      rw [Text.join, hlists]
      rfl
    rw [← hjoin]
    rfl

theorem dispatchLine_call {r : Registry} (h : r.get? "call" = some (call cx placeholder))
    (palette : Palette) (text : String) (env : Environment) :
    r.dispatchLine palette ("call " ++ text) env =
      Registry.conclude palette "call"
        ((evaluation cx palette (handed cx placeholder text)).run env) := by
  have hbegins : Text.Begins ("call " ++ text).toList "call".toList (' ' :: text.toList) := by
    refine ⟨(Registration.isWord_iff "call").1 rfl, ?_, [], List.forall_mem_nil _, ?_⟩
    · rintro c ⟨⟩
      exact Text.isBlank_space
    · rw [String.toList_append]
      rfl
  rw [Registry.dispatchLine_of_begins hbegins, String.ofList_toList,
    Registry.dispatch_of_get?_eq_some h, Text.words_of_isBlank Text.isBlank_space]
  rfl

/-! ## Placeholders -/

variable {placeholder : Char} {source : String}

/-- The text with its spaces written as placeholders. -/
def filled (placeholder : Char) (source : String) : String :=
  String.ofList (source.toList.map fun c => if c = ' ' then placeholder else c)

/-- The text with one space between its words. -/
def spaced (source : String) : String := String.ofList (Text.singleSpaced source.toList)

theorem expression_of_not_mem {text : String} (h : placeholder ∉ text.toList) :
    expression placeholder text = text := by
  have hsame : ∀ c ∈ text.toList, (if c = placeholder then ' ' else c) = c := by
    intro c hc
    rw [if_neg]
    rintro rfl
    exact h hc
  rw [expression, List.map_congr_left hsame, List.map_id', String.ofList_toList]

/-- Placeholders are read as the spaces that they were written for. -/
theorem expression_filled (h : placeholder ∉ source.toList) :
    expression placeholder (filled placeholder source) = source := by
  have hback : ∀ c ∈ source.toList,
      (if (if c = ' ' then placeholder else c) = placeholder then ' '
        else if c = ' ' then placeholder else c) = c := by
    intro c hc
    have hne : c ≠ placeholder := by
      rintro rfl
      exact h hc
    by_cases hspace : c = ' '
    · rw [if_pos hspace, if_pos rfl, hspace]
    · rw [if_neg hspace, if_neg hne]
  rw [expression, filled, String.toList_ofList, List.map_map, Function.comp_def,
    List.map_congr_left hback, List.map_id', String.ofList_toList]

theorem not_isBlank_filled (hplaceholder : Text.isBlank placeholder = false)
    (hspaces : ∀ c ∈ source.toList, Text.isBlank c = true → c = ' ') :
    ∀ c ∈ (filled placeholder source).toList, Text.isBlank c = false := by
  rw [filled, String.toList_ofList, List.forall_mem_map]
  intro c hc
  split
  · exact hplaceholder
  · rename_i hspace
    exact Bool.eq_false_iff.2 fun hblank => hspace (hspaces c hc hblank)

/-- An expression with placeholders for its spaces is handed over as it is. -/
theorem handed_filled (hplaceholder : Text.isBlank placeholder = false)
    (hfree : placeholder ∉ source.toList)
    (hspaces : ∀ c ∈ source.toList, Text.isBlank c = true → c = ' ') :
    handed cx placeholder (filled placeholder source) = source := by
  rw [handed_eq, Text.singleSpaced_of_not_isBlank (not_isBlank_filled hplaceholder hspaces),
    String.ofList_toList, expression_filled hfree]

/-- An expression without placeholders is handed over single spaced. -/
theorem handed_of_not_mem (hplaceholder : Text.isBlank placeholder = false)
    (hfree : placeholder ∉ source.toList) : handed cx placeholder source = spaced source := by
  rw [handed_eq]
  refine expression_of_not_mem ?_
  rw [String.toList_ofList]
  intro h
  rcases Text.mem_singleSpaced h with rfl | h
  · cases hplaceholder
  · exact hfree h

theorem not_isBlank_of_validate {cfg : Config} (h : cfg.validate = .ok cfg) :
    Text.isBlank cfg.placeholder = false := by
  unfold Config.validate at h
  split at h
  · cases h
  · rename_i hnone
    rw [Bool.eq_false_iff]
    intro hblank
    rw [Config.complaint?, if_pos hblank] at hnone
    split_ifs at hnone

/-! ## The call command -/

/-- The call command, in a console with a valid configuration and any commands of the host.  An
expression with placeholders for its spaces is evaluated as it is.  One that is written with blanks
is evaluated single spaced.  If its tokens can be read and no text in quotes is touched, this is a
text with tokens of the same kinds: it reads as the same line, and evaluates and prints as the
expression itself, or is refused for the same reason at the same place. -/
theorem call_faithful {cfg : Config} (hcfg : cfg.validate = .ok cfg) (calls : List Registration)
    (palette : Palette) (env : Environment) {source : String}
    (hfree : cfg.placeholder ∉ source.toList) :
    ((∀ c ∈ source.toList, Text.isBlank c = true → c = ' ') →
      (calls.foldl Registration.after (registry cx cfg.placeholder)).dispatchLine palette
          ("call " ++ filled cfg.placeholder source) env =
        Registry.conclude palette "call" ((evaluation cx palette source).run env)) ∧
    (calls.foldl Registration.after (registry cx cfg.placeholder)).dispatchLine palette
        ("call " ++ source) env =
      Registry.conclude palette "call" ((evaluation cx palette (spaced source)).run env) ∧
    ∀ ts, Lexer.tokenize source.toList = .ok ts →
      (∀ t ∈ ts, (∃ text, t.kind = .literal (.str text)) →
        Text.Tidy (Lexer.slice source.toList t)) →
      ∃ ts', Lexer.tokenize (spaced source).toList = .ok ts' ∧
        Grammar.kinds ts' = Grammar.kinds ts ∧
        ((∃ l, Parser.parse source = .ok l ∧ Parser.parse (spaced source) = .ok l ∧
            evaluation cx palette (spaced source) = evaluation cx palette source) ∨
          ∃ column column' reason,
            Parser.parse source = .error (.malformed column reason) ∧
              Parser.parse (spaced source) = .error (.malformed column' reason) ∧
              Lexer.SamePlace source.toList (spaced source).toList ts ts' column column') := by
  have hplaceholder := not_isBlank_of_validate hcfg
  have hcall := Registration.get?_foldl_after (get?_registry cx cfg.placeholder) calls
  refine ⟨fun hspaces => ?_, ?_, fun ts hts htidy => ?_⟩
  · rw [dispatchLine_call cx cfg.placeholder hcall, handed_filled cx hplaceholder hfree hspaces]
  · rw [dispatchLine_call cx cfg.placeholder hcall, handed_of_not_mem cx hplaceholder hfree]
  · obtain ⟨ts', hts', hkinds⟩ := Lexer.exists_tokenize_singleSpaced hts htidy
    rw [← String.toList_ofList (l := Text.singleSpaced source.toList)] at hts'
    refine ⟨ts', hts', hkinds, ?_⟩
    have hagrees := Lexer.parse_agrees hts hts' hkinds.symm
    generalize hr : Parser.parse source = r at hagrees
    generalize hr' : Parser.parse (String.ofList (Text.singleSpaced source.toList)) = r' at hagrees
    cases hagrees with
    | @ok l l' h =>
      obtain rfl : l = l' := h
      exact .inl ⟨l, rfl, hr', evaluation_congr cx (hr'.trans hr.symm) palette⟩
    | @malformed column column' h reason => exact .inr ⟨column, column', reason, rfl, hr', h⟩

/-- A world without types, for lines whose outcome does not depend on it. -/
def nowhere : Context := ⟨⟨⟨[]⟩, []⟩, false, .null⟩

/-- A fresh environment with room for one line. -/
def oneLine : Environment := ⟨{}, ⟨[], 1⟩⟩

/-- The theorem at an expression with two spaces in a row, and a text in quotes that has one. -/
theorem call_faithful_quoted :
    ({} : Config).validate = .ok {} ∧ '#' ∉ "a  + \"b c\"".toList ∧
    (registry nowhere '#').dispatchLine {} ("call " ++ "a##+#\"b#c\"") oneLine =
      Registry.conclude {} "call" ((evaluation nowhere {} "a  + \"b c\"").run oneLine) ∧
    (registry nowhere '#').dispatchLine {} ("call " ++ "a  + \"b c\"") oneLine =
      Registry.conclude {} "call" ((evaluation nowhere {} "a  + \"b c\"").run oneLine) := by
  have hvalid : ({} : Config).validate = .ok {} := rfl
  have hfree : '#' ∉ "a  + \"b c\"".toList := by decide +kernel
  have hspaces : ∀ c ∈ "a  + \"b c\"".toList, Text.isBlank c = true → c = ' ' := by
    have hall : ("a  + \"b c\"".toList.all fun c => !Text.isBlank c || c == ' ') = true := by
      decide +kernel
    intro c hc hblank
    have hspace := List.all_eq_true.1 hall c hc
    rwa [hblank, Bool.not_true, Bool.false_or, beq_iff_eq] at hspace
  have htokens : Lexer.tokenize "a  + \"b c\"".toList =
      .ok [⟨.name "a", 0, 1⟩, ⟨.op .add, 3, 4⟩, ⟨.literal (.str "b c"), 5, 10⟩] := by
    cbv
  have hparse : Parser.parse "a  + \"b c\"" =
      .ok ⟨some (.binary .add (.name "a" none) (.literal (.str "b c"))), false⟩ := by
    cbv
  have htidy : ∀ t ∈ [(⟨.name "a", 0, 1⟩ : Token), ⟨.op .add, 3, 4⟩,
        ⟨.literal (.str "b c"), 5, 10⟩],
      (∃ text, t.kind = .literal (.str text)) →
        Text.Tidy (Lexer.slice "a  + \"b c\"".toList t) := by
    simp only [List.forall_mem_cons]
    refine ⟨?_, ?_, fun _ => ⟨?_, ?_⟩, List.forall_mem_nil _⟩
    · rintro ⟨text, ⟨⟩⟩
    · rintro ⟨text, ⟨⟩⟩
    · intro c hc
      exact hspaces c (List.mem_of_mem_drop (List.mem_of_mem_take hc))
    · decide +kernel
  obtain ⟨hfilled, hspaced, htexts⟩ := call_faithful nowhere hvalid [] {} oneLine hfree
  refine ⟨hvalid, hfree, hfilled hspaces, hspaced.trans ?_⟩
  obtain ⟨-, -, -, ⟨-, -, -, heval⟩ | ⟨column, _, reason, herror, -⟩⟩ :=
    htexts _ htokens htidy
  · rw [heval]
  · rw [hparse] at herror
    cases herror

/-- What cannot be read is reported. -/
theorem conclude_of_parse_eq_error {source : String} {f : Failure}
    (h : Parser.parse source = .error f) (palette : Palette) (env : Environment) :
    Registry.conclude palette "call" ((evaluation cx palette source).run env) =
      (.failed, env.reporting palette (Environment.reportLines f)) := by
  rw [evaluation, Context.evaluate, h]
  rfl

/-- Of two spaces in a row the second is not counted: a parenthesis that is refused at column 3 is
reported at column 2. -/
theorem call_column :
    ({} : Config).validate = .ok {} ∧ '#' ∉ "a  )".toList ∧
    Lexer.tokenize "a  )".toList = .ok [⟨.name "a", 0, 1⟩, ⟨.closeParen, 3, 4⟩] ∧
    ((registry nowhere '#').dispatchLine {} ("call " ++ "a  )") oneLine).2.scrollback.lines.map
        (·.text) =
      ["syntax error at column 2: expected end of line, found ')'"] ∧
    (Registry.conclude {} "call"
        ((evaluation nowhere {} "a  )").run oneLine)).2.scrollback.lines.map (·.text) =
      ["syntax error at column 3: expected end of line, found ')'"] := by
  have hfree : '#' ∉ "a  )".toList := by decide +kernel
  have htokens : Lexer.tokenize "a  )".toList = .ok [⟨.name "a", 0, 1⟩, ⟨.closeParen, 3, 4⟩] := by
    cbv
  have hhanded : handed nowhere '#' "a  )" = "a )" := by
    rw [handed_of_not_mem nowhere rfl hfree]
    decide +kernel
  have hdirect : Parser.parse "a  )" = .error (.malformed 3 "expected end of line, found ')'") := by
    cbv
  have hcalled : Parser.parse "a )" = .error (.malformed 2 "expected end of line, found ')'") := by
    cbv
  refine ⟨rfl, hfree, htokens, ?_, ?_⟩
  · rw [dispatchLine_call nowhere '#' (get?_registry nowhere '#'), hhanded,
      conclude_of_parse_eq_error nowhere hcalled]
    decide +kernel
  · rw [conclude_of_parse_eq_error nowhere hdirect]
    decide +kernel

end Standard

end DevConsole
