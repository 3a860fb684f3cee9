/-
# `DevConsole.Proofs.Session.MemberCompletion` — Tab goes through the members of the chain

The first press of Tab asks a question about the line and makes a run from the answer; all others
step through this run.  Behind a chain and a dot the question is about the members of the chain,
which is evaluated once:

    a value      those of its members that are names and start as the word does, over and over
    a failure    no candidates, and the line stays

`Session.turned` is the session at a candidate of a run, or at none, and what pressing Tab does is
one step from candidate to candidate (`Console.tabs_run`).  Which candidates these are follows from
the place of the word (`Completion.Engine.site_of_memberChain`) and from what a marker behind the
chain asks for (`Context.lists_evaluate`): `Console.tabs_members`.
-/
import Mathlib
import DevConsole.Demo.Game
import DevConsole.Proofs.Completion.Chain
import DevConsole.Proofs.Completion.Cycling
import DevConsole.Proofs.Eval.Marker
import DevConsole.Proofs.Session.Containment

namespace DevConsole

/-! ## One run, step by step -/

namespace Completion.Run

/-- The indices of the candidates that start as the line does. -/
def found (r : Run) : List Nat := matchesFrom r.lead 0 r.corpus

/-- The candidates that start as the line does. -/
def matching (r : Run) : List (List Char) := r.corpus.filter (r.lead.isPrefixOf ·)

theorem map_found (r : Run) : r.found.map (r.corpus.getD · []) = r.matching :=
  map_getD_matchesFrom r.lead [] r.corpus

end Completion.Run

namespace Session

/-- A session where a run is at a candidate, or at none. -/
def turned (s : Session) (r : Completion.Run) : Option Nat → Session
  | some i =>
    { s with
      completion := { s.completion with run := some { r with index := some i } }
      buffer := r.corpus.getD i [] ++ r.tail
      cursor := r.tail.length }
  | none => { s with completion := { s.completion with run := some r } }

variable {s : Session} {r : Completion.Run}

/-- A new run begins with the first candidate. -/
theorem complete_of_idle (hidle : s.completion.run = none) (names : List String) :
    s.complete names .forward =
      s.turned (s.completion.fresh s.buffer s.cursor names)
        (s.completion.fresh s.buffer s.cursor names).found[0]? := by
  have hcurrent : s.completion.current s.buffer s.cursor names =
      s.completion.fresh s.buffer s.cursor names := by
    rw [Completion.Engine.current, hidle]
  rw [Completion.Run.found, ← cycle_forward_first, complete, Completion.Engine.step, hcurrent]
  generalize hr : s.completion.fresh s.buffer s.cursor names = r
  have hindex : r.index = none := by
    rw [← hr]
    rfl
  simp only [hindex]
  cases cycle r.corpus r.lead none .forward <;> rfl

/-- A run goes on with the next candidate, and from the last with the first. -/
theorem complete_turned {k i : Nat} (hi : r.found[k % r.found.length]? = some i) :
    (s.turned r (some i)).complete [] .forward =
      s.turned r r.found[(k + 1) % r.found.length]? := by
  obtain ⟨hk, -⟩ := List.getElem?_eq_some_iff.1 hi
  have hnext : (k + 1) % r.found.length < r.found.length :=
    Nat.mod_lt _ (Nat.lt_of_le_of_lt (Nat.zero_le _) hk)
  have hcycle : cycle r.corpus r.lead (some i) .forward =
      some r.found[(k + 1) % r.found.length] := by
    rw [← List.getElem?_eq_getElem hnext]
    exact cycle_forward_next hi
  rw [List.getElem?_eq_getElem hnext, complete, Completion.Engine.step]
  simp only [turned, Completion.Engine.current, hcycle]

/-- A run without candidates has none in the next step either. -/
theorem complete_turned_none (hindex : r.index = none) (hfound : r.found = []) :
    (s.turned r none).complete [] .forward = s.turned r none := by
  have hcycle : cycle r.corpus r.lead none .forward = none := by
    rw [cycle_forward_first, ← Completion.Run.found, hfound]
    rfl
  rw [complete, Completion.Engine.step]
  simp only [turned, Completion.Engine.current, hindex, hcycle]

end Session

namespace Console

variable {setup : Setup} {c : Console}

/-- Press Tab some times. -/
def tabs (setup : Setup) : Nat → Act Console Unit
  | 0 => pure ()
  | k + 1 => do
    tabs setup k
    tab setup .forward

/-- While a run is under way, no names are asked for. -/
theorem names_turned (s : Session) (r : Completion.Run) (i : Option Nat) (host : Host) :
    names setup ⟨s.turned r i, host⟩ host.store = (.ok [], host.store) := by
  cases i <;> rfl

theorem tab_run_of_names {ns : List String} {store : Store}
    (hnames : names setup c c.host.store = (.ok ns, store)) (d : Direction) :
    (tab setup d).run c = (.ok (), ⟨c.session.complete ns d, { c.host with store := store }⟩) := by
  rw [tab_run, hnames]

/-- Presses of Tab ask for names once, and then go through the candidates, over and over. -/
theorem tabs_run {ns : List String} {store : Store} {r : Completion.Run}
    (hidle : c.session.completion.run = none)
    (hnames : names setup c c.host.store = (.ok ns, store))
    (hr : c.session.completion.fresh c.session.buffer c.session.cursor ns = r) (k : Nat) :
    (tabs setup (k + 1)).run c =
      (.ok (), ⟨c.session.turned r r.found[k % r.found.length]?,
        { c.host with store := store }⟩) := by
  have hindex : r.index = none := by
    rw [← hr]
    rfl
  induction k with
  | zero =>
    have hfirst : (tabs setup 1).run c = (tab setup .forward).run c := rfl
    rw [hfirst, tab_run_of_names hnames, Nat.zero_mod, Session.complete_of_idle hidle, hr]
  | succ k ih =>
    rw [tabs, Act.run_bind, ih]
    simp only
    rw [tab_run_of_names (names_turned _ _ _ _)]
    cases hi : r.found[k % r.found.length]? with
    | some i => rw [Session.complete_turned hi]
    | none =>
      have hfound : r.found = [] := by
        by_contra hne
        have hlt := Nat.mod_lt k (List.length_pos_of_ne_nil hne)
        rw [List.getElem?_eq_getElem hlt] at hi
        cases hi
      rw [Session.complete_turned_none hindex hfound, hfound]
      rfl

end Console

/-! ## The candidates behind a chain -/

theorem Scan.MemberChain.unmarked {chain : List Char} (h : MemberChain chain) :
    Lexer.Unmarked chain := by
  obtain ⟨d, r, rfl, -⟩ := h.exists_head
  obtain ⟨x, hx⟩ := Option.isSome_iff_exists.1 (List.getLast?_isSome.2 (List.cons_ne_nil d r))
  refine ⟨x, hx, ?_⟩
  rcases h.getLast x hx with hname | rfl
  · refine ⟨not_isBlank_of_isNameChar hname, ?_⟩
    rintro rfl
    cases hname
  · exact ⟨rfl, by decide⟩

/-- The lines of a run that are about the members with some names, behind what stands before the
word. -/
theorem Completion.Engine.exists_matching {e : Completion.Engine}
    {buffer before word chain : List Char} {cursor : Nat} (names : List String)
    (hbefore : (e.site buffer cursor).before = before)
    (hlead : (e.site buffer cursor).lead = before ++ word)
    (hquestion : (e.site buffer cursor).question = .members chain) :
    ∃ ns : List (List Char), ns.Pairwise (· < ·) ∧
      (∀ n, n ∈ ns ↔ Scan.isName n = true ∧ word <+: n ∧ ∃ name ∈ names, name.toList = n) ∧
      (e.fresh buffer cursor names).matching = ns.map (before ++ ·) := by
  have hcorpus : (e.fresh buffer cursor names).corpus = sortedLines
      (((names.map String.toList).filter Scan.isName).map (before ++ ·)) := by
    rw [fresh]
    simp only [hquestion, hbefore, fitting]
  have hmem (line : List Char) : line ∈ (e.fresh buffer cursor names).matching ↔
      ∃ n, (Scan.isName n = true ∧ word <+: n ∧ ∃ name ∈ names, name.toList = n) ∧
        before ++ n = line := by
    have hfresh : (e.fresh buffer cursor names).lead = before ++ word := hlead
    rw [Run.matching, List.mem_filter, hcorpus, mem_sortedLines, List.mem_map, hfresh]
    constructor
    · rintro ⟨⟨n, hn, rfl⟩, hprefix⟩
      obtain ⟨hnames, hname⟩ := List.mem_filter.1 hn
      refine ⟨n, ⟨hname, ?_, List.mem_map.1 hnames⟩, rfl⟩
      exact (List.prefix_append_right_inj before).1 (List.isPrefixOf_iff_prefix.1 hprefix)
    · rintro ⟨n, ⟨hname, hprefix, hnames⟩, rfl⟩
      refine ⟨⟨n, List.mem_filter.2 ⟨List.mem_map.2 hnames, hname⟩, rfl⟩, ?_⟩
      exact List.isPrefixOf_iff_prefix.2 ((List.prefix_append_right_inj before).2 hprefix)
  have hrises : (e.fresh buffer cursor names).matching.Pairwise (· < ·) := by
    rw [Run.matching, hcorpus]
    exact (pairwise_sortedLines _).filter _
  have hprefix : ∀ line ∈ (e.fresh buffer cursor names).matching, before <+: line := by
    intro line hline
    obtain ⟨n, -, rfl⟩ := (hmem line).1 hline
    exact List.prefix_append before n
  obtain ⟨ns, hns⟩ := exists_map_append hprefix
  rw [hns] at hmem hrises
  refine ⟨ns, pairwise_of_map_append hrises, fun n => ?_, hns⟩
  have hiff := hmem (before ++ n)
  simpa only [List.mem_map, List.append_cancel_left_eq, exists_eq_right] using hiff

namespace Session

/-- No run is under way, and the cursor is at the end of a line that ends with a chain, a dot and a
word, none of it with a placeholder. -/
structure BehindChain (s : Session) (operand chain word : List Char) : Prop where
  idle : s.completion.run = none
  lead_ne_nil : s.completion.expressionLead.toList ≠ []
  awaitsOperand : Scan.AwaitsOperand operand
  memberChain : Scan.MemberChain chain
  isNameChar : ∀ c ∈ word, Scan.isNameChar c = true
  free : s.completion.placeholder ∉ operand ++ (chain ++ '.' :: word)
  buffer_eq : s.buffer =
    s.completion.expressionLead.toList ++ (operand ++ (chain ++ '.' :: word))
  cursor_eq : s.cursor = 0

/-- The session with another word behind the chain. -/
def completedTo (s : Session) (operand chain n : List Char) : Session :=
  { s with buffer := s.completion.expressionLead.toList ++ (operand ++ (chain ++ '.' :: n)) }

/-- Two sessions differ in their completion run at most. -/
def SameButRun (s s' : Session) : Prop :=
  ∃ run, s' = { s with completion := { s.completion with run := run } }

variable {s : Session} {operand chain word : List Char}

theorem BehindChain.site_eq (h : s.BehindChain operand chain word) :
    s.completion.site s.buffer s.cursor =
      { before := s.completion.expressionLead.toList ++ (operand ++ (chain ++ ['.']))
        lead := s.buffer
        suffix := []
        tail := []
        question := .members chain } := by
  rw [h.buffer_eq, h.cursor_eq]
  exact Completion.Engine.site_of_memberChain h.lead_ne_nil h.awaitsOperand h.memberChain
    h.isNameChar h.free

/-- The members of the chain are asked for. -/
theorem BehindChain.question?_eq (h : s.BehindChain operand chain word) :
    s.completion.question? s.buffer s.cursor = some (.members chain) := by
  rw [Completion.Engine.question?, h.idle]
  simp only [h.site_eq]

/-- Where a session stands in a new run, in terms of the names that fit the word. -/
theorem BehindChain.exists_turned (h : s.BehindChain operand chain word) (names : List String)
    {r : Completion.Run} (hr : s.completion.fresh s.buffer s.cursor names = r) :
    ∃ ns : List (List Char), ns.Pairwise (· < ·) ∧
      (∀ n, n ∈ ns ↔ Scan.isName n = true ∧ word <+: n ∧ ∃ name ∈ names, name.toList = n) ∧
      ∀ k, (ns = [] → s.SameButRun (s.turned r r.found[k % r.found.length]?)) ∧
        ∀ n, ns[k % ns.length]? = some n →
          (s.completedTo operand chain n).SameButRun (s.turned r r.found[k % r.found.length]?) := by
  have hbefore := congrArg Completion.Site.before h.site_eq
  have hlead : (s.completion.site s.buffer s.cursor).lead =
      s.completion.expressionLead.toList ++ (operand ++ (chain ++ ['.'])) ++ word := by
    rw [h.site_eq]
    simp [h.buffer_eq]
  have htail : r.tail = [] := hr ▸ congrArg Completion.Site.tail h.site_eq
  obtain ⟨ns, hrises, hmem, hmatching⟩ := Completion.Engine.exists_matching names hbefore hlead
    (congrArg Completion.Site.question h.site_eq)
  refine ⟨ns, hrises, hmem, fun k => ?_⟩
  have hshown := r.map_found
  rw [← hr, hmatching, hr] at hshown
  have hlength : r.found.length = ns.length := by
    simpa only [List.length_map] using congrArg List.length hshown
  have hentry : r.found[k % r.found.length]?.map (r.corpus.getD · []) =
      ns[k % ns.length]?.map
        (s.completion.expressionLead.toList ++ (operand ++ (chain ++ ['.'])) ++ ·) := by
    rw [← List.getElem?_map, hshown, List.getElem?_map, hlength]
  generalize r.found[k % r.found.length]? = i at hentry ⊢
  constructor
  · rintro rfl
    obtain rfl : i = none := Option.map_eq_none_iff.1 hentry
    exact ⟨_, rfl⟩
  · intro n hn
    rw [hn] at hentry
    obtain ⟨i, rfl, hline⟩ := Option.map_eq_some_iff.1 hentry
    refine ⟨some { r with index := some i }, ?_⟩
    simp only [turned, completedTo, hline, htail, h.cursor_eq, List.append_assoc,
      List.singleton_append, List.append_nil, List.length_nil]

end Session

namespace Console

variable {setup : Setup} {c : Console} {operand chain word : List Char}

/-- The members of the chain are looked up as the chain is evaluated. -/
theorem lists_lookUp (h : Scan.MemberChain chain) (setup : Setup) (c : Console) :
    setup.context.Lists ((setup.context.evaluate (.ofList chain)).run c.host.store)
      (lookUp setup c chain) :=
  setup.context.lists_evaluate h.unmarked c.host.store

/-- Tab behind a chain and a dot, for any world.  If the chain has a value, presses of Tab go
through the members of the value that are names and start as the word does, in order and then from
the first again, and leave the line if there are none.  They leave it too if the evaluation of the
chain fails.  The host is as the chain leaves it. -/
theorem tabs_members (h : c.session.BehindChain operand chain word) :
    (∀ v store,
      (setup.context.evaluate (.ofList chain)).run c.host.store = (.ok (.value v), store) →
      ∃ ns : List (List Char), ns.Pairwise (· < ·) ∧
        (∀ n, n ∈ ns ↔ Scan.isName n = true ∧ word <+: n ∧
          ∃ e ∈ setup.context.world.membersOf store v, e.name.toList = n) ∧
        ∀ k, ∃ c', (tabs setup (k + 1)).run c = (.ok (), c') ∧
          c'.host = { c.host with store := store } ∧
          (ns = [] → c.session.SameButRun c'.session) ∧
          ∀ n, ns[k % ns.length]? = some n →
            (c.session.completedTo operand chain n).SameButRun c'.session) ∧
    ∀ f store,
      (setup.context.evaluate (.ofList chain)).run c.host.store = (.error (.failed f), store) →
      ∀ k, ∃ c', (tabs setup (k + 1)).run c = (.ok (), c') ∧
        c'.host = { c.host with store := store } ∧ c.session.SameButRun c'.session := by
  have hnames := @names_eq setup c chain h.question?_eq
  have hlists := lists_lookUp h.memberChain setup c
  generalize lookUp setup c chain = listed at hnames hlists
  refine ⟨fun v store hvalue => ?_, fun f store hfails k => ?_⟩
  · rw [hvalue] at hlists
    cases hlists
    obtain ⟨ns, hrises, hmem, hturned⟩ :=
      h.exists_turned ((setup.context.world.membersOf store v).map (·.name)) rfl
    refine ⟨ns, hrises, fun n => ?_, fun k => ?_⟩
    · rw [hmem n]
      simp only [List.mem_map, exists_exists_and_eq_and]
    · exact ⟨_, tabs_run h.idle hnames rfl k, rfl, hturned k⟩
  · rw [hfails] at hlists
    cases hlists
    obtain ⟨ns, -, hmem, hturned⟩ := h.exists_turned [] rfl
    have hnil : ns = [] := by
      refine List.eq_nil_iff_forall_not_mem.2 fun n hn => ?_
      obtain ⟨-, -, name, hname, -⟩ := (hmem n).1 hn
      cases hname
    exact ⟨_, tabs_run h.idle hnames rfl k, rfl, (hturned k).1 hnil⟩

/-- A line of the game's console, with no run under way. -/
def typed (placeholder : Char) (line : String) : Console :=
  ⟨{ Session.new { placeholder := placeholder } with buffer := line.toList },
    { store := (Game.newGame.run {}).2 }⟩

/-- What the game's console is connected to. -/
def game (placeholder : Char) : Setup :=
  .new { placeholder := placeholder } Game.world (.object ⟨2⟩)

theorem evaluate_player (placeholder : Char) :
    ((game placeholder).context.evaluate (.ofList "player".toList)).run (Game.newGame.run {}).2 =
      (.ok (.value (.object ⟨1⟩)), (Game.newGame.run {}).2) := by
  have hparse : Parser.parse "player" = .ok ⟨some (.name "player" none), false⟩ := by
    cbv
  rw [String.ofList_toList, Context.run_evaluate_of_ok _ hparse]
  rfl

theorem memberChain_player : Scan.MemberChain "player".toList :=
  .link (.name (by decide +kernel))

theorem behindChain_player :
    (typed '#' "call player.Al").session.BehindChain [] "player".toList "Al".toList where
  idle := rfl
  lead_ne_nil := by decide +kernel
  awaitsOperand := by rintro c ⟨⟩
  memberChain := memberChain_player
  isNameChar := List.all_eq_true.1 (by decide +kernel)
  free := by decide +kernel
  buffer_eq := by decide +kernel
  cursor_eq := rfl

/-- The theorem behind the player of a game: one member begins with these letters, and any number of
presses of Tab completes it. -/
theorem tabs_members_player :
    (typed '#' "call player.Al").session.BehindChain [] "player".toList "Al".toList ∧
      ∃ c', (tabs (game '#') 3).run (typed '#' "call player.Al") = (.ok (), c') ∧
        c'.session.buffer = "call player.Alive".toList := by
  have hlisted : ∀ e ∈ Game.world.membersOf (Game.newGame.run {}).2 (.object ⟨1⟩),
      "Al".toList <+: e.name.toList → e.name = "Alive" := by
    decide +kernel
  have halive : ∃ e ∈ Game.world.membersOf (Game.newGame.run {}).2 (.object ⟨1⟩),
      e.name = "Alive" := by
    decide +kernel
  obtain ⟨ns, -, hmem, htabs⟩ := (tabs_members behindChain_player).1 _ _ (evaluate_player '#')
  have hall : ∀ n ∈ ns, n = "Alive".toList := by
    intro n hn
    obtain ⟨-, hprefix, e, he, rfl⟩ := (hmem n).1 hn
    rw [hlisted e he hprefix]
  have hpos : 0 < ns.length := by
    obtain ⟨e, he, hname⟩ := halive
    have hmember : "Alive".toList ∈ ns :=
      (hmem _).2 ⟨by decide +kernel, by decide +kernel, e, he, by rw [hname]⟩
    exact List.length_pos_of_mem hmember
  obtain ⟨c', hrun, -, -, hshown⟩ := htabs 2
  have hlt : 2 % ns.length < ns.length := Nat.mod_lt 2 hpos
  obtain ⟨run, hsession⟩ := hshown _ (List.getElem?_eq_getElem hlt)
  have hline : ((typed '#' "call player.Al").session.completedTo [] "player".toList
      "Alive".toList).buffer = "call player.Alive".toList := by
    decide +kernel
  refine ⟨behindChain_player, c', hrun, ?_⟩
  rw [hsession, hall _ (List.getElem_mem hlt)]
  exact hline

/-- If the dot is the placeholder, it is read as a space, and behind a space no member fits: the
player has members, and Tab leaves the line. -/
theorem tab_dotPlaceholder :
    ({ placeholder := '.' } : Config).validate = .ok { placeholder := '.' } ∧
      '.' ∉ "player".toList ∧ Scan.MemberChain "player".toList ∧
      ((game '.').context.evaluate (.ofList "player".toList)).run (Game.newGame.run {}).2 =
        (.ok (.value (.object ⟨1⟩)), (Game.newGame.run {}).2) ∧
      (∃ e ∈ Game.world.membersOf (Game.newGame.run {}).2 (.object ⟨1⟩),
        Scan.isName e.name.toList = true) ∧
      ((tab (game '.') .forward).run (typed '.' "call player.")).2.session.buffer =
        "call player.".toList := by
  refine ⟨rfl, by decide +kernel, memberChain_player, evaluate_player '.', by decide +kernel, ?_⟩
  decide +kernel

end Console

end DevConsole
