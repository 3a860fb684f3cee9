/-
# `DevConsole.Proofs.Session.HostInput` — the input of the host mirrors the console

While the console is open, the host is not to act on keys that are typed into it.  If it is
configured so, the console has the host switch its own input off and on.  The host cannot ask back:
with a switch missing, its input would be dead after the console has closed, or live under it.

The requests of a run are read off turn by turn (`Turn.switches`).  A turn makes one if it opens or
closes the console, and none otherwise (`switches_eq`).  From this it follows by induction over the
turns that they alternate, beginning with off, and that the last one is the opposite of whether the
console is open (`mirrors_switchesAll`).  Handlers of commands have the host at hand and could
switch the input themselves, which must be excluded; those of a fresh console do not.
-/
import Mathlib.Data.List.Induction
import Mathlib.Data.List.Iterate
import DevConsole.Demo.Game
import DevConsole.Proofs.Command.Dispatch
import DevConsole.Proofs.Session.Outcome

namespace DevConsole

/-! ## Requests -/

namespace Host

/-- What the host was asked to switch its input to, in order. -/
def switches (h : Host) : List Bool := h.requests.filterMap HostRequest.input?

theorem switches_request (h : Host) (r : HostRequest) :
    (h.request r).switches = h.switches ++ r.input?.toList := by
  rw [switches, request, List.filterMap_append]
  cases hr : r.input? <;> simp [switches, hr]

end Host

/-- The input of the host is not switched from one environment to the other. -/
def Environment.SameInput (env env' : Environment) : Prop :=
  env'.host.switches = env.host.switches

theorem Environment.works_sameInput : Works SameInput where
  refl _ := rfl
  trans h h' := h'.trans h
  print _ _ _ := rfl
  record _ _ _ := rfl
  store _ _ := rfl
  request env r hr := by
    show (env.host.request r).switches = _
    rw [Host.switches_request, hr]
    exact List.append_nil _
  clear _ := rfl

/-- The handler of a command, if it has one, does not switch the input of the host. -/
def Command.LeavesInput (c : Command) : Prop := c.Does Environment.SameInput

/-! ## Operations -/

/-- What the host is asked for on the way from one session to another: to switch its input, if the
console opens or closes. -/
def Session.switches (s s' : Session) : List Bool :=
  if s.config.suppressInput && s.isOpen != s'.isOpen then [!s'.isOpen] else []

theorem Session.switches_of_isOpen_eq {s s' : Session} (h : s'.isOpen = s.isOpen) :
    s.switches s' = [] := by
  simp [switches, h]

namespace Console

variable {setup : Setup} {op : Operation} {c c' : Console}

/-- The host is asked for what the sessions before and after are different in. -/
def Asks (c c' : Console) : Prop := c'.host.switches = c.host.switches ++ c.session.switches c'.session

theorem asks_of_isOpen_eq (hswitches : c'.host.switches = c.host.switches)
    (hopen : c'.session.isOpen = c.session.isOpen) : c.Asks c' := by
  rw [Asks, Session.switches_of_isOpen_eq hopen, hswitches, List.append_nil]

theorem switches_switchInput (c : Console) (enabled : Bool) :
    (c.switchInput enabled).host.switches =
      c.host.switches ++ if c.session.config.suppressInput then [enabled] else [] := by
  unfold switchInput
  split
  · exact c.host.switches_request (.input enabled)
  · exact (List.append_nil _).symm

theorem asks_reveal (c : Console) : c.Asks c.reveal := by
  unfold Asks
  rw [session_reveal]
  unfold reveal
  split
  · rename_i hmay
    have hclosed : c.session.isOpen = false := by
      unfold Session.mayOpen at hmay
      simp_all
    show (switchInput _ false).host.switches = _
    rw [switches_switchInput]
    cases hsuppress : c.session.config.suppressInput <;>
      simp [Session.switches, edit, hclosed, hsuppress]
  · exact asks_of_isOpen_eq rfl rfl

theorem asks_close (c : Console) : c.Asks c.close := by
  unfold Asks
  rw [session_close]
  unfold close
  split
  · rename_i hopen
    show (switchInput _ true).host.switches = _
    rw [switches_switchInput]
    simp [Session.switches, Session.resetCompletion, edit, hopen]
  · exact asks_of_isOpen_eq rfl rfl

/-- A line that is dispatched asks for nothing if the commands do not. -/
theorem asks_dispatchLine (hr : ∀ c ∈ setup.registry.commands, c.LeavesInput) (line : String)
    (c : Console) : c.Asks (dispatchLine setup line c).2 := by
  have hruns : ∀ c, setup.registry.Runs line c → c.LeavesInput := fun c hc => hr c hc.mem
  refine asks_of_isOpen_eq ?_ rfl
  exact Registry.dispatchLine_does Environment.works_sameInput.toReports hruns
    c.session.config.palette ⟨c.host, c.session.scrollback⟩

/-- Whatever an operation comes to, the host is asked for exactly what it takes to follow the
console. -/
theorem Outcome.asks (h : Outcome setup c op c')
    (hr : ∀ c ∈ setup.registry.commands, c.LeavesInput) : c.Asks c' := by
  cases h with
  | revealed => exact c.asks_reveal
  | closed => exact c.asks_close
  | toggled shift =>
    unfold toggle
    split
    · exact c.asks_close
    · exact c.asks_reveal
  | escaped shift hkey hopen => exact (c.edit (·.resetCompletion)).asks_close
  | submitted line => exact asks_dispatchLine hr line (c.edit _)
  | entered shift line hkey hopen => exact asks_dispatchLine hr line (edit _ _)
  | fired shift slot hkey hslot =>
    unfold fire
    split
    · exact asks_of_isOpen_eq rfl rfl
    · rename_i line hline
      exact asks_dispatchLine hr line (c.info _)
  | completed shift names d store hkey hopen =>
    rw [Session.complete_eq]
    exact asks_of_isOpen_eq rfl rfl
  | _ => exact asks_of_isOpen_eq rfl rfl

end Console

/-! ## Turns -/

namespace Turn

/-- The commands of a turn do not switch the input of the host. -/
def LeavesInput (t : Turn) : Prop := ∀ c ∈ t.setup.registry.commands, c.LeavesInput

/-- The commands of a fresh console do not switch the input of the host. -/
theorem leavesInput_of_standard {t : Turn} {cx : Context} {placeholder : Char}
    (h : t.setup.registry = Standard.registry cx placeholder) : t.LeavesInput := by
  intro c hc
  rw [h] at hc
  exact Standard.does_of_mem Environment.works_sameInput hc

/-- What the host is asked during a turn to switch its input to. -/
def switches (t : Turn) (s : Session) : List Bool :=
  (t.operation.perform t.setup ⟨s, t.host⟩).host.switches.drop t.host.switches.length

/-- What the host is asked during some turns to switch its input to. -/
def switchesAll : Session → List Turn → List Bool
  | _, [] => []
  | s, t :: ts => t.switches s ++ switchesAll (t.take s) ts

theorem switchesAll_append (s : Session) (ts us : List Turn) :
    switchesAll s (ts ++ us) = switchesAll s ts ++ switchesAll (takeAll s ts) us := by
  induction ts generalizing s with
  | nil => rfl
  | cons t ts ih =>
    show t.switches s ++ switchesAll (t.take s) (ts ++ us) = _
    rw [ih, ← List.append_assoc]
    rfl

/-- A turn asks for what the sessions before and after are different in. -/
theorem switches_eq {t : Turn} (ht : t.LeavesInput) (s : Session) :
    t.switches s = s.switches (t.take s) := by
  have hasks := (t.take_outcome s).asks ht
  unfold Console.Asks at hasks
  rw [switches, hasks]
  exact List.drop_left

theorem switchesAll_concat {t : Turn} (ht : t.LeavesInput) (s : Session) (ts : List Turn) :
    switchesAll s (ts ++ [t]) =
      switchesAll s ts ++ (takeAll s ts).switches (takeAll s (ts ++ [t])) := by
  rw [switchesAll_append, takeAll_concat, ← switches_eq ht]
  exact congrArg _ (List.append_nil _)

/-! ## The mirror -/

/-- Requests that alternate, beginning with off, up to the opposite of whether the console is
open. -/
structure Mirrors (requests : List Bool) (s : Session) : Prop where
  alternate : requests = .iterate not false requests.length
  isOpen_eq : s.isOpen = not^[requests.length] false

namespace Mirrors

variable {requests : List Bool} {s s' : Session}

theorem isOpen_of_nil (h : Mirrors [] s) : s.isOpen = false := h.isOpen_eq

theorem getLast?_getD (h : Mirrors requests s) : requests.getLast?.getD true = !s.isOpen := by
  obtain ⟨halternate, hopen⟩ := h
  generalize requests.length = n at halternate hopen
  subst halternate
  cases n with
  | zero =>
    rw [hopen]
    rfl
  | succ n =>
    have hlast : (List.iterate not false (n + 1)).getLast? = some (not^[n] false) := by
      rw [List.iterate_add]
      exact List.getLast?_concat
    rw [hlast, hopen, Function.iterate_succ_apply', Bool.not_not]
    rfl

/-- What a turn asks for goes on with the alternation. -/
theorem append (h : Mirrors requests s) (hsuppress : s.config.suppressInput = true) :
    Mirrors (requests ++ s.switches s') s' := by
  by_cases hsame : s'.isOpen = s.isOpen
  · rw [Session.switches_of_isOpen_eq hsame, List.append_nil]
    exact ⟨h.alternate, hsame.trans h.isOpen_eq⟩
  · have hopens : s'.isOpen = !s.isOpen := Bool.eq_not_of_ne hsame
    have hswitches : s.switches s' = [s.isOpen] := by
      simp [Session.switches, hsuppress, hopens]
    rw [hswitches]
    constructor
    · rw [List.length_append, List.length_singleton, List.iterate_add, ← h.alternate, h.isOpen_eq]
      rfl
    · rw [List.length_append, List.length_singleton, Function.iterate_succ_apply', ← h.isOpen_eq]
      exact hopens

end Mirrors

theorem mirrors_switchesAll {cfg : Config} (hsuppress : cfg.suppressInput = true) {ts : List Turn}
    (hts : ∀ t ∈ ts, t.LeavesInput) :
    Mirrors (switchesAll (.new cfg) ts) (takeAll (.new cfg) ts) := by
  induction ts using List.reverseRecOn with
  | nil => exact ⟨rfl, rfl⟩
  | append_singleton ts t ih =>
    obtain ⟨hts, ht⟩ := List.forall_mem_append.1 hts
    rw [switchesAll_concat (List.forall_mem_singleton.1 ht)]
    refine (ih hts).append ?_
    rw [config_takeAll]
    exact hsuppress

theorem switchesAll_of_not_suppress {cfg : Config} (hsuppress : cfg.suppressInput = false)
    {ts : List Turn} (hts : ∀ t ∈ ts, t.LeavesInput) : switchesAll (.new cfg) ts = [] := by
  induction ts using List.reverseRecOn with
  | nil => rfl
  | append_singleton ts t ih =>
    obtain ⟨hts, ht⟩ := List.forall_mem_append.1 hts
    have hnever : (takeAll (.new cfg) ts).config.suppressInput = false := by
      rw [config_takeAll]
      exact hsuppress
    rw [switchesAll_concat (List.forall_mem_singleton.1 ht), ih hts, Session.switches, hnever]
    rfl

/-- As long as the console does not open, nothing is asked. -/
theorem switchesAll_of_never_open (cfg : Config) {ts : List Turn}
    (hts : ∀ t ∈ ts, t.LeavesInput)
    (hclosed : ∀ us, us <+: ts → (takeAll (.new cfg) us).isOpen = false) :
    switchesAll (.new cfg) ts = [] := by
  induction ts using List.reverseRecOn with
  | nil => rfl
  | append_singleton ts t ih =>
    obtain ⟨hts, ht⟩ := List.forall_mem_append.1 hts
    have hbefore : ts <+: ts ++ [t] := List.prefix_append ts [t]
    have hsame : (takeAll (.new cfg) (ts ++ [t])).isOpen = (takeAll (.new cfg) ts).isOpen :=
      (hclosed _ List.prefix_rfl).trans (hclosed ts hbefore).symm
    rw [switchesAll_concat (List.forall_mem_singleton.1 ht),
      ih hts fun us hus => hclosed us (hus.trans hbefore), Session.switches_of_isOpen_eq hsame]
    rfl

/-- If the console is to suppress the input of the host, it has it switched off and on by turns, not
at all exactly if the console was never open, and so that after every turn the input is on exactly
if the console is closed.  Otherwise it leaves it alone. -/
theorem input_mirrors (cfg : Config) {ts : List Turn} (hts : ∀ t ∈ ts, t.LeavesInput) :
    (cfg.suppressInput = true →
      switchesAll (.new cfg) ts = .iterate not false (switchesAll (.new cfg) ts).length ∧
      (switchesAll (.new cfg) ts = [] ↔
        ∀ us, us <+: ts → (takeAll (.new cfg) us).isOpen = false) ∧
      ∀ us, us <+: ts →
        (switchesAll (.new cfg) us).getLast?.getD true = !(takeAll (.new cfg) us).isOpen) ∧
    (cfg.suppressInput = false → switchesAll (.new cfg) ts = []) := by
  refine ⟨fun hsuppress => ?_, fun hsuppress => switchesAll_of_not_suppress hsuppress hts⟩
  have hmirrors : ∀ us, us <+: ts → Mirrors (switchesAll (.new cfg) us) (takeAll (.new cfg) us) :=
    fun us hus => mirrors_switchesAll hsuppress fun t ht => hts t (hus.subset ht)
  refine ⟨(hmirrors ts List.prefix_rfl).alternate, ⟨?_, switchesAll_of_never_open cfg hts⟩,
    fun us hus => (hmirrors us hus).getLast?_getD⟩
  intro hnone us hus
  have hprefix := hmirrors us hus
  obtain ⟨vs, rfl⟩ := hus
  rw [switchesAll_append, List.append_eq_nil_iff] at hnone
  exact (hnone.1 ▸ hprefix).isOpen_of_nil

/-- The game's console, opened, and closed by Escape. -/
def visit : List Turn :=
  [⟨.new {} Game.world .null, {}, .reveal⟩,
    ⟨.new {} Game.world .null, {}, .event (.keyPress .escape false)⟩]

/-- The game's input is switched off for the visit, and on again. -/
theorem input_mirrors_visit :
    (∀ t ∈ visit, t.LeavesInput) ∧ ({} : Config).suppressInput = true ∧
      switchesAll (.new {}) visit = [false, true] ∧
      (switchesAll (.new {}) visit).getLast?.getD true = !(takeAll (.new {}) visit).isOpen := by
  have hleaves : ∀ t ∈ visit, t.LeavesInput :=
    List.forall_mem_cons.2 ⟨leavesInput_of_standard rfl,
      List.forall_mem_singleton.2 (leavesInput_of_standard rfl)⟩
  obtain ⟨halternate, -, hlast⟩ := (input_mirrors {} hleaves).1 rfl
  exact ⟨hleaves, rfl, halternate, hlast _ List.prefix_rfl⟩

end Turn

end DevConsole
