/-
# `DevConsole.Proofs.Command.Dispatch` — what dispatch adds to what commands do

A handler is given the environment of a command, that is the scrollback and the host, and may do
with it what it likes.  Handlers are arbitrary computations here, and so what they do is stated as a
relation `R` between the environments before and after, however they end (`Act.Does`):

    Reports      some number of steps, among them printing a line and logging a record
    Services     and changing the objects, and asking the host for anything but its input
    Works        and dropping what was printed

Whatever the relation is, if reports are in it then dispatch adds nothing to what the handlers do
(`dispatchLine_does`).  The commands of a fresh console do no more than works (`does_of_mem`), and
but for `clear` no more than services (`clear_or_does`).  Commands that are given as data do works
(`does_of_register`).
-/
import DevConsole.Blueprint.Command
import DevConsole.Command.Standard

namespace DevConsole

variable {α β : Type}

/-- What a request switches the input of the host to. -/
def HostRequest.input? : HostRequest → Option Bool
  | input enabled => some enabled
  | _ => none

/-! ## Steps on an environment -/

namespace Environment

/-- Some number of steps, printing and logging among them. -/
structure Reports (R : Environment → Environment → Prop) : Prop where
  refl : ∀ env, R env env
  trans : ∀ {a b c}, R a b → R b c → R a c
  print : ∀ env color text, R env (env.print color text)
  record : ∀ env severity text, R env (env.record severity text)

/-- And besides reports, changes of the objects, and requests to the host other than for its
input. -/
structure Services (R : Environment → Environment → Prop) : Prop extends Reports R where
  store : ∀ env s, R env { env with host := { env.host with store := s } }
  request : ∀ env r, r.input? = none → R env { env with host := env.host.request r }

/-- And besides services, clearing the scrollback. -/
structure Works (R : Environment → Environment → Prop) : Prop extends Services R where
  clear : ∀ env, R env { env with scrollback := env.scrollback.clear }

end Environment

/-- A computation leads from an environment to a related one, however it ends. -/
def Act.Does (R : Environment → Environment → Prop) (a : Act Environment α) : Prop :=
  ∀ env, R env (a.run env).2

/-- The handler of a command, if it has one, leads from an environment to a related one. -/
def Command.Does (R : Environment → Environment → Prop) (c : Command) : Prop :=
  ∀ handler, c.action = .run handler → ∀ palette args, Act.Does R (handler palette args)

/-- A line runs a command: its first word is a name of it. -/
def Registry.Runs (r : Registry) (line : String) (c : Command) : Prop :=
  ∃ name words, (Text.words line.toList).map String.ofList = name :: words ∧ r.get? name = some c

theorem Registry.Runs.mem {r : Registry} {line : String} {c : Command} (h : r.Runs line c) :
    c ∈ r.commands := by
  obtain ⟨name, words, -, hc⟩ := h
  exact List.mem_of_find?_eq_some hc

theorem Command.does_of_run {R : Environment → Environment → Prop} {c : Command}
    {handler : Handler} (hc : c.action = .run handler)
    (h : ∀ palette args, Act.Does R (handler palette args)) : c.Does R := by
  intro handler' h'
  rw [hc] at h'
  cases h'
  exact h

section Reports

variable {R : Environment → Environment → Prop} (hR : Environment.Reports R)
include hR

namespace Act.Does

theorem pure (x : α) : Does R (Pure.pure x : Act Environment α) := fun env => hR.refl env

theorem refuse (c : Cause) : Does R (Act.refuse c : Act Environment α) := fun env => hR.refl env

theorem bind {a : Act Environment α} {f : α → Act Environment β} (ha : Does R a)
    (hf : ∀ x, Does R (f x)) : Does R (a >>= f) := by
  intro env
  have hfirst := ha env
  rw [Act.run_bind]
  rcases hrun : a.run env with ⟨e | x, env'⟩
  · rw [hrun] at hfirst
    exact hfirst
  · rw [hrun] at hfirst
    exact hR.trans hfirst (hf x env')

end Act.Does

theorem Environment.report_does (palette : Palette) (env : Environment) (f : Failure) :
    R env (env.report palette f) := by
  unfold report
  generalize reportLines f = texts
  induction texts generalizing env with
  | nil => exact hR.refl _
  | cons text texts ih =>
    have hline := hR.trans (hR.record env .warn text) (hR.print _ palette.errorColor text)
    exact hR.trans hline (ih (env.reportLine palette text))

/-! ## Dispatch -/

namespace Registry

theorem help_does (r : Registry) (palette : Palette) (name : String) :
    Act.Does R (r.help palette name) := by
  unfold help
  split
  · exact fun env => hR.print env _ _
  split
  · exact .refuse hR _
  · intro env
    rw [Act.run_modify]
    simp only
    split
    · exact hR.print env _ _
    · exact hR.trans (hR.print env _ _) (hR.print _ _ _)

theorem perform_does (r : Registry) {c : Command} (hc : c.Does R) (palette : Palette)
    (args : Args) : Act.Does R (r.perform palette c args) := by
  unfold perform
  split
  · exact help_does hR r palette _
  · rename_i handler h
    exact hc handler h palette args

/-- Dispatch does what the command of the line does, and prints and logs. -/
theorem dispatchLine_does {r : Registry} {line : String} (hr : ∀ c, r.Runs line c → c.Does R)
    (palette : Palette) (env : Environment) : R env (r.dispatchLine palette line env).2 := by
  unfold dispatchLine
  split
  · exact hR.refl _
  rename_i name words hwords
  unfold dispatch
  split
  · exact hR.trans (hR.record env .warn _) (hR.print _ palette.errorColor _)
  · rename_i c hc
    have hperform := perform_does hR r (hr c ⟨name, words, hwords, hc⟩) palette
    split
    · rename_i env' hrun
      exact congrArg Prod.snd hrun ▸ hperform _ env
    · rename_i a env' hrun
      have henv := congrArg Prod.snd hrun ▸ hperform _ env
      exact hR.trans henv (env'.report_does hR palette _)

end Registry

end Reports

/-! ## The commands of a fresh console -/

namespace Standard

variable {R : Environment → Environment → Prop}

theorem printOutcome_does (hR : Environment.Reports R) (c : Catalog) (color : Color) (o : Outcome)
    (env : Environment) : R env (printOutcome c color o env) := by
  cases o with
  | value v => exact hR.print _ _ _
  | members es =>
    show R env (es.foldl (fun env e => env.print color e.text) env)
    induction es generalizing env with
    | nil => exact hR.refl _
    | cons e es ih => exact hR.trans (hR.print env _ _) (ih (env.print color e.text))

/-- A request, and a record of it. -/
theorem request_does (hR : Environment.Reports R) (text : String) {r : HostRequest}
    (hr : ∀ env, R env { env with host := env.host.request r }) :
    Act.Does R (do logInfo text; request r) :=
  .bind hR (fun env => hR.record env .info text) fun _ => hr

/-- The commands of a fresh console but `clear` report, make requests other than for the input, and
change the objects by evaluating. -/
theorem clear_or_evaluates {cx : Context} {placeholder : Char} {c : Command}
    (h : c ∈ (registry cx placeholder).commands) :
    c = clear ∨ ∀ {R}, Environment.Reports R →
      (∀ env r, HostRequest.input? r = none → R env { env with host := env.host.request r }) →
      (∀ source env, R env { env with
        host := { env.host with store := ((cx.evaluate source).run env.host.store).2 } }) →
      c.Does R := by
  simp only [registry, List.mem_cons, List.not_mem_nil, or_false] at h
  rcases h with rfl | rfl | rfl | rfl | rfl | rfl | rfl
  · exact .inr fun _ _ _ handler h => by cases h
  · exact .inl rfl
  · exact .inr fun hR hrequest _ => Command.does_of_run rfl fun _ _ =>
      request_does hR _ (hrequest · _ rfl)
  · exact .inr fun hR hrequest _ => Command.does_of_run rfl fun _ _ =>
      request_does hR _ (hrequest · _ rfl)
  · exact .inr fun hR hrequest _ => Command.does_of_run rfl fun _ _ =>
      request_does hR _ (hrequest · _ rfl)
  · refine .inr fun {R} hR hrequest _ => Command.does_of_run rfl fun _ args => ?_
    show Act.Does R (if args.float "fps" == 0 then _ else _)
    split
    · exact .pure hR _
    · exact request_does hR _ (hrequest · _ rfl)
  · refine .inr fun hR _ hevaluate => Command.does_of_run rfl fun palette args => ?_
    refine .bind hR (fun env => hevaluate _ env) fun o env => ?_
    exact printOutcome_does hR cx.world.catalog palette.outputColor o env

/-- All commands of a fresh console but `clear` do services. -/
theorem clear_or_does {cx : Context} {placeholder : Char} {c : Command}
    (h : c ∈ (registry cx placeholder).commands) :
    c = clear ∨ ∀ {R}, Environment.Services R → c.Does R :=
  (clear_or_evaluates h).imp_right fun hdoes _ hR =>
    hdoes hR.toReports hR.request fun _ env => hR.store env _

theorem clear_does {R : Environment → Environment → Prop} (hR : Environment.Works R) :
    clear.Does R :=
  Command.does_of_run rfl fun _ _ => hR.clear

/-- The commands of a fresh console do works. -/
theorem does_of_mem {R : Environment → Environment → Prop} (hR : Environment.Works R) {cx : Context}
    {placeholder : Char} {c : Command} (h : c ∈ (registry cx placeholder).commands) : c.Does R := by
  rcases clear_or_does h with rfl | hc
  · exact clear_does hR
  · exact hc hR.toServices

end Standard

/-! ## Commands given as data -/

section Works

variable {R : Environment → Environment → Prop} (hR : Environment.Works R)
include hR

theorem CommandStep.run_does (palette : Palette) (args : Args) (step : CommandStep) :
    Act.Does R (step.run palette args) := by
  intro env
  cases step with
  | report f => exact env.report_does hR.toReports palette f
  | clear => exact hR.clear env
  | exit => exact hR.request env .exit rfl
  | print text => exact hR.print env _ _
  | info text => exact hR.print env _ _
  | error text => exact hR.print env _ _
  | colored color text => exact hR.print env _ _
  | count => exact hR.print env _ _
  | argument name => exact hR.print env _ _
  | fail f => exact hR.refl env
  | panic p => exact hR.refl env

theorem CommandStep.runAll_does (palette : Palette) (args : Args) (steps : List CommandStep) :
    Act.Does R (CommandStep.runAll palette args steps) := by
  induction steps with
  | nil => exact .pure hR.toReports _
  | cons step steps ih => exact .bind hR.toReports (step.run_does hR palette args) fun _ => ih

/-- A registry stays one whose commands lead to related environments if a command given as data
joins it. -/
theorem CommandPlan.does_of_register {p : CommandPlan} {r r' : Registry}
    (hr : ∀ c ∈ r.commands, c.Does R) (h : p.register r = .ok r') :
    ∀ c ∈ r'.commands, c.Does R := by
  obtain ⟨params, -, hcommands⟩ := Registry.commands_of_register_eq_ok h
  rw [hcommands]
  intro c hc
  rcases List.mem_append.1 hc with hc | hc
  · exact hr c hc
  · cases List.mem_singleton.1 hc
    exact Command.does_of_run rfl fun palette args =>
      CommandStep.runAll_does hR palette args p.steps

end Works

end DevConsole
