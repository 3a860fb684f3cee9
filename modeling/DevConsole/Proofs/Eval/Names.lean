/-
# `DevConsole.Proofs.Eval.Names` — what an unqualified name denotes

A name without a receiver is a member of the root, and the keywords of the builtin types are names
as well.  Which of the two is meant is decided by how reading the member ends, and not by whether
there is one:

    reading the member    a keyword         any other name
    gives a value         the value         the value
    panics                the panic         the panic
    fails                 the type          the failure

A root without such a member fails (`World.readMember_of_not_hasMember`), and there a keyword is its
type and every other name the failure of the look-up.  But a member whose own getter fails is hidden
by a keyword just the same, and the failure with it (`Sealed.keyword_hides_failure`).
-/
import DevConsole.Proofs.Eval.ReadBack

namespace DevConsole

/-- The type among whose members a name is looked up for a value, also for an object in use. -/
def Store.ownerType? (s : Store) : Value → Option TypeRef
  | .type t => some t
  | .object r => (s.object? r).map (·.type)
  | v => s.typeOf? v

theorem Store.ownerType?_of_receiverType {s : Store} {root : Value} {name : String} {t : TypeRef}
    {staticOnly : Bool} (h : s.receiverType root name = .ok (t, staticOnly)) :
    s.ownerType? root = some t := by
  unfold receiverType at h
  split at h
  · cases h
  · cases h
    rfl
  · split at h
    · rename_i ht
      cases h
      cases root with
      | object r =>
        obtain ⟨o, ho, hfree⟩ : ∃ o, s.object? r = some o ∧ o.type = t := by
          simp only [typeOf?] at ht
          split at ht
          · rename_i o ho
            split at ht
            · cases ht
            · exact ⟨o, ho, by simpa using ht⟩
          · cases ht
        rw [ownerType?, ho, Option.map_some, hfree]
      | null => cases ht
      | type u => cases ht
      | _ => exact ht
    · cases h

namespace World

variable {w : World} {s s' : Store} {root : Value} {name : String}

/-- The type of a value has a member with a name. -/
def HasMember (w : World) (s : Store) (root : Value) (name : String) : Prop :=
  ∃ t, s.ownerType? root = some t ∧ (w.find? t name).isSome = true

/-- The failure of looking up a member that is not there. -/
def lookupFailure (w : World) (s : Store) (root : Value) (name : String) : Failure :=
  match s.receiverType root name with
  | .error f => f
  | .ok (t, _) => w.unresolved t name

/-- What is not there is not read, and nothing happens. -/
theorem readMember_of_not_hasMember (h : ¬ w.HasMember s root name) :
    (w.readMember root name).run s = (.error (.failed (w.lookupFailure s root name)), s) := by
  rw [run_readMember]
  unfold lookupFailure
  cases hr : s.receiverType root name with
  | error f => rfl
  | ok found =>
    obtain ⟨t, staticOnly⟩ := found
    cases hfind : w.find? t name with
    | none => simp only [hfind]
    | some m =>
      have hmember : w.HasMember s root name :=
        ⟨t, Store.ownerType?_of_receiverType hr, by rw [hfind]; rfl⟩
      exact absurd hmember h

/-- A keyword is its type wherever reading the member fails. -/
theorem readName_of_failed {b : Builtin} {f : Failure} (hname : Builtin.ofName? name = some b)
    (h : (w.readMember root name).run s = (.error (.failed f), s')) :
    (w.readName root name).run s = (.ok (.type (.builtin b)), s') := by
  show w.readName root name s = _
  rw [readName, show w.readMember root name s = _ from h]
  simp only [hname]

/-- A name that is no keyword is the member, and so is a keyword where reading the member gives a
value or panics. -/
theorem readName_of_or (h : Builtin.ofName? name = none ∨
      ∀ f s', (w.readMember root name).run s ≠ (.error (.failed f), s')) :
    (w.readName root name).run s = (w.readMember root name).run s := by
  show w.readName root name s = w.readMember root name s
  rw [readName]
  rcases hrun : w.readMember root name s with ⟨(f | p) | v, s'⟩
  · obtain hname | hread := h
    · simp only [hname]
    · exact absurd hrun (hread f s')
  · rfl
  · rfl

end World

namespace Context

variable (cx : Context)

theorem eval_name_run (name : String) (r : Run) : (cx.eval (.name name none)).run r =
    (EvalM.framed name (EvalM.host (cx.world.readName cx.root name))).run r := by
  rw [eval, evalSigned]
  exact congrArg (Act.run · r) (bind_pure _)

/-- Frames around host code that gives a value. -/
theorem framed_host_eq_ok {a : HostM Value} {label : String} {s s' : Store} {F : List String}
    {v : Value} (h : a.run s = (.ok v, s')) :
    (EvalM.framed label (EvalM.host a)).run ⟨s, F⟩ = (.ok v, ⟨s', F⟩) := by
  refine EvalM.framed_run ?_
  rw [EvalM.run_host, h]

/-- Frames around host code that fails. -/
theorem framed_host_eq_failed {a : HostM Value} {label : String} {s s' : Store} {F : List String}
    {f : Failure} (h : a.run s = (.error (.failed f), s')) :
    (EvalM.framed label (EvalM.host a)).run ⟨s, F⟩ =
      (.error (.failed (f.traced (label :: F))), ⟨s', F⟩) := by
  show EvalM.framed label (EvalM.host a) ⟨s, F⟩ = _
  have hrun : EvalM.host a ⟨s, label :: F⟩ = (.error (.failed f), ⟨s', label :: F⟩) := by
    show (EvalM.host a).run ⟨s, label :: F⟩ = _
    rw [EvalM.run_host, h]
  unfold EvalM.framed
  rw [hrun]
  rfl

/-- What an unqualified name denotes.  It is the member of the root, with its value, failure or
panic, exactly if the name is no keyword or reading the member does not fail; a keyword where it
fails is the builtin type.  Where the root has no such member, a keyword is the builtin type and any
other name the failure of the look-up, and nothing changes. -/
theorem eval_name_denotes (name : String) (s : Store) (F : List String) :
    ((cx.eval (.name name none)).run ⟨s, F⟩ =
        (EvalM.framed name (EvalM.host (cx.world.readMember cx.root name))).run ⟨s, F⟩ ↔
      Builtin.ofName? name = none ∨
        ∀ f s', (cx.world.readMember cx.root name).run s ≠ (.error (.failed f), s')) ∧
    (∀ b f s', Builtin.ofName? name = some b →
      (cx.world.readMember cx.root name).run s = (.error (.failed f), s') →
      (cx.eval (.name name none)).run ⟨s, F⟩ = (.ok (.type (.builtin b)), ⟨s', F⟩)) ∧
    (¬ cx.world.HasMember s cx.root name →
      (cx.eval (.name name none)).run ⟨s, F⟩ =
        match Builtin.ofName? name with
        | some b => (.ok (.type (.builtin b)), ⟨s, F⟩)
        | none =>
          (.error (.failed ((cx.world.lookupFailure s cx.root name).traced (name :: F))),
            ⟨s, F⟩)) := by
  have hkeyword : ∀ b f s', Builtin.ofName? name = some b →
      (cx.world.readMember cx.root name).run s = (.error (.failed f), s') →
      (cx.eval (.name name none)).run ⟨s, F⟩ = (.ok (.type (.builtin b)), ⟨s', F⟩) := by
    intro b f s' hname hread
    rw [eval_name_run]
    exact framed_host_eq_ok (World.readName_of_failed hname hread)
  refine ⟨⟨?_, ?_⟩, hkeyword, ?_⟩
  · intro heq
    cases hname : Builtin.ofName? name with
    | none => exact .inl rfl
    | some b =>
      refine .inr fun f s' hread => ?_
      rw [hkeyword b f s' hname hread, framed_host_eq_failed hread] at heq
      cases heq
  · intro h
    rw [eval_name_run]
    -- a frame looks only at how its body ends
    have hhost : EvalM.host (cx.world.readName cx.root name) ⟨s, name :: F⟩ =
        EvalM.host (cx.world.readMember cx.root name) ⟨s, name :: F⟩ := by
      show (EvalM.host _).run _ = (EvalM.host _).run _
      rw [EvalM.run_host, EvalM.run_host, World.readName_of_or h]
    show EvalM.framed _ _ _ = EvalM.framed _ _ _
    rw [EvalM.framed, EvalM.framed, hhost]
  · intro hmember
    have hread := World.readMember_of_not_hasMember hmember
    cases hname : Builtin.ofName? name with
    | some b => exact hkeyword b _ s hname hread
    | none =>
      rw [eval_name_run]
      refine framed_host_eq_failed ?_
      rw [World.readName_of_or (.inl hname), hread]

end Context

/-! ## A member named like a builtin type -/

namespace Sealed

/-- A member whose getter fails. -/
def lid : Accessor where
  name := "int"
  kind := .any
  isStatic := false
  get := fun _ => Act.refuse (.evaluation "boom")
  set := none

/-- One type with this member. -/
def world : World := ⟨{ headers := [{ name := "Box" }] }, [{ properties := [lid] }]⟩

/-- A box. -/
def store : Store where
  objects := [⟨.declared 0, "Box", [], false⟩]

/-- The box as root. -/
def context : Context := ⟨world, false, .object ⟨0⟩⟩

/-- The keyword that the box has no member for is the builtin type, and the one that it has a member
for as well, because the getter fails. -/
theorem eval_name_denotes_keywords :
    (¬ world.HasMember store (.object ⟨0⟩) "float" ∧
      (context.eval (.name "float" none)).run ⟨store, []⟩ =
        (.ok (.type (.builtin .float)), ⟨store, []⟩)) ∧
    (context.eval (.name "int" none)).run ⟨store, []⟩ =
      (.ok (.type (.builtin .int)), ⟨store, []⟩) := by
  have hmember : ¬ world.HasMember store (.object ⟨0⟩) "float" := by
    rintro ⟨t, ht, hfind⟩
    cases ht
    revert hfind
    decide +kernel
  obtain ⟨-, -, habsent⟩ := context.eval_name_denotes "float" store []
  obtain ⟨-, hkeyword, -⟩ := context.eval_name_denotes "int" store []
  refine ⟨⟨hmember, ?_⟩, ?_⟩
  · rw [habsent hmember, show Builtin.ofName? "float" = some .float from by decide +kernel]
  · exact hkeyword .int _ _ (by decide +kernel) rfl

/-- The box has a member with the name of a keyword, and reading it fails; the name does not give
this failure but the builtin type. -/
theorem keyword_hides_failure :
    world.HasMember store (.object ⟨0⟩) "int" ∧
    (world.readMember (.object ⟨0⟩) "int").run store =
      (.error (.failed (.of (.evaluation "boom"))), store) ∧
    (context.eval (.name "int" none)).run ⟨store, []⟩ =
      (.ok (.type (.builtin .int)), ⟨store, []⟩) ∧
    (context.eval (.name "int" none)).run ⟨store, []⟩ ≠
      (EvalM.framed "int" (EvalM.host (world.readMember (.object ⟨0⟩) "int"))).run ⟨store, []⟩ := by
  have heval : (context.eval (.name "int" none)).run ⟨store, []⟩ =
      (.ok (.type (.builtin .int)), ⟨store, []⟩) := by
    rfl
  refine ⟨⟨.declared 0, rfl, by decide +kernel⟩, rfl, heval, ?_⟩
  rw [heval]
  rintro ⟨⟩

end Sealed

end DevConsole
