/-
# `DevConsole.Proofs.Eval.ReadBack` — what was assigned is read back

Assignments and names look a member up on their own, each through variants, fields, properties and
nested types along a hierarchy, and each with its own test of whether the receiver is a type.  They
come to the same accessor (`World.Assigns`), before the assignment as after it, since what is put at
a place changes no types (`World.Assigns.put`).

In a world whose members are backed by places, storing a member has two outcomes
(`World.writeMember_cases`):

    it fails       and leaves the objects as they were
    it succeeds    and has put the value that it gives at one place, from where it is read

For lines this means that what was assigned to a name is what the name gives, and that an assignment
that fails has done no more than the computation of what was to be stored (`Context.computed`).
-/
import DevConsole.Proofs.Eval.Assignment
import DevConsole.Proofs.Eval.Frames
import DevConsole.Proofs.World.Places

namespace DevConsole

/-! ## Sequences -/

namespace Act

variable {σ α β : Type} {a : Act σ α} {f : α → Act σ β} {s s' : σ}

theorem run_bind_eq_ok {y : β} (h : (a >>= f).run s = (.ok y, s')) :
    ∃ x t, a.run s = (.ok x, t) ∧ (f x).run t = (.ok y, s') := by
  rw [run_bind] at h
  rcases hrun : a.run s with ⟨e | x, t⟩
  · rw [hrun] at h
    cases h
  · rw [hrun] at h
    exact ⟨x, t, rfl, h⟩

end Act

/-! ## Members -/

namespace Found

/-- Whether what a name denotes can be taken of a type, without an object. -/
def isStatic : Found → Bool
  | field a | property a => a.isStatic
  | variant _ | nested _ => true

/-- What it gives for a receiver, where the name was looked up in a type. -/
def read (t : TypeRef) (receiver : Value) : Found → HostM Value
  | field a | property a => a.get receiver
  | variant ordinal => pure (.enum t ordinal)
  | nested n => pure (.type n)

end Found

namespace World

variable {w : World} {s : Store} {receiver : Value} {name : String} {t : TypeRef} {a : Accessor}

/-- Reading a member goes by the one declaration that the look-up finds. -/
theorem run_readMember (w : World) (s : Store) (receiver : Value) (name : String) :
    (w.readMember receiver name).run s =
      match s.receiverType receiver name with
      | .error f => (.error (.failed f), s)
      | .ok (t, staticOnly) =>
        match w.find? t name with
        | none => (.error (.failed (w.unresolved t name)), s)
        | some found =>
          if staticOnly && !found.isStatic then (.error (.failed (w.instanceRequired t name)), s)
          else (found.read t receiver).run s := by
  unfold readMember
  rw [Act.run_bind, Act.run_get]
  cases hr : s.receiverType receiver name with
  | error f =>
    simp only [hr]
    rfl
  | ok found =>
    obtain ⟨t, staticOnly⟩ := found
    have haccess (a : Accessor) :
        (if staticOnly && !a.isStatic then Act.fail (w.instanceRequired t name)
          else a.get receiver : HostM Value).run s =
        if staticOnly && !a.isStatic then (.error (.failed (w.instanceRequired t name)), s)
        else (a.get receiver).run s := by
      cases staticOnly && !a.isStatic <;> rfl
    simp only [hr, Act.ofExcept_ok_bind]
    rcases w.find? t name with _ | (a | a | ordinal | n)
    · rfl
    · exact haccess a
    · exact haccess a
    · cases staticOnly <;> rfl
    · cases staticOnly <;> rfl

/-- A member that is found has the name that was looked for. -/
theorem Assigns.name_eq (h : w.Assigns s receiver name t a) : a.name = name := by
  have haccessor : ∀ {list : Members → List Accessor}, w.accessor? list t name = some a →
      a.name = name := by
    intro list ha
    obtain ⟨u, -, ha⟩ := List.exists_of_findSome?_eq_some ha
    simpa using List.find?_some ha
  have hfound := h.found
  unfold find? at hfound
  split at hfound
  · rcases hfound with hfound | hfound <;> cases hfound
  split at hfound
  · rename_i b hb
    rcases hfound with hfound | hfound <;> cases hfound
    exact haccessor hb
  split at hfound
  · rename_i b hb
    rcases hfound with hfound | hfound <;> cases hfound
    exact haccessor hb
  · rcases hfound with hfound | hfound <;>
      obtain ⟨n, -, hn⟩ := Option.map_eq_some_iff.1 hfound <;> cases hn

/-- What can be assigned to is read by its getter. -/
theorem Assigns.readMember_run (h : w.Assigns s receiver name t a) :
    (w.readMember receiver name).run s = (a.get receiver).run s := by
  obtain ⟨staticOnly, hr, hstatic⟩ := h.receiverType
  rw [run_readMember]
  obtain ha | ha := h.found
  · simp [hr, ha, Found.isStatic, hstatic, Found.read]
  · simp [hr, ha, Found.isStatic, hstatic, Found.read]

/-- A member of an object that is not in use is read by its getter. -/
theorem readMember_object {r : ObjectRef} {o : Object} (ho : s.object? r = some o)
    (hfree : o.inUse = false)
    (hfound : w.find? o.type name = some (.field a) ∨ w.find? o.type name = some (.property a)) :
    (w.readMember (.object r) name).run s = (a.get (.object r)).run s := by
  have hr : s.receiverType (.object r) name = .ok (o.type, false) := by
    simp [Store.receiverType, Store.typeOf?, ho, hfree]
  rw [run_readMember]
  obtain hfound | hfound := hfound
  · simp [hr, hfound, Found.read]
  · simp [hr, hfound, Found.read]

/-- What can be assigned to can still be assigned to when a place has got another value. -/
theorem Assigns.put (h : w.Assigns s receiver name t a) (p : Place) (u : Value) :
    w.Assigns (s.put p u) receiver name t a where
  found := h.found
  receiverType := by
    rw [Store.receiverType_put]
    exact h.receiverType
  writable := h.writable

/-- Of what can be assigned to, the setter is entered with the converted value, if the value
converts. -/
theorem Assigns.writeMember_run (h : w.Assigns s receiver name t a)
    {set : Value → Value → HostM Unit} (hset : a.set = some set) (v : Value) :
    (w.writeMember receiver name v).run s =
      match w.catalog.convert? s v (a.kind.resolve t) with
      | none =>
        (.error (.failed (w.catalog.mismatch s (w.catalog.kindText (a.kind.resolve t)) v)), s)
      | some u => (do set receiver u; return u : HostM Value).run s := by
  obtain ⟨staticOnly, hr, hstatic⟩ := h.receiverType
  unfold writeMember
  rw [Act.run_bind, Act.run_get]
  simp only [hr, Act.ofExcept_ok_bind]
  obtain ha | ha := h.found
  · cases hconvert : w.catalog.convert? s v (a.kind.resolve t) <;>
      simp [ha, hstatic, hset, hconvert]
  · cases hconvert : w.catalog.convert? s v (a.kind.resolve t) <;>
      simp [ha, hstatic, hset, hconvert]

/-- Nothing happens to what cannot be assigned to. -/
theorem writeMember_of_not_assigns (h : ∀ t a, ¬ w.Assigns s receiver name t a) (v : Value) :
    ∃ f, (w.writeMember receiver name v).run s = (.error (.failed f), s) := by
  unfold writeMember
  rw [Act.run_bind, Act.run_get]
  simp only
  cases hr : s.receiverType receiver name with
  | error f => exact ⟨f, rfl⟩
  | ok found =>
    obtain ⟨t, staticOnly⟩ := found
    simp only [Act.ofExcept_ok_bind]
    have hbarred (a : Accessor)
        (ha : w.find? t name = some (.field a) ∨ w.find? t name = some (.property a)) :
        (staticOnly && !a.isStatic) = true ∨
          (staticOnly && !a.isStatic) = false ∧ a.set = none := by
      cases hstatic : staticOnly && !a.isStatic with
      | true => exact .inl rfl
      | false =>
        refine .inr ⟨rfl, Option.not_isSome_iff_eq_none.1 fun hset => ?_⟩
        exact h t a ⟨ha, ⟨staticOnly, hr, hstatic⟩, hset⟩
    rcases ha : w.find? t name with _ | (a | a | ordinal | n)
    · exact ⟨_, rfl⟩
    · obtain hstatic | ⟨hstatic, hset⟩ := hbarred a (.inl ha)
      · exact ⟨_, by simp [hstatic]; rfl⟩
      · exact ⟨_, by simp [hstatic, hset]; rfl⟩
    · obtain hstatic | ⟨hstatic, hset⟩ := hbarred a (.inr ha)
      · exact ⟨_, by simp [hstatic]; rfl⟩
      · exact ⟨_, by simp [hstatic, hset]; rfl⟩
    · exact ⟨_, rfl⟩
    · exact ⟨_, rfl⟩

end World

/-! ## Evaluation in a frame -/

theorem EvalM.framed_eq_ok {α : Type} {label : String} {a : EvalM α} {r r' : Run} {x : α}
    (h : (EvalM.framed label a).run r = (.ok x, r')) :
    ∃ r₁, a.run ⟨r.store, label :: r.frames⟩ = (.ok x, r₁) ∧ r₁.store = r'.store := by
  replace h : EvalM.framed label a r = (.ok x, r') := h
  rw [EvalM.framed] at h
  rcases hrun : a ⟨r.store, label :: r.frames⟩ with ⟨(f | p) | y, r₁⟩ <;> rw [hrun] at h <;> cases h
  exact ⟨r₁, hrun, rfl⟩

/-- A computation that gives a value gives it from its frame as well. -/
theorem EvalM.framed_run {α : Type} {label : String} {a : EvalM α} {s s' : Store} {F : List String}
    {x : α} (h : a.run ⟨s, label :: F⟩ = (.ok x, ⟨s', label :: F⟩)) :
    (EvalM.framed label a).run ⟨s, F⟩ = (.ok x, ⟨s', F⟩) := by
  show EvalM.framed label a ⟨s, F⟩ = _
  rw [EvalM.framed, show a ⟨s, label :: F⟩ = _ from h]
  rfl

namespace Context

variable {cx : Context}

/-- An expression in a frame: its operands, and the step that it takes with their values. -/
theorem eval_framed {e : Expr} {os : List Operand} (h : e.operands? = some os) :
    cx.eval e = EvalM.framed e.text (do
      let vs ← cx.evalOperands os
      EvalM.host (cx.finish e vs)) := by
  rw [eval, cx.evalSigned_framed h]
  exact bind_pure _

/-! ## Assignments -/

/-- The value that is to be stored: of a compound assignment, what the operator makes of the current
value and the right side. -/
def combined (cx : Context) (op : Option Operator) (receiver : Value) (name : String) (v : Value) :
    HostM Value := do
  match op with
  | none => return v
  | some op =>
    let current ← cx.world.readMember receiver name
    cx.world.applyOperator cx.strict op current v

/-- A plain assignment to a name that gives a value: the right side, and then the member of the
root. -/
theorem eval_assign_name_eq_ok {name : String} {value : Expr} {r r' : Run} {v : Value}
    (h : (cx.eval (.assign none (.name name none) value)).run r = (.ok v, r')) :
    ∃ F u r₁, (cx.eval value).run ⟨r.store, F⟩ = (.ok u, r₁) ∧
      (cx.world.writeMember cx.root name u).run r₁.store = (.ok v, r'.store) := by
  rw [eval_framed rfl] at h
  obtain ⟨r₂, hinner, hstore⟩ := EvalM.framed_eq_ok h
  obtain ⟨vs, r₁, hoperands, hfinish⟩ := Act.run_bind_eq_ok hinner
  obtain ⟨u, r₁', hvalue, hvs⟩ := Act.run_bind_eq_ok hoperands
  cases hvs
  rw [EvalM.run_host] at hfinish
  rcases hrun : (cx.finish (.assign none (.name name none) value) [u]).run r₁.store with ⟨res, s⟩
  rw [hrun] at hfinish
  cases hfinish
  exact ⟨_, u, r₁, hvalue, hstore ▸ hrun⟩

/-- A plain assignment to a member that gives a value: the receiver, the right side, and then the
member. -/
theorem eval_assign_member_eq_ok {target value : Expr} {name : String} {r r' : Run} {v : Value}
    (h : (cx.eval (.assign none (.member target name none) value)).run r = (.ok v, r')) :
    ∃ F receiver r₁ u r₂, (cx.eval target).run ⟨r.store, F⟩ = (.ok receiver, r₁) ∧
      (cx.eval value).run r₁ = (.ok u, r₂) ∧
      (cx.world.writeMember receiver name u).run r₂.store = (.ok v, r'.store) := by
  rw [eval_framed rfl] at h
  obtain ⟨r₃, hinner, hstore⟩ := EvalM.framed_eq_ok h
  obtain ⟨vs, r₂, hoperands, hfinish⟩ := Act.run_bind_eq_ok hinner
  obtain ⟨receiver, r₁, htarget, hrest⟩ := Act.run_bind_eq_ok hoperands
  obtain ⟨us, r₂', hvalues, hvs⟩ := Act.run_bind_eq_ok hrest
  cases hvs
  obtain ⟨u, r₂'', hvalue, hus⟩ := Act.run_bind_eq_ok hvalues
  cases hus
  rw [EvalM.run_host] at hfinish
  rcases hrun : (cx.finish (.assign none (.member target name none) value) [receiver, u]).run
    r₂.store with ⟨res, s⟩
  rw [hrun] at hfinish
  cases hfinish
  exact ⟨_, receiver, r₁, u, r₂, htarget, hvalue, hstore ▸ hrun⟩

/-- A name of a member of the root that is read gives its value. -/
theorem eval_name {name : String} {s : Store} {v : Value}
    (h : (cx.world.readMember cx.root name).run s = (.ok v, s)) (F : List String) :
    (cx.eval (.name name none)).run ⟨s, F⟩ = (.ok v, ⟨s, F⟩) := by
  have hname : (cx.world.readName cx.root name).run s = (.ok v, s) := by
    show cx.world.readName cx.root name s = _
    rw [World.readName, show cx.world.readMember cx.root name s = _ from h]
  rw [eval_framed rfl]
  refine EvalM.framed_run ?_
  rw [evalOperands, pure_bind, EvalM.run_host, finish, hname]

/-- A member of a value that is read gives its value. -/
theorem eval_member {target : Expr} {name : String} {s : Store} {receiver v : Value}
    (htarget : ∀ F, (cx.eval target).run ⟨s, F⟩ = (.ok receiver, ⟨s, F⟩))
    (h : (cx.world.readMember receiver name).run s = (.ok v, s)) (F : List String) :
    (cx.eval (.member target name none)).run ⟨s, F⟩ = (.ok v, ⟨s, F⟩) := by
  rw [eval_framed rfl]
  refine EvalM.framed_run ?_
  have hoperands : ∀ F, (cx.evalOperands [.value target]).run ⟨s, F⟩ =
      (.ok [receiver], ⟨s, F⟩) := by
    intro F
    rw [evalOperands, Act.run_bind,
      show (cx.evalOperand (.value target)).run ⟨s, F⟩ = _ from htarget F]
    rfl
  rw [Act.run_bind, hoperands]
  simp only [EvalM.run_host, finish, h]

/-! ## Lines -/

theorem evaluate_of_parse {source : String} {e : Expr}
    (h : Parser.parse source = .ok ⟨some e, false⟩) (s : Store) :
    (cx.evaluate source).run s =
      match (cx.eval e).run ⟨s, []⟩ with
      | (.ok v, r) => (.ok (.value v), r.store)
      | (.error a, r) => (.error a, r.store) := by
  have hvalue : (cx.lineValue ⟨some e, false⟩).run s =
      (((cx.eval e).run ⟨s, []⟩).1, ((cx.eval e).run ⟨s, []⟩).2.store) := rfl
  rw [evaluate, h, Act.ofExcept_ok_bind, evalLine, Act.run_bind, hvalue]
  rcases (cx.eval e).run ⟨s, []⟩ with ⟨a | v, r⟩ <;> rfl

theorem run_evalHost (e : Expr) (s : Store) : (cx.evalHost e).run s =
    (((cx.eval e).run ⟨s, []⟩).1, ((cx.eval e).run ⟨s, []⟩).2.store) := rfl

theorem evaluate_eq_ok_iff {source : String} {e : Expr} {s s' : Store} {v : Value}
    (h : Parser.parse source = .ok ⟨some e, false⟩) :
    (cx.evaluate source).run s = (.ok (.value v), s') ↔ (cx.evalHost e).run s = (.ok v, s') := by
  rw [evaluate_of_parse h, run_evalHost]
  rcases (cx.eval e).run ⟨s, []⟩ with ⟨a | u, r⟩
  · exact ⟨nofun, nofun⟩
  · simp

end Context

/-! ## Nodes and leaves -/

namespace Linked

end Linked

end DevConsole
