/-
# `DevConsole.Proofs.World.HostProperty` — what holds of host code holds of evaluation's steps

Evaluation enters host code in one step at a time, through look-ups and conversions that are the
same for all worlds.  What is to be shown of the steps is often a property of computations that is
kept when they are put together, such as raising failures without a trace, or leaving some objects
alone.  A `HostProperty` is one that

    code has that does nothing, looks at the objects, or refuses with a cause
    one computation after another has if both have it
    a computation with a value in place of its failures has if the computation has it

A world obeys such a property if all code has it that its types declare (`World.Obeys`).  Then the
steps have it too: code of declared types by assumption, that of builtin types because it does
nothing else than the above.  Of the code that is declared, reading a member enters getters alone
(`World.Reads`).
-/
import DevConsole.Proofs.Eval.HostContract

namespace DevConsole

variable {α β : Type}

/-- If this is a failure, then one without a trace. -/
def Untraced (r : Except Failure α) : Prop := ∀ f, r = .error f → f.trace = none

theorem Untraced.ok (x : α) : Untraced (.ok x) := by
  intro f h
  cases h

theorem Untraced.of (c : Cause) : Untraced (.error (.of c) : Except Failure α) := by
  intro f h
  cases h
  rfl

theorem Untraced.map {r : Except Failure α} (h : Untraced r) (g : α → β) : Untraced (r.map g) := by
  intro f hf
  cases r with
  | error e =>
    cases hf
    exact h f rfl
  | ok x => cases hf

/-- A value in place of the failures of a computation. -/
def Act.rescue {σ : Type} (x : α) (a : Act σ α) : Act σ α := fun s =>
  match a s with
  | (.error (.failed _), s') => (.ok x, s')
  | r => r

/-- A property of host code that is kept when host code is put together. -/
structure HostProperty where
  Holds : ∀ {α : Type}, HostM α → Prop
  pure : ∀ {α : Type} (x : α), Holds (Pure.pure x : HostM α)
  get : Holds (Act.get : HostM Store)
  refuse : ∀ {α : Type} (c : Cause), Holds (Act.refuse c : HostM α)
  bind : ∀ {α β : Type} {a : HostM α} {f : α → HostM β},
    Holds a → (∀ x, Holds (f x)) → Holds (a >>= f)
  rescue : ∀ {α : Type} {a : HostM α} (x : α), Holds a → Holds (a.rescue x)

/-- The getter of a field or property has the property and, if there is one, its setter. -/
structure Accessor.Obeys (H : HostProperty) (a : Accessor) : Prop where
  get : ∀ receiver, H.Holds (a.get receiver)
  set : ∀ set, a.set = some set → ∀ receiver v, H.Holds (set receiver v)

/-- All host code of a type has the property. -/
structure Members.Obeys (H : HostProperty) (ms : Members) : Prop where
  access : ∀ a ∈ ms.accessors, a.Obeys H
  invoke : ∀ m ∈ ms.methods ++ ms.constructors, ∀ receiver args, H.Holds (m.invoke receiver args)
  apply : ∀ o ∈ ms.operators, ∀ l r, H.Holds (o.apply l r)
  convert : ∀ c ∈ ms.conversions ++ ms.incoming, ∀ v, H.Holds (c.convert v)

/-- All host code that the types of a world declare has the property. -/
def World.Obeys (H : HostProperty) (w : World) : Prop := ∀ ms ∈ w.declared, ms.Obeys H

/-- The getters that its types declare have the property. -/
def World.Reads (H : HostProperty) (w : World) : Prop :=
  ∀ ms ∈ w.declared, ∀ a ∈ ms.accessors, ∀ receiver, H.Holds (a.get receiver)

theorem World.Obeys.reads {H : HostProperty} {w : World} (hw : w.Obeys H) : w.Reads H :=
  fun ms hms a ha => ((hw ms hms).access a ha).get

theorem Accessor.Obeys.readOnly {H : HostProperty} {a : Accessor}
    (hget : ∀ receiver, H.Holds (a.get receiver)) (hset : a.set = none) : a.Obeys H where
  get := hget
  set set h := by
    rw [hset] at h
    cases h

/-! ## Payloads and receivers -/

namespace Catalog

variable (c : Catalog) (s : Store) (v : Value)

theorem asBool_untraced : Untraced (c.asBool s v) := by
  intro f h
  cases v <;> cases h <;> rfl

theorem asInt_untraced : Untraced (c.asInt s v) := by
  intro f h
  cases v <;> cases h <;> rfl

theorem asFloat_untraced : Untraced (c.asFloat s v) := by
  intro f h
  cases v <;> cases h <;> rfl

theorem asDouble_untraced : Untraced (c.asDouble s v) := by
  intro f h
  cases v <;> cases h <;> rfl

theorem asStr_untraced : Untraced (c.asStr s v) := by
  intro f h
  cases v <;> cases h <;> rfl

theorem asObject_untraced : Untraced (c.asObject s v) := by
  intro f h
  cases v <;> cases h <;> rfl

theorem asEnum_untraced : Untraced (c.asEnum s v) := by
  intro f h
  cases v <;> cases h <;> rfl

end Catalog

theorem Receiver.check_untraced (c : Catalog) (host : String) (s : Store) (v : Value) :
    Untraced (check c host s v) := by
  intro f h
  have hobject := c.asObject_untraced s v
  unfold check at h
  split at h
  · rename_i e he
    cases h
    exact hobject f he
  split at h
  · cases h
    rfl
  split at h
  · cases h
    rfl
  split at h
  · cases h
  · cases h
    rfl

namespace HostProperty

variable (H : HostProperty)

theorem ofExcept {r : Except Failure α} (h : Untraced r) :
    H.Holds (Act.ofExcept r : HostM α) := by
  cases r with
  | ok x => exact H.pure x
  | error f =>
    obtain ⟨cause, trace⟩ := f
    cases h _ rfl
    exact H.refuse cause

/-- What is computed from the objects without a change. -/
theorem looks {f : Store → Except Failure α} (hf : ∀ s, Untraced (f s)) :
    H.Holds (do let s ← Act.get; Act.ofExcept (f s) : HostM α) :=
  H.bind H.get fun s => H.ofExcept (hf s)

theorem read (c : Catalog) (host : String) (v : Value) (g : Object → α) :
    H.Holds (Receiver.read c host v g) := by
  have hread : Receiver.read c host v g =
      (do let s ← Act.get; Act.ofExcept ((Receiver.check c host s v).map fun p => g p.2)) := by
    funext s
    show Receiver.read c host v g s = (Act.ofExcept _ : HostM α) s
    rw [Receiver.read]
    cases Receiver.check c host s v <;> rfl
  rw [hread]
  exact H.looks fun s => (Receiver.check_untraced c host s v).map _

end HostProperty

/-! ## Builtin types -/

namespace Builtin

variable (c : Catalog)

theorem int?_untraced {op : Operator} {a b : Int64} {r : Except Failure Value}
    (h : Arithmetic.int? op a b = some r) : Untraced r := by
  unfold Arithmetic.int? at h
  split at h
  case h_4 | h_5 =>
    cases h
    split
    · exact .of _
    · exact .ok _
  case h_11 =>
    obtain ⟨x, -, rfl⟩ := Option.map_eq_some_iff.1 h
    exact .ok _
  all_goals
    cases h
    exact .ok _

theorem result?_untraced {s : Store} {op : Operator} {l r : Value} {x : Except Failure Value}
    (h : Arithmetic.result? c s op l r = some x) : Untraced x := by
  unfold Arithmetic.result? at h
  split at h
  · cases h
    exact .ok _
  split at h
  · cases h
    exact .ok _
  split at h
  · obtain ⟨x, -, rfl⟩ := Option.map_eq_some_iff.1 h
    exact .ok _
  · obtain ⟨x, -, rfl⟩ := Option.map_eq_some_iff.1 h
    exact .ok _
  · unfold Arithmetic.number? at h
    split at h
    · exact int?_untraced h
    all_goals first
      | cases h
      | obtain ⟨x, -, rfl⟩ := Option.map_eq_some_iff.1 h
        exact .ok _

section Obeys

variable {H : HostProperty}

theorem overloads_obeys {ops : List Operator} {left right : Kind} :
    ∀ o ∈ overloads c ops left right, ∀ l r, H.Holds (o.apply l r) := by
  intro o ho l r
  obtain ⟨op, -, rfl⟩ := List.mem_map.1 ho
  refine H.looks fun s => ?_
  cases hr : Arithmetic.result? c s op l r with
  | none => exact .of _
  | some x => exact result?_untraced c hr

theorem conversion_obeys {kind : Kind} {f : Store → Value → Except Failure Value}
    (hf : ∀ s v, Untraced (f s v)) (v : Value) : H.Holds ((conversion kind f).convert v) :=
  H.looks fun s => hf s v

/-- A conversion that reads a value as one of a builtin type and has no failures of its own. -/
theorem reading_obeys {kind : Kind} {read : Store → Value → Except Failure α} {g : α → Value}
    (hread : ∀ s v, Untraced (read s v)) (v : Value) :
    H.Holds ((conversion kind fun s v => (read s v).map g).convert v) :=
  conversion_obeys (fun s v => (hread s v).map g) v

theorem toText_obeys (v : Value) : H.Holds ((toText c).convert v) :=
  conversion_obeys (fun _ _ => .ok _) v

theorem fromText_obeys (kind : Kind) (v : Value) : H.Holds ((fromText c kind).convert v) := by
  refine conversion_obeys (fun s v => ?_) v
  split
  · exact .ok _
  · exact .of _

theorem limits_obeys (kind : Kind) (largest smallest : Value) :
    ∀ a ∈ limits kind largest smallest, a.Obeys H := by
  refine List.forall_mem_cons.2 ⟨.readOnly (fun _ => H.pure _) rfl, ?_⟩
  exact List.forall_mem_singleton.2 (.readOnly (fun _ => H.pure _) rfl)

theorem textMethod_obeys {name : String} {params : List Param} {returns : Kind}
    {f : Store → String → List Value → Except Failure Value}
    (hf : ∀ s text args, Untraced (f s text args)) (receiver : Value) (args : List Value) :
    H.Holds ((textMethod c name params returns f).invoke receiver args) := by
  refine H.bind H.get fun s => ?_
  exact H.bind (H.ofExcept (c.asStr_untraced s receiver)) fun text => H.ofExcept (hf s text args)

theorem boolMembers_obeys : (boolMembers c).Obeys H where
  access := List.forall_mem_nil _
  invoke := List.forall_mem_nil _
  apply := overloads_obeys c
  convert := by
    refine List.forall_mem_cons.2 ⟨reading_obeys c.asBool_untraced, ?_⟩
    exact List.forall_mem_singleton.2 (toText_obeys c)

theorem intMembers_obeys : (intMembers c).Obeys H where
  access := limits_obeys _ _ _
  invoke := List.forall_mem_nil _
  apply := List.forall_mem_append.2 ⟨overloads_obeys c, overloads_obeys c⟩
  convert := by
    refine List.forall_mem_cons.2 ⟨reading_obeys c.asInt_untraced, ?_⟩
    refine List.forall_mem_cons.2 ⟨reading_obeys c.asInt_untraced, ?_⟩
    refine List.forall_mem_cons.2 ⟨reading_obeys c.asInt_untraced, ?_⟩
    exact List.forall_mem_singleton.2 (toText_obeys c)

theorem floatMembers_obeys : (floatMembers c).Obeys H where
  access := limits_obeys _ _ _
  invoke := List.forall_mem_nil _
  apply := overloads_obeys c
  convert := by
    refine List.forall_mem_cons.2 ⟨reading_obeys c.asFloat_untraced, ?_⟩
    refine List.forall_mem_cons.2 ⟨reading_obeys c.asDouble_untraced, ?_⟩
    exact List.forall_mem_singleton.2 (toText_obeys c)

theorem doubleMembers_obeys : (doubleMembers c).Obeys H where
  access := limits_obeys _ _ _
  invoke := List.forall_mem_nil _
  apply := overloads_obeys c
  convert := by
    refine List.forall_mem_cons.2 ⟨reading_obeys c.asDouble_untraced, ?_⟩
    refine List.forall_mem_cons.2 ⟨reading_obeys c.asDouble_untraced, ?_⟩
    exact List.forall_mem_singleton.2 (toText_obeys c)

theorem stringMembers_obeys : (stringMembers c).Obeys H where
  access := by
    refine List.forall_mem_singleton.2 (.readOnly (fun receiver => ?_) rfl)
    refine H.bind H.get fun s => ?_
    exact H.bind (H.ofExcept (c.asStr_untraced s receiver)) fun text => H.pure _
  invoke := by
    refine List.forall_mem_cons.2 ⟨textMethod_obeys c fun _ _ _ => .ok _, ?_⟩
    refine List.forall_mem_cons.2 ⟨textMethod_obeys c fun _ _ _ => .ok _, ?_⟩
    refine List.forall_mem_cons.2 ⟨textMethod_obeys c fun _ _ _ => .ok _, ?_⟩
    refine List.forall_mem_singleton.2 (textMethod_obeys c fun s _ _ => ?_)
    exact (c.asStr_untraced s _).map _
  apply := by
    refine List.forall_mem_cons.2 ⟨fun l r => H.bind H.get fun s => H.pure _, ?_⟩
    refine List.forall_mem_cons.2 ⟨fun l r => H.bind H.get fun s => H.pure _, ?_⟩
    refine List.forall_mem_cons.2 ⟨fun l r => H.pure _, ?_⟩
    exact List.forall_mem_singleton.2 fun l r => H.pure _
  convert := by
    refine List.forall_mem_append.2 ⟨?_, List.forall_mem_nil _⟩
    exact List.forall_mem_map.2 fun kind _ => fromText_obeys c kind

/-- The members of builtin types have every property of this kind. -/
theorem members_obeys (b : Builtin) : (members c b).Obeys H := by
  cases b with
  | bool => exact boolMembers_obeys c
  | int => exact intMembers_obeys c
  | float => exact floatMembers_obeys c
  | double => exact doubleMembers_obeys c
  | string => exact stringMembers_obeys c

end Obeys

end Builtin

/-- So do those of enumerated types. -/
theorem Members.enumeration_obeys (c : Catalog) {H : HostProperty} :
    (Members.enumeration c).Obeys H where
  access := List.forall_mem_nil _
  invoke := List.forall_mem_nil _
  apply := by
    have hcompare : ∀ (test : Int64 → Int64 → Bool) (l r : Value),
        H.Holds (do
          let s ← Act.get
          let a ← Act.ofExcept (c.asEnum s l)
          let b ← Act.ofExcept (c.asEnum s r)
          return Value.bool (test a.2 b.2) : HostM Value) := by
      intro test l r
      refine H.bind H.get fun s => H.bind (H.ofExcept (c.asEnum_untraced s l)) fun a => ?_
      exact H.bind (H.ofExcept (c.asEnum_untraced s r)) fun b => H.pure _
    refine List.forall_mem_cons.2 ⟨hcompare _, ?_⟩
    exact List.forall_mem_singleton.2 (hcompare _)
  convert := by
    refine List.forall_mem_singleton.2 fun v => H.bind H.get fun s => ?_
    exact H.bind (H.ofExcept (c.asEnum_untraced s v)) fun a => H.pure _

/-! ## Steps of evaluation -/

namespace World

variable {w : World} {H : HostProperty}

theorem members_obeys (hw : w.Obeys H) (t : TypeRef) : (w.members t).Obeys H := by
  cases t with
  | builtin b => exact Builtin.members_obeys w.catalog b
  | declared i =>
    show (w.declared.getD i {}).Obeys H
    rw [List.getD_eq_getElem?_getD]
    cases hi : w.declared[i]? with
    | none => exact ⟨List.forall_mem_nil _, List.forall_mem_nil _, List.forall_mem_nil _,
        List.forall_mem_nil _⟩
    | some ms => exact hw ms (List.mem_of_getElem? hi)

theorem receiverType_untraced (s : Store) (receiver : Value) (name : String) :
    DevConsole.Untraced (s.receiverType receiver name) := by
  unfold Store.receiverType
  split
  · exact .of _
  · exact .ok _
  · split
    · exact .ok _
    · exact .of _

/-- A name is a member of the root, with a type in place of failures if it is the name of one. -/
theorem readName_eq (w : World) (root : Value) (name : String) :
    w.readName root name =
      match Builtin.ofName? name with
      | some b => (w.readMember root name).rescue (.type (.builtin b))
      | none => w.readMember root name := by
  funext s
  rw [readName]
  cases Builtin.ofName? name with
  | some b =>
    show _ = Act.rescue _ (w.readMember root name) s
    rw [Act.rescue]
    rcases w.readMember root name s with ⟨(f | p) | v, s'⟩ <;> rfl
  | none =>
    simp only
    rcases w.readMember root name s with ⟨(f | p) | v, s'⟩ <;> rfl

theorem getters_reads (hw : w.Reads H) (t : TypeRef) :
    ∀ a ∈ (w.members t).accessors, ∀ receiver, H.Holds (a.get receiver) := by
  cases t with
  | builtin b => exact fun a ha => ((Builtin.members_obeys w.catalog b).access a ha).get
  | declared i =>
    show ∀ a ∈ (w.declared.getD i {}).accessors, _
    rw [List.getD_eq_getElem?_getD]
    cases hi : w.declared[i]? with
    | none => exact List.forall_mem_nil _
    | some ms => exact hw ms (List.mem_of_getElem? hi)

/-- Reading a member enters at most its getter. -/
theorem readMember_reads (hw : w.Reads H) (receiver : Value) (name : String) :
    H.Holds (w.readMember receiver name) := by
  refine H.bind H.get fun s => ?_
  refine H.bind (H.ofExcept (receiverType_untraced s receiver name)) fun p => ?_
  obtain ⟨t, staticOnly⟩ := p
  simp only
  refine find?_elim (H.refuse _) (fun ordinal => H.pure _) (fun n => H.pure _) ?_
  intro u _ a hmem
  refine and_self_iff.2 ?_
  simp only
  split
  · exact H.refuse _
  · exact getters_reads hw u a hmem receiver

theorem readName_reads (hw : w.Reads H) (root : Value) (name : String) :
    H.Holds (w.readName root name) := by
  rw [readName_eq]
  cases Builtin.ofName? name with
  | some b => exact H.rescue _ (readMember_reads hw root name)
  | none => exact readMember_reads hw root name

theorem writeMember_obeys (hw : w.Obeys H) (receiver : Value) (name : String) (v : Value) :
    H.Holds (w.writeMember receiver name v) := by
  refine H.bind H.get fun s => ?_
  refine H.bind (H.ofExcept (receiverType_untraced s receiver name)) fun p => ?_
  obtain ⟨t, staticOnly⟩ := p
  simp only
  refine find?_elim (H.refuse _) (fun ordinal => H.refuse _) (fun n => H.refuse _) ?_
  intro u _ a hmem
  refine and_self_iff.2 ?_
  simp only
  split
  · exact H.refuse _
  cases hset : a.set with
  | none => exact H.refuse _
  | some set =>
    cases w.catalog.convert? s v (a.kind.resolve t) with
    | none => exact H.refuse _
    | some converted =>
      have hstore := ((w.members_obeys hw u).access a hmem).set set hset receiver converted
      exact H.bind hstore fun _ => H.pure _

theorem callMethod_obeys (hw : w.Obeys H) (receiver : Value) (name : String)
    (args : List Value) : H.Holds (w.callMethod receiver name args) := by
  refine H.bind H.get fun s => ?_
  refine H.bind (H.ofExcept (receiverType_untraced s receiver name)) fun p => ?_
  obtain ⟨t, staticOnly⟩ := p
  simp only
  split
  · exact H.refuse _
  split
  · exact H.refuse _
  split
  · rename_i m bound hb
    obtain ⟨u, hmem, -⟩ := exists_of_bindOverload? hb
    obtain ⟨-, hm⟩ := mem_methodsNamed (List.mem_filter.1 hmem).1
    exact (w.members_obeys hw u).invoke m (List.mem_append_left _ hm) receiver bound
  · exact H.refuse _

theorem construct_obeys (hw : w.Obeys H) (t : TypeRef) (args : List Value) :
    H.Holds (w.construct t args) := by
  refine H.bind H.get fun s => ?_
  split
  · rename_i m bound hb
    obtain ⟨u, hmem, -⟩ := exists_of_bindOverload? hb
    obtain ⟨m', hm, heq⟩ := List.mem_map.1 hmem
    cases heq
    exact (w.members_obeys hw t).invoke m (List.mem_append_right _ hm) (.type t) bound
  · exact H.refuse _

theorem cast_obeys (hw : w.Obeys H) (v : Value) (target : TypeRef) :
    H.Holds (w.cast v target) := by
  refine H.bind H.get fun s => ?_
  simp only
  split
  · exact H.pure _
  split
  · rename_i c hc
    obtain ⟨t, -, hto⟩ := Option.bind_eq_some_iff.1 hc
    obtain ⟨u, -, hc⟩ := List.exists_of_findSome?_eq_some hto
    exact (w.members_obeys hw u).convert c
      (List.mem_append_left _ (List.mem_of_find?_eq_some hc)) v
  split
  · rename_i c hc
    exact (w.members_obeys hw target).convert c
      (List.mem_append_right _ (List.mem_of_find?_eq_some hc)) v
  split <;> exact H.pure _

theorem applyOperator_obeys (hw : w.Obeys H) (strict : Bool) (op : Operator) (l r : Value) :
    H.Holds (w.applyOperator strict op l r) := by
  refine H.bind H.get fun s => ?_
  split
  · rename_i o ho
    obtain ⟨v, -, ho⟩ := List.exists_of_findSome?_eq_some ho
    obtain ⟨t, -, ho⟩ := Option.bind_eq_some_iff.1 ho
    obtain ⟨p, hp, heq⟩ := Option.map_eq_some_iff.1 ho
    cases heq
    obtain ⟨-, hmem⟩ := mem_overloads (List.mem_of_find?_eq_some hp)
    exact (w.members_obeys hw p.1).apply p.2 hmem l r
  split
  · exact H.pure _
  split
  · exact H.refuse _
  · exact H.pure _

end World

end DevConsole
