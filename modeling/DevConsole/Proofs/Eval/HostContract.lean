/-
# `DevConsole.Proofs.Eval.HostContract` — host code is entered as it was declared

Members are declared with kinds, parameters and a type, and host code relies on them: a getter of an
instance never sees null, a setter only sees values of its kind, a method sees one value for each of
its parameters.  Evaluation looks members up, binds and converts in seven places, and each of them
has its part in this.

`HostCall.Meets` says for each sort of call what host code may rely on.  The main statement
(`calls_meet`) is that every call of every line meets this, whatever the world and the objects are:
a line is evaluated by performing its dialogue, and each call in that dialogue, with the objects as
the call finds them, is as its member was declared.

The proof goes along the evaluator.  A dialogue `Follows` a computation if performing it is that
computation, from all objects and under all frames, and each of its calls meets the contract; this
is kept by one step after another and by a frame around a step, and so it is left to look at the
steps that find members, one by one.
-/
import DevConsole.Proofs.Eval.Dialogue

namespace DevConsole

/-! ## The contract -/

/-- A value that instance members can be taken of: neither null nor a type. -/
def Value.IsInstance : Value → Prop
  | .null | .type _ => False
  | _ => True

/-- The fields and properties of a type. -/
def Members.accessors (ms : Members) : List Accessor := ms.fields ++ ms.properties

namespace World

variable (w : World) (s : Store)

/-- A member `x` of a type `u` is taken of a receiver: the receiver has the type `t` or is that
type, which only static members allow, and `u` stands in the hierarchy of `t`. -/
structure Taken {α : Type} (list : Members → List α) (isStatic : Bool) (receiver : Value)
    (t u : TypeRef) (x : α) : Prop where
  isInstance : isStatic = false → receiver.IsInstance
  type_or_is : s.typeOf? receiver = some t ∨ receiver = .type t
  mem_hierarchy : u ∈ w.catalog.hierarchy t
  declared : x ∈ list (w.members u)

/-- There is one value for each parameter: an argument converted to the kind of the parameter or,
where the arguments have come to an end, the default. -/
structure Binds (owner : TypeRef) (params : List Param) (args bound : List Value) : Prop where
  length_bound : bound.length = params.length
  length_args : args.length ≤ params.length
  value : ∀ (i : Nat) (p : Param) (v : Value), params[i]? = some p → bound[i]? = some v →
    (∃ a, args[i]? = some a ∧ w.catalog.convert? s a (p.kind.resolve owner) = some v ∧
      w.catalog.isAssignable s v (p.kind.resolve owner) = true) ∨
    args.length ≤ i ∧ p.default = some v

end World

/-- What host code may rely on when it is entered, with the objects as they are then. -/
def HostCall.Meets (w : World) (s : Store) : HostCall → Prop
  | get a receiver => ∃ t u, w.Taken s Members.accessors a.isStatic receiver t u a
  | set a receiver v => a.set.isSome = true ∧
    ∃ t u, w.Taken s Members.accessors a.isStatic receiver t u a ∧
      w.catalog.isAssignable s v (a.kind.resolve t) = true
  | invoke m receiver args bound =>
    ∃ t u, w.Taken s Members.methods m.isStatic receiver t u m ∧ w.Binds s u m.params args bound
  | construct t m args bound =>
    m ∈ (w.members t).constructors ∧ w.Binds s t m.params args bound
  | apply o l r => ∃ v t u, v ∈ [l, r] ∧ s.typeOf? v = some t ∧ u ∈ w.catalog.hierarchy t ∧
      o ∈ (w.members u).operators ∧ w.catalog.accepts s (o.left.resolve u) l = true ∧
      w.catalog.accepts s (o.right.resolve u) r = true
  | convertTo target c v => ∃ t u, s.typeOf? v = some t ∧ u ∈ w.catalog.hierarchy t ∧
      c ∈ (w.members u).conversions ∧
      w.catalog.sameKind (c.kind.resolve u) (w.catalog.kindOf target) = true
  | convertFrom target c v =>
    c ∈ (w.members target).incoming ∧ w.catalog.accepts s (c.kind.resolve target) v = true

/-! ## Conversion -/

namespace Catalog

variable {c : Catalog} {s : Store} {v u : Value} {k : Kind}

/-- A standard conversion gives a value of the kind that was asked for. -/
theorem isAssignable_of_coerce? (h : c.coerce? s v k = some u) : c.isAssignable s u k = true := by
  unfold coerce? at h
  split at h
  all_goals
    try obtain ⟨x, -, rfl⟩ := Option.map_eq_some_iff.1 h
    try cases h
    try rfl
  -- what is left are integers and names turned into values of an enumerated type
  · rename_i t
    split at h
    · cases h
      exact c.isSubtype_refl t
    · cases h
  · rename_i t
    split at h
    · obtain ⟨x, -, rfl⟩ := Option.map_eq_some_iff.1 h
      exact c.isSubtype_refl t
    · cases h

theorem isAssignable_of_convert? (h : c.convert? s v k = some u) : c.isAssignable s u k = true := by
  unfold convert? at h
  split at h
  · rename_i hv
    cases h
    exact hv
  · exact isAssignable_of_coerce? h

end Catalog

/-! ## What is found -/

namespace World

variable {w : World} {s : Store} {t : TypeRef} {name : String}

theorem exists_of_accessor? {list : Members → List Accessor} {a : Accessor}
    (h : w.accessor? list t name = some a) :
    ∃ u ∈ w.catalog.hierarchy t, a ∈ list (w.members u) := by
  obtain ⟨u, hu, ha⟩ := List.exists_of_findSome?_eq_some h
  exact ⟨u, hu, List.mem_of_find?_eq_some ha⟩

/-- A field or property that is found was declared along the hierarchy. -/
theorem exists_of_find? {a : Accessor}
    (h : w.find? t name = some (.field a) ∨ w.find? t name = some (.property a)) :
    ∃ u ∈ w.catalog.hierarchy t, a ∈ (w.members u).accessors := by
  unfold find? at h
  split at h
  · rcases h with h | h <;> cases h
  split at h
  · rename_i b hb
    obtain ⟨u, hu, hmem⟩ := exists_of_accessor? hb
    rcases h with h | h <;> cases h
    exact ⟨u, hu, List.mem_append_left _ hmem⟩
  split at h
  · rename_i b hb
    obtain ⟨u, hu, hmem⟩ := exists_of_accessor? hb
    rcases h with h | h <;> cases h
    exact ⟨u, hu, List.mem_append_right _ hmem⟩
  · rcases h with h | h <;> obtain ⟨n, -, hn⟩ := Option.map_eq_some_iff.1 h <;> cases hn

/-- What a name denotes is nothing, a variant, a type, or an accessor that was declared along the
hierarchy; fields and properties are not told apart. -/
@[elab_as_elim]
theorem find?_elim {motive : Option Found → Prop} (none : motive none)
    (variant : ∀ ordinal, motive (some (.variant ordinal)))
    (nested : ∀ n, motive (some (.nested n)))
    (access : ∀ u ∈ w.catalog.hierarchy t, ∀ a ∈ (w.members u).accessors,
      motive (some (.field a)) ∧ motive (some (.property a))) :
    motive (w.find? t name) := by
  rcases hf : w.find? t name with _ | (a | a | ordinal | n)
  · exact none
  · obtain ⟨u, hu, ha⟩ := exists_of_find? (.inl hf)
    exact (access u hu a ha).1
  · obtain ⟨u, hu, ha⟩ := exists_of_find? (.inr hf)
    exact (access u hu a ha).2
  · exact variant ordinal
  · exact nested n

theorem mem_methodsNamed {u : TypeRef} {m : Method} (h : (u, m) ∈ w.methodsNamed t name) :
    u ∈ w.catalog.hierarchy t ∧ m ∈ (w.members u).methods := by
  obtain ⟨u', hu, hm⟩ := List.mem_flatMap.1 h
  obtain ⟨m', hm', heq⟩ := List.mem_map.1 hm
  cases heq
  exact ⟨hu, (List.mem_filter.1 hm').1⟩

theorem mem_overloads {op : Operator} {u : TypeRef} {o : Overload}
    (h : (u, o) ∈ w.overloads t op) : u ∈ w.catalog.hierarchy t ∧ o ∈ (w.members u).operators := by
  obtain ⟨u', hu, ho⟩ := List.mem_flatMap.1 h
  obtain ⟨o', ho', heq⟩ := List.mem_map.1 ho
  cases heq
  exact ⟨hu, (List.mem_filter.1 ho').1⟩

/-- A receiver has the type whose members apply to it, unless it is that type and only static ones
apply. -/
theorem taken_of_receiverType {α : Type} {list : Members → List α} {receiver : Value} {u : TypeRef}
    {x : α} {isStatic staticOnly : Bool}
    (h : s.receiverType receiver name = .ok (t, staticOnly))
    (hstatic : (staticOnly && !isStatic) = false) (hu : u ∈ w.catalog.hierarchy t)
    (hx : x ∈ list (w.members u)) : w.Taken s list isStatic receiver t u x := by
  unfold Store.receiverType at h
  split at h
  · cases h
  · cases h
    -- the receiver is a type
    refine ⟨?_, .inr rfl, hu, hx⟩
    intro hnot
    rw [hnot] at hstatic
    cases hstatic
  · rename_i v hnull htype
    split at h
    · rename_i t' ht
      cases h
      refine ⟨fun _ => ?_, .inl ht, hu, hx⟩
      cases receiver with
      | null => exact hnull rfl
      | type t' => exact htype t' rfl
      | _ => trivial
    · cases h

/-! ## What is bound -/

theorem bindArg?_eq_some {owner : TypeRef} {convert : Bool} {p : Param} {a v : Value}
    (h : w.bindArg? s owner convert p a = some v) :
    w.catalog.convert? s a (p.kind.resolve owner) = some v := by
  simp only [bindArg?] at h
  split at h
  · rename_i ha
    cases h
    exact Catalog.convert?_of_isAssignable ha
  split at h
  · exact h
  · cases h

theorem Binds.cons {owner : TypeRef} {p : Param} {ps : List Param} {as vs : List Value} {v : Value}
    (hrest : w.Binds s owner ps as.tail vs)
    (hfirst : (∃ a, as[0]? = some a ∧ w.catalog.convert? s a (p.kind.resolve owner) = some v ∧
        w.catalog.isAssignable s v (p.kind.resolve owner) = true) ∨
      as.length ≤ 0 ∧ p.default = some v) :
    w.Binds s owner (p :: ps) as (v :: vs) := by
  have hlength := hrest.length_args
  rw [List.length_tail] at hlength
  refine ⟨congrArg (· + 1) hrest.length_bound, ?_, ?_⟩
  · rw [List.length_cons]
    omega
  · intro i q u hq hu
    cases i with
    | zero =>
      cases hq
      cases hu
      exact hfirst
    | succ i =>
      rw [← List.getElem?_tail]
      rcases hrest.value i q u hq hu with ha | ⟨hle, hd⟩
      · exact .inl ha
      · rw [List.length_tail] at hle
        exact .inr ⟨by omega, hd⟩

theorem binds_of_bind? {owner : TypeRef} {convert : Bool} {ps : List Param} {as vs : List Value}
    (h : w.bind? s owner convert ps as = some vs) : w.Binds s owner ps as vs := by
  fun_induction bind? w s owner convert ps as generalizing vs with
  | case1 =>
    cases h
    exact ⟨rfl, Nat.le_refl 0, fun i p v hp => by cases hp⟩
  | case2 => cases h
  | case3 p ps ih =>
    obtain ⟨v, hv, h⟩ := Option.bind_eq_some_iff.1 h
    obtain ⟨us, hus, h⟩ := Option.bind_eq_some_iff.1 h
    cases h
    exact Binds.cons (ih hus) (.inr ⟨Nat.le_refl 0, hv⟩)
  | case4 p ps a as ih =>
    obtain ⟨v, hv, h⟩ := Option.bind_eq_some_iff.1 h
    obtain ⟨us, hus, h⟩ := Option.bind_eq_some_iff.1 h
    cases h
    have hconvert := bindArg?_eq_some hv
    exact Binds.cons (ih hus) (.inl ⟨a, rfl, hconvert, Catalog.isAssignable_of_convert? hconvert⟩)

theorem exists_of_bindOverload? {candidates : List (TypeRef × Method)} {args bound : List Value}
    {m : Method} (h : w.bindOverload? s candidates args = some (m, bound)) :
    ∃ owner, (owner, m) ∈ candidates ∧ w.Binds s owner m.params args bound := by
  obtain ⟨convert, -, h⟩ := List.exists_of_findSome?_eq_some h
  obtain ⟨c, hc, h⟩ := List.exists_of_findSome?_eq_some h
  obtain ⟨vs, hvs, heq⟩ := Option.map_eq_some_iff.1 h
  cases heq
  exact ⟨c.1, hc, binds_of_bind? hvs⟩

end World

/-! ## The steps that look at types -/

/-- A result that is there already needs no step. -/
theorem Act.ofExcept_ok_bind {σ α β : Type} (x : α) (f : α → Act σ β) :
    Act.ofExcept (.ok x) >>= f = f x := rfl

namespace Dialogue

variable {α β : Type} {w : World} {s : Store}

/-- From the objects `s`, performing a dialogue is the computation `a`, and its calls meet the
contract. -/
def Is (w : World) (s : Store) (p : Dialogue α) (a : HostM α) : Prop :=
  p.run s = a.run s ∧ ∀ e ∈ p.calls s, e.2.Meets w e.1

theorem Is.done {result : Except Abort α} {a : HostM α} (h : a.run s = (result, s)) :
    (done result).Is w s a := by
  refine ⟨h.symm, ?_⟩
  intro e he
  exact absurd he List.not_mem_nil

theorem Is.look {next : Store → Dialogue α} {f : Store → HostM α} (h : (next s).Is w s (f s)) :
    (look next).Is w s (Act.get >>= f) := h

theorem Is.bind {p : Dialogue α} {a : HostM α} {q : α → Dialogue β} {f : α → HostM β}
    (hp : p.Is w s a) (hq : ∀ x s', (q x).Is w s' (f x)) : (p >>= q).Is w s (a >>= f) := by
  obtain ⟨hrun, hcalls⟩ := hp
  refine ⟨?_, ?_⟩
  · rw [run_bind, Act.run_bind, hrun]
    rcases a.run s with ⟨e | x, s'⟩
    · rfl
    · exact (hq x s').1
  · intro e he
    rcases mem_calls_bind he with he | ⟨x, s', -, he⟩
    · exact hcalls e he
    · exact (hq x s').2 e he

theorem Is.enter {c : HostCall} {a : HostM Value} (h : a.run s = c.enter s) (hc : c.Meets w s) :
    (enter c).Is w s a := by
  refine ⟨h.symm, ?_⟩
  intro e he
  cases List.mem_singleton.1 he
  exact hc

end Dialogue

namespace World

variable (w : World) (s : Store)

theorem readDialogue_is (receiver : Value) (name : String) :
    (w.readDialogue receiver name).Is w s (w.readMember receiver name) := by
  refine .look ?_
  cases hr : s.receiverType receiver name with
  | error f => exact .done rfl
  | ok p =>
    obtain ⟨t, staticOnly⟩ := p
    simp only [Act.ofExcept_ok_bind]
    refine find?_elim (.done rfl) (fun ordinal => .done rfl) (fun n => .done rfl) ?_
    intro u hu a hmem
    refine and_self_iff.2 ?_
    simp only
    split
    · exact .done rfl
    · rename_i hstatic
      exact .enter rfl ⟨t, u, taken_of_receiverType hr (Bool.eq_false_iff.2 hstatic) hu hmem⟩

theorem writeDialogue_is (receiver : Value) (name : String) (v : Value) :
    (w.writeDialogue receiver name v).Is w s (w.writeMember receiver name v) := by
  refine .look ?_
  cases hr : s.receiverType receiver name with
  | error f => exact .done rfl
  | ok p =>
    obtain ⟨t, staticOnly⟩ := p
    simp only [Act.ofExcept_ok_bind]
    refine find?_elim (.done rfl) (fun ordinal => .done rfl) (fun n => .done rfl) ?_
    intro u hu a hmem
    refine and_self_iff.2 ?_
    simp only
    split
    · exact .done rfl
    rename_i hstatic
    cases hset : a.set with
    | none => exact .done rfl
    | some set =>
      cases hc : w.catalog.convert? s v (a.kind.resolve t) with
      | none => exact .done rfl
      | some converted =>
        refine .enter ?_ ⟨?_, t, u, ?_, Catalog.isAssignable_of_convert? hc⟩
        · show _ = (do a.write receiver converted; return converted : HostM Value) s
          rw [Accessor.write, hset]
          rfl
        · rw [hset]
          rfl
        · exact taken_of_receiverType hr (Bool.eq_false_iff.2 hstatic) hu hmem

theorem callDialogue_is (receiver : Value) (name : String) (args : List Value) :
    (w.callDialogue receiver name args).Is w s (w.callMethod receiver name args) := by
  refine .look ?_
  cases hr : s.receiverType receiver name with
  | error f => exact .done rfl
  | ok p =>
    obtain ⟨t, staticOnly⟩ := p
    rw [Act.ofExcept_ok_bind]
    by_cases hnone : (w.methodsNamed t name).isEmpty = true
    · simp only [if_pos hnone]
      exact .done rfl
    · simp only [if_neg hnone]
      generalize hcallable : (w.methodsNamed t name).filter
        (fun m => m.2.isStatic || !staticOnly) = callable
      by_cases hempty : callable.isEmpty = true
      · simp only [if_pos hempty]
        exact .done rfl
      · simp only [if_neg hempty]
        cases hb : w.bindOverload? s callable args with
        | none => exact .done rfl
        | some p =>
          obtain ⟨m, bound⟩ := p
          obtain ⟨u, hmem, hbinds⟩ := exists_of_bindOverload? hb
          rw [← hcallable, List.mem_filter] at hmem
          obtain ⟨hmethod, hstatic⟩ := hmem
          obtain ⟨hu, hm⟩ := mem_methodsNamed hmethod
          refine .enter rfl ⟨t, u, taken_of_receiverType hr ?_ hu hm, hbinds⟩
          cases staticOnly <;> simp_all

theorem constructDialogue_is (t : TypeRef) (args : List Value) :
    (w.constructDialogue t args).Is w s (w.construct t args) := by
  refine .look ?_
  cases hb : w.bindOverload? s ((w.members t).constructors.map (t, ·)) args with
  | none => exact .done rfl
  | some p =>
    obtain ⟨m, bound⟩ := p
    obtain ⟨u, hmem, hbinds⟩ := exists_of_bindOverload? hb
    obtain ⟨m', hm, heq⟩ := List.mem_map.1 hmem
    cases heq
    exact .enter rfl ⟨hm, hbinds⟩

theorem castDialogue_is (v : Value) (target : TypeRef) :
    (w.castDialogue v target).Is w s (w.cast v target) := by
  refine .look ?_
  simp only
  split
  · exact .done rfl
  cases hto : (s.typeOf? v).bind (w.conversionTo? · (w.catalog.kindOf target)) with
  | some c =>
    obtain ⟨t, ht, hto⟩ := Option.bind_eq_some_iff.1 hto
    obtain ⟨u, hu, hc⟩ := List.exists_of_findSome?_eq_some hto
    have hkind := List.find?_some hc
    exact .enter rfl ⟨t, u, ht, hu, List.mem_of_find?_eq_some hc, hkind⟩
  | none =>
    cases hfrom : w.conversionFrom? s target v with
    | some c =>
      have haccepts := List.find?_some (show List.find? _ _ = some c from hfrom)
      exact .enter rfl ⟨List.mem_of_find?_eq_some hfrom, haccepts⟩
    | none =>
      simp only
      split <;> exact .done rfl

theorem operatorDialogue_is (strict : Bool) (op : Operator) (l r : Value) :
    (w.operatorDialogue strict op l r).Is w s (w.applyOperator strict op l r) := by
  refine .look ?_
  cases ho : w.overload? s op l r with
  | some o =>
    obtain ⟨v, hv, ho⟩ := List.exists_of_findSome?_eq_some ho
    obtain ⟨t, ht, ho⟩ := Option.bind_eq_some_iff.1 ho
    obtain ⟨p, hp, heq⟩ := Option.map_eq_some_iff.1 ho
    cases heq
    obtain ⟨hu, hmem⟩ := mem_overloads (List.mem_of_find?_eq_some hp)
    have haccepts := List.find?_some hp
    rw [Bool.and_eq_true] at haccepts
    exact .enter rfl ⟨v, t, p.1, hv, ht, hu, hmem, haccepts.1, haccepts.2⟩
  | none =>
    simp only
    split
    · exact .done rfl
    · split <;> exact .done rfl

theorem nameDialogue_is (root : Value) (name : String) :
    (w.nameDialogue root name).Is w s (w.readName root name) := by
  obtain ⟨hrun, hcalls⟩ := w.readDialogue_is s root name
  refine ⟨?_, ?_⟩
  · rw [nameDialogue, Dialogue.run_mapEnd, hrun]
    show _ = w.readName root name s
    rw [readName, Act.run]
    rcases w.readMember root name s with ⟨(⟨e⟩ | ⟨p⟩) | v, s'⟩
    · simp only
      cases Builtin.ofName? name <;> rfl
    · rfl
    · rfl
  · rw [nameDialogue, Dialogue.calls_mapEnd]
    exact hcalls

end World

/-! ## Expressions -/

/-- Under all frames, performing a dialogue is the computation `a`, which leaves the frames as they
were, and its calls meet the contract. -/
def FramedDialogue.Follows {α : Type} (w : World) (p : FramedDialogue α) (a : EvalM α) : Prop :=
  ∀ s frames, a.run ⟨s, frames⟩ = (((p frames).run s).1, ⟨((p frames).run s).2, frames⟩) ∧
    ∀ e ∈ (p frames).calls s, e.2.Meets w e.1

namespace FramedDialogue

variable {α β : Type} {w : World}

theorem Follows.pure (x : α) : Follows w (Pure.pure x) (Pure.pure x) := by
  intro s frames
  exact ⟨rfl, fun e he => absurd he List.not_mem_nil⟩

theorem Follows.host {p : Dialogue α} {a : HostM α} (h : ∀ s, p.Is w s a) :
    Follows w (liftM p) (EvalM.host a) := by
  intro s frames
  obtain ⟨hrun, hcalls⟩ := h s
  refine ⟨?_, hcalls⟩
  show ((a.run s).1, (⟨(a.run s).2, frames⟩ : Run)) = _
  rw [← hrun]
  rfl

theorem Follows.bind {p : FramedDialogue α} {a : EvalM α} {q : α → FramedDialogue β}
    {f : α → EvalM β} (hp : Follows w p a) (hq : ∀ x, Follows w (q x) (f x)) :
    Follows w (p >>= q) (a >>= f) := by
  intro s frames
  obtain ⟨hrun, hcalls⟩ := hp s frames
  have hsteps : (p >>= q) frames = p frames >>= fun x => q x frames := rfl
  rw [hsteps]
  refine ⟨?_, ?_⟩
  · rw [Act.run_bind, hrun, Dialogue.run_bind]
    rcases (p frames).run s with ⟨e | x, s'⟩
    · rfl
    · exact (hq x s' frames).1
  · intro e he
    rcases Dialogue.mem_calls_bind he with he | ⟨x, s', -, he⟩
    · exact hcalls e he
    · exact (hq x s' frames).2 e he

theorem Follows.within {p : FramedDialogue α} {a : EvalM α} (label : String)
    (h : Follows w p a) : Follows w (within label p) (EvalM.framed label a) := by
  intro s frames
  obtain ⟨hrun, hcalls⟩ := h s (label :: frames)
  refine ⟨?_, ?_⟩
  · show EvalM.framed label a ⟨s, frames⟩ = _
    rw [FramedDialogue.within, Dialogue.run_mapEnd, EvalM.framed]
    rw [show a ⟨s, label :: frames⟩ = _ from hrun]
    rcases (p (label :: frames)).run s with ⟨(f | p) | x, s'⟩ <;> rfl
  · rw [FramedDialogue.within, Dialogue.calls_mapEnd]
    exact hcalls

end FramedDialogue

namespace Context

open FramedDialogue

variable (cx : Context)

theorem signDialogue_follows (negative : Bool) (v : Value) :
    Follows cx.world (liftM (cx.signDialogue negative v)) (cx.signed negative v) := by
  intro s frames
  cases negative <;> cases v <;> exact ⟨rfl, fun e he => absurd he List.not_mem_nil⟩

theorem typeDialogue_follows (expr : Expr) (v : Value) :
    Follows cx.world (liftM (typeDialogue expr v)) (typeValue expr v) := by
  intro s frames
  cases v <;> exact ⟨rfl, fun e he => absurd he List.not_mem_nil⟩

theorem operateDialogue_follows (op : Operator) (l r : Value) :
    Follows cx.world (liftM (cx.operateDialogue op l r)) (cx.operate op l r) :=
  .host fun s => cx.world.operatorDialogue_is s cx.strict op l r

theorem storeDialogue_follows (op : Option Operator) (receiver : Value) (name : String)
    (v : Value) :
    Follows cx.world (liftM (cx.storeDialogue op receiver name v))
      (cx.store op receiver name v) := by
  have hwrite : ∀ v, Follows cx.world (liftM (cx.world.writeDialogue receiver name v))
      (EvalM.host (cx.world.writeMember receiver name v)) :=
    fun v => .host fun s => cx.world.writeDialogue_is s receiver name v
  cases op with
  | none => exact hwrite v
  | some op =>
    refine Follows.bind (.host fun s => cx.world.readDialogue_is s receiver name) fun current => ?_
    exact Follows.bind (cx.operateDialogue_follows op current v) hwrite

/-- An assignment to something else than a name or member is refused in its frame. -/
theorem refusal_follows (label : String) (c : Cause) :
    Follows cx.world (within label (liftM (Dialogue.refuse c)) : FramedDialogue Value)
      (EvalM.framed label (Act.refuse c)) := by
  intro s frames
  exact ⟨rfl, fun e he => absurd he List.not_mem_nil⟩

mutual

theorem signedDialogue_follows : ∀ (negative : Bool) (e : Expr),
    Follows cx.world (cx.signedDialogue negative e) (cx.evalSigned negative e)
  | negative, .literal l => by
      rw [signedDialogue, evalSigned]
      exact cx.signDialogue_follows negative _
  | negative, .group inner => by
      rw [signedDialogue, evalSigned]
      exact .bind (signedDialogue_follows false inner) fun v => cx.signDialogue_follows negative v
  | negative, .binary op left right => by
      have hright : ∀ l, Follows cx.world
          (do let r ← cx.signedDialogue false right
              cx.operateDialogue op l r)
          (do let r ← cx.evalSigned false right
              cx.operate op l r) :=
        fun l => .bind (signedDialogue_follows false right) fun r =>
          cx.operateDialogue_follows op l r
      rw [signedDialogue, evalSigned]
      refine .bind (signedDialogue_follows negative left) fun l => ?_
      cases l with
      | type t =>
          by_cases h : (!negative && op = .sub && left.isNameChainGroup) = true
          · simp only [if_pos h]
            refine .within _ (.bind (signedDialogue_follows true right) fun v => ?_)
            exact .host fun s => cx.world.castDialogue_is s v t
          · simp only [if_neg h]
            exact hright (.type t)
      | _ => exact hright _
  | negative, .name n none => by
      rw [signedDialogue, evalSigned]
      refine .bind (.within _ ?_) fun v => cx.signDialogue_follows negative v
      exact .host fun s => cx.world.nameDialogue_is s cx.root n
  | negative, .name n (some args) => by
      rw [signedDialogue, evalSigned]
      refine .bind (.within _ ?_) fun v => cx.signDialogue_follows negative v
      refine .bind (argsDialogue_follows args) fun vs => ?_
      exact .host fun s => cx.world.callDialogue_is s cx.root n vs
  | negative, .member target n none => by
      rw [signedDialogue, evalSigned]
      refine .bind (.within _ ?_) fun v => cx.signDialogue_follows negative v
      refine .bind (signedDialogue_follows false target) fun receiver => ?_
      exact .host fun s => cx.world.readDialogue_is s receiver n
  | negative, .member target n (some args) => by
      rw [signedDialogue, evalSigned]
      refine .bind (.within _ ?_) fun v => cx.signDialogue_follows negative v
      refine .bind (signedDialogue_follows false target) fun receiver => ?_
      refine .bind (argsDialogue_follows args) fun vs => ?_
      exact .host fun s => cx.world.callDialogue_is s receiver n vs
  | negative, .cast type operand => by
      rw [signedDialogue, evalSigned]
      refine .bind (.within _ ?_) fun v => cx.signDialogue_follows negative v
      refine .bind (signedDialogue_follows false type) fun tv => ?_
      refine .bind (cx.typeDialogue_follows type tv) fun t => ?_
      refine .bind (signedDialogue_follows false operand) fun v => ?_
      exact .host fun s => cx.world.castDialogue_is s v t
  | negative, .new type args => by
      rw [signedDialogue, evalSigned]
      refine .bind (.within _ ?_) fun v => cx.signDialogue_follows negative v
      refine .bind (signedDialogue_follows false type) fun tv => ?_
      refine .bind (cx.typeDialogue_follows type tv) fun t => ?_
      refine .bind (argsDialogue_follows args) fun vs => ?_
      exact .host fun s => cx.world.constructDialogue_is s t vs
  | negative, .assign op (.name n none) value => by
      rw [signedDialogue, evalSigned]
      refine .bind (.within _ ?_) fun v => cx.signDialogue_follows negative v
      refine .bind (signedDialogue_follows false value) fun v => ?_
      exact cx.storeDialogue_follows op cx.root n v
  | negative, .assign op (.member target n none) value => by
      rw [signedDialogue, evalSigned]
      refine .bind (.within _ ?_) fun v => cx.signDialogue_follows negative v
      refine .bind (signedDialogue_follows false target) fun receiver => ?_
      refine .bind (signedDialogue_follows false value) fun v => ?_
      exact cx.storeDialogue_follows op receiver n v
  | negative, .assign op (.literal _) value => cx.refusal_follows _ _
  | negative, .assign op (.name _ (some _)) value => cx.refusal_follows _ _
  | negative, .assign op (.member _ _ (some _)) value => cx.refusal_follows _ _
  | negative, .assign op (.group _) value => cx.refusal_follows _ _
  | negative, .assign op (.cast _ _) value => cx.refusal_follows _ _
  | negative, .assign op (.new _ _) value => cx.refusal_follows _ _
  | negative, .assign op (.binary _ _ _) value => cx.refusal_follows _ _
  | negative, .assign op (.assign _ _ _) value => cx.refusal_follows _ _

theorem argsDialogue_follows : ∀ es : List Expr,
    Follows cx.world (cx.argsDialogue es) (cx.evalArgs es)
  | [] => by
      rw [argsDialogue, evalArgs]
      exact .pure []
  | e :: es => by
      rw [argsDialogue, evalArgs]
      refine .bind (signedDialogue_follows false e) fun v => ?_
      exact .bind (argsDialogue_follows es) fun vs => .pure _

end

/-! ## Lines -/

theorem valueDialogue_is (l : Line) (s : Store) :
    (cx.valueDialogue l).Is cx.world s (cx.lineValue l) := by
  unfold valueDialogue lineValue
  cases l.expr with
  | none => exact .done rfl
  | some e =>
    obtain ⟨hrun, hcalls⟩ := cx.signedDialogue_follows false e s []
    refine ⟨?_, hcalls⟩
    show _ = (((cx.eval e).run ⟨s, []⟩).1, ((cx.eval e).run ⟨s, []⟩).2.store)
    rw [eval, hrun]

theorem lineDialogue_is (l : Line) (s : Store) :
    (cx.lineDialogue l).Is cx.world s (cx.evalLine l) := by
  refine (cx.valueDialogue_is l s).bind fun v s' => ?_
  cases l.introspect with
  | true => exact .look (.done rfl)
  | false => exact .done rfl

/-- Every line is evaluated by performing its dialogue, and host code is only entered as its members
were declared. -/
theorem calls_meet (source : String) (s : Store) :
    (cx.dialogue source).run s = (cx.evaluate source).run s ∧
      ∀ e ∈ (cx.dialogue source).calls s, e.2.Meets cx.world e.1 := by
  show (cx.dialogue source).Is cx.world s (cx.evaluate source)
  unfold dialogue evaluate
  cases Parser.parse source with
  | error f => exact .done rfl
  | ok l => exact cx.lineDialogue_is l s

end Context

end DevConsole
