/-
# `DevConsole.Proofs.Eval.Overloads` — which overload is called

A call has candidates in an order: those of the type before those of its base.  Two passes go along
them.  The first lets an argument pass only as it is or as a wider number, the second lets it
convert, and each takes the first candidate that admits the arguments:

    an argument      passes for the kind of its parameter, taken for the owner of the candidate
    a parameter      without an argument has a default
    no argument      is left over

`Admits` says this of a candidate without going through its parameters, and `Selects` which of the
candidates is called.  What the first pass binds is what the second would have bound to the same
candidate (`bind?_of_plain`), and so of the values it can be said without regard to the pass that
they are those which the parameters call for (`bind?_eq_some_iff`).
-/
import DevConsole.Proofs.Eval.HostContract

namespace DevConsole

/-- The first element of a list with a property. -/
def FirstWith {α : Type} (p : α → Prop) (xs : List α) (x : α) : Prop :=
  ∃ before after, xs = before ++ x :: after ∧ p x ∧ ∀ y ∈ before, ¬ p y

namespace FirstWith

variable {α : Type} {p : α → Prop} {xs : List α} {x : α}

theorem mem (h : FirstWith p xs x) : x ∈ xs := by
  obtain ⟨before, after, rfl, -, -⟩ := h
  exact List.mem_append_right _ List.mem_cons_self

theorem holds (h : FirstWith p xs x) : p x := by
  obtain ⟨-, -, -, hx, -⟩ := h
  exact hx

end FirstWith

namespace World

variable (w : World) (s : Store)

/-- Whether a value is passed where a kind is declared: as it is or as a wider number, or with the
standard conversions. -/
def Passes : Bool → Kind → Value → Prop
  | false, k, v => w.catalog.accepts s k v = true
  | true, k, v => (w.catalog.convert? s v k).isSome = true

/-- The parameters of a candidate admit the arguments of a call. -/
structure Admits (convert : Bool) (owner : TypeRef) (params : List Param) (args : List Value) :
    Prop where
  length_le : args.length ≤ params.length
  passes : ∀ q ∈ params.zip args, w.Passes s convert (q.1.kind.resolve owner) q.2
  default : ∀ p ∈ params.drop args.length, p.default.isSome = true

/-- The candidate that is called: the first that admits the arguments without conversion or, where
none does, the first that admits them with conversions. -/
inductive Selects (candidates : List (TypeRef × Method)) (args : List Value)
    (c : TypeRef × Method) : Prop
  | plain : FirstWith (fun c => w.Admits s false c.1 c.2.params args) candidates c →
      Selects candidates args c
  | converting : (∀ d ∈ candidates, ¬ w.Admits s false d.1 d.2.params args) →
      FirstWith (fun c => w.Admits s true c.1 c.2.params args) candidates c →
      Selects candidates args c

variable {w : World} {s : Store} {convert : Bool} {owner : TypeRef} {p : Param} {ps : List Param}
  {a : Value} {as vs : List Value}

/-! ## One candidate -/

theorem admits_nil : w.Admits s convert owner [] [] :=
  ⟨Nat.le_refl _, fun _ hq => absurd hq List.not_mem_nil, fun _ hp => absurd hp List.not_mem_nil⟩

theorem not_admits_nil : ¬ w.Admits s convert owner [] (a :: as) := by
  intro h
  exact absurd h.length_le (Nat.not_succ_le_zero _)

theorem admits_default :
    w.Admits s convert owner (p :: ps) [] ↔
      p.default.isSome = true ∧ w.Admits s convert owner ps [] := by
  constructor
  · intro h
    obtain ⟨hp, hps⟩ := List.forall_mem_cons.1 h.default
    exact ⟨hp, Nat.zero_le _, by simp, hps⟩
  · rintro ⟨hp, h⟩
    exact ⟨Nat.zero_le _, by simp, List.forall_mem_cons.2 ⟨hp, h.default⟩⟩

theorem admits_arg :
    w.Admits s convert owner (p :: ps) (a :: as) ↔
      w.Passes s convert (p.kind.resolve owner) a ∧ w.Admits s convert owner ps as := by
  constructor
  · intro h
    obtain ⟨ha, has⟩ := List.forall_mem_cons.1 h.passes
    exact ⟨ha, Nat.le_of_succ_le_succ h.length_le, has, h.default⟩
  · rintro ⟨ha, h⟩
    exact ⟨Nat.succ_le_succ h.length_le, List.forall_mem_cons.2 ⟨ha, h.passes⟩, h.default⟩

/-- A wider number is one that converts. -/
theorem isSome_convert?_of_accepts {c : Catalog} {k : Kind} (h : c.accepts s k a = true) :
    (c.convert? s a k).isSome = true := by
  rcases Bool.or_eq_true_iff.1 h with hassign | hwider
  · rw [Catalog.convert?_of_isAssignable hassign]
    rfl
  · split at hwider
    · rfl
    · rfl
    · rfl
    · cases hwider

theorem bindArg?_convert (p : Param) (a : Value) :
    w.bindArg? s owner true p a = w.catalog.convert? s a (p.kind.resolve owner) := by
  rw [bindArg?, Catalog.convert?]
  split <;> rfl

/-- What is bound to a parameter without conversion is bound to it with conversions as well. -/
theorem bindArg?_of_plain {v : Value} (h : w.bindArg? s owner false p a = some v) :
    w.bindArg? s owner true p a = some v := by
  rw [bindArg?_convert]
  exact bindArg?_eq_some h

theorem isSome_bindArg? :
    (w.bindArg? s owner convert p a).isSome = true ↔
      w.Passes s convert (p.kind.resolve owner) a := by
  cases convert with
  | true => rw [bindArg?_convert, Passes]
  | false =>
    simp only [bindArg?, Passes, Bool.false_or]
    split
    · rename_i hassign
      exact iff_of_true rfl (Bool.or_eq_true_iff.2 (.inl hassign))
    split
    · rename_i haccepts
      exact iff_of_true (isSome_convert?_of_accepts haccepts) haccepts
    · rename_i haccepts
      exact iff_of_false Bool.false_ne_true haccepts

theorem isSome_bind_cons (v : Option Value) (vs : Option (List Value)) :
    (v.bind fun v => vs.bind fun vs => some (v :: vs)).isSome = true ↔
      v.isSome = true ∧ vs.isSome = true := by
  cases v <;> cases vs <;> simp

/-- Arguments are bound to the parameters of a candidate exactly if these admit them. -/
theorem isSome_bind? :
    (w.bind? s owner convert ps as).isSome = true ↔ w.Admits s convert owner ps as := by
  fun_induction bind? w s owner convert ps as with
  | case1 => exact iff_of_true rfl admits_nil
  | case2 => exact iff_of_false Bool.false_ne_true not_admits_nil
  | case3 p ps ih =>
    rw [admits_default, ← ih]
    exact isSome_bind_cons _ _
  | case4 p ps a as ih =>
    rw [admits_arg, ← ih, ← isSome_bindArg?]
    exact isSome_bind_cons _ _

theorem bind?_eq_none_iff :
    w.bind? s owner convert ps as = none ↔ ¬ w.Admits s convert owner ps as := by
  rw [← isSome_bind?, Option.not_isSome_iff_eq_none]

/-- What is bound without conversion is bound with conversions as well. -/
theorem bind?_of_plain (h : w.bind? s owner false ps as = some vs) :
    w.bind? s owner true ps as = some vs := by
  fun_induction bind? w s owner false ps as generalizing vs with
  | case1 => exact h
  | case2 => cases h
  | case3 p ps ih =>
    obtain ⟨v, hv, h⟩ := Option.bind_eq_some_iff.1 h
    obtain ⟨us, hus, h⟩ := Option.bind_eq_some_iff.1 h
    rw [bind?, hv, ih hus]
    exact h
  | case4 p ps a as ih =>
    obtain ⟨v, hv, h⟩ := Option.bind_eq_some_iff.1 h
    obtain ⟨us, hus, h⟩ := Option.bind_eq_some_iff.1 h
    rw [bind?, bindArg?_of_plain hv, ih hus]
    exact h

/-- The first value is that of the first parameter, and the others are those of the others. -/
theorem Binds.exists_cons (h : w.Binds s owner (p :: ps) as vs) :
    ∃ v us, vs = v :: us ∧ w.Binds s owner ps as.tail us ∧
      ((∃ a, as[0]? = some a ∧ w.catalog.convert? s a (p.kind.resolve owner) = some v) ∨
        as.length ≤ 0 ∧ p.default = some v) := by
  rcases vs with _ | ⟨v, us⟩
  · cases h.length_bound
  refine ⟨v, us, rfl, ⟨Nat.succ.inj h.length_bound, ?_, ?_⟩, ?_⟩
  · rw [List.length_tail]
    exact Nat.sub_le_of_le_add h.length_args
  · intro i q u hq hu
    rw [List.getElem?_tail, List.length_tail]
    rcases h.value (i + 1) q u hq hu with ha | ⟨hle, hd⟩
    · exact .inl ha
    · exact .inr ⟨Nat.sub_le_of_le_add hle, hd⟩
  · rcases h.value 0 p v rfl rfl with ⟨a, ha, hv, -⟩ | hd
    · exact .inl ⟨a, ha, hv⟩
    · exact .inr hd

/-- With conversions, the values that are bound are those that the parameters call for. -/
theorem bind?_eq_some_iff :
    w.bind? s owner true ps as = some vs ↔ w.Binds s owner ps as vs := by
  refine ⟨binds_of_bind?, ?_⟩
  induction ps generalizing as vs with
  | nil =>
    intro h
    obtain rfl : as = [] := List.eq_nil_of_length_eq_zero (Nat.le_zero.1 h.length_args)
    obtain rfl : vs = [] := List.eq_nil_of_length_eq_zero h.length_bound
    rfl
  | cons p ps ih =>
    intro h
    obtain ⟨v, us, rfl, hrest, hfirst⟩ := h.exists_cons
    have hus := ih hrest
    rcases as with _ | ⟨a, as⟩
    · rcases hfirst with ⟨a, ha, -⟩ | ⟨-, hv⟩
      · cases ha
      · rw [bind?, hv]
        rw [List.tail_nil] at hus
        rw [hus]
        rfl
    · rcases hfirst with ⟨a', ha, hv⟩ | ⟨hle, -⟩
      · cases ha
        rw [List.tail_cons] at hus
        rw [bind?, bindArg?_convert, hv, hus]
        rfl
      · cases hle

/-! ## One pass -/

variable {candidates : List (TypeRef × Method)} {args bound : List Value} {m : Method}

variable (w s) in
/-- One pass along the candidates. -/
def pass? (convert : Bool) (candidates : List (TypeRef × Method)) (args : List Value) :
    Option (Method × List Value) :=
  candidates.findSome? fun c => (w.bind? s c.1 convert c.2.params args).map (c.2, ·)

theorem bindOverload?_eq_or :
    w.bindOverload? s candidates args =
      (w.pass? s false candidates args).or (w.pass? s true candidates args) := by
  show [false, true].findSome? (fun convert => w.pass? s convert candidates args) = _
  cases h : w.pass? s false candidates args <;> cases h' : w.pass? s true candidates args <;>
    simp [h, h']

theorem pass?_eq_none_iff :
    w.pass? s convert candidates args = none ↔
      ∀ c ∈ candidates, ¬ w.Admits s convert c.1 c.2.params args := by
  rw [pass?, List.findSome?_eq_none_iff]
  refine forall₂_congr ?_
  intro c _
  rw [Option.map_eq_none_iff, bind?_eq_none_iff]

/-- A pass takes the first candidate that admits the arguments, with what is bound to it. -/
theorem pass?_eq_some_iff :
    w.pass? s convert candidates args = some (m, bound) ↔
      ∃ owner, FirstWith (fun c => w.Admits s convert c.1 c.2.params args) candidates (owner, m) ∧
        w.bind? s owner convert m.params args = some bound := by
  rw [pass?, List.findSome?_eq_some_iff]
  constructor
  · rintro ⟨before, ⟨owner, m'⟩, after, hlist, hbound, hbefore⟩
    obtain ⟨vs, hvs, heq⟩ := Option.map_eq_some_iff.1 hbound
    cases heq
    have hadmits : w.Admits s convert owner m'.params args :=
      isSome_bind?.1 (Option.isSome_of_eq_some hvs)
    refine ⟨owner, ⟨before, after, hlist, hadmits, ?_⟩, hvs⟩
    intro c hc
    exact bind?_eq_none_iff.1 (Option.map_eq_none_iff.1 (hbefore c hc))
  · rintro ⟨owner, ⟨before, after, hlist, -, hbefore⟩, hvs⟩
    refine ⟨before, (owner, m), after, hlist, Option.map_eq_some_iff.2 ⟨bound, hvs, rfl⟩, ?_⟩
    intro c hc
    exact Option.map_eq_none_iff.2 (bind?_eq_none_iff.2 (hbefore c hc))

/-! ## Both passes -/

theorem Selects.mem {c : TypeRef × Method} (h : w.Selects s candidates args c) :
    c ∈ candidates := by
  cases h with
  | plain hfirst => exact hfirst.mem
  | converting _ hfirst => exact hfirst.mem

theorem Selects.length_le {c : TypeRef × Method} (h : w.Selects s candidates args c) :
    args.length ≤ c.2.params.length := by
  cases h with
  | plain hfirst => exact hfirst.holds.length_le
  | converting _ hfirst => exact hfirst.holds.length_le

/-- What the first pass finds has the values that the second would have bound to it. -/
theorem bindOverload?_eq_some_iff :
    w.bindOverload? s candidates args = some (m, bound) ↔
      ∃ owner, w.Selects s candidates args (owner, m) ∧
        w.bind? s owner true m.params args = some bound := by
  rw [bindOverload?_eq_or, Option.or_eq_some_iff, pass?_eq_some_iff, pass?_eq_some_iff,
    pass?_eq_none_iff]
  constructor
  · rintro (⟨owner, hfirst, hbound⟩ | ⟨hnone, owner, hfirst, hbound⟩)
    · exact ⟨owner, .plain hfirst, bind?_of_plain hbound⟩
    · exact ⟨owner, .converting hnone hfirst, hbound⟩
  · rintro ⟨owner, hselects, hbound⟩
    cases hselects with
    | plain hfirst =>
      obtain ⟨vs, hvs⟩ := Option.isSome_iff_exists.1 (isSome_bind?.2 hfirst.holds)
      have hsame : vs = bound := Option.some.inj ((bind?_of_plain hvs).symm.trans hbound)
      exact .inl ⟨owner, hfirst, hsame ▸ hvs⟩
    | converting hnone hfirst => exact .inr ⟨hnone, owner, hfirst, hbound⟩

theorem isSome_bindOverload? :
    (w.bindOverload? s candidates args).isSome = true ↔
      ∃ c ∈ candidates, (w.bind? s c.1 true c.2.params args).isSome = true := by
  constructor
  · intro h
    obtain ⟨⟨m, bound⟩, hbound⟩ := Option.isSome_iff_exists.1 h
    obtain ⟨owner, hselects, hbind⟩ := bindOverload?_eq_some_iff.1 hbound
    exact ⟨(owner, m), hselects.mem, Option.isSome_of_eq_some hbind⟩
  · rintro ⟨c, hc, hbind⟩
    rw [bindOverload?_eq_or, Option.isSome_or, Bool.or_eq_true_iff]
    refine .inr (Option.isSome_iff_ne_none.2 ?_)
    intro hnone
    exact pass?_eq_none_iff.1 hnone c hc (isSome_bind?.1 hbind)

/-- There is an overload to call exactly if arguments can be bound to some candidate with
conversions.  It is the first candidate that admits the arguments without conversion or, where none
does, the first that admits them with conversions, and it is called with the values that its
parameters call for; it never has fewer parameters than there are arguments.  What binds without
conversion binds with conversions as well, to the same values. -/
theorem overload_selected (w : World) (s : Store) (candidates : List (TypeRef × Method))
    (args : List Value) :
    ((w.bindOverload? s candidates args).isSome = true ↔
      ∃ c ∈ candidates, (w.bind? s c.1 true c.2.params args).isSome = true) ∧
    (∀ m bound, w.bindOverload? s candidates args = some (m, bound) ↔
      ∃ owner, w.Selects s candidates args (owner, m) ∧ w.Binds s owner m.params args bound) ∧
    (∀ m bound, w.bindOverload? s candidates args = some (m, bound) →
      args.length ≤ m.params.length) ∧
    ∀ owner params bound, w.bind? s owner false params args = some bound →
      w.bind? s owner true params args = some bound := by
  refine ⟨isSome_bindOverload?, ?_, ?_, ?_⟩
  · intro m bound
    rw [bindOverload?_eq_some_iff]
    refine exists_congr ?_
    intro owner
    rw [bind?_eq_some_iff]
  · intro m bound h
    obtain ⟨owner, hselects, -⟩ := bindOverload?_eq_some_iff.1 h
    exact hselects.length_le
  · intro owner params bound h
    exact bind?_of_plain h

end World

/-! ## A number for a text or a number -/

namespace Described

/-- Nothing is declared but the types that every world has. -/
def world : World := ⟨{ headers := [] }, []⟩

/-- A method of one parameter. -/
def describe (k : Kind) : Method where
  name := "Describe"
  params := [{ name := "it", kind := k }]
  returns := .str
  isStatic := true
  invoke _ _ := pure .null

/-- An overload for a text, and then one for a number. -/
def candidates : List (TypeRef × Method) :=
  [(.builtin .string, describe .str), (.builtin .string, describe .double)]

/-- An integer is described as a number, although it would also convert to a text. -/
theorem overload_selected_integer :
    world.bind? {} (.builtin .string) false (describe .double).params [.int 5] =
        some [.double (Int64.toFloat 5)] ∧
      world.Selects {} candidates [.int 5] (.builtin .string, describe .double) ∧
      world.bindOverload? {} candidates [.int 5] =
        some (describe .double, [.double (Int64.toFloat 5)]) := by
  obtain ⟨-, hselected, -, hplain⟩ := World.overload_selected world {} candidates [.int 5]
  have hbind : world.bind? {} (.builtin .string) false (describe .double).params [.int 5] =
      some [.double (Int64.toFloat 5)] := rfl
  have hselects : world.Selects {} candidates [.int 5] (.builtin .string, describe .double) := by
    refine .plain ⟨[(.builtin .string, describe .str)], [], rfl, World.isSome_bind?.1 rfl, ?_⟩
    exact List.forall_mem_singleton.2 (World.bind?_eq_none_iff.1 rfl)
  have hbinds := World.binds_of_bind? (hplain _ _ _ hbind)
  exact ⟨hbind, hselects, (hselected _ _).2 ⟨_, hselects, hbinds⟩⟩

end Described

end DevConsole
