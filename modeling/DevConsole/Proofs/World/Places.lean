/-
# `DevConsole.Proofs.World.Places` — members that are places of the store

A place is a slot of an object or a static cell.  Putting a value at a place changes that place and
nothing else (`Store.at?_put_self`, `Store.at?_put_of_ne`), and leaves every value of the type that
it was of (`Store.typeOf?_put`).

A member is backed by places if receivers lead to places, its getter gives what a place holds, and
its setter puts there what it is given and refuses nothing that the kind of the member takes
(`Accessor.BackedBy`).  Which receivers lead to a place may depend on the objects, an object that is
in use leading nowhere, but not on what the place holds.  Nothing is asked of members without a
setter, so that the builtin types ask for nothing (`World.SlotBacked`).  Backed by places are

    a slot of the object behind the receiver      `Accessor.backedBy_slot`
    a static cell                                 `Accessor.backedBy_cell`

and with them all worlds given as data in which no setter refuses its value
(`Blueprint.slotBacked_worldAt`).
-/
import DevConsole.Blueprint.Build
import DevConsole.Proofs.Eval.HostContract

namespace DevConsole

/-- A place that holds a value: a slot of an object, or a static cell. -/
inductive Place where
  | slot (r : ObjectRef) (name : String)
  | cell (c : Cell)
deriving DecidableEq

/-! ## Places of the store -/

namespace Store

/-- What a place holds, if anything. -/
def at? (s : Store) : Place → Option Value
  | .slot r name => (s.object? r).bind (·.slot? name)
  | .cell c => s.cell? c

/-- The store with a value put at a place. -/
def put (s : Store) : Place → Value → Store
  | .slot r name, v => s.update r (·.setSlot name v)
  | .cell c, v => s.setCell c v

/-- There is such a place: a slot needs an object. -/
def Has (s : Store) : Place → Prop
  | .slot r _ => ∃ o, s.object? r = some o
  | .cell _ => True

variable {s : Store}

theorem object?_update_self {r : ObjectRef} {o : Object} (h : s.object? r = some o)
    (f : Object → Object) : (s.update r f).object? r = some (f o) := by
  rw [update, h]
  exact object?_setObject_self (f o) h

theorem object?_update_of_ne {r q : ObjectRef} (h : q ≠ r) (f : Object → Object) :
    (s.update r f).object? q = s.object? q := by
  unfold update
  split
  · exact object?_setObject_of_ne _ h
  · rfl

/-- What a slot of an object holds. -/
theorem at?_slot {r : ObjectRef} {o : Object} (h : s.object? r = some o) (name : String) :
    s.at? (.slot r name) = o.slot? name := by
  rw [at?, h]
  rfl

theorem cell?_update (r : ObjectRef) (f : Object → Object) (c : Cell) :
    (s.update r f).cell? c = s.cell? c := by
  unfold update
  split <;> rfl

theorem cell?_setCell_of_ne {c d : Cell} (h : d ≠ c) (v : Value) :
    (s.setCell c v).cell? d = s.cell? d := by
  have hfilter : ∀ cells : List (Cell × Value),
      (cells.filter (·.1 != c)).lookup d = cells.lookup d := by
    intro cells
    induction cells with
    | nil => rfl
    | cons x cells ih =>
      obtain ⟨x, u⟩ := x
      by_cases hx : x = c
      · subst hx
        have hbeq : (d == x) = false := beq_false_of_ne h
        simpa [List.lookup_cons, hbeq] using ih
      · cases hbeq : d == x with
        | true => simp [List.lookup_cons, hx, hbeq]
        | false => simpa [List.lookup_cons, hx, hbeq] using ih
  have hbeq : (d == c) = false := beq_false_of_ne h
  show ((c, v) :: s.cells.filter (·.1 != c)).lookup d = s.cells.lookup d
  rw [List.lookup_cons, hbeq]
  exact hfilter s.cells

/-- The other places hold what they held. -/
theorem at?_put_of_ne {p q : Place} (h : q ≠ p) (v : Value) : (s.put p v).at? q = s.at? q := by
  cases p with
  | slot r name =>
    cases q with
    | slot r' name' =>
      show ((s.update r _).object? r').bind _ = _
      by_cases hr : r' = r
      · subst hr
        have hname : name' ≠ name := by
          rintro rfl
          exact h rfl
        cases ho : s.object? r' with
        | none =>
          rw [update, ho]
          rfl
        | some o =>
          rw [object?_update_self ho, at?, ho]
          exact o.slot?_setSlot_of_ne hname v
      · rw [object?_update_of_ne hr]
        rfl
    | cell c => exact cell?_update r _ c
  | cell c =>
    cases q with
    | slot r name => rfl
    | cell d => exact cell?_setCell_of_ne (fun hd => h (congrArg Place.cell hd)) v

/-- Objects stay what they are, but for their slots. -/
theorem object?_put (s : Store) (p : Place) (v : Value) (r : ObjectRef) :
    (s.object? r = none ∧ (s.put p v).object? r = none) ∨
      ∃ o slots, s.object? r = some o ∧ (s.put p v).object? r = some { o with slots := slots } := by
  cases hr : s.object? r with
  | none =>
    refine .inl ⟨rfl, ?_⟩
    cases p with
    | slot q name =>
      show (s.update q _).object? r = none
      by_cases hq : r = q
      · subst hq
        rw [update, hr]
        exact hr
      · rw [object?_update_of_ne hq, hr]
    | cell c => exact hr
  | some o =>
    refine .inr ?_
    cases p with
    | slot q name =>
      show ∃ o' slots, _ ∧ (s.update q _).object? r = _
      by_cases hq : r = q
      · subst hq
        exact ⟨o, _, rfl, object?_update_self hr _⟩
      · refine ⟨o, o.slots, rfl, ?_⟩
        rw [object?_update_of_ne hq, hr]
    | cell c => exact ⟨o, o.slots, rfl, hr⟩

theorem typeOf?_put (s : Store) (p : Place) (v u : Value) :
    (s.put p v).typeOf? u = s.typeOf? u := by
  cases u with
  | object r =>
    obtain ⟨hnone, hput⟩ | ⟨o, slots, hsome, hput⟩ := s.object?_put p v r
    · simp only [typeOf?, hnone, hput]
    · simp only [typeOf?, hsome, hput]
  | _ => rfl

theorem receiverType_put (s : Store) (p : Place) (v receiver : Value) (name : String) :
    (s.put p v).receiverType receiver name = s.receiverType receiver name := by
  unfold receiverType
  split
  · rfl
  · rfl
  · rw [typeOf?_put]

end Store

/-! ## Members -/

/-- Members of a host structure are entered with objects that are not in use and that the structure
holds. -/
theorem Receiver.check_eq_ok_iff {c : Catalog} {host : String} {s : Store} {receiver : Value}
    {r : ObjectRef} {o : Object} :
    check c host s receiver = .ok (r, o) ↔
      receiver = .object r ∧ s.object? r = some o ∧ o.inUse = false ∧ o.host = host := by
  unfold check
  cases receiver with
  | object q =>
    simp only [Catalog.asObject, Value.object.injEq]
    cases ho : s.object? q with
    | none =>
      simp only [reduceCtorEq, false_iff]
      rintro ⟨rfl, hsome, -⟩
      rw [ho] at hsome
      cases hsome
    | some p =>
      simp only
      constructor
      · intro h
        split at h
        · cases h
        rename_i huse
        split at h
        · rename_i hhost
          cases h
          exact ⟨rfl, ho, Bool.eq_false_iff.2 huse, hhost⟩
        · cases h
      · rintro ⟨rfl, hsome, huse, hhost⟩
        rw [ho] at hsome
        cases hsome
        simp [huse, hhost]
  | _ => simp [Catalog.asObject]

/-- An accessor is backed by places, to which `place` leads from receivers.  What is put there is of
the kind of the accessor, as it reads in any type. -/
structure Accessor.BackedBy (c : Catalog) (a : Accessor)
    (place : Store → Value → Except Abort Place) : Prop where
  has : ∀ {s receiver p}, place s receiver = .ok p → s.Has p
  stays : ∀ {s receiver p}, place s receiver = .ok p → ∀ v, place (s.put p v) receiver = .ok p
  reads : ∀ {s receiver p v}, place s receiver = .ok p → s.at? p = some v →
    (a.get receiver).run s = (.ok v, s)
  stores : ∀ {set s receiver v t}, a.set = some set →
    c.isAssignable s v (a.kind.resolve t) = true →
    (set receiver v).run s =
      match place s receiver with
      | .ok p => (.ok (), s.put p v)
      | .error e => (.error e, s)

/-- The members that can be stored into are backed by places. -/
def Members.SlotBacked (c : Catalog) (ms : Members) : Prop :=
  ∀ a ∈ ms.accessors, a.set.isSome = true → ∃ place, a.BackedBy c place

/-- The declared fields and properties that can be stored into are backed by places. -/
def World.SlotBacked (w : World) : Prop := ∀ ms ∈ w.declared, ms.SlotBacked w.catalog

namespace Accessor

variable {c : Catalog}

/-- The slot of an object behind a receiver. -/
def slotPlace (c : Catalog) (host name : String) (s : Store) (receiver : Value) :
    Except Abort Place :=
  match Receiver.check c host s receiver with
  | .ok (r, _) => .ok (.slot r name)
  | .error f => .error (.failed f)

theorem slotPlace_eq_ok {host name : String} {s : Store} {receiver : Value} {p : Place}
    (h : slotPlace c host name s receiver = .ok p) :
    ∃ r o, receiver = .object r ∧ s.object? r = some o ∧ o.inUse = false ∧ o.host = host ∧
      p = .slot r name := by
  unfold slotPlace at h
  split at h
  · rename_i r o hcheck
    cases h
    obtain ⟨rfl, ho, huse, hhost⟩ := Receiver.check_eq_ok_iff.1 hcheck
    exact ⟨r, o, rfl, ho, huse, hhost, rfl⟩
  · cases h

theorem check_eq_ok {host : String} {s : Store} {r : ObjectRef} {o : Object}
    (ho : s.object? r = some o) (huse : o.inUse = false) (hhost : o.host = host) :
    Receiver.check c host s (.object r) = .ok (r, o) :=
  Receiver.check_eq_ok_iff.2 ⟨rfl, ho, huse, hhost⟩

/-- A member that is read from a slot, and stored into it. -/
theorem backedBy_slot {host name slotName : String} {kind : Kind} {get : Object → Value}
    {set : Store → Value → Object → Except Failure Object}
    (hget : ∀ o v, o.slot? slotName = some v → get o = v)
    (hset : ∀ s v o t, c.isAssignable s v (kind.resolve t) = true →
      set s v o = .ok (o.setSlot slotName v)) :
    (typed c host name kind get (some set)).BackedBy c (slotPlace c host slotName) where
  has := by
    intro s receiver p h
    obtain ⟨r, o, -, ho, -, -, rfl⟩ := slotPlace_eq_ok h
    exact ⟨o, ho⟩
  stays := by
    intro s receiver p h v
    obtain ⟨r, o, rfl, ho, huse, hhost, rfl⟩ := slotPlace_eq_ok h
    have hput : (s.put (.slot r slotName) v).object? r = some (o.setSlot slotName v) :=
      Store.object?_update_self ho _
    rw [slotPlace, check_eq_ok hput huse hhost]
  reads := by
    intro s receiver p v h hv
    obtain ⟨r, o, rfl, ho, huse, hhost, rfl⟩ := slotPlace_eq_ok h
    rw [Store.at?, ho] at hv
    show Receiver.read c host (.object r) get s = _
    rw [Receiver.read, check_eq_ok ho huse hhost]
    simp only [hget o v hv]
  stores := by
    intro f s receiver v t hf hv
    cases hf
    show Receiver.change c host receiver (fun s o => set s v o) s = _
    rw [Receiver.change, slotPlace]
    cases hcheck : Receiver.check c host s receiver with
    | error e => rfl
    | ok found =>
      obtain ⟨r, o⟩ := found
      have hplace : slotPlace c host slotName s receiver = .ok (.slot r slotName) := by
        rw [slotPlace, hcheck]
      obtain ⟨r', o', rfl, ho, huse, hhost, heq⟩ := slotPlace_eq_ok hplace
      have hfound : Receiver.check c host s (.object r') = .ok (r', o') := check_eq_ok ho huse hhost
      rw [hfound] at hcheck
      cases hcheck
      simp only [hset s v o t hv, Store.put, Store.update, ho]

/-- A static member that is read from a cell once this has a value, and stored into it. -/
theorem backedBy_cell {name : String} {kind : Kind} {cell : Cell} {get : HostM Value}
    (hget : ∀ s v, s.cell? cell = some v → get.run s = (.ok v, s)) :
    BackedBy c ⟨name, kind, true, fun _ => get, some fun _ v => Act.modify (·.setCell cell v)⟩
      fun _ _ => .ok (.cell cell) where
  has := by
    intro s receiver p h
    cases h
    trivial
  stays := by
    intro s receiver p h v
    exact h
  reads := by
    intro s receiver p v h hv
    cases h
    exact hget s v hv
  stores := by
    intro f s receiver v t hf hv
    cases hf
    rfl

end Accessor

namespace World

variable {w : World}

/-- No member of a builtin type can be stored into. -/
theorem set_builtin (c : Catalog) (b : Builtin) :
    ∀ a ∈ (Builtin.members c b).accessors, a.set = none := by
  intro a ha
  cases b <;>
    simp only [Builtin.members, Builtin.boolMembers, Builtin.intMembers, Builtin.floatMembers,
      Builtin.doubleMembers, Builtin.stringMembers, Builtin.limits, Members.accessors,
      List.append_nil, List.nil_append, List.mem_cons, List.not_mem_nil, or_false] at ha
  · rcases ha with rfl | rfl <;> rfl
  · rcases ha with rfl | rfl <;> rfl
  · rcases ha with rfl | rfl <;> rfl
  · subst ha
    rfl

/-- Whatever a name denotes that can be stored into is a member of a declared type. -/
theorem exists_mem_declared {t : TypeRef} {name : String} {a : Accessor}
    (ha : w.find? t name = some (.field a) ∨ w.find? t name = some (.property a))
    (hset : a.set.isSome = true) : ∃ ms ∈ w.declared, a ∈ ms.accessors := by
  obtain ⟨u, -, hmem⟩ := exists_of_find? ha
  cases u with
  | builtin b =>
    rw [set_builtin w.catalog b a hmem] at hset
    cases hset
  | declared i =>
    cases hi : w.declared[i]? with
    | none =>
      rw [members, List.getD_eq_getElem?_getD, hi] at hmem
      cases hmem
    | some ms =>
      rw [members, List.getD_eq_getElem?_getD, hi] at hmem
      exact ⟨ms, List.mem_of_getElem? hi, hmem⟩

end World

/-! ## Worlds given as data -/

/-- The setter of a member, if it has one, takes every value. -/
def MemberPlan.TakesAll : MemberPlan → Prop
  | mutableProperty _ _ _ (some _) => False
  | _ => True

namespace Blueprint

variable (b : Blueprint)

theorem backedBy_slotAccessor (host name kind : String) :
    (b.slotAccessor host name kind (some (storing name))).BackedBy b.catalog
      (Accessor.slotPlace b.catalog host name) :=
  Accessor.backedBy_slot (fun o v hv => by rw [hv]; rfl) fun _ _ _ _ _ => rfl

theorem cellValue_of_cell? {cell : Cell} {p : ValuePlan} {s : Store} {v : Value}
    (h : s.cell? cell = some v) : (b.cellValue cell p).run s = (.ok v, s) := by
  unfold cellValue
  rw [Act.run_bind, Act.run_get]
  simp only [h]
  rfl

theorem slotBacked_addMember (eval : String → Value → HostM Value) (t : TypeRef) {ms : Members}
    (hms : ms.SlotBacked b.catalog) (place : Nat) {m : MemberPlan} (hm : m.TakesAll) :
    (b.addMember eval t ms place m).SlotBacked b.catalog := by
  have hfield (x : Accessor) (hx : x.set.isSome = true → ∃ place, x.BackedBy b.catalog place) :
      Members.SlotBacked b.catalog { ms with fields := ms.fields ++ [x] } := by
    intro a ha hset
    simp only [Members.accessors, List.mem_append, List.mem_singleton] at ha
    obtain (ha | rfl) | ha := ha
    · exact hms a (List.mem_append_left _ ha) hset
    · exact hx hset
    · exact hms a (List.mem_append_right _ ha) hset
  have hproperty (x : Accessor) (hx : x.set.isSome = true → ∃ place, x.BackedBy b.catalog place) :
      Members.SlotBacked b.catalog { ms with properties := ms.properties ++ [x] } := by
    intro a ha hset
    simp only [Members.accessors, List.mem_append, List.mem_singleton] at ha
    obtain ha | ha | rfl := ha
    · exact hms a (List.mem_append_left _ ha) hset
    · exact hms a (List.mem_append_right _ ha) hset
    · exact hx hset
  cases m with
  | field n k i => exact hfield _ fun _ => ⟨_, b.backedBy_slotAccessor _ n k⟩
  | readonlyField n k i => exact hfield _ nofun
  | property n k i => exact hproperty _ nofun
  | mutableProperty n k i reject =>
    cases reject with
    | none => exact hproperty _ fun _ => ⟨_, b.backedBy_slotAccessor _ n k⟩
    | some reason => exact hm.elim
  | staticField n k v constant =>
    refine hfield _ fun hset => ?_
    cases constant with
    | true => cases hset
    | false => exact ⟨_, Accessor.backedBy_cell fun s v => b.cellValue_of_cell?⟩
  | staticProperty n k v => exact hproperty _ nofun
  | rawProperty n k body => exact hproperty _ nofun
  | _ => exact hms

theorem slotBacked_membersOf (eval : String → Value → HostM Value) (index : Nat) {t : TypePlan}
    (ht : ∀ m ∈ t.members, m.TakesAll) : (b.membersOf eval index t).SlotBacked b.catalog := by
  have hrun : ∀ (plans : List (MemberPlan × Nat)) (ms : Members),
      (∀ m ∈ plans, m.1.TakesAll) → ms.SlotBacked b.catalog →
      (plans.foldl (fun ms m => b.addMember eval (.declared index) ms m.2 m.1) ms).SlotBacked
        b.catalog := by
    intro plans
    induction plans with
    | nil => exact fun ms _ hms => hms
    | cons m plans ih =>
      intro ms hplans hms
      obtain ⟨hm, hplans⟩ := List.forall_mem_cons.1 hplans
      exact ih _ hplans (b.slotBacked_addMember eval _ hms m.2 hm)
  refine hrun _ _ (fun m hm => ht m.1 (List.fst_mem_of_mem_zipIdx hm)) ?_
  split
  · exact nofun
  · exact nofun

/-- In a world that is given as data, the members that can be stored into are backed by places,
unless a setter refuses its values. -/
theorem slotBacked_worldAt (hb : ∀ t ∈ b.types, ∀ m ∈ t.members, m.TakesAll) (n : Nat) :
    (b.worldAt n).SlotBacked := by
  have hworld (eval : String → Value → HostM Value) :
      World.SlotBacked ⟨b.catalog, b.types.zipIdx.map fun t => b.membersOf eval t.2 t.1⟩ := by
    intro ms hms
    obtain ⟨t, ht, rfl⟩ := List.mem_map.1 hms
    exact b.slotBacked_membersOf eval t.2 (hb t.1 (List.fst_mem_of_mem_zipIdx ht))
  cases n with
  | zero => exact hworld _
  | succ n => exact hworld _

end Blueprint

end DevConsole
