/-
# `DevConsole.Proofs.Eval.Assignment` — which values an assignment refuses

A member is declared by some type of a hierarchy, and its kind may be that type itself.  What the
kind is for a type further down, the listing and the assignment find out on two walks of their own:

    listing       the kind read in the type that declares the member
    assignment    the kind read in the type of the receiver

The two walks stop at the same declaration (`find?_list_eq`).  For a kind that is spelled out they
agree then.  For a member that takes its own type they are the kinds of two types, and what is
refused is as listed exactly for the values that suit both types or neither
(`refuses_iff_listed_iff`).  An object of the declaring type, stored through an object of a type
derived from it, suits only the one (`refuses_object_of_declarer`).
-/
import Mathlib.Logic.Basic
import DevConsole.Proofs.Eval.HostContract

namespace DevConsole

/-! ## Values and types -/

namespace Catalog

variable {c : Catalog} {s : Store} {v : Value} {t u : TypeRef}

/-- A value suits a type: it is of the type, or the type is enumerated and the value is an ordinal
or the name of a variant. -/
def Suits (c : Catalog) (s : Store) (t : TypeRef) : Value → Prop
  | .null => c.isEnum t = false
  | .int _ => c.isEnum t = true
  | .str text => c.isEnum t = true ∧
      (c.variantOrdinal? t (String.ofList (Text.trim text.toList))).isSome = true
  | .enum u _ => c.isSubtype u t = true
  | .object r => ∃ u, s.typeOf? (.object r) = some u ∧ c.isSubtype u t = true
  | _ => False

/-- The values that suit a type are those that convert to its kind. -/
theorem convert?_eq_none_iff : c.convert? s v (.type t) = none ↔ ¬ c.Suits s t v := by
  unfold convert?
  cases v with
  | null => cases h : c.isEnum t <;> simp [isAssignable, coerce?, Suits, h]
  | int i => cases h : c.isEnum t <;> simp [isAssignable, coerce?, Suits, h]
  | str text => cases h : c.isEnum t <;> simp [isAssignable, coerce?, Suits, h]
  | enum u ordinal => cases h : c.isSubtype u t <;> simp [isAssignable, coerce?, Suits, h]
  | object r => cases h : s.typeOf? (.object r) <;> simp [isAssignable, coerce?, Suits, h]
  | _ => simp [isAssignable, coerce?, Suits]

/-- The hierarchy of a base is what is left of the hierarchy from there on. -/
theorem hierarchy_suffix (h : u ∈ c.hierarchy t) : c.hierarchy u <:+ c.hierarchy t := by
  induction hn : t.rank using Nat.strongRecOn generalizing t with
  | _ n ih =>
    by_cases hut : u = t
    · subst hut
      exact List.suffix_refl _
    rw [hierarchy_eq c t] at h ⊢
    have hbases := List.mem_of_ne_of_mem hut h
    cases hb : c.base? t with
    | none =>
      rw [hb] at hbases
      cases hbases
    | some b =>
      rw [hb] at hbases
      exact (ih b.rank (hn ▸ rank_lt_of_base? hb) hbases rfl).trans (List.suffix_cons t _)

/-- A base is not of the types derived from it, if their names tell them apart. -/
theorem isSubtype_base (hnames : ((c.hierarchy t).map c.name).Nodup) (hu : u ∈ c.hierarchy t)
    (hne : u ≠ t) : c.isSubtype u t = false := by
  have hsuffix : c.hierarchy u <:+ (c.hierarchy t).tail := by
    rw [hierarchy_eq c t] at hu ⊢
    cases hb : c.base? t with
    | none =>
      rw [hb] at hu
      exact absurd (List.mem_singleton.1 hu) hne
    | some b =>
      rw [hb] at hu
      exact hierarchy_suffix (List.mem_of_ne_of_mem hne hu)
  refine List.any_eq_false.2 fun a ha hname => ?_
  have htail := hsuffix.subset ha
  rw [hierarchy_eq, List.tail_cons] at htail
  rw [hierarchy_eq, List.map_cons, List.nodup_cons] at hnames
  exact hnames.1 (List.mem_map.2 ⟨a, htail, eq_of_beq hname⟩)

end Catalog

/-! ## Where a member is declared, and how it is listed -/

/-- The accessors that are listed as entries of a sort. -/
def EntrySort.accessors : EntrySort → Members → List Accessor
  | field => Members.fields
  | property => Members.properties
  | type | method => fun _ => []

/-- The first of the entries that are equal stays, so the first with a property does. -/
theorem Entry.find?_dedup (p : Entry → Bool) (es : List Entry) :
    (dedup es).find? p = es.find? p := by
  have hfrom : ∀ seen : List Entry,
      (es.foldl (fun seen e => if e ∈ seen then seen else seen ++ [e]) seen).find? p =
        (seen ++ es).find? p := by
    induction es with
    | nil => simp
    | cons e es ih =>
      intro seen
      rw [List.foldl_cons, ih]
      split
      · rename_i hmem
        rw [List.find?_append, List.find?_append, List.find?_cons]
        cases he : p e with
        | false => rfl
        | true =>
          -- an earlier entry has the property, so none of the others is asked
          obtain ⟨first, hfirst⟩ := Option.isSome_iff_exists.1 (List.find?_isSome.2 ⟨e, hmem, he⟩)
          rw [hfirst]
          rfl
      · rw [List.append_assoc]
        rfl
  exact hfrom []

namespace World

variable {w : World} {s : Store} {t u : TypeRef} {name : String} {sort : EntrySort} {a : Accessor}

/-- The type `u` declares the accessor `a` that a name stands for in `t`, among those listed as
entries of a sort: nearer to `t` there is none. -/
def Declares (w : World) (t : TypeRef) (name : String) (sort : EntrySort) (u : TypeRef)
    (a : Accessor) : Prop :=
  ∃ nearer further, w.catalog.hierarchy t = nearer ++ u :: further ∧
    (sort.accessors (w.members u)).find? (·.name == name) = some a ∧
    ∀ x ∈ nearer, (sort.accessors (w.members x)).find? (·.name == name) = none

theorem Declares.mem_hierarchy (h : w.Declares t name sort u a) : u ∈ w.catalog.hierarchy t := by
  obtain ⟨nearer, further, heq, -⟩ := h
  rw [heq]
  exact List.mem_append_right _ List.mem_cons_self

theorem exists_declares (sort : EntrySort) (h : w.accessor? sort.accessors t name = some a) :
    ∃ u, w.Declares t name sort u a := by
  obtain ⟨nearer, u, further, heq, ha, hnearer⟩ := List.findSome?_eq_some_iff.1 h
  exact ⟨u, nearer, further, heq, ha, hnearer⟩

/-- The entry that an accessor has in a listing, its kind being read in the type that declares
it. -/
def entry (w : World) (sort : EntrySort) (u : TypeRef) (a : Accessor) : Entry :=
  ⟨a.name, sort, ": " ++ w.catalog.kindText (a.kind.resolve u), a.isStatic⟩

theorem find?_accessorEntries (w : World) (u : TypeRef) (name : String) (sort asked : EntrySort) :
    (w.accessorEntries sort sort.accessors u).find? (fun e => e.name == name && e.sort == asked) =
      if sort = asked then
        ((sort.accessors (w.members u)).find? (·.name == name)).map (w.entry sort u)
      else none := by
  show List.find? _ (List.map (w.entry sort u) _) = _
  rw [List.find?_map]
  split
  · rename_i h
    subst h
    simp [Function.comp_def, entry]
  · rename_i h
    simp [Function.comp_def, entry, h]

/-- The first entry with the name and sort of an accessor that is declared is that of the accessor,
unless it is one of a variant. -/
theorem Declares.find?_list (h : w.Declares t name sort u a)
    (hvariant : w.catalog.variantOrdinal? t name = none) :
    (w.list s t).find? (fun e => e.name == name && e.sort == sort) = some (w.entry sort u a) := by
  obtain ⟨nearer, further, heq, ha, hnearer⟩ := h
  have hsort : sort = .field ∨ sort = .property := by
    cases sort <;> simp [EntrySort.accessors] at ha ⊢
  -- both lists of a type are passed, and the one asked for answers
  have hentries : ∀ x, (w.accessorEntries .field Members.fields x ++
      w.accessorEntries .property Members.properties x).find?
        (fun e => e.name == name && e.sort == sort) =
      ((sort.accessors (w.members x)).find? (·.name == name)).map (w.entry sort x) := by
    intro x
    have hfields := find?_accessorEntries w x name .field sort
    have hproperties := find?_accessorEntries w x name .property sort
    simp only [EntrySort.accessors] at hfields hproperties
    rw [List.find?_append, hfields, hproperties]
    rcases hsort with rfl | rfl <;> simp [EntrySort.accessors]
  have hnone : ((w.catalog.variants t).map fun v =>
      (⟨v.1, .field, ": " ++ w.catalog.name t, true⟩ : Entry)).find?
        (fun e => e.name == name && e.sort == sort) = none := by
    rw [Catalog.variantOrdinal?, Option.map_eq_none_iff, List.find?_eq_none] at hvariant
    rw [List.find?_map, Option.map_eq_none_iff, List.find?_eq_none]
    intro v hv hname
    exact hvariant v hv (Bool.and_eq_true_iff.1 hname).1
  rw [list, Entry.find?_dedup, List.append_assoc, List.append_assoc, List.find?_append, hnone,
    Option.none_or, List.find?_append, List.find?_flatMap]
  have hwalk : (w.catalog.hierarchy t).findSome? (fun x =>
      (w.accessorEntries .field Members.fields x ++
        w.accessorEntries .property Members.properties x).find?
          (fun e => e.name == name && e.sort == sort)) = some (w.entry sort u a) := by
    refine List.findSome?_eq_some_iff.2 ⟨nearer, u, further, heq, ?_, ?_⟩
    · rw [hentries, ha]
      rfl
    · intro x hx
      rw [hentries, hnearer x hx]
      rfl
  rw [hwalk, Option.some_or]

/-- What a name denotes as a field or property is what the listing shows first under that name and
sort: both walks stop at the type that declares it. -/
theorem find?_list_eq
    (ha : w.find? t name = some (.field a) ∨ w.find? t name = some (.property a)) :
    ∃ sort u, w.Declares t name sort u a ∧
      ∀ s, (w.list s t).find? (fun e => e.name == name && e.sort == sort) =
        some (w.entry sort u a) := by
  unfold find? at ha
  split at ha
  · rcases ha with ha | ha <;> cases ha
  rename_i hvariant
  split at ha
  · rename_i b hb
    obtain ⟨u, hu⟩ := exists_declares .field hb
    rcases ha with ha | ha <;> cases ha
    exact ⟨.field, u, hu, fun s => hu.find?_list hvariant⟩
  split at ha
  · rename_i b hb
    obtain ⟨u, hu⟩ := exists_declares .property hb
    rcases ha with ha | ha <;> cases ha
    exact ⟨.property, u, hu, fun s => hu.find?_list hvariant⟩
  · rcases ha with ha | ha <;> obtain ⟨n, -, hn⟩ := Option.map_eq_some_iff.1 ha <;> cases hn

/-! ## What is refused -/

/-- An assignment is refused for the type of its value: it fails so before any host code is
entered.  (A setter may fail in the same way.) -/
def Refuses (w : World) (s : Store) (receiver : Value) (name : String) (v : Value) : Prop :=
  (w.writeDialogue receiver name v).calls s = [] ∧
    ∃ expected found, ((w.writeMember receiver name v).run s).1 =
      .error (.failed (.of (.typeMismatch expected found)))

end World

/-- A member that can be assigned to: the receiver has the type `t`, or is that type and the member
is static, and the name denotes the field or property `a` there, which has a setter. -/
structure World.Assigns (w : World) (s : Store) (receiver : Value) (name : String) (t : TypeRef)
    (a : Accessor) : Prop where
  found : w.find? t name = some (.field a) ∨ w.find? t name = some (.property a)
  receiverType : ∃ staticOnly, s.receiverType receiver name = .ok (t, staticOnly) ∧
    (staticOnly && !a.isStatic) = false
  writable : a.set.isSome = true

namespace World

variable {w : World} {s : Store} {receiver v : Value} {name : String} {t u : TypeRef}
  {sort : EntrySort} {a : Accessor}

/-- An assignment asks whether the value converts to the kind as it reads in the type of the
receiver. -/
theorem Assigns.refuses_iff (h : w.Assigns s receiver name t a) :
    w.Refuses s receiver name v ↔ w.catalog.convert? s v (a.kind.resolve t) = none := by
  obtain ⟨staticOnly, hr, hstatic⟩ := h.receiverType
  obtain ⟨set, hset⟩ := Option.isSome_iff_exists.1 h.writable
  have hdialogue : ∃ next, w.writeDialogue receiver name v = .look next ∧
      next s = (w.catalog.convert? s v (a.kind.resolve t)).elim
        (.fail (w.catalog.mismatch s (w.catalog.kindText (a.kind.resolve t)) v))
        fun converted => .enter (.set a receiver converted) := by
    refine ⟨_, rfl, ?_⟩
    cases hconvert : w.catalog.convert? s v (a.kind.resolve t) <;> rcases h.found with ha | ha <;>
      simp [hr, ha, hstatic, hset, hconvert]
  obtain ⟨next, hlook, hnext⟩ := hdialogue
  rw [Refuses, ← (writeDialogue_is w s receiver name v).1, hlook]
  show (next s).calls s = [] ∧ (∃ expected found, ((next s).run s).1 = _) ↔ _
  rw [hnext]
  cases w.catalog.convert? s v (a.kind.resolve t) with
  | none => exact ⟨fun _ => rfl, fun _ => ⟨rfl, _, _, rfl⟩⟩
  | some converted =>
    constructor
    · rintro ⟨hcalls, -⟩
      cases hcalls
    · intro hconvert
      cases hconvert

/-- Reading a kind in two types makes a difference only if it is the type itself. -/
theorem convert?_resolve_iff (k : Kind) :
    (w.catalog.convert? s v (k.resolve t) = none ↔ w.catalog.convert? s v (k.resolve u) = none) ↔
      (k = .own → (w.catalog.Suits s t v ↔ w.catalog.Suits s u v)) := by
  by_cases hk : k = .own
  · subst hk
    simp only [Kind.resolve, Catalog.convert?_eq_none_iff, not_iff_not, forall_const]
  · have hresolve : k.resolve t = k.resolve u := by
      cases k <;> first | rfl | exact absurd rfl hk
    simp only [hresolve, hk, false_imp_iff]

/-- An object of the type that declares a member of its own type is refused through any object of a
type derived from it, although it converts to the kind that is listed. -/
theorem refuses_object_of_declarer (h : w.Assigns s receiver name t a)
    (hu : w.Declares t name sort u a) (hkind : a.kind = .own) (hne : u ≠ t)
    (hnames : ((w.catalog.hierarchy t).map w.catalog.name).Nodup) {r : ObjectRef}
    (hr : s.typeOf? (.object r) = some u) :
    w.Refuses s receiver name (.object r) ∧
      w.catalog.convert? s (.object r) (a.kind.resolve u) = some (.object r) := by
  constructor
  · rw [h.refuses_iff, hkind, Kind.resolve, Catalog.convert?_eq_none_iff]
    rintro ⟨u', hu', hsub⟩
    rw [hr] at hu'
    cases hu'
    rw [Catalog.isSubtype_base hnames hu.mem_hierarchy hne] at hsub
    cases hsub
  · refine Catalog.convert?_of_isAssignable ?_
    rw [hkind, Kind.resolve]
    simp only [Catalog.isAssignable, hr]
    exact w.catalog.isSubtype_refl u

/-- For whatever can be assigned to, the listing shows first the kind as it reads in the type that
declares the member; and that the values refused are those that do not convert to this kind is right
for a value exactly if the kind is spelled out or the value suits the type of the receiver just as
the declaring type. -/
theorem refuses_iff_listed_iff (h : w.Assigns s receiver name t a) (v : Value) :
    ∃ sort u, w.Declares t name sort u a ∧
      (w.list s t).find? (fun e => e.name == name && e.sort == sort) =
        some ⟨name, sort, ": " ++ w.catalog.kindText (a.kind.resolve u), a.isStatic⟩ ∧
      ((w.Refuses s receiver name v ↔ w.catalog.convert? s v (a.kind.resolve u) = none) ↔
        (a.kind = .own → (w.catalog.Suits s t v ↔ w.catalog.Suits s u v))) := by
  obtain ⟨sort, u, hu, hlist⟩ := find?_list_eq h.found
  have hname : a.name = name := by
    obtain ⟨nearer, further, -, ha, -⟩ := hu
    have hbeq := List.find?_some ha
    exact eq_of_beq hbeq
  refine ⟨sort, u, hu, ?_, ?_⟩
  · rw [hlist, entry, hname]
  · rw [h.refuses_iff]
    exact convert?_resolve_iff a.kind

end World

/-! ## Nodes and leaves -/

namespace Linked

/-- A leaf is a node. -/
def catalog : Catalog where
  headers := [{ name := "Node" }, { name := "Leaf", base := some (.declared 0) }]

/-- A node holds the next one, whatever its type. -/
def next : Accessor :=
  .typed catalog "Chain" "next" .own (fun o => (o.slot? "next").getD .null)
    (some fun _ v o => .ok (o.setSlot "next" v))

/-- Nodes and leaves. -/
def world : World := ⟨catalog, [{ fields := [next] }, {}]⟩

/-- A leaf, and then a node. -/
def store : Store where
  objects := [⟨.declared 1, "Chain", [("next", .null)], false⟩,
    ⟨.declared 0, "Chain", [("next", .null)], false⟩]

/-- The next node of the leaf can be assigned to. -/
theorem assigns_next : world.Assigns store (.object ⟨0⟩) "next" (.declared 1) next where
  found := .inl rfl
  receiverType := ⟨false, rfl, rfl⟩
  writable := rfl

/-- It is declared for nodes. -/
theorem declares_next : world.Declares (.declared 1) "next" .field (.declared 0) next :=
  ⟨[.declared 1], [], rfl, rfl, List.forall_mem_singleton.2 rfl⟩

/-- What is refused of the leaf is as listed for the leaf itself: it is a leaf and a node. -/
theorem refuses_iff_listed_iff_leaf :
    world.Assigns store (.object ⟨0⟩) "next" (.declared 1) next ∧
    ∃ sort u, world.Declares (.declared 1) "next" sort u next ∧
      (world.list store (.declared 1)).find? (fun e => e.name == "next" && e.sort == sort) =
        some ⟨"next", sort, ": " ++ catalog.kindText (next.kind.resolve u), false⟩ ∧
      ((world.Refuses store (.object ⟨0⟩) "next" (.object ⟨0⟩) ↔
          catalog.convert? store (.object ⟨0⟩) (next.kind.resolve u) = none) ↔
        (next.kind = .own →
          (catalog.Suits store (.declared 1) (.object ⟨0⟩) ↔
            catalog.Suits store u (.object ⟨0⟩)))) :=
  ⟨assigns_next, World.refuses_iff_listed_iff assigns_next (.object ⟨0⟩)⟩

/-- A node cannot be assigned to the next node of the leaf, although nodes are what is listed. -/
theorem not_refuses_iff_listed_node :
    world.Assigns store (.object ⟨0⟩) "next" (.declared 1) next ∧
    world.Declares (.declared 1) "next" .field (.declared 0) next ∧
    ¬ (world.Refuses store (.object ⟨0⟩) "next" (.object ⟨1⟩) ↔
      catalog.convert? store (.object ⟨1⟩) (next.kind.resolve (.declared 0)) = none) := by
  refine ⟨assigns_next, declares_next, fun h => ?_⟩
  obtain ⟨hrefuses, hconvert⟩ := World.refuses_object_of_declarer (r := ⟨1⟩) assigns_next
    declares_next rfl (by decide) (by decide +kernel) rfl
  exact absurd (h.1 hrefuses) (Option.ne_none_iff_exists'.2 ⟨_, hconvert⟩)

end Linked

end DevConsole
