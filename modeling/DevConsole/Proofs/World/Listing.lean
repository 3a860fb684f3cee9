/-
# `DevConsole.Proofs.World.Listing` — the listing of members and the lookup of names agree

The two walk a hierarchy in orders of their own, and the listing leaves out what it has shown:

    lookup     variants of the type; fields; properties; nested types, each along the hierarchy
    listing    variants of the type; fields and properties, type by type; nested types; methods

So the listing is first described without an order, by the declaration that an entry comes from
(`World.Lists`, `World.mem_list_iff`).  Whatever the lookup finds is such a declaration, and where
there is one with a name the lookup finds some, if not the same: a property may stand behind a field
of its name (`World.list_agrees`).
-/
import DevConsole.Proofs.Eval.Assignment
import Mathlib.Data.List.Nodup

namespace DevConsole

namespace Entry

/-- Collecting entries on top of those seen shows each once. -/
theorem nodup_collect (es : List Entry) {seen : List Entry} (hseen : seen.Nodup) :
    (es.foldl (fun seen e => if e ∈ seen then seen else seen ++ [e]) seen).Nodup := by
  induction es generalizing seen with
  | nil => exact hseen
  | cons x es ih =>
    rw [List.foldl_cons]
    apply ih
    split
    · exact hseen
    · rename_i hx
      exact hseen.append (List.nodup_singleton x) (by simpa using hx)

theorem nodup_dedup (es : List Entry) : (dedup es).Nodup :=
  nodup_collect es List.nodup_nil

theorem mem_collect (es : List Entry) (seen : List Entry) {e : Entry} :
    e ∈ es.foldl (fun seen e => if e ∈ seen then seen else seen ++ [e]) seen ↔
      e ∈ seen ∨ e ∈ es := by
  induction es generalizing seen with
  | nil => simp
  | cons x es ih =>
    rw [List.foldl_cons, ih, List.mem_cons]
    split
    · rename_i hx
      constructor
      · exact Or.imp_right .inr
      · rintro (h | rfl | h)
        · exact .inl h
        · exact .inl hx
        · exact .inr h
    · rw [List.mem_append, List.mem_singleton, or_assoc]

theorem mem_dedup {e : Entry} {es : List Entry} : e ∈ dedup es ↔ e ∈ es := by
  rw [dedup, mem_collect]
  simp

end Entry

namespace World

variable {w : World} {s : Store} {t u : TypeRef} {name : String} {e : Entry}

/-- The declarations that a listing shows, as entries. -/
inductive Lists (w : World) (s : Store) (t : TypeRef) : Entry → Prop
  | variant {v : String × Int64} (h : v ∈ w.catalog.variants t) :
    Lists w s t ⟨v.1, .field, ": " ++ w.catalog.name t, true⟩
  | accessor {u : TypeRef} {sort : EntrySort} {a : Accessor} (hu : u ∈ w.catalog.hierarchy t)
      (ha : a ∈ sort.accessors (w.members u)) : Lists w s t (w.entry sort u a)
  | nested {u n : TypeRef} (hu : u ∈ w.catalog.hierarchy t) (hn : n ∈ (w.members u).nested) :
    Lists w s t ⟨w.catalog.name n, .type, "", true⟩
  | method {u : TypeRef} {m : Method} (hu : u ∈ w.catalog.hierarchy t)
      (hm : m ∈ (w.members u).methods) :
    Lists w s t ⟨m.name, .method, m.signatureIn w.catalog s u, m.isStatic⟩

/-- The entries of the fields and properties of one type. -/
theorem mem_accessorEntries_iff :
    e ∈ w.accessorEntries .field Members.fields u ∨
        e ∈ w.accessorEntries .property Members.properties u ↔
      ∃ sort, ∃ a ∈ EntrySort.accessors sort (w.members u), w.entry sort u a = e := by
  constructor
  · rintro (h | h)
    · exact ⟨.field, List.mem_map.1 h⟩
    · exact ⟨.property, List.mem_map.1 h⟩
  · rintro ⟨sort, a, ha, rfl⟩
    cases sort with
    | field => exact .inl (List.mem_map.2 ⟨a, ha, rfl⟩)
    | property => exact .inr (List.mem_map.2 ⟨a, ha, rfl⟩)
    | type | method => cases ha

theorem mem_list_iff : e ∈ w.list s t ↔ w.Lists s t e := by
  rw [list, Entry.mem_dedup]
  simp only [List.mem_append, List.mem_flatMap, List.mem_map, mem_accessorEntries_iff]
  constructor
  · rintro (((⟨v, hv, rfl⟩ | ⟨u, hu, sort, a, ha, rfl⟩) | ⟨u, hu, n, hn, rfl⟩) |
      ⟨u, hu, m, hm, rfl⟩)
    · exact .variant hv
    · exact .accessor hu ha
    · exact .nested hu hn
    · exact .method hu hm
  · rintro (hv | ⟨hu, ha⟩ | ⟨hu, hn⟩ | ⟨hu, hm⟩)
    · exact .inl (.inl (.inl ⟨_, hv, rfl⟩))
    · exact .inl (.inl (.inr ⟨_, hu, _, _, ha, rfl⟩))
    · exact .inl (.inr ⟨_, hu, _, hn, rfl⟩)
    · exact .inr ⟨_, hu, _, hm, rfl⟩

/-! ## What is found is listed -/

theorem Declares.lists {sort : EntrySort} {a : Accessor} (h : w.Declares t name sort u a) :
    w.Lists s t (w.entry sort u a) ∧ a.name = name := by
  have hu := h.mem_hierarchy
  obtain ⟨-, -, -, ha, -⟩ := h
  have hname := List.find?_some ha
  exact ⟨.accessor hu (List.mem_of_find?_eq_some ha), eq_of_beq hname⟩

/-- An entry stands for what a name denotes: it has the name, and the sort, signature and storage of
the declaration. -/
inductive Shows (w : World) (t : TypeRef) (name : String) : Found → Entry → Prop
  | field {u : TypeRef} {a : Accessor} (h : w.Declares t name .field u a) :
    Shows w t name (.field a)
      ⟨name, .field, ": " ++ w.catalog.kindText (a.kind.resolve u), a.isStatic⟩
  | property {u : TypeRef} {a : Accessor} (h : w.Declares t name .property u a) :
    Shows w t name (.property a)
      ⟨name, .property, ": " ++ w.catalog.kindText (a.kind.resolve u), a.isStatic⟩
  | variant (ordinal : Int64) :
    Shows w t name (.variant ordinal) ⟨name, .field, ": " ++ w.catalog.name t, true⟩
  | nested {n : TypeRef} (h : w.catalog.name n = name) :
    Shows w t name (.nested n) ⟨name, .type, "", true⟩

theorem exists_shows {found : Found} (h : w.find? t name = some found) :
    ∃ e, w.Lists s t e ∧ w.Shows t name found e := by
  unfold find? at h
  split at h
  · cases h
    rename_i hvariant
    obtain ⟨v, hv, rfl⟩ := Option.map_eq_some_iff.1 hvariant
    have hname := List.find?_some hv
    obtain rfl := eq_of_beq hname
    exact ⟨_, .variant (List.mem_of_find?_eq_some hv), .variant v.2⟩
  split at h
  · cases h
    rename_i a ha
    obtain ⟨u, hu⟩ := exists_declares .field ha
    obtain ⟨hlists, rfl⟩ := hu.lists (s := s)
    exact ⟨_, hlists, .field hu⟩
  split at h
  · cases h
    rename_i a ha
    obtain ⟨u, hu⟩ := exists_declares .property ha
    obtain ⟨hlists, rfl⟩ := hu.lists (s := s)
    exact ⟨_, hlists, .property hu⟩
  · obtain ⟨n, hn, rfl⟩ := Option.map_eq_some_iff.1 h
    obtain ⟨u, hu, hfound⟩ := List.exists_of_findSome?_eq_some hn
    have hname := List.find?_some hfound
    obtain rfl := eq_of_beq hname
    exact ⟨_, .nested hu (List.mem_of_find?_eq_some hfound), .nested rfl⟩

theorem accessor?_eq_none_iff {list : Members → List Accessor} :
    w.accessor? list t name = none ↔
      ∀ u ∈ w.catalog.hierarchy t, ∀ a ∈ list (w.members u), a.name ≠ name := by
  simp [accessor?, List.findSome?_eq_none_iff, List.find?_eq_none]

/-- Where the lookup finds nothing, only methods can have the name. -/
theorem Lists.sort_eq_method (he : w.Lists s t e) (hname : e.name = name)
    (h : w.find? t name = none) : e.sort = .method := by
  unfold find? at h
  split at h
  · cases h
  rename_i hvariant
  split at h
  · cases h
  rename_i hfield
  split at h
  · cases h
  rename_i hproperty
  rw [accessor?_eq_none_iff] at hfield hproperty
  cases he with
  | variant hv =>
    rw [Catalog.variantOrdinal?, Option.map_eq_none_iff, List.find?_eq_none] at hvariant
    exact absurd (beq_iff_eq.2 hname) (hvariant _ hv)
  | @accessor u sort a hu ha =>
    cases sort with
    | field => exact absurd hname (hfield u hu a ha)
    | property => exact absurd hname (hproperty u hu a ha)
    | type | method => cases ha
  | nested hu hn =>
    rw [Option.map_eq_none_iff, List.findSome?_eq_none_iff] at h
    exact absurd (beq_iff_eq.2 hname) (List.find?_eq_none.1 (h _ hu) _ hn)
  | method hu hm => rfl

theorem Shows.name_eq {found : Found} (h : w.Shows t name found e) :
    e.name = name ∧ (e.sort = .field ∨ e.sort = .property ∨ e.sort = .type) := by
  cases h with
  | field _ | variant _ => exact ⟨rfl, .inl rfl⟩
  | property _ => exact ⟨rfl, .inr (.inl rfl)⟩
  | nested _ => exact ⟨rfl, .inr (.inr rfl)⟩

theorem mem_methodsNamed_iff {m : Method} :
    (u, m) ∈ w.methodsNamed t name ↔
      u ∈ w.catalog.hierarchy t ∧ m ∈ (w.members u).methods ∧ m.name = name := by
  simp only [methodsNamed, List.mem_flatMap, List.mem_map, List.mem_filter, beq_iff_eq]
  constructor
  · rintro ⟨u, hu, m, ⟨hm, hname⟩, ⟨⟩⟩
    exact ⟨hu, hm, hname⟩
  · rintro ⟨hu, hm, hname⟩
    exact ⟨u, hu, m, ⟨hm, hname⟩, rfl⟩

theorem Lists.exists_method (h : w.Lists s t e) (hsort : e.sort = .method) :
    ∃ u m, (u, m) ∈ w.methodsNamed t e.name := by
  cases h with
  | variant _ | nested _ _ => cases hsort
  | @accessor u sort a _ ha =>
    obtain rfl : sort = .method := hsort
    cases ha
  | @method u m hu hm => exact ⟨u, m, mem_methodsNamed_iff.2 ⟨hu, hm, rfl⟩⟩

theorem lists_of_mem_methodsNamed {m : Method} (h : (u, m) ∈ w.methodsNamed t name) :
    w.Lists s t ⟨name, .method, m.signatureIn w.catalog s u, m.isStatic⟩ := by
  obtain ⟨hu, hm, rfl⟩ := mem_methodsNamed_iff.1 h
  exact .method hu hm

/-- The listing shows a name as a field, property or type exactly if the lookup finds it, and as a
method exactly if there are methods with it.  What the lookup finds, and every method with the
name, is listed as it was declared, and nothing is listed twice. -/
theorem list_agrees (w : World) (s : Store) (t : TypeRef) (name : String) :
    ((∃ e ∈ w.list s t, e.name = name ∧
        (e.sort = .field ∨ e.sort = .property ∨ e.sort = .type)) ↔
      (w.find? t name).isSome = true) ∧
    ((∃ e ∈ w.list s t, e.name = name ∧ e.sort = .method) ↔ w.methodsNamed t name ≠ []) ∧
    (∀ found, w.find? t name = some found → ∃ e ∈ w.list s t, w.Shows t name found e) ∧
    (∀ u m, (u, m) ∈ w.methodsNamed t name →
      ⟨name, .method, m.signatureIn w.catalog s u, m.isStatic⟩ ∈ w.list s t) ∧
    (w.list s t).Nodup := by
  simp only [mem_list_iff]
  refine ⟨⟨?_, fun h => ?_⟩, ⟨?_, fun h => ?_⟩, fun found => exists_shows,
    fun u m => lists_of_mem_methodsNamed, Entry.nodup_dedup _⟩
  · rintro ⟨e, he, hname, hsort⟩
    refine Option.isSome_iff_ne_none.2 fun hnone => ?_
    rw [he.sort_eq_method hname hnone] at hsort
    rcases hsort with hsort | hsort | hsort <;> cases hsort
  · obtain ⟨found, hfound⟩ := Option.isSome_iff_exists.1 h
    obtain ⟨e, he, hshows⟩ := exists_shows hfound
    exact ⟨e, he, hshows.name_eq⟩
  · rintro ⟨e, he, rfl, hsort⟩
    obtain ⟨u, m, hm⟩ := he.exists_method hsort
    exact List.ne_nil_of_mem hm
  · obtain ⟨⟨u, m⟩, hm⟩ := List.exists_mem_of_ne_nil _ h
    exact ⟨_, lists_of_mem_methodsNamed hm, rfl, rfl⟩

end World

end DevConsole
