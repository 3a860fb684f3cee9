/-
# `DevConsole.Proofs.World.ThereAndBack` — conversions that can be undone

A value that is converted to another kind need not be recovered from it.  These are:

    an integer    from its text
    a variant     from its ordinal, and from its text where a variant has the ordinal

What stands in the way of the texts is trimming, and for variants that their names and ordinals are
searched for one after the other.  The text is the name of the first variant with the ordinal, and it
is read as the first variant with that name.  The two searches meet at one variant because no two
have a name in common, whether or not they share an ordinal (`variantOrdinal?_of_mem`).  An ordinal
that no variant has is written as a number, and if that is the name of a variant, then of another.
-/
import DevConsole.Proofs.Lexing.Integers
import DevConsole.World.Catalog
import Mathlib.Data.List.Nodup

namespace DevConsole

/-! ## Texts that survive trimming -/

namespace Text

/-- There is no blank at either end of the text. -/
def Unpadded (cs : List Char) : Prop :=
  (∀ c ∈ cs.head?, isBlank c = false) ∧ ∀ c ∈ cs.getLast?, isBlank c = false

theorem Unpadded.trim {cs : List Char} (h : Unpadded cs) : trim cs = cs :=
  trim_of_ends h.1 h.2

theorem unpadded_of_forall {cs : List Char} (h : ∀ c ∈ cs, isBlank c = false) : Unpadded cs :=
  ⟨fun c hc => h c (List.mem_of_head? hc), fun c hc => h c (List.mem_of_getLast? hc)⟩

end Text

theorem Decimal.unpadded_ofInt (i : Int) : Text.Unpadded (ofInt i) := by
  have hdigits : ∀ c ∈ digits i.natAbs, Text.isBlank c = false := fun c hc =>
    (Lexer.classes_of_isDigit (List.all_eq_true.1 (all_isDigit_digits _) c hc)).1
  refine Text.unpadded_of_forall ?_
  rw [ofInt]
  split
  · exact List.forall_mem_cons.2 ⟨by decide, hdigits⟩
  · exact hdigits

namespace Catalog

variable {c : Catalog} {s : Store} {t : TypeRef} {name : String} {o : Int64}

/-! ## Variants -/

/-- An enumerated type whose variants are told apart by their names, trimmed or not. -/
structure NamesVariants (c : Catalog) (t : TypeRef) : Prop where
  isEnum : c.isEnum t = true
  nodup : ((c.variants t).map Prod.fst).Nodup
  unpadded : ∀ name ∈ (c.variants t).map Prod.fst, Text.Unpadded name.toList

/-- A variant of the type has the ordinal. -/
def Declares (c : Catalog) (t : TypeRef) (o : Int64) : Prop := o ∈ (c.variants t).map Prod.snd

instance (c : Catalog) (t : TypeRef) (o : Int64) : Decidable (c.Declares t o) :=
  inferInstanceAs (Decidable (_ ∈ _))

theorem exists_variantName? (h : c.Declares t o) :
    ∃ name, c.variantName? t o = some name ∧ (name, o) ∈ c.variants t := by
  obtain ⟨v, hv, rfl⟩ := List.mem_map.1 h
  obtain ⟨first, hfirst⟩ := Option.isSome_iff_exists.1
    (List.find?_isSome (p := (·.2 == v.2)).2 ⟨v, hv, beq_self_eq_true v.2⟩)
  have hordinal : first.2 = v.2 := by simpa using List.find?_some hfirst
  refine ⟨first.1, by rw [variantName?, hfirst]; rfl, ?_⟩
  rw [← hordinal]
  exact List.mem_of_find?_eq_some hfirst

/-- Where no two variants share a name, a variant is found by its name. -/
theorem variantOrdinal?_of_mem (hnodup : ((c.variants t).map Prod.fst).Nodup)
    (h : (name, o) ∈ c.variants t) : c.variantOrdinal? t name = some o := by
  obtain ⟨first, hfirst⟩ := Option.isSome_iff_exists.1
    (List.find?_isSome (p := (·.1 == name)).2 ⟨(name, o), h, beq_self_eq_true name⟩)
  have hname : first.1 = name := by simpa using List.find?_some hfirst
  have hsame : first = (name, o) :=
    List.inj_on_of_nodup_map hnodup (List.mem_of_find?_eq_some hfirst) h hname
  rw [variantOrdinal?, hfirst, hsame]
  rfl

theorem declares_of_variantOrdinal? (h : c.variantOrdinal? t name = some o) : c.Declares t o := by
  obtain ⟨v, hv, rfl⟩ := Option.map_eq_some_iff.1 h
  exact List.mem_map_of_mem (List.mem_of_find?_eq_some hv)

/-! ## There and back -/

/-- A value converted to one kind, and what comes of it to another. -/
def convertTwice? (c : Catalog) (s : Store) (v : Value) (k l : Kind) : Option Value :=
  (c.convert? s v k).bind fun w => c.convert? s w l

theorem convert?_int_str (i : Int64) :
    c.convert? s (.int i) .str = some (.str (Decimal.text i)) := rfl

theorem convert?_str_int (text : String) :
    c.convert? s (.str text) .int = (Decimal.read (Text.trim text.toList)).map .int := rfl

theorem convertTwice?_int (i : Int64) : c.convertTwice? s (.int i) .str .int = some (.int i) := by
  rw [convertTwice?, convert?_int_str, Option.bind_some, convert?_str_int, Decimal.text,
    String.toList_ofList, (Decimal.unpadded_ofInt _).trim, Decimal.read_ofInt, Option.map_some]

theorem convert?_enum_int (t : TypeRef) (o : Int64) :
    c.convert? s (.enum t o) .int = some (.int o) := rfl

theorem convert?_enum_str (t : TypeRef) (o : Int64) :
    c.convert? s (.enum t o) .str = some (.str (c.display s (.enum t o))) := rfl

theorem convert?_int_enum (ht : c.isEnum t = true) (i : Int64) :
    c.convert? s (.int i) (.type t) = some (.enum t i) := by
  show (if c.isEnum t then some (Value.enum t i) else none) = _
  rw [if_pos ht]

theorem convert?_str_enum (ht : c.isEnum t = true) (text : String) :
    c.convert? s (.str text) (.type t) =
      (c.variantOrdinal? t (String.ofList (Text.trim text.toList))).map (.enum t) := by
  show (if c.isEnum t then _ else none) = _
  rw [if_pos ht]

theorem convertTwice?_ordinal (ht : c.isEnum t = true) (o : Int64) :
    c.convertTwice? s (.enum t o) .int (.type t) = some (.enum t o) := by
  rw [convertTwice?, convert?_enum_int, Option.bind_some, convert?_int_enum ht]

/-- A variant is recovered from its text exactly if there is one with the ordinal. -/
theorem convertTwice?_name_iff (ht : c.NamesVariants t) (o : Int64) :
    c.convertTwice? s (.enum t o) .str (.type t) = some (.enum t o) ↔ c.Declares t o := by
  rw [convertTwice?, convert?_enum_str, Option.bind_some, convert?_str_enum ht.isEnum]
  constructor
  · intro h
    obtain ⟨o', ho', hsame⟩ := Option.map_eq_some_iff.1 h
    cases hsame
    exact declares_of_variantOrdinal? ho'
  · intro h
    obtain ⟨name, hname, hmem⟩ := exists_variantName? h
    have hunpadded := ht.unpadded name (List.mem_map_of_mem (f := Prod.fst) hmem)
    rw [display, hname, Option.getD_some, hunpadded.trim, String.ofList_toList,
      variantOrdinal?_of_mem ht.nodup hmem]
    rfl

/-- Every integer is recovered from its text.  Of an enumerated type whose variants have distinct
names without blanks around them, every value is recovered from its ordinal, and from its text
exactly those whose ordinal a variant has. -/
theorem convertTwice?_returns (c : Catalog) (s : Store) :
    (∀ i : Int64, c.convertTwice? s (.int i) .str .int = some (.int i)) ∧
    ∀ t, c.NamesVariants t → ∀ o : Int64,
      c.convertTwice? s (.enum t o) .int (.type t) = some (.enum t o) ∧
      (c.convertTwice? s (.enum t o) .str (.type t) = some (.enum t o) ↔ c.Declares t o) :=
  ⟨convertTwice?_int, fun _ ht o => ⟨convertTwice?_ordinal ht.isEnum o, convertTwice?_name_iff ht o⟩⟩

end Catalog

/-! ## A type with an ordinal that two variants share -/

namespace KeyCodes

/-- An enumerated type. -/
def catalog : Catalog where
  headers := [{ name := "KeyCode", variants := some [("Enter", 13), ("Return", 13), ("Escape", 27)] }]

theorem namesVariants : catalog.NamesVariants (.declared 0) where
  isEnum := rfl
  nodup := by decide
  unpadded := by
    have hblanks : ∀ name ∈ ["Enter", "Return", "Escape"],
        name.toList.all (!Text.isBlank ·) = true := by decide
    intro name hname
    refine Text.unpadded_of_forall fun c hc => ?_
    simpa using List.all_eq_true.1 (hblanks name hname) c hc

/-- The shared ordinal is recovered from the name of the first variant that has it, and one that no
variant has is recovered as a number, though not from its text. -/
theorem convertTwice?_returns_shared :
    let keyCode : TypeRef := .declared 0
    catalog.NamesVariants keyCode ∧ catalog.display {} (.enum keyCode 13) = "Enter" ∧
    catalog.convertTwice? {} (.enum keyCode 13) .str (.type keyCode) = some (.enum keyCode 13) ∧
    catalog.convertTwice? {} (.enum keyCode 99) .int (.type keyCode) = some (.enum keyCode 99) ∧
    catalog.convertTwice? {} (.enum keyCode 99) .str (.type keyCode) ≠ some (.enum keyCode 99) ∧
    catalog.convertTwice? {} (.int .minValue) .str .int = some (.int .minValue) := by
  intro keyCode
  obtain ⟨hint, henum⟩ := Catalog.convertTwice?_returns catalog {}
  have hshared : catalog.Declares keyCode 13 := by decide
  have hnone : ¬catalog.Declares keyCode 99 := by decide
  exact ⟨namesVariants, rfl, (henum keyCode namesVariants 13).2.2 hshared,
    (henum keyCode namesVariants 99).1, fun h => hnone ((henum keyCode namesVariants 99).2.1 h),
    hint .minValue⟩

end KeyCodes

end DevConsole
