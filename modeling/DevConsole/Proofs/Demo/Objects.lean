/-
# `DevConsole.Proofs.Demo.Objects` — what evaluation leaves of the game's objects

Whatever is typed, the objects of the game stay what they are (`Game.Keeps`):

    an object that was there     keeps its type and host structure, is in use if it was, keeps its
                                 slots for the player and the frame counter, and what says whether
                                 it is paused stays a truth value
    an object that is new        is a vector or a player, and is not in use

Methods have their receiver in use while they run.  That it is given back, however they end, is part
of the relation, since a method that is left compares the objects before it was entered with those
afterwards.  The four things that the members of the game do to the objects keep to the relation
(`operations_keeping`), and so does the evaluation of every line (`evaluate_keepsTo_keeps`).

From this it follows what evaluation cannot take from the game (`Game.Intact`): the game and its
player stay where they are, are never left in use, and belong together.
-/
import DevConsole.Proofs.Demo.Members
import DevConsole.Proofs.Eval.Keeping
import DevConsole.Proofs.World.Places

namespace DevConsole

/-! ## Objects of a store that has grown -/

namespace Store

theorem object?_alloc_eq_some {s : Store} {o p : Object} {r : ObjectRef}
    (h : (s.alloc o).2.object? r = some p) : s.object? r = some p ∨ p = o := by
  replace h : (s.objects ++ [o])[r.index]? = some p := h
  by_cases hold : r.index < s.objects.length
  · rw [List.getElem?_append_left hold] at h
    exact .inl h
  · rw [List.getElem?_append_right (Nat.le_of_not_lt hold)] at h
    exact .inr (List.mem_singleton.1 (List.mem_of_getElem? h))

theorem object?_update_eq_none {s : Store} {r q : ObjectRef} {f : Object → Object} :
    (s.update r f).object? q = none ↔ s.object? q = none := by
  by_cases hq : q = r
  · subst hq
    cases h : s.object? q with
    | none =>
      rw [update, h]
      simp [h]
    | some o => simp [object?_update_self h]
  · rw [object?_update_of_ne hq]

theorem update_eq_setObject {s : Store} {r : ObjectRef} {o : Object} (h : s.object? r = some o)
    (f : Object → Object) : s.update r f = s.setObject r (f o) := by
  rw [update, h]

end Store

namespace Game

/-! ## The relation -/

/-- What evaluation leaves of an object. -/
structure Kept (o o' : Object) : Prop where
  type_eq : o'.type = o.type
  host_eq : o'.host = o.host
  inUse_eq : o'.inUse = o.inUse
  frame_eq : o'.slot? "frame" = o.slot? "frame"
  player_eq : o'.slot? "player" = o.slot? "player"
  paused : (∃ b, o.slot? "paused" = some (.bool b)) → ∃ b, o'.slot? "paused" = some (.bool b)

/-- What evaluation adds to the objects. -/
structure Fresh (o : Object) : Prop where
  type : o.type = vectorType ∨ o.type = playerType
  host_eq : o.host = catalog.name o.type
  inUse_eq : o.inUse = false

/-- The objects before an evaluation, and those after it. -/
structure Keeps (s s' : Store) : Prop where
  old : ∀ r o, s.object? r = some o → ∃ o', s'.object? r = some o' ∧ Kept o o'
  new : ∀ r o, s.object? r = none → s'.object? r = some o → Fresh o

namespace Kept

theorem refl (o : Object) : Kept o o := ⟨rfl, rfl, rfl, rfl, rfl, id⟩

theorem trans {a b c : Object} (h : Kept a b) (h' : Kept b c) : Kept a c where
  type_eq := h'.type_eq.trans h.type_eq
  host_eq := h'.host_eq.trans h.host_eq
  inUse_eq := h'.inUse_eq.trans h.inUse_eq
  frame_eq := h'.frame_eq.trans h.frame_eq
  player_eq := h'.player_eq.trans h.player_eq
  paused := h'.paused ∘ h.paused

theorem setSlot (o : Object) {slotName : String} {v : Value} (h : Writable slotName v) :
    Kept o (o.setSlot slotName v) where
  type_eq := rfl
  host_eq := rfl
  inUse_eq := rfl
  frame_eq := o.slot?_setSlot_of_ne (Ne.symm h.ne_frame) v
  player_eq := o.slot?_setSlot_of_ne (Ne.symm h.ne_player) v
  paused hpaused := by
    by_cases hslot : slotName = "paused"
    · obtain ⟨b, rfl⟩ := h.paused hslot
      subst hslot
      exact ⟨b, o.slot?_setSlot_self "paused" _⟩
    · rw [o.slot?_setSlot_of_ne (Ne.symm hslot) v]
      exact hpaused

end Kept

theorem Fresh.kept {o o' : Object} (h : Fresh o) (hkept : Kept o o') : Fresh o' where
  type := by
    rw [hkept.type_eq]
    exact h.type
  host_eq := by
    rw [hkept.host_eq, hkept.type_eq]
    exact h.host_eq
  inUse_eq := hkept.inUse_eq.trans h.inUse_eq

theorem steps_keeps : Steps Keeps where
  refl s := by
    refine ⟨fun r o ho => ⟨o, ho, .refl o⟩, fun r o hnone ho => ?_⟩
    rw [hnone] at ho
    cases ho
  trans := by
    intro a b c hab hbc
    constructor
    · intro r o ho
      obtain ⟨o', ho', hkept⟩ := hab.old r o ho
      obtain ⟨o'', ho'', hkept'⟩ := hbc.old r o' ho'
      exact ⟨o'', ho'', hkept.trans hkept'⟩
    · intro r o hnone ho
      cases hb : b.object? r with
      | none => exact hbc.new r o hb ho
      | some p =>
        obtain ⟨o', ho', hkept⟩ := hbc.old r p hb
        rw [ho] at ho'
        cases ho'
        exact (hab.new r p hnone hb).kept hkept

/-! ## What the members of the game do -/

theorem keeps_update {s : Store} {r : ObjectRef} {f : Object → Object} (hf : ∀ o, Kept o (f o)) :
    Keeps s (s.update r f) where
  old q o ho := by
    by_cases hq : q = r
    · subst hq
      exact ⟨f o, Store.object?_update_self ho f, hf o⟩
    · exact ⟨o, by rwa [Store.object?_update_of_ne hq], .refl o⟩
  new q o hnone ho := by
    rw [Store.object?_update_eq_none.2 hnone] at ho
    cases ho

theorem keeps_alloc (s : Store) {o : Object} (ho : Fresh o) : Keeps s (s.alloc o).2 where
  old r p hp := ⟨p, Store.object?_alloc_of_some hp, .refl p⟩
  new r p hnone hp := by
    obtain hold | rfl := Store.object?_alloc_eq_some hp
    · rw [hnone] at hold
      cases hold
    · exact ho

/-- An object that was free is free again when host code that had it in use is left. -/
theorem keeps_of_entered {s s' : Store} {r : ObjectRef} {o : Object} (ho : s.object? r = some o)
    (hfree : o.inUse = false) (h : Keeps (s.update r fun o => { o with inUse := true }) s') :
    Keeps s (s'.update r fun o => { o with inUse := false }) where
  old q p hp := by
    by_cases hq : q = r
    · subst hq
      rw [ho] at hp
      cases hp
      obtain ⟨o', ho', hkept⟩ := h.old q _ (Store.object?_update_self ho _)
      refine ⟨_, Store.object?_update_self ho' _, ?_⟩
      exact ⟨hkept.type_eq, hkept.host_eq, hfree.symm, hkept.frame_eq, hkept.player_eq,
        hkept.paused⟩
    · obtain ⟨p', hp', hkept⟩ := h.old q p (by rwa [Store.object?_update_of_ne hq])
      exact ⟨p', by rwa [Store.object?_update_of_ne hq], hkept⟩
  new q p hnone hp := by
    have hq : q ≠ r := by
      rintro rfl
      rw [hnone] at ho
      cases ho
    rw [Store.object?_update_of_ne hq] at hp
    exact h.new q p (Store.object?_update_eq_none.2 hnone) hp

theorem create_keepsTo {type : TypeRef} (htype : type = vectorType ∨ type = playerType)
    (slots : List (String × Value)) : (create type slots).KeepsTo Keeps := by
  intro s
  exact ⟨keeps_alloc s ⟨htype, rfl, rfl⟩, nofun⟩

theorem store_keepsTo {host slotName : String} {receiver : Value}
    {store : Store → Except Failure Value}
    (hwritable : ∀ s v, store s = .ok v → Writable slotName v) :
    (Receiver.change catalog host receiver fun s o =>
      (store s).map fun v => o.setSlot slotName v).KeepsTo Keeps := by
  intro s
  rw [Act.run, Receiver.change]
  cases hcheck : Receiver.check catalog host s receiver with
  | error e =>
    refine ⟨steps_keeps.refl s, ?_⟩
    rintro p ⟨⟩
  | ok found =>
    obtain ⟨r, o⟩ := found
    obtain ⟨-, ho, -, -⟩ := Receiver.check_eq_ok_iff.1 hcheck
    simp only
    cases hstore : store s with
    | error e =>
      refine ⟨steps_keeps.refl s, ?_⟩
      rintro p ⟨⟩
    | ok v =>
      refine ⟨?_, by rintro p ⟨⟩⟩
      show Keeps s (s.setObject r (o.setSlot slotName v))
      rw [← Store.update_eq_setObject ho fun o => o.setSlot slotName v]
      exact keeps_update fun o => .setSlot o (hwritable s v hstore)

theorem enter_keepsTo {host : String} {receiver : Value} {body : ObjectRef → HostM Value}
    (hbody : ∀ r, (body r).KeepsTo Keeps) :
    (Receiver.enter catalog host receiver body).KeepsTo Keeps := by
  intro s
  rw [Act.run, Receiver.enter]
  cases hcheck : Receiver.check catalog host s receiver with
  | error e =>
    refine ⟨steps_keeps.refl s, ?_⟩
    rintro p ⟨⟩
  | ok found =>
    obtain ⟨r, o⟩ := found
    obtain ⟨-, ho, hfree, -⟩ := Receiver.check_eq_ok_iff.1 hcheck
    obtain ⟨hkeeps, hcalm⟩ := hbody r (s.update r fun o => { o with inUse := true })
    exact ⟨keeps_of_entered ho hfree hkeeps, hcalm⟩

/-- What the members of the game do to the objects keeps to the relation. -/
theorem operations_keeping : Operations steps_keeps.keeping where
  create htype := create_keepsTo htype _
  store _ hwritable := store_keepsTo hwritable
  put hwritable _ := ⟨keeps_update fun o => .setSlot o hwritable, nofun⟩
  enter := enter_keepsTo

/-- What is evaluated in the game keeps to the relation, whatever it is, and does not panic. -/
theorem eval_keepsTo_keeps {cx : Context} (hcx : cx.world = world) (e : Expr) :
    EvalM.KeepsTo Keeps (cx.eval e) := by
  refine Context.evalSigned_obeys steps_keeps.keepingRun ?_ e false
  rw [hcx]
  exact world_obeys operations_keeping

theorem evaluate_keepsTo_keeps {cx : Context} (hcx : cx.world = world) (source : String) :
    (cx.evaluate source).KeepsTo Keeps := by
  refine Context.evaluate_keepsTo steps_keeps ?_ source
  rw [hcx]
  exact world_obeys operations_keeping

/-! ## The game and its player -/

/-- The game that `newGame` gives for an empty store. -/
def root : ObjectRef := ⟨2⟩

example : (newGame.run {}).1 = .ok (.object root) := rfl

/-- Its player. -/
def hero : ObjectRef := ⟨1⟩

/-- The game and its player are there, with what members ask of their receivers, and all objects are
of the types that have objects. -/
structure Intact (s : Store) : Prop where
  hasGame : ∃ o, s.object? root = some o ∧ o.type = gameType ∧ o.host = "Game" ∧ o.inUse = false ∧
    o.slot? "player" = some (.object hero)
  hasPlayer : ∃ o, s.object? hero = some o ∧ o.type = playerType ∧ o.host = "Player" ∧
    o.inUse = false
  types : ∀ r o, s.object? r = some o → o.type ∈ [vectorType, playerType, gameType]

theorem intact_newGame : Intact (newGame.run {}).2 := by
  refine ⟨⟨_, rfl, rfl, rfl, rfl, rfl⟩, ⟨_, rfl, rfl, rfl, rfl⟩, ?_⟩
  have htypes : ∀ o ∈ (newGame.run {}).2.objects,
      o.type ∈ [vectorType, playerType, gameType] := by decide
  exact fun r o ho => htypes o (List.mem_of_getElem? ho)

theorem Intact.keeps {s s' : Store} (h : Intact s) (hkeeps : Keeps s s') : Intact s' := by
  obtain ⟨⟨o, ho, htype, hhost, hfree, hplayer⟩, ⟨p, hp, hptype, hphost, hpfree⟩, htypes⟩ := h
  constructor
  · obtain ⟨o', ho', hkept⟩ := hkeeps.old root o ho
    exact ⟨o', ho', hkept.type_eq.trans htype, hkept.host_eq.trans hhost,
      hkept.inUse_eq.trans hfree, hkept.player_eq.trans hplayer⟩
  · obtain ⟨p', hp', hkept⟩ := hkeeps.old hero p hp
    exact ⟨p', hp', hkept.type_eq.trans hptype, hkept.host_eq.trans hphost,
      hkept.inUse_eq.trans hpfree⟩
  · intro r q hq
    cases hr : s.object? r with
    | none =>
      obtain htype | htype := (hkeeps.new r q hr hq).type <;> rw [htype] <;> decide
    | some q₀ =>
      obtain ⟨q', hq', hkept⟩ := hkeeps.old r q₀ hr
      rw [hq] at hq'
      cases hq'
      rw [hkept.type_eq]
      exact htypes r q₀ hr

/-- A tick changes nothing of an object but its frame counter. -/
theorem tick_eq (o : Object) : ∃ slots, tick o = { o with slots := slots } ∧
    ∀ name, name ≠ "frame" → (tick o).slot? name = o.slot? name := by
  unfold tick
  split
  · exact ⟨_, rfl, fun _ _ => rfl⟩
  · exact ⟨_, rfl, fun name hname => o.slot?_setSlot_of_ne hname _⟩

/-- The game advances. -/
theorem Intact.advance {s : Store} (h : Intact s) : ∃ o, s.object? root = some o ∧
    (advance (.object root)).run s = (.ok (), s.setObject root (tick o)) ∧
    Intact (s.setObject root (tick o)) := by
  obtain ⟨⟨o, ho, htype, hhost, hfree, hplayer⟩, ⟨p, hp, hpobject⟩, htypes⟩ := h
  obtain ⟨slots, htick, hslots⟩ := tick_eq o
  have ho' := Store.object?_setObject_self (tick o) ho
  refine ⟨o, ho, ?_, ⟨tick o, ho', ?_, ?_, ?_, ?_⟩, ⟨p, ?_, hpobject⟩, ?_⟩
  · rw [Act.run, Game.advance, Receiver.change,
      Receiver.check_eq_ok_iff.2 ⟨rfl, ho, hfree, hhost⟩]
  · rw [htick]
    exact htype
  · rw [htick]
    exact hhost
  · rw [htick]
    exact hfree
  · rw [hslots "player" (by decide)]
    exact hplayer
  · rw [Store.object?_setObject_of_ne _ (by decide)]
    exact hp
  · intro r q hq
    by_cases hr : r = root
    · subst hr
      rw [ho'] at hq
      cases hq
      rw [htick]
      exact htypes root o ho
    · rw [Store.object?_setObject_of_ne _ hr] at hq
      exact htypes r q hq

end Game

end DevConsole
