/-
# `DevConsole.Proofs.Demo.ReadBack` — in the game, what was assigned is read back

A setter of the game takes the payload out of the converted value and stores it, and the getter
wraps what is stored.  For each member that can be assigned to, this gives the value back that the
setter was given, whatever value of its kind that is (`accessors_showsBack`): the payload of a float
is kept bit for bit, an ordinal without a variant stays that ordinal, an object stays the same
object.

There is one exception (`shown`).  Null may be assigned to texts and to objects.  The setter of the
position refuses it, but the setter of the name stores the display text of what it is given, so
that null is what the assignment gives, and a text is what the read after it gives.

For a chain of names, the objects on the way to the member must be the same for the read as for the
assignment.  The player is, since nothing that is evaluated replaces it (`Intact`).  The position
is, if the right side leaves the objects alone that were there (`Unchanging`); an assignment to one
of its components writes a slot of another name.
-/
import DevConsole.Proofs.Demo.FrameCount
import DevConsole.Proofs.Eval.ReadBack
import Mathlib

namespace DevConsole

namespace Game

/-! ## Types -/

theorem hierarchy_eq (t : TypeRef) : catalog.hierarchy t = [t] := by
  have hbase : (catalog.header t).base = none := by
    match t with
    | .builtin b => rfl
    | .declared 0 => rfl
    | .declared 1 => rfl
    | .declared 2 => rfl
    | .declared 3 => rfl
    | .declared (n + 4) => rfl
  rw [Catalog.hierarchy_eq, Catalog.base?, hbase]
  rfl

/-- No other type has the name of the directions. -/
theorem eq_facingType_of_isSubtype {t : TypeRef} (h : catalog.isSubtype t facingType = true) :
    t = facingType := by
  rw [Catalog.isSubtype, hierarchy_eq, List.any_cons, List.any_nil, Bool.or_false, beq_iff_eq] at h
  match t with
  | .builtin b => cases b <;> exact absurd h (by decide)
  | .declared 0 => exact absurd h (by decide)
  | .declared 1 => rfl
  | .declared 2 => exact absurd h (by decide)
  | .declared 3 => exact absurd h (by decide)
  | .declared (n + 4) => exact absurd (show "" = "Facing" from h) (by decide)

/-- No object is a direction. -/
theorem Intact.typeOf?_object_ne {s : Store} (hs : Intact s) {r : ObjectRef} :
    s.typeOf? (.object r) ≠ some facingType := by
  intro h
  rw [Store.typeOf?] at h
  split at h
  · rename_i o ho
    split at h
    · cases h
    · have htypes := hs.types r o ho
      rw [Option.some.inj h] at htypes
      exact absurd htypes (by decide)
  · cases h

/-! ## Members -/

/-- What is read when a value has been stored: the value, but a text for null. -/
def shown : Value → Value
  | .null => .str "null"
  | v => v

theorem shown_of_ne_null {v : Value} (h : v ≠ .null) : shown v = v := by
  cases v with
  | null => exact absurd rfl h
  | _ => rfl

/-- When a value of its kind has been stored in a member, this has changed one slot, with the name
of the member, and what the member gives is the value as shown.  Null can be stored only as a
name. -/
def ShowsBack (a : Accessor) : Prop :=
  ∀ (s s' : Store) (receiver v : Value) (t : TypeRef) (set : Value → Value → HostM Unit),
    Intact s → a.set = some set → catalog.isAssignable s v (a.kind.resolve t) = true →
    (set receiver v).run s = (.ok (), s') →
      (∃ r u, s.Has (.slot r a.name) ∧ s' = s.put (.slot r a.name) u) ∧
        (a.get receiver).run s' = (.ok (shown v), s') ∧ (v = .null → a.name = "name")

theorem readOnly_showsBack {a : Accessor} (h : a.set = none) : ShowsBack a := by
  intro s s' receiver v t set _ hset
  rw [h] at hset
  cases hset

/-- A member backed by the slot with its name, whose getter gives what its setter was given. -/
theorem stored_showsBack {host name : String} {kind : Kind} {get : Object → Value}
    {store : Store → Value → Except Failure Value}
    (h : ∀ {s v t u}, Intact s → catalog.isAssignable s v (kind.resolve t) = true →
      store s v = .ok u →
      (∀ o, o.slot? name = some u → get o = shown v) ∧ (v = .null → name = "name")) :
    ShowsBack (stored host name kind name get store) := by
  rintro s s' receiver v t set hs ⟨⟩ hv hset
  replace hset : Receiver.change catalog host receiver
    (fun s o => (store s v).map fun u => o.setSlot name u) s = (.ok (), s') := hset
  rw [Receiver.change] at hset
  cases hcheck : Receiver.check catalog host s receiver with
  | error e =>
    rw [hcheck] at hset
    cases hset
  | ok found =>
    obtain ⟨r, o⟩ := found
    obtain ⟨rfl, ho, hfree, hhost⟩ := Receiver.check_eq_ok_iff.1 hcheck
    cases hstore : store s v with
    | error e =>
      simp only [hcheck, hstore] at hset
      cases hset
    | ok u =>
      simp only [hcheck, hstore] at hset
      cases hset
      obtain ⟨hget, hnull⟩ := h hs hv hstore
      have ho' := Store.object?_setObject_self (o.setSlot name u) ho
      refine ⟨⟨r, u, ⟨o, ho⟩, ?_⟩, ?_, hnull⟩
      · exact (Store.update_eq_setObject ho fun o => o.setSlot name u).symm
      · show Receiver.read catalog host (.object r) get _ = _
        rw [Receiver.read, Receiver.check_eq_ok_iff.2 ⟨rfl, ho', hfree, hhost⟩]
        simp only [hget _ (o.slot?_setSlot_self name u)]

/-- A member that gives what is in its slot. -/
theorem slot_eq {o : Object} {name : String} {u : Value} (h : o.slot? name = some u) :
    slot name o = u := by
  rw [slot, h]
  rfl

theorem floatMember_showsBack (host name : String) : ShowsBack (floatMember host name) := by
  refine stored_showsBack fun {s v t u} hs hv hu => ?_
  cases v with
  | float x =>
    cases hu
    exact ⟨fun o ho => slot_eq ho, nofun⟩
  | _ => cases hv

theorem name_showsBack :
    ShowsBack (stored "Player" "name" .str "name" (slot "name")
      (fun s v => .ok (.str (catalog.display s v)))) := by
  refine stored_showsBack fun {s v t u} hs hv hu => ?_
  cases v with
  | null =>
    cases hu
    exact ⟨fun o ho => slot_eq ho, fun _ => rfl⟩
  | str text =>
    cases hu
    exact ⟨fun o ho => slot_eq ho, nofun⟩
  | _ => cases hv

theorem hp_showsBack :
    ShowsBack (stored "Player" "hp" .int "hp" (slot "hp")
      (fun s v => .ok (.int ((catalog.asInt s v).toOption.getD 0)))) := by
  refine stored_showsBack fun {s v t u} hs hv hu => ?_
  cases v with
  | int i =>
    cases hu
    exact ⟨fun o ho => slot_eq ho, nofun⟩
  | _ => cases hv

/-- The direction is stored as its ordinal. -/
theorem facing_showsBack :
    ShowsBack (stored "Player" "facing" (.type facingType) "facing"
      (fun o => .enum facingType (intSlot "facing" o))
      (fun s v => .ok (.int ((catalog.asInt s v).toOption.getD 0)))) := by
  refine stored_showsBack fun {s v t u} hs hv hu => ?_
  cases v with
  | enum t ordinal =>
    cases hu
    refine ⟨fun o ho => ?_, nofun⟩
    rw [eq_facingType_of_isSubtype hv, intSlot, ho]
    rfl
  | object r =>
    -- no object is a direction
    replace hv : catalog.isAssignable s (.object r) (.type facingType) = true := hv
    simp only [Catalog.isAssignable] at hv
    split at hv
    · rename_i u htype
      rw [eq_facingType_of_isSubtype hv] at htype
      exact absurd htype hs.typeOf?_object_ne
    · cases hv
  | _ => cases hv

theorem position_showsBack :
    ShowsBack (stored "Player" "position" (.type vectorType) "position" (slot "position")
      (fun s v => (catalog.asObject s v).map .object)) := by
  refine stored_showsBack fun {s v t u} hs hv hu => ?_
  cases v with
  | object r =>
    cases hu
    exact ⟨fun o ho => slot_eq ho, nofun⟩
  | _ => cases hu

theorem paused_showsBack :
    ShowsBack (stored "Game" "paused" .bool "paused" (slot "paused")
      (fun s v => .ok (.bool ((catalog.asBool s v).toOption.getD false)))) := by
  refine stored_showsBack fun {s v t u} hs hv hu => ?_
  cases v with
  | bool b =>
    cases hu
    exact ⟨fun o ho => slot_eq ho, nofun⟩
  | _ => cases hv

/-- All members of the game are so. -/
theorem accessors_showsBack : ∀ ms ∈ world.declared, ∀ a ∈ ms.accessors, ShowsBack a := by
  refine List.forall_mem_cons.2 ⟨?_, List.forall_mem_cons.2 ⟨List.forall_mem_nil _, ?_⟩⟩
  · refine List.forall_mem_cons.2 ⟨floatMember_showsBack _ _, ?_⟩
    refine List.forall_mem_cons.2 ⟨floatMember_showsBack _ _, ?_⟩
    refine List.forall_mem_cons.2 ⟨readOnly_showsBack rfl, ?_⟩
    exact List.forall_mem_singleton.2 (readOnly_showsBack rfl)
  refine List.forall_mem_cons.2 ⟨?_, List.forall_mem_singleton.2 ?_⟩
  · refine List.forall_mem_cons.2 ⟨name_showsBack, ?_⟩
    refine List.forall_mem_cons.2 ⟨hp_showsBack, ?_⟩
    refine List.forall_mem_cons.2 ⟨floatMember_showsBack _ _, ?_⟩
    refine List.forall_mem_cons.2 ⟨facing_showsBack, ?_⟩
    refine List.forall_mem_cons.2 ⟨position_showsBack, ?_⟩
    exact List.forall_mem_singleton.2 (readOnly_showsBack rfl)
  · refine List.forall_mem_cons.2 ⟨readOnly_showsBack rfl, ?_⟩
    refine List.forall_mem_cons.2 ⟨floatMember_showsBack _ _, ?_⟩
    refine List.forall_mem_cons.2 ⟨floatMember_showsBack _ _, ?_⟩
    refine List.forall_mem_cons.2 ⟨paused_showsBack, ?_⟩
    refine List.forall_mem_cons.2 ⟨readOnly_showsBack rfl, ?_⟩
    exact List.forall_mem_singleton.2 (readOnly_showsBack rfl)

/-- A member that was written is read as shown, and nothing but the slot with its name has
changed. -/
theorem readMember_shown {s s' : Store} {receiver v w : Value} {name : String} (hs : Intact s)
    (h : (world.writeMember receiver name v).run s = (.ok w, s')) :
    (∃ r u, s.Has (.slot r name) ∧ s' = s.put (.slot r name) u) ∧
      (world.readMember receiver name).run s' = (.ok (shown w), s') ∧
      (w = .null → name = "name") := by
  by_cases hassigns : ∃ t a, world.Assigns s receiver name t a
  · obtain ⟨t, a, ha⟩ := hassigns
    obtain ⟨set, hset⟩ := Option.isSome_iff_exists.1 ha.writable
    rw [ha.writeMember_run hset] at h
    cases hconvert : world.catalog.convert? s v (a.kind.resolve t) with
    | none =>
      rw [hconvert] at h
      cases h
    | some u =>
      rw [hconvert] at h
      obtain ⟨⟨⟩, s₁, hstored, hw⟩ := Act.run_bind_eq_ok h
      cases hw
      have hassignable := Catalog.isAssignable_of_convert? hconvert
      obtain ⟨ms, hms, hmem⟩ := World.exists_mem_declared ha.found ha.writable
      obtain ⟨hput, hread, hnull⟩ :=
        accessors_showsBack ms hms a hmem s s' receiver w t set hs hset hassignable hstored
      rw [ha.name_eq] at hput hnull
      obtain ⟨r, x, hhas, rfl⟩ := hput
      refine ⟨⟨r, x, hhas, rfl⟩, ?_, hnull⟩
      rw [(ha.put (.slot r name) x).readMember_run]
      exact hread
  · obtain ⟨f, hf⟩ := World.writeMember_of_not_assigns (fun t a ha => hassigns ⟨t, a, ha⟩) v
    rw [hf] at h
    cases h

/-! ## Reachable objects -/

/-- What evaluation in the game goes by. -/
def context (strict : Bool) : Context := ⟨world, strict, .object root⟩

/-- The objects that a new game comes to have, by lines that are evaluated and by frames. -/
inductive Reachable : Store → Prop
  | new : Reachable (newGame.run {}).2
  | evaluate {s : Store} (strict : Bool) (source : String) : Reachable s →
      Reachable (((context strict).evaluate source).run s).2
  | advance {s : Store} : Reachable s → Reachable ((advance (.object root)).run s).2

theorem Reachable.intact {s : Store} (h : Reachable s) : Intact s := by
  induction h with
  | new => exact intact_newGame
  | evaluate strict source _ ih =>
    have hkeeps := @evaluate_keepsTo_keeps (context strict) rfl source
    exact ih.keeps (hkeeps _).1
  | advance _ ih =>
    obtain ⟨o, -, hrun, hintact⟩ := ih.advance
    rw [hrun]
    exact hintact

theorem steps_reachable : Steps fun s s' => Reachable s → Reachable s' where
  refl _ := id
  trans h h' := h' ∘ h

end Game

/-- Whatever lines the application plays, what its game comes to is reachable. -/
theorem Application.reachable_playLines {c : Config} {a : Application}
    (hsetup : a.setup = (new c).setup) (h : Game.Reachable a.console.host.store)
    (lines : List (List Char)) :
    Game.Reachable ((playLines lines).run a).2.console.host.store := by
  induction lines generalizing a with
  | nil => exact h
  | cons line lines ih =>
    have hkeeps : a.tick.setup.KeepsTo fun s s' => Game.Reachable s → Game.Reachable s' := by
      rw [setup_tick, hsetup]
      refine ⟨⟨c.placeholder, rfl⟩, fun source s => ⟨.evaluate c.strictOperators source, ?_⟩⟩
      exact (Game.evaluate_keepsTo_keeps rfl source s).2
    have htick : Game.Reachable a.tick.console.host.store := by
      rw [store_tick, hsetup]
      exact h.advance
    obtain ⟨a', hplay, hsetup', hreachable⟩ :=
      update_run Game.steps_reachable hkeeps (Script.lineEvents line)
    have hrest := ih ((hsetup'.trans a.setup_tick).trans hsetup) (hreachable htick)
    show Game.Reachable ((play line >>= fun _ => playLines lines).run a).2.console.host.store
    rw [Act.run_bind, show (play line).run a = _ from hplay]
    exact hrest

namespace Game

/-! ## Members by their chains -/

/-- The chain to the player. -/
def player : Expr := .name "player" none

/-- The chain to the hit points of the player. -/
def hp : Expr := .member player "hp" none

/-- The chain to the position of the player. -/
def position : Expr := .member player "position" none

/-- The chains to the members of the game that can be assigned to. -/
inductive Place : Expr → Prop
  | game {name : String} : name ∈ ["gravity", "timeScale", "paused"] → Place (.name name none)
  | player {name : String} : name ∈ ["name", "hp", "speed", "facing", "position"] →
      Place (.member player name none)
  | position {name : String} : name ∈ ["x", "y"] → Place (.member position name none)

/-- An expression, evaluated from some objects, leaves each of them as it was.  It may create
objects. -/
def Unchanging (strict : Bool) (s : Store) (e : Expr) : Prop :=
  ∀ r o, s.object? r = some o → (((context strict).evalHost e).run s).2.object? r = some o

section Evaluation

variable {s : Store} (hs : Intact s) (strict : Bool)
include hs

theorem Intact.eval_player (F : List String) :
    ((context strict).eval player).run ⟨s, F⟩ = (.ok (.object hero), ⟨s, F⟩) := by
  obtain ⟨o, ho, htype, hhost, hfree, hplayer⟩ := hs.hasGame
  refine Context.eval_name ?_ F
  have hfound : world.find? o.type "player" = some (.field
      (Accessor.typed catalog "Game" "player" (.type playerType) (slot "player"))) := by
    rw [htype]
    rfl
  show (world.readMember (.object root) "player").run s = _
  rw [World.readMember_object ho hfree (.inl hfound)]
  show Receiver.read catalog "Game" (.object root) (slot "player") s = _
  rw [Receiver.read, Receiver.check_eq_ok_iff.2 ⟨rfl, ho, hfree, hhost⟩]
  simp only [slot_eq hplayer]

theorem Intact.eval_position (F : List String) :
    ((context strict).eval position).run ⟨s, F⟩ =
      (.ok ((s.at? (.slot hero "position")).getD .null), ⟨s, F⟩) := by
  obtain ⟨o, ho, htype, hhost, hfree⟩ := hs.hasPlayer
  refine Context.eval_member (hs.eval_player strict) ?_ F
  have hfound : world.find? o.type "position" =
      some (.property (stored "Player" "position" (.type vectorType) "position" (slot "position")
        (fun s v => (catalog.asObject s v).map .object))) := by
    rw [htype]
    rfl
  show (world.readMember (.object hero) "position").run s = _
  rw [World.readMember_object ho hfree (.inr hfound)]
  show Receiver.read catalog "Player" (.object hero) (slot "position") s = _
  rw [Receiver.read, Receiver.check_eq_ok_iff.2 ⟨rfl, ho, hfree, hhost⟩, Store.at?_slot ho]
  rfl

end Evaluation

/-- What was evaluated in the game leaves it intact, whatever frames were active. -/
theorem Intact.eval {strict : Bool} {e : Expr} {r r' : Run} {result : Except Abort Value}
    (hs : Intact r.store) (h : ((context strict).eval e).run r = (result, r')) :
    Intact r'.store := by
  have hkeeps := (@eval_keepsTo_keeps (context strict) rfl e r).1
  rw [h] at hkeeps
  exact hs.keeps hkeeps

theorem Intact.put {s : Store} {r : ObjectRef} {name : String} (hs : Intact s) (u : Value)
    (h : name ∉ ["frame", "player", "paused"]) : Intact (s.put (.slot r name) u) :=
  hs.keeps (keeps_update fun o => .setSlot o (.of_not_mem h u))

/-- An assignment to a member of an object has evaluated the right side, and then put a value into
the slot with the name of the member. -/
theorem eval_assigned_member {strict : Bool} {s : Store} {target e : Expr} {name : String}
    {receiver w : Value} {r' : Run} (hs : Intact s)
    (htarget : ∀ F, ((context strict).eval target).run ⟨s, F⟩ = (.ok receiver, ⟨s, F⟩))
    (hname : name ∉ ["frame", "player", "paused"])
    (h : ((context strict).eval (.assign none (.member target name none) e)).run ⟨s, []⟩ =
      (.ok w, r')) :
    Intact r'.store ∧
      (∃ q u, r'.store = (((context strict).evalHost e).run s).2.put (.slot q name) u) ∧
      (world.readMember receiver name).run r'.store = (.ok (shown w), r'.store) ∧
      (w = .null → name = "name") := by
  obtain ⟨F, _, r₁, v, r₂, heval, hvalue, hwrite⟩ := Context.eval_assign_member_eq_ok h
  rw [htarget F] at heval
  cases heval
  have hs₂ := hs.eval hvalue
  -- the frames of the assignment do not matter to what the right side does to the objects
  have hstore : (((context strict).evalHost e).run s).2 = r₂.store := by
    have hexact := @Context.evalSigned_exact (context strict) world_untraced e false s F
    rw [show ((context strict).eval e).run ⟨s, F⟩ = _ from hexact] at hvalue
    exact congrArg (fun result => result.2.store) hvalue
  obtain ⟨⟨q, u, -, hput⟩, hread, hnull⟩ := readMember_shown hs₂ hwrite
  refine ⟨?_, ⟨q, u, ?_⟩, hread, hnull⟩
  · rw [hput]
    exact hs₂.put u hname
  · rw [hput, hstore]

/-- What was assigned is read as shown.  Of what the right side does, it matters only that the
position is still the same object when a component of it is read. -/
theorem eval_assigned {strict : Bool} {s : Store} {m e : Expr} {w : Value} {r' : Run}
    (hs : Intact s) (hm : Place m) (he : Unchanging strict s e)
    (h : ((context strict).eval (.assign none m e)).run ⟨s, []⟩ = (.ok w, r')) :
    (∀ F, ((context strict).eval m).run ⟨r'.store, F⟩ = (.ok (shown w), ⟨r'.store, F⟩)) ∧
      (w = .null → m = .member player "name" none) := by
  cases hm with
  | game hname =>
    obtain ⟨F, v, r₁, hvalue, hwrite⟩ := Context.eval_assign_name_eq_ok h
    obtain ⟨-, hread, hnull⟩ := readMember_shown (hs.eval hvalue) hwrite
    refine ⟨Context.eval_name hread, fun hw => ?_⟩
    rw [hnull hw] at hname
    exact absurd hname (by decide)
  | @player name hname =>
    have hplain : name ∉ ["frame", "player", "paused"] := by
      have hall : ∀ n ∈ ["name", "hp", "speed", "facing", "position"],
          n ∉ ["frame", "player", "paused"] := by simp
      exact hall name hname
    obtain ⟨hs', -, hread, hnull⟩ := eval_assigned_member hs (hs.eval_player strict) hplain h
    refine ⟨Context.eval_member (hs'.eval_player strict) hread, fun hw => ?_⟩
    rw [hnull hw]
  | @position name hname =>
    have hplain : name ∉ ["frame", "player", "paused"] ∧ name ≠ "position" := by
      have hall : ∀ n ∈ ["x", "y"], n ∉ ["frame", "player", "paused"] ∧ n ≠ "position" := by simp
      exact hall name hname
    obtain ⟨hs', ⟨q, u, hput⟩, hread, hnull⟩ :=
      eval_assigned_member hs (hs.eval_position strict) hplain.1 h
    have hposition : r'.store.at? (.slot hero "position") = s.at? (.slot hero "position") := by
      obtain ⟨o, ho, -⟩ := hs.hasPlayer
      rw [hput, Store.at?_put_of_ne (by rintro ⟨⟩; exact hplain.2 rfl),
        Store.at?_slot (he hero o ho), Store.at?_slot ho]
    refine ⟨Context.eval_member (fun F => ?_) hread, fun hw => ?_⟩
    · rw [hs'.eval_position strict F, hposition]
    · rw [hnull hw] at hname
      exact absurd hname (by decide)

theorem Place.parses {m : Expr} (h : Place m) : Parser.parse m.text = .ok ⟨some m, false⟩ := by
  cases h with
  | game hname =>
    simp only [List.mem_cons, List.not_mem_nil, or_false] at hname
    rcases hname with rfl | rfl | rfl <;> cbv
  | player hname =>
    simp only [List.mem_cons, List.not_mem_nil, or_false] at hname
    rcases hname with rfl | rfl | rfl | rfl | rfl <;> cbv
  | position hname =>
    simp only [List.mem_cons, List.not_mem_nil, or_false] at hname
    rcases hname with rfl | rfl <;> cbv

/-- In every state that the game can come to, a member that is assigned the value of an expression
that changes no object reads as the value that the assignment gave, with one exception: the name of
the player takes null, gives null, and reads as a text.  This is so for the evaluation of
expressions, and for lines. -/
theorem assigned_is_read (strict : Bool) {s : Store} (hs : Reachable s) {m e : Expr} (hm : Place m)
    (he : Unchanging strict s e) :
    (∀ w s', ((context strict).evalHost (.assign none m e)).run s = (.ok w, s') →
      (w ≠ .null → ((context strict).evalHost m).run s' = (.ok w, s')) ∧
      (w = .null → m = .member player "name" none ∧
        ((context strict).evalHost m).run s' = (.ok (.str "null"), s'))) ∧
    ∀ source, Parser.parse source = .ok ⟨some (.assign none m e), false⟩ →
      ∀ w s', ((context strict).evaluate source).run s = (.ok (.value w), s') →
        (w ≠ .null → ((context strict).evaluate m.text).run s' = (.ok (.value w), s')) ∧
        (w = .null → m.text = "player.name" ∧
          ((context strict).evaluate m.text).run s' = (.ok (.value (.str "null")), s')) := by
  have htrees : ∀ w s', ((context strict).evalHost (.assign none m e)).run s = (.ok w, s') →
      (w ≠ .null → ((context strict).evalHost m).run s' = (.ok w, s')) ∧
      (w = .null → m = .member player "name" none ∧
        ((context strict).evalHost m).run s' = (.ok (.str "null"), s')) := by
    intro w s' h
    rcases heval : ((context strict).eval (.assign none m e)).run ⟨s, []⟩ with ⟨result, r'⟩
    rw [Context.run_evalHost, heval] at h
    cases h
    obtain ⟨hread, hnull⟩ := eval_assigned hs.intact hm he heval
    rw [Context.run_evalHost, hread []]
    refine ⟨fun hw => ?_, fun hw => ⟨hnull hw, ?_⟩⟩
    · rw [shown_of_ne_null hw]
    · rw [hw]
      rfl
  refine ⟨htrees, ?_⟩
  intro source hsource w s' h
  obtain ⟨hread, hnull⟩ := htrees w s' ((Context.evaluate_eq_ok_iff hsource).1 h)
  refine ⟨fun hw => (Context.evaluate_eq_ok_iff hm.parses).2 (hread hw), fun hw => ?_⟩
  obtain ⟨hname, htext⟩ := hnull hw
  refine ⟨?_, (Context.evaluate_eq_ok_iff hm.parses).2 htext⟩
  rw [hname]
  rfl

/-- A new vector, which is assigned to the position, is the object that is read. -/
theorem assigned_is_read_position :
    ∃ s', ((context false).evalHost (.assign none position
        (.new (.name "Vector2" none) [.literal (.int 3), .literal (.int 4)]))).run
          (newGame.run {}).2 = (.ok (.object ⟨3⟩), s') ∧
      ((context false).evalHost position).run s' = (.ok (.object ⟨3⟩), s') := by
  have hunchanging : Unchanging false (newGame.run {}).2
      (.new (.name "Vector2" none) [.literal (.int 3), .literal (.int 4)]) := by
    intro r o ho
    obtain ⟨vector, hvector⟩ : ∃ vector, (((context false).evalHost
        (.new (.name "Vector2" none) [.literal (.int 3), .literal (.int 4)])).run
          (newGame.run {}).2).2 = ((newGame.run {}).2.alloc vector).2 := ⟨_, rfl⟩
    rw [hvector]
    exact Store.object?_alloc_of_some ho
  refine ⟨_, rfl, ?_⟩
  exact ((assigned_is_read false .new (.player (by decide)) hunchanging).1 _ _ rfl).1 nofun

/-- In a new game, the name of the player is assigned null, which gives null, and then is read as a
text. -/
theorem name_assigned_null_reads_text :
    Reachable (newGame.run {}).2 ∧ Place (.member player "name" none) ∧
      Unchanging false (newGame.run {}).2 (.literal .null) ∧
      ∃ s', ((context false).evalHost
          (.assign none (.member player "name" none) (.literal .null))).run (newGame.run {}).2 =
            (.ok .null, s') ∧
        ((context false).evalHost (.member player "name" none)).run s' =
          (.ok (.str "null"), s') := by
  refine ⟨.new, .player (by decide), ?_, _, rfl, rfl⟩
  intro r o ho
  exact ho

end Game

end DevConsole
