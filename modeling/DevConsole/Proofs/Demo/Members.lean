/-
# `DevConsole.Proofs.Demo.Members` — what the members of the game do to the objects

The types of the game declare some thirty pieces of host code.  As far as the objects are concerned
they do four things, apart from looking (`Game.Operations`):

    create     a vector or a player
    store      what a setter makes of a value, in a slot of the object behind the receiver
    put        a value in a slot of an object that is entered
    enter      an object, and do these things while it is in use

What is stored and put is limited (`Game.Writable`): never the player of the game, never its frame
counter, and only a truth value for whether it is paused.  A property that these four things have is
one of everything that evaluation does in the game (`Game.world_obeys`).
-/
import DevConsole.Demo.Game
import DevConsole.Proofs.World.HostProperty

namespace DevConsole

namespace Game

/-- What the members of the game may leave in a slot. -/
structure Writable (slotName : String) (v : Value) : Prop where
  ne_frame : slotName ≠ "frame"
  ne_player : slotName ≠ "player"
  paused : slotName = "paused" → ∃ b, v = .bool b

theorem Writable.of_not_mem {slotName : String}
    (h : slotName ∉ ["frame", "player", "paused"]) (v : Value) : Writable slotName v := by
  simp only [List.mem_cons, List.not_mem_nil, or_false, not_or] at h
  exact ⟨h.1, h.2.1, fun hpaused => absurd hpaused h.2.2⟩

/-- What the members of the game do to the objects has the property. -/
structure Operations (H : HostProperty) : Prop where
  create : ∀ {type : TypeRef} {slots : List (String × Value)},
    type = vectorType ∨ type = playerType → H.Holds (create type slots)
  store : ∀ {host slotName : String} {receiver : Value} {store : Store → Except Failure Value},
    (∀ s, Untraced (store s)) → (∀ s v, store s = .ok v → Writable slotName v) →
    H.Holds (Receiver.change catalog host receiver fun s o =>
      (store s).map fun v => o.setSlot slotName v)
  put : ∀ {r : ObjectRef} {slotName : String} {v : Value}, Writable slotName v →
    H.Holds (Act.modify (·.update r (·.setSlot slotName v)))
  enter : ∀ {host : String} {receiver : Value} {body : ObjectRef → HostM Value},
    (∀ r, H.Holds (body r)) → H.Holds (Receiver.enter catalog host receiver body)

variable {H : HostProperty}

theorem typed_obeys {host name : String} {kind : Kind} {get : Object → Value} :
    (Accessor.typed catalog host name kind get).Obeys H :=
  .readOnly (fun receiver => H.read catalog host receiver get) rfl

theorem components_obeys (v : Value) : H.Holds (components v) := H.read catalog _ v _

theorem floatArg_obeys (args : List Value) (i : Nat) : H.Holds (floatArg args i) :=
  H.looks fun s => catalog.asFloat_untraced s _

theorem intArg_obeys (args : List Value) (i : Nat) : H.Holds (intArg args i) :=
  H.looks fun s => catalog.asInt_untraced s _

section Obeys

variable (hH : Operations H)
include hH

theorem stored_obeys {host name slotName : String} {kind : Kind} {get : Object → Value}
    {store : Store → Value → Except Failure Value} (hstore : ∀ s v, Untraced (store s v))
    (hwritable : ∀ s v w, store s v = .ok w → Writable slotName w) :
    (stored host name kind slotName get store).Obeys H where
  get receiver := H.read catalog host receiver get
  set set hset receiver v := by
    cases hset
    exact hH.store (fun s => hstore s v) fun s w => hwritable s v w

/-- A member backed by a slot into which anything may be put. -/
theorem plain_obeys {host name slotName : String} {kind : Kind} {get : Object → Value}
    {store : Store → Value → Except Failure Value}
    (hslot : slotName ∉ ["frame", "player", "paused"])
    (hstore : ∀ s v, Untraced (store s v)) :
    (stored host name kind slotName get store).Obeys H :=
  stored_obeys hH hstore fun _ _ w _ => .of_not_mem hslot w

theorem newVector_obeys (x y : Float32) : H.Holds (newVector x y) := hH.create (.inl rfl)

theorem newPlayer_obeys (name : String) (hp : Int64) : H.Holds (newPlayer name hp) :=
  H.bind (newVector_obeys hH 0 0) fun _ => hH.create (.inr rfl)

theorem componentwise_obeys {op : Operator} {f : Float32 → Float32 → Float32} (l r : Value) :
    H.Holds ((componentwise op f).apply l r) := by
  refine H.bind (components_obeys l) fun a => ?_
  exact H.bind (components_obeys r) fun b => newVector_obeys hH _ _

theorem vectorMembers_obeys : vectorMembers.Obeys H where
  access := by
    refine List.forall_mem_cons.2 ⟨plain_obeys hH (by decide) fun _ _ => .ok _, ?_⟩
    refine List.forall_mem_cons.2 ⟨plain_obeys hH (by decide) fun _ _ => .ok _, ?_⟩
    refine List.forall_mem_cons.2 ⟨typed_obeys, ?_⟩
    exact List.forall_mem_singleton.2 (.readOnly (fun _ => newVector_obeys hH 0 0) rfl)
  invoke := by
    refine List.forall_mem_singleton.2 fun _ args => ?_
    refine H.bind (floatArg_obeys args 0) fun x => ?_
    exact H.bind (floatArg_obeys args 1) fun y => newVector_obeys hH x y
  apply := by
    refine List.forall_mem_cons.2 ⟨componentwise_obeys hH, ?_⟩
    refine List.forall_mem_cons.2 ⟨componentwise_obeys hH, ?_⟩
    refine List.forall_mem_singleton.2 fun l r => ?_
    refine H.bind (components_obeys l) fun a => ?_
    exact H.bind (floatArg_obeys [r] 0) fun k => newVector_obeys hH _ _
  convert := List.forall_mem_nil _

theorem heal_obeys (r : ObjectRef) (args : List Value) : H.Holds (heal r args) := by
  refine H.bind (intArg_obeys args 0) fun amount => H.bind H.get fun s => ?_
  exact H.bind (hH.put (.of_not_mem (by decide) _)) fun _ => H.pure _

theorem teleport_obeys (r : ObjectRef) (args : List Value) : H.Holds (teleport r args) := by
  refine H.bind (floatArg_obeys args 0) fun x => H.bind (floatArg_obeys args 1) fun y => ?_
  refine H.bind (newVector_obeys hH x y) fun position => ?_
  exact H.bind (hH.put (.of_not_mem (by decide) _)) fun _ => H.pure _

theorem spawn_obeys (r : ObjectRef) (args : List Value) : H.Holds (spawn r args) := by
  refine H.bind H.get fun s => H.bind (H.ofExcept (catalog.asStr_untraced s _)) fun name => ?_
  exact H.bind (intArg_obeys args 1) fun hp => newPlayer_obeys hH name hp

theorem playerMembers_obeys : playerMembers.Obeys H where
  access := by
    refine List.forall_mem_cons.2 ⟨plain_obeys hH (by decide) fun _ _ => .ok _, ?_⟩
    refine List.forall_mem_cons.2 ⟨plain_obeys hH (by decide) fun _ _ => .ok _, ?_⟩
    refine List.forall_mem_cons.2 ⟨plain_obeys hH (by decide) fun _ _ => .ok _, ?_⟩
    refine List.forall_mem_cons.2 ⟨plain_obeys hH (by decide) fun _ _ => .ok _, ?_⟩
    refine List.forall_mem_cons.2 ⟨plain_obeys hH (by decide) fun s v => ?_, ?_⟩
    · exact (catalog.asObject_untraced s v).map _
    exact List.forall_mem_singleton.2 typed_obeys
  invoke := by
    refine List.forall_mem_cons.2 ⟨fun _ args => hH.enter fun r => heal_obeys hH r args, ?_⟩
    exact List.forall_mem_singleton.2 fun _ args => hH.enter fun r => teleport_obeys hH r args
  apply := List.forall_mem_nil _
  convert := List.forall_mem_nil _

theorem gameMembers_obeys : gameMembers.Obeys H where
  access := by
    refine List.forall_mem_cons.2 ⟨typed_obeys, ?_⟩
    refine List.forall_mem_cons.2 ⟨plain_obeys hH (by decide) fun _ _ => .ok _, ?_⟩
    refine List.forall_mem_cons.2 ⟨plain_obeys hH (by decide) fun _ _ => .ok _, ?_⟩
    refine List.forall_mem_cons.2 ⟨stored_obeys hH (fun _ _ => .ok _) ?_, ?_⟩
    · rintro s v w ⟨⟩
      exact ⟨by decide, by decide, fun _ => ⟨_, rfl⟩⟩
    refine List.forall_mem_cons.2 ⟨typed_obeys, ?_⟩
    exact List.forall_mem_singleton.2 (.readOnly (fun _ => H.pure _) rfl)
  invoke := List.forall_mem_singleton.2 fun _ args => hH.enter fun r => spawn_obeys hH r args
  apply := List.forall_mem_nil _
  convert := List.forall_mem_nil _

/-- All members of the game have a property that the four things have that they do. -/
theorem world_obeys : world.Obeys H := by
  refine List.forall_mem_cons.2 ⟨vectorMembers_obeys hH, ?_⟩
  refine List.forall_mem_cons.2 ⟨Members.enumeration_obeys catalog, ?_⟩
  exact List.forall_mem_cons.2 ⟨playerMembers_obeys hH,
    List.forall_mem_singleton.2 (gameMembers_obeys hH)⟩

end Obeys

end Game

end DevConsole
