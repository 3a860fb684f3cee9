/-
The demo world: a game with one player.

The root is the game; it holds the player, and the player a position.  Everything the console can
reach is declared here with its host code, over slots whose values always have the sort that the
declared kind asks for.
-/
import DevConsole.Eval.Access

namespace DevConsole

namespace Game

/-! ## Types -/

/-- Vectors in the plane. -/
def vectorType : TypeRef := .declared 0
/-- The four directions. -/
def facingType : TypeRef := .declared 1
/-- The player. -/
def playerType : TypeRef := .declared 2
/-- The root. -/
def gameType : TypeRef := .declared 3

/-- A slot of an object, null if it is missing. -/
def slot (name : String) (o : Object) : Value := (o.slot? name).getD .null

/-- The payload of a number slot. -/
def floatSlot (name : String) (o : Object) : Float32 :=
  match o.slot? name with
  | some (.float x) => x
  | _ => 0

/-- The payload of an integer slot. -/
def intSlot (name : String) (o : Object) : Int64 :=
  match o.slot? name with
  | some (.int i) => i
  | _ => 0

/-- The payload of a text slot. -/
def textSlot (name : String) (o : Object) : String :=
  match o.slot? name with
  | some (.str t) => t
  | _ => ""

/-- A vector as `(x, y)`. -/
def describeVector (o : Object) : String :=
  "(" ++ Shortest.single (floatSlot "x" o) ++ ", " ++ Shortest.single (floatSlot "y" o) ++ ")"

/-- A player with name and hit points. -/
def describePlayer (o : Object) : String :=
  "Player " ++ textSlot "name" o ++ " (" ++ Decimal.text (intSlot "hp" o) ++ " hp)"

/-- The types of the game. -/
def catalog : Catalog where
  headers :=
    [{ name := "Vector2", describe := fun _ o => describeVector o },
      { name := "Facing"
        variants := some [("North", 0), ("East", 1), ("South", 2), ("West", 3)] },
      { name := "Player", describe := fun _ o => describePlayer o },
      { name := "Game" }]

/-! ## Objects -/

/-- A new object with the given slots. -/
def create (type : TypeRef) (slots : List (String × Value)) : HostM Value := fun s =>
  let (r, s') := s.alloc { type := type, host := catalog.name type, slots := slots }
  (.ok (.object r), s')

/-- A new vector. -/
def newVector (x y : Float32) : HostM Value :=
  create vectorType [("x", .float x), ("y", .float y)]

/-- A new player at the origin, facing north. -/
def newPlayer (name : String) (hp : Int64) : HostM Value := do
  let position ← newVector 0 0
  create playerType
    [("name", .str name), ("hp", .int hp), ("speed", .float 4), ("facing", .int 0),
      ("position", position)]

/-- A new game with its player. -/
def newGame : HostM Value := do
  let player ← newPlayer "hero" 100
  create gameType
    [("player", player), ("gravity", .float (-9.81)), ("timeScale", .float 1),
      ("paused", .bool false), ("frame", .int 0)]

/-! ## Members -/

/-- A member backed by a slot, whose setter stores what `store` makes of a value. -/
def stored (host name : String) (kind : Kind) (slotName : String) (get : Object → Value)
    (store : Store → Value → Except Failure Value) : Accessor :=
  Accessor.typed catalog host name kind get
    (some fun s v o => (store s v).map fun w => o.setSlot slotName w)

/-- A member that holds a float. -/
def floatMember (host name : String) : Accessor :=
  stored host name .float name (slot name) fun s v =>
    .ok (.float ((catalog.asFloat s v).toOption.getD 0))

/-- The components of a vector. -/
def components (v : Value) : HostM (Float32 × Float32) :=
  Receiver.read catalog "Vector2" v fun o => (floatSlot "x" o, floatSlot "y" o)

/-- An operator on two vectors, component by component. -/
def componentwise (op : Operator) (f : Float32 → Float32 → Float32) : Overload where
  op := op
  left := .own
  right := .own
  apply := fun l r => do
    let a ← components l
    let b ← components r
    newVector (f a.1 b.1) (f a.2 b.2)

/-- The argument at an index. -/
def arg (args : List Value) (i : Nat) : Value := args.getD i .null

/-- The argument at an index, as a float. -/
def floatArg (args : List Value) (i : Nat) : HostM Float32 := do
  let s ← Act.get
  Act.ofExcept (catalog.asFloat s (arg args i))

/-- The argument at an index, as an integer. -/
def intArg (args : List Value) (i : Nat) : HostM Int64 := do
  let s ← Act.get
  Act.ofExcept (catalog.asInt s (arg args i))

/-- The members of a vector: its components, its length, and componentwise arithmetic. -/
def vectorMembers : Members where
  fields := [floatMember "Vector2" "x", floatMember "Vector2" "y"]
  properties :=
    [Accessor.typed catalog "Vector2" "Length" .float fun o =>
        .float (Float32.hypotenuse (floatSlot "x" o) (floatSlot "y" o)),
      Accessor.constant "Zero" .own (newVector 0 0)]
  constructors :=
    [Method.constructor "Vector2"
      [{ name := "x", kind := .float }, { name := "y", kind := .float, default := some (.float 0) }]
      fun args => do
        let x ← floatArg args 0
        let y ← floatArg args 1
        newVector x y]
  operators :=
    [componentwise .add (· + ·), componentwise .sub (· - ·),
      { op := .mul, left := .own, right := .float
        apply := fun l r => do
          let a ← components l
          let k ← floatArg [r] 0
          newVector (a.1 * k) (a.2 * k) }]

/-- Add to the hit points of a player. -/
def heal (r : ObjectRef) (args : List Value) : HostM Value := do
  let amount ← intArg args 0
  let s ← Act.get
  let hp := (((s.object? r).map (intSlot "hp")).getD 0) + amount
  Act.modify (·.update r (·.setSlot "hp" (.int hp)))
  return .int hp

/-- Move a player by giving it a new position. -/
def teleport (r : ObjectRef) (args : List Value) : HostM Value := do
  let x ← floatArg args 0
  let y ← floatArg args 1
  let position ← newVector x y
  Act.modify (·.update r (·.setSlot "position" position))
  return .null

/-- The members of a player. -/
def playerMembers : Members where
  fields :=
    [stored "Player" "name" .str "name" (slot "name") (fun s v => .ok (.str (catalog.display s v))),
      stored "Player" "hp" .int "hp" (slot "hp")
        (fun s v => .ok (.int ((catalog.asInt s v).toOption.getD 0))),
      floatMember "Player" "speed",
      stored "Player" "facing" (.type facingType) "facing"
        (fun o => .enum facingType (intSlot "facing" o))
        (fun s v => .ok (.int ((catalog.asInt s v).toOption.getD 0)))]
  properties :=
    [stored "Player" "position" (.type vectorType) "position" (slot "position")
        (fun s v => (catalog.asObject s v).map .object),
      Accessor.typed catalog "Player" "Alive" .bool fun o => .bool (0 < intSlot "hp" o)]
  methods :=
    [Method.typed catalog "Player" "Heal"
        [{ name := "amount", kind := .int, default := some (.int 10) }] .int heal,
      Method.typed catalog "Player" "Teleport"
        [{ name := "x", kind := .float }, { name := "y", kind := .float }] .void teleport]

/-- The version that the game reports. -/
def version : String := "0.1.0"

/-- A new player from a name and hit points. -/
def spawn (_ : ObjectRef) (args : List Value) : HostM Value := do
  let s ← Act.get
  let name ← Act.ofExcept (catalog.asStr s (arg args 0))
  let hp ← intArg args 1
  newPlayer name hp

/-- The members of the game; its player can be changed but not replaced. -/
def gameMembers : Members where
  fields :=
    [Accessor.typed catalog "Game" "player" (.type playerType) (slot "player"),
      floatMember "Game" "gravity",
      floatMember "Game" "timeScale",
      stored "Game" "paused" .bool "paused" (slot "paused")
        (fun s v => .ok (.bool ((catalog.asBool s v).toOption.getD false)))]
  properties :=
    [Accessor.typed catalog "Game" "Frame" .int (slot "frame"),
      Accessor.constant "Version" .str (pure (.str version))]
  nested := [vectorType, playerType, facingType]
  methods :=
    [Method.typed catalog "Game" "Spawn"
      [{ name := "name", kind := .str }, { name := "hp", kind := .int, default := some (.int 100) }]
      (.type playerType) spawn]

/-- The world of the game. -/
def world : World where
  catalog := catalog
  declared := [vectorMembers, Members.enumeration catalog, playerMembers, gameMembers]

/-- One more frame, unless the game is paused. -/
def tick (o : Object) : Object :=
  match o.slot? "paused" with
  | some (.bool true) => o
  | _ => o.setSlot "frame" (.int (intSlot "frame" o + 1))

/-- Advance the game behind a value by one frame. -/
def advance (root : Value) : HostM Unit :=
  Receiver.change catalog "Game" root fun _ o => .ok (tick o)

end Game

end DevConsole
