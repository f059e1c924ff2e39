/-
Players: `player/`, and the worlds they stand in.

A player belongs to one game; `client_id` names the connection that currently
speaks for it and `bind` is its number inside the game.
-/
import VangersSrv.Vanject

namespace VangersSrv

/-- Identifies a connection. -/
abbrev ClientID := Nat

/-! ### Worlds -/

/-- A world never changes once it is made, so sharing it is copying it. -/
structure World where
  id : UInt8
  ySize : I16
  deriving DecidableEq, Repr

/-! ### Bind -/

/-- A player's number inside its game. -/
structure Bind where
  id : UInt8
  inRange : 1 ≤ id.toNat ∧ id.toNat ≤ 31
  deriving DecidableEq, Repr

namespace Bind

/-- Panics outside `1..=31`. -/
def new (id : UInt8) : Option Bind :=
  if h : 1 ≤ id.toNat ∧ id.toNat ≤ 31 then some ⟨id, h⟩ else none

/-- The bit of a direct message's mask that names the player. -/
def mask (b : Bind) : I32 := 1#32 <<< (b.id.toNat - 1)

theorem new_eq_some {id : UInt8} {b : Bind} (h : new id = some b) : b.id = id := by
  unfold new at h
  split at h
  · simp only [Option.some.injEq] at h
    rw [← h]
  · simp at h

/-- Two masks meet where the other one has the player's bit. -/
theorem mask_and_ne_zero {b : Bind} {mask : U32} :
    b.mask &&& mask ≠ 0 ↔ mask.getLsbD (b.id.toNat - 1) = true := by
  have hand : b.mask &&& mask
      = if mask.getLsbD (b.id.toNat - 1) then b.mask else 0 :=
    BitVec.twoPow_and mask (b.id.toNat - 1)
  have hmask : b.mask ≠ 0 := by
    intro hzero
    have hpow := congrArg BitVec.toNat hzero
    have hrange := b.inRange
    change (BitVec.twoPow 32 (b.id.toNat - 1)).toNat = 0 at hpow
    rw [BitVec.toNat_twoPow_of_lt (by omega)] at hpow
    exact absurd hpow (Nat.two_pow_pos _).ne'
  rw [hand]
  split
  · rename_i hbit
    exact iff_of_true hmask hbit
  · rename_i hbit
    exact iff_of_false (fun h => h rfl) hbit

end Bind

/-! ### Auth -/

/-- The name a player registered, with its terminator. -/
structure Auth where
  name : Bytes
  deriving DecidableEq, Repr

/-- `random` stands for the name made up for an empty one. -/
def Auth.new (random : Bytes) (name : Bytes) : Auth :=
  match name.getLast? with
  | some 0 => { name }
  | some _ => { name := name ++ [0] }
  | none => { name := withNul random }

/-! ### Body -/

/-- What a player shows of itself.  The rating is kept as the bits of its `f32`. -/
structure Body where
  kills : UInt8
  deaths : UInt8
  color : UInt8
  world : UInt8
  beebos : U32
  rating : BitVec 32
  carIndex : UInt8
  data1 : I16
  data2 : I16
  birthTime : U32
  netId : I32
  stats : Bytes
  deriving DecidableEq, Repr

namespace Body

/-- The size of every field but `stats`. -/
def getBaseStructSize : Nat := 1 + 1 + 1 + 1 + 4 + 4 + 1 + 2 + 2 + 4 + 4

def toVangersByte (b : Body) : Bytes :=
  [b.kills, b.deaths, b.color, b.world] ++ toLeBytes32 b.beebos ++ toLeBytes32 b.rating
    ++ [b.carIndex] ++ toLeBytes16 b.data1 ++ toLeBytes16 b.data2 ++ toLeBytes32 b.birthTime
    ++ toLeBytes32 b.netId ++ b.stats

/-- Reads the fields one after the other; panics on a slice that is too short. -/
def readFields (s : Bytes) : Option Body := do
  let kills ← s[0]?
  let deaths ← s[1]?
  let color ← s[2]?
  let world ← s[3]?
  let beebos ← sliceLeToU32 (← slice s 4 8)
  let rating ← sliceLeToU32 (← slice s 8 12)
  let carIndex ← s[12]?
  let data1 ← sliceLeToI16 (← slice s 13 15)
  let data2 ← sliceLeToI16 (← slice s 15 17)
  let birthTime ← sliceLeToU32 (← slice s 17 21)
  let netId ← sliceLeToI32 (← slice s 21 25)
  let stats ← sliceFrom s 25
  some { kills, deaths, color, world, beebos, rating, carIndex, data1, data2, birthTime, netId, stats }

def fromSlice (s : Bytes) : Option (Option Body) :=
  if s.length < getBaseStructSize then some none
  else (readFields s).map some

/-- A slice parses exactly when it holds the base fields. -/
theorem fromSlice_isSome {s : Bytes} {b : Option Body} (h : fromSlice s = some b) :
    b.isSome = decide (getBaseStructSize ≤ s.length) := by
  unfold fromSlice at h
  split at h
  · rename_i hlt
    simp only [Option.some.injEq] at h
    subst h
    simpa using hlt
  · rename_i hge
    obtain ⟨body, -, rfl⟩ := Option.map_eq_some_iff.mp h
    simpa using hge

end Body

/-! ### Player -/

inductive Status
  | initial
  | gaming
  | finished
  deriving DecidableEq, Repr

/-- `status as u8` -/
def Status.toU8 : Status → UInt8
  | initial => 0
  | gaming => 1
  | finished => 2

structure Player where
  /-- The id that binds the player to its client. -/
  clientId : ClientID
  bind : Option Bind
  auth : Option Auth
  body : Option Body
  world : Option World
  pos : Pos
  screenYHalfSize : I16
  status : Status
  disconnectedUntil : Option Instant
  deriving DecidableEq, Repr

namespace Player

def new (clientId : ClientID) : Player :=
  { clientId
    bind := none
    auth := none
    body := none
    world := none
    pos := Pos.default
    screenYHalfSize := 0
    status := .initial
    disconnectedUntil := none }

def setBind (p : Player) (id : UInt8) : Option Player :=
  if id = 0 then some { p with bind := none, auth := none }
  else (Bind.new id).map fun b => { p with bind := some b }

/-- Panics unless the name is a non-empty C string with its terminator. -/
def setAuth (p : Player) (random name : Bytes) : Option Player :=
  if 1 < name.length ∧ name.getLast? = some 0 then
    some { p with auth := some (Auth.new random name) }
  else none

/-- Stores the parsed body, also when the parse failed; tells whether it succeeded. -/
def setBody (p : Player) (s : Bytes) : Option (Player × Bool) :=
  (Body.fromSlice s).map fun body => ({ p with body }, body.isSome)

theorem setBody_eq_some {p p' : Player} {s : Bytes} {parsed : Bool}
    (h : p.setBody s = some (p', parsed)) :
    ∃ body, Body.fromSlice s = some body ∧ p' = { p with body } ∧ parsed = body.isSome := by
  obtain ⟨body, hbody, hpair⟩ := Option.map_eq_some_iff.mp h
  obtain ⟨rfl, rfl⟩ := Prod.mk.inj hpair
  exact ⟨body, hbody, rfl, rfl⟩

/-- The number of a bound player. -/
def bindId (p : Player) : Option UInt8 := p.bind.map Bind.id

/-- The bit of the player's number is set. -/
def maskedBy (p : Player) (mask : U32) : Bool :=
  p.bindId.any fun k => mask.getLsbD (k.toNat - 1)

/-- The id of the world the player stands in. -/
def worldId (p : Player) : Option UInt8 := p.world.map World.id

/-- An object is stored with the number of the player that made it. -/
def bindVanject (p : Player) (v : Vanject) : Option Vanject :=
  p.bind.map fun b => { v with playerBindId := b.id }

end Player

end VangersSrv
