/-
Games: `game/`.

A game owns its players, its worlds and its objects.  Players are looked up by the
id of their connection and the lookup takes the first match, so nothing in this
file assumes that the id is unique.
-/
import VangersSrv.Lib.AssocMap
import VangersSrv.Lib.FirstMatch
import VangersSrv.Player
import Mathlib.Data.List.Sort

namespace VangersSrv

/-! ### Game types -/

inductive GameType
  | unconfigured
  | vanWar
  | mechosoma
  | passembloss
  | mirRage
  | huntage
  | mustodont
  deriving DecidableEq, Repr

namespace GameType

/-- `gmtype as i32` -/
def toI32 : GameType → I32
  | unconfigured => -1#32
  | vanWar => 0#32
  | mechosoma => 1#32
  | passembloss => 2#32
  | mirRage => 3#32
  | huntage => 4#32
  | mustodont => 5#32

def all : List GameType :=
  [unconfigured, vanWar, mechosoma, passembloss, mirRage, huntage, mustodont]

/-- `Type::from_i32` -/
def fromI32 (x : I32) : Option GameType := all.find? fun t => t.toI32 = x

end GameType

/-! ### Parameters of the game modes: `prm.rs` -/

structure VanWar where
  nascency : I32
  teamMode : I32
  worldAccess : I32
  maxKills : I32
  maxTime : U32
  deriving DecidableEq, Repr

namespace VanWar

def toVangersByte (m : VanWar) : Bytes :=
  toLeBytes32 m.nascency ++ toLeBytes32 m.teamMode ++ toLeBytes32 m.worldAccess
    ++ toLeBytes32 m.maxKills ++ toLeBytes32 m.maxTime

/-- The time limit of the request is dropped; `i32::MAX` stands in for it. -/
def fromSlice (s : Bytes) : Option VanWar :=
  if s.length < 20 then none
  else do
    let nascency ← sliceLeToI32 (← slice s 0 4)
    let teamMode ← sliceLeToI32 (← slice s 4 8)
    let worldAccess ← sliceLeToI32 (← slice s 8 12)
    let maxKills ← sliceLeToI32 (← slice s 12 16)
    some { nascency, teamMode, worldAccess, maxKills, maxTime := 0x7fffffff#32 }

end VanWar

structure Mechosoma where
  world : I32
  productQuantity1 : I32
  productQuantity2 : I32
  oneAtATime : I32
  teamMode : I32
  deriving DecidableEq, Repr

namespace Mechosoma

def toVangersByte (m : Mechosoma) : Bytes :=
  toLeBytes32 m.world ++ toLeBytes32 m.productQuantity1 ++ toLeBytes32 m.productQuantity2
    ++ toLeBytes32 m.oneAtATime ++ toLeBytes32 m.teamMode

def fromSlice (s : Bytes) : Option Mechosoma :=
  if s.length < 20 then none
  else do
    let world ← sliceLeToI32 (← slice s 0 4)
    let productQuantity1 ← sliceLeToI32 (← slice s 4 8)
    let productQuantity2 ← sliceLeToI32 (← slice s 8 12)
    let oneAtATime ← sliceLeToI32 (← slice s 12 16)
    let teamMode ← sliceLeToI32 (← slice s 16 20)
    some { world, productQuantity1, productQuantity2, oneAtATime, teamMode }

end Mechosoma

structure Passembloss where
  checkpointsNumber : I32
  randomEscave : I32
  deriving DecidableEq, Repr

namespace Passembloss

def toVangersByte (m : Passembloss) : Bytes :=
  toLeBytes32 m.checkpointsNumber ++ toLeBytes32 m.randomEscave

def fromSlice (s : Bytes) : Option Passembloss :=
  if s.length < 8 then none
  else do
    let checkpointsNumber ← sliceLeToI32 (← slice s 0 4)
    let randomEscave ← sliceLeToI32 (← slice s 4 8)
    some { checkpointsNumber, randomEscave }

end Passembloss

structure Mustodont where
  uniqueMechosName : I32
  teamMode : I32
  deriving DecidableEq, Repr

namespace Mustodont

def toVangersByte (m : Mustodont) : Bytes :=
  toLeBytes32 m.uniqueMechosName ++ toLeBytes32 m.teamMode

def fromSlice (s : Bytes) : Option Mustodont :=
  if s.length < 8 then none
  else do
    let uniqueMechosName ← sliceLeToI32 (← slice s 0 4)
    let teamMode ← sliceLeToI32 (← slice s 4 8)
    some { uniqueMechosName, teamMode }

end Mustodont

inductive GameMode
  | vanWar (prm : VanWar)
  | mechosoma (prm : Mechosoma)
  | passembloss (prm : Passembloss)
  | mirRage
  | huntage
  | mustodont (prm : Mustodont)
  deriving DecidableEq, Repr

/-! ### Configuration: `config.rs` -/

structure Config where
  initialRnd : I32
  initialCash : I32
  artefactsUsing : I32
  inEscaveTime : I32
  color : I32
  gameType : GameMode
  deriving DecidableEq, Repr

namespace Config

def getGametype (c : Config) : GameType :=
  match c.gameType with
  | .vanWar _ => .vanWar
  | .mechosoma _ => .mechosoma
  | .passembloss _ => .passembloss
  | .mirRage => .mirRage
  | .huntage => .huntage
  | .mustodont _ => .mustodont

def toVangersByte (c : Config) : Bytes :=
  toLeBytes32 c.initialRnd ++ toLeBytes32 c.getGametype.toI32 ++ toLeBytes32 c.initialCash
    ++ toLeBytes32 c.artefactsUsing ++ toLeBytes32 c.inEscaveTime ++ toLeBytes32 c.color
    ++ match c.gameType with
      | .vanWar e => e.toVangersByte
      | .mechosoma e => e.toVangersByte
      | .passembloss e => e.toVangersByte
      | .mustodont e => e.toVangersByte
      | .huntage | .mirRage => []

def baseCountBytes : Nat := 6 * 4

/-- The mode of a game with its parameters; a slice too short for them gives no mode. -/
def gameModeFromSlice (gameType : I32) (s : Bytes) : Option (Option GameMode) :=
  match GameType.fromI32 gameType with
  | some .vanWar =>
    if 20 ≤ s.length then (VanWar.fromSlice s).map fun e => some (.vanWar e) else some none
  | some .mechosoma =>
    if 20 ≤ s.length then (Mechosoma.fromSlice s).map fun e => some (.mechosoma e) else some none
  | some .passembloss =>
    if 8 ≤ s.length then (Passembloss.fromSlice s).map fun e => some (.passembloss e) else some none
  | some .mustodont =>
    if 8 ≤ s.length then (Mustodont.fromSlice s).map fun e => some (.mustodont e) else some none
  | some .huntage => some (some .huntage)
  | some .mirRage => some (some .mirRage)
  | some .unconfigured | none => some none

def fromSlice (s : Bytes) : Option (Option Config) :=
  if s.length < baseCountBytes then some none
  else do
    let initialRnd ← sliceLeToI32 (← slice s 0 4)
    let gameType ← sliceLeToI32 (← slice s 4 8)
    let initialCash ← sliceLeToI32 (← slice s 8 12)
    let artefactsUsing ← sliceLeToI32 (← slice s 12 16)
    let inEscaveTime ← sliceLeToI32 (← slice s 16 20)
    let color ← sliceLeToI32 (← slice s 20 24)
    let mode ← gameModeFromSlice gameType (← sliceFrom s 24)
    some (mode.map fun gameType =>
      { initialRnd, initialCash, artefactsUsing, inEscaveTime, color, gameType })

end Config

/-! ### Removed players -/

/-- What the players list and the top list still show of a player that left. -/
structure RemovedPlayer where
  bindId : UInt8
  status : Status
  world : UInt8
  pos : Pos
  name : Bytes
  body : Bytes
  deriving DecidableEq, Repr

def RemovedPlayer.fromPlayer (p : Player) : Option RemovedPlayer := do
  let bindId ← p.bindId
  let auth ← p.auth
  let body ← p.body
  some {
    bindId
    status := p.status
    world := p.worldId.getD 0
    pos := p.pos
    name := auth.name
    body := body.toVangersByte }

theorem RemovedPlayer.fromPlayer_bindId {p : Player} {r : RemovedPlayer}
    (h : RemovedPlayer.fromPlayer p = some r) : p.bindId = some r.bindId := by
  unfold RemovedPlayer.fromPlayer at h
  simp only [Option.bind_eq_bind, Option.bind_eq_some_iff, Option.some.injEq] at h
  obtain ⟨bindId, hbind, _, -, _, -, rfl⟩ := h
  exact hbind

/-! ### Games: `game.rs` -/

abbrev GameID := U32

/-- The object store of a game. -/
abbrev Vanjects := AList fun _ : I32 => Vanject

structure Game where
  id : GameID
  name : Bytes
  players : List Player
  removedPlayers : List RemovedPlayer
  worlds : List World
  birthTime : Instant
  config : Option Config
  vanjects : Vanjects

namespace Game

def minPlayerId : Nat := 1
def maxPlayerId : Nat := 30

def new (id : GameID) (now : Instant) : Game :=
  { id
    name := []
    players := []
    removedPlayers := []
    worlds := []
    birthTime := now
    config := none
    vanjects := ∅ }

def isConfigured (g : Game) : Bool := g.config.isSome

/-- The first player that the connection speaks for. -/
def getPlayer (g : Game) (clientId : ClientID) : Option Player :=
  g.players.find? fun p => p.clientId = clientId

/-- Writes through `get_mut_player`. -/
def modifyPlayer (g : Game) (clientId : ClientID) (f : Player → Player) : Game :=
  { g with players := g.players.modifyFirst (fun p => p.clientId = clientId) f }

/-- Walks the sorted ids beside the candidates and stops at the first that differ. -/
def scanIds : List UInt8 → List UInt8 → Option UInt8
  | _, [] => none
  | [], i :: _ => some i
  | id :: ids, i :: rest => if id = i then scanIds ids rest else some i

/-- Returns a new unique `player_id` if the game has a free player slot. -/
def getUniqPlayerId (g : Game) : Option UInt8 :=
  let ids := (g.players.filterMap Player.bindId).insertionSort (· ≤ ·)
  scanIds ids ((List.range' minPlayerId maxPlayerId).map UInt8.ofNat)

/-- Tries to attach `p` to the game and returns its number there. -/
def attachPlayer (g : Game) (p : Player) : Option (Option (Game × UInt8)) :=
  match g.getUniqPlayerId with
  | some uniqId =>
    if 0 < uniqId then do
      let removedPlayers := g.removedPlayers.filter fun removed => removed.bindId ≠ uniqId
      let p ← p.setBind uniqId
      some (some ({ g with removedPlayers, players := g.players ++ [p] }, uniqId))
    else some none
  | none => some none

/-- Assigns a player to a world; tells whether its status changed.  Panics when the
game has no such player or no such world. -/
def placePlayer (g : Game) (clientId : ClientID) (world : World) : Option (Game × Bool) := do
  let p ← g.getPlayer clientId
  let w ← g.worlds.find? fun w => w.id = world.id
  if p.status ≠ .gaming then
    some (g.modifyPlayer clientId fun p => { p with world := some w, status := .gaming }, true)
  else
    some (g.modifyPlayer clientId fun p => { p with world := some w }, false)

/-- Also a failed attempt writes the field. -/
def setConfig (g : Game) (s : Bytes) : Option (Game × Except String Unit) :=
  if g.isConfigured then some (g, .error "already configured")
  else do
    let config ← Config.fromSlice s
    match config with
    | some _ => some ({ g with config }, .ok ())
    | none => some ({ g with config }, .error "fail converting slice to config")

def getGmtype (g : Game) : GameType :=
  match g.config with
  | some config => config.getGametype
  | none => .unconfigured

/-! ### Lookups by connection -/

section

variable {g : Game} {c : ClientID} {p : Player}

theorem getPlayer_mem (h : g.getPlayer c = some p) : p ∈ g.players :=
  List.mem_of_find?_eq_some h

theorem getPlayer_clientId (h : g.getPlayer c = some p) : p.clientId = c := by
  simpa using List.find?_some h

theorem getPlayer_isSome : (g.getPlayer c).isSome ↔ ∃ p ∈ g.players, p.clientId = c := by
  simp [getPlayer]

theorem getPlayer_modifyPlayer {f : Player → Player} (h : g.getPlayer c = some p)
    (hf : (f p).clientId = p.clientId) : (g.modifyPlayer c f).getPlayer c = some (f p) :=
  List.find?_modifyFirst h (by simpa using hf.trans (getPlayer_clientId h))

/-- A write through a reference depends on the one player it refers to. -/
theorem modifyPlayer_const (h : g.getPlayer c = some p) (f : Player → Player) :
    g.modifyPlayer c f = g.modifyPlayer c fun _ => f p := by
  unfold modifyPlayer
  congr 1
  refine List.modifyFirst_congr fun q hq => ?_
  rw [Option.some.inj (hq.symm.trans h)]

@[simp] theorem modifyPlayer_vanjects (f : Player → Player) :
    (g.modifyPlayer c f).vanjects = g.vanjects := rfl

@[simp] theorem modifyPlayer_worlds (f : Player → Player) :
    (g.modifyPlayer c f).worlds = g.worlds := rfl

@[simp] theorem modifyPlayer_removedPlayers (f : Player → Player) :
    (g.modifyPlayer c f).removedPlayers = g.removedPlayers := rfl

@[simp] theorem modifyPlayer_id (f : Player → Player) : (g.modifyPlayer c f).id = g.id := rfl

end

/-! ### The free number -/

theorem scanIds_mem {ids candidates : List UInt8} {r : UInt8} (h : scanIds ids candidates = some r) :
    r ∈ candidates := by
  fun_induction scanIds ids candidates with
  | case1 => cases h
  | case2 => simp_all
  | case3 _ _ _ ih => exact List.mem_cons_of_mem _ (ih h)
  | case4 => simp_all

theorem getUniqPlayerId_pos {g : Game} {id : UInt8} (h : g.getUniqPlayerId = some id) : 0 < id := by
  obtain ⟨n, hn, rfl⟩ := List.mem_map.mp (scanIds_mem h)
  rw [List.mem_range'_1] at hn
  simp only [minPlayerId, maxPlayerId] at hn
  rw [UInt8.lt_iff_toNat_lt, UInt8.toNat_ofNat']
  show 0 < n % 2 ^ 8
  omega

end Game

end VangersSrv
