/-
Queries and direct messages: `games_list_query.rs`, `top_list_query.rs`,
`total_players_data_query.rs`, `server_time_query.rs`, `direct_sending.rs`.

None of them changes the state.
-/
import Mathlib.Data.List.Induction
import VangersSrv.Server.State

namespace VangersSrv

/-! ### total_players_data_query -/

/-- A present player's entry in the players list; without a body it has none. -/
def playerEntry (p : Player) : Option Bytes := do
  let id ← p.bindId
  let body ← p.body
  let name := (p.auth.map Auth.name).getD (ascii "[UNDEFINED]" ++ [0])
  some ([id] ++ [p.status.toU8] ++ [p.worldId.getD 0] ++ p.pos.toVangersByte ++ name
    ++ body.toVangersByte)

def removedPlayerEntry (p : RemovedPlayer) : Bytes :=
  [p.bindId] ++ [p.status.toU8] ++ [p.world] ++ p.pos.toVangersByte ++ p.name ++ p.body

/-- The players list.  The count is a byte and wraps. -/
def totalPlayersDataPacket (game : Game) : Option Packet :=
  let entries := game.players.filterMap playerEntry ++ game.removedPlayers.map removedPlayerEntry
  Packet.new .totalListOfPlayersData ([UInt8.ofNat entries.length] ++ entries.flatten)

namespace Server

def totalPlayersDataQuery (srv : Server) (clientId : ClientID) : Option Reply :=
  match srv.getGameByClientid clientId with
  | none => srv.fail (.totalPlayersDataQuery (.playerNotFound clientId))
  | some (_, game) => do
    let answer ← totalPlayersDataPacket game
    some { srv, sent := [], result := .ok (.response answer) }

end Server

/-! ### games_list_query -/

/-- The letter of a game mode in the title of a game. -/
def gmtypeLetter : GameType → Bytes
  | .mechosoma => ascii "M"
  | .vanWar => ascii "V"
  | .passembloss => ascii "P"
  | .mirRage => ascii "R"
  | _ => ascii "?"

/-- The title of a game in the list, with its terminator. -/
def gameTitle (now : Instant) (game : Game) : Bytes :=
  let title :=
    match game.name.getLast? with
    | some 0 => game.name.dropLast
    | some _ => game.name
    | none => ascii "[UNDEFINED TITLE]"
  ascii "[Rust-SRV] " ++ title ++ ascii ": " ++ showNat game.players.length ++ ascii " "
    ++ gmtypeLetter game.getGmtype ++ ascii " " ++ game.birthTime.display now ++ [0]

namespace Server

def gamesListQuery (env : Env) (srv : Server) (packet : Packet) : Option Reply :=
  let games := srv.games.values.filter Game.isConfigured
  srv.respond packet ([UInt8.ofNat games.length]
    ++ games.flatMap fun game => toLeBytes32 game.id ++ gameTitle env.now game)

end Server

/-! ### top_list_query -/

def topListLimit : Nat := 10

/-- The entries of one game: its players with a name and a body, then the removed ones. -/
def topEntries (game : Game) : Option (List TopEntry) := do
  let current := game.players.filterMap fun p => do
    let auth ← p.auth
    let body ← p.body
    some { name := auth.name, rating := body.rating : TopEntry }
  let removed ← game.removedPlayers.mapM fun p => do
    let body ← Body.fromSlice p.body
    some (body.map fun body => { name := p.name, rating := body.rating : TopEntry })
  some (current ++ removed.reduceOption)

namespace Server

/-- The entries that are collected for a mode, in the order of the games. -/
def topListEntries (srv : Server) (mode : UInt8) : Option (List TopEntry) := do
  let games := srv.games.values.filter fun game =>
    game.isConfigured && asU8 game.getGmtype.toI32 = mode
  let entries ← games.mapM topEntries
  some entries.flatten

def topListQuery (env : Env) (srv : Server) (packet : Packet) : Option Reply :=
  match packet.data.head? with
  | none => srv.fail (.topListQuery .modeEmpty)
  | some mpGame => do
    let entries ← srv.topListEntries mpGame
    let sorted := (← env.sortBy entries).take topListLimit
    srv.respond packet ([mpGame, UInt8.ofNat sorted.length]
      ++ sorted.flatMap fun e => e.name ++ toLeBytes32 e.rating)

/-! ### server_time_query -/

def serverTimeQuery (env : Env) (srv : Server) (packet : Packet) : Option Reply :=
  srv.respond packet (toLeBytes32 (srv.uptime.asSecsU32 env.now * 256#32))

/-! ### direct_sending -/

/-- The sender and the receivers of a direct message among the bound players. -/
def directTargets (game : Game) (clientId : ClientID) (mask : U32) :
    Option Player × List ClientID :=
  game.players.foldl
    (fun acc p =>
      match p.bind with
      | none => acc
      | some bind =>
        if p.clientId = clientId then (some p, acc.2)
        else if bind.mask &&& mask ≠ 0 then (acc.1, acc.2 ++ [p.clientId])
        else acc)
    (none, [])

section

variable {game : Game} {c x : ClientID} {mask : U32} {p : Player}

/-- The last player of the sender, and those that the mask names, in order. -/
theorem directTargets_eq : directTargets game c mask
    = ((game.players.filter fun p => p.bind.isSome ∧ p.clientId = c).getLast?,
      (game.players.filter fun p => p.clientId ≠ c ∧ p.maskedBy mask).map Player.clientId) := by
  unfold directTargets
  induction game.players using List.reverseRecOn with
  | nil => rfl
  | append_singleton players p ih =>
      rw [List.foldl_concat, ih, List.filter_append, List.filter_append, List.filter_singleton,
        List.filter_singleton]
      unfold Player.maskedBy Player.bindId
      cases hbind : p.bind with
      | none => simp
      | some bind =>
          dsimp only
          by_cases hc : p.clientId = c
          · simp [hc]
          · rw [if_neg hc]
            by_cases hbit : bind.mask &&& mask ≠ 0
            · rw [if_pos hbit]
              simp [hc, Bind.mask_and_ne_zero.mp hbit]
            · rw [if_neg hbit]
              simp [hc, mt Bind.mask_and_ne_zero.mpr hbit]

theorem directTargets_sender (h : (directTargets game c mask).1 = some p) :
    p ∈ game.players ∧ p.clientId = c := by
  rw [directTargets_eq] at h
  have hp := List.mem_filter.mp (List.mem_of_getLast? h)
  exact ⟨hp.1, (of_decide_eq_true hp.2).2⟩

theorem mem_directTargets : x ∈ (directTargets game c mask).2 ↔
    x ≠ c ∧ ∃ q ∈ game.players, q.clientId = x ∧ q.maskedBy mask := by
  rw [directTargets_eq]
  simp only [List.mem_map, List.mem_filter, decide_eq_true_eq]
  constructor
  · rintro ⟨q, ⟨hq, hne, hbit⟩, rfl⟩
    exact ⟨hne, q, hq, rfl, hbit⟩
  · rintro ⟨hne, q, hq, rfl, hbit⟩
    exact ⟨q, ⟨hq, hne, hbit⟩, rfl⟩

end

def limitMsgLen : Nat := 140

/-- A message that is too long is cut and ends in an ellipsis. -/
def limitMsg (msg : Bytes) : Bytes :=
  if limitMsgLen < msg.length then msg.take (limitMsgLen - 3 - 1) ++ ascii "..." ++ [0] else msg

def directSending (srv : Server) (packet : Packet) (clientId : ClientID) : Option Reply :=
  if packet.data.length < 4 + 1 + 1 then srv.fail (.directSending .parse)
  else
    match srv.getGameByClientid clientId with
    | none => srv.fail (.directSending (.clientIsOutOfGames clientId))
    | some (_, game) => do
      let mask ← sliceLeToU32 (← slice packet.data 0 4)
      match (directTargets game clientId mask).1 with
      | none => srv.fail (.directSending (.playerNotFound clientId game.id))
      | some player =>
        match player.bindId, player.auth with
        | some playerId, some _ =>
          match getFirstCstr (← sliceFrom packet.data 4) with
          | none => srv.fail (.directSending .string)
          | some msg =>
            match packet.createAnswer ([playerId] ++ limitMsg msg) with
            | none => srv.fail (.responsePacketTypeNotExist packet.action)
            | some answer => srv.complete (srv.sendTo (directTargets game clientId mask).2 answer)
        | _, _ => srv.fail (.directSending (.playerNotBind clientId game.id))

end Server

end VangersSrv
