/-
Joining a game and describing oneself: `attach_to_game.rs`, `restore_connection.rs`,
`register_name.rs`, `set_player_data.rs`, `set_position.rs`, `set_game_data.rs`,
`get_game_data.rs`.
-/
import VangersSrv.Server.State

namespace VangersSrv

/-! ### attach_to_game -/

/-- One round of the loop that fills the table of id offsets.  The index has six bits
and the table sixteen entries: an object of the new player with a larger type panics. -/
def recordOffset (playerId : UInt8) (offsets : List U16) (id : I32) (v : Vanject) :
    Option (List U16) :=
  let index := ((id.sshiftRight 16) &&& 63#32).toNat
  let counter := (id &&& 0xffff#32).setWidth 16
  if v.getStation = asI32 playerId then
    match offsets[index]? with
    | none => none
    | some current => if current < counter then some (offsets.set index counter) else some offsets
  else some offsets

/-- The table of id offsets, one per object type. -/
def idOffsets (playerId : UInt8) (vanjects : Vanjects) : Option (List U16) :=
  vanjects.entries.foldlM (fun offsets e => recordOffset playerId offsets e.1 e.2)
    (List.replicate 16 0)

def offsetsBytes (offsets : List U16) : Bytes :=
  offsets.flatMap fun o => toLeBytes16 (if o ≠ 0 then o + 1 else o)

namespace Server

/-- The game a request names: id 0 asks for a new one. -/
def requestedGame (env : Env) (srv : Server) (requested : I32) : Server × GameID :=
  if requested = 0 then
    let counted := srv.getGameUniqId
    (counted.1.createGame env.now counted.2, counted.2)
  else (srv, requested)

theorem requestedGame_of_ne {env : Env} {srv : Server} {requested : I32} (h : requested ≠ 0) :
    srv.requestedGame env requested = (srv, requested) :=
  if_neg h

/-- The counter has come round to a game that is still there. -/
theorem requestedGame_taken {env : Env} {srv : Server} (h : srv.gamesIdUniq + 1 ∈ srv.games) :
    srv.requestedGame env 0
      = ({ srv with gamesIdUniq := srv.gamesIdUniq + 1 }, srv.gamesIdUniq + 1) := by
  have hin : srv.getGameUniqId.2 ∈ srv.getGameUniqId.1.games := h
  unfold requestedGame
  rw [if_pos rfl]
  exact Prod.ext (if_pos hin) rfl

/-- A fresh id gets an empty game. -/
theorem requestedGame_fresh {env : Env} {srv : Server} (h : srv.gamesIdUniq + 1 ∉ srv.games) :
    srv.requestedGame env 0
      = ({ srv with
            games := srv.games.insert (srv.gamesIdUniq + 1) (Game.new (srv.gamesIdUniq + 1) env.now)
            gamesIdUniq := srv.gamesIdUniq + 1 }, srv.gamesIdUniq + 1) := by
  have hin : srv.getGameUniqId.2 ∉ srv.getGameUniqId.1.games := h
  unfold requestedGame
  rw [if_pos rfl]
  exact Prod.ext (if_neg hin) rfl

theorem requestedGame_clients {env : Env} {srv : Server} {requested : I32} :
    (srv.requestedGame env requested).1.clients = srv.clients := by
  by_cases h0 : requested = 0
  · subst h0
    by_cases hin : srv.gamesIdUniq + 1 ∈ srv.games
    · rw [requestedGame_taken hin]
    · rw [requestedGame_fresh hin]
  · rw [requestedGame_of_ne h0]

/-- The game that is found is one the server has, or the empty one that was just made. -/
theorem requestedGame_cases {env : Env} {srv : Server} {requested : I32} {found : Game}
    (hfound : (srv.requestedGame env requested).1.games.lookup
      (srv.requestedGame env requested).2 = some found) :
    (∃ key n, srv.requestedGame env requested = ({ srv with gamesIdUniq := n }, key) ∧
        srv.games.lookup key = some found) ∨
      ∃ key n, srv.requestedGame env requested
          = ({ srv with games := srv.games.insert key (Game.new key env.now), gamesIdUniq := n }, key) ∧
        key ∉ srv.games ∧ found = Game.new key env.now := by
  by_cases h0 : requested = 0
  · subst h0
    by_cases hin : srv.gamesIdUniq + 1 ∈ srv.games
    · rw [requestedGame_taken hin] at hfound
      exact Or.inl ⟨_, _, requestedGame_taken hin, hfound⟩
    · rw [requestedGame_fresh hin] at hfound
      simp only [AList.lookup_insert, Option.some.injEq] at hfound
      exact Or.inr ⟨_, _, requestedGame_fresh hin, hin, hfound.symm⟩
  · rw [requestedGame_of_ne h0] at hfound
    exact Or.inl ⟨_, _, requestedGame_of_ne h0, hfound⟩

def attachToGame (env : Env) (srv : Server) (packet : Packet) (clientId : ClientID) :
    Option Reply :=
  if packet.data.length ≠ 4 then srv.fail (.attachToGame .idEmpty)
  else do
    let requested ← sliceLeToI32 packet.data
    let srv' := (srv.requestedGame env requested).1
    let gmid := (srv.requestedGame env requested).2
    match srv'.games.lookup gmid with
    | none => srv'.fail (.attachToGame (.notExists gmid))
    | some found =>
      match ← found.attachPlayer (Player.new clientId) with
      | none => srv'.fail (.attachToGame (.full found.id))
      | some (game, playerId) => do
        let srv'' := srv'.setGame gmid game
        let offsets ← idOffsets playerId game.vanjects
        let data := toLeBytes32 game.id ++ [if game.isConfigured then 1 else 0]
          ++ toLeBytes32 (game.birthTime.asSecsU32 env.now) ++ [playerId] ++ offsetsBytes offsets
        let packets ← (game.vanjects.values.filter fun v => !v.isNonGlobal).mapM fun v =>
          Packet.new .updateObject v.toVangersByte
        let answer := (packet.createAnswer data).toList
        let time ← Packet.new .zTimeResponse (toLeBytes32 env.unix)
        srv''.complete ((answer ++ [time] ++ packets).flatMap (srv''.notifyPlayer clientId))

/-! ### restore_connection -/

/-- `self.clients.retain(|client| client.id != id)` -/
def dropClient (srv : Server) (id : ClientID) : Server :=
  { srv with clients := srv.clients.filter fun c => c.id ≠ id }

def restoreConnection (srv : Server) (packet : Packet) (clientId : ClientID) : Option Reply :=
  if packet.data.length ≠ 5 then srv.fail (.restoreConnection .payloadInvalid)
  else do
    let gameId ← sliceLeToI32 (← slice packet.data 0 4)
    let playerId ← packet.data[4]?
    let isRestored : Player → Bool := fun p => p.bindId = some playerId
    match srv.games.lookup gameId with
    | none => do
      let answer ← Packet.new .restoreConnectionResponse [0]
      some { srv, sent := [], result := .ok (.response answer) }
    | some game =>
      match game.players.find? isRestored with
      | none => do
        let answer ← Packet.new .restoreConnectionResponse [0]
        some { srv, sent := [], result := .ok (.response answer) }
      | some player => do
        let players := game.players.modifyFirst isRestored fun p =>
          { p with clientId, disconnectedUntil := none }
        let restored := srv.setGame gameId { game with players }
        let answer ← Packet.new .restoreConnectionResponse [1]
        some {
          srv := if player.clientId ≠ clientId then restored.dropClient player.clientId else restored
          sent := []
          result := .ok (.response answer) }

/-! ### register_name -/

/-- The name and the password of a request, without their terminators. -/
def extractAuthData (data : Bytes) : Except RegisterNameError (Bytes × Bytes) :=
  match cstrUntilNul data with
  | none => .error .nameOrPasswordParse
  | some name =>
    if name = [] then .error .nameIsNull
    else if data.length ≤ (withNul name).length then .error .nameOrPasswordParse
    else
      match cstrUntilNul (data.drop (withNul name).length) with
      | none => .error .nameOrPasswordParse
      | some pwd =>
        let cut := if 16 < name.length then name.take 15 else name
        -- filter non-printable ascii
        let clean :=
          if cut.any fun c => c < 32 || c = 127 then
            cut.map fun c => if c = 127 ∨ (0 < c ∧ c < 32) then 42 else c
          else cut
        .ok (clean, pwd)

def registerName (env : Env) (srv : Server) (packet : Packet) (clientId : ClientID) :
    Option Reply :=
  match srv.getGameByClientid clientId with
  | none => srv.fail (.registerName (.playerNotFound clientId))
  | some (key, game) => do
    let player ← game.getPlayer clientId
    match player.bindId with
    | none => srv.fail (.registerName (.playerNotBind clientId))
    | some playerBindId =>
      match extractAuthData packet.data with
      | .error err => srv.fail (.registerName err)
      | .ok (login, _) => do
        let player' ← player.setAuth env.randomName (withNul login)
        let srv' := srv.setGame key (game.modifyPlayer clientId fun _ => player')
        let answer ← packet.createAnswer ([playerBindId] ++ withNul login)
        srv'.complete (srv'.notifyGame clientId answer)

/-! ### set_player_data -/

/-- A body that does not parse is stored as `None` before the error is returned. -/
def setPlayerData (srv : Server) (packet : Packet) (clientId : ClientID) : Option Reply :=
  match srv.getGameByClientid clientId with
  | none => srv.fail (.setPlayerData (.playerNotFound clientId))
  | some (key, game) => do
    let player ← game.getPlayer clientId
    let (player', parsed) ← player.setBody packet.data
    let srv' := srv.setGame key (game.modifyPlayer clientId fun _ => player')
    if parsed then
      match player'.bindId with
      | none => srv'.fail (.setPlayerData (.playerNotBind clientId))
      | some playerId =>
        match packet.createAnswer ([playerId] ++ packet.data) with
        | none => srv'.fail (.responsePacketTypeNotExist packet.action)
        | some answer => srv'.complete (srv'.notifyGame clientId answer)
    else srv'.fail (.setPlayerData (.sliceToBodyParse game.getGmtype))

/-! ### set_position -/

def setPosition (srv : Server) (packet : Packet) (clientId : ClientID) : Option Reply :=
  if packet.data.length ≠ 6 then
    srv.fail (.setPosition (.invalidPayloadSize 6 packet.data.length))
  else do
    let x ← sliceLeToI16 (← slice packet.data 0 2)
    let y ← sliceLeToI16 (← slice packet.data 2 4)
    let screenYHalfSize ← sliceLeToI16 (← slice packet.data 4 6)
    match srv.getGameByClientid clientId with
    | none => srv.fail (.setPosition (.playerNotFound clientId))
    | some (key, game) =>
      match game.getPlayer clientId with
      | none => srv.fail (.setPosition (.playerNotFound clientId))
      | some player =>
        if player.world = none then srv.complete []
        else
          (srv.setGame key (game.modifyPlayer clientId fun p =>
            { p with pos := { x, y }, screenYHalfSize })).complete []

/-! ### set_game_data -/

def setGameData (srv : Server) (packet : Packet) (clientId : ClientID) : Option Reply :=
  match srv.getGameByClientid clientId with
  | none => srv.fail (.setGameData (.playerNotFound clientId))
  | some (key, game) =>
    if game.isConfigured then srv.fail (.setGameData (.alreadyConfigured game.id))
    else
      match cstrUntilNul packet.data with
      | none => srv.fail (.setGameData .nameParse)
      | some name =>
        if name = [] then srv.fail (.setGameData .nameEmpty)
        else do
          let (game', result) ← game.setConfig (← sliceFrom packet.data (withNul name).length)
          match result with
          | .error text => (srv.setGame key game').fail (.setGameData (.sliceToGameConfigParse text))
          | .ok () => (srv.setGame key { game' with name := withNul name }).complete []

/-! ### get_game_data -/

def getGameData (srv : Server) (packet : Packet) (clientId : ClientID) : Option Reply :=
  match srv.getGameByClientid clientId with
  | none => srv.fail (.getGameData (.playerNotFound clientId))
  | some (_, game) =>
    match game.config with
    | none => srv.fail (.getGameData (.notConfigured game.id))
    | some config => srv.respond packet (game.name ++ config.toVangersByte)

end Server

end VangersSrv
