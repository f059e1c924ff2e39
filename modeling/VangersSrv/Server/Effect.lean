/-
What a packet can do to the server.

`Effect` lists, once and for all handlers, every way the state can change and what is
sent on the occasion; `Handled` is one effect, or leaving a world or a change of
the player first and an effect after it.  `onUpdate_handled` says that `on_update`
does nothing else.  Every invariant is then a case analysis on `Effect`, and no proof
outside this file unfolds a handler.
-/
import VangersSrv.Server.Loop

namespace VangersSrv

/-! ### Acting players -/

/-- The player a connection speaks for, its game and its number there: the first
match in the first game that has one. -/
structure Acting (srv : Server) (c : ClientID) (key : GameID) (game : Game) (player : Player)
    (bind : UInt8) : Prop where
  inGame : srv.getGameByClientid c = some (key, game)
  found : game.getPlayer c = some player
  bound : player.bindId = some bind

/-- Two readings of who acts are one. -/
theorem Acting.unique {srv : Server} {c : ClientID} {key key' : GameID} {game game' : Game}
    {player player' : Player} {bind bind' : UInt8} (h : Acting srv c key game player bind)
    (h' : Acting srv c key' game' player' bind') :
    key = key' ∧ game = game' ∧ player = player' ∧ bind = bind' := by
  have hgame := h.inGame.symm.trans h'.inGame
  simp only [Option.some.injEq, Prod.mk.injEq] at hgame
  obtain ⟨rfl, rfl⟩ := hgame
  have hplayer := Option.some.inj (h.found.symm.trans h'.found)
  subst hplayer
  exact ⟨rfl, rfl, rfl, Option.some.inj (h.bound.symm.trans h'.bound)⟩

/-- A write to the store is found again. -/
theorem Acting.withVanjects {srv : Server} {c : ClientID} {key : GameID} {game : Game}
    {player : Player} {bind : UInt8} (h : Acting srv c key game player bind) (vanjects : Vanjects) :
    (srv.setGame key { game with vanjects }).getGameByClientid c
      = some (key, { game with vanjects }) :=
  Server.getGameByClientid_setGame h.inGame ⟨player, h.found⟩

/-- A packet that tells nothing about an object. -/
def Packet.Quiet (p : Packet) : Prop :=
  p.action ∉ [Action.updateObject, .deleteObject, .hideObject, .itemState, .itemRemoved,
    .worldSnapshotBegin]

instance (p : Packet) : Decidable p.Quiet := by
  unfold Packet.Quiet
  infer_instance

/-! ### Games after an effect -/

namespace Game

/-- The game after a player joined it under a free number. -/
def joined (g : Game) (c : ClientID) (b : Bind) : Game :=
  { g with
    removedPlayers := g.removedPlayers.filter fun r => r.bindId ≠ b.id
    players := g.players ++ [{ Player.new c with bind := some b }] }

/-- The game after a connection took over the player with a number. -/
def restored (g : Game) (c : ClientID) (playerId : UInt8) : Game :=
  { g with
    players := g.players.modifyFirst (fun p => p.bindId = some playerId) fun p =>
      { p with clientId := c, disconnectedUntil := none } }

/-- The game after a player left its world. -/
def left (g : Game) (c : ClientID) (b : UInt8) : Game :=
  { g.modifyPlayer c fun p => { p with world := none } with
    vanjects := g.vanjects.retain fun _ v => !shouldDeleteOnLeaveWorld v b }

/-- The game after a player entered a world. -/
def entered (g : Game) (c : ClientID) (worlds : List World) (w : World) : Game :=
  { g.modifyPlayer c fun p => { p with world := some w, status := .gaming } with worlds }

/-- The game after a player closed its socket. -/
def closed (g : Game) (c : ClientID) (p : Player) : Game :=
  { g.without c with removedPlayers := rememberPlayer g.removedPlayers (finishPlayer p) }

end Game

/-! ### Effects -/

/-- What a packet changes of the player that sent it. -/
inductive PlayerChange (env : Env) (packet : Packet) (game : Game) (player : Player) : Player → Prop
  | named {name pwd : Bytes} (haction : packet.action = .registerName)
      (hdata : Server.extractAuthData packet.data = .ok (name, pwd)) :
      PlayerChange env packet game player
        { player with auth := some (Auth.new env.randomName (withNul name)) }
  /-- A body that does not parse is stored as none. -/
  | described {body : Option Body} (haction : packet.action = .setPlayerData)
      (hbody : Body.fromSlice packet.data = some body) :
      PlayerChange env packet game player { player with body }
  | moved {pos : Pos} {screenYHalfSize : I16} (haction : packet.action = .setPosition) :
      PlayerChange env packet game player { player with pos, screenYHalfSize }
  /-- A new VANGER carries its player's body. -/
  | embodied {v : Vanject} {body : Option Body} (haction : packet.action = .createObject)
      (hparse : Vanject.createFromSlice packet.data = some (.ok v))
      (htype : v.getType = NID.vanger) (hnew : game.vanjects.lookup v.id = none)
      (hbody : Body.fromSlice v.body = some body) :
      PlayerChange env packet game player { player with pos := v.pos, body }

/-- The configuration and the name of a game after a request to set them. -/
inductive GameChange (packet : Packet) (game : Game) : Option Config → Bytes → Prop
  | configured {name rest : Bytes} {config : Config}
      (hname : cstrUntilNul packet.data = some name) (hne : name ≠ [])
      (hrest : sliceFrom packet.data (withNul name).length = some rest)
      (hconfig : Config.fromSlice rest = some (some config)) :
      GameChange packet game (some config) (withNul name)
  | refused {name rest : Bytes}
      (hname : cstrUntilNul packet.data = some name)
      (hrest : sliceFrom packet.data (withNul name).length = some rest)
      (hconfig : Config.fromSlice rest = some none) :
      GameChange packet game none game.name

/-- What can come before another effect of the same packet. -/
inductive Prelude (env : Env) (packet : Packet) (c : ClientID) :
    Server → List Sent → Server → Prop
  /-- The player's own data changed. -/
  | playerChanged {srv : Server} {sent : List Sent} {key : GameID} {game : Game}
      {player player' : Player}
      (hgame : srv.getGameByClientid c = some (key, game))
      (hplayer : game.getPlayer c = some player)
      (hclient : player'.clientId = player.clientId) (hbind : player'.bind = player.bind)
      (hworld : player'.world = player.world)
      (hdeadline : player'.disconnectedUntil = player.disconnectedUntil)
      (hquiet : ∀ s ∈ sent, s.packet.Quiet)
      (hchange : PlayerChange env packet game player player') :
      Prelude env packet c srv sent (srv.setGame key (game.modifyPlayer c fun _ => player'))
  /-- The player left its world; what goes with it is deleted for the whole game. -/
  | left {srv : Server} {key : GameID} {game : Game} {player : Player} {bind : UInt8}
      {world : World} {deletes : List (I32 × Packet)} {playersWorld : Packet}
      (haction : packet.action ∈ [Action.leaveWorld, .setWorld, .closeSocket])
      (hother : packet.action = .setWorld → packet.data[0]? ≠ some world.id)
      (hacting : Acting srv c key game player bind)
      (hworld : player.world = some world)
      (hdeletes : leaveDeletes game.vanjects bind = some deletes)
      (hquiet : playersWorld.Quiet) :
      Prelude env packet c srv
        ((env.drain deletes).flatMap (fun e => (srv.setGame key (game.left c bind)).notifyGame c e.2)
          ++ (srv.setGame key (game.left c bind)).notifyGame c playersWorld)
        (srv.setGame key (game.left c bind))

/-- Every way a packet of a connection changes the state. -/
inductive Effect (env : Env) (packet : Packet) (c : ClientID) :
    Server → List Sent → Server → Prop
  | prelude {srv srv' : Server} {sent : List Sent} (h : Prelude env packet c srv sent srv') :
      Effect env packet c srv sent srv'
  /-- Nothing changed and nothing was told about an object. -/
  | quiet {srv : Server} {sent : List Sent} (hquiet : ∀ s ∈ sent, s.packet.Quiet) :
      Effect env packet c srv sent srv
  /-- The game was named or configured. -/
  | gameChanged {srv : Server} {key : GameID} {game : Game} {config : Option Config} {name : Bytes}
      (hgame : srv.getGameByClientid c = some (key, game))
      (haction : packet.action = .setGameData) (hunconfigured : game.config = none)
      (hchange : GameChange packet game config name) :
      Effect env packet c srv [] (srv.setGame key { game with config, name })
  /-- A new game was asked for when the counter had come round to a game that is full. -/
  | counted {srv : Server} (haction : packet.action = .attachToGame)
      (hrequested : sliceLeToI32 packet.data = some 0)
      (htaken : srv.gamesIdUniq + 1 ∈ srv.games) :
      Effect env packet c srv [] { srv with gamesIdUniq := srv.gamesIdUniq + 1 }
  | attached {srv : Server} {sent : List Sent} {requested : I32} {found : Game} {bind : Bind}
      (haction : packet.action = .attachToGame)
      (hrequested : sliceLeToI32 packet.data = some requested)
      (hfound : (srv.requestedGame env requested).1.games.lookup
        (srv.requestedGame env requested).2 = some found)
      (hfree : found.getUniqPlayerId = some bind.id)
      (hclient : ∀ s ∈ sent, s.client = c)
      (hpackets : ∀ s ∈ sent, s.packet.Quiet ∨ ∃ id v, found.vanjects.lookup id = some v ∧
        v.isNonGlobal = false ∧ Packet.new .updateObject v.toVangersByte = some s.packet) :
      Effect env packet c srv sent
        ((srv.requestedGame env requested).1.setGame (srv.requestedGame env requested).2
          (found.joined c bind))
  | restored {srv srv' : Server} {gameId : GameID} {playerId : UInt8} {game : Game}
      {player : Player} (haction : packet.action = .restoreConnection)
      (hdata : packet.data = toLeBytes32 gameId ++ [playerId])
      (hlookup : srv.games.lookup gameId = some game)
      (hfind : game.players.find? (fun p => p.bindId = some playerId) = some player)
      (hsrv : srv' = if player.clientId ≠ c then
          (srv.setGame gameId (game.restored c playerId)).dropClient player.clientId
        else srv.setGame gameId (game.restored c playerId)) :
      Effect env packet c srv [] srv'
  /-- A create request for a stored id is answered with the stored object. -/
  | replayed {srv : Server} {key : GameID} {game : Game} {id : I32} {existing : Vanject}
      {packets : List Packet}
      (hgame : srv.getGameByClientid c = some (key, game))
      (hlookup : game.vanjects.lookup id = some existing)
      (hpackets : replayPackets existing = some packets) :
      Effect env packet c srv (packets.flatMap (srv.notifyPlayer c)) srv
  | created {srv : Server} {sent : List Sent} {key : GameID} {game : Game} {player : Player}
      {bind : UInt8} {v : Vanject} (haction : packet.action = .createObject)
      (hacting : Acting srv c key game player bind)
      (hparse : Vanject.createFromSlice packet.data = some (.ok v))
      (hnew : game.vanjects.lookup v.id = none)
      (hpaired : isItemVanject v = true → itemHasPairedVanject v game.vanjects = none)
      (hsent : (∃ answer, statePacket { v with playerBindId := bind } = some answer ∧
          sent = srv.notifyObject c v.id answer) ∨
        (v.getType = NID.vanger ∧ v.body.length < Body.getBaseStructSize ∧ sent = [])) :
      Effect env packet c srv sent
        (srv.setGame key
          { game with vanjects := game.vanjects.insert v.id { v with playerBindId := bind } })
  | updated {srv : Server} {key : GameID} {game : Game} {player : Player} {bind : UInt8}
      {id : I32} {old new : Vanject} {answer : Packet} {realtime : Bool}
      (haction : packet.action = .updateObject)
      (hacting : Acting srv c key game player bind)
      (hid : sliceLeToI32 (packet.data.take 4) = some id)
      (hlookup : game.vanjects.lookup id = some old)
      (hpassed : updateRejection old id c bind player.worldId = none)
      (hparse : old.updateFromSlice packet.data = some (.ok new))
      (hanswer : statePacket { new with playerBindId := bind } = some answer) :
      Effect env packet c srv
        ((srv.setGame key { game with
            vanjects := game.vanjects.replace id { new with playerBindId := bind } }).notifyObject
          c new.id answer realtime)
        (srv.setGame key { game with
          vanjects := game.vanjects.replace id { new with playerBindId := bind } })
  | deleted {srv : Server} {key : GameID} {game : Game} {player : Player} {bind : UInt8}
      {id : I32} {v : Vanject} {answer : Packet}
      (haction : packet.action = .deleteObject)
      (hacting : Acting srv c key game player bind)
      (hlookup : game.vanjects.lookup id = some v) (howner : v.playerBindId = bind)
      (hanswer : (isItemVanject v = true ∧ itemRemovedPacket v itemRemovedReasonDelete = some answer)
        ∨ deletePacket packet id bind = some answer)
      (hid : sliceLeToI32 (packet.data.take 4) = some id)
      (hitem : isItemVanject v = true →
        itemRemovedPacket v itemRemovedReasonDelete = some answer) :
      Effect env packet c srv
        ((srv.setGame key { game with vanjects := game.vanjects.erase id }).notifyObject c id answer)
        (srv.setGame key { game with vanjects := game.vanjects.erase id })
  /-- A delete request for a missing id is relayed. -/
  | deleteMissed {srv : Server} {key : GameID} {game : Game} {player : Player} {bind : UInt8}
      {id : I32} {answer : Packet} (haction : packet.action = .deleteObject)
      (hacting : Acting srv c key game player bind)
      (hmissing : game.vanjects.lookup id = none)
      (hanswer : deletePacket packet id bind = some answer)
      (hid : sliceLeToI32 (packet.data.take 4) = some id) :
      Effect env packet c srv ((srv.setGame key game).notifyObject c id answer)
        (srv.setGame key game)
  | transferred {srv : Server} {key : GameID} {game : Game} {player : Player}
      {bind world : UInt8} {t : ItemTransfer} {old : Vanject} {answer : Packet}
      (haction : packet.action = .itemTransfer)
      (hacting : Acting srv c key game player bind) (hworld : player.worldId = some world)
      (hparse : ItemTransfer.parse packet = some (.ok t)) (hvalid : t.validate = .ok ())
      (hpassed : t.check game.vanjects bind world = .ok old)
      (hanswer : itemStatePacket t.oldId { t.newVanject with playerBindId := bind } = some answer) :
      Effect env packet c srv
        ((srv.setGame key { game with
            vanjects := (game.vanjects.erase t.oldId).insert t.newVanject.id
              { t.newVanject with playerBindId := bind } }).notifyWorld c
          (worldOf t.newVanject.id) answer false)
        (srv.setGame key { game with
          vanjects := (game.vanjects.erase t.oldId).insert t.newVanject.id
            { t.newVanject with playerBindId := bind } })
  /-- The request of a player without a number still made a world. -/
  | worldMade {srv : Server} {key : GameID} {game : Game} {player : Player} {world : World}
      (hgame : srv.getGameByClientid c = some (key, game))
      (hplayer : game.getPlayer c = some player) (hunbound : player.bindId = none)
      (hnew : ∀ w ∈ game.worlds, w.id ≠ world.id) :
      Effect env packet c srv []
        (srv.setGame key { game with worlds := game.worlds ++ [world] })
  /-- The player entered a world and is sent a snapshot of it. -/
  | entered {srv : Server} {key : GameID} {game : Game} {player : Player} {bind : UInt8}
      {worlds : List World} {world : World} {pre : List Sent}
      {response snapshotBegin playersSnapshot snapshotEnd : Packet} {snapshot : List Packet}
      (haction : packet.action = .setWorld) (hdata : packet.data[0]? = some world.id)
      (hacting : Acting srv c key game player bind)
      (hworlds : (worlds = game.worlds ∧ world ∈ game.worlds) ∨
        (worlds = game.worlds ++ [world] ∧ ∀ w ∈ game.worlds, w.id ≠ world.id))
      (hsnapshot : (worldSnapshot game.vanjects world.id bind).mapM statePacket = some snapshot)
      (hpre : ∀ s ∈ pre, s.packet.Quiet) (hresponse : response.Quiet)
      (hbegin : snapshotBegin.action = .worldSnapshotBegin)
      (hplayers : playersSnapshot.Quiet) (hend : snapshotEnd.Quiet) :
      Effect env packet c srv
        (pre ++ ([response, snapshotBegin, playersSnapshot] ++ snapshot ++ [snapshotEnd]).flatMap
          ((srv.setGame key (game.entered c worlds world)).notifyPlayer c))
        (srv.setGame key (game.entered c worlds world))
  | closed {srv : Server} {sent : List Sent} {key : GameID} {game : Game} {player : Player}
      {bind : UInt8} (haction : packet.action = .closeSocket)
      (hacting : Acting srv c key game player bind)
      (hothers : (game.closed c player).players ≠ [])
      (hquiet : ∀ s ∈ sent, s.packet.Quiet) :
      Effect env packet c srv sent (srv.setGame key (game.closed c player))
  /-- The last player took the game with it. -/
  | closedLast {srv : Server} {sent : List Sent} {key : GameID} {game : Game} {player : Player}
      {bind : UInt8} (haction : packet.action = .closeSocket)
      (hacting : Acting srv c key game player bind)
      (hothers : (game.closed c player).players = [])
      (hquiet : ∀ s ∈ sent, s.packet.Quiet) :
      Effect env packet c srv sent
        { srv with games := (srv.games.replace key (game.closed c player)).erase game.id }

/-- One effect, or two when a prelude comes first: a VANGER moves its player before it is
created, and a player leaves its world before it enters another or closes its socket. -/
inductive Handled (env : Env) (packet : Packet) (c : ClientID) :
    Server → List Sent → Server → Prop
  | one {srv srv' : Server} {sent : List Sent} (h : Effect env packet c srv sent srv') :
      Handled env packet c srv sent srv'
  | two {srv mid srv' : Server} {s₁ s₂ : List Sent}
      (haction : packet.action ∈ [Action.createObject, .setWorld, .closeSocket])
      (h₁ : Prelude env packet c srv s₁ mid)
      (h₂ : Effect env packet c mid s₂ srv') :
      Handled env packet c srv (s₁ ++ s₂) srv'

end VangersSrv
