/-
Who is connected matters only for who hears.

A handler reads the list of clients for one thing: it sends to those of them that it names.  So
where only some of the clients are connected (`Server.among`) every handler leaves the same
games behind, returns the same result and sends what those clients would have been sent
anyway.  One lemma for each handler says so, and `onUpdate_among` for all of them.
-/
import VangersSrv.Server.Loop

namespace VangersSrv

/-- The server with no clients but those of a group. -/
def Server.among (mine : ClientID → Bool) (srv : Server) : Server :=
  { srv with clients := srv.clients.filter fun client => mine client.id }

/-- The packets that go to clients of a group. -/
def heardBy (mine : ClientID → Bool) (sent : List Sent) : List Sent :=
  sent.filter fun s => mine s.client

def Reply.among (mine : ClientID → Bool) (r : Reply) : Reply :=
  { r with srv := r.srv.among mine, sent := heardBy mine r.sent }

/-- The second reply is the first one among the group. -/
def Echoes (mine : ClientID → Bool) (x y : Option Reply) : Prop := y = x.map (Reply.among mine)

section

variable {mine : ClientID → Bool} {env : Env} {packet p : Packet} {c id : ClientID} {srv : Server}
  {key : GameID} {game : Game} {sent sent' : List Sent} {realtime : Bool}

/-! ### What is heard -/

@[simp] theorem heardBy_nil : heardBy mine [] = [] := rfl

theorem heardBy_append : heardBy mine (sent ++ sent') = heardBy mine sent ++ heardBy mine sent' :=
  List.filter_append ..

theorem heardBy_flatMap {α : Type} (l : List α) (f : α → List Sent) :
    heardBy mine (l.flatMap f) = l.flatMap fun a => heardBy mine (f a) := by
  induction l with
  | nil => rfl
  | cons a rest ih => rw [List.flatMap_cons, List.flatMap_cons, heardBy_append, ih]

/-- Who hears nothing among the packets. -/
theorem heardBy_eq_nil (h : ∀ s ∈ sent, mine s.client = false) : heardBy mine sent = [] :=
  List.filter_eq_nil_iff.mpr fun s hs => by simp [h s hs]

/-! ### The server among a group -/

@[simp] theorem among_games : (srv.among mine).games = srv.games := rfl

theorem getGameByClientid_among : (srv.among mine).getGameByClientid c = srv.getGameByClientid c := rfl

theorem setGame_among : (srv.among mine).setGame key game = (srv.setGame key game).among mine := rfl

theorem dropClient_among : (srv.among mine).dropClient c = (srv.dropClient c).among mine := by
  have hclients : (srv.clients.filter fun client => mine client.id).filter (fun x => x.id ≠ c)
      = (srv.clients.filter fun x => x.id ≠ c).filter fun client => mine client.id := by
    simp only [List.filter_filter, Bool.and_comm]
  exact congrArg (fun clients => { srv with clients }) hclients

theorem sendTo_among {ids : List ClientID} :
    (srv.among mine).sendTo ids p realtime = heardBy mine (srv.sendTo ids p realtime) := by
  show ((srv.clients.filter _).filter _).map _ = ((srv.clients.filter _).map _).filter _
  rw [List.filter_map, List.filter_filter, List.filter_filter]
  simp only [Function.comp_def, Bool.and_comm]

theorem notify_among {filter : ClientID → Bool} :
    (srv.among mine).notify c p filter realtime = heardBy mine (srv.notify c p filter realtime) := by
  unfold Server.notify
  rw [getGameByClientid_among]
  cases srv.getGameByClientid c with
  | none => rfl
  | some found => exact sendTo_among

theorem notifyPlayer_among : (srv.among mine).notifyPlayer c p = heardBy mine (srv.notifyPlayer c p) :=
  notify_among

theorem notifyGame_among : (srv.among mine).notifyGame c p = heardBy mine (srv.notifyGame c p) :=
  notify_among

theorem notifyAll_among : (srv.among mine).notifyAll c p = heardBy mine (srv.notifyAll c p) :=
  notify_among

theorem notifyWorld_among {w : UInt8} {includeSender : Bool} :
    (srv.among mine).notifyWorld c w p includeSender realtime
      = heardBy mine (srv.notifyWorld c w p includeSender realtime) := by
  unfold Server.notifyWorld
  rw [getGameByClientid_among]
  cases srv.getGameByClientid c with
  | none => rfl
  | some found => exact sendTo_among

theorem notifyObject_among {id : I32} :
    (srv.among mine).notifyObject c id p realtime
      = heardBy mine (srv.notifyObject c id p realtime) := by
  rw [Server.notifyObject_eq, Server.notifyObject_eq]
  split
  · exact notifyWorld_among
  · exact notify_among

/-- The packets that one player is sent one after the other. -/
theorem flatMap_notifyPlayer_among {packets : List Packet} :
    packets.flatMap ((srv.among mine).notifyPlayer c)
      = heardBy mine (packets.flatMap (srv.notifyPlayer c)) := by
  rw [heardBy_flatMap]
  exact List.flatMap_congr fun _ _ => notifyPlayer_among

/-! ### Replies -/

namespace Echoes

theorem fail {err : OnUpdateError} : Echoes mine (srv.fail err) ((srv.among mine).fail err) := rfl

theorem complete :
    Echoes mine (srv.complete sent) ((srv.among mine).complete (heardBy mine sent)) := rfl

theorem answer {answer : Packet} :
    Echoes mine (some { srv, sent := [], result := .ok (.response answer) })
      (some { srv := srv.among mine, sent := [], result := .ok (.response answer) }) := rfl

theorem respond {data : Bytes} :
    Echoes mine (srv.respond packet data) ((srv.among mine).respond packet data) := by
  unfold Server.respond
  cases packet.createAnswer data with
  | none => exact fail
  | some answer => exact Echoes.answer

theorem bind {α : Type} {x : Option α} {f g : α → Option Reply}
    (h : ∀ a, x = some a → Echoes mine (f a) (g a)) : Echoes mine (x.bind f) (x.bind g) := by
  cases x with
  | none => rfl
  | some a => exact h a rfl

/-- What was sent before comes first. -/
theorem prepend {x y : Option Reply} (h : Echoes mine x y) :
    Echoes mine (x.bind fun r => some { r with sent := sent ++ r.sent })
      (y.bind fun r => some { r with sent := heardBy mine sent ++ r.sent }) := by
  subst h
  cases x with
  | none => rfl
  | some r =>
      show some _ = some _
      simp [Reply.among, heardBy_append]

end Echoes

/-! ### Sessions -/

theorem requestedGame_among {requested : I32} :
    (srv.among mine).requestedGame env requested
      = ((srv.requestedGame env requested).1.among mine, (srv.requestedGame env requested).2) := by
  by_cases h0 : requested = 0
  · subst h0
    by_cases hin : srv.gamesIdUniq + 1 ∈ srv.games
    · have hamong : (srv.among mine).gamesIdUniq + 1 ∈ (srv.among mine).games := hin
      rw [Server.requestedGame_taken hin, Server.requestedGame_taken hamong]
      rfl
    · have hamong : (srv.among mine).gamesIdUniq + 1 ∉ (srv.among mine).games := hin
      rw [Server.requestedGame_fresh hin, Server.requestedGame_fresh hamong]
      rfl
  · rw [Server.requestedGame_of_ne h0, Server.requestedGame_of_ne h0]

theorem attachToGame_among :
    Echoes mine (srv.attachToGame env packet c) ((srv.among mine).attachToGame env packet c) := by
  unfold Server.attachToGame
  by_cases hlen : packet.data.length ≠ 4
  · rw [if_pos hlen, if_pos hlen]
    exact .fail
  rw [if_neg hlen, if_neg hlen]
  refine .bind fun requested _ => ?_
  rw [requestedGame_among]
  dsimp only [among_games]
  cases (srv.requestedGame env requested).1.games.lookup (srv.requestedGame env requested).2 with
  | none => exact .fail
  | some found =>
      refine .bind fun attached _ => ?_
      cases attached with
      | none => exact .fail
      | some joined =>
          refine .bind fun offsets _ => .bind fun packets _ => .bind fun time _ => ?_
          rw [setGame_among, flatMap_notifyPlayer_among]
          exact .complete

theorem restoreConnection_among :
    Echoes mine (srv.restoreConnection packet c) ((srv.among mine).restoreConnection packet c) := by
  unfold Server.restoreConnection
  by_cases hlen : packet.data.length ≠ 5
  · rw [if_pos hlen, if_pos hlen]
    exact .fail
  rw [if_neg hlen, if_neg hlen]
  refine .bind fun data _ => .bind fun gameId _ => .bind fun playerId _ => ?_
  rw [among_games]
  cases srv.games.lookup gameId with
  | none => exact .bind fun answer _ => .answer
  | some game =>
      dsimp only
      cases game.players.find? fun p => p.bindId = some playerId with
      | none => exact .bind fun answer _ => .answer
      | some player =>
          refine .bind fun answer _ => ?_
          rw [setGame_among]
          by_cases hid : player.clientId ≠ c
          · rw [if_pos hid, if_pos hid, dropClient_among]
            exact .answer
          · rw [if_neg hid, if_neg hid]
            exact .answer

theorem registerName_among :
    Echoes mine (srv.registerName env packet c) ((srv.among mine).registerName env packet c) := by
  unfold Server.registerName
  rw [getGameByClientid_among]
  cases srv.getGameByClientid c with
  | none => exact .fail
  | some found =>
      refine .bind fun player _ => ?_
      cases player.bindId with
      | none => exact .fail
      | some playerBindId =>
          cases Server.extractAuthData packet.data with
          | error err => exact .fail
          | ok made =>
              refine .bind fun player' _ => .bind fun answer _ => ?_
              rw [setGame_among, notifyGame_among]
              exact .complete

/-! ### Describing oneself -/

theorem setPlayerData_among :
    Echoes mine (srv.setPlayerData packet c) ((srv.among mine).setPlayerData packet c) := by
  unfold Server.setPlayerData
  rw [getGameByClientid_among]
  cases srv.getGameByClientid c with
  | none => exact .fail
  | some found =>
      refine .bind fun player _ => .bind fun made _ => ?_
      obtain ⟨player', parsed⟩ := made
      dsimp only
      rw [setGame_among]
      cases parsed with
      | false => exact .fail
      | true =>
          rw [if_pos rfl, if_pos rfl]
          cases player'.bindId with
          | none => exact .fail
          | some playerId =>
              dsimp only
              cases packet.createAnswer ([playerId] ++ packet.data) with
              | none => exact .fail
              | some answer =>
                  dsimp only
                  rw [notifyGame_among]
                  exact .complete

theorem setPosition_among :
    Echoes mine (srv.setPosition packet c) ((srv.among mine).setPosition packet c) := by
  unfold Server.setPosition
  by_cases hlen : packet.data.length ≠ 6
  · rw [if_pos hlen, if_pos hlen]
    exact .fail
  rw [if_neg hlen, if_neg hlen, getGameByClientid_among]
  refine .bind fun _ _ => .bind fun x _ => .bind fun _ _ => .bind fun y _ => .bind fun _ _ =>
    .bind fun half _ => ?_
  cases srv.getGameByClientid c with
  | none => exact .fail
  | some found =>
      dsimp only
      cases found.2.getPlayer c with
      | none => exact .fail
      | some player =>
          dsimp only
          by_cases hworld : player.world = none
          · rw [if_pos hworld, if_pos hworld]
            exact .complete
          · rw [if_neg hworld, if_neg hworld, setGame_among]
            exact .complete

theorem setGameData_among :
    Echoes mine (srv.setGameData packet c) ((srv.among mine).setGameData packet c) := by
  unfold Server.setGameData
  rw [getGameByClientid_among]
  cases srv.getGameByClientid c with
  | none => exact .fail
  | some found =>
      dsimp only
      by_cases hconfigured : found.2.isConfigured = true
      · rw [if_pos hconfigured, if_pos hconfigured]
        exact .fail
      rw [if_neg hconfigured, if_neg hconfigured]
      cases cstrUntilNul packet.data with
      | none => exact .fail
      | some name =>
          dsimp only
          by_cases hname : name = []
          · rw [if_pos hname, if_pos hname]
            exact .fail
          rw [if_neg hname, if_neg hname]
          refine .bind fun data _ => .bind fun made _ => ?_
          obtain ⟨game', result⟩ := made
          cases result with
          | error text => exact .fail
          | ok _ => exact .complete

theorem getGameData_among :
    Echoes mine (srv.getGameData packet c) ((srv.among mine).getGameData packet c) := by
  unfold Server.getGameData
  rw [getGameByClientid_among]
  cases srv.getGameByClientid c with
  | none => exact .fail
  | some found =>
      dsimp only
      cases found.2.config with
      | none => exact .fail
      | some config => exact .respond

/-! ### Lists -/

theorem totalPlayersDataQuery_among :
    Echoes mine (srv.totalPlayersDataQuery c) ((srv.among mine).totalPlayersDataQuery c) := by
  unfold Server.totalPlayersDataQuery
  rw [getGameByClientid_among]
  cases srv.getGameByClientid c with
  | none => exact .fail
  | some found => exact .bind fun answer _ => .answer

theorem topListQuery_among :
    Echoes mine (srv.topListQuery env packet) ((srv.among mine).topListQuery env packet) := by
  unfold Server.topListQuery
  cases packet.data.head? with
  | none => exact .fail
  | some mpGame => exact .bind fun entries _ => .bind fun sorted _ => .respond

/-! ### Objects -/

theorem storeVanject_among {v : Vanject} :
    Echoes mine ((srv.storeVanject c v).bind fun stored => stored.complete sent)
      (((srv.among mine).storeVanject c v).bind fun stored =>
        stored.complete (heardBy mine sent)) := by
  unfold Server.storeVanject
  rw [getGameByClientid_among]
  cases srv.getGameByClientid c with
  | none => rfl
  | some found => exact .complete

theorem createAccepted_among {player : Player} {v : Vanject} :
    Echoes mine (srv.createAccepted c key game player v)
      ((srv.among mine).createAccepted c key game player v) := by
  unfold Server.createAccepted
  by_cases htype : v.getType = NID.vanger
  · rw [if_pos htype, if_pos htype]
    refine .bind fun made _ => ?_
    obtain ⟨player', parsed⟩ := made
    dsimp only
    rw [setGame_among]
    unfold Server.announceVanger
    cases parsed with
    | false =>
        show Echoes mine _ (Option.bind _ fun stored : Server => stored.complete (heardBy mine []))
        exact storeVanject_among
    | true =>
        cases Packet.new .updateObject v.toVangersByte with
        | none => rfl
        | some answer =>
            rw [if_pos rfl, if_pos rfl, Option.map_some, Option.map_some, notifyWorld_among]
            exact storeVanject_among
  · rw [if_neg htype, if_neg htype]
    refine .bind fun answer _ => ?_
    rw [notifyObject_among]
    exact storeVanject_among

theorem createObject_among :
    Echoes mine (srv.createObject packet c) ((srv.among mine).createObject packet c) := by
  unfold Server.createObject
  refine .bind fun parsed _ => ?_
  cases parsed with
  | error err => exact .fail
  | ok vanject =>
      dsimp only
      rw [getGameByClientid_among]
      cases srv.getGameByClientid c with
      | none => exact .fail
      | some found =>
          dsimp only
          cases found.2.vanjects.lookup vanject.id with
          | some existing =>
              refine .bind fun packets _ => ?_
              rw [flatMap_notifyPlayer_among]
              exact .complete
          | none =>
              dsimp only
              cases if isItemVanject vanject then itemHasPairedVanject vanject found.2.vanjects
                else none with
              | some pairedId => exact .fail
              | none =>
                  refine .bind fun player _ => ?_
                  cases player.bindVanject vanject with
                  | none => exact .fail
                  | some v => exact createAccepted_among

theorem updateObject_among :
    Echoes mine (srv.updateObject packet c) ((srv.among mine).updateObject packet c) := by
  unfold Server.updateObject
  by_cases hlen : packet.data.length < 4
  · rw [if_pos hlen, if_pos hlen]
    exact .fail
  rw [if_neg hlen, if_neg hlen, getGameByClientid_among]
  refine .bind fun data _ => .bind fun vanjectId _ => ?_
  cases srv.getGameByClientid c with
  | none => exact .fail
  | some found =>
      refine .bind fun player _ => ?_
      cases player.bindId with
      | none => exact .fail
      | some playerBindId =>
          dsimp only
          cases found.2.vanjects.lookup vanjectId with
          | none => exact .fail
          | some vanject =>
              dsimp only
              cases updateRejection vanject vanjectId c playerBindId player.worldId with
              | some err => exact .fail
              | none =>
                  refine .bind fun parsed _ => ?_
                  cases parsed with
                  | error err => exact .fail
                  | ok updated =>
                      refine .bind fun answer _ => ?_
                      rw [setGame_among, notifyObject_among]
                      exact .complete

theorem deleteAccepted_among {id : I32} :
    Echoes mine (srv.deleteAccepted c key game id p)
      ((srv.among mine).deleteAccepted c key game id p) := by
  unfold Server.deleteAccepted
  dsimp only
  rw [setGame_among, notifyObject_among]
  exact .complete

theorem deleteObject_among :
    Echoes mine (srv.deleteObject packet c) ((srv.among mine).deleteObject packet c) := by
  unfold Server.deleteObject
  rw [getGameByClientid_among]
  refine .bind fun data _ => .bind fun vanjectId _ => ?_
  cases srv.getGameByClientid c with
  | none => exact .fail
  | some found =>
      refine .bind fun player _ => ?_
      cases player.bindId with
      | none => exact .fail
      | some playerAuthId =>
          dsimp only
          cases found.2.vanjects.lookup vanjectId with
          | none => exact .bind fun answer _ => deleteAccepted_among
          | some vanject =>
              dsimp only
              by_cases howner : vanject.playerBindId ≠ playerAuthId
              · rw [if_pos howner, if_pos howner]
                exact .fail
              rw [if_neg howner, if_neg howner]
              by_cases hlegacy : isItemVanject vanject ∧ packet.data[8]? = some 1
              · rw [if_pos hlegacy, if_pos hlegacy]
                exact .fail
              rw [if_neg hlegacy, if_neg hlegacy]
              by_cases hitem : isItemVanject vanject = true
              · rw [if_pos hitem, if_pos hitem]
                exact .bind fun answer _ => deleteAccepted_among
              · rw [if_neg hitem, if_neg hitem]
                exact .bind fun answer _ => deleteAccepted_among

theorem itemTransfer_among :
    Echoes mine (srv.itemTransfer packet c) ((srv.among mine).itemTransfer packet c) := by
  unfold Server.itemTransfer
  refine .bind fun parsed _ => ?_
  cases parsed with
  | error err => exact .fail
  | ok transfer =>
      dsimp only
      cases transfer.validate with
      | error err => exact .fail
      | ok _ =>
          dsimp only
          rw [getGameByClientid_among]
          cases srv.getGameByClientid c with
          | none => exact .fail
          | some found =>
              dsimp only
              cases found.2.getPlayer c with
              | none => exact .fail
              | some player =>
                  dsimp only
                  cases player.bindId with
                  | none => exact .fail
                  | some playerBindId =>
                      dsimp only
                      cases player.worldId with
                      | none => exact .fail
                      | some playerWorldId =>
                          dsimp only
                          cases transfer.check found.2.vanjects playerBindId playerWorldId with
                          | error err => exact .fail
                          | ok _ =>
                              refine .bind fun answer _ => ?_
                              rw [setGame_among, notifyWorld_among]
                              exact .complete

/-! ### Messages -/

theorem directSending_among :
    Echoes mine (srv.directSending packet c) ((srv.among mine).directSending packet c) := by
  unfold Server.directSending
  by_cases hlen : packet.data.length < 4 + 1 + 1
  · rw [if_pos hlen, if_pos hlen]
    exact .fail
  rw [if_neg hlen, if_neg hlen, getGameByClientid_among]
  cases srv.getGameByClientid c with
  | none => exact .fail
  | some found =>
      refine .bind fun data _ => .bind fun mask _ => ?_
      generalize Server.directTargets found.2 c mask = targets
      obtain ⟨sender, receivers⟩ := targets
      cases sender with
      | none => exact .fail
      | some player =>
          dsimp only
          cases player.bindId with
          | none => exact .fail
          | some playerId =>
              cases player.auth with
              | none => exact .fail
              | some auth =>
                  refine .bind fun rest _ => ?_
                  cases getFirstCstr rest with
                  | none => exact .fail
                  | some msg =>
                      dsimp only
                      cases packet.createAnswer ([playerId] ++ Server.limitMsg msg) with
                      | none => exact .fail
                      | some answer =>
                          dsimp only
                          rw [sendTo_among]
                          exact .complete

/-! ### Worlds -/

theorem leaveWorld_among (env : Env) (c : ClientID) (srv : Server) :
    Echoes mine (srv.leaveWorld env c) ((srv.among mine).leaveWorld env c) := by
  unfold Server.leaveWorld
  rw [getGameByClientid_among]
  cases srv.getGameByClientid c with
  | none => exact .fail
  | some found =>
      refine .bind fun player _ => ?_
      cases player.bindId with
      | none => exact .fail
      | some playerBindId =>
          dsimp only
          cases player.world with
          | none => exact .fail
          | some world =>
              refine .bind fun delete _ => .bind fun playersWorld _ => ?_
              simp only [setGame_among, notifyGame_among]
              rw [← heardBy_flatMap, ← heardBy_append]
              exact .complete

theorem enterWorld_among {worldId : UInt8} {ySize : I16} :
    Echoes mine (srv.enterWorld packet c worldId ySize)
      ((srv.among mine).enterWorld packet c worldId ySize) := by
  unfold Server.enterWorld
  rw [getGameByClientid_among]
  cases srv.getGameByClientid c with
  | none => exact .fail
  | some found =>
      dsimp only
      cases findOrCreateWorld found.2 worldId ySize with
      | error err => exact .fail
      | ok made =>
          refine .bind fun player _ => ?_
          cases player.bindId with
          | none => exact .fail
          | some playerBindId =>
              refine .bind fun snapshot _ => .bind fun placed _ => .bind fun status _ =>
                .bind fun playersWorld _ => .bind fun response _ => .bind fun snapshotBegin _ =>
                .bind fun playersSnapshot _ => .bind fun snapshotEnd _ => ?_
              rw [setGame_among, notifyAll_among, notifyGame_among, flatMap_notifyPlayer_among]
              have hstatus : ∀ l : List Sent,
                  (if placed.2 then heardBy mine l else [])
                    = heardBy mine (if placed.2 then l else []) := by
                intro l
                split <;> rfl
              rw [hstatus, ← heardBy_append, ← heardBy_append]
              exact .complete

theorem setWorld_among :
    Echoes mine (srv.setWorld env packet c) ((srv.among mine).setWorld env packet c) := by
  unfold Server.setWorld
  refine .bind fun worldId _ => .bind fun data _ => .bind fun ySize _ => ?_
  have hneeds : (srv.among mine).needsLeaveWorld c worldId = srv.needsLeaveWorld c worldId := rfl
  rw [hneeds]
  by_cases hleave : srv.needsLeaveWorld c worldId = true
  · rw [if_pos hleave, if_pos hleave, leaveWorld_among env c srv]
    cases srv.leaveWorld env c with
    | none => rfl
    | some left =>
        obtain ⟨srv', sent, result⟩ := left
        cases result with
        | error err => rfl
        | ok _ => exact enterWorld_among.prepend
  · rw [if_neg hleave, if_neg hleave]
    exact enterWorld_among

theorem removePlayer_among : (srv.among mine).removePlayer c
    = (srv.removePlayer c).map (Server.among mine) := by
  unfold Server.removePlayer
  rw [getGameByClientid_among]
  cases srv.getGameByClientid c with
  | none => rfl
  | some found =>
      simp only [Option.bind_eq_bind, Option.bind_some]
      split <;> rfl

theorem closeLeft_among : Echoes mine (srv.closeLeft c) ((srv.among mine).closeLeft c) := by
  unfold Server.closeLeft
  rw [getGameByClientid_among]
  cases srv.getGameByClientid c with
  | none => exact .fail
  | some found =>
      refine .bind fun player _ => ?_
      cases player.bindId with
      | none => exact .fail
      | some playerBindId =>
          dsimp only
          rw [setGame_among]
          generalize srv.setGame found.1 (found.2.finish c (finishPlayer player)) = finished
          have hsent : (finished.among mine).announceFinished c player playerBindId
              = (finished.announceFinished c player playerBindId).map (heardBy mine) := by
            unfold Server.announceFinished
            split
            · rw [Option.map_map]
              exact congrArg (Option.map · _) (funext fun _ => notifyGame_among)
            · rfl
          rw [hsent, removePlayer_among]
          cases finished.announceFinished c player playerBindId with
          | none => rfl
          | some sent =>
              cases finished.removePlayer c with
              | none => rfl
              | some removed => exact .complete

theorem closeSocket_among (env : Env) (c : ClientID) (srv : Server) :
    Echoes mine (srv.closeSocket env c) ((srv.among mine).closeSocket env c) := by
  unfold Server.closeSocket
  rw [leaveWorld_among env c srv]
  cases srv.leaveWorld env c with
  | none => rfl
  | some left =>
      obtain ⟨srv', sent, result⟩ := left
      have hcloses : Echoes mine
          ((srv'.closeLeft c).bind fun r => some { r with sent := sent ++ r.sent })
          (((srv'.among mine).closeLeft c).bind fun r =>
            some { r with sent := heardBy mine sent ++ r.sent }) :=
        closeLeft_among.prepend
      cases result with
      | ok _ => exact hcloses
      | error err =>
          cases err
          case leaveWorld err =>
            cases err
            case worldEmpty => exact hcloses
            all_goals rfl
          all_goals rfl

/-! ### on_update -/

/-- **A handler reads the list of clients only to send.** -/
theorem handle_among (env : Env) (packet : Packet) (c : ClientID) (srv : Server) :
    Echoes mine (srv.handle env packet c) ((srv.among mine).handle env packet c) := by
  unfold Server.handle
  cases packet.action
  case attachToGame => exact attachToGame_among
  case restoreConnection => exact restoreConnection_among
  case serverTimeQuery => exact Echoes.respond
  case gamesListQuery => exact Echoes.respond
  case topListQuery => exact topListQuery_among
  case totalPlayersDataQuery => exact totalPlayersDataQuery_among
  case registerName => exact registerName_among
  case setPlayerData => exact setPlayerData_among
  case setPosition => exact setPosition_among
  case setGameData => exact setGameData_among
  case getGameData => exact getGameData_among
  case createObject => exact createObject_among
  case setWorld => exact setWorld_among
  case leaveWorld => exact leaveWorld_among env c srv
  case updateObject => exact updateObject_among
  case deleteObject => exact deleteObject_among
  case itemTransfer => exact itemTransfer_among
  case directSending => exact directSending_among
  case closeSocket => exact closeSocket_among env c srv
  all_goals exact Echoes.fail

theorem sendClient_among : (srv.among mine).sendClient c p = heardBy mine (srv.sendClient c p) := by
  have hfind : (srv.among mine).clients.find? (fun x => x.id = c)
      = if mine c then srv.clients.find? (fun x => x.id = c) else none := by
    show (srv.clients.filter fun client => mine client.id).find? _ = _
    rw [List.find?_filter]
    split
    · rename_i hmine
      congr 1
      funext x
      by_cases hx : x.id = c <;> simp [hx, hmine]
    · rename_i hmine
      rw [List.find?_eq_none]
      intro x _ hx
      obtain ⟨hin, hid⟩ := of_decide_eq_true hx
      rw [of_decide_eq_true hid] at hin
      exact hmine hin
  unfold Server.sendClient
  rw [hfind]
  cases hclient : srv.clients.find? fun x => x.id = c with
  | none => simp
  | some client =>
      have hid : client.id = c := by simpa using List.find?_some hclient
      subst hid
      cases hmine : mine client.id <;> simp [heardBy, hmine]

theorem resultSends_among {result : Except OnUpdateError OnUpdateOk} :
    (srv.among mine).resultSends c result = heardBy mine (srv.resultSends c result) := by
  match result with
  | .ok (.response p) => exact sendClient_among
  | .ok (.broadcast p) => exact notifyAll_among
  | .ok .complete => rfl
  | .error err => rfl

/-- And so does `on_update`. -/
theorem onUpdate_among (env : Env) (packet : Packet) (c : ClientID) (srv : Server) :
    Echoes mine (srv.onUpdate env c packet) ((srv.among mine).onUpdate env c packet) := by
  unfold Server.onUpdate
  rw [handle_among env packet c srv]
  cases srv.handle env packet c with
  | none => rfl
  | some reply =>
      simp only [Option.bind_eq_bind, Option.bind_some, Option.map_some]
      show Echoes mine _ (if Server.logged reply.result = true then _ else _)
      by_cases hlogged : Server.logged reply.result = true
      · rw [if_pos hlogged, if_pos hlogged]
        show some _ = some _
        simp only [Reply.among, resultSends_among, heardBy_append]
      · rw [if_neg hlogged, if_neg hlogged]
        rfl

end

end VangersSrv
