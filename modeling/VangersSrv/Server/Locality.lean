/-
A request is about one game.

Every handler but those for joining and listing games looks up its sender's game, and what
it does from there depends on nothing but that game and the list of clients.  So on two
servers that show the sender the same game (`Alike`) it does the same: it writes the same
game back, or removes it, sends the same packets and returns the same result (`Same`).
One lemma for each handler says so, and `handle_same` for all of them.
-/
import VangersSrv.Server.Holders

namespace VangersSrv

/-- Two servers that show a connection the same game, and have the same clients. -/
structure Alike (s t : Server) (c : ClientID) (key : GameID) (game : Game) : Prop where
  left : s.getGameByClientid c = some (key, game)
  right : t.getGameByClientid c = some (key, game)
  clients : t.clients = s.clients

/-- The server after its game under the key was written, or removed. -/
def Server.settle (srv : Server) (key : GameID) : Option Game → Server
  | some game => srv.setGame key game
  | none => { srv with games := srv.games.erase key }

/-- Two replies that do the same to the game under the key. -/
structure SameReply (s t : Server) (key : GameID) (ids : List ClientID) (outcome : Option Game)
    (r r' : Reply) : Prop where
  left : r.srv = s.settle key outcome
  right : r'.srv = t.settle key outcome
  sent : r'.sent = r.sent
  result : r'.result = r.result
  recipients : ∀ x ∈ r.sent, x.client ∈ ids
  noBroadcast : ∀ p, r.result ≠ .ok (.broadcast p)

/-- Both panic, or both write the same game back, with the same players. -/
def Same (s t : Server) (key : GameID) (ids : List ClientID) : Option Reply → Option Reply → Prop :=
  Option.Rel fun r r' => ∃ game, game.clientIds = ids ∧ SameReply s t key ids (some game) r r'

/-- Both panic, or both write the same game back or remove it, and no player is new. -/
def SameOrGone (s t : Server) (key : GameID) (ids : List ClientID) :
    Option Reply → Option Reply → Prop :=
  Option.Rel fun r r' => ∃ outcome, (∀ game ∈ outcome, game.clientIds.Sublist ids) ∧
    SameReply s t key ids outcome r r'

section

variable {env : Env} {packet p : Packet} {c : ClientID} {s t : Server} {key : GameID}
  {game game' : Game} {ids : List ClientID}

theorem Alike.mem (h : Alike s t c key game) : c ∈ game.clientIds := by
  obtain ⟨p, hp⟩ := Server.getGameByClientid_getPlayer h.left
  exact Game.mem_clientIds hp

/-- A write that keeps the players is seen alike. -/
theorem Alike.setGame (h : Alike s t c key game) (hids : game'.clientIds = game.clientIds) :
    Alike (s.setGame key game') (t.setGame key game') c key game' := by
  have hfound : ∃ p, game'.getPlayer c = some p := by
    apply Game.exists_getPlayer
    rw [hids]
    exact h.mem
  exact ⟨Server.getGameByClientid_setGame h.left hfound,
    Server.getGameByClientid_setGame h.right hfound, h.clients⟩

namespace SameReply

variable {r r' : Reply} {outcome : Option Game}

/-- A reply to a later part of the same request, after a write to the game. -/
theorem written (h : Alike s t c key game)
    (hreply : SameReply (s.setGame key game') (t.setGame key game') key ids outcome r r') :
    SameReply s t key ids outcome r r' := by
  have hsettle : ∀ srv : Server, srv.games.lookup key = some game →
      (srv.setGame key game').settle key outcome = srv.settle key outcome := by
    intro srv hlookup
    cases outcome with
    | none =>
        have hgames := AList.ext (AList.erase_replace game' hlookup)
        show { srv with games := (srv.games.replace key game').erase key } = _
        rw [hgames]
        rfl
    | some last => exact Server.setGame_setGame hlookup game' last
  obtain ⟨hleft, hright, hsent, hresult, hrecipients, hno⟩ := hreply
  refine ⟨?_, ?_, hsent, hresult, hrecipients, hno⟩
  · rw [hleft, hsettle s (Server.getGameByClientid_lookup h.left)]
  · rw [hright, hsettle t (Server.getGameByClientid_lookup h.right)]

/-- What was sent before comes first. -/
theorem prepend {before : List Sent} (hbefore : ∀ x ∈ before, x.client ∈ ids)
    (h : SameReply s t key ids outcome r r') :
    SameReply s t key ids outcome { r with sent := before ++ r.sent }
      { r' with sent := before ++ r'.sent } := by
  refine ⟨h.left, h.right, ?_, h.result, fun x hx => ?_, h.noBroadcast⟩
  · show before ++ r'.sent = before ++ r.sent
    rw [h.sent]
  · rcases List.mem_append.mp hx with hx | hx
    · exact hbefore x hx
    · exact h.recipients x hx

end SameReply

/-! ### What is heard -/

/-- The same packets, and they go to connections of a list. -/
structure Heard (ids : List ClientID) (a b : List Sent) : Prop where
  same : b = a
  recipients : ∀ x ∈ a, x.client ∈ ids

namespace Heard

theorem nil : Heard ids [] [] := ⟨rfl, by simp⟩

theorem append {a a' b b' : List Sent} (h : Heard ids a b) (h' : Heard ids a' b') :
    Heard ids (a ++ a') (b ++ b') := by
  refine ⟨by rw [h.same, h'.same], fun x hx => ?_⟩
  rcases List.mem_append.mp hx with hx | hx
  · exact h.recipients x hx
  · exact h'.recipients x hx

theorem flatMap {α : Type} {f g : α → List Sent} (l : List α) (h : ∀ a, Heard ids (f a) (g a)) :
    Heard ids (l.flatMap f) (l.flatMap g) := by
  induction l with
  | nil => exact nil
  | cons a rest ih =>
      rw [List.flatMap_cons, List.flatMap_cons]
      exact (h a).append ih

end Heard

namespace Alike

variable {realtime : Bool}

theorem sendTo {l : List ClientID} (h : Alike s t c key game) (hl : ∀ id ∈ l, id ∈ ids) :
    Heard ids (s.sendTo l p realtime) (t.sendTo l p realtime) := by
  constructor
  · unfold Server.sendTo
    rw [h.clients]
  · intro x hx
    exact hl _ (Server.mem_sendTo.mp hx).2.1

theorem notify (h : Alike s t c key game) {filter : ClientID → Bool} :
    Heard game.clientIds (s.notify c p filter realtime) (t.notify c p filter realtime) := by
  unfold Server.notify
  rw [h.left, h.right]
  exact h.sendTo fun id hid => List.mem_of_mem_filter hid

theorem notifyWorld (h : Alike s t c key game) {worldId : UInt8} {includeSender : Bool} :
    Heard game.clientIds (s.notifyWorld c worldId p includeSender realtime)
      (t.notifyWorld c worldId p includeSender realtime) := by
  unfold Server.notifyWorld
  rw [h.left, h.right]
  refine h.sendTo fun id hid => ?_
  obtain ⟨q, hq, rfl⟩ := List.mem_map.mp hid
  exact List.mem_map_of_mem (List.mem_of_mem_filter (List.mem_of_mem_filter hq))

theorem notifyObject (h : Alike s t c key game) {id : I32} :
    Heard game.clientIds (s.notifyObject c id p realtime) (t.notifyObject c id p realtime) := by
  rw [Server.notifyObject_eq, Server.notifyObject_eq]
  split
  · exact h.notifyWorld
  · exact h.notify

end Alike

/-! ### Building the same reply -/

namespace Same

theorem reply (h : Alike s t c key game) {result : Except OnUpdateError OnUpdateOk}
    {a b : List Sent} (hheard : Heard game.clientIds a b)
    (hresult : ∀ p, result ≠ .ok (.broadcast p)) :
    Same s t key game.clientIds (some ⟨s, a, result⟩) (some ⟨t, b, result⟩) := by
  refine .some ⟨game, rfl, ?_, ?_, hheard.same, rfl, hheard.recipients, hresult⟩
  · exact (setGame_self (Server.getGameByClientid_lookup h.left)).symm
  · exact (setGame_self (Server.getGameByClientid_lookup h.right)).symm

theorem fail (h : Alike s t c key game) {err : OnUpdateError} :
    Same s t key game.clientIds (s.fail err) (t.fail err) :=
  reply h .nil (by simp)

theorem complete (h : Alike s t c key game) {a b : List Sent} (hheard : Heard game.clientIds a b) :
    Same s t key game.clientIds (s.complete a) (t.complete b) :=
  reply h hheard (by simp)

theorem respond (h : Alike s t c key game) {data : Bytes} :
    Same s t key game.clientIds (s.respond packet data) (t.respond packet data) := by
  unfold Server.respond
  cases packet.createAnswer data with
  | none => exact fail h
  | some answer => exact reply h .nil (by simp)

theorem bind {α : Type} {x : Option α} {f g : α → Option Reply}
    (h : ∀ a, x = some a → Same s t key ids (f a) (g a)) :
    Same s t key ids (x.bind f) (x.bind g) := by
  cases x with
  | none => exact .none
  | some a => exact h a rfl

theorem orGone {x y : Option Reply} (h : Same s t key ids x y) : SameOrGone s t key ids x y := by
  cases h with
  | none => exact .none
  | some hrel =>
      obtain ⟨game, hids, hreply⟩ := hrel
      refine .some ⟨some game, fun g hg => ?_, hreply⟩
      rw [← Option.some.inj hg, hids]

/-- What is the same after a write to the game is the same. -/
theorem written {x y : Option Reply} (h : Alike s t c key game)
    (hids : game'.clientIds = game.clientIds)
    (hsame : Same (s.setGame key game') (t.setGame key game') key game'.clientIds x y) :
    Same s t key game.clientIds x y := by
  rw [hids] at hsame
  cases hsame with
  | none => exact .none
  | some hrel =>
      obtain ⟨last, hlast, hreply⟩ := hrel
      exact .some ⟨last, hlast, hreply.written h⟩

theorem prepend {x y : Option Reply} {before : List Sent} (hbefore : ∀ x ∈ before, x.client ∈ ids)
    (h : Same s t key ids x y) :
    Same s t key ids (x.bind fun r => some { r with sent := before ++ r.sent })
      (y.bind fun r => some { r with sent := before ++ r.sent }) := by
  cases h with
  | none => exact .none
  | some hrel =>
      obtain ⟨last, hlast, hreply⟩ := hrel
      exact .some ⟨last, hlast, hreply.prepend hbefore⟩

end Same

namespace SameOrGone

theorem written {x y : Option Reply} (h : Alike s t c key game)
    (hids : game'.clientIds = game.clientIds)
    (hsame : SameOrGone (s.setGame key game') (t.setGame key game') key game'.clientIds x y) :
    SameOrGone s t key game.clientIds x y := by
  rw [hids] at hsame
  cases hsame with
  | none => exact .none
  | some hrel =>
      obtain ⟨outcome, hplayers, hreply⟩ := hrel
      exact .some ⟨outcome, hplayers, hreply.written h⟩

theorem prepend {x y : Option Reply} {before : List Sent} (hbefore : ∀ x ∈ before, x.client ∈ ids)
    (h : SameOrGone s t key ids x y) :
    SameOrGone s t key ids (x.bind fun r => some { r with sent := before ++ r.sent })
      (y.bind fun r => some { r with sent := before ++ r.sent }) := by
  cases h with
  | none => exact .none
  | some hrel =>
      obtain ⟨outcome, hplayers, hreply⟩ := hrel
      exact .some ⟨outcome, hplayers, hreply.prepend hbefore⟩

end SameOrGone

/-! ### Describing oneself -/

theorem setAuth_clientId {q q' : Player} {random name : Bytes}
    (h : q.setAuth random name = some q') : q'.clientId = q.clientId := by
  unfold Player.setAuth at h
  split at h
  · rw [← Option.some.inj h]
  · cases h

theorem setConfig_clientIds {data : Bytes} {result : Except String Unit}
    (h : game.setConfig data = some (game', result)) : game'.clientIds = game.clientIds := by
  unfold Game.setConfig at h
  split at h
  · obtain ⟨rfl, -⟩ := Prod.mk.inj (Option.some.inj h)
    rfl
  simp only [Option.bind_eq_bind, Option.bind_eq_some_iff] at h
  obtain ⟨config, -, h⟩ := h
  split at h
  · obtain ⟨rfl, -⟩ := Prod.mk.inj (Option.some.inj h)
    rfl
  · obtain ⟨rfl, -⟩ := Prod.mk.inj (Option.some.inj h)
    rfl

theorem registerName_same (h : Alike s t c key game) :
    Same s t key game.clientIds (s.registerName env packet c) (t.registerName env packet c) := by
  unfold Server.registerName
  rw [h.left, h.right]
  refine Same.bind fun player hplayer => ?_
  cases player.bindId with
  | none => exact .fail h
  | some playerBindId =>
      cases Server.extractAuthData packet.data with
      | error err => exact .fail h
      | ok made =>
          refine Same.bind fun player' hauth => ?_
          refine Same.bind fun answer _ => ?_
          have hids : (game.modifyPlayer c fun _ => player').clientIds = game.clientIds := by
            refine Game.clientIds_modifyPlayer fun q hq => ?_
            rw [← Option.some.inj (hplayer.symm.trans hq)]
            exact setAuth_clientId hauth
          exact .written h hids (.complete (h.setGame hids) (h.setGame hids).notify)

theorem clientIds_setBody {player player' moved : Player} {bytes : Bytes} {parsed : Bool}
    (hplayer : game.getPlayer c = some player) (h : moved.setBody bytes = some (player', parsed))
    (hclient : moved.clientId = player.clientId) :
    (game.modifyPlayer c fun _ => player').clientIds = game.clientIds := by
  refine Game.clientIds_modifyPlayer fun q hq => ?_
  obtain ⟨body, -, rfl, -⟩ := Player.setBody_eq_some h
  rw [← Option.some.inj (hplayer.symm.trans hq)]
  exact hclient

theorem setPlayerData_same (h : Alike s t c key game) :
    Same s t key game.clientIds (s.setPlayerData packet c) (t.setPlayerData packet c) := by
  unfold Server.setPlayerData
  rw [h.left, h.right]
  refine Same.bind fun player hplayer => ?_
  refine Same.bind fun made hbody => ?_
  obtain ⟨player', parsed⟩ := made
  have hids := clientIds_setBody hplayer hbody rfl
  have hset := h.setGame hids
  cases parsed with
  | false => exact .written h hids (.fail hset)
  | true =>
      cases hbind : player'.bindId with
      | none =>
          simp only [hbind, if_true]
          exact .written h hids (.fail hset)
      | some playerId =>
          simp only [hbind, if_true]
          cases packet.createAnswer ([playerId] ++ packet.data) with
          | none => exact .written h hids (.fail hset)
          | some answer => exact .written h hids (.complete hset hset.notify)

theorem setPosition_same (h : Alike s t c key game) :
    Same s t key game.clientIds (s.setPosition packet c) (t.setPosition packet c) := by
  unfold Server.setPosition
  by_cases hlen : packet.data.length ≠ 6
  · rw [if_pos hlen, if_pos hlen]
    exact .fail h
  rw [if_neg hlen, if_neg hlen, h.left, h.right]
  refine Same.bind fun sx _ => Same.bind fun x _ => Same.bind fun sy _ => Same.bind fun y _ => ?_
  refine Same.bind fun sz _ => Same.bind fun screenYHalfSize _ => ?_
  cases hplayer : game.getPlayer c with
  | none =>
      simp only [hplayer]
      exact .fail h
  | some player =>
      simp only [hplayer]
      by_cases hworld : player.world = none
      · rw [if_pos hworld, if_pos hworld]
        exact .complete h .nil
      · rw [if_neg hworld, if_neg hworld]
        have hids : (game.modifyPlayer c fun p =>
            { p with pos := { x, y }, screenYHalfSize }).clientIds = game.clientIds :=
          Game.clientIds_modifyPlayer fun _ _ => rfl
        exact .written h hids (.complete (h.setGame hids) .nil)

theorem setGameData_same (h : Alike s t c key game) :
    Same s t key game.clientIds (s.setGameData packet c) (t.setGameData packet c) := by
  unfold Server.setGameData
  rw [h.left, h.right]
  dsimp only
  by_cases hconfigured : game.isConfigured = true
  · rw [if_pos hconfigured, if_pos hconfigured]
    exact .fail h
  rw [if_neg hconfigured, if_neg hconfigured]
  cases cstrUntilNul packet.data with
  | none => exact .fail h
  | some name =>
      dsimp only
      by_cases hempty : name = []
      · rw [if_pos hempty, if_pos hempty]
        exact .fail h
      rw [if_neg hempty, if_neg hempty]
      refine Same.bind fun rest _ => Same.bind fun made hmade => ?_
      obtain ⟨game', result⟩ := made
      have hids := setConfig_clientIds hmade
      cases result with
      | error text => exact .written h hids (.fail (h.setGame hids))
      | ok _ =>
          have hnamed : ({ game' with name := withNul name } : Game).clientIds = game.clientIds := hids
          exact .written h hnamed (.complete (h.setGame hnamed) .nil)

theorem getGameData_same (h : Alike s t c key game) :
    Same s t key game.clientIds (s.getGameData packet c) (t.getGameData packet c) := by
  unfold Server.getGameData
  rw [h.left, h.right]
  dsimp only
  cases game.config with
  | none => exact .fail h
  | some config => exact .respond h

theorem totalPlayersDataQuery_same (h : Alike s t c key game) :
    Same s t key game.clientIds (s.totalPlayersDataQuery c) (t.totalPlayersDataQuery c) := by
  unfold Server.totalPlayersDataQuery
  rw [h.left, h.right]
  exact Same.bind fun answer _ => .reply h .nil (by simp)

/-! ### Objects -/

theorem createAccepted_same (h : Alike s t c key game) {player : Player} {v : Vanject}
    (hplayer : game.getPlayer c = some player) :
    Same s t key game.clientIds (s.createAccepted c key game player v)
      (t.createAccepted c key game player v) := by
  -- the object is stored in the game that the next lookup finds
  have hstored : ∀ {g : Game} {s' t' : Server} {a b : List Sent}, Alike s' t' c key g →
      Heard g.clientIds a b →
      Same s' t' key g.clientIds ((s'.storeVanject c v).bind fun srv => srv.complete a)
        ((t'.storeVanject c v).bind fun srv => srv.complete b) := by
    intro g s' t' a b h' hheard
    unfold Server.storeVanject
    rw [h'.left, h'.right]
    have hids := g.clientIds_withVanjects (g.vanjects.insert v.id v)
    exact .written h' hids (.complete (h'.setGame hids) hheard)
  unfold Server.createAccepted
  by_cases htype : v.getType = NID.vanger
  · rw [if_pos htype, if_pos htype]
    refine Same.bind fun made hbody => ?_
    obtain ⟨player', parsed⟩ := made
    have hids := clientIds_setBody hplayer hbody rfl
    have hset := h.setGame hids
    refine .written h hids ?_
    dsimp only
    unfold Server.announceVanger
    cases parsed with
    | false => exact hstored hset .nil
    | true =>
        cases Packet.new .updateObject v.toVangersByte with
        | none => exact .none
        | some answer => exact hstored hset hset.notifyWorld
  · rw [if_neg htype, if_neg htype]
    exact Same.bind fun answer _ => hstored h h.notifyObject

theorem createObject_same (h : Alike s t c key game) :
    Same s t key game.clientIds (s.createObject packet c) (t.createObject packet c) := by
  unfold Server.createObject
  refine Same.bind fun parsed _ => ?_
  cases parsed with
  | error err => exact .fail h
  | ok vanject =>
      dsimp only
      rw [h.left, h.right]
      dsimp only
      cases game.vanjects.lookup vanject.id with
      | some existing =>
          refine Same.bind fun packets _ => ?_
          exact .complete h (Heard.flatMap packets fun _ => h.notify)
      | none =>
          dsimp only
          cases if isItemVanject vanject then itemHasPairedVanject vanject game.vanjects else none with
          | some pairedId => exact .fail h
          | none =>
              refine Same.bind fun player hplayer => ?_
              cases player.bindVanject vanject with
              | none => exact .fail h
              | some v => exact createAccepted_same h hplayer

theorem updateObject_same (h : Alike s t c key game) :
    Same s t key game.clientIds (s.updateObject packet c) (t.updateObject packet c) := by
  unfold Server.updateObject
  by_cases hlen : packet.data.length < 4
  · rw [if_pos hlen, if_pos hlen]
    exact .fail h
  rw [if_neg hlen, if_neg hlen, h.left, h.right]
  refine Same.bind fun data _ => Same.bind fun vanjectId _ => Same.bind fun player _ => ?_
  cases player.bindId with
  | none => exact .fail h
  | some playerBindId =>
      dsimp only
      cases game.vanjects.lookup vanjectId with
      | none => exact .fail h
      | some vanject =>
          dsimp only
          cases updateRejection vanject vanjectId c playerBindId player.worldId with
          | some err => exact .fail h
          | none =>
              refine Same.bind fun parsed _ => ?_
              cases parsed with
              | error err => exact .fail h
              | ok updated =>
                  refine Same.bind fun answer _ => ?_
                  have hids := game.clientIds_withVanjects
                    (game.vanjects.replace vanjectId { updated with playerBindId })
                  exact .written h hids (.complete (h.setGame hids) (h.setGame hids).notifyObject)

theorem deleteAccepted_same (h : Alike s t c key game) {id : I32} :
    Same s t key game.clientIds (s.deleteAccepted c key game id p) (t.deleteAccepted c key game id p) := by
  have hids := game.clientIds_withVanjects (game.vanjects.erase id)
  exact .written h hids (.complete (h.setGame hids) (h.setGame hids).notifyObject)

theorem deleteObject_same (h : Alike s t c key game) :
    Same s t key game.clientIds (s.deleteObject packet c) (t.deleteObject packet c) := by
  unfold Server.deleteObject
  rw [h.left, h.right]
  refine Same.bind fun data _ => Same.bind fun vanjectId _ => Same.bind fun player _ => ?_
  cases player.bindId with
  | none => exact .fail h
  | some playerAuthId =>
      dsimp only
      cases game.vanjects.lookup vanjectId with
      | none => exact Same.bind fun answer _ => deleteAccepted_same h
      | some vanject =>
          dsimp only
          by_cases howner : vanject.playerBindId ≠ playerAuthId
          · rw [if_pos howner, if_pos howner]
            exact .fail h
          rw [if_neg howner, if_neg howner]
          by_cases hlegacy : isItemVanject vanject ∧ packet.data[8]? = some 1
          · rw [if_pos hlegacy, if_pos hlegacy]
            exact .fail h
          rw [if_neg hlegacy, if_neg hlegacy]
          by_cases hitem : isItemVanject vanject = true
          · rw [if_pos hitem, if_pos hitem]
            exact Same.bind fun answer _ => deleteAccepted_same h
          · rw [if_neg hitem, if_neg hitem]
            exact Same.bind fun answer _ => deleteAccepted_same h

theorem itemTransfer_same (h : Alike s t c key game) :
    Same s t key game.clientIds (s.itemTransfer packet c) (t.itemTransfer packet c) := by
  unfold Server.itemTransfer
  refine Same.bind fun parsed _ => ?_
  cases parsed with
  | error err => exact .fail h
  | ok transfer =>
      dsimp only
      cases transfer.validate with
      | error err => exact .fail h
      | ok _ =>
          dsimp only
          rw [h.left, h.right]
          dsimp only
          cases game.getPlayer c with
          | none => exact .fail h
          | some player =>
              dsimp only
              cases player.bindId with
              | none => exact .fail h
              | some playerBindId =>
                  dsimp only
                  cases player.worldId with
                  | none => exact .fail h
                  | some playerWorldId =>
                      dsimp only
                      cases transfer.check game.vanjects playerBindId playerWorldId with
                      | error err => exact .fail h
                      | ok _ =>
                          refine Same.bind fun answer _ => ?_
                          have hids := game.clientIds_withVanjects
                            ((game.vanjects.erase transfer.oldId).insert transfer.newVanject.id
                              { transfer.newVanject with playerBindId })
                          exact .written h hids (.complete (h.setGame hids) (h.setGame hids).notifyWorld)

/-! ### Messages -/

/-- A direct message goes to players of the game. -/
theorem directTargets_sub (mask : U32) :
    ∀ id ∈ (Server.directTargets game c mask).2, id ∈ game.clientIds := by
  intro id hid
  obtain ⟨-, q, hq, rfl, -⟩ := Server.mem_directTargets.mp hid
  exact List.mem_map_of_mem hq

theorem directSending_same (h : Alike s t c key game) :
    Same s t key game.clientIds (s.directSending packet c) (t.directSending packet c) := by
  unfold Server.directSending
  by_cases hlen : packet.data.length < 4 + 1 + 1
  · rw [if_pos hlen, if_pos hlen]
    exact .fail h
  rw [if_neg hlen, if_neg hlen, h.left, h.right]
  refine Same.bind fun data _ => Same.bind fun mask _ => ?_
  have hheard : ∀ answer, Heard game.clientIds (s.sendTo (Server.directTargets game c mask).2 answer)
      (t.sendTo (Server.directTargets game c mask).2 answer) :=
    fun _ => h.sendTo (directTargets_sub mask)
  generalize Server.directTargets game c mask = targets at hheard
  obtain ⟨sender, receivers⟩ := targets
  cases sender with
  | none => exact .fail h
  | some player =>
      dsimp only
      cases player.bindId with
      | none => exact .fail h
      | some playerId =>
          cases player.auth with
          | none => exact .fail h
          | some auth =>
              refine Same.bind fun rest _ => ?_
              cases getFirstCstr rest with
              | none => exact .fail h
              | some msg =>
                  dsimp only
                  cases packet.createAnswer ([playerId] ++ Server.limitMsg msg) with
                  | none => exact .fail h
                  | some answer => exact .complete h (hheard answer)

/-! ### Worlds -/

theorem leaveWorld_same (env : Env) (h : Alike s t c key game) :
    Same s t key game.clientIds (s.leaveWorld env c) (t.leaveWorld env c) := by
  unfold Server.leaveWorld
  rw [h.left, h.right]
  refine Same.bind fun player _ => ?_
  cases player.bindId with
  | none => exact .fail h
  | some playerBindId =>
      dsimp only
      cases player.world with
      | none => exact .fail h
      | some world =>
          refine Same.bind fun delete _ => ?_
          refine Same.bind fun playersWorld _ => ?_
          have hids : ({ game.modifyPlayer c fun p => { p with world := none } with
              vanjects := game.vanjects.retain fun id _ => id ∉ delete.map Prod.fst } : Game).clientIds
                = game.clientIds :=
            Game.clientIds_modifyPlayer (g := game) fun _ _ => rfl
          have hset := h.setGame hids
          refine .written h hids (.complete hset (Heard.append ?_ hset.notify))
          exact Heard.flatMap _ fun _ => hset.notify

theorem enterWorld_same (h : Alike s t c key game) {worldId : UInt8} {ySize : I16} :
    Same s t key game.clientIds (s.enterWorld packet c worldId ySize)
      (t.enterWorld packet c worldId ySize) := by
  unfold Server.enterWorld
  rw [h.left, h.right]
  dsimp only
  cases hworld : findOrCreateWorld game worldId ySize with
  | error err => exact .fail h
  | ok made =>
      obtain ⟨game', world, worldStatus⟩ := made
      obtain ⟨-, hgame', -⟩ := findOrCreateWorld_ok hworld
      have hids : game'.clientIds = game.clientIds := by
        rw [hgame']
        rfl
      refine Same.bind fun player hplayer => ?_
      cases player.bindId with
      | none => exact .written h hids (.fail (h.setGame hids))
      | some playerBindId =>
          refine Same.bind fun snapshot _ => Same.bind fun placed hplaced => ?_
          obtain ⟨game'', changed⟩ := placed
          refine Same.bind fun status _ => Same.bind fun playersWorld _ => ?_
          refine Same.bind fun response _ => Same.bind fun snapshotBegin _ => ?_
          refine Same.bind fun playersSnapshot _ => Same.bind fun snapshotEnd _ => ?_
          have hids' : game''.clientIds = game.clientIds := by
            obtain ⟨w, -, rfl⟩ := placePlayer_eq hplayer hplaced
            rw [← hids]
            exact Game.clientIds_modifyPlayer fun _ _ => rfl
          have hset := h.setGame hids'
          refine .written h hids' (.complete hset ((Heard.append ?_ hset.notify).append ?_))
          · cases changed with
            | false => exact .nil
            | true => exact hset.notify
          · exact Heard.flatMap _ fun _ => hset.notify

theorem setWorld_same (h : Alike s t c key game) :
    Same s t key game.clientIds (s.setWorld env packet c) (t.setWorld env packet c) := by
  unfold Server.setWorld
  refine Same.bind fun worldId _ => Same.bind fun data _ => Same.bind fun ySize _ => ?_
  have hneeds : t.needsLeaveWorld c worldId = s.needsLeaveWorld c worldId := by
    unfold Server.needsLeaveWorld
    rw [h.left, h.right]
  rw [hneeds]
  by_cases hleaves : s.needsLeaveWorld c worldId = true
  · rw [if_pos hleaves, if_pos hleaves]
    have hsame := leaveWorld_same env h
    generalize s.leaveWorld env c = x at hsame
    generalize t.leaveWorld env c = y at hsame
    cases hsame with
    | none => exact .none
    | @some left left' hrel =>
        obtain ⟨game', hids, hleft⟩ := hrel
        obtain ⟨srv, sent, result⟩ := left
        obtain ⟨srv', sent', result'⟩ := left'
        obtain ⟨rfl, rfl, rfl, rfl, hrecipients, -⟩ := hleft
        cases result' with
        | error err =>
            exact .some ⟨game', hids, rfl, rfl, rfl, rfl, hrecipients, by simp⟩
        | ok _ =>
            rw [← hids] at hrecipients
            exact .written h hids (.prepend hrecipients (enterWorld_same (h.setGame hids)))
  · rw [if_neg hleaves, if_neg hleaves]
    exact enterWorld_same h

/-! ### Closing the socket -/

theorem removePlayer_same (h : Alike s t c key game) (hid : game.id = key) {a b : List Sent}
    (hheard : Heard game.clientIds a b) :
    SameOrGone s t key game.clientIds ((s.removePlayer c).bind fun srv => srv.complete a)
      ((t.removePlayer c).bind fun srv => srv.complete b) := by
  have hgone : ∀ srv : Server, srv.games.lookup key = some game →
      { srv with games := (srv.games.replace key (game.without c)).erase (game.without c).id }
        = srv.settle key none := by
    intro srv hlookup
    have hgames := AList.ext (AList.erase_replace (game.without c) hlookup)
    show { srv with games := (srv.games.replace key (game.without c)).erase game.id } = _
    rw [hid, hgames]
    rfl
  unfold Server.removePlayer
  rw [h.left, h.right]
  simp only [Option.bind_eq_bind, Option.bind_some]
  by_cases hempty : (game.without c).players = []
  · rw [if_pos hempty, if_pos hempty, hgone s (Server.getGameByClientid_lookup h.left),
      hgone t (Server.getGameByClientid_lookup h.right)]
    exact .some ⟨none, by simp, rfl, rfl, hheard.same, rfl, hheard.recipients, by simp⟩
  · rw [if_neg hempty, if_neg hempty]
    refine .some ⟨some (game.without c), fun g hg => ?_, rfl, rfl, hheard.same, rfl,
      hheard.recipients, by simp⟩
    rw [← Option.some.inj hg]
    exact List.filter_sublist.map Player.clientId

theorem closeLeft_same (h : Alike s t c key game) (hid : game.id = key) :
    SameOrGone s t key game.clientIds (s.closeLeft c) (t.closeLeft c) := by
  obtain ⟨player, hplayer⟩ := Server.getGameByClientid_getPlayer h.left
  unfold Server.closeLeft
  rw [h.left, h.right]
  simp only [hplayer, Option.bind_eq_bind, Option.bind_some]
  cases player.bindId with
  | none => exact (Same.fail h).orGone
  | some playerBindId =>
      have hids : (game.finish c (finishPlayer player)).clientIds = game.clientIds := by
        refine Game.clientIds_modifyPlayer (g := game) fun q hq => ?_
        rw [← Option.some.inj (hplayer.symm.trans hq)]
        rfl
      have hset := h.setGame hids
      have hid' : (game.finish c (finishPlayer player)).id = key := hid
      refine .written h hids ?_
      dsimp only
      unfold Server.announceFinished
      by_cases hgaming : player.status = .gaming
      · rw [if_pos hgaming, if_pos hgaming]
        cases Packet.new .playersStatus [playerBindId, Status.finished.toU8] with
        | none => exact .none
        | some finished => exact removePlayer_same hset hid' hset.notify
      · rw [if_neg hgaming, if_neg hgaming]
        exact removePlayer_same hset hid' .nil

/-- A game keeps its id when a player leaves its world. -/
theorem leaveWorld_id {r : Reply} (hgame : s.getGameByClientid c = some (key, game))
    (h : s.leaveWorld env c = some r) (hsrv : r.srv = s.setGame key game') : game'.id = game.id := by
  have hlookup := Server.getGameByClientid_lookup hgame
  have hlast : r.srv.games.lookup key = some game' := by
    rw [hsrv]
    exact Server.lookup_setGame_self hlookup
  have hsame : r.srv = s → game'.id = game.id := by
    intro hs
    rw [hs, hlookup] at hlast
    rw [Option.some.inj hlast]
  obtain ⟨player, hplayer⟩ := Server.getGameByClientid_getPlayer hgame
  cases hbind : player.bindId with
  | none =>
      unfold Server.leaveWorld at h
      simp only [hgame, hplayer, hbind, Option.bind_eq_bind, Option.bind_some, Server.fail,
        Option.some.injEq] at h
      subst h
      exact hsame rfl
  | some bind =>
      rcases leaveWorld_acting ⟨hgame, hplayer, hbind⟩ h with ⟨-, -, hs⟩ | ⟨-, -, hs⟩
      · exact hsame hs
      · rw [hs, Server.lookup_setGame_self hlookup] at hlast
        rw [← Option.some.inj hlast]
        rfl

theorem closeSocket_same (h : Alike s t c key game) (hid : game.id = key) :
    SameOrGone s t key game.clientIds (s.closeSocket env c) (t.closeSocket env c) := by
  unfold Server.closeSocket
  have hsame := leaveWorld_same env h
  generalize hs : s.leaveWorld env c = x at hsame
  generalize t.leaveWorld env c = y at hsame
  cases hsame with
  | none => exact .none
  | @some left left' hrel =>
      obtain ⟨game', hids, hleft⟩ := hrel
      obtain ⟨srv, sent, result⟩ := left
      obtain ⟨srv', sent', result'⟩ := left'
      obtain ⟨rfl, rfl, rfl, rfl, hrecipients, -⟩ := hleft
      have hid' : game'.id = key := (leaveWorld_id h.left hs rfl).trans hid
      have hstays : ∀ err, SameOrGone s t key game.clientIds
          (some ⟨s.setGame key game', sent', .error err⟩)
          (some ⟨t.setGame key game', sent', .error err⟩) := by
        intro err
        exact Same.orGone (.some ⟨game', hids, rfl, rfl, rfl, rfl, hrecipients, by simp⟩)
      have hcloses : SameOrGone s t key game.clientIds
          (((s.setGame key game').closeLeft c).bind fun r => some { r with sent := sent' ++ r.sent })
          (((t.setGame key game').closeLeft c).bind fun r => some { r with sent := sent' ++ r.sent }) := by
        rw [← hids] at hrecipients
        exact .written h hids (.prepend hrecipients (closeLeft_same (h.setGame hids) hid'))
      cases result' with
      | ok _ => exact hcloses
      | error err =>
          cases err
          case leaveWorld err =>
            cases err
            case worldEmpty => exact hcloses
            all_goals exact hstays _
          all_goals exact hstays _

/-! ### All handlers -/

/-- The requests that are not about their sender's game alone. -/
def sharedActions : List Action :=
  [.attachToGame, .restoreConnection, .gamesListQuery, .topListQuery, .serverTimeQuery]

theorem handle_same (env : Env) (h : Alike s t c key game) (hid : game.id = key)
    (haction : packet.action ∉ sharedActions) :
    SameOrGone s t key game.clientIds (s.handle env packet c) (t.handle env packet c) := by
  unfold Server.handle
  cases ha : packet.action
  case attachToGame | restoreConnection | gamesListQuery | topListQuery | serverTimeQuery =>
    simp [ha, sharedActions] at haction
  case totalPlayersDataQuery => exact (totalPlayersDataQuery_same h).orGone
  case registerName => exact (registerName_same h).orGone
  case setPlayerData => exact (setPlayerData_same h).orGone
  case setPosition => exact (setPosition_same h).orGone
  case setGameData => exact (setGameData_same h).orGone
  case getGameData => exact (getGameData_same h).orGone
  case createObject => exact (createObject_same h).orGone
  case setWorld => exact (setWorld_same h).orGone
  case leaveWorld => exact (leaveWorld_same env h).orGone
  case updateObject => exact (updateObject_same h).orGone
  case deleteObject => exact (deleteObject_same h).orGone
  case itemTransfer => exact (itemTransfer_same h).orGone
  case directSending => exact (directSending_same h).orGone
  case closeSocket => exact closeSocket_same h hid
  all_goals exact (Same.fail h).orGone

@[simp] theorem Server.settle_clients (srv : Server) (outcome : Option Game) :
    (srv.settle key outcome).clients = srv.clients := by
  cases outcome with
  | none => rfl
  | some game => rfl

theorem resultSends_heard {result : Except OnUpdateError OnUpdateOk} (hclients : t.clients = s.clients)
    (hc : c ∈ ids) (hno : ∀ p, result ≠ .ok (.broadcast p)) :
    Heard ids (s.resultSends c result) (t.resultSends c result) := by
  cases result with
  | error err => exact .nil
  | ok ok =>
      cases ok with
      | complete => exact .nil
      | broadcast p => exact absurd rfl (hno p)
      | response p =>
          show Heard ids (s.sendClient c p) (t.sendClient c p)
          unfold Server.sendClient
          rw [hclients]
          cases hfind : s.clients.find? fun client => client.id = c with
          | none => exact .nil
          | some client =>
              refine ⟨rfl, fun x hx => ?_⟩
              have hid : client.id = c := by simpa using List.find?_some hfind
              rw [List.mem_singleton.mp hx]
              show client.id ∈ ids
              rw [hid]
              exact hc

/-- Also what is sent on top of the handler is the same. -/
theorem onUpdate_same (env : Env) (h : Alike s t c key game) (hid : game.id = key)
    (haction : packet.action ∉ sharedActions) :
    SameOrGone s t key game.clientIds (s.onUpdate env c packet) (t.onUpdate env c packet) := by
  unfold Server.onUpdate
  have hsame := handle_same env h hid haction
  generalize s.handle env packet c = x at hsame
  generalize t.handle env packet c = y at hsame
  cases hsame with
  | none => exact .none
  | @some reply reply' hrel =>
      obtain ⟨outcome, hplayers, hreply⟩ := hrel
      obtain ⟨srv, sent, result⟩ := reply
      obtain ⟨srv', sent', result'⟩ := reply'
      obtain ⟨rfl, rfl, rfl, rfl, hrecipients, hno⟩ := hreply
      have hsends : Heard game.clientIds ((s.settle key outcome).resultSends c result')
          ((t.settle key outcome).resultSends c result') :=
        resultSends_heard (by simp [h.clients]) h.mem hno
      simp only [Option.bind_eq_bind, Option.bind_some]
      by_cases hlogged : Server.logged result' = true
      · rw [if_pos hlogged, if_pos hlogged]
        refine .some ⟨outcome, hplayers, rfl, rfl, ?_, rfl, fun x hx => ?_, hno⟩
        · exact congrArg (sent' ++ ·) hsends.same
        · rcases List.mem_append.mp hx with hx | hx
          · exact hrecipients x hx
          · exact hsends.recipients x hx
      · rw [if_neg hlogged, if_neg hlogged]
        exact .none

end

end VangersSrv
