/-
What the replies of all handlers have in common.

Every packet that is sent was built by `Packet::new` or `create_answer`, so the size field
counts it; only a request without a handler is reported as not implemented; and a handler
that turns its request down has left the state as it was, but for `set_player_data` and
`set_world`, which check after they have written.  One lemma per handler, in the order of
`Handled`.
-/
import VangersSrv.Server.Registry

namespace VangersSrv

/-- Data that the size field can count. -/
def Fits (data : Bytes) : Prop := data.length + 1 ≤ i16Max

instance (data : Bytes) : Decidable (Fits data) := by
  unfold Fits
  infer_instance

theorem Packet.new_isSome_iff {action : Action} {data : Bytes} :
    (Packet.new action data).isSome ↔ Fits data := by
  unfold Packet.new Fits
  split <;> simp_all

theorem Packet.new_fits {action : Action} {data : Bytes} {p : Packet}
    (h : Packet.new action data = some p) : Fits p.data := by
  obtain ⟨-, hdata, hlen⟩ := Packet.new_eq_some h
  rw [hdata]
  exact hlen

theorem Packet.createAnswer_fits {packet p : Packet} {data : Bytes}
    (h : packet.createAnswer data = some p) : Fits p.data := by
  obtain ⟨-, hdata, hlen⟩ := Packet.createAnswer_eq_some h
  rw [hdata]
  exact hlen

/-- The state that a rejected request must leave alone: everything but the counter for game
ids and the time the server was started. -/
structure Untouched (srv : Server) (r : Reply) : Prop where
  games : r.srv.games = srv.games
  clients : r.srv.clients = srv.clients
  sent : r.sent = []

/-- The handlers that check after they have written. -/
def lateChecks : List Action := [.setPlayerData, .setWorld]

/-- What is shown of the reply of every handler. -/
structure Replied (packet : Packet) (srv : Server) (r : Reply) : Prop where
  sent : ∀ s ∈ r.sent, Fits s.packet.data
  response : ∀ p, r.result = .ok (.response p) → Fits p.data
  implemented : ∀ p, r.result ≠ .error (.notImplementedAction p)
  failed : ∀ err, r.result = .error err → packet.action ∉ lateChecks → Untouched srv r

variable {env : Env} {packet : Packet} {c : ClientID} {srv srv' : Server} {r : Reply}

namespace Replied

theorem fail {err : OnUpdateError} (h : srv.fail err = some r)
    (herr : ∀ p, err ≠ .notImplementedAction p) : Replied packet srv r := by
  obtain rfl := Server.fail_eq_some h
  refine ⟨by simp, by simp, ?_, fun _ _ _ => ⟨rfl, rfl, rfl⟩⟩
  intro p hp
  exact herr p (Except.error.inj hp)

/-- The state was written before the request was turned down. -/
theorem failLate {err : OnUpdateError} (h : srv'.fail err = some r)
    (herr : ∀ p, err ≠ .notImplementedAction p) (haction : packet.action ∈ lateChecks) :
    Replied packet srv r := by
  obtain ⟨hsent, hresponse, himplemented, -⟩ : Replied packet srv' r := fail h herr
  exact ⟨hsent, hresponse, himplemented, fun _ _ ha => absurd haction ha⟩

theorem complete {sent : List Sent} (h : srv'.complete sent = some r)
    (hsent : ∀ s ∈ sent, Fits s.packet.data) : Replied packet srv r := by
  obtain rfl := Server.complete_eq_some h
  exact ⟨hsent, by simp, by simp, by simp⟩

theorem responded {p : Packet} (hp : Fits p.data) (hr : r.result = .ok (.response p))
    (hsent : r.sent = []) : Replied packet srv r := by
  refine ⟨by simp [hsent], ?_, by simp [hr], by simp [hr]⟩
  intro q hq
  rw [hr] at hq
  simp only [Except.ok.injEq, OnUpdateOk.response.injEq] at hq
  rwa [← hq]

theorem respond {data : Bytes} (h : srv.respond packet data = some r) : Replied packet srv r := by
  unfold Server.respond at h
  split at h
  · rename_i answer hanswer
    simp only [Option.some.injEq] at h
    subst h
    exact responded (Packet.createAnswer_fits hanswer) rfl rfl
  · exact fail h (by simp)

end Replied

/-! ### What is notified -/

section

variable {p : Packet} (hp : Fits p.data)

include hp

theorem fits_notify {filter : ClientID → Bool} {realtime : Bool} :
    ∀ s ∈ srv.notify c p filter realtime, Fits s.packet.data := by
  intro s hs
  rw [Server.notify_packet hs]
  exact hp

theorem fits_notifyWorld {w : UInt8} {incl realtime : Bool} :
    ∀ s ∈ srv.notifyWorld c w p incl realtime, Fits s.packet.data := by
  intro s hs
  rw [Server.notifyWorld_packet hs]
  exact hp

theorem fits_notifyObject {id : I32} {realtime : Bool} :
    ∀ s ∈ srv.notifyObject c id p realtime, Fits s.packet.data := by
  rw [Server.notifyObject_eq]
  split
  · exact fits_notifyWorld hp
  · exact fits_notify hp

end

theorem fits_flatMap {packets : List Packet} (h : ∀ p ∈ packets, Fits p.data) :
    ∀ s ∈ packets.flatMap (srv.notifyPlayer c), Fits s.packet.data := by
  intro s hs
  obtain ⟨p, hp, hs⟩ := List.mem_flatMap.mp hs
  exact fits_notify (h p hp) s hs

/-! ### Queries -/

theorem totalPlayersDataQuery_replied (h : srv.totalPlayersDataQuery c = some r) :
    Replied packet srv r := by
  unfold Server.totalPlayersDataQuery at h
  split at h
  · exact Replied.fail h (by simp)
  · simp only [Option.bind_eq_bind, Option.bind_eq_some_iff, Option.some.injEq] at h
    obtain ⟨answer, hanswer, rfl⟩ := h
    exact Replied.responded (Packet.new_fits hanswer) rfl rfl

theorem topListQuery_replied (h : srv.topListQuery env packet = some r) : Replied packet srv r := by
  rcases topListQuery_cases h with hfail | ⟨_, hrespond⟩
  · exact Replied.fail hfail (by simp)
  · exact Replied.respond hrespond

theorem directSending_replied (h : srv.directSending packet c = some r) :
    Replied packet srv r := by
  rcases directSending_cases h with ⟨err, hfail, herr⟩ |
    ⟨key, game, mask, player, b, text, answer, -, -, -, -, -, hanswer, rfl⟩
  · exact Replied.fail hfail herr
  · refine Replied.complete rfl ?_
    intro s hs
    rw [(Server.mem_sendTo.mp hs).2.2.1]
    exact Packet.createAnswer_fits hanswer

/-! ### Joining and describing oneself -/

/-- A game that was asked for and not joined is one that was there: the counter has come
round. -/
theorem requestedGame_games {requested : I32} (h : srv.Refuses env c requested) :
    (srv.requestedGame env requested).1.games = srv.games := by
  by_cases h0 : requested = 0
  · subst h0
    by_cases hin : srv.gamesIdUniq + 1 ∈ srv.games
    · rw [Server.requestedGame_taken hin]
    · exact absurd h (not_refuses_fresh hin)
  · rw [Server.requestedGame_of_ne h0]

theorem attachToGame_replied (h : srv.attachToGame env packet c = some r) :
    Replied packet srv r := by
  rcases attachToGame_cases h with ⟨-, hfail⟩ | ⟨requested, -, ⟨hrefuses, err, hfail⟩ |
    ⟨found, bind, offsets, packets, time, header, -, -, -, -, hpackets, htime, h⟩⟩
  · exact Replied.fail hfail (by simp)
  · obtain ⟨hsent, hresponse, himplemented, hfailed⟩ :
        Replied packet (srv.requestedGame env requested).1 r := Replied.fail hfail (by simp)
    refine ⟨hsent, hresponse, himplemented, fun e hr ha => ?_⟩
    obtain ⟨hg, hc, hs⟩ := hfailed e hr ha
    exact ⟨hg.trans (requestedGame_games hrefuses), hc.trans Server.requestedGame_clients, hs⟩
  · refine Replied.complete h (fits_flatMap ?_)
    intro p hp
    rcases List.mem_append.mp hp with hp | hp
    · rcases List.mem_append.mp hp with hp | hp
      · exact Packet.createAnswer_fits (Option.mem_toList.mp hp)
      · rw [List.mem_singleton.mp hp]
        exact Packet.new_fits htime
    · obtain ⟨v, -, hv⟩ := (mem_mapM hpackets).mp hp
      exact Packet.new_fits hv

theorem restoreConnection_replied (h : srv.restoreConnection packet c = some r) :
    Replied packet srv r := by
  unfold Server.restoreConnection at h
  split at h
  · exact Replied.fail h (by simp)
  simp only [Option.bind_eq_bind, Option.bind_eq_some_iff] at h
  obtain ⟨idBytes, -, gameId, -, playerId, -, h⟩ := h
  split at h
  · simp only [Option.bind_eq_some_iff, Option.some.injEq] at h
    obtain ⟨answer, hanswer, rfl⟩ := h
    exact Replied.responded (Packet.new_fits hanswer) rfl rfl
  split at h
  · simp only [Option.bind_eq_some_iff, Option.some.injEq] at h
    obtain ⟨answer, hanswer, rfl⟩ := h
    exact Replied.responded (Packet.new_fits hanswer) rfl rfl
  · simp only [Option.bind_eq_some_iff, Option.some.injEq] at h
    obtain ⟨answer, hanswer, rfl⟩ := h
    exact Replied.responded (Packet.new_fits hanswer) rfl rfl

theorem registerName_replied (h : srv.registerName env packet c = some r) :
    Replied packet srv r := by
  rcases registerName_cases h with ⟨err, hfail⟩ |
    ⟨key, game, player, b, login, pwd, answer, -, -, hanswer, h⟩
  · exact Replied.fail hfail (by simp)
  · exact Replied.complete h (fits_notify (Packet.createAnswer_fits hanswer))

theorem setPlayerData_replied (haction : packet.action = .setPlayerData)
    (h : srv.setPlayerData packet c = some r) : Replied packet srv r := by
  have hlate : packet.action ∈ lateChecks := by simp [haction, lateChecks]
  rcases setPlayerData_cases h with ⟨err, hfail⟩ | ⟨key, game, player, body, after, -, -, -, -,
    ⟨err, hfail, herr, -⟩ | ⟨b, answer, hanswer, h⟩⟩
  · exact Replied.fail hfail (by simp)
  · exact Replied.failLate hfail herr hlate
  · exact Replied.complete h (fits_notify (Packet.createAnswer_fits hanswer))

theorem setPosition_replied (h : srv.setPosition packet c = some r) : Replied packet srv r := by
  unfold Server.setPosition at h
  split at h
  · exact Replied.fail h (by simp)
  simp only [Option.bind_eq_bind, Option.bind_eq_some_iff] at h
  obtain ⟨s0, -, x, -, s2, -, y, -, s4, -, z, -, h⟩ := h
  split at h
  · exact Replied.fail h (by simp)
  split at h
  · exact Replied.fail h (by simp)
  split at h
  · exact Replied.complete h (by simp)
  · exact Replied.complete h (by simp)

/-- The configuration that a failed attempt writes is the one that was there: none. -/
theorem setGameData_replied (h : srv.setGameData packet c = some r) : Replied packet srv r := by
  rcases setGameData_cases h with ⟨err, hfail⟩ | ⟨key, game, name, rest, hgame, hnone, -, -, -,
    ⟨-, err, hfail⟩ | ⟨config, -, h⟩⟩
  · exact Replied.fail hfail (by simp)
  · have hsame : { game with config := none } = game := by rw [← hnone]
    rw [hsame, setGame_self (Server.getGameByClientid_lookup hgame)] at hfail
    exact Replied.fail hfail (by simp)
  · exact Replied.complete h (by simp)

theorem getGameData_replied (h : srv.getGameData packet c = some r) : Replied packet srv r := by
  unfold Server.getGameData at h
  split at h
  · exact Replied.fail h (by simp)
  split at h
  · exact Replied.fail h (by simp)
  · exact Replied.respond h

/-! ### Objects -/

theorem statePacket_fits {v : Vanject} {p : Packet} (h : statePacket v = some p) : Fits p.data := by
  unfold statePacket itemStatePacket at h
  split at h <;> exact Packet.new_fits h

theorem replayPackets_fit {v : Vanject} {packets : List Packet} (h : replayPackets v = some packets) :
    ∀ p ∈ packets, Fits p.data := by
  obtain ⟨state, positions, rfl, hstate, hpositions⟩ := replayPackets_eq_some h
  intro p hp
  rcases List.mem_cons.mp hp with rfl | hp
  · exact statePacket_fits hstate
  · exact Packet.new_fits (hpositions p hp)

theorem createAccepted_replied {key : GameID} {game : Game} {player : Player} {v : Vanject}
    (h : srv.createAccepted c key game player v = some r) : Replied packet srv r := by
  unfold Server.createAccepted at h
  split at h
  · simp only [Option.bind_eq_bind, Option.bind_eq_some_iff] at h
    obtain ⟨⟨player', parsed⟩, -, sent, hsent, srv₂, -, h⟩ := h
    refine Replied.complete h ?_
    unfold Server.announceVanger at hsent
    split at hsent
    · obtain ⟨answer, hanswer, rfl⟩ := Option.map_eq_some_iff.mp hsent
      exact fits_notifyWorld (Packet.new_fits hanswer)
    · simp only [Option.some.injEq] at hsent
      subst hsent
      simp
  · simp only [Option.bind_eq_bind, Option.bind_eq_some_iff] at h
    obtain ⟨answer, hanswer, srv₂, -, h⟩ := h
    exact Replied.complete h (fits_notifyObject (statePacket_fits hanswer))

theorem createObject_replied (h : srv.createObject packet c = some r) : Replied packet srv r := by
  rcases createObject_cases h with ⟨err, h⟩ | ⟨key, game, v, existing, packets, -, -, -, hpackets, h⟩ |
    ⟨key, game, player, bind, v, -, -, -, -, h⟩
  · exact Replied.fail h (by simp)
  · exact Replied.complete h (fits_flatMap (replayPackets_fit hpackets))
  · exact createAccepted_replied h

theorem updateObject_replied (h : srv.updateObject packet c = some r) : Replied packet srv r := by
  rcases updateObject_cases h with ⟨err, h⟩ | ⟨_, _, _, _, _, _, _, answer, -, -, -, -, -, hanswer, h⟩
  · exact Replied.fail h (by simp)
  · exact Replied.complete h (fits_notifyObject (statePacket_fits hanswer))

theorem deleteAccepted_replied {key : GameID} {game : Game} {id : I32} {answer : Packet}
    (hanswer : Fits answer.data) (h : srv.deleteAccepted c key game id answer = some r) :
    Replied packet srv r :=
  Replied.complete h (fits_notifyObject hanswer)

theorem deletePacket_fits {id : I32} {bind : UInt8} {answer : Packet}
    (h : deletePacket packet id bind = some answer) : Fits answer.data := by
  unfold deletePacket at h
  simp only [Option.bind_eq_bind, Option.bind_eq_some_iff] at h
  obtain ⟨time, -, rest, -, h⟩ := h
  exact Packet.new_fits h

theorem deleteObject_replied (h : srv.deleteObject packet c = some r) : Replied packet srv r := by
  rcases deleteObject_cases h with ⟨err, h⟩ |
    ⟨_, _, _, _, _, answer, -, -, ⟨-, hanswer⟩ | ⟨v, -, -, hanswer⟩, h⟩
  · exact Replied.fail h (by simp)
  · exact deleteAccepted_replied (deletePacket_fits hanswer) h
  · split at hanswer
    · exact deleteAccepted_replied (Packet.new_fits hanswer) h
    · exact deleteAccepted_replied (deletePacket_fits hanswer) h

theorem itemTransfer_replied (h : srv.itemTransfer packet c = some r) : Replied packet srv r := by
  rcases itemTransfer_cases h with ⟨err, h⟩ | ⟨_, _, _, _, _, _, _, answer, -, -, -, -, -, hanswer, h⟩
  · exact Replied.fail h (by simp)
  · exact Replied.complete h (fits_notifyWorld (Packet.new_fits hanswer))

/-! ### Worlds -/

theorem leaveWorld_replied (h : srv.leaveWorld env c = some r) : Replied packet srv r := by
  rcases leaveWorld_cases h with ⟨err, hfail⟩ | ⟨key, game, player, bind, world, deletes,
    playersWorld, -, -, hdeletes, hplayersWorld, rfl⟩
  · exact Replied.fail hfail (by simp)
  refine Replied.complete rfl ?_
  intro s hs
  rcases List.mem_append.mp hs with hs | hs
  · obtain ⟨e, he, hs⟩ := List.mem_flatMap.mp hs
    obtain ⟨v, -, -, hpacket⟩ := leaveDeletes_packet hdeletes ((env.drain_perm deletes).mem_iff.mp he)
    exact fits_notify (Packet.new_fits hpacket) s hs
  · exact fits_notify (Packet.new_fits hplayersWorld) s hs

theorem closeLeft_replied (h : srv.closeLeft c = some r) : Replied packet srv r := by
  unfold Server.closeLeft at h
  split at h
  · exact Replied.fail h (by simp)
  simp only [Option.bind_eq_bind, Option.bind_eq_some_iff] at h
  obtain ⟨player, -, h⟩ := h
  split at h
  · exact Replied.fail h (by simp)
  simp only [Option.bind_eq_some_iff] at h
  obtain ⟨sent, hsent, srv₂, -, h⟩ := h
  refine Replied.complete h ?_
  unfold Server.announceFinished at hsent
  split at hsent
  · obtain ⟨finished, hfinished, rfl⟩ := Option.map_eq_some_iff.mp hsent
    exact fits_notify (Packet.new_fits hfinished)
  · simp only [Option.some.injEq] at hsent
    subst hsent
    simp

/-- A player that left its world is still there to be closed. -/
theorem leaveWorld_ok_acting (h : srv.leaveWorld env c = some r) {ok : OnUpdateOk}
    (hok : r.result = .ok ok) : ∃ key game player bind, Acting r.srv c key game player bind := by
  rcases leaveWorld_cases h with ⟨err, hfail⟩ | ⟨key, game, player, bind, _, _, _, hacting, -, -, -,
    rfl⟩
  · exact absurd hok (Server.fail_ne_ok hfail)
  · exact ⟨key, _, _, bind, hacting.left⟩

theorem closeSocket_replied (h : srv.closeSocket env c = some r) : Replied packet srv r := by
  rcases closeSocket_cases h with ⟨left, hleft, ⟨closed, hclosed, rfl⟩ | ⟨rfl, -⟩⟩
  swap
  · exact leaveWorld_replied hleft
  have hreplied : Replied packet srv left := leaveWorld_replied hleft
  obtain ⟨hsent, hresponse, himplemented, hfailed⟩ : Replied packet left.srv closed :=
    closeLeft_replied hclosed
  -- closing fails for a connection without a player, and that one left no world
  have hno : ∀ err, closed.result = .error err → left.srv = srv ∧ left.sent = [] := by
    intro err herr
    cases hres : left.result with
    | error _ => exact leaveWorld_error hleft hres
    | ok ok =>
        obtain ⟨key, game, player, bind, hacting⟩ := leaveWorld_ok_acting hleft hres
        rcases closeLeft_cases hclosed with ⟨hnone, -⟩ | ⟨_, _, _, _, -, hok, -⟩
        · exact absurd hacting (hnone key game player bind)
        · rw [hok] at herr
          cases herr
  refine ⟨?_, hresponse, himplemented, fun err herr ha => ?_⟩
  · intro s hs
    rcases List.mem_append.mp hs with hs | hs
    · exact hreplied.sent s hs
    · exact hsent s hs
  · obtain ⟨hg, hc, hs⟩ := hfailed err herr ha
    obtain ⟨hsrv, hleftSent⟩ := hno err herr
    exact ⟨by rw [← hsrv]; exact hg, by rw [← hsrv]; exact hc, by simp [hleftSent, hs]⟩

theorem enterWorld_replied {worldId : UInt8} {ySize : I16} (haction : packet.action = .setWorld)
    (h : srv.enterWorld packet c worldId ySize = some r) : Replied packet srv r := by
  rcases enterWorld_cases h with ⟨err, s, hfail, -⟩ |
    ⟨key, game, player, bind, worlds, world, snapshot, changed, status, playersWorld, worldStatus,
      response, snapshotBegin, playersSnapshot, snapshotEnd, -, -, -, hsnapshot, hstatus, hpw,
      hresponse, hbegin, hplayers, hend, rfl⟩
  · exact Replied.failLate hfail (by simp) (by simp [haction, lateChecks])
  have hpackets : ∀ p ∈ [response, snapshotBegin, playersSnapshot] ++ snapshot ++ [snapshotEnd],
      Fits p.data := by
    intro p hp
    simp only [List.mem_append, List.mem_cons, List.not_mem_nil, or_false] at hp
    rcases hp with ((rfl | rfl | rfl) | hp) | rfl
    · exact Packet.createAnswer_fits hresponse
    · exact Packet.new_fits hbegin
    · exact Packet.new_fits hplayers
    · obtain ⟨v, -, hv⟩ := (mem_mapM hsnapshot).mp hp
      exact statePacket_fits hv
    · exact Packet.new_fits hend
  refine Replied.complete rfl ?_
  intro s hs
  rcases List.mem_append.mp hs with hs | hs
  · rcases List.mem_append.mp hs with hs | hs
    · split at hs
      · exact fits_notify (Packet.new_fits hstatus) s hs
      · simp at hs
    · exact fits_notify (Packet.new_fits hpw) s hs
  · exact fits_flatMap hpackets s hs

theorem setWorld_replied (haction : packet.action = .setWorld)
    (h : srv.setWorld env packet c = some r) : Replied packet srv r := by
  have hlate : packet.action ∈ lateChecks := by simp [haction, lateChecks]
  obtain ⟨worldId, ySize, -, -, ⟨-, h⟩ | ⟨-, left, hleft, ⟨rfl, -⟩ |
    ⟨ok, entered, -, hentered, rfl⟩⟩⟩ := setWorld_cases h
  · exact enterWorld_replied haction h
  · exact leaveWorld_replied hleft
  · have hreplied : Replied packet srv left := leaveWorld_replied hleft
    obtain ⟨hsent, hresponse, himplemented, -⟩ := enterWorld_replied haction hentered
    refine ⟨?_, hresponse, himplemented, fun _ _ ha => absurd hlate ha⟩
    intro s hs
    rcases List.mem_append.mp hs with hs | hs
    · exact hreplied.sent s hs
    · exact hsent s hs

/-! ### All handlers -/

/-- The actions that have a handler. -/
def handledActions : List Action :=
  [.attachToGame, .restoreConnection, .serverTimeQuery, .gamesListQuery, .topListQuery,
    .totalPlayersDataQuery, .registerName, .setPlayerData, .setPosition, .setGameData, .getGameData,
    .createObject, .setWorld, .leaveWorld, .updateObject, .deleteObject, .itemTransfer,
    .directSending, .closeSocket]

theorem handle_replied (h : srv.handle env packet c = some r)
    (hhandled : packet.action ∈ handledActions) : Replied packet srv r := by
  unfold Server.handle at h
  split at h
  · exact attachToGame_replied h
  · exact restoreConnection_replied h
  · exact Replied.respond h
  · exact Replied.respond h
  · exact topListQuery_replied h
  · exact totalPlayersDataQuery_replied h
  · exact registerName_replied h
  · rename_i haction
    exact setPlayerData_replied haction h
  · exact setPosition_replied h
  · exact setGameData_replied h
  · exact getGameData_replied h
  · exact createObject_replied h
  · rename_i haction
    exact setWorld_replied haction h
  · exact leaveWorld_replied h
  · exact updateObject_replied h
  · exact deleteObject_replied h
  · exact itemTransfer_replied h
  · exact directSending_replied h
  · exact closeSocket_replied h
  · exfalso
    simp_all [handledActions]

/-- A request without a handler is reported. -/
theorem handle_unhandled (h : packet.action ∉ handledActions) :
    srv.handle env packet c = srv.fail (.notImplementedAction packet) := by
  unfold Server.handle
  split <;> first | rfl | simp_all [handledActions]

/-- What a reply without a handler would show is in order too. -/
theorem handle_sends (h : srv.handle env packet c = some r) :
    (∀ s ∈ r.sent, Fits s.packet.data) ∧ ∀ p, r.result = .ok (.response p) → Fits p.data := by
  by_cases hhandled : packet.action ∈ handledActions
  · have hreplied := handle_replied h hhandled
    exact ⟨hreplied.sent, hreplied.response⟩
  · rw [handle_unhandled hhandled, Server.fail, Option.some.injEq] at h
    subst h
    exact ⟨by simp, by simp⟩

/-- **Every packet that is sent has a size.** -/
theorem onUpdate_sent_fits (h : srv.onUpdate env c packet = some r) :
    ∀ s ∈ r.sent, Fits s.packet.data := by
  obtain ⟨reply, hhandle, -, -, hall⟩ := onUpdate_result h
  rw [hall]
  obtain ⟨hsent, hresponse⟩ := handle_sends hhandle
  have hquiet := (handle_sound hhandle).result
  intro s hs
  rcases List.mem_append.mp hs with hs | hs
  · exact hsent s hs
  cases hres : reply.result with
  | error err => simp [hres, Server.resultSends] at hs
  | ok ok =>
      cases ok with
      | response p =>
          simp only [hres, Server.resultSends, Server.sendClient] at hs
          split at hs
          · rw [List.mem_singleton.mp hs]
            exact hresponse p hres
          · simp at hs
      | broadcast p =>
          rw [hres] at hquiet
          exact absurd hquiet (by simp [QuietResult])
      | complete => simp [hres, Server.resultSends] at hs

end VangersSrv
