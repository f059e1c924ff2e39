/-
Whoever is sent something is connected, and what is sent was built and is of a kind that the
request causes.

A notification goes through the list of the connected clients, and an answer to the one that asked
if it is there; and every packet comes from `Packet::new` or `create_answer`.  One lemma per
handler, in the order of `Server.handle`.
-/
import VangersSrv.Server.Replies
import VangersSrv.Server.Registration

namespace VangersSrv

/-- A packet as `Packet::new` and `create_answer` build it. -/
structure Packet.Built (p : Packet) : Prop where
  fits : Fits p.data
  realAction : p.realAction = p.action.toU8

/-- The kinds of packets that a request can make the server send. -/
def Action.causes : Action → List Action
  | attachToGame => [attachToGameResponse, zTimeResponse, updateObject]
  | restoreConnection => [restoreConnectionResponse]
  | gamesListQuery => [gamesListResponse]
  | serverTimeQuery => [serverTime]
  | topListQuery => [topListResponse]
  | totalPlayersDataQuery => [totalListOfPlayersData]
  | registerName => [playersName]
  | setPlayerData => [playersData]
  | getGameData => [gameDataResponse]
  | createObject => [updateObject, itemState, playersPosition]
  | setWorld => [deleteObject, playersWorld, playersStatus, setWorldResponse, worldSnapshotBegin,
      totalListOfPlayersData, updateObject, itemState, worldSnapshotEnd]
  | leaveWorld => [deleteObject, playersWorld]
  | updateObject => [updateObject, itemState]
  | deleteObject => [deleteObject, itemRemoved]
  | itemTransfer => [itemState]
  | directSending => [directReceiving]
  | closeSocket => [deleteObject, playersWorld, playersStatus]
  | _ => []

/-- A packet that was built, of one of some kinds. -/
structure Packet.Of (kinds : List Action) (p : Packet) : Prop where
  built : p.Built
  kind : p.action ∈ kinds

/-- Everything is of one of the kinds, and goes to a client that is connected. -/
def Mailed (srv : Server) (kinds : List Action) (sent : List Sent) : Prop :=
  ∀ s ∈ sent, s.client ∈ srv.connected ∧ s.packet.Of kinds

/-- What a handler sends, and what it answers. -/
structure Posted (srv : Server) (kinds : List Action) (r : Reply) : Prop where
  sent : Mailed srv kinds r.sent
  response : ∀ p, r.result = .ok (.response p) → p.Of kinds

section

variable {env : Env} {packet p : Packet} {c : ClientID} {srv srv' : Server} {r : Reply}
  {sent sent' : List Sent} {realtime : Bool} {action : Action} {data : Bytes} {v : Vanject}
  {packets : List Packet} {kinds kinds' : List Action}

/-! ### Packets -/

theorem Packet.Built.of_new (h : Packet.new action data = some p) : p.Built := by
  refine ⟨Packet.new_fits h, ?_⟩
  unfold Packet.new at h
  split at h
  · obtain rfl := Option.some.inj h
    rfl
  · cases h

theorem Packet.Built.of_createAnswer (h : packet.createAnswer data = some p) : p.Built := by
  refine ⟨Packet.createAnswer_fits h, ?_⟩
  unfold Packet.createAnswer at h
  obtain ⟨answer, -, h⟩ := Option.bind_eq_some_iff.mp h
  split at h
  · obtain rfl := Option.some.inj h
    rfl
  · cases h

namespace Packet.Of

theorem of_new (h : Packet.new action data = some p) (hkind : action ∈ kinds) : p.Of kinds :=
  ⟨.of_new h, by rw [(Packet.new_eq_some h).1]; exact hkind⟩

theorem of_createAnswer (haction : packet.action = action) (h : packet.createAnswer data = some p)
    (hkind : ∀ kind ∈ action.requestToResponse, kind ∈ kinds) : p.Of kinds :=
  ⟨.of_createAnswer h, hkind _ (haction ▸ (Packet.createAnswer_eq_some h).1)⟩

theorem of_statePacket (h : statePacket v = some p) (hupdate : .updateObject ∈ kinds)
    (hitem : .itemState ∈ kinds) : p.Of kinds := by
  unfold statePacket itemStatePacket at h
  split at h
  · exact of_new h hitem
  · exact of_new h hupdate

theorem of_deletePacket {id : I32} {bind : UInt8} (h : deletePacket packet id bind = some p)
    (hkind : .deleteObject ∈ kinds) : p.Of kinds := by
  unfold deletePacket at h
  simp only [Option.bind_eq_bind, Option.bind_eq_some_iff] at h
  obtain ⟨time, -, rest, -, h⟩ := h
  exact of_new h hkind

end Packet.Of

/-- Such a packet has bytes. -/
theorem Packet.Built.asBytes_isSome (h : p.Built) : p.asBytes.isSome := by
  have hfits := h.fits
  unfold Fits at hfits
  simp [Packet.asBytes, Nat.add_comm 1, hfits]

/-! ### Notifications -/

namespace Mailed

theorem nil : Mailed srv kinds [] := fun _ hs => by cases hs

theorem append (h : Mailed srv kinds sent) (h' : Mailed srv kinds sent') : Mailed srv kinds (sent ++ sent') :=
  fun s hs => (List.mem_append.mp hs).elim (h s) (h' s)

theorem flatMap {α : Type} {l : List α} {f : α → List Sent} (h : ∀ a ∈ l, Mailed srv kinds (f a)) :
    Mailed srv kinds (l.flatMap f) := by
  intro s hs
  obtain ⟨a, ha, hs⟩ := List.mem_flatMap.mp hs
  exact h a ha s hs

theorem mono (h : Mailed srv' kinds sent) (hsub : ∀ x ∈ srv'.connected, x ∈ srv.connected) :
    Mailed srv kinds sent :=
  fun s hs => ⟨hsub s.client (h s hs).1, (h s hs).2⟩

theorem sendTo {ids : List ClientID} (hp : p.Of kinds) : Mailed srv kinds (srv.sendTo ids p realtime) := by
  intro s hs
  obtain ⟨⟨client, hclient, hid⟩, -, rfl, -⟩ := Server.mem_sendTo.mp hs
  exact ⟨List.mem_map.mpr ⟨client, hclient, hid⟩, hp⟩

theorem notify {filter : ClientID → Bool} (hp : p.Of kinds) :
    Mailed srv kinds (srv.notify c p filter realtime) := by
  unfold Server.notify
  split
  · exact sendTo hp
  · exact nil

theorem notifyWorld {w : UInt8} {incl : Bool} (hp : p.Of kinds) :
    Mailed srv kinds (srv.notifyWorld c w p incl realtime) := by
  unfold Server.notifyWorld
  split
  · exact sendTo hp
  · exact nil

theorem notifyObject {id : I32} (hp : p.Of kinds) : Mailed srv kinds (srv.notifyObject c id p realtime) := by
  rw [Server.notifyObject_eq]
  split
  · exact notifyWorld hp
  · exact notify hp

theorem notifyPlayers (h : ∀ p ∈ packets, p.Of kinds) :
    Mailed srv kinds (packets.flatMap (srv.notifyPlayer c)) :=
  flatMap fun p hp => notify (h p hp)

/-- The answer to a request. -/
theorem sendClient (hp : p.Of kinds) : Mailed srv kinds (srv.sendClient c p) := by
  unfold Server.sendClient
  split
  · rename_i client hfound
    intro s hs
    rw [List.mem_singleton.mp hs]
    exact ⟨List.mem_map.mpr ⟨client, List.mem_of_find?_eq_some hfound, rfl⟩, hp⟩
  · exact nil

end Mailed

namespace Posted

theorem widen (h : Posted srv kinds r) (hsub : kinds ⊆ kinds') : Posted srv kinds' r where
  sent := fun s hs => ⟨(h.sent s hs).1, (h.sent s hs).2.built, hsub (h.sent s hs).2.kind⟩
  response := fun p hp => ⟨(h.response p hp).built, hsub (h.response p hp).kind⟩

/-! ### How a handler ends -/

theorem fail {err : OnUpdateError} (h : srv'.fail err = some r) : Posted srv kinds r := by
  obtain rfl := Server.fail_eq_some h
  exact ⟨.nil, by simp⟩

theorem complete (h : srv'.complete sent = some r) (hsent : Mailed srv kinds sent) :
    Posted srv kinds r := by
  obtain rfl := Server.complete_eq_some h
  exact ⟨hsent, by simp⟩

theorem responded (hp : p.Of kinds) (hsent : r.sent = []) (hr : r.result = .ok (.response p)) :
    Posted srv kinds r := by
  refine ⟨by rw [hsent]; exact .nil, fun q hq => ?_⟩
  obtain rfl : p = q := by simpa using hr.symm.trans hq
  exact hp

theorem respond (haction : packet.action = action) (h : srv.respond packet data = some r)
    (hkind : ∀ kind ∈ action.requestToResponse, kind ∈ kinds) : Posted srv kinds r := by
  unfold Server.respond at h
  split at h
  · rename_i answer hanswer
    obtain rfl := Option.some.inj h
    exact responded (.of_createAnswer haction hanswer hkind) rfl rfl
  · exact fail h

/-! ### Handlers -/

theorem attachToGame (haction : packet.action = .attachToGame)
    (h : srv.attachToGame env packet c = some r) : Posted srv Action.attachToGame.causes r := by
  rcases attachToGame_cases h with ⟨-, hfail⟩ | ⟨requested, -, ⟨-, err, hfail⟩ |
    ⟨found, bind, offsets, packets, time, header, -, -, -, -, hpackets, htime, h⟩⟩
  · exact fail hfail
  · exact fail hfail
  refine complete h ((Mailed.notifyPlayers fun p hp => ?_).mono fun x hx => ?_)
  · rcases List.mem_append.mp hp with hp | hp
    · rcases List.mem_append.mp hp with hp | hp
      · exact .of_createAnswer haction (Option.mem_toList.mp hp) (by decide)
      · rw [List.mem_singleton.mp hp]
        exact .of_new htime (by decide)
    · obtain ⟨v, -, hv⟩ := (mem_mapM hpackets).mp hp
      exact .of_new hv (by decide)
  · rw [← requestedGame_connected]
    exact hx

theorem restoreConnection (h : srv.restoreConnection packet c = some r) :
    Posted srv Action.restoreConnection.causes r := by
  unfold Server.restoreConnection at h
  split at h
  · exact fail h
  simp only [Option.bind_eq_bind, Option.bind_eq_some_iff] at h
  obtain ⟨idBytes, -, gameId, -, playerId, -, h⟩ := h
  split at h
  · simp only [Option.bind_eq_some_iff, Option.some.injEq] at h
    obtain ⟨answer, hanswer, rfl⟩ := h
    exact responded (.of_new hanswer (by decide)) rfl rfl
  split at h
  · simp only [Option.bind_eq_some_iff, Option.some.injEq] at h
    obtain ⟨answer, hanswer, rfl⟩ := h
    exact responded (.of_new hanswer (by decide)) rfl rfl
  · simp only [Option.bind_eq_some_iff, Option.some.injEq] at h
    obtain ⟨answer, hanswer, rfl⟩ := h
    exact responded (.of_new hanswer (by decide)) rfl rfl

theorem topListQuery (haction : packet.action = .topListQuery)
    (h : srv.topListQuery env packet = some r) :
    Posted srv Action.topListQuery.causes r := by
  rcases topListQuery_cases h with hfail | ⟨_, hrespond⟩
  · exact fail hfail
  · exact respond haction hrespond (by decide)

theorem totalPlayersDataQuery (h : srv.totalPlayersDataQuery c = some r) :
    Posted srv Action.totalPlayersDataQuery.causes r := by
  unfold Server.totalPlayersDataQuery at h
  split at h
  · exact fail h
  · simp only [Option.bind_eq_bind, Option.bind_eq_some_iff, Option.some.injEq] at h
    obtain ⟨answer, hanswer, rfl⟩ := h
    exact responded (.of_new hanswer (by decide)) rfl rfl

theorem registerName (haction : packet.action = .registerName)
    (h : srv.registerName env packet c = some r) : Posted srv Action.registerName.causes r := by
  rcases registerName_cases h with ⟨err, hfail⟩ |
    ⟨key, game, player, b, login, pwd, answer, -, -, hanswer, h⟩
  · exact fail hfail
  · exact complete h (.notify (.of_createAnswer haction hanswer (by decide)))

theorem setPlayerData (haction : packet.action = .setPlayerData)
    (h : srv.setPlayerData packet c = some r) : Posted srv Action.setPlayerData.causes r := by
  rcases setPlayerData_cases h with ⟨err, hfail⟩ | ⟨key, game, player, body, after, -, -, -, rfl,
    ⟨err, hfail, -, -⟩ | ⟨b, answer, hanswer, h⟩⟩
  · exact fail hfail
  · exact fail hfail
  · exact complete h (.notify (.of_createAnswer haction hanswer (by decide)))

theorem setPosition (h : srv.setPosition packet c = some r) : Posted srv kinds r := by
  unfold Server.setPosition at h
  split at h
  · exact fail h
  simp only [Option.bind_eq_bind, Option.bind_eq_some_iff] at h
  obtain ⟨s0, -, x, -, s2, -, y, -, s4, -, z, -, h⟩ := h
  split at h
  · exact fail h
  split at h
  · exact fail h
  split at h
  · exact complete h .nil
  · exact complete h .nil

theorem setGameData (h : srv.setGameData packet c = some r) : Posted srv kinds r := by
  rcases setGameData_cases h with ⟨err, hfail⟩ | ⟨key, game, name, rest, -, -, -, -, -,
    ⟨-, err, hfail⟩ | ⟨config, -, h⟩⟩
  · exact fail hfail
  · exact fail hfail
  · exact complete h .nil

theorem getGameData (haction : packet.action = .getGameData) (h : srv.getGameData packet c = some r) :
    Posted srv Action.getGameData.causes r := by
  unfold Server.getGameData at h
  split at h
  · exact fail h
  split at h
  · exact fail h
  · exact respond haction h (by decide)

theorem createAccepted {key : GameID} {game : Game} {player : Player}
    (h : srv.createAccepted c key game player v = some r) : Posted srv Action.createObject.causes r := by
  unfold Server.createAccepted at h
  split at h
  · simp only [Option.bind_eq_bind, Option.bind_eq_some_iff] at h
    obtain ⟨⟨player', parsed⟩, -, sent, hsent, srv₂, -, h⟩ := h
    refine complete h ?_
    unfold Server.announceVanger at hsent
    split at hsent
    · obtain ⟨answer, hanswer, rfl⟩ := Option.map_eq_some_iff.mp hsent
      exact .notifyWorld (.of_new hanswer (by decide))
    · obtain rfl := Option.some.inj hsent
      exact .nil
  · simp only [Option.bind_eq_bind, Option.bind_eq_some_iff] at h
    obtain ⟨answer, hanswer, srv₂, -, h⟩ := h
    exact complete h (.notifyObject (.of_statePacket hanswer (by decide) (by decide)))

theorem createObject (h : srv.createObject packet c = some r) :
    Posted srv Action.createObject.causes r := by
  rcases createObject_cases h with ⟨err, h⟩ | ⟨key, game, v, existing, packets, -, -, -, hpackets, h⟩ |
    ⟨key, game, player, bind, v, -, -, -, -, h⟩
  · exact fail h
  · obtain ⟨state, positions, rfl, hstate, hpositions⟩ := replayPackets_eq_some hpackets
    refine complete h (.notifyPlayers fun p hp => ?_)
    rcases List.mem_cons.mp hp with rfl | hp
    · exact .of_statePacket hstate (by decide) (by decide)
    · exact .of_new (hpositions p hp) (by decide)
  · exact createAccepted h

theorem updateObject (h : srv.updateObject packet c = some r) :
    Posted srv Action.updateObject.causes r := by
  rcases updateObject_cases h with ⟨err, h⟩ |
    ⟨key, game, _, _, _, _, _, answer, -, -, -, -, -, hanswer, h⟩
  · exact fail h
  · exact complete h (.notifyObject (.of_statePacket hanswer (by decide) (by decide)))

theorem deleteObject (h : srv.deleteObject packet c = some r) :
    Posted srv Action.deleteObject.causes r := by
  rcases deleteObject_cases h with ⟨err, h⟩ |
    ⟨key, game, _, _, id, answer, -, -, ⟨-, hanswer⟩ | ⟨v, -, -, hanswer⟩, h⟩
  · exact fail h
  · exact complete h (.notifyObject (.of_deletePacket hanswer (by decide)))
  · refine complete h (.notifyObject ?_)
    split at hanswer
    · exact .of_new hanswer (by decide)
    · exact .of_deletePacket hanswer (by decide)

theorem itemTransfer (h : srv.itemTransfer packet c = some r) :
    Posted srv Action.itemTransfer.causes r := by
  rcases itemTransfer_cases h with ⟨err, h⟩ | ⟨_, _, _, _, _, _, _, answer, -, -, -, -, -, hanswer, h⟩
  · exact fail h
  · exact complete h (.notifyWorld (.of_new hanswer (by decide)))

theorem directSending (haction : packet.action = .directSending)
    (h : srv.directSending packet c = some r) : Posted srv Action.directSending.causes r := by
  rcases directSending_cases h with ⟨err, hfail, -⟩ |
    ⟨key, game, mask, player, b, text, answer, -, -, -, -, -, hanswer, rfl⟩
  · exact fail hfail
  · exact complete rfl (.sendTo (.of_createAnswer haction hanswer (by decide)))

theorem leaveWorld (h : srv.leaveWorld env c = some r) :
    Posted srv Action.leaveWorld.causes r ∧ r.srv.connected = srv.connected := by
  rcases leaveWorld_cases h with ⟨err, hfail⟩ | ⟨key, game, player, bind, world, deletes,
    playersWorld, -, -, hdeletes, hplayersWorld, rfl⟩
  · obtain rfl := Server.fail_eq_some hfail
    exact ⟨fail rfl, rfl⟩
  refine ⟨complete rfl (.append (.flatMap fun e he => .notify ?_)
    (.notify (.of_new hplayersWorld (by decide)))), rfl⟩
  obtain ⟨v, -, -, hpacket⟩ := leaveDeletes_packet hdeletes ((env.drain_perm deletes).mem_iff.mp he)
  exact .of_new hpacket (by decide)

theorem closeLeft (h : srv.closeLeft c = some r) : Posted srv Action.closeSocket.causes r := by
  unfold Server.closeLeft at h
  split at h
  · exact fail h
  simp only [Option.bind_eq_bind, Option.bind_eq_some_iff] at h
  obtain ⟨player, -, h⟩ := h
  split at h
  · exact fail h
  simp only [Option.bind_eq_some_iff] at h
  obtain ⟨sent, hsent, srv₂, -, h⟩ := h
  refine complete h ?_
  unfold Server.announceFinished at hsent
  split at hsent
  · obtain ⟨finished, hfinished, rfl⟩ := Option.map_eq_some_iff.mp hsent
    exact .notify (.of_new hfinished (by decide))
  · obtain rfl := Option.some.inj hsent
    exact .nil

/-- What is sent in two parts. -/
theorem behind {left : Reply} (hleft : srv.leaveWorld env c = some left)
    (h : Posted left.srv kinds r) (hsub : Action.leaveWorld.causes ⊆ kinds) :
    Posted srv kinds { r with sent := left.sent ++ r.sent } := by
  obtain ⟨hposted, hsame⟩ := leaveWorld hleft
  exact ⟨(hposted.widen hsub).sent.append (h.sent.mono fun x hx => hsame ▸ hx), h.response⟩

theorem closeSocket (h : srv.closeSocket env c = some r) :
    Posted srv Action.closeSocket.causes r := by
  rcases closeSocket_cases h with ⟨left, hleft, ⟨closed, hclosed, rfl⟩ | ⟨rfl, -⟩⟩
  · exact behind hleft (closeLeft hclosed) (by decide)
  · exact (leaveWorld hleft).1.widen (by decide)

theorem enterWorld {worldId : UInt8} {ySize : I16} (haction : packet.action = .setWorld)
    (h : srv.enterWorld packet c worldId ySize = some r) : Posted srv Action.setWorld.causes r := by
  rcases enterWorld_cases h with ⟨err, s, hfail, -⟩ |
    ⟨key, game, player, bind, worlds, world, snapshot, changed, status, playersWorld, worldStatus,
      response, snapshotBegin, playersSnapshot, snapshotEnd, -, -, -, hsnapshot, hstatus, hpw,
      hresponse, hbegin, hplayers, hend, rfl⟩
  · exact fail hfail
  refine complete rfl (.append (.append ?_ (.notify (.of_new hpw (by decide))))
    (.notifyPlayers fun p hp => ?_))
  · split
    · exact .notify (.of_new hstatus (by decide))
    · exact .nil
  · simp only [List.mem_append, List.mem_cons, List.not_mem_nil, or_false] at hp
    rcases hp with ((rfl | rfl | rfl) | hp) | rfl
    · exact .of_createAnswer haction hresponse (by decide)
    · exact .of_new hbegin (by decide)
    · exact .of_new hplayers (by decide)
    · obtain ⟨v, -, hv⟩ := (mem_mapM hsnapshot).mp hp
      exact .of_statePacket hv (by decide) (by decide)
    · exact .of_new hend (by decide)

theorem setWorld (haction : packet.action = .setWorld) (h : srv.setWorld env packet c = some r) :
    Posted srv Action.setWorld.causes r := by
  obtain ⟨worldId, ySize, -, -, ⟨-, h⟩ | ⟨-, left, hleft, ⟨rfl, -⟩ |
    ⟨ok, entered, -, hentered, rfl⟩⟩⟩ := setWorld_cases h
  · exact enterWorld haction h
  · exact (leaveWorld hleft).1.widen (by decide)
  · exact behind hleft (enterWorld haction hentered) (by decide)

theorem handle (h : srv.handle env packet c = some r) : Posted srv packet.action.causes r := by
  unfold Server.handle at h
  split at h
  case h_1 haction => exact haction ▸ attachToGame haction h
  case h_2 haction => exact haction ▸ restoreConnection h
  case h_3 haction => exact haction ▸ respond haction h (by decide)
  case h_4 haction => exact haction ▸ respond haction h (by decide)
  case h_5 haction => exact haction ▸ topListQuery haction h
  case h_6 haction => exact haction ▸ totalPlayersDataQuery h
  case h_7 haction => exact haction ▸ registerName haction h
  case h_8 haction => exact haction ▸ setPlayerData haction h
  case h_9 => exact setPosition h
  case h_10 => exact setGameData h
  case h_11 haction => exact haction ▸ getGameData haction h
  case h_12 haction => exact haction ▸ createObject h
  case h_13 haction => exact haction ▸ setWorld haction h
  case h_14 haction => exact haction ▸ (leaveWorld h).1
  case h_15 haction => exact haction ▸ updateObject h
  case h_16 haction => exact haction ▸ deleteObject h
  case h_17 haction => exact haction ▸ itemTransfer h
  case h_18 haction => exact haction ▸ directSending haction h
  case h_19 haction => exact haction ▸ closeSocket h
  case h_20 => exact fail h

end Posted

/-! ### Rounds -/

/-- What a request makes the server send, its answer included. -/
theorem onUpdate_mailed (h : srv.onUpdate env c packet = some r) :
    Mailed srv packet.action.causes r.sent := by
  obtain ⟨reply, hreply, -, hsrv, hsent⟩ := onUpdate_result h
  obtain ⟨_, _, -, -, hh, -⟩ := onUpdate_handled h
  have hposted := Posted.handle hreply
  have hquiet := (handle_sound hreply).result
  have hsub : ∀ x ∈ reply.srv.connected, x ∈ srv.connected :=
    fun x hx => hh.clients.sub x (by rw [hsrv]; exact hx)
  rw [hsent]
  refine hposted.sent.append ?_
  cases hres : reply.result with
  | error err => exact .nil
  | ok ok =>
      cases ok with
      | response p => exact (Mailed.sendClient (hposted.response p hres)).mono hsub
      | broadcast p =>
          rw [hres] at hquiet
          exact absurd hquiet (by simp [QuietResult])
      | complete => exact .nil

/-- The kinds of packets that an input can make the server send. -/
def Input.causes : Input → List Action
  | .message _ (.updated packet) => packet.action.causes
  | .tick => Action.closeSocket.causes
  | _ => []

/-- **Whoever a round sends something to is connected, and every packet can be sent** and is of a kind
that the input causes. -/
theorem take_mailed {input : Input} (h : srv.take env input = some (srv', sent)) :
    Mailed srv input.causes sent := by
  cases input with
  | tick =>
      replace h : srv.closeAll env (srv.expiredClientIds env) = some (srv', sent) := h
      generalize srv.expiredClientIds env = ids at h
      induction ids generalizing srv sent with
      | nil =>
          obtain ⟨rfl, rfl⟩ := Prod.mk.inj (Option.some.inj h)
          exact .nil
      | cons id rest ih =>
          simp only [Server.closeAll, Option.bind_eq_bind, Option.bind_eq_some_iff, Option.some.injEq,
            Prod.mk.injEq] at h
          obtain ⟨closed, hclosed, ⟨mid, later⟩, hrest, rfl, rfl⟩ := h
          have hh : Handled env closePacket id srv closed.sent closed.srv :=
            (closeSocket_sound rfl hclosed).handled
          exact (Posted.closeSocket hclosed).sent.append ((ih hrest).mono hh.clients.sub)
  | add client =>
      obtain ⟨-, rfl⟩ := Prod.mk.inj (Option.some.inj h)
      exact .nil
  | message id message =>
      cases message with
      | status connection =>
          obtain ⟨-, rfl⟩ := Prod.mk.inj (Option.some.inj h)
          exact .nil
      | disconnected =>
          obtain ⟨-, rfl⟩ := Prod.mk.inj (Option.some.inj h)
          exact .nil
      | updated packet =>
          obtain ⟨reply, hreply, hsame⟩ := Option.map_eq_some_iff.mp h
          obtain ⟨-, rfl⟩ := Prod.mk.inj hsame
          exact onUpdate_mailed hreply

end

end VangersSrv
