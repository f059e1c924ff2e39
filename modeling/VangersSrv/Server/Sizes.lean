/-
When handling a request panics.

A handler panics for four reasons only: a read out of range, an object whose type has no place in
the table of id offsets, a sort of entries that its comparator does not order, and a packet that is
too large.
-/
import VangersSrv.Callback.Names
import VangersSrv.Server.Builds

namespace VangersSrv

namespace Server

/-! ### A handler gets through exactly when its packets fit -/

variable {env : Env} {srv : Server} {packet : Packet} {c : ClientID}

@[simp] theorem fail_isSome (err : OnUpdateError) : (srv.fail err).isSome = true := rfl

@[simp] theorem complete_isSome (sent : List Sent) : (srv.complete sent).isSome = true := rfl

@[simp] theorem respond_isSome (data : Bytes) : (srv.respond packet data).isSome = true := by
  unfold respond
  split <;> rfl

theorem attachPlayer_total (g : Game) (p : Player) : ∃ r, g.attachPlayer p = some r := by
  cases h : g.getUniqPlayerId with
  | none => exact ⟨_, Game.attachPlayer_of_none p h⟩
  | some b =>
      obtain ⟨g', hattach, -⟩ := Game.attachPlayer_of_some p h
      exact ⟨_, hattach⟩

theorem attachToGame_isSome (haction : packet.action = .attachToGame) :
    (srv.attachToGame env packet c).isSome ↔
      srv.OffsetsInTable env packet c ∧ ∀ d ∈ srv.attachToGameBuilds env packet c, Fits d := by
  unfold attachToGame
  by_cases hlen : packet.data.length = 4
  swap
  · simp [attachToGameBuilds, OffsetsInTable, joins, hlen]
  obtain ⟨requested, hrequested⟩ := sliceLeToI32_isSome hlen
  simp only [hlen, ne_eq, not_true_eq_false, if_false, hrequested, Option.bind_eq_bind,
    Option.bind_some]
  cases hfound : (srv.requestedGame env requested).1.games.lookup
      (srv.requestedGame env requested).2 with
  | none => simp [attachToGameBuilds, OffsetsInTable, joins, hlen, hrequested, hfound]
  | some found =>
      obtain ⟨r, hr⟩ := attachPlayer_total found (Player.new c)
      have hjoins : srv.joins env packet c = r := by
        simp [joins, hlen, hrequested, hfound, hr]
      simp only [hr, Option.bind_some, attachToGameBuilds, OffsetsInTable, haction, hjoins,
        forall_const]
      cases r with
      | none => simp
      | some joined =>
          obtain ⟨game, playerId⟩ := joined
          have htable : (∀ g id, some (game, playerId) = some (g, id) →
              (idOffsets id g.vanjects).isSome) ↔ (idOffsets playerId game.vanjects).isSome := by
            constructor
            · exact fun h => h game playerId rfl
            · rintro h g id ⟨⟩
              exact h
          rw [htable]
          cases hoffsets : idOffsets playerId game.vanjects with
          | none => simp [hoffsets]
          | some offsets =>
              have htime : Fits (toLeBytes32 env.unix) := by simp [Fits, i16Max]
              obtain ⟨time, ht⟩ := Packet.new_isSome .zTimeResponse htime
              simp only [hoffsets, ht, Option.bind_some, Option.isSome_some, true_and]
              rw [bind_isSome_iff fun _ => complete_isSome _, mapM_isSome_iff]
              simp only [Packet.new_isSome_iff, List.forall_mem_append, List.forall_mem_map,
                List.forall_mem_singleton, htime, and_true]

theorem restoreConnection_total : (srv.restoreConnection packet c).isSome := by
  unfold restoreConnection
  split
  · rfl
  obtain ⟨s, gameId, hs, hgameId⟩ := exists_readI32 (v := packet.data) (a := 0) (b := 4)
    (by omega) rfl
  obtain ⟨playerId, hplayerId⟩ := exists_getElem (v := packet.data) (i := 4) (by omega)
  have hanswer : ∀ b : UInt8, ∃ p, Packet.new .restoreConnectionResponse [b] = some p :=
    fun b => Packet.new_isSome _ (by simp [i16Max])
  obtain ⟨no, hno⟩ := hanswer 0
  obtain ⟨yes, hyes⟩ := hanswer 1
  simp only [hs, hgameId, hplayerId, hno, hyes, Option.bind_eq_bind, Option.bind_some]
  split
  · rfl
  split <;> rfl

theorem restoreConnectionBuilds_fit : ∀ d ∈ srv.restoreConnectionBuilds packet, Fits d := by
  intro d hd
  unfold restoreConnectionBuilds at hd
  split at hd
  · split at hd
    · simp at hd
    split at hd
    · rw [List.mem_singleton.mp hd]
      decide
    · rw [List.mem_singleton.mp hd]
      decide
  · simp at hd

theorem totalPlayersDataQuery_isSome :
    (srv.totalPlayersDataQuery c).isSome ↔
      ∀ d ∈ srv.totalPlayersDataQueryBuilds c, Fits d := by
  unfold totalPlayersDataQuery totalPlayersDataQueryBuilds
  cases hgame : srv.getGameByClientid c with
  | none => simp
  | some found =>
      have hlist : (totalPlayersDataPacket found.2).isSome ↔ Fits (playersList found.2) := by
        rw [totalPlayersDataPacket_eq, Packet.new_isSome_iff]
      simp only [List.mem_singleton, forall_eq, ← hlist]
      cases totalPlayersDataPacket found.2 <;> simp

/-! ### Handlers that build nothing of their own -/

theorem topEntries_total (game : Game) : (topEntries game).isSome := by
  have hremoved : ∀ p ∈ game.removedPlayers, ∃ e, (do
      let body ← Body.fromSlice p.body
      some (body.map fun body => { name := p.name, rating := body.rating : TopEntry })) = some e := by
    intro p _
    obtain ⟨body, hbody⟩ := Body.fromSlice_total p.body
    simp only [hbody, Option.bind_eq_bind, Option.bind_some]
    exact ⟨_, rfl⟩
  obtain ⟨entries, hentries⟩ := mapM_isSome hremoved
  unfold topEntries
  rw [hentries]
  rfl

theorem topListEntries_total (srv : Server) (mode : UInt8) :
    ∃ entries, srv.topListEntries mode = some entries := by
  obtain ⟨perGame, hgames⟩ : ∃ perGame, (srv.games.values.filter fun game =>
      game.isConfigured && asU8 game.getGmtype.toI32 = mode).mapM topEntries = some perGame :=
    Option.isSome_iff_exists.mp (mapM_isSome_iff.mpr fun game _ => topEntries_total game)
  simp only [topListEntries, hgames, Option.bind_eq_bind, Option.bind_some]
  exact ⟨_, rfl⟩

/-- The top list is sent exactly when its sort does not panic. -/
theorem topListQuery_isSome (haction : packet.action = .topListQuery) :
    (srv.topListQuery env packet).isSome ↔ srv.Sorts env packet := by
  unfold topListQuery Sorts
  cases packet.data.head? with
  | none => exact iff_of_true rfl fun _ _ hmode => by cases hmode
  | some mode =>
      obtain ⟨entries, hentries⟩ := srv.topListEntries_total mode
      simp only [hentries, Option.bind_eq_bind, Option.bind_some]
      rw [bind_isSome_iff fun _ => respond_isSome _]
      simp [haction, hentries]

theorem createAnswer_isSome {action : Action} {data : Bytes}
    (haction : packet.action.requestToResponse = some action) (hfits : Fits data) :
    (packet.createAnswer data).isSome := by
  unfold Packet.createAnswer
  rw [haction, Option.bind_some, if_pos (show data.length + 1 ≤ i16Max from hfits)]
  rfl

theorem registerName_total (haction : packet.action = .registerName) :
    (srv.registerName env packet c).isSome := by
  unfold registerName
  split
  · rfl
  rename_i key game hgame
  obtain ⟨player, hplayer⟩ := getGameByClientid_getPlayer hgame
  simp only [hplayer, Option.bind_eq_bind, Option.bind_some]
  split
  · rfl
  rename_i bind _
  split
  · rfl
  rename_i login pwd hauth
  obtain ⟨hne, hlen, -, -, -⟩ := extractAuthData_isClean hauth
  have hname : 1 < (withNul login).length ∧ (withNul login).getLast? = some 0 := by
    have hpos : 0 < login.length := List.length_pos_iff.mpr hne
    constructor
    · simp only [withNul, List.length_append, List.length_cons, List.length_nil]
      omega
    · simp [withNul]
  have hfits : Fits ([bind] ++ withNul login) := by
    simp only [Fits, withNul, i16Max, List.length_append, List.length_cons, List.length_nil]
    omega
  have hanswer : (packet.createAnswer ([bind] ++ withNul login)).isSome :=
    createAnswer_isSome (by rw [haction]; rfl) hfits
  obtain ⟨answer, hanswer⟩ := Option.isSome_iff_exists.mp hanswer
  simp only [Player.setAuth, if_pos hname, hanswer, Option.bind_some, complete_isSome]

theorem setPlayerData_total : (srv.setPlayerData packet c).isSome := by
  unfold setPlayerData
  split
  · rfl
  rename_i key game hgame
  obtain ⟨player, hplayer⟩ := getGameByClientid_getPlayer hgame
  obtain ⟨body, hbody⟩ := Body.fromSlice_total packet.data
  simp only [hplayer, Player.setBody, hbody, Option.map_some, Option.bind_eq_bind,
    Option.bind_some]
  split
  · split
    · rfl
    split <;> rfl
  · rfl

theorem setPosition_total : (srv.setPosition packet c).isSome := by
  unfold setPosition
  split
  · rfl
  obtain ⟨s0, x, hs0, hx⟩ := exists_readI16 (v := packet.data) (a := 0) (b := 2) (by omega) rfl
  obtain ⟨s2, y, hs2, hy⟩ := exists_readI16 (v := packet.data) (a := 2) (b := 4) (by omega) rfl
  obtain ⟨s4, z, hs4, hz⟩ := exists_readI16 (v := packet.data) (a := 4) (b := 6) (by omega) rfl
  simp only [hs0, hx, hs2, hy, hs4, hz, Option.bind_eq_bind, Option.bind_some]
  split
  · rfl
  split
  · rfl
  split <;> rfl

theorem setGameData_total : (srv.setGameData packet c).isSome := by
  unfold setGameData
  split
  · rfl
  rename_i key game _
  split
  · rfl
  rename_i hunset
  split
  · rfl
  rename_i name hname
  split
  · rfl
  obtain ⟨rest, hrest⟩ := exists_sliceFrom (length_cstrUntilNul hname)
  obtain ⟨config, hconfig⟩ := Config.fromSlice_total rest
  simp only [hrest, Game.setConfig, if_neg hunset, hconfig, Option.bind_eq_bind, Option.bind_some]
  cases config <;> rfl

theorem getGameData_total : (srv.getGameData packet c).isSome := by
  unfold getGameData
  split
  · rfl
  split
  · rfl
  · exact respond_isSome _

theorem directSending_total : (srv.directSending packet c).isSome := by
  unfold directSending
  split
  · rfl
  split
  · rfl
  obtain ⟨s, mask, hs, hmask⟩ := exists_readI32 (v := packet.data) (a := 0) (b := 4) (by omega) rfl
  obtain ⟨rest, hrest⟩ := exists_sliceFrom (v := packet.data) (a := 4) (by omega)
  simp only [hs, sliceLeToU32, hmask, Option.bind_eq_bind, Option.bind_some]
  split
  · rfl
  split
  · simp only [hrest, Option.bind_some]
    split
    · rfl
    split <;> rfl
  · rfl

/-! ### Objects -/

theorem replayPackets_isSome {v : Vanject} :
    (replayPackets v).isSome ↔ ∀ d ∈ replayData v, Fits d := by
  have hposition : Fits ([v.playerBindId] ++ v.pos.toVangersByte) := by
    simp [Fits, Pos.toVangersByte, i16Max]
  obtain ⟨position, hp⟩ := Packet.new_isSome .playersPosition hposition
  have hstate : (statePacket v).isSome ↔ Fits (stateData v) := by
    rw [statePacket_eq, Packet.new_isSome_iff]
  unfold replayPackets replayData
  cases hs : statePacket v with
  | none =>
      have hnot : ¬ Fits (stateData v) := by
        rw [← hstate, hs]
        simp
      simp [hnot]
  | some state =>
      have hfits : Fits (stateData v) := by
        rw [← hstate, hs]
        rfl
      simp only [hp, Option.bind_eq_bind, Option.bind_some]
      split
      · simpa [hfits] using hposition
      · simp [hfits]

/-- An object is stored in the game of its sender. -/
theorem storeVanject_isSome {v : Vanject} {key : GameID} {game : Game}
    (hgame : srv.getGameByClientid c = some (key, game)) : (srv.storeVanject c v).isSome := by
  unfold storeVanject
  rw [hgame]
  rfl

theorem createAccepted_isSome {key : GameID} {game : Game} {player : Player} {v : Vanject}
    (hgame : srv.getGameByClientid c = some (key, game)) (hplayer : game.getPlayer c = some player) :
    (srv.createAccepted c key game player v).isSome ↔ ∀ d ∈ createAcceptedBuilds v, Fits d := by
  unfold createAccepted createAcceptedBuilds
  split
  · obtain ⟨body, hbody⟩ := Body.fromSlice_total v.body
    have hplayer' : (game.modifyPlayer c fun _ => { player with pos := v.pos, body }).getPlayer c
        = some { player with pos := v.pos, body } :=
      Game.getPlayer_modifyPlayer hplayer rfl
    have hgame' := getGameByClientid_setGame hgame ⟨_, hplayer'⟩
    obtain ⟨stored, hstored⟩ := Option.isSome_iff_exists.mp (storeVanject_isSome (v := v) hgame')
    simp only [Player.setBody, hbody, Option.map_some, Option.bind_eq_bind, Option.bind_some,
      hstored]
    rw [bind_isSome_iff fun _ => complete_isSome _]
    unfold announceVanger
    cases body with
    | none => simp
    | some body => simp [Packet.new_isSome_iff]
  · obtain ⟨stored, hstored⟩ := Option.isSome_iff_exists.mp (storeVanject_isSome (v := v) hgame)
    simp only [hstored, Option.bind_eq_bind, Option.bind_some]
    rw [bind_isSome_iff fun _ => complete_isSome _, statePacket_eq, Packet.new_isSome_iff]
    simp

theorem createObject_isSome :
    (srv.createObject packet c).isSome ↔ ∀ d ∈ srv.createObjectBuilds packet c, Fits d := by
  obtain ⟨r, hr⟩ := Vanject.createFromSlice_total packet.data
  unfold createObject createObjectBuilds
  simp only [hr, Option.bind_eq_bind, Option.bind_some]
  cases r with
  | error err => simp
  | ok vanject =>
      cases hgame : srv.getGameByClientid c with
      | none => simp
      | some found =>
          obtain ⟨key, game⟩ := found
          simp only
          cases game.vanjects.lookup vanject.id with
          | some existing =>
              simp only
              rw [bind_isSome_iff fun _ => complete_isSome _, replayPackets_isSome]
          | none =>
              obtain ⟨player, hplayer⟩ := getGameByClientid_getPlayer hgame
              simp only [hplayer, Option.bind_some]
              generalize (if isItemVanject vanject = true then
                itemHasPairedVanject vanject game.vanjects else none) = paired
              cases paired with
              | some pairedId => simp
              | none =>
                  cases player.bindVanject vanject with
                  | none => simp
                  | some v => exact createAccepted_isSome hgame hplayer

theorem updateObject_isSome :
    (srv.updateObject packet c).isSome ↔ ∀ d ∈ srv.updateObjectBuilds packet c, Fits d := by
  unfold updateObject updateObjectBuilds
  by_cases hlen : packet.data.length < 4
  · have hnone : sliceLeToI32 (packet.data.take 4) = none := by
      unfold sliceLeToI32
      rw [if_neg]
      rw [List.length_take]
      omega
    simp [hlen, hnone]
  obtain ⟨s, id, hs, hid⟩ := exists_readI32 (v := packet.data) (a := 0) (b := 4) (by omega) rfl
  have htake := slice_zero_four hs
  subst htake
  simp only [hlen, if_false, hs, hid, Option.bind_eq_bind, Option.bind_some]
  cases hgame : srv.getGameByClientid c with
  | none => simp
  | some found =>
      obtain ⟨key, game⟩ := found
      obtain ⟨player, hplayer⟩ := getGameByClientid_getPlayer hgame
      simp only [hplayer, Option.bind_some]
      cases player.bindId with
      | none => simp
      | some bind =>
          simp only
          cases game.vanjects.lookup id with
          | none => simp
          | some vanject =>
              obtain ⟨parsed, hparsed⟩ := vanject.updateFromSlice_total packet.data
              simp only [hparsed, Option.bind_some]
              cases updateRejection vanject id c bind player.worldId with
              | some err => simp
              | none =>
                  cases parsed with
                  | error err => simp
                  | ok updated =>
                      simp only
                      rw [bind_isSome_iff fun _ => complete_isSome _, statePacket_eq,
                        Packet.new_isSome_iff]
                      simp

/-- A delete request is relayed when it is long enough and what is built fits. -/
theorem deletePacket_isSome {id : I32} {bind : UInt8} :
    (deletePacket packet id bind).isSome ↔
      (deletePacketReads packet).isSome ∧ Fits (deleteData packet id bind) := by
  rw [deletePacketReads_isSome]
  unfold deletePacket deleteData
  by_cases hlen : 8 ≤ packet.data.length
  · have htime : slice packet.data 4 8 = some ((packet.data.drop 4).take 4) :=
      slice_eq_some.mpr ⟨⟨by omega, hlen⟩, rfl⟩
    have hrest : sliceFrom packet.data 8 = some (packet.data.drop 8) :=
      sliceFrom_eq_some.mpr ⟨hlen, rfl⟩
    simp only [htime, hrest, Option.bind_eq_bind, Option.bind_some, Packet.new_isSome_iff, hlen,
      true_and]
  · have hnone : slice packet.data 4 8 = none := by
      rw [Option.eq_none_iff_forall_ne_some]
      intro s hs
      exact hlen (slice_eq_some.mp hs).1.2
    simp [hnone, hlen]

theorem deleteAccepted_isSome {key : GameID} {game : Game} {id : I32} (answer : Packet) :
    (srv.deleteAccepted c key game id answer).isSome := rfl

theorem deleteObject_isSome :
    (srv.deleteObject packet c).isSome ↔
      (srv.deleteObjectReads packet c).isSome ∧ ∀ d ∈ srv.deleteObjectBuilds packet c, Fits d := by
  unfold deleteObject deleteObjectReads deleteObjectBuilds
  cases hs : slice packet.data 0 4 with
  | none => simp
  | some s =>
      have htake := slice_zero_four hs
      subst htake
      simp only [Option.bind_eq_bind, Option.bind_some]
      cases sliceLeToI32 (packet.data.take 4) with
      | none => simp
      | some id =>
          simp only [Option.bind_some]
          cases hgame : srv.getGameByClientid c with
          | none => simp
          | some found =>
              obtain ⟨key, game⟩ := found
              obtain ⟨player, hplayer⟩ := getGameByClientid_getPlayer hgame
              simp only [hplayer, Option.bind_some]
              cases player.bindId with
              | none => simp
              | some bind =>
                  have hrelay : ((deletePacket packet id bind).bind fun answer =>
                      srv.deleteAccepted c key game id answer).isSome ↔
                        (deletePacketReads packet).isSome ∧
                          ∀ d ∈ [deleteData packet id bind], Fits d := by
                    rw [bind_isSome_iff deleteAccepted_isSome, deletePacket_isSome,
                      List.forall_mem_singleton]
                  simp only
                  cases game.vanjects.lookup id with
                  | none => exact hrelay
                  | some vanject =>
                      simp only
                      by_cases hown : vanject.playerBindId = bind
                      · simp only [hown, ne_eq, not_true_eq_false, if_false]
                        by_cases hitem : isItemVanject vanject = true
                        · simp only [hitem, if_true, true_and]
                          split
                          · simp
                          · rw [bind_isSome_iff deleteAccepted_isSome]
                            simp [itemRemovedPacket, itemRemovedData, Packet.new_isSome_iff]
                        · simp only [hitem]
                          exact hrelay
                      · simp [hown]

theorem itemTransfer_isSome :
    (srv.itemTransfer packet c).isSome ↔ ∀ d ∈ srv.itemTransferBuilds packet c, Fits d := by
  obtain ⟨r, hr⟩ := ItemTransfer.parse_total packet
  unfold itemTransfer itemTransferBuilds
  simp only [hr, Option.bind_eq_bind, Option.bind_some]
  cases r with
  | error err => simp
  | ok transfer =>
      cases hgame : srv.getGameByClientid c with
      | none => cases hvalid : transfer.validate <;> simp [hvalid]
      | some found =>
          obtain ⟨key, game⟩ := found
          cases hvalid : transfer.validate with
          | error err => simp [hvalid]
          | ok _ =>
              cases hplayer : game.getPlayer c with
              | none => simp [hvalid, hplayer]
              | some player =>
                  simp only [hvalid, hplayer]
                  cases player.bindId with
                  | none => simp
                  | some bind =>
                      cases player.worldId with
                      | none => simp
                      | some world =>
                          simp only
                          cases transfer.check game.vanjects bind world with
                          | error err => simp
                          | ok old =>
                              simp only
                              rw [bind_isSome_iff fun _ => complete_isSome _]
                              simp [itemStatePacket, Packet.new_isSome_iff]

/-! ### Worlds -/

theorem leaveWorldBuilds_fit : ∀ d ∈ srv.leaveWorldBuilds c, Fits d := by
  intro d hd
  unfold leaveWorldBuilds at hd
  split at hd
  · simp at hd
  split at hd
  · simp at hd
  split at hd
  · rcases List.mem_append.mp hd with hd | hd
    · obtain ⟨e, -, rfl⟩ := List.mem_map.mp hd
      simp [Fits, i16Max]
    · rw [List.mem_singleton.mp hd]
      simp [Fits, i16Max]
  · simp at hd

theorem closeLeftBuilds_fit : ∀ d ∈ srv.closeLeftBuilds c, Fits d := by
  intro d hd
  unfold closeLeftBuilds at hd
  split at hd
  · simp at hd
  split at hd
  · simp at hd
  split at hd
  · simp at hd
  split at hd
  · rw [List.mem_singleton.mp hd]
    simp [Fits, i16Max]
  · simp at hd

theorem closeSocketBuilds_fit : ∀ d ∈ srv.closeSocketBuilds env c, Fits d := by
  intro d hd
  unfold closeSocketBuilds at hd
  rcases List.mem_append.mp hd with hd | hd
  · exact leaveWorldBuilds_fit d hd
  split at hd
  · simp at hd
  split at hd
  · exact closeLeftBuilds_fit d hd
  · exact closeLeftBuilds_fit d hd
  · simp at hd

/-- The world that a player is placed in is one of the game's, and so is the player. -/
theorem placePlayer_isSome {game : Game} {player : Player} {world : World}
    (hplayer : game.getPlayer c = some player) (hworld : world ∈ game.worlds) :
    (game.placePlayer c world).isSome := by
  obtain ⟨w, hw⟩ : ∃ w, game.worlds.find? (fun w => w.id = world.id) = some w := by
    rw [← Option.isSome_iff_exists, List.find?_isSome]
    exact ⟨world, hworld, decide_eq_true rfl⟩
  unfold Game.placePlayer
  rw [hplayer, hw]
  simp only [Option.bind_eq_bind, Option.bind_some]
  split <;> rfl

theorem fits_of_le_two {d : Bytes} (h : d.length ≤ 2) : Fits d := by
  simp only [Fits, i16Max]
  omega

/-- What decides whether the packets of an entry fit: the snapshot and the players list. -/
theorem entryBuilds_fit {snapshot : List Vanject} {list : Bytes} {b w : UInt8} {changed : Bool} :
    (∀ d ∈ snapshot.map stateData ++ ((if changed then [[b, Status.gaming.toU8]] else [])
        ++ [[b, w], [w], list, [w]]), Fits d) ↔
      (∀ v ∈ snapshot, Fits (stateData v)) ∧ Fits list := by
  have hgaming : Fits [b, Status.gaming.toU8] := fits_of_le_two (by simp)
  have hin : Fits [b, w] := fits_of_le_two (by simp)
  have hone : Fits [w] := fits_of_le_two (by simp)
  simp only [List.forall_mem_append, List.forall_mem_map, List.forall_mem_cons, hin, hone]
  cases changed <;> simp [hgaming]

theorem enterWorld_isSome {worldId : UInt8} {ySize : I16} (haction : packet.action = .setWorld) :
    (srv.enterWorld packet c worldId ySize).isSome ↔
      ∀ d ∈ srv.enterWorldBuilds c worldId ySize, Fits d := by
  unfold enterWorld enterWorldBuilds
  cases hgame : srv.getGameByClientid c with
  | none => simp
  | some found =>
      obtain ⟨key, game⟩ := found
      obtain ⟨player, hplayer⟩ := getGameByClientid_getPlayer hgame
      simp only
      cases hworld : findOrCreateWorld game worldId ySize with
      | error err => simp
      | ok made =>
          obtain ⟨game', world, worldStatus⟩ := made
          obtain ⟨hplayer', hmem⟩ := findOrCreateWorld_finds hworld hplayer
          simp only [hplayer', Option.bind_eq_bind, Option.bind_some]
          cases player.bindId with
          | none => simp
          | some bind =>
              obtain ⟨placed, hplaced⟩ := Option.isSome_iff_exists.mp
                (placePlayer_isSome hplayer' hmem)
              obtain ⟨game'', changed⟩ := placed
              obtain ⟨status, hstatus⟩ := Packet.new_isSome .playersStatus
                (fits_of_le_two (d := [bind, Status.gaming.toU8]) (by simp))
              obtain ⟨playersWorld, hplayersWorld⟩ := Packet.new_isSome .playersWorld
                (fits_of_le_two (d := [bind, worldId]) (by simp))
              obtain ⟨first, hfirst⟩ := Packet.new_isSome .worldSnapshotBegin
                (fits_of_le_two (d := [worldId]) (by simp))
              obtain ⟨last, hlast⟩ := Packet.new_isSome .worldSnapshotEnd
                (fits_of_le_two (d := [worldId]) (by simp))
              have hanswers : packet.action.requestToResponse = some .setWorldResponse := by
                rw [haction]
                rfl
              obtain ⟨response, hresponse⟩ := Option.isSome_iff_exists.mp
                (createAnswer_isSome hanswers (fits_of_le_two (d := [worldId, worldStatus]) (by simp)))
              simp only [hplaced, entryBuilds_fit, hstatus, hplayersWorld, hfirst, hlast, hresponse,
                Option.bind_some]
              have hsnapshot := mapM_isSome_iff (f := statePacket)
                (l := worldSnapshot game'.vanjects worldId bind)
              simp only [statePacket_eq, Packet.new_isSome_iff] at hsnapshot
              rw [← hsnapshot]
              cases (worldSnapshot game'.vanjects worldId bind).mapM statePacket with
              | none => simp
              | some snapshot =>
                  simp only [Option.bind_some, Option.isSome_some, true_and]
                  rw [bind_isSome_iff fun _ => complete_isSome _, totalPlayersDataPacket_eq,
                    Packet.new_isSome_iff]

theorem setWorld_isSome (haction : packet.action = .setWorld) :
    (srv.setWorld env packet c).isSome ↔
      (setWorldReads packet).isSome ∧ ∀ d ∈ srv.setWorldBuilds env packet c, Fits d := by
  unfold setWorld setWorldReads setWorldBuilds
  cases packet.data[0]? with
  | none => simp
  | some worldId =>
      simp only [Option.bind_eq_bind, Option.bind_some]
      cases slice packet.data 1 3 with
      | none => simp
      | some s =>
          simp only [Option.bind_some]
          cases sliceLeToI16 s with
          | none => simp
          | some ySize =>
              simp only [Option.bind_some, Option.isSome_some, true_and]
              obtain ⟨left, hleft⟩ : ∃ left, srv.leaveWorld env c = some left := leaveWorld_total
              split
              · have hempty : Fits [] := fits_of_le_two (by simp)
                simp only [hleft, Option.bind_some, List.cons_append, List.forall_mem_cons, hempty,
                  List.forall_mem_append, true_and]
                cases left.result with
                | error err => simpa using leaveWorldBuilds_fit
                | ok _ =>
                    simp only
                    rw [bind_isSome_iff (fun _ => rfl), enterWorld_isSome haction]
                    exact ⟨fun h => ⟨leaveWorldBuilds_fit, h⟩, fun h => h.2⟩
              · exact enterWorld_isSome haction

/-! ### When handling panics -/

/-- The reasons, for a request that reads in range, records no offsets and sorts nothing. -/
theorem reasons_iff (hset : packet.action ≠ .setWorld) (hdelete : packet.action ≠ .deleteObject)
    (hattach : packet.action ≠ .attachToGame) (htop : packet.action ≠ .topListQuery) :
    ((srv.reads packet c).isSome ∧ srv.OffsetsInTable env packet c ∧ srv.Sorts env packet ∧
      ∀ d ∈ srv.builds env packet c, Fits d) ↔ ∀ d ∈ srv.builds env packet c, Fits d := by
  have hreads : (srv.reads packet c).isSome := by
    rw [reads_isSome]
    unfold LongEnough
    split
    · contradiction
    · contradiction
    · trivial
  have htable : srv.OffsetsInTable env packet c := fun haction => absurd haction hattach
  have hsorts : srv.Sorts env packet := fun haction => absurd haction htop
  exact ⟨fun h => h.2.2.2, fun h => ⟨hreads, htable, hsorts, h⟩⟩

theorem handle_isSome (hhandled : packet.action ∈ handledActions) :
    (srv.handle env packet c).isSome ↔
      (srv.reads packet c).isSome ∧ srv.OffsetsInTable env packet c ∧ srv.Sorts env packet ∧
        ∀ d ∈ srv.builds env packet c, Fits d := by
  unfold handle
  split
  case h_1 haction =>
    rw [attachToGame_isSome haction]
    simp [builds, reads, haction, attachToGameReads_total, Sorts]
  case h_13 haction =>
    rw [setWorld_isSome haction]
    simp [builds, reads, haction, OffsetsInTable, Sorts]
  case h_16 haction =>
    rw [deleteObject_isSome]
    simp [builds, reads, haction, OffsetsInTable, Sorts]
  case h_5 haction =>
    rw [topListQuery_isSome haction]
    simp [builds, reads, haction, OffsetsInTable]
  case h_20 => simp_all [handledActions]
  all_goals
    rename_i haction
    rw [reasons_iff (by simp [haction]) (by simp [haction]) (by simp [haction]) (by simp [haction])]
    simp only [builds, haction]
  case h_2 => exact iff_of_true restoreConnection_total restoreConnectionBuilds_fit
  case h_3 => exact iff_of_true (respond_isSome _) (by simp)
  case h_4 => exact iff_of_true (respond_isSome _) (by simp)
  case h_6 => exact totalPlayersDataQuery_isSome
  case h_7 => exact iff_of_true (registerName_total haction) (by simp)
  case h_8 => exact iff_of_true setPlayerData_total (by simp)
  case h_9 => exact iff_of_true setPosition_total (by simp)
  case h_10 => exact iff_of_true setGameData_total (by simp)
  case h_11 => exact iff_of_true getGameData_total (by simp)
  case h_12 => exact createObject_isSome
  case h_14 =>
    exact iff_of_true (Option.isSome_iff_exists.mpr leaveWorld_total) leaveWorldBuilds_fit
  case h_15 => exact updateObject_isSome
  case h_17 => exact itemTransfer_isSome
  case h_18 => exact iff_of_true directSending_total (by simp)
  case h_19 =>
    exact iff_of_true (Option.isSome_iff_exists.mpr closeSocket_total) closeSocketBuilds_fit

/-- A result of a handler is logged without a panic. -/
theorem logged_of_handled {r : Reply} (h : srv.handle env packet c = some r)
    (hhandled : packet.action ∈ handledActions) : logged r.result = true := by
  have himplemented := (handle_replied h hhandled).implemented
  unfold logged
  split
  · rename_i p hres
    exact absurd hres (himplemented p)
  · rfl

/-- **Handling a request panics for four reasons only.** A read of its data out of range, an
object without a place in the table of id offsets, a sort that panics, a packet that is too large. -/
theorem onUpdate_isSome : (srv.onUpdate env c packet).isSome ↔
    (srv.reads packet c).isSome ∧ srv.OffsetsInTable env packet c ∧ srv.Sorts env packet ∧
      ∀ d ∈ srv.builds env packet c, Fits d := by
  by_cases hhandled : packet.action ∈ handledActions
  · rw [← handle_isSome hhandled]
    unfold onUpdate
    cases hreply : srv.handle env packet c with
    | none => simp
    | some reply => simp [logged_of_handled hreply hhandled]
  · have hout : ∀ a ∈ handledActions, packet.action ≠ a := fun a ha heq => hhandled (heq ▸ ha)
    rw [reasons_iff (hout _ (by decide)) (hout _ (by decide)) (hout _ (by decide))
      (hout _ (by decide))]
    unfold onUpdate
    rw [handle_unhandled hhandled, fail]
    simp only [Option.bind_eq_bind, Option.bind_some, logged]
    by_cases hunknown : packet.action = .unknown
    · -- the text of an unknown action shows its bytes
      have hbytes : packet.asBytes.isSome = decide (Fits packet.data) := by
        simp only [Packet.asBytes, Fits, Nat.add_comm 1]
        by_cases hlen : packet.data.length + 1 ≤ i16Max <;> simp [hlen]
      simp only [hunknown, ne_eq, not_true_eq_false, decide_false, Bool.false_or, hbytes,
        decide_eq_true_eq, builds, List.forall_mem_singleton]
      split <;> simp_all
    · have hbuilds : srv.builds env packet c = [] := by
        unfold builds
        split <;> first | rfl | simp_all [handledActions]
      simp [hunknown, hbuilds]

end Server

end VangersSrv
