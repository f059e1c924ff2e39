/-
Which requests crash the server.

What is stored fits, so there are four kinds of requests that build a packet the size field cannot
count (`Oversized`): an item created or updated with so many bytes that the header of its state is
too much, and the two requests that are answered with a players list that has grown too long.
-/
import VangersSrv.Server.StoredFit

namespace VangersSrv

/-! ### Entering a world -/

section

variable {env : Env} {packet : Packet} {c : ClientID} {srv : Server} {key : GameID}
  {game : Game} {player : Player} {bind worldId : UInt8} {ySize : I16}

/-- The world asked for is not refused for its size. -/
def WorldFits (game : Game) (worldId : UInt8) (ySize : I16) : Prop :=
  ∀ w, game.worlds.find? (fun w => w.id = worldId) = some w → w.ySize = ySize

theorem findOrCreateWorld_isOk :
    (∃ made, findOrCreateWorld game worldId ySize = .ok made) ↔ WorldFits game worldId ySize := by
  unfold findOrCreateWorld WorldFits
  cases game.worlds.find? fun w => w.id = worldId with
  | none => simp
  | some world => by_cases hsize : world.ySize = ySize <;> simp [hsize]

theorem enterWorldBuilds_fit (worldId : UInt8) (ySize : I16)
    (hacting : Acting srv c key game player bind)
    (hstored : ∀ id v, game.vanjects.lookup id = some v → Fits (stateData v)) :
    (∀ d ∈ srv.enterWorldBuilds c worldId ySize, Fits d) ↔
      (WorldFits game worldId ySize → playersListSize game < i16Max) := by
  rw [← findOrCreateWorld_isOk]
  unfold Server.enterWorldBuilds
  rw [hacting.inGame]
  cases hworld : findOrCreateWorld game worldId ySize with
  | error err => simp [hworld]
  | ok made =>
      obtain ⟨game', world, worldStatus⟩ := made
      obtain ⟨-, hgame', -⟩ := findOrCreateWorld_ok hworld
      obtain ⟨hplayer', hmem⟩ := findOrCreateWorld_finds hworld hacting.found
      obtain ⟨⟨game'', changed⟩, hplaced⟩ := Option.isSome_iff_exists.mp
        (Server.placePlayer_isSome hplayer' hmem)
      obtain ⟨w, -, rfl⟩ := placePlayer_eq hplayer' hplaced
      have hsize : playersListSize (game'.modifyPlayer c fun p =>
          { p with world := some w, status := .gaming }) = playersListSize game := by
        rw [hgame']
        exact playersListSize_modify rfl rfl fun p => entrySize_congr rfl rfl rfl
      have hsnapshot : ∀ v ∈ worldSnapshot game'.vanjects worldId bind, Fits (stateData v) := by
        intro v hv
        obtain ⟨id, hid⟩ := AList.mem_values.mp (mem_worldSnapshot.mp hv).1
        rw [hgame'] at hid
        exact hstored id v hid
      simp only [hworld, hplayer', Option.bind_some, hacting.bound, hplaced,
        Server.entryBuilds_fit, Except.ok.injEq, exists_eq', forall_const, fits_playersList, hsize]
      exact ⟨fun h => h.2, fun h => ⟨hsnapshot, h⟩⟩

/-- A player that stands in a world leaves it. -/
theorem leaveWorld_of_world (env : Env) {world : World} (hacting : Acting srv c key game player bind)
    (hworld : player.world = some world) :
    ∃ left, srv.leaveWorld env c = some left ∧ left.result = .ok .complete ∧
      left.srv = srv.setGame key (game.left c bind) := by
  obtain ⟨left, hleft⟩ : ∃ left, srv.leaveWorld env c = some left := leaveWorld_total
  refine ⟨left, hleft, ?_⟩
  rcases leaveWorld_acting hacting hleft with ⟨hnone, -⟩ | ⟨-, hok⟩
  · rw [hworld] at hnone
    cases hnone
  · exact hok

theorem needsLeaveWorld_iff (hacting : Acting srv c key game player bind) :
    srv.needsLeaveWorld c worldId = true ↔ ∃ w, player.world = some w ∧ w.id ≠ worldId := by
  unfold Server.needsLeaveWorld
  rw [hacting.inGame, Option.bind_some, hacting.found, Option.bind_some, Player.worldId]
  cases player.world with
  | none => simp
  | some w => simp

theorem setWorldBuilds_fit (hacting : Acting srv c key game player bind)
    (hworldId : packet.data[0]? = some worldId)
    (hySize : (slice packet.data 1 3).bind sliceLeToI16 = some ySize)
    (hstored : ∀ id v, game.vanjects.lookup id = some v → Fits (stateData v)) :
    (∀ d ∈ srv.setWorldBuilds env packet c, Fits d) ↔
      (WorldFits game worldId ySize → playersListSize game < i16Max) := by
  unfold Server.setWorldBuilds
  rw [hworldId, hySize]
  simp only
  split
  · rename_i hneeds
    obtain ⟨world, hworld, -⟩ := (needsLeaveWorld_iff hacting).mp hneeds
    obtain ⟨left, hleft, hres, hsrv⟩ := leaveWorld_of_world env hacting hworld
    have hstored' : ∀ id v, (game.left c bind).vanjects.lookup id = some v → Fits (stateData v) :=
      fun id v hv => hstored id v (AList.lookup_retain_eq_some.mp hv).1
    have hsize : playersListSize (game.left c bind) = playersListSize game :=
      playersListSize_modify rfl rfl fun p => entrySize_congr rfl rfl rfl
    have henter := enterWorldBuilds_fit worldId ySize hacting.left hstored'
    simp only [hleft, hres, hsrv, List.cons_append, List.forall_mem_cons, List.forall_mem_append,
      henter, hsize]
    exact ⟨fun h => h.2.2, fun h => ⟨by decide, Server.leaveWorldBuilds_fit, h⟩⟩
  · exact enterWorldBuilds_fit worldId ySize hacting hstored

theorem leaveWorld_of_not_acting {r : Reply}
    (hnone : ∀ key game player bind, ¬ Acting srv c key game player bind)
    (h : srv.leaveWorld env c = some r) : ∃ err, r.result = .error err := by
  unfold Server.leaveWorld at h
  split at h
  · obtain rfl := Server.fail_eq_some h
    exact ⟨_, rfl⟩
  rename_i key game hgame
  simp only [Option.bind_eq_bind, Option.bind_eq_some_iff] at h
  obtain ⟨player, hplayer, h⟩ := h
  split at h
  · obtain rfl := Server.fail_eq_some h
    exact ⟨_, rfl⟩
  · rename_i bind hbind
    exact absurd ⟨hgame, hplayer, hbind⟩ (hnone key game player bind)

/-- A connection that cannot enter a world gets no list. -/
theorem setWorldBuilds_fit_of_not_acting
    (hnone : ∀ key game player bind, ¬ Acting srv c key game player bind) :
    ∀ d ∈ srv.setWorldBuilds env packet c, Fits d := by
  have henter : ∀ w y, srv.enterWorldBuilds c w y = [] := by
    intro w y
    unfold Server.enterWorldBuilds
    split
    · rfl
    rename_i key game hgame
    obtain ⟨player, hplayer⟩ := Server.getGameByClientid_getPlayer hgame
    split
    · rfl
    rename_i game' world _ hmade
    obtain ⟨-, hgame', -⟩ := findOrCreateWorld_ok hmade
    have hplayer' : game'.getPlayer c = some player := by
      rw [hgame']
      exact hplayer
    rw [hplayer', Option.bind_some]
    split
    · rfl
    · rename_i bind hbind
      exact absurd ⟨hgame, hplayer, hbind⟩ (hnone key game player bind)
  intro d hd
  unfold Server.setWorldBuilds at hd
  split at hd
  · split at hd
    · rcases List.mem_append.mp hd with hd | hd
      · rcases List.mem_cons.mp hd with rfl | hd
        · decide
        · exact Server.leaveWorldBuilds_fit d hd
      split at hd
      · simp at hd
      · rename_i left hleft
        obtain ⟨err, hres⟩ := leaveWorld_of_not_acting hnone hleft
        simp [hres] at hd
    · rw [henter] at hd
      simp at hd
  · simp at hd

end

/-! ### Requests that build too much -/

/-- The requests whose handling builds a packet that the size field cannot count. -/
inductive Oversized (srv : Server) (packet : Packet) (c : ClientID) : Prop
  /-- An accepted item whose state has no room for its header. -/
  | created {key : GameID} {game : Game} {player : Player} {bind : UInt8} {v : Vanject}
      (haction : packet.action = .createObject) (hacting : Acting srv c key game player bind)
      (hparse : Vanject.createFromSlice packet.data = some (.ok v))
      (hitem : isItemVanject v = true) (hnew : game.vanjects.lookup v.id = none)
      (hpaired : itemHasPairedVanject v game.vanjects = none)
      (hlong : 32762 < packet.data.length)
  | updated {key : GameID} {game : Game} {player : Player} {bind : UInt8} {id : I32} {v : Vanject}
      (haction : packet.action = .updateObject) (hacting : Acting srv c key game player bind)
      (hid : sliceLeToI32 (packet.data.take 4) = some id)
      (hlookup : game.vanjects.lookup id = some v) (hitem : isItemVanject v = true)
      (hpassed : updateRejection v id c bind player.worldId = none)
      (hlong : 32760 < packet.data.length)
  /-- The players list is asked for when it has grown too long. -/
  | listed {key : GameID} {game : Game} (haction : packet.action = .totalPlayersDataQuery)
      (hgame : srv.getGameByClientid c = some (key, game)) (hlong : i16Max ≤ playersListSize game)
  /-- A world is entered when the players list has grown too long. -/
  | entered {key : GameID} {game : Game} {player : Player} {bind worldId : UInt8} {ySize : I16}
      (haction : packet.action = .setWorld) (hacting : Acting srv c key game player bind)
      (hworldId : packet.data[0]? = some worldId)
      (hySize : (slice packet.data 1 3).bind sliceLeToI16 = some ySize)
      (hworld : WorldFits game worldId ySize) (hlong : i16Max ≤ playersListSize game)

section

variable {env : Env} {packet : Packet} {c : ClientID} {srv : Server}

theorem not_item_of_vanger {v : Vanject} (h : v.getType = NID.vanger) : isItemVanject v = false := by
  unfold isItemVanject
  rw [h]
  decide

namespace Oversized

/-- Who sends such a request has a player. -/
theorem inGame (h : Oversized srv packet c) : srv.getGameByClientid c ≠ none := by
  intro hnone
  cases h with
  | created _ hacting | updated _ hacting | entered _ hacting =>
      rw [hacting.inGame] at hnone
      cases hnone
  | listed _ hgame =>
      rw [hgame] at hnone
      cases hnone

section

variable {key : GameID} {game : Game} {player : Player} {bind : UInt8}

theorem created_iff {v : Vanject} (haction : packet.action = .createObject)
    (hacting : Acting srv c key game player bind)
    (hparse : Vanject.createFromSlice packet.data = some (.ok v)) :
    Oversized srv packet c ↔ isItemVanject v = true ∧ game.vanjects.lookup v.id = none ∧
      itemHasPairedVanject v game.vanjects = none ∧ 32762 < packet.data.length := by
  constructor
  · intro h
    cases h with
    | created _ hacting' hparse' hitem hnew hpaired hlong =>
        obtain ⟨rfl, rfl, rfl, rfl⟩ := hacting.unique hacting'
        rw [hparse] at hparse'
        cases hparse'
        exact ⟨hitem, hnew, hpaired, hlong⟩
    | updated ha | listed ha | entered ha => rw [haction] at ha; cases ha
  · intro ⟨hitem, hnew, hpaired, hlong⟩
    exact .created haction hacting hparse hitem hnew hpaired hlong

theorem updated_iff {id : I32} (haction : packet.action = .updateObject)
    (hacting : Acting srv c key game player bind)
    (hid : sliceLeToI32 (packet.data.take 4) = some id) :
    Oversized srv packet c ↔ ∃ v, game.vanjects.lookup id = some v ∧ isItemVanject v = true ∧
      updateRejection v id c bind player.worldId = none ∧ 32760 < packet.data.length := by
  constructor
  · intro h
    cases h with
    | updated _ hacting' hid' hlookup hitem hpassed hlong =>
        obtain ⟨rfl, rfl, rfl, rfl⟩ := hacting.unique hacting'
        obtain rfl := Option.some.inj (hid.symm.trans hid')
        exact ⟨_, hlookup, hitem, hpassed, hlong⟩
    | created ha | listed ha | entered ha => rw [haction] at ha; cases ha
  · intro ⟨v, hlookup, hitem, hpassed, hlong⟩
    exact .updated haction hacting hid hlookup hitem hpassed hlong

theorem listed_iff (haction : packet.action = .totalPlayersDataQuery)
    (hgame : srv.getGameByClientid c = some (key, game)) :
    Oversized srv packet c ↔ i16Max ≤ playersListSize game := by
  constructor
  · intro h
    cases h with
    | listed _ hgame' hlong =>
        obtain ⟨rfl, rfl⟩ := Prod.mk.inj (Option.some.inj (hgame.symm.trans hgame'))
        exact hlong
    | created ha | updated ha | entered ha => rw [haction] at ha; cases ha
  · exact .listed haction hgame

theorem entered_iff {worldId : UInt8} {ySize : I16} (haction : packet.action = .setWorld)
    (hacting : Acting srv c key game player bind) (hworldId : packet.data[0]? = some worldId)
    (hySize : (slice packet.data 1 3).bind sliceLeToI16 = some ySize) :
    Oversized srv packet c ↔ WorldFits game worldId ySize ∧ i16Max ≤ playersListSize game := by
  constructor
  · intro h
    cases h with
    | entered _ hacting' hworldId' hySize' hworld hlong =>
        obtain ⟨rfl, rfl, rfl, rfl⟩ := hacting.unique hacting'
        obtain rfl := Option.some.inj (hworldId.symm.trans hworldId')
        obtain rfl := Option.some.inj (hySize.symm.trans hySize')
        exact ⟨hworld, hlong⟩
    | created ha | updated ha | listed ha => rw [haction] at ha; cases ha
  · intro ⟨hworld, hlong⟩
    exact .entered haction hacting hworldId hySize hworld hlong

end

end Oversized

theorem fits_replayData {v : Vanject} (h : Fits (stateData v)) : ∀ d ∈ replayData v, Fits d := by
  intro d hd
  unfold replayData at hd
  rcases List.mem_cons.mp hd with rfl | hd
  · exact h
  split at hd
  · rw [List.mem_singleton.mp hd]
    simp [Fits, Pos.toVangersByte, i16Max]
  · simp at hd

/-- What a create request announces is one byte shorter than the request, but for an item's
header. -/
theorem createAcceptedBuilds_fit {v : Vanject} (bind : UInt8)
    (hlen : packet.data.length ≤ maxDataLength)
    (hparse : Vanject.createFromSlice packet.data = some (.ok v)) :
    (∀ d ∈ Server.createAcceptedBuilds { v with playerBindId := bind }, Fits d) ↔
      ¬ (isItemVanject v = true ∧ 32762 < packet.data.length) := by
  obtain ⟨-, hmin, -, hbody⟩ := Vanject.createFromSlice_ok hparse
  simp only [maxDataLength] at hlen
  unfold Server.createAcceptedBuilds
  by_cases htype : v.getType = NID.vanger
  · have hnot := not_item_of_vanger htype
    have hfits : Fits ({ v with playerBindId := bind } : Vanject).toVangersByte := by
      unfold Fits
      rw [Vanject.length_toVangersByte, hbody, List.length_drop]
      simp only [i16Max]
      split <;> omega
    rw [if_pos (show ({ v with playerBindId := bind } : Vanject).getType = NID.vanger from htype)]
    refine iff_of_true ?_ (by simp [hnot])
    intro d hd
    split at hd
    · rw [List.mem_singleton.mp hd]
      exact hfits
    · simp at hd
  · rw [if_neg (show ¬ ({ v with playerBindId := bind } : Vanject).getType = NID.vanger from htype),
      List.forall_mem_singleton,
      fits_stateData_congr (v := v) (w := { v with playerBindId := bind }) rfl rfl]
    have hdrop : v.body.length = packet.data.length - 14 := by
      rw [hbody, if_neg (show ¬ getVanjectType v.id = NID.vanger from htype), List.length_drop]
    unfold Fits
    rw [length_stateData, hdrop]
    simp only [i16Max]
    cases isItemVanject v with
    | true =>
        simp only [if_true, true_and]
        omega
    | false =>
        simp only [Bool.false_eq_true, if_false, false_and, not_false_eq_true, iff_true]
        omega

theorem createObjectBuilds_fit (hok : RegistryOk srv) (hfit : StoredFit srv)
    (hlen : packet.data.length ≤ maxDataLength) (haction : packet.action = .createObject) :
    (∀ d ∈ srv.createObjectBuilds packet c, Fits d) ↔ ¬ Oversized srv packet c := by
  unfold Server.createObjectBuilds
  obtain ⟨r, hr⟩ := Vanject.createFromSlice_total packet.data
  cases r with
  | error err =>
      refine iff_of_true (by simp [hr]) fun h => ?_
      cases h with
      | created _ _ hparse =>
          rw [hr] at hparse
          cases hparse
      | updated ha | listed ha | entered ha => rw [haction] at ha; cases ha
  | ok v =>
      cases hgame : srv.getGameByClientid c with
      | none => exact iff_of_true (by simp [hr]) fun h => h.inGame hgame
      | some found =>
          obtain ⟨key, game⟩ := found
          obtain ⟨player, bind, hacting⟩ := hok.exists_acting hgame
          rw [Oversized.created_iff haction hacting hr]
          simp only [hr]
          cases hold : game.vanjects.lookup v.id with
          | some existing =>
              refine iff_of_true ?_ (by simp)
              exact fits_replayData (hfit _ _ (Server.getGameByClientid_lookup hgame) _ _ hold)
          | none =>
              have hbound : (game.getPlayer c).bind (fun p => p.bindVanject v)
                  = some { v with playerBindId := bind } := by
                rw [hacting.found, Option.bind_some]
                obtain ⟨b, hb, rfl⟩ := Option.map_eq_some_iff.mp hacting.bound
                simp [Player.bindVanject, hb]
              simp only [hbound, true_and]
              cases hpaired : itemHasPairedVanject v game.vanjects with
              | none =>
                  simp only [ite_self, true_and]
                  exact createAcceptedBuilds_fit bind hlen hr
              | some pairedId =>
                  by_cases hitem : isItemVanject v = true
                  · simp [hitem]
                  · have hfits := (createAcceptedBuilds_fit bind hlen hr).mpr
                      (by simp [hitem])
                    simpa [hitem] using hfits

theorem vanger_not_item {v : Vanject} (h : isItemVanject v = true) : v.getType ≠ NID.vanger := by
  intro htype
  rw [not_item_of_vanger htype] at h
  cases h

/-- An update of an item that has all the fields is parsed. -/
theorem updateFromSlice_item {v : Vanject} {s : Bytes} {err : VanjectError}
    (hid : sliceLeToI32 (s.take 4) = some v.id) (hlen : 12 ≤ s.length)
    (hitem : isItemVanject v = true) : v.updateFromSlice s ≠ some (.error err) := by
  intro h
  have hslice : slice s 0 4 = some (s.take 4) := slice_eq_some.mpr ⟨⟨by omega, by omega⟩, rfl⟩
  have htype : ¬ getVanjectType v.id = NID.vanger := vanger_not_item hitem
  unfold Vanject.updateFromSlice at h
  rw [if_neg (by omega)] at h
  simp only [hslice, hid, ne_eq, not_true_eq_false, if_false, htype, Option.bind_eq_bind,
    Option.bind_some, Option.bind_eq_some_iff, Option.some.injEq, reduceCtorEq, and_false,
    exists_false] at h

/-- What the update of an item announces: the owner's number and the header of its state are new. -/
theorem length_updated {v updated : Vanject} {bind : UInt8} (hitem : isItemVanject v = true)
    (hparse : v.updateFromSlice packet.data = some (.ok updated)) :
    (stateData { updated with playerBindId := bind }).length = packet.data.length + 6 := by
  obtain ⟨-, hsame, hbody⟩ := Vanject.updateFromSlice_ok hparse
  have hmin := Vanject.length_of_updateFromSlice hparse
  have hid : updated.id = v.id := by rw [hsame]
  have hupdated : isItemVanject ({ updated with playerBindId := bind } : Vanject) = true := by
    rw [← hitem]
    unfold isItemVanject Vanject.getType
    rw [hid]
  rw [length_stateData, hupdated]
  show 13 + updated.body.length + _ = _
  rw [hbody, if_neg (show ¬ getVanjectType v.id = NID.vanger from vanger_not_item hitem),
    List.length_drop, if_pos rfl]
  omega

/-- What an update announces is one byte longer than the request, but for an item's header. -/
theorem updated_fit {v updated : Vanject} {bind : UInt8} (hlen : packet.data.length ≤ maxDataLength)
    (hparse : v.updateFromSlice packet.data = some (.ok updated)) :
    Fits (stateData { updated with playerBindId := bind }) ↔
      ¬ (isItemVanject v = true ∧ 32760 < packet.data.length) := by
  obtain ⟨-, hsame, hbody⟩ := Vanject.updateFromSlice_ok hparse
  have hid : updated.id = v.id := by rw [hsame]
  have hmin := Vanject.length_of_updateFromSlice hparse
  have hitem : isItemVanject ({ updated with playerBindId := bind } : Vanject) = isItemVanject v := by
    unfold isItemVanject Vanject.getType
    rw [hid]
  simp only [maxDataLength] at hlen
  cases hcase : isItemVanject v with
  | true =>
      unfold Fits
      rw [length_updated hcase hparse]
      simp only [i16Max, true_and]
      omega
  | false =>
      unfold Fits
      rw [length_stateData, hitem, hcase]
      show 13 + updated.body.length + _ + 1 ≤ _ ↔ _
      rw [hbody, List.length_drop]
      simp only [i16Max, Bool.false_eq_true, if_false, false_and, not_false_eq_true, iff_true]
      split <;> omega

theorem updateObjectBuilds_fit (hok : RegistryOk srv) (hlen : packet.data.length ≤ maxDataLength)
    (haction : packet.action = .updateObject) :
    (∀ d ∈ srv.updateObjectBuilds packet c, Fits d) ↔ ¬ Oversized srv packet c := by
  unfold Server.updateObjectBuilds
  cases hid : sliceLeToI32 (packet.data.take 4) with
  | none =>
      refine iff_of_true (by simp) fun h => ?_
      cases h with
      | updated _ _ hid' =>
          rw [hid] at hid'
          cases hid'
      | created ha | listed ha | entered ha => rw [haction] at ha; cases ha
  | some id =>
      cases hgame : srv.getGameByClientid c with
      | none => exact iff_of_true (by simp) fun h => h.inGame hgame
      | some found =>
          obtain ⟨key, game⟩ := found
          obtain ⟨player, bind, hacting⟩ := hok.exists_acting hgame
          rw [Oversized.updated_iff haction hacting hid]
          simp only [hacting.found, hacting.bound]
          cases hlookup : game.vanjects.lookup id with
          | none => simp
          | some v =>
              have hkey := ((hok.game _ _ (Server.getGameByClientid_lookup hgame)).keyed id v
                hlookup).1
              obtain ⟨parsed, hparsed⟩ := v.updateFromSlice_total packet.data
              simp only [hparsed, Option.some.injEq, exists_eq_left']
              cases updateRejection v id c bind player.worldId with
              | some err => simp
              | none =>
                  simp only [true_and]
                  cases parsed with
                  | error err =>
                      refine iff_of_true (by simp) ?_
                      rintro ⟨hitem, hlong⟩
                      exact updateFromSlice_item (by rw [hkey]; exact hid) (by omega) hitem hparsed
                  | ok updated =>
                      rw [List.forall_mem_singleton]
                      exact updated_fit hlen hparsed

/-- What the other requests about objects announce is no longer than they are. -/
theorem deleteObjectBuilds_fit (hlen : packet.data.length ≤ maxDataLength) :
    ∀ d ∈ srv.deleteObjectBuilds packet c, Fits d := by
  have hrelay : ∀ id bind, Fits (Server.deleteData packet id bind) := by
    intro id bind
    simp only [maxDataLength] at hlen
    simp only [Fits, Server.deleteData, i16Max, List.length_append, List.length_cons,
      List.length_nil, length_toLeBytes32, List.length_take, List.length_drop]
    omega
  intro d hd
  unfold Server.deleteObjectBuilds at hd
  split at hd
  · split at hd
    · simp at hd
    split at hd
    · rw [List.mem_singleton.mp hd]
      exact hrelay _ _
    split at hd
    · simp at hd
    split at hd
    · simp at hd
    split at hd
    · rw [List.mem_singleton.mp hd]
      simp [Fits, Server.itemRemovedData, i16Max]
    · rw [List.mem_singleton.mp hd]
      exact hrelay _ _
  · simp at hd

theorem itemTransferBuilds_fit (hlen : packet.data.length ≤ maxDataLength) :
    ∀ d ∈ srv.itemTransferBuilds packet c, Fits d := by
  have hbody : ∀ t, ItemTransfer.parse packet = some (.ok t) →
      t.newVanject.body.length + 24 ≤ packet.data.length := by
    intro t ht
    unfold ItemTransfer.parse at ht
    split at ht
    · simp at ht
    simp only [Option.bind_eq_bind, Option.bind_eq_some_iff] at ht
    obtain ⟨kind, -, ht⟩ := ht
    split at ht
    · simp at ht
    simp only [Option.bind_eq_some_iff] at ht
    obtain ⟨sid, -, oldId, -, marker, -, rest, hrest, parsed, hparsed, ht⟩ := ht
    split at ht
    · simp at ht
    · simp only [Option.some.injEq, Except.ok.injEq] at ht
      subst ht
      obtain ⟨-, hmin, -, hbody⟩ := Vanject.createFromSlice_ok hparsed
      obtain ⟨hle, rfl⟩ := sliceFrom_eq_some.mp hrest
      rw [hbody, List.length_drop]
      rw [List.length_drop] at hmin ⊢
      simp only [itemTransferHeaderSize] at hle hmin ⊢
      split <;> omega
  intro d hd
  unfold Server.itemTransferBuilds at hd
  split at hd
  · rename_i t key game hparse hgame
    split at hd
    · split at hd
      · split at hd
        · simp at hd
        · rw [List.mem_singleton.mp hd]
          have hlong := hbody t hparse
          simp only [maxDataLength] at hlen
          simp only [Fits, i16Max, List.length_append, List.length_cons, List.length_nil,
            length_toLeBytes32, Vanject.length_toVangersByte]
          omega
      · simp at hd
    · simp at hd
  · simp at hd

theorem attachToGameBuilds_fit (hfit : StoredFit srv) :
    ∀ d ∈ srv.attachToGameBuilds env packet c, Fits d := by
  intro d hd
  unfold Server.attachToGameBuilds at hd
  split at hd
  · simp at hd
  rename_i game playerId hjoins
  split at hd
  · simp at hd
  rcases List.mem_append.mp hd with hd | hd
  · obtain ⟨v, hv, rfl⟩ := List.mem_map.mp hd
    obtain ⟨id, hid⟩ := AList.mem_values.mp (List.mem_filter.mp hv).1
    unfold Server.joins at hjoins
    split at hjoins
    · simp at hjoins
    simp only [Option.bind_eq_bind, Option.bind_eq_some_iff] at hjoins
    obtain ⟨requested, -, found, hfound, hattached⟩ := hjoins
    obtain ⟨b, -, -, rfl⟩ := attachPlayer_some (Option.join_eq_some_iff.mp hattached)
    exact fits_toVangersByte (hfit.requestedGame _ _ hfound id v hid)
  · rw [List.mem_singleton.mp hd]
    simp [Fits, i16Max]

theorem totalPlayersDataQueryBuilds_fit (haction : packet.action = .totalPlayersDataQuery) :
    (∀ d ∈ srv.totalPlayersDataQueryBuilds c, Fits d) ↔ ¬ Oversized srv packet c := by
  unfold Server.totalPlayersDataQueryBuilds
  cases hgame : srv.getGameByClientid c with
  | none => exact iff_of_true (by simp) fun h => h.inGame hgame
  | some found =>
      obtain ⟨key, game⟩ := found
      rw [Oversized.listed_iff haction hgame, List.forall_mem_singleton, fits_playersList, Nat.not_le]

theorem setWorldBuilds_fit_iff (hok : RegistryOk srv) (hfit : StoredFit srv)
    (haction : packet.action = .setWorld) :
    (∀ d ∈ srv.setWorldBuilds env packet c, Fits d) ↔ ¬ Oversized srv packet c := by
  cases hgame : srv.getGameByClientid c with
  | none =>
      have hnone : ∀ key game player bind, ¬ Acting srv c key game player bind := by
        intro key game player bind hacting
        rw [hacting.inGame] at hgame
        cases hgame
      exact iff_of_true (setWorldBuilds_fit_of_not_acting hnone) fun h => h.inGame hgame
  | some found =>
      obtain ⟨key, game⟩ := found
      obtain ⟨player, bind, hacting⟩ := hok.exists_acting hgame
      have hunread : srv.setWorldBuilds env packet c = [] → (packet.data[0]? = none ∨
          (slice packet.data 1 3).bind sliceLeToI16 = none) →
          ((∀ d ∈ srv.setWorldBuilds env packet c, Fits d) ↔ ¬ Oversized srv packet c) := by
        intro hbuilds hread
        refine iff_of_true (by simp [hbuilds]) fun h => ?_
        cases h with
        | entered _ _ hworldId hySize => simp [hworldId, hySize] at hread
        | created ha | updated ha | listed ha => rw [haction] at ha; cases ha
      cases hworldId : packet.data[0]? with
      | none => exact hunread (by simp [Server.setWorldBuilds, hworldId]) (Or.inl hworldId)
      | some worldId =>
          cases hySize : (slice packet.data 1 3).bind sliceLeToI16 with
          | none => exact hunread (by simp [Server.setWorldBuilds, hworldId, hySize]) (Or.inr hySize)
          | some ySize =>
              rw [setWorldBuilds_fit hacting hworldId hySize
                (hfit _ _ (Server.getGameByClientid_lookup hgame)),
                Oversized.entered_iff haction hacting hworldId hySize, not_and, Nat.not_le]

/-- **Exactly four kinds of requests build too much.** -/
theorem builds_fit_iff (env : Env) (hok : RegistryOk srv) (hfit : StoredFit srv)
    (hlen : packet.data.length ≤ maxDataLength) :
    (∀ d ∈ srv.builds env packet c, Fits d) ↔ ¬ Oversized srv packet c := by
  have hquiet : ∀ {builds : List Bytes}, (∀ d ∈ builds, Fits d) →
      packet.action ∉ [Action.createObject, .updateObject, .totalPlayersDataQuery, .setWorld] →
      ((∀ d ∈ builds, Fits d) ↔ ¬ Oversized srv packet c) := by
    intro builds hbuilds haction
    refine iff_of_true hbuilds fun hover => haction ?_
    cases hover with
    | created ha => simp [ha]
    | updated ha => simp [ha]
    | listed ha => simp [ha]
    | entered ha => simp [ha]
  unfold Server.builds
  split
  case h_1 ha => exact hquiet (attachToGameBuilds_fit hfit) (by simp [ha])
  case h_2 ha => exact hquiet Server.restoreConnectionBuilds_fit (by simp [ha])
  case h_3 ha => exact totalPlayersDataQueryBuilds_fit ha
  case h_4 ha => exact createObjectBuilds_fit hok hfit hlen ha
  case h_5 ha => exact setWorldBuilds_fit_iff hok hfit ha
  case h_6 ha => exact hquiet Server.leaveWorldBuilds_fit (by simp [ha])
  case h_7 ha => exact updateObjectBuilds_fit hok hlen ha
  case h_8 ha => exact hquiet (deleteObjectBuilds_fit hlen) (by simp [ha])
  case h_9 ha => exact hquiet (itemTransferBuilds_fit hlen) (by simp [ha])
  case h_10 ha => exact hquiet Server.closeSocketBuilds_fit (by simp [ha])
  case h_11 ha =>
    refine hquiet ?_ (by simp [ha])
    simp only [maxDataLength] at hlen
    simp only [List.forall_mem_singleton, Fits, i16Max]
    omega
  case h_12 =>
    refine hquiet (by simp) ?_
    simp_all

/-! ### Which requests crash the server -/

/-- A packet that the reader of a connection can deliver. -/
def Packet.Deliverable (p : Packet) : Prop := p.Named ∧ p.data.length ≤ maxDataLength
  deriving Decidable

/-- A request in a round of the loop is a packet that can be delivered. -/
def Input.deliverable : Input → Bool
  | .message _ (.updated packet) => packet.Deliverable
  | _ => true

/-- **What is read is in range exactly when the request is long enough**, and a read out of
range is one of the four ways to crash the server. -/
theorem payload_in_range :
    ((srv.reads packet c).isSome ↔ srv.LongEnough packet c) ∧
      ((srv.onUpdate env c packet).isSome ↔ (srv.reads packet c).isSome ∧
        srv.OffsetsInTable env packet c ∧ srv.Sorts env packet ∧
        ∀ d ∈ srv.builds env packet c, Fits d) :=
  ⟨Server.reads_isSome, Server.onUpdate_isSome⟩

/-- An empty request to enter a world, or to delete an object, crashes a server that has just
been started, and the read is the reason. -/
theorem payload_in_range_fails : ∃ srv, ServerReachable srv ∧
    ∀ action ∈ [Action.setWorld, .deleteObject], (request action []).Deliverable ∧
      ∀ c env, srv.reads (request action []) c = none ∧
        srv.OffsetsInTable env (request action []) c ∧ srv.Sorts env (request action []) ∧
        (∀ d ∈ srv.builds env (request action []) c, Fits d) ∧
        srv.onUpdate env c (request action []) = none := by
  refine ⟨Server.new 0, ⟨0, [], .nil⟩, ?_⟩
  intro action haction
  rcases List.mem_cons.mp haction with rfl | haction
  · refine ⟨by decide, fun c env =>
      ⟨rfl, fun h => absurd h (by decide), fun h => absurd h (by decide), ?_, rfl⟩⟩
    simp [Server.builds, Server.setWorldBuilds, request]
  · rw [List.mem_singleton.mp haction]
    refine ⟨by decide, fun c env =>
      ⟨rfl, fun h => absurd h (by decide), fun h => absurd h (by decide), ?_, rfl⟩⟩
    simp [Server.builds, Server.deleteObjectBuilds, request, sliceLeToI32]

/-- **Every packet the server builds has a size**, unless the request is one of those that
build too much. -/
theorem packets_fit (h : ServerReachable srv) (hlen : packet.data.length ≤ maxDataLength) :
    ((∀ d ∈ srv.builds env packet c, Fits d) ∧
        ∀ r, srv.onUpdate env c packet = some r → ∀ s ∈ r.sent, Fits s.packet.data) ↔
      ¬ Oversized srv packet c := by
  rw [← builds_fit_iff env h.registryOk h.storedFit hlen]
  exact ⟨fun hboth => hboth.1, fun hbuilds => ⟨hbuilds, fun _ hr => onUpdate_sent_fits hr⟩⟩

/-- The update of a DEVICE of the first player, with so many zeros. -/
def zeroUpdate (n : Nat) : Packet := request .updateObject ([5, 0, 1, 4] ++ List.replicate n 0)

theorem zeroUpdate_data (n : Nat) : (zeroUpdate n).data = [5, 0, 1, 4] ++ List.replicate n 0 := rfl

theorem length_zeroUpdate (n : Nat) : (zeroUpdate n).data.length = n + 4 := by
  rw [zeroUpdate_data, List.length_append, List.length_replicate]
  simp only [List.length_cons, List.length_nil]
  omega

theorem zeroUpdate_id (n : Nat) : sliceLeToI32 ((zeroUpdate n).data.take 4) = some 0x04010005#32 := by
  rw [zeroUpdate_data, List.take_append_of_le_length (by simp)]
  rfl

/-- Two players in a world, and the first has a DEVICE there. -/
def storedDevice : List (Env × Input) :=
  [(Env.atTime 0, .add (Client.new 7)), (Env.atTime 0, .add (Client.new 8)),
    (Env.atTime 0, ask 7 .attachToGame [0, 0, 0, 0]), (Env.atTime 0, ask 8 .attachToGame [1, 0, 0, 0]),
    (Env.atTime 0, ask 7 .setWorld [0, 0, 8]), (Env.atTime 0, ask 8 .setWorld [0, 0, 8]),
    (Env.atTime 0, ask 7 .createObject [5, 0, 1, 4, 0, 0, 0, 0, 0, 0, 0, 0, 0, 0])]

/-- An update of the stored DEVICE may grow until the packet that announces it has the greatest size
there is, and no further. -/
theorem packets_fit_stored : ∃ srv, ServerReachable srv ∧
    (∃ r, srv.onUpdate (Env.atTime 0) 7 (zeroUpdate 32756) = some r ∧
      ∀ s ∈ r.sent, Fits s.packet.data) ∧
    (∀ d ∈ srv.builds (Env.atTime 0) (zeroUpdate 32756) 7, Fits d) ∧
    (∃ d ∈ srv.builds (Env.atTime 0) (zeroUpdate 32756) 7, d.length + 1 = i16Max) ∧
    Oversized srv (zeroUpdate 32757) 7 := by
  have hplay : ((play (Server.new 0) storedDevice).map Prod.fst).bind (fun srv => do
      let entry ← srv.getGameByClientid 7
      let p ← entry.2.getPlayer 7
      let v ← entry.2.vanjects.lookup 0x04010005#32
      some (p.bindId, isItemVanject v, updateRejection v 0x04010005#32 7 1 p.worldId))
      = some (some 1, true, none) := by
    decide +kernel
  obtain ⟨srv, tr, hrun, hfacts⟩ := play_bind hplay
  simp only [Option.bind_eq_bind, Option.bind_eq_some_iff, Option.some.injEq, Prod.mk.injEq,
    Prod.exists] at hfacts
  obtain ⟨key, game, hgame, player, hplayer, v, hv, hbind, hitem, hpassed⟩ := hfacts
  have hreach : ServerReachable srv := ⟨0, tr, hrun⟩
  have hacting : Acting srv 7 key game player 1 := ⟨hgame, hplayer, hbind⟩
  have hover : ∀ n, Oversized srv (zeroUpdate n) 7 ↔ 32756 < n := by
    intro n
    rw [Oversized.updated_iff rfl hacting (zeroUpdate_id n), length_zeroUpdate]
    constructor
    · rintro ⟨_, -, -, -, hlong⟩
      omega
    · exact fun hn => ⟨v, hv, hitem, hpassed, by omega⟩
  have hlen : (zeroUpdate 32756).data.length ≤ maxDataLength := by
    rw [length_zeroUpdate]
    decide
  have hnot : ¬ Oversized srv (zeroUpdate 32756) 7 := fun h => lt_irrefl _ ((hover _).mp h)
  obtain ⟨hbuilds, hsent⟩ : (∀ d ∈ srv.builds (Env.atTime 0) (zeroUpdate 32756) 7, Fits d) ∧
      ∀ r, srv.onUpdate (Env.atTime 0) 7 (zeroUpdate 32756) = some r →
        ∀ s ∈ r.sent, Fits s.packet.data :=
    (packets_fit hreach hlen).mpr hnot
  have hreads : (srv.reads (zeroUpdate 32756) 7).isSome := by
    rw [Server.reads_isSome]
    trivial
  have htable : srv.OffsetsInTable (Env.atTime 0) (zeroUpdate 32756) 7 := fun haction => by
    cases show Action.updateObject = .attachToGame from haction
  have hsorts : srv.Sorts (Env.atTime 0) (zeroUpdate 32756) := fun haction => by
    cases show Action.updateObject = .topListQuery from haction
  obtain ⟨r, hr⟩ := Option.isSome_iff_exists.mp
    (Server.onUpdate_isSome.mpr ⟨hreads, htable, hsorts, hbuilds⟩)
  refine ⟨srv, hreach, ⟨r, hr, hsent r hr⟩, hbuilds, ?_, (hover _).mpr (by omega)⟩
  -- the packet that announces it
  have hid : v.id = 0x04010005#32 :=
    ((hreach.registryOk.game _ _ (Server.getGameByClientid_lookup hgame)).keyed _ v hv).1
  obtain ⟨parsed, hparsed⟩ := v.updateFromSlice_total (zeroUpdate 32756).data
  cases parsed with
  | error err =>
      refine absurd hparsed (updateFromSlice_item ?_ ?_ hitem)
      · rw [hid]
        exact zeroUpdate_id _
      · rw [length_zeroUpdate]
        omega
  | ok updated =>
      refine ⟨stateData { updated with playerBindId := 1 }, ?_, ?_⟩
      · show _ ∈ srv.updateObjectBuilds (zeroUpdate 32756) 7
        unfold Server.updateObjectBuilds
        simp only [zeroUpdate_id, hgame, hplayer, hbind, hv, hpassed, hparsed, List.mem_singleton]
      · rw [length_updated hitem hparsed, length_zeroUpdate]
        decide

/-- What builds too much crashes the server. -/
theorem oversized_crashes (h : ServerReachable srv) (hlen : packet.data.length ≤ maxDataLength)
    (hover : Oversized srv packet c) : srv.onUpdate env c packet = none := by
  rw [← Option.not_isSome_iff_eq_none, Server.onUpdate_isSome]
  rintro ⟨-, -, -, hbuilds⟩
  exact (builds_fit_iff env h.registryOk h.storedFit hlen).mp hbuilds hover

/-- A create request of sixteen bytes is never too short. -/
theorem createFromSlice_long {s : Bytes} (h : 16 ≤ s.length) :
    ∃ v, Vanject.createFromSlice s = some (.ok v) := by
  obtain ⟨r, hr⟩ := Vanject.createFromSlice_total s
  cases r with
  | ok v => exact ⟨v, hr⟩
  | error err =>
      exfalso
      unfold Vanject.createFromSlice at hr
      rw [if_neg (by omega)] at hr
      simp only [Option.bind_eq_bind, Option.bind_eq_some_iff] at hr
      obtain ⟨_, -, _, -, _, -, _, -, _, -, _, -, _, -, _, -, _, -, hr⟩ := hr
      split at hr
      · rw [if_neg (by omega)] at hr
        obtain ⟨body, -, hr⟩ := Option.bind_eq_some_iff.mp hr
        cases hr
      · obtain ⟨body, -, hr⟩ := Option.bind_eq_some_iff.mp hr
        cases hr

/-- The request of an item that is one byte too long: its id, and zeros. -/
def longItem : Packet := request .createObject ([0, 0, 1, 0] ++ List.replicate 32759 0)

theorem longItem_data : longItem.data = [0, 0, 1, 0] ++ List.replicate 32759 0 := rfl

theorem length_longItem : longItem.data.length = 32763 := by
  rw [longItem_data, List.length_append, List.length_replicate]
  rfl

theorem longItem_deliverable : longItem.Deliverable := by
  refine ⟨?_, ?_⟩
  · show Action.createObject = (Action.fromU8 Action.createObject.toU8).getD .unknown
    rw [Action.fromU8_toU8]
    rfl
  · rw [length_longItem]
    decide

/-- A device, whose id is all that counts here. -/
theorem longItem_parse : ∃ v, Vanject.createFromSlice longItem.data = some (.ok v) ∧
    v.id = NID.device := by
  obtain ⟨v, hv⟩ := createFromSlice_long (s := longItem.data) (by rw [length_longItem]; omega)
  obtain ⟨-, -, hid, -⟩ := Vanject.createFromSlice_ok hv
  refine ⟨v, hv, ?_⟩
  rw [longItem_data, List.take_append_of_le_length (by simp)] at hid
  exact (Option.some.inj hid).symm

/-- The first player of the first game crashes the server with an item that is too long. -/
theorem packets_fit_fails : ∃ tr srv, ServerRun 0 tr srv ∧
    (∀ e ∈ tr, ∀ event ∈ e, event.input.deliverable) ∧
    longItem.Deliverable ∧ ∀ env, (∃ d ∈ srv.builds env longItem 7, ¬ Fits d) ∧
      srv.onUpdate env 7 longItem = none := by
  have hplay : (play (Server.new 0) [(Env.atTime 0, ask 7 .attachToGame [0, 0, 0, 0])]).any
      (fun r => (r.1.getGameByClientid 7).any (fun found => found.2.vanjects.entries.isEmpty) &&
        r.2.all fun e => e.all fun event => event.input.deliverable) = true := by
    decide +kernel
  obtain ⟨srv, tr, hrun, htest⟩ := play_any hplay
  simp only [Bool.and_eq_true, Option.any_eq_true, List.all_eq_true] at htest
  obtain ⟨⟨⟨key, game⟩, hgame, hempty⟩, hdelivered⟩ := htest
  have hreach : ServerReachable srv := ⟨0, tr, hrun⟩
  obtain ⟨player, bind, hacting⟩ := hreach.registryOk.exists_acting hgame
  obtain ⟨v, hparse, hid⟩ := longItem_parse
  have hvanjects : game.vanjects = ∅ := AList.ext (List.isEmpty_iff.mp hempty)
  have hover : Oversized srv longItem 7 := by
    refine .created rfl hacting hparse ?_ ?_ ?_ ?_
    · unfold isItemVanject Vanject.getType
      rw [hid]
      decide
    · rw [hvanjects, AList.lookup_empty]
    · unfold itemHasPairedVanject
      simp [hvanjects]
    · rw [length_longItem]
      omega
  have hlen := longItem_deliverable.2
  refine ⟨tr, srv, hrun, ?_, longItem_deliverable, fun env => ⟨?_, ?_⟩⟩
  · intro e he event hevent
    have hall := hdelivered e he
    rw [Option.mem_def.mp hevent] at hall
    exact hall
  · have hnot := (builds_fit_iff env hreach.registryOk hreach.storedFit hlen).not.mpr
      (not_not.mpr hover)
    simpa using hnot
  · exact oversized_crashes hreach hlen hover

end

end VangersSrv
