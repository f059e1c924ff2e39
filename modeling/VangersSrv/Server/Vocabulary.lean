/-
Two words for an item.

ITEM_STATE and ITEM_REMOVED tell of STUFF and DEVICE; the other packets about objects are raw.
Every place that announces an object asks for its type first, except for two that delete: the
relay of a delete request for an id that is not stored, and the deletes of a player that leaves
its world.
-/
import VangersSrv.Server.Panics
import VangersSrv.Server.Told

namespace VangersSrv

/-- A raw packet about an item. -/
def Packet.RawItem (p : Packet) : Prop :=
  p.action ∈ [Action.updateObject, .deleteObject, .hideObject] ∧
    ∃ id, sliceLeToI32 (p.data.take 4) = some id ∧ isItemType (getVanjectType id) = true

instance (p : Packet) : Decidable p.RawItem :=
  decidable_of_iff (p.action ∈ [Action.updateObject, .deleteObject, .hideObject] ∧
      (sliceLeToI32 (p.data.take 4)).any (fun id => isItemType (getVanjectType id)) = true)
    (by simp [Packet.RawItem, Option.any_eq_true])

/-- One of the connections is connected and not the sender's. -/
def Overheard (srv : Server) (c : ClientID) (ids : List ClientID) : Prop :=
  ∃ x ∈ ids, x ≠ c ∧ x ∈ srv.connected

/-- A delete request for an item that is not stored, while others are in the world of its id. -/
def MissesItem (srv : Server) (packet : Packet) (c : ClientID) : Prop :=
  ∃ k g p b id, packet.action = .deleteObject ∧ Acting srv c k g p b ∧
    sliceLeToI32 (packet.data.take 4) = some id ∧ isItemType (getVanjectType id) = true ∧
    g.vanjects.lookup id = none ∧
    Overheard srv c ((g.players.filter fun q => q.worldId = some (worldOf id)).map Player.clientId)

/-- A player leaves its world while it has a DEVICE and others are in its game. -/
def LeavesDevice (srv : Server) (packet : Packet) (c : ClientID) : Prop :=
  ∃ k g p b w id v, packet.action ∈ [Action.leaveWorld, .setWorld, .closeSocket] ∧
    (packet.action = .setWorld → packet.data[0]? ≠ some w.id) ∧ Acting srv c k g p b ∧
    p.world = some w ∧ g.vanjects.lookup id = some v ∧ v.getType = NID.device ∧
    v.playerBindId = b ∧ Overheard srv c g.clientIds

section

variable {env : Env} {packet p : Packet} {c : ClientID} {srv srv' mid : Server} {sent : List Sent}
  {r : Reply} {k : GameID} {g : Game} {player : Player} {b : UInt8} {id : I32} {v : Vanject}
  {s : Sent} {realtime : Bool}

/-! ### Packets -/

theorem Packet.Quiet.not_rawItem (h : p.Quiet) : ¬ p.RawItem := by
  rintro ⟨haction, -⟩
  simp only [Packet.Quiet, List.mem_cons, List.not_mem_nil, or_false, not_or] at h haction
  rcases haction with ha | ha | ha
  · exact h.1 ha
  · exact h.2.1 ha
  · exact h.2.2.1 ha

/-- A raw packet about an object is about an item exactly when the object is one. -/
theorem rawItem_iff {action : Action} {rest : Bytes}
    (haction : action ∈ [Action.updateObject, .deleteObject, .hideObject])
    (h : Packet.new action (toLeBytes32 id ++ rest) = some p) :
    p.RawItem ↔ isItemType (getVanjectType id) = true := by
  obtain ⟨hnew, hdata, -⟩ := Packet.new_eq_some h
  unfold Packet.RawItem
  rw [hnew, hdata, take_append_toLeBytes32]
  simp [haction]

theorem rawItem_updateObject (h : Packet.new .updateObject v.toVangersByte = some p) :
    p.RawItem ↔ isItemVanject v = true := by
  rw [toVangersByte_eq] at h
  exact rawItem_iff (by simp) h

theorem rawItem_deletePacket (h : deletePacket packet id b = some p) :
    p.RawItem ↔ isItemType (getVanjectType id) = true := by
  unfold deletePacket at h
  simp only [Option.bind_eq_bind, Option.bind_eq_some_iff] at h
  obtain ⟨time, -, rest, -, h⟩ := h
  rw [List.append_assoc, List.append_assoc] at h
  exact rawItem_iff (by simp) h

/-- ITEM_STATE is not raw. -/
theorem itemStatePacket_not_rawItem {oldId : I32} (h : itemStatePacket oldId v = some p) :
    ¬ p.RawItem := by
  obtain ⟨haction, -, -⟩ := Packet.new_eq_some h
  rintro ⟨hraw, -⟩
  simp [haction] at hraw

/-- ITEM_REMOVED is not raw. -/
theorem itemRemovedPacket_not_rawItem {reason : UInt8} (h : itemRemovedPacket v reason = some p) :
    ¬ p.RawItem := by
  obtain ⟨haction, -, -⟩ := Packet.new_eq_some h
  rintro ⟨hraw, -⟩
  simp [haction] at hraw

/-- The state of an object is announced in the word for its type. -/
theorem statePacket_not_rawItem (h : statePacket v = some p) : ¬ p.RawItem := by
  unfold statePacket at h
  split at h
  · exact itemStatePacket_not_rawItem h
  · rename_i hitem
    exact fun hraw => hitem ((rawItem_updateObject h).mp hraw)

theorem replayPackets_not_rawItem {packets : List Packet} (h : replayPackets v = some packets)
    (hp : p ∈ packets) : ¬ p.RawItem := by
  obtain ⟨state, positions, rfl, hstate, hpositions⟩ := replayPackets_eq_some h
  rcases List.mem_cons.mp hp with rfl | hp
  · exact statePacket_not_rawItem hstate
  · exact (quiet_new (hpositions p hp) (by decide)).not_rawItem

/-- What goes with a player that leaves its world is no item but a DEVICE of its own. -/
theorem shouldDeleteOnLeaveWorld_item (hitem : isItemVanject v = true) :
    shouldDeleteOnLeaveWorld v b = true ↔ v.getType = NID.device ∧ v.playerBindId = b := by
  have htype : v.getType = NID.stuff ∨ v.getType = NID.device := by
    simpa [isItemVanject, isItemType] using hitem
  unfold shouldDeleteOnLeaveWorld Vanject.isNonGlobal Vanject.isPlayers Vanject.isPrivate
  rcases htype with htype | htype
  · rw [isNonGlobalVanject_of_type htype, isPlayersVanject_of_type htype,
      isPrivateVanject_of_type htype, htype]
    simp [NID.stuff, NID.device]
  · rw [isNonGlobalVanject_of_type htype, isPlayersVanject_of_type htype,
      isPrivateVanject_of_type htype, htype]
    simp [NID.device]

/-! ### Who hears a packet -/

/-- Somebody hears a notification to the game. -/
theorem overheard_notifyGame (hgame : srv.getGameByClientid c = some (k, g)) :
    Overheard srv c g.clientIds ↔ ∃ s ∈ srv.notifyGame c packet, s.packet = packet := by
  unfold Server.notifyGame Server.notify Overheard
  rw [hgame]
  dsimp only
  constructor
  · rintro ⟨x, hx, hne, hconnected⟩
    obtain ⟨client, hclient, rfl⟩ := List.mem_map.mp hconnected
    exact ⟨⟨client.id, packet, false⟩, Server.mem_sendTo.mpr ⟨⟨client, hclient, rfl⟩,
      List.mem_filter.mpr ⟨hx, by simpa using hne⟩, rfl, rfl⟩, rfl⟩
  · rintro ⟨s, hs, -⟩
    obtain ⟨⟨client, hclient, hid⟩, hids, -, -⟩ := Server.mem_sendTo.mp hs
    obtain ⟨hx, hne⟩ := List.mem_filter.mp hids
    exact ⟨s.client, hx, by simpa using hne, List.mem_map.mpr ⟨client, hclient, hid⟩⟩

/-- Somebody hears a notification to a world. -/
theorem overheard_notifyWorld {w : UInt8} (hgame : srv.getGameByClientid c = some (k, g)) :
    Overheard srv c ((g.players.filter fun q => q.worldId = some w).map Player.clientId) ↔
      ∃ s ∈ srv.notifyWorld c w packet false realtime, s.packet = packet := by
  unfold Server.notifyWorld Server.clientIdsInWorld Overheard
  rw [hgame]
  dsimp only
  simp only [Server.mem_sendTo, List.mem_map, List.mem_filter, Bool.false_or, decide_eq_true_eq,
    ne_eq, Option.some.injEq]
  constructor
  · rintro ⟨_, ⟨q, hq, rfl⟩, hne, hconnected⟩
    obtain ⟨client, hclient, hid⟩ := List.mem_map.mp hconnected
    exact ⟨⟨q.clientId, packet, realtime⟩, ⟨⟨client, hclient, hid⟩, ⟨q, ⟨hq, hne⟩, rfl⟩, rfl, rfl⟩,
      rfl⟩
  · rintro ⟨s, ⟨⟨client, hclient, hid⟩, ⟨q, ⟨hq, hne⟩, hqs⟩, -, -⟩, -⟩
    exact ⟨q.clientId, ⟨q, hq, rfl⟩, hne, List.mem_map.mpr ⟨client, hclient, hid.trans hqs.symm⟩⟩

theorem notifyObject_packet (h : s ∈ srv.notifyObject c id packet realtime) : s.packet = packet := by
  rw [Server.notifyObject_eq] at h
  split at h
  · exact Server.notifyWorld_packet h
  · exact Server.notify_packet h

/-- An item is announced to its world. -/
theorem overheard_notifyObject (hgame : srv.getGameByClientid c = some (k, g))
    (hitem : isItemType (getVanjectType id) = true) :
    Overheard srv c ((g.players.filter fun q => q.worldId = some (worldOf id)).map Player.clientId) ↔
      ∃ s ∈ srv.notifyObject c id packet, s.packet = packet := by
  have hlocal : isNonGlobalVanject id = true := by
    have htype : getVanjectType id = NID.stuff ∨ getVanjectType id = NID.device := by
      simpa [isItemType] using hitem
    rcases htype with htype | htype <;> rw [isNonGlobalVanject_of_type htype] <;> decide
  rw [Server.notifyObject_local hlocal]
  exact overheard_notifyWorld hgame

/-! ### What is raw was deleted -/

/-- The delete packets of a player that leaves are raw. -/
theorem leaveDeletes_rawItem {vanjects : Vanjects} {deletes : List (I32 × Packet)}
    (h : leaveDeletes vanjects b = some deletes) :
    (∃ e ∈ deletes, e.2.RawItem) ↔ ∃ id v, vanjects.lookup id = some v ∧
      shouldDeleteOnLeaveWorld v b = true ∧ isItemType (getVanjectType id) = true := by
  have hraw : ∀ {id v q}, Packet.new .deleteObject (toLeBytes32 id ++ [b] ++ toLeBytes32 (Vanject.time v))
      = some q → (q.RawItem ↔ isItemType (getVanjectType id) = true) := by
    intro id v q hpacket
    rw [List.append_assoc] at hpacket
    exact rawItem_iff (by simp) hpacket
  constructor
  · rintro ⟨e, he, hitem⟩
    obtain ⟨v, hv, hdelete, hpacket⟩ := leaveDeletes_packet h he
    exact ⟨e.1, v, hv, hdelete, (hraw hpacket).mp hitem⟩
  · rintro ⟨id, v, hv, hdelete, hitem⟩
    obtain ⟨e, he, rfl⟩ := List.mem_map.mp ((mem_leaveDeletes h).mpr ⟨v, hv, hdelete⟩)
    obtain ⟨v', -, -, hpacket⟩ := leaveDeletes_packet h he
    exact ⟨e, he, (hraw hpacket).mpr hitem⟩

theorem overheard_left : Overheard (srv.setGame k (g.left c b)) c (g.left c b).clientIds ↔
    Overheard srv c g.clientIds := by
  have hids : (g.left c b).clientIds = g.clientIds := by
    unfold Game.clientIds Game.left Game.modifyPlayer
    exact List.map_modifyFirst fun _ _ => rfl
  rw [hids]
  rfl

/-- A player that leaves tells of an item in raw packets when it has a DEVICE. -/
theorem Prelude.raw (h : Prelude env packet c srv sent srv') (hok : RegistryOk srv) (hs : s ∈ sent)
    (hraw : s.packet.RawItem) : LeavesDevice srv packet c := by
  cases h with
  | playerChanged _ _ _ _ _ _ hquiet _ => exact absurd hraw (hquiet s hs).not_rawItem
  | @left key game player bind w deletes playersWorld haction hother hacting hworld hdeletes hquiet =>
      rcases List.mem_append.mp hs with hs | hs
      · obtain ⟨e, he, hse⟩ := List.mem_flatMap.mp hs
        have hpacket : s.packet = e.2 := Server.notify_packet hse
        have hgame : (srv.setGame key (game.left c bind)).getGameByClientid c
            = some (key, game.left c bind) :=
          Server.getGameByClientid_setGame hacting.inGame
            ⟨_, Game.getPlayer_modifyPlayer hacting.found rfl⟩
        have hheard := (overheard_notifyGame hgame).mpr ⟨s, hse, hpacket⟩
        obtain ⟨id, v, hv, hdelete, hitem⟩ := (leaveDeletes_rawItem hdeletes).mp
          ⟨e, (env.drain_perm deletes).mem_iff.mp he, hpacket ▸ hraw⟩
        have hid := ((hok.game _ _ (Server.getGameByClientid_lookup hacting.inGame)).keyed id v hv).1
        have hitem' : isItemVanject v = true := by
          unfold isItemVanject Vanject.getType
          rw [hid]
          exact hitem
        obtain ⟨htype, howner⟩ := (shouldDeleteOnLeaveWorld_item hitem').mp hdelete
        exact ⟨key, game, player, bind, w, id, v, haction, hother, hacting, hworld, hv, htype,
          howner, overheard_left.mp hheard⟩
      · rw [Server.notify_packet hs] at hraw
        exact absurd hraw hquiet.not_rawItem

/-- **A raw packet about an item comes from one of two places.** -/
theorem Effect.raw (h : Effect env packet c srv sent srv') (hok : RegistryOk srv) (hs : s ∈ sent)
    (hraw : s.packet.RawItem) : MissesItem srv packet c ∨ LeavesDevice srv packet c := by
  cases h with
  | prelude h => exact Or.inr (h.raw hok hs hraw)
  | quiet hquiet => exact absurd hraw (hquiet s hs).not_rawItem
  | gameChanged _ _ _ _ => cases hs
  | counted _ _ _ => cases hs
  | attached _ _ _ _ _ hpackets =>
      exfalso
      rcases hpackets s hs with hquiet | ⟨id, v, -, hglobal, hnew⟩
      · exact hquiet.not_rawItem hraw
      · have hitem := (rawItem_updateObject hnew).mp hraw
        have htype : v.getType = NID.stuff ∨ v.getType = NID.device := by
          simpa [isItemVanject, isItemType] using hitem
        unfold Vanject.isNonGlobal at hglobal
        rcases htype with htype | htype <;> rw [isNonGlobalVanject_of_type htype] at hglobal <;>
          exact absurd hglobal (by decide)
  | restored _ _ _ _ _ => cases hs
  | replayed _ _ hpackets =>
      obtain ⟨p, hp, hsp⟩ := List.mem_flatMap.mp hs
      rw [Server.notify_packet hsp] at hraw
      exact absurd hraw (replayPackets_not_rawItem hpackets hp)
  | created _ _ _ _ _ hsent =>
      rcases hsent with ⟨answer, hanswer, rfl⟩ | ⟨-, -, rfl⟩
      · rw [notifyObject_packet hs] at hraw
        exact absurd hraw (statePacket_not_rawItem hanswer)
      · cases hs
  | updated _ _ _ _ _ _ hanswer =>
      rw [notifyObject_packet hs] at hraw
      exact absurd hraw (statePacket_not_rawItem hanswer)
  | deleted _ hacting hlookup _ hanswer hid hitem =>
      rw [notifyObject_packet hs] at hraw
      exfalso
      have hkeyed := ((hok.game _ _ (Server.getGameByClientid_lookup hacting.inGame)).keyed _ _ hlookup).1
      rcases hanswer with ⟨-, hremoved⟩ | hdelete
      · exact itemRemovedPacket_not_rawItem hremoved hraw
      · have htype := (rawItem_deletePacket hdelete).mp hraw
        rw [← hkeyed] at htype
        exact itemRemovedPacket_not_rawItem (hitem htype) hraw
  | @deleteMissed key game player bind id answer haction hacting hmissing hanswer hid =>
      have hpacket := notifyObject_packet hs
      rw [hpacket, rawItem_deletePacket hanswer] at hraw
      have hgame := Server.getGameByClientid_setGame hacting.inGame ⟨player, hacting.found⟩
      exact Or.inl ⟨key, game, player, bind, id, haction, hacting, hid, hraw, hmissing,
        (overheard_notifyObject hgame hraw).mpr ⟨s, hs, hpacket⟩⟩
  | transferred _ _ _ _ _ _ hanswer =>
      rw [Server.notifyWorld_packet hs] at hraw
      exact absurd hraw (itemStatePacket_not_rawItem hanswer)
  | worldMade _ _ _ _ => cases hs
  | entered _ _ _ _ hsnapshot hpre hresponse hbegin hplayers hend =>
      exfalso
      rcases List.mem_append.mp hs with hs | hs
      · exact (hpre s hs).not_rawItem hraw
      · obtain ⟨p, hp, hsp⟩ := List.mem_flatMap.mp hs
        rw [Server.notify_packet hsp] at hraw
        simp only [List.mem_append, List.mem_cons, List.not_mem_nil, or_false] at hp
        rcases hp with ((rfl | rfl | rfl) | hp) | rfl
        · exact hresponse.not_rawItem hraw
        · obtain ⟨haction, -⟩ := hraw
          simp [hbegin] at haction
        · exact hplayers.not_rawItem hraw
        · obtain ⟨v, -, hv⟩ := (mem_mapM hsnapshot).mp hp
          exact statePacket_not_rawItem hv hraw
        · exact hend.not_rawItem hraw
  | closed _ _ _ hquiet => exact absurd hraw (hquiet s hs).not_rawItem
  | closedLast _ _ _ hquiet => exact absurd hraw (hquiet s hs).not_rawItem

theorem Handled.raw (h : Handled env packet c srv sent srv') (hok : RegistryOk srv) (hs : s ∈ sent)
    (hraw : s.packet.RawItem) : MissesItem srv packet c ∨ LeavesDevice srv packet c := by
  cases h with
  | one h => exact h.raw hok hs hraw
  | two haction h₁ h₂ =>
      rcases List.mem_append.mp hs with hs | hs
      · exact Or.inr (h₁.raw hok hs hraw)
      exfalso
      rcases h₂.raw (hok.prelude h₁) hs hraw with ⟨_, _, _, _, _, hdelete, -⟩ |
        ⟨k, g, player, b, w, id, v, hleaves, -, hacting, hworld, -⟩
      · simp [hdelete] at haction
      · -- a player that changes does not leave, and one that left is in no world
        cases h₁ with
        | playerChanged _ _ _ _ _ _ _ hchange =>
            cases hchange with
            | named ha _ => simp [ha] at hleaves
            | described ha _ => simp [ha] at hleaves
            | moved ha => simp [ha] at hleaves
            | embodied ha _ _ _ _ => simp [ha] at hleaves
        | left _ _ hacting₀ _ _ _ =>
            have hfound := Game.getPlayer_modifyPlayer (f := fun p => { p with world := none })
              hacting₀.found rfl
            obtain ⟨-, -, rfl, -⟩ := hacting.unique
              ⟨Server.getGameByClientid_setGame hacting₀.inGame ⟨_, hfound⟩, hfound, hacting₀.bound⟩
            cases hworld

/-! ### What was deleted is raw -/

/-- The relay of a request to delete an item that is not stored is raw. -/
theorem MissesItem.sent_raw (h : MissesItem srv packet c) (hr : srv.handle env packet c = some r) :
    ∃ s ∈ r.sent, s.packet.RawItem := by
  obtain ⟨k, g, player, b, id, haction, hacting, hid, hitem, hmissing, hheard⟩ := h
  have hdelete : srv.deleteObject packet c = some r := by simpa [Server.handle, haction] using hr
  unfold Server.deleteObject at hdelete
  simp only [Option.bind_eq_bind, Option.bind_eq_some_iff] at hdelete
  obtain ⟨idBytes, hslice, id', hid', hdelete⟩ := hdelete
  rw [slice_zero_four hslice] at hid'
  obtain rfl := Option.some.inj (hid.symm.trans hid')
  simp only [hacting.inGame, hacting.found, hacting.bound, hmissing, Option.bind_some,
    Option.bind_eq_some_iff] at hdelete
  obtain ⟨answer, hanswer, hdelete⟩ := hdelete
  simp only [Server.deleteAccepted, Server.complete, Option.some.injEq] at hdelete
  subst hdelete
  have hgame := hacting.withVanjects (g.vanjects.erase id)
  obtain ⟨s, hs, hpacket⟩ := (overheard_notifyObject hgame hitem).mp hheard
  exact ⟨s, hs, hpacket ▸ (rawItem_deletePacket hanswer).mpr hitem⟩

/-- A DEVICE that goes with its player goes in a raw packet. -/
theorem LeavesDevice.left_raw (h : LeavesDevice srv packet c) (hok : RegistryOk srv)
    (hr : srv.leaveWorld env c = some r) : ∃ s ∈ r.sent, s.packet.RawItem := by
  obtain ⟨k, g, player, b, w, id, v, -, -, hacting, hworld, hv, htype, howner, hheard⟩ := h
  unfold Server.leaveWorld at hr
  simp only [hacting.inGame, hacting.found, hacting.bound, hworld, Option.bind_eq_bind,
    Option.bind_some, Option.bind_eq_some_iff] at hr
  obtain ⟨deletes, hdeletes, playersWorld, -, hr⟩ := hr
  rw [retain_leaveDeletes hdeletes] at hr
  obtain rfl := Server.complete_eq_some hr
  have hitem : isItemVanject v = true := by simp [isItemVanject, isItemType, htype]
  have hid := ((hok.game _ _ (Server.getGameByClientid_lookup hacting.inGame)).keyed id v hv).1
  obtain ⟨e, he, hraw⟩ := (leaveDeletes_rawItem hdeletes).mpr
    ⟨id, v, hv, (shouldDeleteOnLeaveWorld_item hitem).mpr ⟨htype, howner⟩, hid ▸ hitem⟩
  have hgame : (srv.setGame k (g.left c b)).getGameByClientid c = some (k, g.left c b) :=
    Server.getGameByClientid_setGame hacting.inGame
      ⟨_, Game.getPlayer_modifyPlayer hacting.found rfl⟩
  obtain ⟨s, hs, hpacket⟩ := (overheard_notifyGame hgame).mp (overheard_left.mpr hheard)
  refine ⟨s, List.mem_append_left _ (List.mem_flatMap.mpr ⟨e, ?_, hs⟩), hpacket ▸ hraw⟩
  exact (env.drain_perm deletes).mem_iff.mpr he

/-- Whoever leaves a world by a request leaves it first. -/
theorem LeavesDevice.sent_raw (h : LeavesDevice srv packet c) (hok : RegistryOk srv)
    (hr : srv.handle env packet c = some r) : ∃ s ∈ r.sent, s.packet.RawItem := by
  have hleft : ∀ left, srv.leaveWorld env c = some left → ∃ s ∈ left.sent, s.packet.RawItem :=
    fun left hl => h.left_raw hok hl
  have happend : ∀ {left : Reply} {rest : List Sent}, srv.leaveWorld env c = some left →
      ∃ s ∈ left.sent ++ rest, s.packet.RawItem := by
    intro left rest hl
    obtain ⟨s, hs, hraw⟩ := hleft left hl
    exact ⟨s, List.mem_append_left _ hs, hraw⟩
  obtain ⟨k, g, player, b, w, id, v, haction, hother, hacting, hworld, -⟩ := h
  simp only [List.mem_cons, List.not_mem_nil, or_false] at haction
  rcases haction with haction | haction | haction
  · exact hleft r (by simpa [Server.handle, haction] using hr)
  · have hset : srv.setWorld env packet c = some r := by simpa [Server.handle, haction] using hr
    obtain ⟨worldId, ySize, hworldId, -, ⟨hneeds, -⟩ | ⟨-, left, hl, ⟨rfl, -⟩ |
      ⟨ok, entered, -, -, rfl⟩⟩⟩ := setWorld_cases hset
    · have hne : w.id ≠ worldId := fun heq => hother haction (by rw [hworldId, heq])
      rw [(needsLeaveWorld_iff hacting).mpr ⟨w, hworld, hne⟩] at hneeds
      cases hneeds
    · exact hleft _ hl
    · exact happend hl
  · have hclose : srv.closeSocket env c = some r := by simpa [Server.handle, haction] using hr
    rcases closeSocket_cases hclose with ⟨left, hl, ⟨closed, -, rfl⟩ | ⟨rfl, -⟩⟩
    · exact happend hl
    · exact hleft _ hl

/-- **Items are announced in their own words** by every packet but a delete request for an item
that is not stored and a request that makes the owner of a DEVICE leave its world. -/
theorem item_vocabulary_iff (hreach : ServerReachable srv)
    (h : srv.onUpdate env c packet = some r) :
    (∀ s ∈ r.sent, ¬ s.packet.RawItem) ↔ ¬ MissesItem srv packet c ∧ ¬ LeavesDevice srv packet c := by
  have hok := hreach.registryOk
  constructor
  · intro hnone
    obtain ⟨reply, hhandle, -, -, hsent⟩ := onUpdate_result h
    have hraw : ¬ ∃ s ∈ reply.sent, s.packet.RawItem := by
      rintro ⟨s, hs, hraw⟩
      exact hnone s (by rw [hsent]; exact List.mem_append_left _ hs) hraw
    exact ⟨fun hmisses => hraw (hmisses.sent_raw hhandle),
      fun hleaves => hraw (hleaves.sent_raw hok hhandle)⟩
  · rintro ⟨hmisses, hleaves⟩ s hs hraw
    obtain ⟨sent, answer, hsent, hquiet, hhandled, -⟩ := onUpdate_handled h
    rw [hsent] at hs
    rcases List.mem_append.mp hs with hs | hs
    · exact (hhandled.raw hok hs hraw).elim hmisses hleaves
    · exact (hquiet s hs).not_rawItem hraw

end

/-- Two connected players in a world. -/
def twoInWorld : List (Env × Input) :=
  [(Env.atTime 0, .add (Client.new 7)), (Env.atTime 0, .add (Client.new 8)),
    (Env.atTime 0, ask 7 .attachToGame [0, 0, 0, 0]),
    (Env.atTime 0, ask 7 .setWorld [0, 0, 8]),
    (Env.atTime 0, ask 8 .attachToGame [1, 0, 0, 0]),
    (Env.atTime 0, ask 8 .setWorld [0, 0, 8])]

/-- A DEVICE of the first of them. -/
def makeDevice : Packet := request .createObject [5, 0, 1, 4, 0, 0, 0, 0, 0, 0, 0, 0, 0, 0]

/-- The deletion of a STUFF that nobody made, and the DEVICE of a player that leaves its world. -/
theorem raw_items : ∃ srv r₁ r₂, ServerReachable srv ∧
    srv.onUpdate (Env.atTime 0) 7 (request .deleteObject [5, 0, 11, 4, 0, 0, 0, 0]) = some r₁ ∧
    (∃ s ∈ r₁.sent, s.packet.RawItem) ∧
    srv.onUpdate (Env.atTime 0) 7 (request .leaveWorld []) = some r₂ ∧
    ∃ s ∈ r₂.sent, s.packet.RawItem := by
  have hplay : ((play (Server.new 0) (twoInWorld
        ++ [(Env.atTime 0, .message 7 (.updated makeDevice))])).map Prod.fst).bind (fun srv => do
      let r₁ ← srv.onUpdate (Env.atTime 0) 7 (request .deleteObject [5, 0, 11, 4, 0, 0, 0, 0])
      let r₂ ← srv.onUpdate (Env.atTime 0) 7 (request .leaveWorld [])
      some (decide (∃ s ∈ r₁.sent, s.packet.RawItem), decide (∃ s ∈ r₂.sent, s.packet.RawItem)))
      = some (true, true) := by
    decide +kernel
  obtain ⟨srv, tr, hrun, hfacts⟩ := play_bind hplay
  simp only [Option.bind_eq_bind, Option.bind_eq_some_iff, Option.some.injEq, Prod.mk.injEq,
    decide_eq_true_eq] at hfacts
  obtain ⟨r₁, hr₁, r₂, hr₂, hraw₁, hraw₂⟩ := hfacts
  exact ⟨srv, r₁, r₂, ⟨0, tr, hrun⟩, hr₁, hraw₁, hr₂, hraw₂⟩

/-- The other player hears of a new DEVICE, and not in a raw packet. -/
theorem item_vocabulary_device : ∃ srv r, ServerReachable srv ∧
    srv.onUpdate (Env.atTime 0) 7 makeDevice = some r ∧ r.sent ≠ [] ∧
    ∀ s ∈ r.sent, ¬ s.packet.RawItem := by
  have hplay : ((play (Server.new 0) twoInWorld).map Prod.fst).bind (fun srv => do
      let r ← srv.onUpdate (Env.atTime 0) 7 makeDevice
      some (r.sent.isEmpty)) = some false := by
    decide +kernel
  obtain ⟨srv, tr, hrun, hfacts⟩ := play_bind hplay
  simp only [Option.bind_eq_bind, Option.bind_eq_some_iff, Option.some.injEq] at hfacts
  obtain ⟨r, hr, hsent⟩ := hfacts
  have hreach : ServerReachable srv := ⟨0, tr, hrun⟩
  refine ⟨srv, r, hreach, hr, by simpa using hsent, (item_vocabulary_iff hreach hr).mpr ⟨?_, ?_⟩⟩
  · rintro ⟨_, _, _, _, _, haction, -⟩
    cases haction
  · rintro ⟨_, _, _, _, _, _, _, haction, -⟩
    exact absurd haction (by decide)

end VangersSrv
