/-
The requests about a single object.

Each early return leaves the state alone, and what is left is the accepting path.
-/
import VangersSrv.Server.Handled.Sound

namespace VangersSrv

variable {env : Env} {packet : Packet} {c : ClientID} {srv srv' : Server} {r : Reply}

theorem setGame_self {key : GameID} {game : Game} (h : srv.games.lookup key = some game) :
    srv.setGame key game = srv := by
  obtain ⟨l₁, l₂, hsplit, hreplaced⟩ := AList.entries_replace game h
  have hgames : srv.games.replace key game = srv.games := AList.ext (by rw [hreplaced, hsplit])
  unfold Server.setGame
  rw [hgames]

theorem storeVanject_eq {key : GameID} {game : Game} {v : Vanject}
    (hgame : srv.getGameByClientid c = some (key, game)) (h : srv.storeVanject c v = some srv') :
    srv' = srv.setGame key { game with vanjects := game.vanjects.insert v.id v } := by
  unfold Server.storeVanject at h
  rw [hgame] at h
  simpa using h.symm

theorem createAccepted_sound {key : GameID} {game : Game} {player : Player} {bind : UInt8}
    {v : Vanject} (haction : packet.action = .createObject)
    (hacting : Acting srv c key game player bind)
    (hparse : Vanject.createFromSlice packet.data = some (.ok v))
    (hnew : game.vanjects.lookup v.id = none)
    (hpaired : isItemVanject v = true → itemHasPairedVanject v game.vanjects = none)
    (h : srv.createAccepted c key game player { v with playerBindId := bind } = some r) :
    Sound env packet c srv r := by
  unfold Server.createAccepted at h
  split at h
  · rename_i hty
    have hty' : getVanjectType v.id = NID.vanger := hty
    have hglobal : isNonGlobalVanject v.id = true := by
      rw [isNonGlobalVanject_of_type hty']
      decide
    have hitem : isItemVanject { v with playerBindId := bind } = false := by
      show isItemType (getVanjectType v.id) = false
      rw [hty']
      decide
    simp only [Option.bind_eq_bind, Option.bind_eq_some_iff] at h
    obtain ⟨⟨player', parsed⟩, hset, sent, hsent, srv₂, hstore, h⟩ := h
    obtain ⟨body, hbody, rfl, rfl⟩ := Player.setBody_eq_some hset
    -- the player changes first, and is found again in the game that was written back
    have hplayer₂ : (game.modifyPlayer c fun _ => { player with pos := v.pos, body }).getPlayer c
        = some { player with pos := v.pos, body } :=
      Game.getPlayer_modifyPlayer hacting.found rfl
    have hgame₂ := Server.getGameByClientid_setGame hacting.inGame ⟨_, hplayer₂⟩
    have hacting₂ : Acting (srv.setGame key (game.modifyPlayer c fun _ =>
        { player with pos := v.pos, body })) c key
        (game.modifyPlayer c fun _ => { player with pos := v.pos, body })
        { player with pos := v.pos, body } bind := ⟨hgame₂, hplayer₂, hacting.bound⟩
    have hsrv := storeVanject_eq hgame₂ hstore
    subst hsrv
    have hfirst : Prelude env packet c srv [] (srv.setGame key (game.modifyPlayer c fun _ =>
        { player with pos := v.pos, body })) :=
      .playerChanged hacting.inGame hacting.found rfl rfl rfl rfl (by simp)
        (.embodied haction hparse hty' hnew hbody)
    refine Sound.complete h (.two (by simp [haction]) hfirst
      (.created (v := v) haction hacting₂ hparse hnew hpaired ?_))
    unfold Server.announceVanger at hsent
    split at hsent
    · obtain ⟨answer, hanswer, rfl⟩ := Option.map_eq_some_iff.mp hsent
      refine Or.inl ⟨answer, ?_, ?_⟩
      · unfold statePacket
        rw [hitem]
        exact hanswer
      · rw [Server.notifyObject_local hglobal]
    · rename_i hparsed
      simp only [Option.some.injEq] at hsent
      have hshort := Body.fromSlice_isSome hbody
      have hfalse : body.isSome = false := by simpa using hparsed
      rw [hfalse, eq_comm, decide_eq_false_iff_not, not_le] at hshort
      exact Or.inr ⟨hty', hshort, hsent.symm⟩
  · simp only [Option.bind_eq_bind, Option.bind_eq_some_iff] at h
    obtain ⟨answer, hanswer, srv₂, hstore, h⟩ := h
    have hsrv := storeVanject_eq hacting.inGame hstore
    subst hsrv
    exact Sound.complete h
      (.one (.created (v := v) haction hacting hparse hnew hpaired
        (Or.inl ⟨answer, hanswer, rfl⟩)))

/-- An accepted create stores its object. -/
theorem createAccepted_stores {key : GameID} {game : Game} {player : Player} {v : Vanject}
    (hgame : srv.getGameByClientid c = some (key, game)) (hplayer : game.getPlayer c = some player)
    (h : srv.createAccepted c key game player v = some r) :
    ∃ game', r.srv = srv.setGame key game' ∧ game'.vanjects = game.vanjects.insert v.id v := by
  unfold Server.createAccepted at h
  split at h
  · simp only [Option.bind_eq_bind, Option.bind_eq_some_iff] at h
    obtain ⟨⟨player', parsed⟩, hset, sent, -, srv₂, hstore, h⟩ := h
    obtain ⟨body, -, rfl, -⟩ := Player.setBody_eq_some hset
    have hfound : (game.modifyPlayer c fun _ => { player with pos := v.pos, body }).getPlayer c
        = some { player with pos := v.pos, body } :=
      Game.getPlayer_modifyPlayer hplayer rfl
    have hstored := storeVanject_eq (Server.getGameByClientid_setGame hgame ⟨_, hfound⟩) hstore
    rw [Server.setGame_setGame (Server.getGameByClientid_lookup hgame)] at hstored
    obtain rfl := Server.complete_eq_some h
    exact ⟨_, hstored, rfl⟩
  · simp only [Option.bind_eq_bind, Option.bind_eq_some_iff] at h
    obtain ⟨answer, -, srv₂, hstore, h⟩ := h
    obtain rfl := Server.complete_eq_some h
    exact ⟨_, storeVanject_eq hgame hstore, rfl⟩

/-- A create is rejected, answered with the object that is stored, or accepted. -/
theorem createObject_cases (h : srv.createObject packet c = some r) :
    (∃ err, srv.fail (.createObject err) = some r) ∨
      (∃ key game v existing packets, srv.getGameByClientid c = some (key, game) ∧
        Vanject.createFromSlice packet.data = some (.ok v) ∧
        game.vanjects.lookup v.id = some existing ∧ replayPackets existing = some packets ∧
        srv.complete (packets.flatMap (srv.notifyPlayer c)) = some r) ∨
      ∃ key game player bind v, Acting srv c key game player bind ∧
        Vanject.createFromSlice packet.data = some (.ok v) ∧ game.vanjects.lookup v.id = none ∧
        (isItemVanject v = true → itemHasPairedVanject v game.vanjects = none) ∧
        srv.createAccepted c key game player { v with playerBindId := bind } = some r := by
  unfold Server.createObject at h
  simp only [Option.bind_eq_bind, Option.bind_eq_some_iff] at h
  obtain ⟨parsed, hparse, h⟩ := h
  split at h
  · exact Or.inl ⟨_, h⟩
  rename_i v
  split at h
  · exact Or.inl ⟨_, h⟩
  rename_i key game hgame
  split at h
  · rename_i existing hlookup
    simp only [Option.bind_eq_some_iff] at h
    obtain ⟨packets, hpackets, h⟩ := h
    exact Or.inr (Or.inl ⟨key, game, v, existing, packets, hgame, hparse, hlookup, hpackets, h⟩)
  rename_i hnew
  split at h
  · exact Or.inl ⟨_, h⟩
  rename_i hpaired
  simp only [Option.bind_eq_some_iff] at h
  obtain ⟨player, hplayer, h⟩ := h
  split at h
  · exact Or.inl ⟨_, h⟩
  rename_i bound hbind
  unfold Player.bindVanject at hbind
  obtain ⟨b, hb, rfl⟩ := Option.map_eq_some_iff.mp hbind
  have hacting : Acting srv c key game player b.id := ⟨hgame, hplayer, by simp [Player.bindId, hb]⟩
  refine Or.inr (Or.inr ⟨key, game, player, b.id, v, hacting, hparse, hnew, ?_, h⟩)
  intro hitem
  rw [if_pos hitem] at hpaired
  exact hpaired

theorem createObject_sound (haction : packet.action = .createObject)
    (h : srv.createObject packet c = some r) : Sound env packet c srv r := by
  rcases createObject_cases h with ⟨err, h⟩ |
    ⟨key, game, v, existing, packets, hgame, -, hlookup, hpackets, h⟩ |
    ⟨key, game, player, bind, v, hacting, hparse, hnew, hpaired, h⟩
  · exact Sound.fail h
  · exact Sound.complete h (.one (.replayed hgame hlookup hpackets))
  · exact createAccepted_sound haction hacting hparse hnew hpaired h

theorem slice_zero_four {s t : Bytes} (h : slice s 0 4 = some t) : t = s.take 4 := by
  simpa using (slice_eq_some.mp h).2.symm

/-- An update is rejected, or it passed every check. -/
theorem updateObject_cases (h : srv.updateObject packet c = some r) :
    (∃ err, srv.fail (.updateObject err) = some r) ∨
      ∃ key game player bind id old new answer, Acting srv c key game player bind ∧
        sliceLeToI32 (packet.data.take 4) = some id ∧ game.vanjects.lookup id = some old ∧
        updateRejection old id c bind player.worldId = none ∧
        old.updateFromSlice packet.data = some (.ok new) ∧
        statePacket { new with playerBindId := bind } = some answer ∧
        (srv.setGame key { game with
            vanjects := game.vanjects.replace id { new with playerBindId := bind } }).complete
          ((srv.setGame key { game with
            vanjects := game.vanjects.replace id { new with playerBindId := bind } }).notifyObject c
            new.id answer (isRealtimeCoalescedUpdate id)) = some r := by
  unfold Server.updateObject at h
  split at h
  · exact Or.inl ⟨_, h⟩
  simp only [Option.bind_eq_bind, Option.bind_eq_some_iff] at h
  obtain ⟨idBytes, hslice, id, hid, h⟩ := h
  split at h
  · exact Or.inl ⟨_, h⟩
  rename_i key game hgame
  simp only [Option.bind_eq_some_iff] at h
  obtain ⟨player, hplayer, h⟩ := h
  split at h
  · exact Or.inl ⟨_, h⟩
  rename_i bind hbind
  split at h
  · exact Or.inl ⟨_, h⟩
  rename_i old hlookup
  split at h
  · exact Or.inl ⟨_, h⟩
  rename_i hpassed
  simp only [Option.bind_eq_some_iff] at h
  obtain ⟨parsed, hparse, h⟩ := h
  split at h
  · exact Or.inl ⟨_, h⟩
  rename_i new
  simp only [Option.bind_eq_some_iff] at h
  obtain ⟨answer, hanswer, h⟩ := h
  rw [slice_zero_four hslice] at hid
  exact Or.inr ⟨key, game, player, bind, id, old, new, answer, ⟨hgame, hplayer, hbind⟩, hid, hlookup,
    hpassed, hparse, hanswer, h⟩

theorem updateObject_sound (haction : packet.action = .updateObject)
    (h : srv.updateObject packet c = some r) : Sound env packet c srv r := by
  rcases updateObject_cases h with ⟨err, h⟩ | ⟨key, game, player, bind, id, old, new, answer,
    hacting, hid, hlookup, hpassed, hparse, hanswer, h⟩
  · exact Sound.fail h
  · exact Sound.complete h (.one (.updated haction hacting hid hlookup hpassed hparse hanswer))

/-- A delete is rejected, about an object that is not stored, or its owner's. -/
theorem deleteObject_cases (h : srv.deleteObject packet c = some r) :
    (∃ err, srv.fail (.deleteObject err) = some r) ∨
      ∃ key game player bind id answer, Acting srv c key game player bind ∧
        sliceLeToI32 (packet.data.take 4) = some id ∧
        ((game.vanjects.lookup id = none ∧ deletePacket packet id bind = some answer) ∨
          ∃ v, game.vanjects.lookup id = some v ∧ v.playerBindId = bind ∧
            if isItemVanject v = true then itemRemovedPacket v itemRemovedReasonDelete = some answer
            else deletePacket packet id bind = some answer) ∧
        srv.deleteAccepted c key game id answer = some r := by
  unfold Server.deleteObject at h
  simp only [Option.bind_eq_bind, Option.bind_eq_some_iff] at h
  obtain ⟨idBytes, hslice, id, hid, h⟩ := h
  rw [slice_zero_four hslice] at hid
  split at h
  · exact Or.inl ⟨_, h⟩
  rename_i key game hgame
  simp only [Option.bind_eq_some_iff] at h
  obtain ⟨player, hplayer, h⟩ := h
  split at h
  · exact Or.inl ⟨_, h⟩
  rename_i bind hbind
  have hacting : Acting srv c key game player bind := ⟨hgame, hplayer, hbind⟩
  split at h
  · rename_i hmissing
    simp only [Option.bind_eq_some_iff] at h
    obtain ⟨answer, hanswer, h⟩ := h
    exact Or.inr ⟨key, game, player, bind, id, answer, hacting, hid, Or.inl ⟨hmissing, hanswer⟩, h⟩
  rename_i v hlookup
  split at h
  · exact Or.inl ⟨_, h⟩
  rename_i howner
  split at h
  · exact Or.inl ⟨_, h⟩
  split at h
  · rename_i hitem
    simp only [Option.bind_eq_some_iff] at h
    obtain ⟨answer, hanswer, h⟩ := h
    exact Or.inr ⟨key, game, player, bind, id, answer, hacting, hid,
      Or.inr ⟨v, hlookup, not_not.mp howner, by rwa [if_pos hitem]⟩, h⟩
  · rename_i hitem
    simp only [Option.bind_eq_some_iff] at h
    obtain ⟨answer, hanswer, h⟩ := h
    exact Or.inr ⟨key, game, player, bind, id, answer, hacting, hid,
      Or.inr ⟨v, hlookup, not_not.mp howner, by rwa [if_neg hitem]⟩, h⟩

theorem deleteObject_sound (haction : packet.action = .deleteObject)
    (h : srv.deleteObject packet c = some r) : Sound env packet c srv r := by
  rcases deleteObject_cases h with ⟨err, h⟩ |
    ⟨key, game, player, bind, id, answer, hacting, hid, ⟨hmissing, hanswer⟩ |
      ⟨v, hlookup, howner, hanswer⟩, h⟩
  · exact Sound.fail h
  · unfold Server.deleteAccepted at h
    rw [AList.erase_of_notMem (AList.lookup_eq_none.mp hmissing)] at h
    exact Sound.complete h (.one (.deleteMissed haction hacting hmissing hanswer hid))
  · refine Sound.complete h (.one (.deleted haction hacting hlookup howner ?_ hid ?_))
    · split at hanswer
      · rename_i hitem
        exact Or.inl ⟨hitem, hanswer⟩
      · exact Or.inr hanswer
    · intro hitem
      rwa [if_pos hitem] at hanswer

/-- A transfer is rejected without a trace, or it passed every check. -/
theorem itemTransfer_cases (h : srv.itemTransfer packet c = some r) :
    (∃ err, srv.fail (.itemTransfer err) = some r) ∨
      ∃ key game player bind world t old answer,
        Acting srv c key game player bind ∧ player.worldId = some world ∧
        ItemTransfer.parse packet = some (.ok t) ∧ t.validate = .ok () ∧
        t.check game.vanjects bind world = .ok old ∧
        itemStatePacket t.oldId { t.newVanject with playerBindId := bind } = some answer ∧
        (srv.setGame key { game with
            vanjects := (game.vanjects.erase t.oldId).insert t.newVanject.id
              { t.newVanject with playerBindId := bind } }).complete
          ((srv.setGame key { game with
            vanjects := (game.vanjects.erase t.oldId).insert t.newVanject.id
              { t.newVanject with playerBindId := bind } }).notifyWorld c
            (worldOf t.newVanject.id) answer false) = some r := by
  unfold Server.itemTransfer at h
  simp only [Option.bind_eq_bind, Option.bind_eq_some_iff] at h
  obtain ⟨parsed, hparse, h⟩ := h
  split at h
  · exact Or.inl ⟨_, h⟩
  rename_i t
  split at h
  · exact Or.inl ⟨_, h⟩
  rename_i hvalid
  split at h
  · exact Or.inl ⟨_, h⟩
  rename_i key game hgame
  split at h
  · exact Or.inl ⟨_, h⟩
  rename_i player hplayer
  split at h
  · exact Or.inl ⟨_, h⟩
  rename_i bind hbind
  split at h
  · exact Or.inl ⟨_, h⟩
  rename_i world hworld
  split at h
  · exact Or.inl ⟨_, h⟩
  rename_i old hpassed
  simp only [Option.bind_eq_some_iff] at h
  obtain ⟨answer, hanswer, h⟩ := h
  exact Or.inr ⟨key, game, player, bind, world, t, old, answer, ⟨hgame, hplayer, hbind⟩, hworld,
    hparse, hvalid, hpassed, hanswer, h⟩

theorem itemTransfer_sound (haction : packet.action = .itemTransfer)
    (h : srv.itemTransfer packet c = some r) : Sound env packet c srv r := by
  rcases itemTransfer_cases h with ⟨err, h⟩ | ⟨key, game, player, bind, world, t, old, answer,
    hacting, hworld, hparse, hvalid, hpassed, hanswer, h⟩
  · exact Sound.fail h
  · exact Sound.complete h
      (.one (.transferred haction hacting hworld hparse hvalid hpassed hanswer))

end VangersSrv
