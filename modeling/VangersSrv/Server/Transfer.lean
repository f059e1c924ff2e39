/-
An item transfer is an atomic swap.

STUFF in the world and DEVICE in an inventory are two forms of one item.  A transfer
that is rejected leaves no trace; one that is accepted exchanges the old form for the new
in one step and tells exactly the other players of the world.
-/
import VangersSrv.Server.Ownership

namespace VangersSrv

/-- What an accepted transfer did. -/
structure Transferred (srv : Server) (packet : Packet) (c : ClientID) (reply : Reply) (key : GameID)
    (game game' : Game) (player : Player) (b w : UInt8) (t : ItemTransfer) (old new : Vanject)
    (answer : Packet) : Prop where
  acting : Acting srv c key game player b
  inWorld : player.worldId = some w
  request : ItemTransfer.parse packet = some (.ok t)
  /-- The old id was stored and the new one was not. -/
  oldStored : game.vanjects.lookup t.oldId = some old
  newMissing : game.vanjects.lookup t.newVanject.id = none
  /-- The new object is the request's, owned by the sender and linked to the old id. -/
  isNew : new = { t.newVanject with playerBindId := b }
  linked : itemLinkedId new = some t.oldId
  kinds : (t.kind = itemTransferPickup ∧ old.getType = NID.stuff ∧ new.getType = NID.device) ∨
    (t.kind = itemTransferDrop ∧ old.getType = NID.device ∧ new.getType = NID.stuff)
  oldHere : worldOf t.oldId = w
  newHere : worldOf new.id = w
  /-- Only its owner drops an item. -/
  dropped : t.kind = itemTransferDrop → old.playerBindId = b
  /-- Nothing but the store of the one game changed. -/
  written : reply.srv = srv.setGame key game'
  storeOnly : game' = { game with vanjects := game'.vanjects }
  /-- The old id went, the new one came, and every other object stayed. -/
  swapped : ∀ id, game'.vanjects.lookup id =
    if id = new.id then some new else if id = t.oldId then none else game.vanjects.lookup id
  itemState : answer.action = .itemState
  carries : answer.data = [itemStateForVanject new] ++ toLeBytes32 t.oldId ++ new.toVangersByte
  /-- The connected clients of the other players of the world get it, once each. -/
  told : reply.sent = (srv.clients.filter fun cl =>
      cl.id ∈ (game.players.filter fun q => q.worldId = some w && q.clientId ≠ c).map Player.clientId).map
    fun cl => { client := cl.id, packet := answer, realtime := false }

/-- **ITEM_TRANSFER is an atomic swap.** -/
theorem itemTransfer_atomic {srv : Server} {packet : Packet} {c : ClientID} {reply : Reply}
    (hkeyed : ∀ k g id v, srv.games.lookup k = some g → g.vanjects.lookup id = some v → v.id = id)
    (h : srv.itemTransfer packet c = some reply) :
    (∀ err, reply.result = .error err → reply.srv = srv ∧ reply.sent = []) ∧
      (∀ ok, reply.result = .ok ok → ∃ key game game' player b w t old new answer,
        Transferred srv packet c reply key game game' player b w t old new answer) := by
  rcases itemTransfer_cases h with ⟨err, hfail⟩ | ⟨key, game, player, b, w, t, old, answer,
    hacting, hworld, hparse, hvalid, hpassed, hanswer, h⟩
  · obtain rfl := Option.some.inj hfail
    refine ⟨fun _ _ => ⟨rfl, rfl⟩, ?_⟩
    intro ok hok
    cases hok
  obtain ⟨hnew, hold, holdw, hneww, hdrop⟩ := ItemTransfer.check_ok hpassed
  obtain ⟨hkinds, -, hlinked, -⟩ := ItemTransfer.validate_ok hvalid
  have hlookup := Server.getGameByClientid_lookup hacting.inGame
  have hid := hkeyed key game t.oldId old hlookup hold
  obtain ⟨hitem, hdata, -⟩ := Packet.new_eq_some hanswer
  have hreply := (Option.some.inj h).symm
  constructor
  · intro err herr
    rw [hreply] at herr
    cases herr
  intro ok _
  refine ⟨key, game, { game with
    vanjects := (game.vanjects.erase t.oldId).insert t.newVanject.id
      { t.newVanject with playerBindId := b } },
    player, b, w, t, old, { t.newVanject with playerBindId := b }, answer, ?_⟩
  refine
    { acting := hacting
      inWorld := hworld
      request := hparse
      oldStored := hold
      newMissing := hnew
      isNew := rfl
      linked := hlinked
      kinds := ?_
      oldHere := by rw [← hid]; exact holdw
      newHere := hneww
      dropped := hdrop
      written := by rw [hreply]
      storeOnly := rfl
      swapped := ?_
      itemState := hitem
      carries := hdata
      told := ?_ }
  · unfold Vanject.getType
    rw [hid]
    exact hkinds
  · intro id
    rw [AList.lookup_insert', AList.lookup_erase']
  · -- the players of the game written back are those of the game found
    rw [hreply]
    have hgame' := hacting.withVanjects ((game.vanjects.erase t.oldId).insert t.newVanject.id
      { t.newVanject with playerBindId := b })
    simp only [Server.notifyWorld, hgame', Server.sendTo, Server.setGame_clients,
      Server.clientIdsInWorld, List.filter_filter, hneww, Bool.false_or]
    congr 1
    refine List.filter_congr fun cl _ => ?_
    congr 3
    refine List.filter_congr fun q _ => ?_
    rw [Bool.and_comm]
    simp

/-- A player picks up what another player of its world dropped. -/
theorem itemTransfer_atomic_pickup : ∃ srv packet reply, ServerReachable srv ∧
    srv.itemTransfer packet 8 = some reply ∧
    ∃ key game game' player b w t old new answer,
      Transferred srv packet 8 reply key game game' player b w t old new answer := by
  have hplay : (((play (Server.new 0)
      [(Env.atTime 0, ask 7 .attachToGame [0, 0, 0, 0]),
        (Env.atTime 0, ask 7 .setWorld [0, 0, 8]),
        (Env.atTime 0, ask 8 .attachToGame [1, 0, 0, 0]),
        (Env.atTime 0, ask 8 .setWorld [0, 0, 8]),
        (Env.atTime 0, ask 7 .createObject [5, 0, 11, 4, 0, 0, 0, 0, 0, 0, 0, 0, 0, 0])]).map
        Prod.fst).bind
      fun srv => do
        let reply ← srv.itemTransfer (request .itemTransfer
          ([1, 5, 0, 11, 4, 0, 0, 0, 0, 1] ++ [5, 0, 1, 4, 0, 0, 0, 0, 0, 0, 0, 0, 0, 0]
            ++ [0, 5, 0, 11, 4])) 8
        reply.result.toOption) = some .complete := by
    decide +kernel
  obtain ⟨srv, tr, hrun, hfacts⟩ := play_bind hplay
  simp only [Option.bind_eq_bind, Option.bind_eq_some_iff] at hfacts
  obtain ⟨reply, hreply, hok⟩ := hfacts
  have hresult : reply.result = .ok .complete := ok_of_toOption hok
  have hreach : ServerReachable srv := ⟨0, tr, hrun⟩
  have hkeyed : ∀ k g id v, srv.games.lookup k = some g → g.vanjects.lookup id = some v →
      v.id = id :=
    fun k g id v hk hv => ((hreach.registryOk.game k g hk).keyed id v hv).1
  exact ⟨srv, _, reply, hreach, hreply, (itemTransfer_atomic hkeyed hreply).2 _ hresult⟩

end VangersSrv
