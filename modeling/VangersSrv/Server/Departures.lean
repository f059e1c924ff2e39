/-
Leaving a world.

One set of objects is deleted, announced and counted: `GoesWith` says which.  The rest of the
game hears of each of them once, then that the player is in no world, and nothing else changes.
-/
import VangersSrv.Server.Delivered
import VangersSrv.Server.Vocabulary

namespace VangersSrv

/-- What goes with a player that leaves its world: its inventory, and the private objects of its
station. -/
def GoesWith (b : UInt8) (v : Vanject) : Prop :=
  (v.isNonGlobal = true ∧ v.isPlayers = true ∧ v.playerBindId = b) ∨
    (v.isPrivate = true ∧ v.getStation = asI32 b)

/-- A player that left its world, and what was said of that. -/
structure Departed (srv : Server) (c : ClientID) (key : GameID) (game : Game) (player : Player)
    (b : UInt8) (r : Reply) (game' : Game) (ids : List I32) (deletes : List Packet)
    (playersWorld : Packet) : Prop where
  acting : Acting srv c key game player b
  inWorld : player.world ≠ none
  /-- Other games and the clients are as they were, -/
  written : r.srv = srv.setGame key game'
  /-- and so are the worlds and everything else of the game but players and objects. -/
  kept : game' = { game with players := game'.players, vanjects := game'.vanjects }
  /-- The player is in no world; the others are as they were. -/
  players : game'.players
    = game.players.map fun q => if q.clientId = c then { q with world := none } else q
  left : game'.getPlayer c = some { player with world := none }
  stored : ∀ id v, game'.vanjects.lookup id = some v ↔
    game.vanjects.lookup id = some v ∧ ¬ GoesWith b v
  /-- The objects that went, each once. -/
  distinct : ids.Nodup
  removed : ∀ id, id ∈ ids ↔ ∃ v, game.vanjects.lookup id = some v ∧ GoesWith b v
  deleted : List.Forall₂ (fun id p => ∃ v, game.vanjects.lookup id = some v ∧
    p.action = .deleteObject ∧ p.data = toLeBytes32 id ++ [b] ++ toLeBytes32 v.time) ids deletes
  movedOut : playersWorld.action = .playersWorld ∧ playersWorld.data = [b, 0]
  told : ∀ x, x ∈ game.clientIds → x ≠ c →
    packetsTo x r.sent = srv.toConnections x (deletes ++ [playersWorld])
  /-- The player itself is sent nothing. -/
  others : ∀ x, x ∉ game.clientIds ∨ x = c → packetsTo x r.sent = []

section

variable {c : ClientID} {game : Game} {b : UInt8} {v : Vanject} {vanjects : Vanjects}
  {deletes : List (I32 × Packet)}

theorem shouldDeleteOnLeaveWorld_iff : shouldDeleteOnLeaveWorld v b = true ↔ GoesWith b v := by
  simp only [shouldDeleteOnLeaveWorld, GoesWith, Bool.or_eq_true, Bool.and_eq_true,
    decide_eq_true_eq, and_assoc]
  exact or_congr_right and_comm

theorem lookup_left {id : I32} :
    (game.left c b).vanjects.lookup id = some v ↔
      game.vanjects.lookup id = some v ∧ ¬ GoesWith b v := by
  show (game.vanjects.retain _).lookup id = some v ↔ _
  rw [AList.lookup_retain_eq_some, ← shouldDeleteOnLeaveWorld_iff]
  simp

/-- The deletes are one for each object that goes, however they are drained. -/
theorem drained_deletes (env : Env) (h : leaveDeletes vanjects b = some deletes) :
    ((env.drain deletes).map Prod.fst).Nodup ∧
      (∀ id, id ∈ (env.drain deletes).map Prod.fst ↔
        ∃ v, vanjects.lookup id = some v ∧ GoesWith b v) ∧
      List.Forall₂ (fun id p => ∃ v, vanjects.lookup id = some v ∧ p.action = .deleteObject ∧
          p.data = toLeBytes32 id ++ [b] ++ toLeBytes32 v.time)
        ((env.drain deletes).map Prod.fst) ((env.drain deletes).map Prod.snd) := by
  have hperm := (env.drain_perm deletes).map Prod.fst
  refine ⟨hperm.nodup_iff.mpr ?_, fun id => ?_, ?_⟩
  · rw [keys_leaveDeletes h]
    exact List.NodupKeys.sublist List.filter_sublist vanjects.nodupKeys
  · rw [hperm.mem_iff, mem_leaveDeletes h]
    simp only [shouldDeleteOnLeaveWorld_iff]
  · rw [List.forall₂_map_left_iff, List.forall₂_map_right_iff, List.forall₂_same]
    intro e he
    obtain ⟨v, hv, -, hpacket⟩ := leaveDeletes_packet h ((env.drain_perm deletes).mem_iff.mp he)
    obtain ⟨haction, hdata, -⟩ := Packet.new_eq_some hpacket
    exact ⟨v, hv, haction, hdata⟩

end

/-- **LEAVE_WORLD removes and announces the same objects.** -/
theorem leaveWorld_departs {env : Env} {srv : Server} {c : ClientID} {r : Reply} {ok : OnUpdateOk}
    (hone : OneHolder srv) (h : srv.leaveWorld env c = some r) (hok : r.result = .ok ok) :
    ∃ key game player b game' ids deletes playersWorld,
      Departed srv c key game player b r game' ids deletes playersWorld := by
  rcases leaveWorld_cases h with ⟨err, hfail⟩ | ⟨key, game, player, b, world, deletes,
    playersWorld, hacting, hworld, hdeletes, hpacket, rfl⟩
  · exact absurd hok (Server.fail_ne_ok hfail)
  obtain ⟨hdistinct, hremoved, hdeleted⟩ := drained_deletes env hdeletes
  have hlookup := Server.getGameByClientid_lookup hacting.inGame
  have hids : (game.left c b).clientIds = game.clientIds := Game.clientIds_modifyPlayer fun _ _ => rfl
  have hplayers : (game.left c b).players
      = game.players.map fun q => if q.clientId = c then { q with world := none } else q := by
    refine (List.modifyFirst_eq_map ?_).trans ?_
    · refine (List.pairwise_map.mp (hone.inGame key game hlookup)).imp fun hne hq => ?_
      simp only [decide_eq_true_eq] at hq
      exact decide_eq_false fun hq' => hne (hq.trans hq'.symm)
    · simp
  have hgamewide : ∀ x p, packetsTo x ((srv.setGame key (game.left c b)).notifyGame c p)
      = if x ∈ (game.left c b).clientIds ∧ x ≠ c then
          (srv.setGame key (game.left c b)).toConnections x [p]
        else [] := fun _ _ => packetsTo_notifyGame hacting.left.inGame
  refine ⟨key, game, player, b, game.left c b, _, _, playersWorld, {
    acting := hacting
    inWorld := by simp [hworld]
    written := rfl
    kept := rfl
    players := hplayers
    left := hacting.left.found
    stored := fun _ _ => lookup_left
    distinct := hdistinct
    removed := hremoved
    deleted := hdeleted
    movedOut := ⟨(Packet.new_eq_some hpacket).1, (Packet.new_eq_some hpacket).2.1⟩
    told := ?_
    others := ?_ }⟩
  · intro x hx hne
    have heach : ∀ p, packetsTo x ((srv.setGame key (game.left c b)).notifyGame c p)
        = srv.toConnections x [p] := fun p => by
      rw [hgamewide, if_pos ⟨hids ▸ hx, hne⟩]
      rfl
    rw [packetsTo_append, toConnections_append, heach, ← List.flatMap_map, packetsTo_flatMap heach]
  · intro x hx
    have hnone : ∀ p, packetsTo x ((srv.setGame key (game.left c b)).notifyGame c p) = [] := by
      intro p
      rw [hgamewide, if_neg]
      rintro ⟨hmem, hne⟩
      exact hx.elim (fun hnot => hnot (hids ▸ hmem)) hne
    rw [packetsTo_append, hnone, ← List.flatMap_map, packetsTo_flatMap_nil hnone]
    rfl

/-- A player leaves a world in which it has a DEVICE. -/
theorem leaveWorld_departs_device : ∃ srv r, ServerReachable srv ∧ OneHolder srv ∧
    srv.leaveWorld (Env.atTime 0) 7 = some r ∧
    ∃ key game player b game' ids deletes playersWorld,
      Departed srv 7 key game player b r game' ids deletes playersWorld := by
  have hplay : ((play (Server.new 0) (twoInWorld
        ++ [(Env.atTime 0, .message 7 (.updated makeDevice))])).map Prod.fst).bind (fun srv => do
      let r ← srv.leaveWorld (Env.atTime 0) 7
      some (decide srv.holders.Nodup, r.result.toOption)) = some (true, some .complete) := by
    decide +kernel
  obtain ⟨srv, tr, hrun, hfacts⟩ := play_bind hplay
  simp only [Option.bind_eq_bind, Option.bind_eq_some_iff, Option.some.injEq, Prod.mk.injEq,
    decide_eq_true_eq] at hfacts
  obtain ⟨r, hr, hholders, hres⟩ := hfacts
  have hone : OneHolder srv := .of_nodup hholders
  exact ⟨srv, r, ⟨0, tr, hrun⟩, hone, hr, leaveWorld_departs hone hr (ok_of_toOption hres)⟩

end VangersSrv
