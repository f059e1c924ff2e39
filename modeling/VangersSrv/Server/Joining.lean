/-
Joining a world.

The player is sent what there is of the world between two markers.  The objects are sorted by a
key that no two of them share, so the list is the same in whatever order the map is iterated.
-/
import Mathlib.Data.Prod.Lex
import VangersSrv.Server.Departures
import VangersSrv.Server.PlayersList

namespace VangersSrv

/-- What a snapshot is sorted by: the type, and the id as a signed number. -/
def snapshotKey (v : Vanject) : ℕ ×ₗ ℤ := toLex (snapshotTypes.idxOf v.getType, v.id.toInt)

/-- What the player with a number is shown of a world. -/
def InSnapshot (w b : UInt8) (v : Vanject) : Prop :=
  v.getWorld = asI32 w ∧ (v.getType = NID.stuff ∨
    v.getType ∈ [NID.vanger, NID.slot, NID.device, NID.shell] ∧ v.playerBindId ≠ b)

/-- A list of players in which the player with a number is in a world. -/
def Shows (p : Packet) (b w : UInt8) : Prop :=
  ∃ (count : UInt8) (records : List PlayerRecord),
    p.data = count :: records.flatMap PlayerRecord.encode ∧ count.toNat = records.length ∧
      ∃ record ∈ records, record.id = b ∧ record.world = w

/-- What the connection of a player is sent when the player joins a world, in this order: its new
status if that changed, the answer, the mark of the beginning, the list of the players, the
objects and the mark of the end. -/
structure Joined (srv : Server) (c : ClientID) (r : Reply) (w : UInt8) (before after : Game)
    (player : Player) (b : UInt8) (statuses : List Packet) (response snapshotBegin players : Packet)
    (objects : List Vanject) (snapshot : List Packet) (snapshotEnd : Packet) : Prop where
  told : packetsTo c r.sent = srv.toConnections c
    (statuses ++ [response, snapshotBegin, players] ++ snapshot ++ [snapshotEnd])
  statuses : statuses.length ≤ 1 ∧
    ∀ p ∈ statuses, p.action = .playersStatus ∧ p.data = [b, Status.gaming.toU8]
  response : response.action = .setWorldResponse
  opens : snapshotBegin.action = .worldSnapshotBegin ∧ snapshotBegin.data = [w]
  /-- The list is that of the game in which the player is in the world. -/
  listed : totalPlayersDataPacket after = some players
  shows : player.body ≠ none → Shows players b w
  closes : snapshotEnd.action = .worldSnapshotEnd ∧ snapshotEnd.data = [w]
  inGame : ∃ key player', Acting srv c key before player' b ∧ Acting r.srv c key after player b
  inWorld : player.worldId = some w
  /-- The objects are those the player leaves behind when it comes from another world. -/
  stored : ∀ id v, after.vanjects.lookup id = some v ↔ before.vanjects.lookup id = some v ∧
    (srv.needsLeaveWorld c w = true → ¬ GoesWith b v)
  carried : List.Forall₂ (fun v p => statePacket v = some p) objects snapshot
  sorted : objects.Pairwise fun v v' => snapshotKey v < snapshotKey v'
  complete : ∀ v, v ∈ objects ↔ v ∈ after.vanjects.values ∧ InSnapshot w b v
  /-- Another order of the map gives the same list. -/
  unordered : ∀ vanjects : Vanjects, vanjects.entries.Perm after.vanjects.entries →
    worldSnapshot vanjects w b = objects

section

variable {vanjects vanjects' : Vanjects} {v v' : Vanject} {w b : UInt8}

/-! ### The order of a snapshot -/

theorem worldSnapshotOrder_eq_idxOf :
    worldSnapshotOrder v = if snapshotTypes.idxOf v.getType < 5 then
      UInt8.ofNat (snapshotTypes.idxOf v.getType) else 255 := by
  unfold worldSnapshotOrder
  generalize v.getType = t
  by_cases hmem : t ∈ snapshotTypes
  · simp only [snapshotTypes, List.mem_cons, List.not_mem_nil, or_false] at hmem
    rcases hmem with rfl | rfl | rfl | rfl | rfl <;> decide
  · rw [List.idxOf_of_notMem hmem]
    simp only [snapshotTypes, List.mem_cons, List.not_mem_nil, or_false, not_or] at hmem
    simp [hmem, snapshotTypes]

/-- The order numbers the types as they stand in the list. -/
theorem worldSnapshotOrder_compare (v v' : Vanject) :
    (worldSnapshotOrder v < worldSnapshotOrder v' ↔
      snapshotTypes.idxOf v.getType < snapshotTypes.idxOf v'.getType) ∧
    (worldSnapshotOrder v = worldSnapshotOrder v' ↔
      snapshotTypes.idxOf v.getType = snapshotTypes.idxOf v'.getType) := by
  have hall : ∀ m ≤ 5, ∀ n ≤ 5,
      ((if m < 5 then UInt8.ofNat m else 255) < (if n < 5 then UInt8.ofNat n else 255) ↔ m < n) ∧
      ((if m < 5 then UInt8.ofNat m else 255) = (if n < 5 then UInt8.ofNat n else 255) ↔ m = n) := by
    decide
  rw [worldSnapshotOrder_eq_idxOf, worldSnapshotOrder_eq_idxOf]
  exact hall _ List.idxOf_le_length _ List.idxOf_le_length

theorem snapshotLe_iff : snapshotLe v v' = true ↔ snapshotKey v ≤ snapshotKey v' := by
  obtain ⟨hlt, heq⟩ := worldSnapshotOrder_compare v v'
  unfold snapshotLe snapshotKey
  rw [Prod.Lex.toLex_le_toLex]
  simp only [Bool.or_eq_true, Bool.and_eq_true, decide_eq_true_eq, hlt, heq,
    BitVec.sle_iff_toInt_le]

theorem snapshotKey_lt (hid : v.id ≠ v'.id) (h : snapshotKey v ≤ snapshotKey v') :
    snapshotKey v < snapshotKey v' := by
  refine lt_of_le_of_ne h fun heq => hid (BitVec.toInt_inj.mp ?_)
  exact congrArg (fun k => (ofLex k).2) heq

theorem shouldIncludeInWorldSnapshot_iff :
    shouldIncludeInWorldSnapshot v w b = true ↔ InSnapshot w b v := by
  unfold shouldIncludeInWorldSnapshot InSnapshot
  simp only [List.mem_cons, List.not_mem_nil, or_false]
  split
  · rename_i hworld
    simp [hworld]
  · rename_i hworld
    simp only [ne_eq, not_not] at hworld
    split
    · rename_i hstuff
      simp [hworld, hstuff]
    · rename_i hstuff
      simp [hworld, hstuff]

/-! ### The list -/

theorem Vanjects.Keyed.distinct (hkeyed : Vanjects.Keyed vanjects) :
    vanjects.values.Pairwise fun v v' => v.id ≠ v'.id := by
  have hkeys := List.nodupKeys_iff_pairwise.mp vanjects.nodupKeys
  refine List.pairwise_map.mpr (hkeys.imp_of_mem fun {e e'} he he' hne => ?_)
  rw [hkeyed e.1 e.2 (AList.mem_entries_iff.mp he), hkeyed e'.1 e'.2 (AList.mem_entries_iff.mp he')]
  exact hne

/-- **A snapshot is in strictly increasing order.** -/
theorem worldSnapshot_sorted (hkeyed : Vanjects.Keyed vanjects) :
    (worldSnapshot vanjects w b).Pairwise fun v v' => snapshotKey v < snapshotKey v' := by
  have : Std.Total fun v v' : Vanject => snapshotLe v v' = true :=
    ⟨fun v v' => by simpa only [snapshotLe_iff] using le_total (snapshotKey v) (snapshotKey v')⟩
  have : IsTrans Vanject fun v v' => snapshotLe v v' = true :=
    ⟨fun _ _ _ h h' => snapshotLe_iff.mpr ((snapshotLe_iff.mp h).trans (snapshotLe_iff.mp h'))⟩
  have hdistinct : (worldSnapshot vanjects w b).Pairwise fun v v' => v.id ≠ v'.id := by
    refine (List.perm_insertionSort _ _).symm.pairwise ?_ fun h => h.symm
    exact hkeyed.distinct.filter _
  refine ((List.pairwise_insertionSort _ _).and hdistinct).imp fun h => ?_
  exact snapshotKey_lt h.2 (snapshotLe_iff.mp h.1)

/-- **Another order of the map gives the same snapshot.** -/
theorem worldSnapshot_perm (hkeyed : Vanjects.Keyed vanjects)
    (h : vanjects'.entries.Perm vanjects.entries) :
    worldSnapshot vanjects' w b = worldSnapshot vanjects w b := by
  have hkeyed' : Vanjects.Keyed vanjects' := by
    intro id v hv
    have he : (⟨id, v⟩ : Sigma fun _ : I32 => Vanject) ∈ vanjects'.entries :=
      AList.mem_entries_iff.mpr hv
    exact hkeyed id v (AList.mem_entries_iff.mp (h.mem_iff.mp he))
  refine List.Perm.eq_of_pairwise (fun v v' _ _ hlt hgt => absurd hlt hgt.not_gt)
    (worldSnapshot_sorted hkeyed') (worldSnapshot_sorted hkeyed) ?_
  have hvalues : vanjects'.values.Perm vanjects.values :=
    h.map fun e : Sigma fun _ : I32 => Vanject => e.2
  exact (List.perm_insertionSort _ _).trans
    ((hvalues.filter _).trans (List.perm_insertionSort _ _).symm)

end

section

variable {env : Env} {srv srv₀ : Server} {packet players : Packet} {c : ClientID} {key : GameID}
  {game before : Game} {player player₀ : Player} {b w : UInt8} {ySize : I16} {r : Reply}
  {ok : OnUpdateOk} {sent : List Sent}

/-! ### What the player is sent -/

/-- The player that leaves is sent nothing. -/
theorem packetsTo_leaveWorld (h : srv.leaveWorld env c = some r) : packetsTo c r.sent = [] := by
  rcases leaveWorld_cases h with ⟨err, hfail⟩ | ⟨key, game, player, b, world, deletes,
    playersWorld, hacting, -, -, -, rfl⟩
  · obtain rfl := Server.fail_eq_some hfail
    rfl
  have hnone : ∀ p, packetsTo c ((srv.setGame key (game.left c b)).notifyGame c p) = [] := by
    intro p
    rw [packetsTo_notifyGame hacting.left.inGame, if_neg fun h => h.2 rfl]
  rw [packetsTo_append, hnone, ← List.flatMap_map, packetsTo_flatMap_nil hnone]
  rfl

/-- A player with a body is in the list of its game. -/
theorem shows_of_listed (hcount : game.players.length + game.removedPlayers.length < 256)
    (hlisted : totalPlayersDataPacket game = some players) (hplayer : player ∈ game.players)
    (hbound : player.bindId = some b) (hworld : player.worldId = some w)
    (hbody : player.body ≠ none) : Shows players b w := by
  rw [totalPlayersDataPacket_eq] at hlisted
  obtain ⟨-, hdata, -⟩ := Packet.new_eq_some hlisted
  obtain ⟨body, hbody⟩ := Option.ne_none_iff_exists'.mp hbody
  obtain ⟨record, hrecord, hid, hin⟩ : ∃ record, playerRecord player = some record ∧
      record.id = b ∧ record.world = w := by
    simp [playerRecord, hbound, hbody, hworld]
  have hlength : game.records.length < 256 := length_records_le.trans_lt hcount
  refine ⟨UInt8.ofNat game.records.length, game.records, hdata.trans (playersList_eq game), ?_,
    record, ?_, hid, hin⟩
  · rw [UInt8.toNat_ofNat']
    exact Nat.mod_eq_of_lt hlength
  · exact List.mem_append_left _ (List.mem_filterMap.mpr ⟨player, hplayer, hrecord⟩)

/-- What the player that enters is sent of the three kinds of packets. -/
theorem packetsTo_enter {status playersWorld : Packet} {packets : List Packet} {changed : Bool}
    (hgame : srv.getGameByClientid c = some (key, game)) :
    packetsTo c ((if changed = true then srv.notifyAll c status else [])
        ++ srv.notifyGame c playersWorld ++ packets.flatMap (srv.notifyPlayer c))
      = srv.toConnections c ((if changed then [status] else []) ++ packets) := by
  obtain ⟨p, hp⟩ := Server.getGameByClientid_getPlayer hgame
  have hself : ∀ p, packetsTo c (srv.notifyPlayer c p) = srv.toConnections c [p] := fun p => by
    rw [packetsTo_notifyPlayer hgame, if_pos rfl]
  have hstatuses : packetsTo c (if changed = true then srv.notifyAll c status else [])
      = srv.toConnections c (if changed then [status] else []) := by
    split
    · rw [packetsTo_notifyAll hgame, if_pos (Game.mem_clientIds hp)]
    · rfl
  have hothers : packetsTo c (srv.notifyGame c playersWorld) = [] := by
    rw [packetsTo_notifyGame hgame, if_neg fun h => h.2 rfl]
  rw [packetsTo_append, packetsTo_append, hstatuses, hothers, packetsTo_flatMap hself,
    List.append_nil, toConnections_append]

theorem enterWorld_joins (hacting : Acting srv c key game player b)
    (hacting₀ : Acting srv₀ c key before player₀ b) (hconnected : srv.connected = srv₀.connected)
    (hkeyed : Vanjects.Keyed game.vanjects)
    (hcount : game.players.length + game.removedPlayers.length < 256)
    (hstored : ∀ id v, game.vanjects.lookup id = some v ↔ before.vanjects.lookup id = some v ∧
      (srv₀.needsLeaveWorld c w = true → ¬ GoesWith b v))
    (haction : packet.action = .setWorld) (hsent : packetsTo c sent = [])
    (h : srv.enterWorld packet c w ySize = some r) (hok : r.result = .ok ok) :
    ∃ after player b statuses response snapshotBegin players objects snapshot snapshotEnd,
      Joined srv₀ c { r with sent := sent ++ r.sent } w before after player b statuses response
        snapshotBegin players objects snapshot snapshotEnd := by
  rcases enterWorld_cases h with ⟨err, s, hfail, -⟩ |
    ⟨key', game', player', b', worlds, world, snapshot, changed, status, playersWorld, worldStatus,
      response, snapshotBegin, players, snapshotEnd, hacting', hid, -, hsnapshot, hstatus, hpw,
      hresponse, hbegin, hplayers, hend, rfl⟩
  · exact absurd hok (Server.fail_ne_ok hfail)
  obtain ⟨rfl, rfl, rfl, rfl⟩ := hacting.unique hacting'
  have hfound : (game.entered c worlds world).getPlayer c
      = some { player with world := some world, status := .gaming } :=
    Game.getPlayer_modifyPlayer hacting.found rfl
  have hgame := Server.getGameByClientid_setGame hacting.inGame ⟨_, hfound⟩
  have hlength : (game.entered c worlds world).players.length = game.players.length :=
    List.length_modifyFirst
  have hto : ∀ packets, (srv.setGame key (game.entered c worlds world)).toConnections c packets
      = srv₀.toConnections c packets := by
    intro packets
    show srv.toConnections c packets = _
    unfold Server.toConnections
    rw [hconnected]
  have hresponse' : response.action = .setWorldResponse := by
    have hanswer := (Packet.createAnswer_eq_some hresponse).1
    rw [haction] at hanswer
    exact (Option.some.inj hanswer).symm
  refine ⟨game.entered c worlds world, { player with world := some world, status := .gaming }, b,
    if changed then [status] else [], response, snapshotBegin, players,
    worldSnapshot game.vanjects w b, snapshot, snapshotEnd, {
    told := ?_
    statuses := ?_
    response := hresponse'
    opens := ⟨(Packet.new_eq_some hbegin).1, (Packet.new_eq_some hbegin).2.1⟩
    listed := hplayers
    shows := ?_
    closes := ⟨(Packet.new_eq_some hend).1, (Packet.new_eq_some hend).2.1⟩
    inGame := ⟨key, player₀, hacting₀, hgame, hfound, hacting.bound⟩
    inWorld := congrArg some hid
    stored := hstored
    carried := mapM_eq_some.mp hsnapshot
    sorted := worldSnapshot_sorted hkeyed
    complete := ?_
    unordered := fun vanjects hperm => worldSnapshot_perm hkeyed hperm }⟩
  · rw [packetsTo_append, hsent, packetsTo_enter hgame, hto, List.nil_append]
    simp only [List.append_assoc]
  · split
    · exact ⟨Nat.le_refl 1, fun p hp => List.mem_singleton.mp hp ▸
        ⟨(Packet.new_eq_some hstatus).1, (Packet.new_eq_some hstatus).2.1⟩⟩
    · exact ⟨Nat.zero_le 1, fun p hp => absurd hp List.not_mem_nil⟩
  · refine shows_of_listed ?_ hplayers (Game.getPlayer_mem hfound) hacting.bound (congrArg some hid)
    rw [hlength]
    exact hcount
  · intro v
    rw [mem_worldSnapshot, shouldIncludeInWorldSnapshot_iff]
    rfl

end

/-- **A player that joins a world is sent all there is to see of it**, in order, whatever order the
objects are stored in. -/
theorem setWorld_joins {env : Env} {srv : Server} {packet : Packet} {c : ClientID} {r : Reply}
    {ok : OnUpdateOk} (hreach : ServerReachable srv) (haction : packet.action = .setWorld)
    (h : srv.setWorld env packet c = some r) (hok : r.result = .ok ok) :
    ∃ w before after player b statuses response snapshotBegin players objects snapshot snapshotEnd,
      packet.data[0]? = some w ∧ Joined srv c r w before after player b statuses response
        snapshotBegin players objects snapshot snapshotEnd := by
  have hfacts : ∀ {key game}, srv.getGameByClientid c = some (key, game) →
      Vanjects.Keyed game.vanjects ∧ game.players.length + game.removedPlayers.length < 256 := by
    intro key game hgame
    have hlookup := Server.getGameByClientid_lookup hgame
    have hgameOk := hreach.registryOk.game key game hlookup
    have hlength := (hreach.listable hlookup).length_le hgameOk
    exact ⟨hgameOk.vanjectsKeyed, by omega⟩
  obtain ⟨w, ySize, hdata, -, ⟨hneeds, h⟩ | ⟨hneeds, left, hleft, ⟨rfl, err, hres⟩ |
    ⟨ok', entered, hres, hentered, rfl⟩⟩⟩ := setWorld_cases h
  · rcases enterWorld_cases h with ⟨err, s, hfail, -⟩ |
      ⟨key, game, player, b, _, _, _, _, _, _, _, _, _, _, _, hacting, -⟩
    · exact absurd hok (Server.fail_ne_ok hfail)
    obtain ⟨hkeyed, hcount⟩ := hfacts hacting.inGame
    obtain ⟨after, player', b', statuses, response, snapshotBegin, players, objects, snapshot,
      snapshotEnd, hjoined⟩ := enterWorld_joins hacting hacting rfl hkeyed hcount
        (fun id v => by simp [hneeds]) haction (show packetsTo c [] = [] from rfl) h hok
    exact ⟨w, game, after, player', b', statuses, response, snapshotBegin, players, objects,
      snapshot, snapshotEnd, hdata, hjoined⟩
  · cases hok.symm.trans hres
  · have hsent := packetsTo_leaveWorld hleft
    rcases leaveWorld_cases hleft with ⟨err, hfail⟩ | ⟨key, game, player, b, world, deletes,
      playersWorld, hacting, -, -, -, rfl⟩
    · exact absurd hres (Server.fail_ne_ok hfail)
    obtain ⟨hkeyed, hcount⟩ := hfacts hacting.inGame
    have hlength : (game.left c b).players.length = game.players.length :=
      List.length_modifyFirst
    obtain ⟨after, player', b', statuses, response, snapshotBegin, players, objects, snapshot,
      snapshotEnd, hjoined⟩ := enterWorld_joins hacting.left hacting rfl
        (fun id v hv => hkeyed id v (lookup_left.mp hv).1) (by rw [hlength]; exact hcount)
        (fun id v => by simp [lookup_left, hneeds]) haction hsent hentered hok
    exact ⟨w, game, after, player', b', statuses, response, snapshotBegin, players, objects,
      snapshot, snapshotEnd, hdata, hjoined⟩

/-- A game with a STUFF and a DEVICE in a world, and a player that is not in it yet. -/
def beforeJoining : List (Env × Input) :=
  [(Env.atTime 0, .add (Client.new 7)), (Env.atTime 0, .add (Client.new 8)),
    (Env.atTime 0, ask 7 .attachToGame [0, 0, 0, 0]),
    (Env.atTime 0, ask 7 .setWorld [0, 0, 8]),
    (Env.atTime 0, ask 7 .createObject [5, 0, 11, 4, 0, 0, 0, 0, 0, 0, 0, 0, 0, 0]),
    (Env.atTime 0, .message 7 (.updated makeDevice)),
    (Env.atTime 0, ask 8 .attachToGame [1, 0, 0, 0])]

/-- The second player comes into the world of the first. -/
theorem setWorld_joins_second : ∃ srv r, ServerReachable srv ∧
    srv.setWorld (Env.atTime 0) (request .setWorld [0, 0, 8]) 8 = some r ∧
    ∃ w before after player b statuses response snapshotBegin players objects snapshot snapshotEnd,
      (request .setWorld [0, 0, 8]).data[0]? = some w ∧ Joined srv 8 r w before after player b statuses
        response snapshotBegin players objects snapshot snapshotEnd := by
  have hplay : ((play (Server.new 0) beforeJoining).map Prod.fst).bind (fun srv => do
      let r ← srv.setWorld (Env.atTime 0) (request .setWorld [0, 0, 8]) 8
      r.result.toOption) = some .complete := by
    decide +kernel
  obtain ⟨srv, tr, hrun, hfacts⟩ := play_bind hplay
  simp only [Option.bind_eq_bind, Option.bind_eq_some_iff] at hfacts
  obtain ⟨r, hr, hres⟩ := hfacts
  have hreach : ServerReachable srv := ⟨0, tr, hrun⟩
  exact ⟨srv, r, hreach, hr, setWorld_joins hreach rfl hr (ok_of_toOption hres)⟩

/-- The list is empty for a player that has no body. -/
theorem setWorld_hides_bodiless : ∃ srv r players, ServerReachable srv ∧ 8 ∈ srv.connected ∧
    srv.setWorld (Env.atTime 0) (request .setWorld [0, 0, 8]) 8 = some r ∧
    r.result = .ok .complete ∧
    (∃ game player, Acting r.srv 8 1 game player 2 ∧ player.worldId = some 0) ∧
    players ∈ packetsTo 8 r.sent ∧ players.action = .totalListOfPlayersData ∧
    ¬ Shows players 2 0 := by
  have hplay : ((play (Server.new 0) beforeJoining).map Prod.fst).bind (fun srv => do
      let r ← srv.setWorld (Env.atTime 0) (request .setWorld [0, 0, 8]) 8
      let entry ← r.srv.getGameByClientid 8
      let player ← entry.2.getPlayer 8
      let players ← (packetsTo 8 r.sent).find? fun p => p.action = .totalListOfPlayersData
      some (r.result.toOption, entry.1, decide (8 ∈ srv.connected ∧ player.bindId = some 2 ∧
        player.worldId = some 0 ∧ players.data = [0]))) = some (some .complete, 1, true) := by
    decide +kernel
  obtain ⟨srv, tr, hrun, hfacts⟩ := play_bind hplay
  simp only [Option.bind_eq_bind, Option.bind_eq_some_iff, Option.some.injEq, Prod.mk.injEq,
    decide_eq_true_eq, Prod.exists] at hfacts
  obtain ⟨r, hr, _, game, hgame, player, hplayer, players, hfind, hres, rfl, hconnected, hbound,
    hworld, hdata⟩ := hfacts
  refine ⟨srv, r, players, ⟨0, tr, hrun⟩, hconnected, hr, ok_of_toOption hres,
    ⟨game, player, ⟨hgame, hplayer, hbound⟩, hworld⟩, List.mem_of_find?_eq_some hfind,
    by simpa using List.find?_some hfind, ?_⟩
  rintro ⟨count, records, hlist, hcount, record, hrecord, -, -⟩
  obtain ⟨rfl, -⟩ := List.cons.inj (hdata.symm.trans hlist)
  rw [List.length_eq_zero_iff.mp hcount.symm] at hrecord
  cases hrecord

end VangersSrv
