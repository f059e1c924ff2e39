/-
What a rejected request leaves behind.

Most handlers check everything before they write.  `set_world` does not: a player that
stands in another world leaves it first, and only then the size of the world it asks for is
compared.  So a request to enter a world is all or nothing exactly when the player does not
leave a world for one whose size it gets wrong (`LeavesForNothing`).
-/
import VangersSrv.Server.Panics

namespace VangersSrv

section

variable {env : Env} {packet : Packet} {c : ClientID} {srv : Server} {key : GameID}
  {game : Game} {player : Player} {bind worldId : UInt8} {ySize : I16} {r : Reply}

/-! ### Entering a world -/

/-- A request to enter a world is rejected and nothing has changed, or the player is in the
world it asked for. -/
structure AllOrNothing (srv : Server) (packet : Packet) (c : ClientID) (r : Reply) : Prop where
  nothing : ∀ err, r.result = .error err → r.srv = srv ∧ r.sent = []
  all : ∀ ok, r.result = .ok ok → ∃ key game player bind, Acting r.srv c key game player bind ∧
    player.worldId = packet.data[0]?

/-- The player stands in another world than the one it asks for, and the size it asks for is
not the size of that world. -/
def LeavesForNothing (srv : Server) (packet : Packet) (c : ClientID) : Prop :=
  ∃ key game player bind worldId ySize, Acting srv c key game player bind ∧
    packet.data[0]? = some worldId ∧ (slice packet.data 1 3).bind sliceLeToI16 = some ySize ∧
    (∃ w, player.world = some w ∧ w.id ≠ worldId) ∧ ¬ WorldFits game worldId ySize

/-- The size is compared before anything is written. -/
theorem enterWorld_unfit (packet : Packet) (hacting : Acting srv c key game player bind)
    (hfits : ¬ WorldFits game worldId ySize) :
    ∃ err, srv.enterWorld packet c worldId ySize = srv.fail err := by
  rw [← findOrCreateWorld_isOk] at hfits
  unfold Server.enterWorld
  rw [hacting.inGame]
  cases hworld : findOrCreateWorld game worldId ySize with
  | error err => exact ⟨.setWorld err, by simp only [hworld]⟩
  | ok made => exact absurd ⟨made, hworld⟩ hfits

/-- A player with a number that asks for the right size is placed. -/
theorem enterWorld_fits (hacting : Acting srv c key game player bind)
    (hfits : WorldFits game worldId ySize)
    (h : srv.enterWorld packet c worldId ySize = some r) :
    r.result = .ok .complete ∧ ∃ game' player', Acting r.srv c key game' player' bind ∧
      player'.worldId = some worldId := by
  obtain ⟨⟨game', world, worldStatus⟩, hworld⟩ := findOrCreateWorld_isOk.mpr hfits
  obtain ⟨hid, -⟩ := findOrCreateWorld_ok hworld
  obtain ⟨hplayer', -⟩ := findOrCreateWorld_finds hworld hacting.found
  unfold Server.enterWorld at h
  rw [hacting.inGame] at h
  simp only [hworld, hplayer', hacting.bound, Option.bind_eq_bind, Option.bind_some,
    Option.bind_eq_some_iff] at h
  obtain ⟨snapshot, -, ⟨game'', changed⟩, hplaced, status, -, playersWorld, -, response, -, first, -,
    players, -, last, -, h⟩ := h
  obtain ⟨w, hw, rfl⟩ := placePlayer_eq hplayer' hplaced
  have hwid : w.id = world.id := by simpa using List.find?_some hw
  obtain rfl := Server.complete_eq_some h
  have hfound : (game'.modifyPlayer c fun p => { p with world := some w, status := .gaming }).getPlayer c
      = some { player with world := some w, status := .gaming } :=
    Game.getPlayer_modifyPlayer hplayer' rfl
  refine ⟨rfl, _, _, ⟨?_, hfound, hacting.bound⟩, ?_⟩
  · exact Server.getGameByClientid_setGame hacting.inGame ⟨_, hfound⟩
  · show some w.id = some worldId
    rw [hwid, hid]

/-- Without leaving a world first, entering one is all or nothing. -/
theorem enterWorld_allOrNothing (hok : RegistryOk srv) (hworldId : packet.data[0]? = some worldId)
    (h : srv.enterWorld packet c worldId ySize = some r) : AllOrNothing srv packet c r := by
  have hfail : ∀ {err : OnUpdateError}, srv.fail err = some r → AllOrNothing srv packet c r := by
    intro err he
    obtain rfl := Server.fail_eq_some he
    exact ⟨fun _ _ => ⟨rfl, rfl⟩, by simp⟩
  cases hgame : srv.getGameByClientid c with
  | none =>
      unfold Server.enterWorld at h
      rw [hgame] at h
      exact hfail h
  | some found =>
      obtain ⟨key, game⟩ := found
      obtain ⟨player, bind, hacting⟩ := hok.exists_acting hgame
      by_cases hfits : WorldFits game worldId ySize
      · obtain ⟨hres, game', player', hacting', hin⟩ := enterWorld_fits hacting hfits h
        refine ⟨by simp [hres], fun _ _ => ⟨_, _, _, _, hacting', ?_⟩⟩
        rw [hin, hworldId]
      · obtain ⟨err, hrejected⟩ := enterWorld_unfit packet hacting hfits
        exact hfail (hrejected.symm.trans h)

/-- The world is left, and what comes after is rejected. -/
theorem setWorld_leavesForNothing (env : Env) (h : LeavesForNothing srv packet c) :
    ∃ r, srv.setWorld env packet c = some r ∧ (∃ err, r.result = .error err) ∧
      r.srv.games ≠ srv.games := by
  obtain ⟨key, game, player, bind, worldId, ySize, hacting, hworldId, hySize, ⟨w, hw, hne⟩, hfits⟩ :=
    h
  obtain ⟨left, hleft, hres, hsrv⟩ := leaveWorld_of_world env hacting hw
  have hunfit : ¬ WorldFits (game.left c bind) worldId ySize := hfits
  obtain ⟨err, hrejected⟩ := enterWorld_unfit packet hacting.left hunfit
  have hneeds : srv.needsLeaveWorld c worldId = true :=
    (needsLeaveWorld_iff hacting).mpr ⟨w, hw, hne⟩
  obtain ⟨s, hs, hsize⟩ := Option.bind_eq_some_iff.mp hySize
  refine ⟨{ srv := srv.setGame key (game.left c bind), sent := left.sent, result := .error err },
    ?_, ⟨err, rfl⟩, fun hgames => ?_⟩
  · unfold Server.setWorld
    simp only [hworldId, hs, hsize, hneeds, if_true, hleft, hres, hsrv, hrejected, Server.fail,
      Option.bind_eq_bind, Option.bind_some, List.append_nil]
  · -- the player that was left behind stands in no world
    have hlookup := Server.getGameByClientid_lookup hacting.left.inGame
    rw [hgames, Server.getGameByClientid_lookup hacting.inGame] at hlookup
    have hplayer := hacting.left.found
    rw [← Option.some.inj hlookup, hacting.found] at hplayer
    rw [Option.some.inj hplayer] at hw
    cases hw

/-- **A request to enter a world is all or nothing** exactly when the player does not leave a
world for one whose size it gets wrong. -/
theorem set_world_all_or_nothing (h : ServerReachable srv) :
    (∀ r, srv.setWorld env packet c = some r → AllOrNothing srv packet c r) ↔
      ¬ LeavesForNothing srv packet c := by
  constructor
  · intro hall hleaves
    obtain ⟨r, hr, ⟨err, hres⟩, hgames⟩ := setWorld_leavesForNothing env hleaves
    exact hgames (congrArg Server.games ((hall r hr).nothing err hres).1)
  · intro hno r hr
    have hok := h.registryOk
    obtain ⟨worldId, ySize, hworldId, hsize, ⟨-, hr⟩ | ⟨hneeds, left, hleft, hleaves⟩⟩ :=
      setWorld_cases hr
    · exact enterWorld_allOrNothing hok hworldId hr
    cases hgame : srv.getGameByClientid c with
    | none => simp [Server.needsLeaveWorld, hgame] at hneeds
    | some found =>
        obtain ⟨key, game⟩ := found
        obtain ⟨player, bind, hacting⟩ := hok.exists_acting hgame
        obtain ⟨w, hw, hne⟩ := (needsLeaveWorld_iff hacting).mp hneeds
        have hfits : WorldFits game worldId ySize := by
          by_contra hunfit
          exact hno ⟨key, game, player, bind, worldId, ySize, hacting, hworldId, hsize,
            ⟨w, hw, hne⟩, hunfit⟩
        obtain ⟨left', hleft', hres, hsrv⟩ := leaveWorld_of_world env hacting hw
        obtain rfl := Option.some.inj (hleft.symm.trans hleft')
        rcases hleaves with ⟨-, err, herr⟩ | ⟨ok, entered, -, hentered, rfl⟩
        · cases hres.symm.trans herr
        rw [hsrv] at hentered
        obtain ⟨hdone, game', player', hacting', hin⟩ :=
          enterWorld_fits hacting.left (show WorldFits (game.left c bind) worldId ySize from hfits)
            hentered
        refine ⟨by simp [hdone], fun _ _ => ⟨_, _, _, _, hacting', ?_⟩⟩
        rw [hin, hworldId]

/-- Two players in a game with two worlds, the first of them in the second world. -/
def twoWorlds : List (Env × Input) :=
  [(Env.atTime 0, .add (Client.new 7)), (Env.atTime 0, .add (Client.new 8)),
    (Env.atTime 0, ask 7 .attachToGame [0, 0, 0, 0]), (Env.atTime 0, ask 8 .attachToGame [1, 0, 0, 0]),
    (Env.atTime 0, ask 7 .setWorld [0, 0, 8]), (Env.atTime 0, ask 7 .setWorld [1, 0, 8])]

/-- The player in the second world goes back to the first, and the one in no world is turned down for
the size of it. -/
theorem set_world_all_or_nothing_moves : ∃ srv r r' key game player bind, ServerReachable srv ∧
    srv.needsLeaveWorld 7 0 = true ∧
    srv.setWorld (Env.atTime 0) (request .setWorld [0, 0, 8]) 7 = some r ∧
    Acting r.srv 7 key game player bind ∧ player.worldId = some 0 ∧
    srv.setWorld (Env.atTime 0) (request .setWorld [0, 0, 9]) 8 = some r' ∧
    r'.result = .error (.setWorld (.invalidWorldSize 2048#16 2304#16)) ∧ r'.srv = srv ∧
    r'.sent = [] := by
  have hplay : ((play (Server.new 0) twoWorlds).map Prod.fst).bind (fun srv => do
      let entry ← srv.getGameByClientid 7
      let r ← srv.setWorld (Env.atTime 0) (request .setWorld [0, 0, 8]) 7
      let r' ← srv.setWorld (Env.atTime 0) (request .setWorld [0, 0, 9]) 8
      some (srv.needsLeaveWorld 7 0, srv.needsLeaveWorld 8 0,
        (entry.2.worlds.find? fun w => w.id = 0).map World.ySize, r.result.toOption,
        decide (r'.result = .error (.setWorld (.invalidWorldSize 2048#16 2304#16))))) =
      some (true, false, some 2048#16, some .complete, true) := by
    decide +kernel
  obtain ⟨srv, tr, hrun, hfacts⟩ := play_bind hplay
  simp only [Option.bind_eq_bind, Option.bind_eq_some_iff, Option.some.injEq, Prod.mk.injEq,
    Prod.exists] at hfacts
  obtain ⟨_, g, hgame, r, hr, r', hr', hleaves, hstays, hsize, hres, hres'⟩ := hfacts
  have hreach : ServerReachable srv := ⟨0, tr, hrun⟩
  have hmoves : ¬ LeavesForNothing srv (request .setWorld [0, 0, 8]) 7 := by
    rintro ⟨_, game, _, _, worldId, ySize, hacting, hworldId, hySize, -, hunfit⟩
    obtain rfl : 0 = worldId := Option.some.inj hworldId
    obtain rfl : 2048#16 = ySize := Option.some.inj hySize
    obtain ⟨-, rfl⟩ := Prod.mk.inj (Option.some.inj (hgame.symm.trans hacting.inGame))
    refine hunfit fun w hw => ?_
    rw [hw] at hsize
    exact Option.some.inj hsize
  have hrejected : ¬ LeavesForNothing srv (request .setWorld [0, 0, 9]) 8 := by
    rintro ⟨_, _, _, _, worldId, _, hacting, hworldId, -, hworld, -⟩
    obtain rfl : 0 = worldId := Option.some.inj hworldId
    rw [(needsLeaveWorld_iff hacting).mpr hworld] at hstays
    cases hstays
  obtain ⟨key, game, player, bind, hacting, hin⟩ :=
    ((set_world_all_or_nothing hreach).mpr hmoves r hr).all _ (ok_of_toOption hres)
  have hnothing := ((set_world_all_or_nothing hreach).mpr hrejected r' hr').nothing
  have herr := of_decide_eq_true hres'
  exact ⟨srv, r, r', key, game, player, bind, hreach, hleaves, hr, hacting, hin, hr', herr,
    hnothing _ herr⟩

/-- A player goes from one world to a second and back with another size: it is rejected, has
left the second world, and the other player of the game was told so. -/
theorem set_world_all_or_nothing_fails : ∃ srv r, ServerReachable srv ∧
    (request .setWorld [0, 0, 9]).Deliverable ∧
    srv.setWorld (Env.atTime 0) (request .setWorld [0, 0, 9]) 7 = some r ∧
    (∃ err, r.result = .error err) ∧ r.srv.games ≠ srv.games ∧
    ∃ s ∈ r.sent, s.client = 8 ∧ s.packet.action = .playersWorld ∧ s.packet.data = [1, 0] := by
  have hplay : ((play (Server.new 0)
      [(Env.atTime 0, .add (Client.new 7)), (Env.atTime 0, .add (Client.new 8)),
        (Env.atTime 0, ask 7 .attachToGame [0, 0, 0, 0]),
        (Env.atTime 0, ask 8 .attachToGame [1, 0, 0, 0]),
        (Env.atTime 0, ask 7 .setWorld [0, 0, 8]),
        (Env.atTime 0, ask 7 .setWorld [1, 0, 8])]).map Prod.fst).bind
      (fun srv => do
        let r ← srv.setWorld (Env.atTime 0) (request .setWorld [0, 0, 9]) 7
        some (srv.needsLeaveWorld 7 0, r.srv.needsLeaveWorld 7 0, r.result.toOption,
          r.sent.any fun s =>
            s.client = 8 && s.packet.action = .playersWorld && s.packet.data = [1, 0]))
      = some (true, false, none, true) := by
    decide +kernel
  obtain ⟨srv, tr, hrun, hfacts⟩ := play_bind hplay
  simp only [Option.bind_eq_bind, Option.bind_eq_some_iff, Option.some.injEq, Prod.mk.injEq] at hfacts
  obtain ⟨r, hr, hbefore, hafter, hres, hsent⟩ := hfacts
  refine ⟨srv, r, ⟨0, tr, hrun⟩, by decide, hr, error_of_toOption hres, fun hgames => ?_, ?_⟩
  · have hsame : r.srv.needsLeaveWorld 7 0 = srv.needsLeaveWorld 7 0 := by
      simp only [Server.needsLeaveWorld, Server.getGameByClientid, hgames]
    rw [hbefore, hafter] at hsame
    cases hsame
  · simpa [and_assoc] using hsent

/-! ### The other requests -/

/-- The requests whose handlers check before they write. -/
def checkedActions : List Action :=
  [.attachToGame, .createObject, .updateObject, .deleteObject, .leaveWorld, .closeSocket,
    .registerName, .setGameData, .setPosition, .directSending, .restoreConnection]

/-- **A rejected request leaves no trace**: games, with all that is in them, and clients are as
before, and nothing is sent. -/
theorem rejected_leaves_no_trace {err : OnUpdateError} (haction : packet.action ∈ checkedActions)
    (h : srv.handle env packet c = some r) (herr : r.result = .error err) : Untouched srv r := by
  have hhandled : ∀ action ∈ checkedActions, action ∈ handledActions := by decide
  have hchecked : ∀ action ∈ checkedActions, action ∉ lateChecks := by decide
  exact (handle_replied h (hhandled _ haction)).failed err herr (hchecked _ haction)

/-- Three players in a configured game with a world and two objects. -/
def threePlayers : List (Env × Input) :=
  storedDevice ++ [(Env.atTime 0, .add (Client.new 9)),
    (Env.atTime 0, ask 9 .attachToGame [1, 0, 0, 0]),
    (Env.atTime 0, ask 7 .setGameData ([65, 0] ++ List.replicate 44 0)),
    (Env.atTime 0, ask 8 .registerName [66, 0, 0]),
    (Env.atTime 0, ask 8 .createObject [1, 0, 11, 8, 0, 0, 0, 0, 0, 0, 0, 0, 0, 0, 0, 0])]

/-- One request for each of the handlers: a game that is not there, an object of somebody else, a
second configuration, data that is too short. -/
def rejectedRequests : List (ClientID × Packet) :=
  [(9, request .attachToGame [3, 0, 0, 0]), (8, request .createObject [5, 0, 1, 8]),
    (8, request .updateObject [5, 0, 1, 4, 0, 0, 0, 0, 0, 0, 0, 0]),
    (8, request .deleteObject [5, 0, 1, 4, 0, 0, 0, 0]), (9, request .leaveWorld []),
    (6, request .closeSocket []), (8, request .registerName [66]),
    (8, request .setGameData ([65, 0] ++ List.replicate 44 0)), (8, request .setPosition [5, 0, 1, 4]),
    (8, request .directSending [1, 0]), (8, request .restoreConnection [1, 0, 0, 0])]

/-- Each of them is rejected in a game with players, a world and objects, which stay as they are. -/
theorem rejected_leaves_no_trace_each : ∃ srv g, ServerReachable srv ∧ srv.games.lookup 1 = some g ∧
    g.players.length = 3 ∧ g.worlds.length = 1 ∧ g.vanjects.entries.length = 2 ∧
    rejectedRequests.map (fun q => q.2.action) = checkedActions ∧
    ∀ q ∈ rejectedRequests, ∃ r err, srv.handle (Env.atTime 0) q.2 q.1 = some r ∧
      r.result = .error err ∧ Untouched srv r := by
  have hplay : ((play (Server.new 0) threePlayers).map Prod.fst).bind (fun srv => do
      let g ← srv.games.lookup 1
      some (g.players.length, g.worlds.length, g.vanjects.entries.length,
        rejectedRequests.all fun q =>
          (srv.handle (Env.atTime 0) q.2 q.1).any fun r => r.result.toOption = none))
      = some (3, 1, 2, true) := by
    decide +kernel
  obtain ⟨srv, tr, hrun, hfacts⟩ := play_bind hplay
  simp only [Option.bind_eq_bind, Option.bind_eq_some_iff, Option.some.injEq, Prod.mk.injEq,
    List.all_eq_true, Option.any_eq_true, decide_eq_true_eq] at hfacts
  obtain ⟨g, hg, hplayers, hworlds, hobjects, hrejected⟩ := hfacts
  have hactions : rejectedRequests.map (fun q => q.2.action) = checkedActions := by decide
  refine ⟨srv, g, ⟨0, tr, hrun⟩, hg, hplayers, hworlds, hobjects, hactions, fun q hq => ?_⟩
  obtain ⟨r, hr, hres⟩ := hrejected q hq
  obtain ⟨err, herr⟩ := error_of_toOption hres
  have haction : q.2.action ∈ checkedActions := hactions ▸ List.mem_map_of_mem hq
  exact ⟨r, err, hr, herr, rejected_leaves_no_trace haction hr herr⟩

end

end VangersSrv
