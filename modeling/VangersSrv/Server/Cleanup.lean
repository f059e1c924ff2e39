/-
Leaving the game cleans up.

What belongs to a player goes when the player leaves its world.  A player in no world has no
world to leave, and `close_socket` takes the error of that for a success: what such a player
made stays behind under a number that is free again.  And a connection that holds several players
loses them all, but only the first one found leaves its world.
-/
import VangersSrv.Server.Registry

namespace VangersSrv

/-- An object of a player: a non-global one of players' type that it owns, or a private one of its
station. -/
def Belongs (v : Vanject) (b : UInt8) : Prop :=
  (v.isNonGlobal = true ∧ v.isPlayers = true ∧ v.playerBindId = b) ∨
    (v.getStation = asI32 b ∧ v.isPrivate = true)

/-- What a player has in its game. -/
def Belongings (g : Game) (b : UInt8) : Prop :=
  ∃ id v, g.vanjects.lookup id = some v ∧ Belongs v b

/-- Closing the socket of the connection clears the game of what the number has there.  The player
it acts on is the first one found of the connection: the game goes with its last player, or all that
the number has belongs to that player as well, which is in the same game and stands in a world. -/
def Clears (srv : Server) (c : ClientID) (k : GameID) (g : Game) (b : UInt8) : Prop :=
  ∃ key game player bind, Acting srv c key game player bind ∧
    ((k = key ∧ ∀ q ∈ g.players, q.clientId = c) ∨
      ∀ id v, g.vanjects.lookup id = some v → Belongs v b →
        k = key ∧ player.world ≠ none ∧ Belongs v bind)

/-- Where a socket is closed: at the request of its connection, or by the cleanup timer when it
has closed those before it in line. -/
inductive Closes (srv : Server) (env : Env) : ClientID → Server → Prop
  | requested {c : ClientID} : Closes srv env c srv
  | expired {c : ClientID} {before after : List ClientID} {mid : Server} {sent : List Sent}
      (hline : srv.expiredClientIds env = before ++ c :: after)
      (hbefore : srv.closeAll env before = some (mid, sent)) : Closes srv env c mid

section

variable {env : Env} {c : ClientID} {srv mid : Server} {k : GameID} {g g' : Game} {p : Player}
  {b : UInt8} {r : Reply}

theorem belongs_iff {v : Vanject} : Belongs v b ↔ shouldDeleteOnLeaveWorld v b = true := by
  simp only [Belongs, shouldDeleteOnLeaveWorld, Bool.or_eq_true, Bool.and_eq_true, decide_eq_true_eq,
    and_assoc]

theorem belongings_iff : Belongings g b ↔
    ∃ id v, g.vanjects.lookup id = some v ∧ shouldDeleteOnLeaveWorld v b = true := by
  simp only [Belongings, belongs_iff]

/-- Belongings are looked for among the stored objects. -/
instance : Decidable (Belongings g b) :=
  decidable_of_iff (∃ e ∈ g.vanjects.entries, shouldDeleteOnLeaveWorld e.2 b = true) <| by
    rw [belongings_iff]
    constructor
    · rintro ⟨e, he, hdelete⟩
      exact ⟨e.1, e.2, AList.mem_entries_iff.mp he, hdelete⟩
    · rintro ⟨id, v, hv, hdelete⟩
      exact ⟨⟨id, v⟩, AList.mem_entries_iff.mpr hv, hdelete⟩

/-- Closing the sockets of others leaves the registry in order. -/
theorem Closes.registryOk (h : Closes srv env c mid) (hok : RegistryOk srv) : RegistryOk mid := by
  cases h with
  | requested => exact hok
  | expired _ hbefore =>
      exact closeAll_preserves hbefore (fun _ _ _ _ hhandled hmid => hmid.handled hhandled) hok

/-- After closing the game is gone with its last player, or keeps what was not cleaned. -/
theorem closeSocket_game (hacting : Acting mid c k g p b) (hid : g.id = k)
    (h : mid.closeSocket env c = some r) :
    r.result = .ok .complete ∧
      (((∀ q ∈ g.players, q.clientId = c) ∧ r.srv.games.lookup k = none) ∨
        ((¬ ∀ q ∈ g.players, q.clientId = c) ∧ ∃ g', r.srv.games.lookup k = some g' ∧
          ∀ id v, g'.vanjects.lookup id = some v ↔ g.vanjects.lookup id = some v ∧
            (p.world ≠ none → shouldDeleteOnLeaveWorld v b = false))) := by
  obtain ⟨hres, g', hplayers, hvan, hends⟩ := closeSocket_closes hacting h
  have halone : g'.players = [] ↔ ∀ q ∈ g.players, q.clientId = c := by
    rw [hplayers, List.filter_eq_nil_iff]
    simp
  refine ⟨hres, ?_⟩
  rcases hends with ⟨hempty, hsrv⟩ | ⟨hothers, hsrv⟩
  · refine Or.inl ⟨halone.mp hempty, ?_⟩
    rw [hsrv, hid]
    exact AList.lookup_erase _ _
  · refine Or.inr ⟨fun h => hothers (halone.mpr h), g', ?_, hvan⟩
    rw [hsrv]
    exact Server.lookup_setGame_self (Server.getGameByClientid_lookup hacting.inGame)

/-- The other games are as they were. -/
theorem closeSocket_elsewhere (hacting : Acting mid c k g p b) (hid : g.id = k)
    (h : mid.closeSocket env c = some r) {k' : GameID} (hne : k' ≠ k) :
    r.srv.games.lookup k' = mid.games.lookup k' := by
  obtain ⟨-, g', -, -, ⟨-, hsrv⟩ | ⟨-, hsrv⟩⟩ := closeSocket_closes hacting h
  · rw [hsrv, hid]
    exact (AList.lookup_erase_ne hne).trans (AList.lookup_replace_of_ne g' hne)
  · rw [hsrv]
    exact Server.lookup_setGame_of_ne hne

/-- For the player that closing acts on: it stands in a world, or it has nothing, or it is the last of
its game. -/
theorem clears_acting (hacting : Acting mid c k g p b) :
    Clears mid c k g b ↔ p.world ≠ none ∨ ¬ Belongings g b ∨ ∀ q ∈ g.players, q.clientId = c := by
  constructor
  · rintro ⟨key, game, player, bind, hacting', ⟨-, halone⟩ | hall⟩
    · exact Or.inr (Or.inr halone)
    · obtain ⟨rfl, rfl, rfl, rfl⟩ := hacting.unique hacting'
      by_cases hhas : Belongings g b
      · obtain ⟨id, v, hv, hbelongs⟩ := hhas
        exact Or.inl (hall id v hv hbelongs).2.1
      · exact Or.inr (Or.inl hhas)
  · intro hcond
    refine ⟨k, g, p, b, hacting, ?_⟩
    rcases hcond with hworld | hnone | halone
    · exact Or.inr fun id v hv hbelongs => ⟨rfl, hworld, hbelongs⟩
    · exact Or.inr fun id v hv hbelongs => absurd ⟨id, v, hv, hbelongs⟩ hnone
    · exact Or.inl ⟨rfl, halone⟩

/-- In the game of the player that closing acts on. -/
theorem closeSocket_clears {b' : UInt8} (hacting : Acting mid c k g p b) (hid : g.id = k)
    (h : mid.closeSocket env c = some r) :
    (∀ g', r.srv.games.lookup k = some g' → ¬ Belongings g' b') ↔ Clears mid c k g b' := by
  obtain ⟨-, ⟨halone, hgone⟩ | ⟨hothers, g', hk', hvan⟩⟩ := closeSocket_game hacting hid h
  · refine iff_of_true (fun g' hk' => ?_) ⟨k, g, p, b, hacting, Or.inl ⟨rfl, halone⟩⟩
    rw [hgone] at hk'
    cases hk'
  constructor
  · intro hclean
    refine ⟨k, g, p, b, hacting, Or.inr fun id v hv hbelongs => ?_⟩
    by_contra hnot
    -- what is not deleted with the player is still there
    have hkept : g'.vanjects.lookup id = some v := by
      refine (hvan id v).mpr ⟨hv, fun hworld => ?_⟩
      rw [← Bool.not_eq_true, ← belongs_iff]
      exact fun hdelete => hnot ⟨rfl, hworld, hdelete⟩
    exact hclean g' hk' ⟨id, v, hkept, hbelongs⟩
  · rintro ⟨key, game, player, bind, hacting', hclears⟩ g₁ hk₁ ⟨id, v, hv, hbelongs⟩
    obtain ⟨rfl, rfl, rfl, rfl⟩ := hacting.unique hacting'
    obtain rfl := Option.some.inj (hk'.symm.trans hk₁)
    obtain ⟨hv₀, hkept⟩ := (hvan id v).mp hv
    rcases hclears with ⟨-, halone⟩ | hall
    · exact hothers halone
    · obtain ⟨-, hworld, hdelete⟩ := hall id v hv₀ hbelongs
      rw [belongs_iff, hkept hworld] at hdelete
      cases hdelete

/-- **Closing cleans up**, for every player of the connection, exactly when the game goes or the
player that leaves its world takes with it all that the other has. -/
theorem closeSocket_cleans_iff (hreach : ServerReachable srv) (hcloses : Closes srv env c mid)
    (hk : mid.games.lookup k = some g) (hp : p ∈ g.players) (hc : p.clientId = c)
    (h : mid.closeSocket env c = some r) :
    r.result = .ok .complete ∧ ∀ b, p.bindId = some b →
      ((∀ g', r.srv.games.lookup k = some g' → ¬ Belongings g' b) ↔ Clears mid c k g b) := by
  have hok : RegistryOk mid := hcloses.registryOk hreach.registryOk
  obtain ⟨⟨key, game⟩, hgame⟩ : ∃ found, mid.getGameByClientid c = some found := by
    rw [← Option.ne_none_iff_exists', ne_eq, Server.getGameByClientid_eq_none]
    exact fun hnone => hnone k g hk p hp hc
  obtain ⟨player, bind, hacting⟩ := hok.exists_acting hgame
  have hlookup := Server.getGameByClientid_lookup hgame
  have hid : game.id = key := hok.keyed key game hlookup
  refine ⟨(closeSocket_game hacting hid h).1, fun b _ => ?_⟩
  by_cases hkey : k = key
  · subst hkey
    obtain rfl := Option.some.inj (hlookup.symm.trans hk)
    exact closeSocket_clears hacting hid h
  · rw [closeSocket_elsewhere hacting hid h hkey, hk]
    constructor
    · exact fun hclean => ⟨key, game, player, bind, hacting,
        Or.inr fun id v hv hbelongs => absurd ⟨id, v, hv, hbelongs⟩ (hclean g rfl)⟩
    · rintro ⟨key', game', player', bind', hacting', hclears⟩ g' hg' ⟨id, v, hv, hbelongs⟩
      obtain ⟨rfl, -⟩ := hacting.unique hacting'
      obtain rfl := Option.some.inj hg'
      rcases hclears with ⟨heq, -⟩ | hall
      · exact hkey heq
      · exact hkey (hall id v hv hbelongs).1

end

/-- A player that has entered no world makes a DEVICE in a game with another player. -/
def deviceOutside : List (Env × Input) :=
  [(Env.atTime 0, ask 7 .attachToGame [0, 0, 0, 0]),
    (Env.atTime 0, ask 8 .attachToGame [1, 0, 0, 0]),
    (Env.atTime 0, ask 8 .createObject [5, 0, 1, 8, 0, 0, 0, 0, 0, 0, 0, 0, 0, 0])]

/-- The DEVICE of a player that was in no world is still there when the player is not. -/
theorem closeSocket_leaves_device : ∃ srv g p r g', ServerReachable srv ∧ Acting srv 8 1 g p 2 ∧
    srv.closeSocket (Env.atTime 0) 8 = some r ∧ r.result = .ok .complete ∧
    r.srv.games.lookup 1 = some g' ∧ (∀ q ∈ g'.players, q.bindId ≠ some 2) ∧ Belongings g' 2 := by
  have hplay : ((play (Server.new 0) deviceOutside).map Prod.fst).bind (fun srv => do
      let entry ← srv.getGameByClientid 8
      let p ← entry.2.getPlayer 8
      let r ← srv.closeSocket (Env.atTime 0) 8
      let g' ← r.srv.games.lookup 1
      some (entry.1, p.bindId, r.result.toOption, decide (∀ q ∈ g'.players, q.bindId ≠ some 2),
        decide (Belongings g' 2))) = some (1, some 2, some .complete, true, true) := by
    decide +kernel
  obtain ⟨srv, tr, hrun, hfacts⟩ := play_bind hplay
  simp only [Option.bind_eq_bind, Option.bind_eq_some_iff, Option.some.injEq, Prod.mk.injEq,
    decide_eq_true_eq, Prod.exists] at hfacts
  obtain ⟨_, g, hgame, p, hp, r, hr, g', hk', rfl, hbind, hres, hgone, hhas⟩ := hfacts
  exact ⟨srv, g, p, r, g', ⟨0, tr, hrun⟩, ⟨hgame, hp, hbind⟩, hr, ok_of_toOption hres, hk', hgone,
    hhas⟩

/-- Two players stand in a world with a DEVICE each, and the connection of the first takes over the
second. -/
def twoDevices : List (Env × Input) :=
  [(Env.atTime 0, ask 7 .attachToGame [0, 0, 0, 0]),
    (Env.atTime 0, ask 8 .attachToGame [1, 0, 0, 0]),
    (Env.atTime 0, ask 9 .attachToGame [1, 0, 0, 0]),
    (Env.atTime 0, ask 7 .setWorld [0, 0, 8]), (Env.atTime 0, ask 8 .setWorld [0, 0, 8]),
    (Env.atTime 0, ask 7 .createObject [5, 0, 1, 4, 0, 0, 0, 0, 0, 0, 0, 0, 0, 0]),
    (Env.atTime 0, ask 8 .createObject [5, 0, 1, 8, 0, 0, 0, 0, 0, 0, 0, 0, 0, 0]),
    (Env.atTime 0, ask 7 .restoreConnection [1, 0, 0, 0, 2])]

/-- Closing its socket takes the DEVICE of the first player, and leaves that of the second. -/
theorem closeSocket_takes_device : ∃ srv r g', ServerReachable srv ∧
    srv.closeSocket (Env.atTime 0) 7 = some r ∧ r.result = .ok .complete ∧
    r.srv.games.lookup 1 = some g' ∧ g'.players.map Player.clientId = [9] ∧
    ¬ Belongings g' 1 ∧ Belongings g' 2 := by
  have hplay : ((play (Server.new 0) twoDevices).map Prod.fst).bind (fun srv => do
      let entry ← srv.getGameByClientid 7
      let p ← entry.2.getPlayer 7
      let r ← srv.closeSocket (Env.atTime 0) 7
      let g' ← r.srv.games.lookup 1
      some (entry.1, p.bindId, p.world.isSome, g'.players.map Player.clientId,
        decide (Belongings g' 2))) = some (1, some 1, true, [9], true) := by
    decide +kernel
  obtain ⟨srv, tr, hrun, hfacts⟩ := play_bind hplay
  simp only [Option.bind_eq_bind, Option.bind_eq_some_iff, Option.some.injEq, Prod.mk.injEq,
    decide_eq_true_eq, Prod.exists] at hfacts
  obtain ⟨_, g, hgame, p, hp, r, hr, g', hk', rfl, hbind, hworld, hplayers, hleft⟩ := hfacts
  have hreach : ServerReachable srv := ⟨0, tr, hrun⟩
  have hacting : Acting srv 7 1 g p 1 := ⟨hgame, hp, hbind⟩
  obtain ⟨hres, hclean⟩ := closeSocket_cleans_iff hreach .requested
    (Server.getGameByClientid_lookup hgame) (Game.getPlayer_mem hp) (Game.getPlayer_clientId hp) hr
  refine ⟨srv, r, g', hreach, hr, hres, hk', hplayers, (hclean 1 hbind).mpr ?_ g' hk', hleft⟩
  exact (clears_acting hacting).mpr (Or.inl fun hnone => by simp [hnone] at hworld)

end VangersSrv
