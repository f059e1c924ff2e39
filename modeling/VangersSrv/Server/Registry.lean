/-
The registry: games, their players and their objects are keyed consistently.

`GameOk` is about one game and `RegistryOk` about the server.  The facts lean on each
other: a free number is free because the taken ones are distinct, and a removed
player's number is not taken because joining drops it from the list.  `CountersOk` adds
what holds only until the counter for game ids comes round.
-/
import VangersSrv.Server.Handled
import VangersSrv.Server.Slots

namespace VangersSrv

namespace Game

/-- The number of every player, in the order of the players. -/
def bindIds (g : Game) : List (Option UInt8) := g.players.map Player.bindId

end Game

/-- What holds inside a game. -/
structure GameOk (g : Game) : Prop where
  /-- Every player has a number in range. -/
  bound : ∀ p ∈ g.players, ∃ b, p.bindId = some b ∧ ValidBind b
  /-- No two players share a number. -/
  distinct : g.bindIds.Nodup
  removedDistinct : (g.removedPlayers.map RemovedPlayer.bindId).Nodup
  /-- No removed player has the number of a present one. -/
  removedAbsent : ∀ r ∈ g.removedPlayers, some r.bindId ∉ g.bindIds
  worldsDistinct : (g.worlds.map World.id).Nodup
  /-- Every player's world is one of the game's. -/
  worldKnown : ∀ p ∈ g.players, ∀ w, p.world = some w → w ∈ g.worlds
  /-- Every object is keyed by its own id and owned by a number in range. -/
  keyed : ∀ id v, g.vanjects.lookup id = some v → v.id = id ∧ ValidBind v.playerBindId

/-- Every object is filed under its own id. -/
def Vanjects.Keyed (vanjects : Vanjects) : Prop := ∀ id v, vanjects.lookup id = some v → v.id = id

theorem GameOk.vanjectsKeyed {g : Game} (h : GameOk g) : Vanjects.Keyed g.vanjects :=
  fun id v hv => (h.keyed id v hv).1

/-- What holds of the server. -/
structure RegistryOk (srv : Server) : Prop where
  /-- Every game is keyed by its own id. -/
  keyed : ∀ k g, srv.games.lookup k = some g → g.id = k
  inhabited : ∀ k g, srv.games.lookup k = some g → g.players ≠ []
  game : ∀ k g, srv.games.lookup k = some g → GameOk g

/-! ### Inside a game -/

namespace GameOk

variable {g : Game} {c : ClientID} {p p' : Player} {b : UInt8}

/-- A player stays present and bound under a write that keeps its number, and the game
stays consistent when the player's world is still one of the game's. -/
theorem modify {g' : Game} {q : Player → Bool} {f : Player → Player} (h : GameOk g)
    (hplayers : g'.players = g.players.modifyFirst q f)
    (hbind : ∀ p, g.players.find? q = some p → (f p).bind = p.bind)
    (hworld : ∀ p, g.players.find? q = some p → ∀ w, (f p).world = some w → w ∈ g'.worlds)
    (hremoved : g'.removedPlayers = g.removedPlayers)
    (hworlds : g.worlds ⊆ g'.worlds) (hdistinct : (g'.worlds.map World.id).Nodup)
    (hkeyed : ∀ id v, g'.vanjects.lookup id = some v → v.id = id ∧ ValidBind v.playerBindId) :
    GameOk g' := by
  have hids : g'.bindIds = g.bindIds := by
    unfold Game.bindIds
    rw [hplayers]
    refine List.map_modifyFirst fun p hp => ?_
    simp [Player.bindId, hbind p hp]
  constructor
  · rw [hplayers]
    refine List.forall_modifyFirst h.bound fun p hp => ?_
    have hb := h.bound p (List.mem_of_find?_eq_some hp)
    simpa [Player.bindId, hbind p hp] using hb
  · rw [hids]
    exact h.distinct
  · rw [hremoved]
    exact h.removedDistinct
  · rw [hremoved, hids]
    exact h.removedAbsent
  · exact hdistinct
  · rw [hplayers]
    refine List.forall_modifyFirst (fun p hp w hw => hworlds (h.worldKnown p hp w hw)) ?_
    exact hworld
  · exact hkeyed

/-- Only the objects changed. -/
theorem withVanjects {vanjects : Vanjects} (h : GameOk g)
    (hkeyed : ∀ id v, vanjects.lookup id = some v → v.id = id ∧ ValidBind v.playerBindId) :
    GameOk { g with vanjects } :=
  ⟨h.bound, h.distinct, h.removedDistinct, h.removedAbsent, h.worldsDistinct, h.worldKnown, hkeyed⟩

theorem new (id : GameID) (now : Instant) : GameOk (Game.new id now) := by
  constructor <;> simp [Game.new, Game.bindIds]

theorem slotsOk (h : GameOk g) : g.SlotsOk := by
  have hmap : g.bindIds.filterMap id = g.heldIds := by
    rw [Game.bindIds, Game.heldIds, List.filterMap_map]
    rfl
  constructor
  · rw [← hmap]
    exact h.distinct.filterMap fun a a' b hb hb' => by
      simp only [id_eq, Option.mem_def] at hb hb'
      rw [hb, hb']
  · intro b hb
    obtain ⟨p, hp, hpb⟩ := List.mem_filterMap.mp hb
    obtain ⟨b', hb', hvalid⟩ := h.bound p hp
    cases hpb.symm.trans hb'
    exact hvalid

/-- A number handed out to a new player is in range and free. -/
theorem free (h : GameOk g) (hfree : g.getUniqPlayerId = some b) :
    ValidBind b ∧ some b ∉ g.bindIds := by
  have hleast := h.slotsOk.getUniqPlayerId_eq_some.mp hfree
  exact ⟨hleast.valid, by simpa [Game.heldIds, Game.bindIds] using hleast.free⟩

theorem joined {bind : Bind} (h : GameOk g) (hfree : g.getUniqPlayerId = some bind.id) :
    GameOk (g.joined c bind) := by
  obtain ⟨hvalid, hnew⟩ := h.free hfree
  have hids : (g.joined c bind).bindIds = g.bindIds ++ [some bind.id] := by
    simp [Game.bindIds, Game.joined, Player.bindId]
  constructor
  · intro p hp
    rcases List.mem_append.mp hp with hp | hp
    · exact h.bound p hp
    · rw [List.mem_singleton.mp hp]
      exact ⟨bind.id, rfl, hvalid⟩
  · rw [hids, List.nodup_append]
    refine ⟨h.distinct, by simp, ?_⟩
    intro x hx y hy hxy
    rw [List.mem_singleton.mp hy] at hxy
    exact hnew (hxy ▸ hx)
  · exact h.removedDistinct.sublist (List.filter_sublist.map _)
  · intro r hr
    obtain ⟨hr, hne⟩ := List.mem_filter.mp hr
    rw [hids]
    intro hmem
    rcases List.mem_append.mp hmem with hmem | hmem
    · exact h.removedAbsent r hr hmem
    · simp only [List.mem_singleton, Option.some.injEq] at hmem
      simp [hmem] at hne
  · exact h.worldsDistinct
  · intro p hp w hw
    rcases List.mem_append.mp hp with hp | hp
    · exact h.worldKnown p hp w hw
    · rw [List.mem_singleton.mp hp] at hw
      simp [Player.new] at hw
  · exact h.keyed

theorem restored {playerId : UInt8} (h : GameOk g) : GameOk (g.restored c playerId) := by
  refine h.modify rfl (fun _ _ => rfl) ?_ rfl (List.Subset.refl _) h.worldsDistinct h.keyed
  intro p hp w hw
  exact h.worldKnown p (List.mem_of_find?_eq_some hp) w hw

theorem playerChanged (h : GameOk g) (hplayer : g.getPlayer c = some p) (hbind : p'.bind = p.bind)
    (hworld : p'.world = p.world) : GameOk (g.modifyPlayer c fun _ => p') := by
  refine h.modify rfl ?_ ?_ rfl (List.Subset.refl _) h.worldsDistinct h.keyed
  · intro q hq
    rw [hbind, Option.some.inj (hq.symm.trans hplayer)]
  · intro q hq w hw
    rw [hworld] at hw
    exact h.worldKnown p (Game.getPlayer_mem hplayer) w hw

theorem left (h : GameOk g) : GameOk (g.left c b) := by
  refine h.modify rfl (fun _ _ => rfl) (by simp) rfl (List.Subset.refl _) h.worldsDistinct ?_
  intro id v hv
  exact h.keyed id v (AList.lookup_retain_eq_some.mp hv).1

theorem entered {worlds : List World} {w : World} (h : GameOk g)
    (hworlds : (worlds = g.worlds ∧ w ∈ g.worlds) ∨
      (worlds = g.worlds ++ [w] ∧ ∀ x ∈ g.worlds, x.id ≠ w.id)) :
    GameOk (g.entered c worlds w) := by
  have hdistinct : (worlds.map World.id).Nodup := by
    rcases hworlds with ⟨rfl, -⟩ | ⟨rfl, hnew⟩
    · exact h.worldsDistinct
    · simp only [List.map_append, List.map_cons, List.map_nil, List.nodup_append]
      refine ⟨h.worldsDistinct, by simp, ?_⟩
      intro x hx y hy hxy
      obtain ⟨z, hz, rfl⟩ := List.mem_map.mp hx
      exact hnew z hz (hxy.trans (List.mem_singleton.mp hy))
  have hsubset : g.worlds ⊆ worlds := by
    rcases hworlds with ⟨rfl, -⟩ | ⟨rfl, -⟩
    · exact List.Subset.refl _
    · exact List.subset_append_left _ _
  have hmem : w ∈ worlds := by
    rcases hworlds with ⟨rfl, hw⟩ | ⟨rfl, -⟩
    · exact hw
    · simp
  refine h.modify rfl (fun _ _ => rfl) ?_ rfl hsubset hdistinct h.keyed
  intro p _ x hx
  cases hx
  exact hmem

/-- The player that leaves takes its number with it, so the snapshot's number is free. -/
theorem closed (h : GameOk g) (hplayer : g.getPlayer c = some p) (hbind : p.bindId = some b) :
    GameOk (g.closed c p) := by
  have hsub : (g.closed c p).players.Sublist g.players := List.filter_sublist
  have habsent : some b ∉ (g.closed c p).bindIds := by
    intro hmem
    obtain ⟨q, hq, hqb⟩ := List.mem_map.mp hmem
    obtain ⟨hq, hqc⟩ := List.mem_filter.mp hq
    have hsame : q = p :=
      List.inj_on_of_nodup_map h.distinct hq (Game.getPlayer_mem hplayer) (hqb.trans hbind.symm)
    rw [hsame, Game.getPlayer_clientId hplayer] at hqc
    simp at hqc
  have hfinish : ∀ snapshot, RemovedPlayer.fromPlayer (finishPlayer p) = some snapshot →
      snapshot.bindId = b := by
    intro snapshot hs
    have hid := RemovedPlayer.fromPlayer_bindId hs
    have hsame : (finishPlayer p).bindId = p.bindId := rfl
    rw [hsame, hbind] at hid
    exact (Option.some.inj hid).symm
  constructor
  · intro q hq
    exact h.bound q (hsub.subset hq)
  · exact h.distinct.sublist (hsub.map _)
  · show ((rememberPlayer g.removedPlayers (finishPlayer p)).map _).Nodup
    unfold rememberPlayer
    split
    · rename_i snapshot _
      simp only [List.map_append, List.map_cons, List.map_nil, List.nodup_append]
      refine ⟨h.removedDistinct.sublist (List.filter_sublist.map _), by simp, ?_⟩
      intro x hx y hy hxy
      obtain ⟨r, hr, rfl⟩ := List.mem_map.mp hx
      have hne := (List.mem_filter.mp hr).2
      rw [List.mem_singleton.mp hy] at hxy
      simp [hxy] at hne
    · exact h.removedDistinct
  · intro r hr
    have hold : ∀ r ∈ g.removedPlayers, some r.bindId ∉ (g.closed c p).bindIds :=
      fun r hr hmem => h.removedAbsent r hr ((hsub.map _).subset hmem)
    change r ∈ rememberPlayer g.removedPlayers (finishPlayer p) at hr
    unfold rememberPlayer at hr
    split at hr
    · rename_i snapshot hs
      rcases List.mem_append.mp hr with hr | hr
      · exact hold r (List.mem_filter.mp hr).1
      · rw [List.mem_singleton.mp hr, hfinish snapshot hs]
        exact habsent
    · exact hold r hr
  · exact h.worldsDistinct
  · intro q hq
    exact h.worldKnown q (hsub.subset hq)
  · exact h.keyed

/-- Storing an object under its own id and a player's number. -/
theorem insert {v : Vanject} (h : GameOk g) (hb : ValidBind v.playerBindId) :
    ∀ id w, (g.vanjects.insert v.id v).lookup id = some w → w.id = id ∧ ValidBind w.playerBindId := by
  intro id w hw
  rw [AList.lookup_insert'] at hw
  split at hw
  · rename_i hid
    cases hw
    exact ⟨hid.symm, hb⟩
  · exact h.keyed id w hw

end GameOk

/-! ### The server -/

/-- A request for a new game. -/
def Packet.RequestsGame (p : Packet) : Prop :=
  p.action = .attachToGame ∧ sliceLeToI32 p.data = some 0

instance (p : Packet) : Decidable p.RequestsGame := by
  unfold Packet.RequestsGame
  infer_instance

/-- How many games the requests of a run made. -/
def gamesCreated (tr : List (Option Event)) : Nat :=
  tr.countP fun e =>
    match e with
    | some { input := .message _ (.updated packet), .. } => packet.RequestsGame
    | _ => false

namespace RegistryOk

variable {env : Env} {packet : Packet} {c : ClientID} {srv srv' : Server} {sent : List Sent}
  {key : GameID} {game game' : Game}

theorem setGame (h : RegistryOk srv) (hlookup : srv.games.lookup key = some game)
    (hid : game'.id = game.id) (hne : game'.players ≠ []) (hok : GameOk game') :
    RegistryOk (srv.setGame key game') := by
  constructor <;> intro k g hk <;> rw [Server.lookup_setGame hlookup] at hk <;> split at hk
  · rename_i hkey
    cases hk
    rw [hid, hkey]
    exact h.keyed key game hlookup
  · exact h.keyed k g hk
  · cases hk
    exact hne
  · exact h.inhabited k g hk
  · cases hk
    exact hok
  · exact h.game k g hk

theorem setVanjects {vanjects : Vanjects} (h : RegistryOk srv)
    (hlookup : srv.games.lookup key = some game)
    (hkeyed : ∀ id v, vanjects.lookup id = some v → v.id = id ∧ ValidBind v.playerBindId) :
    RegistryOk (srv.setGame key { game with vanjects }) :=
  h.setGame hlookup rfl (h.inhabited key game hlookup) ((h.game key game hlookup).withVanjects hkeyed)

/-- The number a packet acts under is in range. -/
theorem validBind {player : Player} {bind : UInt8} (h : RegistryOk srv)
    (hacting : Acting srv c key game player bind) : ValidBind bind := by
  have hlookup := Server.getGameByClientid_lookup hacting.inGame
  obtain ⟨b, hb, hvalid⟩ := (h.game key game hlookup).bound player (Game.getPlayer_mem hacting.found)
  rw [hacting.bound] at hb
  cases hb
  exact hvalid

theorem setClients (h : RegistryOk srv) (clients : List Client) :
    RegistryOk { srv with clients } :=
  ⟨h.keyed, h.inhabited, h.game⟩

theorem modifyFirst_ne_nil {l : List Player} {q : Player → Bool} {f : Player → Player}
    (h : l ≠ []) : l.modifyFirst q f ≠ [] := by
  intro hnil
  have hlen := List.length_modifyFirst (l := l) (p := q) (f := f)
  rw [hnil] at hlen
  exact h (List.eq_nil_of_length_eq_zero hlen.symm)

/-- What is left when a game goes was there before. -/
theorem lookup_erased {k : GameID} {g : Game} (h : RegistryOk srv)
    (hlookup : srv.games.lookup key = some game)
    (hk : ((srv.games.replace key game').erase game.id).lookup k = some g) :
    srv.games.lookup k = some g := by
  rw [AList.lookup_erase', h.keyed key game hlookup] at hk
  split at hk
  · cases hk
  · rename_i hne
    rw [AList.lookup_replace_of_ne _ hne] at hk
    exact hk

theorem erase (h : RegistryOk srv) (hlookup : srv.games.lookup key = some game) :
    RegistryOk { srv with games := (srv.games.replace key game').erase game.id } :=
  ⟨fun k g hk => h.keyed k g (h.lookup_erased hlookup hk),
    fun k g hk => h.inhabited k g (h.lookup_erased hlookup hk),
    fun k g hk => h.game k g (h.lookup_erased hlookup hk)⟩

/-- A game joined for the first time is not empty. -/
theorem insert {next : U32} (h : RegistryOk srv) (hid : game'.id = key)
    (hne : game'.players ≠ []) (hok : GameOk game') :
    RegistryOk ({ srv with games := srv.games.insert key game, gamesIdUniq := next }.setGame key
      game') := by
  have hlookup : (srv.games.insert key game).lookup key = some game := AList.lookup_insert _
  have hcases : ∀ k g, (({ srv with games := srv.games.insert key game, gamesIdUniq := next } :
      Server).setGame key game').games.lookup k = some g →
      (k = key ∧ g = game') ∨ srv.games.lookup k = some g := by
    intro k g hk
    rw [Server.lookup_setGame hlookup] at hk
    split at hk
    · rename_i hkey
      exact Or.inl ⟨hkey, (Option.some.inj hk).symm⟩
    · rename_i hkey
      simp only [AList.lookup_insert', if_neg hkey] at hk
      exact Or.inr hk
  constructor <;> intro k g hk <;> rcases hcases k g hk with ⟨rfl, rfl⟩ | hold
  · exact hid
  · exact h.keyed k g hold
  · exact hne
  · exact h.inhabited k g hold
  · exact hok
  · exact h.game k g hold

theorem prelude (h : Prelude env packet c srv sent srv') (hok : RegistryOk srv) :
    RegistryOk srv' := by
  cases h with
  | playerChanged hgame hplayer _ hbind hworld _ _ =>
      have hlookup := Server.getGameByClientid_lookup hgame
      exact hok.setGame hlookup rfl (modifyFirst_ne_nil (hok.inhabited _ _ hlookup))
        ((hok.game _ _ hlookup).playerChanged hplayer hbind hworld)
  | left _ _ hacting _ _ _ =>
      have hlookup := Server.getGameByClientid_lookup hacting.inGame
      exact hok.setGame hlookup rfl (modifyFirst_ne_nil (hok.inhabited _ _ hlookup))
        (hok.game _ _ hlookup).left

theorem effect (h : Effect env packet c srv sent srv') (hok : RegistryOk srv) :
    RegistryOk srv' := by
  cases h with
  | prelude h => exact prelude h hok
  | quiet _ => exact hok
  | gameChanged hgame =>
      have hlookup := Server.getGameByClientid_lookup hgame
      have hne := hok.inhabited _ _ hlookup
      obtain ⟨h1, h2, h3, h4, h5, h6, h7⟩ := hok.game _ _ hlookup
      exact hok.setGame hlookup rfl hne ⟨h1, h2, h3, h4, h5, h6, h7⟩
  | counted _ _ _ => exact ⟨hok.keyed, hok.inhabited, hok.game⟩
  | @attached _ requested found bind _ _ hfound hfree _ =>
      have hne : (found.joined c bind).players ≠ [] := by simp [Game.joined]
      rcases Server.requestedGame_cases hfound with ⟨key, n, hgame, hlookup⟩ | ⟨key, n, hgame, -, rfl⟩
      · have hcounted : RegistryOk { srv with gamesIdUniq := n } :=
          ⟨hok.keyed, hok.inhabited, hok.game⟩
        rw [hgame]
        exact hcounted.setGame hlookup rfl hne ((hok.game _ _ hlookup).joined hfree)
      · rw [hgame]
        exact hok.insert rfl hne ((GameOk.new _ _).joined hfree)
  | @restored _ gameId playerId game player _ _ hlookup _ hsrv =>
      have hset : RegistryOk (srv.setGame gameId (game.restored c playerId)) :=
        hok.setGame hlookup rfl (modifyFirst_ne_nil (hok.inhabited _ _ hlookup))
          (hok.game _ _ hlookup).restored
      rw [hsrv]
      split
      · exact hset.setClients _
      · exact hset
  | replayed _ _ _ => exact hok
  | @created _ key game player bind v _ hacting _ _ _ _ =>
      have hlookup := Server.getGameByClientid_lookup hacting.inGame
      exact hok.setVanjects hlookup
        ((hok.game _ _ hlookup).insert (v := { v with playerBindId := bind }) (hok.validBind hacting))
  | updated _ hacting _ hold _ hparse _ =>
      have hlookup := Server.getGameByClientid_lookup hacting.inGame
      refine hok.setVanjects hlookup ?_
      intro id v hv
      rw [AList.lookup_replace] at hv
      split at hv
      · rename_i hid
        rw [hold] at hv
        cases hv
        have hnew := (Vanject.updateFromSlice_ok hparse).2.1
        have hkey := ((hok.game _ _ hlookup).keyed _ _ hold).1
        rw [hid, hnew]
        exact ⟨hkey, hok.validBind hacting⟩
      · exact (hok.game _ _ hlookup).keyed id v hv
  | deleted _ hacting _ _ _ =>
      have hlookup := Server.getGameByClientid_lookup hacting.inGame
      refine hok.setVanjects hlookup ?_
      intro id v hv
      rw [AList.lookup_erase'] at hv
      split at hv
      · simp at hv
      · exact (hok.game _ _ hlookup).keyed id v hv
  | deleteMissed _ hacting _ _ =>
      have hlookup := Server.getGameByClientid_lookup hacting.inGame
      exact hok.setGame hlookup rfl (hok.inhabited _ _ hlookup) (hok.game _ _ hlookup)
  | transferred _ hacting _ _ _ _ _ =>
      have hlookup := Server.getGameByClientid_lookup hacting.inGame
      refine hok.setVanjects hlookup ?_
      intro id v hv
      rw [AList.lookup_insert'] at hv
      split at hv
      · rename_i hid
        cases hv
        exact ⟨hid.symm, hok.validBind hacting⟩
      · rw [AList.lookup_erase'] at hv
        split at hv
        · simp at hv
        · exact (hok.game _ _ hlookup).keyed id v hv
  | worldMade hgame hplayer hunbound hnew =>
      -- every player has a number, so this one has too
      have hlookup := Server.getGameByClientid_lookup hgame
      obtain ⟨b, hb, -⟩ := (hok.game _ _ hlookup).bound _ (Game.getPlayer_mem hplayer)
      rw [hunbound] at hb
      simp at hb
  | entered _ _ hacting hworlds _ _ _ _ _ _ =>
      have hlookup := Server.getGameByClientid_lookup hacting.inGame
      exact hok.setGame hlookup rfl (modifyFirst_ne_nil (hok.inhabited _ _ hlookup))
        ((hok.game _ _ hlookup).entered hworlds)
  | closed _ hacting hothers _ =>
      have hlookup := Server.getGameByClientid_lookup hacting.inGame
      exact hok.setGame hlookup rfl hothers
        ((hok.game _ _ hlookup).closed hacting.found hacting.bound)
  | closedLast _ hacting _ _ =>
      exact hok.erase (Server.getGameByClientid_lookup hacting.inGame)

theorem handled (h : Handled env packet c srv sent srv') (hok : RegistryOk srv) :
    RegistryOk srv' := by
  cases h with
  | one h => exact effect h hok
  | two _ h₁ h₂ => exact effect h₂ (prelude h₁ hok)

theorem mark (h : RegistryOk srv) : RegistryOk (srv.markPlayerDisconnected env c) := by
  unfold Server.markPlayerDisconnected
  split
  · rename_i key game hgame
    have hlookup := Server.getGameByClientid_lookup hgame
    have hgok := h.game _ _ hlookup
    refine h.setGame hlookup rfl (modifyFirst_ne_nil (h.inhabited _ _ hlookup)) ?_
    refine hgok.modify rfl (fun _ _ => rfl) ?_ rfl (List.Subset.refl _) hgok.worldsDistinct hgok.keyed
    intro p hp w hw
    exact hgok.worldKnown p (List.mem_of_find?_eq_some hp) w hw
  · exact h

theorem rehash (h : Rehash srv srv') (hok : RegistryOk srv) : RegistryOk srv' := by
  cases h with
  | games hperm =>
      have hback := fun k => AList.perm_lookup (a := k) hperm
      constructor <;> intro k g hk
      · exact hok.keyed k g (by rw [← hback k]; exact hk)
      · exact hok.inhabited k g (by rw [← hback k]; exact hk)
      · exact hok.game k g (by rw [← hback k]; exact hk)
  | vanjects hlookup hperm =>
      refine hok.setVanjects hlookup ?_
      intro id v hv
      rw [AList.perm_lookup hperm] at hv
      exact (hok.game _ _ hlookup).keyed id v hv

end RegistryOk

theorem registryOk_new (start : Instant) : RegistryOk (Server.new start) := by
  constructor <;> simp [Server.new]

theorem Step.registryOk {srv srv' : Server} {e : Option Event} (h : Step srv e srv')
    (hok : RegistryOk srv) : RegistryOk srv' :=
  h.preserves (fun _ _ _ _ _ _ _ hh hmid => hmid.handled hh) (fun _ _ _ hmid => hmid.mark)
    (fun _ clients hmid => hmid.setClients clients) (fun _ _ hr hmid => hmid.rehash hr) hok

/-- Every reachable state has its registry in order. -/
theorem ServerReachable.registryOk {srv : Server} (h : ServerReachable srv) : RegistryOk srv := by
  obtain ⟨start, hreach⟩ := h
  exact hreach.invariant (registryOk_new start) fun _ _ _ hstep hok => hstep.registryOk hok

/-- The player a lookup by connection finds has a number. -/
theorem RegistryOk.exists_acting {srv : Server} {c : ClientID} {key : GameID} {game : Game}
    (hok : RegistryOk srv) (hgame : srv.getGameByClientid c = some (key, game)) :
    ∃ player bind, Acting srv c key game player bind := by
  obtain ⟨player, hplayer⟩ := Server.getGameByClientid_getPlayer hgame
  have hlookup := Server.getGameByClientid_lookup hgame
  obtain ⟨b, hb, -⟩ := (hok.game _ _ hlookup).bound player (Game.getPlayer_mem hplayer)
  exact ⟨player, b, hgame, hplayer, hb⟩

/-! ### The counter for game ids -/

/-- Every game's id is one the counter has given out. -/
def CountersOk (srv : Server) : Prop :=
  ∀ k ∈ srv.games, 1 ≤ k.toNat ∧ k.toNat ≤ srv.gamesIdUniq.toNat

/-- What a packet does to the counter and to the set of game ids. -/
structure Counts (packet : Packet) (srv srv' : Server) : Prop where
  counter : srv'.gamesIdUniq = srv.gamesIdUniq ∨
    (packet.RequestsGame ∧ srv'.gamesIdUniq = srv.gamesIdUniq + 1)
  keys : ∀ k ∈ srv'.games, k ∈ srv.games ∨
    (k = srv.gamesIdUniq + 1 ∧ srv'.gamesIdUniq = srv.gamesIdUniq + 1)

section

variable {env : Env} {packet : Packet} {c : ClientID} {srv srv' : Server} {sent : List Sent}
  {key : GameID} {game : Game}

theorem mem_setGame {k : GameID} : k ∈ (srv.setGame key game).games ↔ k ∈ srv.games :=
  AList.mem_replace

theorem Counts.setGame : Counts packet srv (srv.setGame key game) :=
  ⟨Or.inl rfl, fun _ hk => Or.inl (mem_setGame.mp hk)⟩

theorem Prelude.counts (h : Prelude env packet c srv sent srv') :
    srv'.gamesIdUniq = srv.gamesIdUniq ∧ ∀ k ∈ srv'.games, k ∈ srv.games := by
  cases h <;> exact ⟨rfl, fun _ hk => mem_setGame.mp hk⟩

theorem Effect.counts (h : Effect env packet c srv sent srv') : Counts packet srv srv' := by
  cases h with
  | prelude h =>
      obtain ⟨hcounter, hkeys⟩ := h.counts
      exact ⟨Or.inl hcounter, fun k hk => Or.inl (hkeys k hk)⟩
  | quiet _ => exact ⟨Or.inl rfl, fun _ hk => Or.inl hk⟩
  | replayed _ _ _ => exact ⟨Or.inl rfl, fun _ hk => Or.inl hk⟩
  | counted haction hrequested _ =>
      exact ⟨Or.inr ⟨⟨haction, hrequested⟩, rfl⟩, fun _ hk => Or.inl hk⟩
  | @attached _ requested _ _ haction hrequested _ _ _ =>
      by_cases h0 : requested = 0
      · subst h0
        by_cases hin : srv.gamesIdUniq + 1 ∈ srv.games
        · rw [Server.requestedGame_taken hin]
          exact ⟨Or.inr ⟨⟨haction, hrequested⟩, rfl⟩, fun _ hk => Or.inl (mem_setGame.mp hk)⟩
        · rw [Server.requestedGame_fresh hin]
          refine ⟨Or.inr ⟨⟨haction, hrequested⟩, rfl⟩, fun k hk => ?_⟩
          rcases AList.mem_insert _ |>.mp (mem_setGame.mp hk) with hk | hk
          · exact Or.inr ⟨hk, rfl⟩
          · exact Or.inl hk
      · rw [Server.requestedGame_of_ne h0]
        exact Counts.setGame
  | restored _ _ _ _ hsrv =>
      rw [hsrv]
      split <;> exact ⟨Or.inl rfl, fun _ hk => Or.inl (mem_setGame.mp hk)⟩
  | closedLast _ _ _ _ =>
      exact ⟨Or.inl rfl, fun k hk => Or.inl (AList.mem_replace.mp (AList.mem_erase.mp hk).2)⟩
  | _ => exact Counts.setGame

theorem Handled.counts (h : Handled env packet c srv sent srv') : Counts packet srv srv' := by
  cases h with
  | one h => exact h.counts
  | two _ h₁ h₂ =>
      obtain ⟨hcounter, hkeys⟩ := h₁.counts
      obtain ⟨hcounter₂, hkeys₂⟩ := h₂.counts
      rw [hcounter] at hcounter₂ hkeys₂
      refine ⟨hcounter₂, fun k hk => ?_⟩
      rcases hkeys₂ k hk with hk | hk
      · exact Or.inl (hkeys k hk)
      · exact Or.inr hk

end

/-- One round keeps the ids in range while the counter has room. -/
theorem Step.countersOk {srv srv' : Server} {e : Option Event} {tr : List (Option Event)}
    (h : Step srv e srv') (hcount : gamesCreated (tr ++ [e]) < 2 ^ 32) (hok : CountersOk srv)
    (hle : srv.gamesIdUniq.toNat ≤ gamesCreated tr) :
    CountersOk srv' ∧ srv'.gamesIdUniq.toNat ≤ gamesCreated (tr ++ [e]) := by
  have hmono : gamesCreated tr ≤ gamesCreated (tr ++ [e]) := by simp [gamesCreated]
  refine h.preserves (P := fun mid => CountersOk mid ∧
    mid.gamesIdUniq.toNat ≤ gamesCreated (tr ++ [e])) ?_ ?_ ?_ ?_ ⟨hok, le_trans hle hmono⟩
  · rintro env packet c mid mid' sent origin hh ⟨hmid, hmidle⟩
    obtain ⟨hcounter, hkeys⟩ := hh.counts
    rcases hcounter with hsame | ⟨hr, hnext⟩
    · refine ⟨fun k hk => ?_, by rw [hsame]; exact hmidle⟩
      rcases hkeys k hk with hk | ⟨-, hk⟩
      · rw [hsame]
        exact hmid k hk
      · rw [hsame] at hk
        exact absurd hk (by bv_omega)
    · -- only a connection asks for a game, and its request is one more in the count
      cases origin with
      | tick _ => exact absurd hr (by decide)
      | message he =>
          have hone : gamesCreated (tr ++ [e]) = gamesCreated tr + 1 := by
            simp [gamesCreated, he, hr]
          have hadd : (srv.gamesIdUniq + 1).toNat = srv.gamesIdUniq.toNat + 1 := by
            rw [BitVec.toNat_add]
            exact Nat.mod_eq_of_lt (by rw [show (1 : U32).toNat = 1 from rfl]; omega)
          refine ⟨fun k hk => ?_, by rw [hnext, hadd]; omega⟩
          rw [hnext, hadd]
          rcases hkeys k hk with hk | ⟨hk, -⟩
          · obtain ⟨hlow, hhigh⟩ := hok k hk
            exact ⟨hlow, by omega⟩
          · rw [hk, hadd]
            exact ⟨by omega, le_refl _⟩
  · rintro env c mid ⟨hmid, hmidle⟩
    unfold Server.markPlayerDisconnected
    split
    · exact ⟨fun k hk => hmid k (mem_setGame.mp hk), hmidle⟩
    · exact ⟨hmid, hmidle⟩
  · exact fun mid clients hmid => hmid
  · rintro mid mid' hr ⟨hmid, hmidle⟩
    cases hr with
    | games hperm =>
        refine ⟨fun k hk => hmid k ?_, hmidle⟩
        exact (AList.mem_of_perm hperm).mp hk
    | vanjects _ _ => exact ⟨fun k hk => hmid k (mem_setGame.mp hk), hmidle⟩

/-- **The registry invariant.** -/
theorem registry_invariant {start : Instant} {tr : List (Option Event)} {srv : Server}
    (h : ServerRun start tr srv) (hcount : gamesCreated tr < 2 ^ 32) :
    RegistryOk srv ∧ CountersOk srv := by
  refine ⟨ServerReachable.registryOk ⟨start, tr, h⟩, ?_⟩
  have hboth := Transition.Run.history (P := fun tr srv => gamesCreated tr < 2 ^ 32 →
    CountersOk srv ∧ srv.gamesIdUniq.toNat ≤ gamesCreated tr) h ?_ ?_ hcount
  · exact hboth.1
  · exact fun _ => ⟨fun k hk => absurd hk (AList.notMem_empty k), le_refl _⟩
  · intro tr a e b _ hstep ih hlt
    have hmono : gamesCreated tr ≤ gamesCreated (tr ++ [e]) := by simp [gamesCreated]
    obtain ⟨hok, hle⟩ := ih (lt_of_le_of_lt hmono hlt)
    exact hstep.countersOk hlt hok hle

/-- The registry of two games.  The first has two players in two worlds, each with an object, and a
third that is remembered after its socket was closed. -/
theorem registry_invariant_games : ∃ tr srv g, ServerRun 0 tr srv ∧
    srv.games.entries.length = 2 ∧ srv.games.lookup 1 = some g ∧ g.players.length = 2 ∧
      g.worlds.length = 2 ∧ g.vanjects.entries.length = 2 ∧ g.removedPlayers.length = 1 ∧
      RegistryOk srv ∧ CountersOk srv := by
  have hplay : (play (Server.new 0)
      [(Env.atTime 0, ask 7 .attachToGame [0, 0, 0, 0]),
        (Env.atTime 0, ask 8 .attachToGame [1, 0, 0, 0]),
        (Env.atTime 0, ask 9 .attachToGame [1, 0, 0, 0]),
        (Env.atTime 0, ask 6 .attachToGame [0, 0, 0, 0]),
        (Env.atTime 0, ask 7 .setWorld [0, 0, 8]), (Env.atTime 0, ask 8 .setWorld [1, 0, 8]),
        (Env.atTime 0, ask 9 .registerName [65, 0, 66, 0]),
        (Env.atTime 0, ask 9 .setPlayerData (List.replicate 25 0)),
        (Env.atTime 0, ask 7 .createObject [5, 0, 1, 4, 0, 0, 0, 0, 0, 0, 0, 0, 0, 0]),
        (Env.atTime 0, ask 8 .createObject [5, 0, 65, 8, 0, 0, 0, 0, 0, 0, 0, 0, 0, 0]),
        (Env.atTime 0, ask 9 .closeSocket [])]).bind (fun last => do
      let g ← last.1.games.lookup 1
      some (last.1.games.entries.length, gamesCreated last.2, g.players.length, g.worlds.length,
        g.vanjects.entries.length, g.removedPlayers.length)) = some (2, 2, 2, 2, 2, 1) := by
    decide +kernel
  obtain ⟨⟨srv, tr⟩, hlast, hplay⟩ := Option.bind_eq_some_iff.mp hplay
  simp only [Option.bind_eq_bind, Option.bind_eq_some_iff, Option.some.injEq, Prod.mk.injEq] at hplay
  obtain ⟨g, hk, hgames, hcreated, hplayers, hworlds, hobjects, hremoved⟩ := hplay
  have hrun : ServerRun 0 tr srv := play_run hlast
  exact ⟨tr, srv, g, hrun, hgames, hk, hplayers, hworlds, hobjects, hremoved,
    registry_invariant hrun (by rw [hcreated]; decide)⟩

end VangersSrv
