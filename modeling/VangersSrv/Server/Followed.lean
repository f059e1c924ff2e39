/-
Every player in a world is told of what it sees.

`Followed` compares the stores before and after an effect with the packets it sent: a
connection whose player stands in a world was told of every object in its sight that
changed.  Each effect is checked against every such player; the one exception is the
sender of a request about an object, which is told nothing of its own change.
-/
import VangersSrv.Server.Told

namespace VangersSrv

open Replica

/-- What happened in the sight of a player that stands in a world, its connection was told.
An owner also made changes it was not told about. -/
def Followed (owner : Prop) (x : ClientID) (srv : Server) (sent : List Sent) (srv' : Server) :
    Prop :=
  ∀ k g' p' w, InWorld srv' x k g' p' w → ∃ g p, InWorld srv x k g p w ∧ p.bindId = p'.bindId ∧
    Follows owner (InSight w) (storedView g.vanjects) (storedView g'.vanjects) (sentTo x sent)

section

variable {env : Env} {packet answer : Packet} {c x : ClientID} {srv srv' mid : Server}
  {sent s₁ s₂ : List Sent} {key : GameID} {game game' : Game} {owner : Prop} {id : I32}
  {v : Vanject} {vanjects : Vanjects} {realtime : Bool}

/-! ### The stores after a write -/

theorem storedView_insert :
    storedView (vanjects.insert id v) = (Write.put id v.entry).on (storedView vanjects) := by
  rw [Write.put_on]
  funext k
  simp only [storedView, AList.lookup_insert']
  split <;> rfl

theorem storedView_erase : storedView (vanjects.erase id) = (Write.drop id).on (storedView vanjects) := by
  rw [Write.drop_on]
  funext k
  simp only [storedView, AList.lookup_erase']
  split <;> rfl

theorem storedView_replace {old : Vanject} (h : vanjects.lookup id = some old) :
    storedView (vanjects.replace id v) = (Write.put id v.entry).on (storedView vanjects) := by
  rw [Write.put_on]
  funext k
  simp only [storedView, AList.lookup_replace, h]
  split <;> rfl

theorem storedView_perm {vanjects' : Vanjects} (h : vanjects'.entries.Perm vanjects.entries) :
    storedView vanjects' = storedView vanjects := by
  funext k
  rw [storedView, AList.perm_lookup h, storedView]

/-! ### Rules -/

theorem Followed.mono {owner' : Prop} (h : Followed owner x srv sent srv') (himp : owner → owner') :
    Followed owner' x srv sent srv' := by
  intro k g' p' w hin
  obtain ⟨g, p, hold, hbind, hf⟩ := h k g' p' w hin
  exact ⟨g, p, hold, hbind, hf.mono himp⟩

theorem Followed.trans (h : Followed False x srv s₁ mid) (h' : Followed owner x mid s₂ srv')
    (hquiet : owner → sentTo x s₁ = .skip) : Followed owner x srv (s₁ ++ s₂) srv' := by
  intro k g' p' w hin
  obtain ⟨g₁, p₁, hmid, hbind₁, hf'⟩ := h' k g' p' w hin
  obtain ⟨g, p, hold, hbind, hf⟩ := h k g₁ p₁ w hmid
  refine ⟨g, p, hold, hbind.trans hbind₁, ?_⟩
  rw [sentTo_append]
  exact hf.trans hf' hquiet

/-- Nothing was told and no store in sight changed. -/
theorem Followed.still (hskip : sentTo x sent = .skip)
    (hback : ∀ k g' p' w, InWorld srv' x k g' p' w → ∃ g p, InWorld srv x k g p w ∧
      p.bindId = p'.bindId ∧ storedView g'.vanjects = storedView g.vanjects) :
    Followed owner x srv sent srv' := by
  intro k g' p' w hin
  obtain ⟨g, p, hold, hbind, hview⟩ := hback k g' p' w hin
  refine ⟨g, p, hold, hbind, ?_⟩
  rw [hview, hskip]
  exact .refl fun _ _ => rfl

/-- One game is written back: who is not in it hears nothing of it. -/
theorem Followed.setGame (hone : OneHolder srv) (hlookup : srv.games.lookup key = some game)
    (hout : x ∉ game.clientIds → sentTo x sent = .skip)
    (hin : ∀ p' ∈ game'.players, ∀ w, p'.clientId = x → p'.worldId = some w →
      ∃ p ∈ game.players, p.clientId = x ∧ p.worldId = some w ∧ p.bindId = p'.bindId ∧
        Follows owner (InSight w) (storedView game.vanjects) (storedView game'.vanjects)
          (sentTo x sent)) :
    Followed owner x srv sent (srv.setGame key game') := by
  rintro k g' p' w ⟨hk, hmem, hclient, hworld⟩
  by_cases hkey : k = key
  · subst hkey
    rw [Server.lookup_setGame_self hlookup] at hk
    cases hk
    obtain ⟨p, hp, hc, hw, hb, hf⟩ := hin p' hmem w hclient hworld
    exact ⟨game, p, ⟨hlookup, hp, hc, hw⟩, hb, hf⟩
  · rw [Server.lookup_setGame_of_ne hkey] at hk
    have hskip : sentTo x sent = .skip := hout fun hx =>
      hone.apart k key g' game hk hlookup hkey
        (List.mem_map.mpr ⟨p', hmem, hclient⟩) hx
    refine ⟨g', p', ⟨hk, hmem, hclient, hworld⟩, rfl, ?_⟩
    rw [hskip]
    exact .refl fun _ _ => rfl

/-- One game is written back with its store as it was, and nothing is told. -/
theorem Followed.setGame_same (hlookup : srv.games.lookup key = some game)
    (hskip : sentTo x sent = .skip) (hview : storedView game'.vanjects = storedView game.vanjects)
    (hin : ∀ p' ∈ game'.players, ∀ w, p'.clientId = x → p'.worldId = some w →
      ∃ p ∈ game.players, p.clientId = x ∧ p.worldId = some w ∧ p.bindId = p'.bindId) :
    Followed owner x srv sent (srv.setGame key game') := by
  refine .still hskip ?_
  rintro k g' p' w ⟨hk, hmem, hclient, hworld⟩
  by_cases hkey : k = key
  · subst hkey
    rw [Server.lookup_setGame_self hlookup] at hk
    cases hk
    obtain ⟨p, hp, hc, hw, hb⟩ := hin p' hmem w hclient hworld
    exact ⟨game, p, ⟨hlookup, hp, hc, hw⟩, hb, hview⟩
  · rw [Server.lookup_setGame_of_ne hkey] at hk
    exact ⟨g', p', ⟨hk, hmem, hclient, hworld⟩, rfl, rfl⟩

/-- A change of one object is told to all that see it but its sender. -/
theorem Followed.objectChange {told : Server} {found : Game} (hone : OneHolder srv)
    (hx : x ∈ told.connected) (hlookup : srv.games.lookup key = some game)
    (hfound : told.getGameByClientid c = some (key, found)) (hplayers : found.players = game.players)
    (hon : storedView vanjects = answer.write.on (storedView game.vanjects))
    (hsight : ∀ w k, InSight w k → answer.write k ≠ none → InSight w id) :
    Followed (x = c) x srv (told.notifyObject c id answer realtime)
      (srv.setGame key { game with vanjects }) := by
  obtain ⟨hor, hskip, htold⟩ := sentTo_notifyObject x id answer realtime hfound
  have hids : found.clientIds = game.clientIds := by
    unfold Game.clientIds
    rw [hplayers]
  refine .setGame hone hlookup (fun hx' => hskip (Or.inr (by rw [hids]; exact hx'))) ?_
  intro p hp w hclient hworld
  refine ⟨p, hp, hclient, hworld, rfl, ?_⟩
  by_cases hself : x = c
  · intro k _
    rw [hskip (Or.inl hself)]
    exact Or.inr ⟨rfl, Or.inl hself⟩
  · refine .told hon hor fun k hk hw => ?_
    exact htold p (by rw [hplayers]; exact hp) hclient hself hx w hworld (hsight w k hk hw)

/-- What a single write touches is in sight when its object is. -/
theorem inSight_of_put {e : Bytes} {w : UInt8} {k : I32} (hk : InSight w k)
    (h : Write.put id e k ≠ none) : InSight w id := by
  simp only [Write.put] at h
  split at h
  · rename_i heq
    rw [← heq]
    exact hk
  · exact absurd rfl h

theorem inSight_of_drop {w : UInt8} {k : I32} (hk : InSight w k)
    (h : (Write.drop id : Write I32 Bytes) k ≠ none) : InSight w id := by
  simp only [Write.drop] at h
  split at h
  · rename_i heq
    rw [← heq]
    exact hk
  · exact absurd rfl h

theorem Followed.put {told : Server} {found : Game} (hone : OneHolder srv)
    (hx : x ∈ told.connected) (hlookup : srv.games.lookup key = some game)
    (hfound : told.getGameByClientid c = some (key, found)) (hplayers : found.players = game.players)
    (hwrite : answer.write = .put id v.entry)
    (hstored : storedView vanjects = (Write.put id v.entry).on (storedView game.vanjects)) :
    Followed (x = c) x srv (told.notifyObject c id answer realtime)
      (srv.setGame key { game with vanjects }) := by
  refine .objectChange hone hx hlookup hfound hplayers (by rw [hwrite, hstored]) ?_
  intro w k hk ht
  rw [hwrite] at ht
  exact inSight_of_put hk ht

theorem Followed.drop {told : Server} {found : Game} (hone : OneHolder srv)
    (hx : x ∈ told.connected) (hlookup : srv.games.lookup key = some game)
    (hfound : told.getGameByClientid c = some (key, found)) (hplayers : found.players = game.players)
    (hwrite : answer.write = .drop id) :
    Followed (x = c) x srv (told.notifyObject c id answer realtime)
      (srv.setGame key { game with vanjects := game.vanjects.erase id }) := by
  refine .objectChange hone hx hlookup hfound hplayers (by rw [hwrite, storedView_erase]) ?_
  intro w k hk ht
  rw [hwrite] at ht
  exact inSight_of_drop hk ht

/-! ### Effects -/

/-- Where a player stood before its connection's player was written to. -/
theorem back_of_modifyPlayer {f : Player → Player}
    (hsame : ∀ p, game.getPlayer c = some p →
      (f p).clientId = p.clientId ∧ (f p).bindId = p.bindId ∧ (x = c → (f p).worldId = p.worldId)) :
    ∀ p' ∈ (game.modifyPlayer c f).players, ∀ w, p'.clientId = x → p'.worldId = some w →
      ∃ p ∈ game.players, p.clientId = x ∧ p.worldId = some w ∧ p.bindId = p'.bindId := by
  intro p' hp' w hclient hworld
  rcases List.mem_modifyFirst hp' with hold | ⟨p, hp, rfl⟩
  · exact ⟨p', hold, hclient, hworld, rfl⟩
  · obtain ⟨hc, hb, hw⟩ := hsame p hp
    rw [hc] at hclient
    have hself : x = c := hclient.symm.trans (Game.getPlayer_clientId hp)
    exact ⟨p, Game.getPlayer_mem hp, hclient, by rw [← hw hself]; exact hworld, hb.symm⟩

/-- What the delete packets of a leaving player do. -/
theorem storedView_left {bind : UInt8} {deletes : List (I32 × Packet)}
    (h : leaveDeletes game.vanjects bind = some deletes) (k : I32) :
    storedView (game.left c bind).vanjects k
      = if k ∈ deletes.map Prod.fst then none else storedView game.vanjects k := by
  have hkeys : k ∈ deletes.map Prod.fst ↔ ∃ v, game.vanjects.lookup k = some v ∧
      shouldDeleteOnLeaveWorld v bind = true := mem_leaveDeletes h
  simp only [storedView, Game.left, AList.lookup_retain]
  cases hv : game.vanjects.lookup k with
  | none => simp
  | some v =>
      by_cases hgone : shouldDeleteOnLeaveWorld v bind = true
      · rw [if_pos (hkeys.mpr ⟨v, hv, hgone⟩)]
        simp [hgone]
      · rw [if_neg]
        · simp [hgone]
        · intro hmem
          obtain ⟨v', hv', hgone'⟩ := hkeys.mp hmem
          rw [hv] at hv'
          cases hv'
          exact hgone hgone'

theorem Prelude.followed (h : Prelude env packet c srv sent srv') (hone : OneHolder srv)
    (hx : x ∈ srv.connected) : Followed False x srv sent srv' := by
  have hone' := hone.prelude h
  cases h with
  | @playerChanged _ key game player player' hgame hplayer hclient hbind hworld _ hquiet =>
      refine .setGame_same (Server.getGameByClientid_lookup hgame) (sentTo_quiet hquiet) rfl ?_
      refine back_of_modifyPlayer fun p hp => ?_
      obtain rfl := Option.some.inj (hplayer.symm.trans hp)
      exact ⟨hclient, by simp [Player.bindId, hbind], fun _ => by simp [Player.worldId, hworld]⟩
  | @left key game player bind world deletes playersWorld _ _ hacting _ hdeletes hquiet =>
      have hlookup := Server.getGameByClientid_lookup hacting.inGame
      have hfound := Game.getPlayer_modifyPlayer (f := fun p => { p with world := none })
        hacting.found rfl
      have hgame' : (srv.setGame key (game.left c bind)).getGameByClientid c
          = some (key, game.left c bind) :=
        Server.getGameByClientid_setGame hacting.inGame ⟨_, hfound⟩
      have hids : (game.left c bind).clientIds = game.clientIds :=
        List.map_modifyFirst fun _ _ => rfl
      by_cases hself : x = c
      · -- the player that left stands in no world
        rintro k g' p' w ⟨hk, hmem, hclient, hworld⟩
        have hleft : (game.left c bind).getPlayer c = some { player with world := none } := hfound
        obtain ⟨-, -, rfl⟩ := hone'.unique hk hmem (Server.lookup_setGame_self hlookup)
          (Game.getPlayer_mem hleft) (by rw [hclient, hself, Game.getPlayer_clientId hleft])
        simp [Player.worldId] at hworld
      -- every packet is about one object that went
      have hsent : sentTo x ((env.drain deletes).flatMap (fun e =>
            (srv.setGame key (game.left c bind)).notifyGame c e.2)
          ++ (srv.setGame key (game.left c bind)).notifyGame c playersWorld)
          = Write.all ((env.drain deletes).map fun e =>
              if x ∈ game.clientIds then Write.drop e.1 else Write.skip) := by
        have hlast : sentTo x ((srv.setGame key (game.left c bind)).notifyGame c playersWorld)
            = .skip := sentTo_quiet (quiet_notify hquiet)
        rw [sentTo_append, hlast, Write.andThen_skip, sentTo_flatMap]
        congr 1
        refine List.map_congr_left fun e he => ?_
        rw [Server.notifyGame, sentTo_notify hgame', hids,
          write_leaveDeletes hdeletes ((env.drain_perm deletes).mem_iff.mp he)]
        exact if_congr ⟨fun hx' => hx'.1.1, fun hx' => ⟨⟨hx', by simpa using hself⟩, hx⟩⟩ rfl rfl
      have hkeys : ∀ k, k ∈ deletes.map Prod.fst ↔ ∃ e ∈ env.drain deletes, e.1 = k := by
        intro k
        simp only [List.mem_map, (env.drain_perm deletes).mem_iff]
      refine .setGame hone hlookup ?_ ?_
      · intro hout
        rw [hsent]
        refine Write.all_eq_skip fun w hw => ?_
        obtain ⟨e, -, rfl⟩ := List.mem_map.mp hw
        exact if_neg hout
      · intro p' hp' w hclient hworld
        obtain ⟨p, hp, hc, hw, hb⟩ := back_of_modifyPlayer
          (f := fun p => { p with world := none }) (fun q _ => ⟨rfl, rfl, fun h => absurd h hself⟩)
          p' hp' w hclient hworld
        refine ⟨p, hp, hc, hw, hb, fun k _ => ?_⟩
        rw [hsent]
        have hin : x ∈ game.clientIds := List.mem_map.mpr ⟨p, hp, hc⟩
        simp only [if_pos hin]
        rw [storedView_left hdeletes]
        by_cases hgone : k ∈ deletes.map Prod.fst
        · left
          rw [if_pos hgone]
          obtain ⟨e, he, rfl⟩ := (hkeys k).mp hgone
          refine Write.all_eq_some ?_ ⟨_, List.mem_map_of_mem he, by simp [Write.drop]⟩
          intro w hw
          obtain ⟨e', -, rfl⟩ := List.mem_map.mp hw
          by_cases hsame : e.1 = e'.1 <;> simp [Write.drop, hsame]
        · right
          rw [if_neg hgone]
          refine ⟨Write.all_eq_none fun w hw => ?_, Or.inr rfl⟩
          obtain ⟨e, he, rfl⟩ := List.mem_map.mp hw
          have hne : k ≠ e.1 := fun heq => hgone ((hkeys k).mpr ⟨e, he, heq.symm⟩)
          simp [Write.drop, hne]

/-- A VANGER that is created has a whole body. -/
def WholeVanger (packet : Packet) : Prop :=
  packet.action = .createObject →
    ∀ v ∈ (Vanject.createFromSlice packet.data).bind Except.toOption,
      v.getType = NID.vanger → Body.getBaseStructSize ≤ v.body.length

instance (packet : Packet) : Decidable (WholeVanger packet) := by
  unfold WholeVanger
  infer_instance

/-- A requested game is one the server has, or a new one without players. -/
theorem requestedGame_lookup {requested : I32} {k : GameID} {g : Game}
    (h : (srv.requestedGame env requested).1.games.lookup k = some g) :
    srv.games.lookup k = some g ∨ g.players = [] := by
  by_cases h0 : requested = 0
  · subst h0
    by_cases hin : srv.gamesIdUniq + 1 ∈ srv.games
    · rw [Server.requestedGame_taken hin] at h
      exact Or.inl h
    · rw [Server.requestedGame_fresh hin] at h
      simp only [AList.lookup_insert'] at h
      split at h
      · cases h
        exact Or.inr rfl
      · exact Or.inl h
  · rw [Server.requestedGame_of_ne h0] at h
    exact Or.inl h

/-- The player that joins stands in no world. -/
theorem Followed.attached {requested : I32} {found : Game} {bind : Bind}
    (hone' : OneHolder ((srv.requestedGame env requested).1.setGame
      (srv.requestedGame env requested).2 (found.joined c bind)))
    (hfound : (srv.requestedGame env requested).1.games.lookup
      (srv.requestedGame env requested).2 = some found)
    (hclient : ∀ s ∈ sent, s.client = c) :
    Followed owner x srv sent ((srv.requestedGame env requested).1.setGame
      (srv.requestedGame env requested).2 (found.joined c bind)) := by
  rintro k g' p' w ⟨hk, hmem, hpx, hworld⟩
  have hnew : { Player.new c with bind := some bind } ∈ (found.joined c bind).players :=
    List.mem_append_right _ List.mem_cons_self
  by_cases hself : x = c
  · obtain ⟨-, -, rfl⟩ := hone'.unique hk hmem (Server.lookup_setGame_self hfound) hnew
      (by rw [hpx, hself]; rfl)
    simp [Player.worldId, Player.new] at hworld
  have hskip : sentTo x sent = .skip :=
    sentTo_of_forall_ne fun s hs => by rw [hclient s hs]; exact Ne.symm hself
  -- a player in a world was there before, and so was its game
  have hold : ∃ g, srv.games.lookup k = some g ∧ p' ∈ g.players ∧ g'.vanjects = g.vanjects := by
    rw [Server.lookup_setGame hfound] at hk
    split at hk
    · rename_i hkey
      cases hk
      rcases List.mem_append.mp hmem with hp | hp
      · refine ⟨found, ?_, hp, rfl⟩
        rw [hkey]
        exact (requestedGame_lookup hfound).resolve_right (List.ne_nil_of_mem hp)
      · rw [List.mem_singleton.mp hp] at hworld
        simp [Player.worldId, Player.new] at hworld
    · exact ⟨g', (requestedGame_lookup hk).resolve_right (List.ne_nil_of_mem hmem), hmem, rfl⟩
  obtain ⟨g, hg, hp, hvan⟩ := hold
  refine ⟨g, p', ⟨hg, hp, hpx, hworld⟩, rfl, ?_⟩
  rw [hskip, hvan]
  exact .refl fun _ _ => rfl

/-- A connection with a player takes over no other. -/
theorem restored_self {gameId k : GameID} {g : Game} {p player : Player} {playerId w : UInt8}
    (hok : RegistryOk srv) (hone' : OneHolder (srv.setGame gameId (game.restored c playerId)))
    (hlookup : srv.games.lookup gameId = some game)
    (hfind : game.players.find? (fun p => p.bindId = some playerId) = some player)
    (hin : InWorld srv c k g p w) : player.clientId = c := by
  obtain ⟨l₁, l₂, hsplit, -, hbind, hmod⟩ := List.modifyFirst_split
    (f := fun p => { p with clientId := c, disconnectedUntil := none }) hfind
  have hplayers : (game.restored c playerId).players
      = l₁ ++ { player with clientId := c, disconnectedUntil := none } :: l₂ := hmod
  have htaken : { player with clientId := c, disconnectedUntil := none }
      ∈ (game.restored c playerId).players := by
    rw [hplayers]
    exact List.mem_append_right _ List.mem_cons_self
  have hgame' : (srv.setGame gameId (game.restored c playerId)).games.lookup gameId
      = some (game.restored c playerId) := Server.lookup_setGame_self hlookup
  by_cases hkey : k = gameId
  · subst hkey
    obtain ⟨hg, hp, hclient, -⟩ := hin
    rw [hlookup] at hg
    cases hg
    by_contra hne
    have hother : p ∈ (game.restored c playerId).players := by
      rw [hplayers]
      rw [hsplit, List.mem_append, List.mem_cons] at hp
      rcases hp with hp | rfl | hp
      · exact List.mem_append_left _ hp
      · exact absurd hclient hne
      · exact List.mem_append_right _ (List.mem_cons_of_mem _ hp)
    obtain ⟨-, -, hsame⟩ := hone'.unique hgame' hother hgame' htaken hclient
    -- the two have one number, so they were one player before
    have hbinds : p.bindId = player.bindId := by
      rw [hsame]
      rfl
    have hp' := List.inj_on_of_nodup_map (hok.game _ _ hlookup).distinct hp
      (List.mem_of_find?_eq_some hfind) hbinds
    rw [← hp'] at hne
    exact hne hclient
  · have hthere : (srv.setGame gameId (game.restored c playerId)).games.lookup k = some g :=
      (Server.lookup_setGame_of_ne hkey).trans hin.inGame
    exact absurd (hone'.unique hthere hin.mem hgame' htaken hin.client).1 hkey

/-- The connection that takes a player over was that player's, or it had none in a world. -/
theorem Followed.restored {gameId : GameID} {player : Player} {playerId : UInt8}
    (hok : RegistryOk srv) (hone' : OneHolder srv') (hlookup : srv.games.lookup gameId = some game)
    (hfind : game.players.find? (fun p => p.bindId = some playerId) = some player)
    (hgames : srv'.games = (srv.setGame gameId (game.restored c playerId)).games)
    (hin : ∃ k g p w, InWorld srv x k g p w) : Followed owner x srv [] srv' := by
  have hself : x = c → player.clientId = c := by
    rintro rfl
    obtain ⟨k, g, p, w, hp⟩ := hin
    refine restored_self hok ⟨?_, ?_⟩ hlookup hfind hp
    · rw [← hgames]
      exact hone'.inGame
    · rw [← hgames]
      exact hone'.apart
  have hset : Followed owner x srv [] (srv.setGame gameId (game.restored c playerId)) := by
    refine .setGame_same hlookup rfl rfl fun p' hp' w hc hw => ?_
    rcases List.mem_modifyFirst hp' with hold | ⟨p, hp, rfl⟩
    · exact ⟨p', hold, hc, hw, rfl⟩
    · obtain rfl := Option.some.inj (hfind.symm.trans hp)
      have hxc : x = c := hc.symm
      exact ⟨player, List.mem_of_find?_eq_some hfind, by rw [hself hxc, hxc], hw, rfl⟩
  rintro k g' p' w ⟨hk, hp, hc, hw⟩
  exact hset k g' p' w ⟨by rw [← hgames]; exact hk, hp, hc, hw⟩

/-- The answer to a duplicate create is read from the sender's own game. -/
theorem Followed.replayed {existing : Vanject} {packets : List Packet} (hok : RegistryOk srv)
    (hone : OneHolder srv) (hgame : srv.getGameByClientid c = some (key, game))
    (hlookup : game.vanjects.lookup id = some existing)
    (hpackets : replayPackets existing = some packets) (hx : x ∈ srv.connected) :
    Followed owner x srv (packets.flatMap (srv.notifyPlayer c)) srv := by
  by_cases hself : x = c
  · subst hself
    intro k g p w hp
    have hg := (hone.actsOnHolder k g p hp.inGame hp.mem).1
    rw [hp.client, hgame] at hg
    simp only [Option.some.injEq, Prod.mk.injEq] at hg
    obtain ⟨rfl, rfl⟩ := hg
    have hid := ((hok.game _ _ hp.inGame).keyed _ _ hlookup).1
    refine ⟨game, p, hp, rfl, .replay fun j y hy => ?_⟩
    rw [sentTo_flatMap] at hy
    obtain ⟨write, hwrite, hy⟩ := Write.exists_of_all hy
    obtain ⟨q, hq, rfl⟩ := List.mem_map.mp hwrite
    rw [sentTo_notifyPlayer hgame hx, if_pos rfl] at hy
    rcases write_replayPackets hpackets hq with hput | hskip
    · rw [hput, Write.put, hid] at hy
      split at hy
      · rename_i hj
        rw [← Option.some.inj hy, hj, storedView, hlookup]
        rfl
      · cases hy
    · rw [hskip] at hy
      cases hy
  · refine .still (sentTo_of_forall_ne fun s hs => ?_) fun k g p w hp => ⟨g, p, hp, rfl, rfl⟩
    obtain ⟨q, -, hs⟩ := List.mem_flatMap.mp hs
    rw [Server.notifyPlayer_client hs]
    exact Ne.symm hself

/-- Both forms of an item lie in a world. -/
theorem transfer_local {t : ItemTransfer} (h : t.validate = .ok ()) :
    isNonGlobalVanject t.oldId = true ∧ isNonGlobalVanject t.newVanject.id = true := by
  obtain ⟨hkinds, -⟩ := ItemTransfer.validate_ok h
  rcases hkinds with ⟨-, hold, hnew⟩ | ⟨-, hold, hnew⟩ <;>
    rw [isNonGlobalVanject_of_type hold, isNonGlobalVanject_of_type hnew] <;> decide

theorem Effect.followed (h : Effect env packet c srv sent srv') (hok : RegistryOk srv)
    (hone : OneHolder srv) (hone' : OneHolder srv') (hwhole : WholeVanger packet)
    (hx : x ∈ srv'.connected)
    (hin : packet.action = .restoreConnection → ∃ k g p w, InWorld srv x k g p w)
    (hno : x = c → packet.action = .setWorld → ¬ SentSnapshot x sent) :
    Followed (x = c ∧ packet.action ∈ objectActions) x srv sent srv' := by
  have hx₀ : x ∈ srv.connected := h.clients.sub x hx
  have hobject : ∀ {s : List Sent} {last : Server}, packet.action ∈ objectActions →
      Followed (x = c) x srv s last → Followed (x = c ∧ packet.action ∈ objectActions) x srv s last :=
    fun ha hf => hf.mono fun hself => ⟨hself, ha⟩
  have hsame : ∀ {g g' : Game}, g'.players = g.players → ∀ p' ∈ g'.players, ∀ w,
      p'.clientId = x → p'.worldId = some w →
        ∃ p ∈ g.players, p.clientId = x ∧ p.worldId = some w ∧ p.bindId = p'.bindId :=
    fun hplayers p' hp w hc hw => ⟨p', by rw [← hplayers]; exact hp, hc, hw, rfl⟩
  cases h with
  | prelude h => exact (h.followed hone hx₀).mono False.elim
  | quiet hquiet => exact .still (sentTo_quiet hquiet) fun k g p w hp => ⟨g, p, hp, rfl, rfl⟩
  | gameChanged hgame =>
      exact .setGame_same (Server.getGameByClientid_lookup hgame) rfl rfl (hsame rfl)
  | counted _ _ _ =>
      exact .still rfl fun k g p w ⟨hk, hp, hc, hw⟩ => ⟨g, p, ⟨hk, hp, hc, hw⟩, rfl, rfl⟩
  | attached _ _ hfound _ hclient => exact .attached hone' hfound hclient
  | restored haction _ hlookup hfind hsrv =>
      refine .restored (c := c) hok hone' hlookup hfind ?_ (hin haction)
      rw [hsrv]
      split <;> rfl
  | replayed hgame hlookup hpackets => exact .replayed hok hone hgame hlookup hpackets hx₀
  | @created _ key game player bind v haction hacting hparse hnew _ hsent =>
      have hlookup := Server.getGameByClientid_lookup hacting.inGame
      rcases hsent with ⟨answer, hanswer, rfl⟩ | ⟨htype, hshort, -⟩
      · have hwrite := write_statePacket hanswer
        exact hobject (by simp [haction, objectActions])
          (.put hone hx₀ hlookup hacting.inGame rfl hwrite storedView_insert)
      · exact absurd (hwhole haction v (by rw [hparse]; rfl) htype) (not_le.mpr hshort)
  | @updated key game player bind id old new answer _ haction hacting _ hold _ hparse hanswer =>
      have hlookup := Server.getGameByClientid_lookup hacting.inGame
      have hid : new.id = id := by
        rw [(Vanject.updateFromSlice_ok hparse).2.1]
        exact ((hok.game _ _ hlookup).keyed _ _ hold).1
      have hwrite := write_statePacket hanswer
      exact hobject (by simp [haction, objectActions])
        (.put hone hx₀ hlookup (hacting.withVanjects _) rfl hwrite
          (by rw [← hid] at hold ⊢; exact storedView_replace hold))
  | @deleted key game player bind id v answer haction hacting hold _ hanswer =>
      have hlookup := Server.getGameByClientid_lookup hacting.inGame
      have hwrite : answer.write = .drop id := by
        rcases hanswer with ⟨-, hanswer⟩ | hanswer
        · rw [write_itemRemoved hanswer, ((hok.game _ _ hlookup).keyed _ _ hold).1]
        · exact write_deletePacket hanswer
      exact hobject (by simp [haction, objectActions])
        (.drop hone hx₀ hlookup (hacting.withVanjects _) rfl hwrite)
  | @deleteMissed key game player bind id answer haction hacting hmissing hanswer =>
      have hlookup := Server.getGameByClientid_lookup hacting.inGame
      have hsame : { game with vanjects := game.vanjects.erase id } = game := by
        rw [AList.erase_of_notMem (AList.lookup_eq_none.mp hmissing)]
      have hdrop : Followed (x = c) x srv ((srv.setGame key game).notifyObject c id answer)
          (srv.setGame key { game with vanjects := game.vanjects.erase id }) :=
        .drop hone hx₀ hlookup (hacting.withVanjects game.vanjects) rfl (write_deletePacket hanswer)
      rw [hsame] at hdrop
      exact hobject (by simp [haction, objectActions]) hdrop
  | @transferred key game player bind world t old answer haction hacting _ _ hvalid _ hanswer =>
      have hlookup := Server.getGameByClientid_lookup hacting.inGame
      obtain ⟨hold, hnew⟩ := transfer_local hvalid
      have hzero : t.oldId ≠ 0 := by
        intro h0
        rw [h0] at hold
        exact absurd hold (by decide)
      have hwrite := write_itemState hanswer
      rw [if_neg hzero] at hwrite
      refine hobject (by simp [haction, objectActions]) ?_
      rw [← Server.notifyObject_local hnew]
      refine .objectChange hone hx₀ hlookup (hacting.withVanjects _) rfl ?_ ?_
      · rw [hwrite, storedView_insert, storedView_erase, Write.andThen_on]
      · intro w k hk ht
        rw [hwrite] at ht
        by_cases hput : Write.put t.newVanject.id
            ({ t.newVanject with playerBindId := bind } : Vanject).entry k = none
        · have hdrop : (Write.drop t.oldId : Write I32 Bytes) k ≠ none := by
            intro hnone
            simp [Write.andThen, hput, hnone] at ht
          -- the old id lies in the same world
          have hworld := (inSight_of_drop hk hdrop).resolve_right (by simp [hold])
          refine Or.inl ?_
          rw [← hworld, worldOf, worldOf, (ItemTransfer.validate_ok hvalid).2.1.2.1]
        · exact inSight_of_put hk hput
  | worldMade hgame _ _ _ =>
      exact .setGame_same (Server.getGameByClientid_lookup hgame) rfl rfl (hsame rfl)
  | @entered key game player bind worlds world pre response snapshotBegin playersSnapshot
      snapshotEnd snapshot haction _ hacting _ _ hpre _ hbegin _ _ =>
      have hlookup := Server.getGameByClientid_lookup hacting.inGame
      by_cases hself : x = c
      · -- the sender is sent a snapshot
        subst hself
        have hgame' : (srv.setGame key (game.entered x worlds world)).getGameByClientid x
            = some (key, game.entered x worlds world) :=
          Server.getGameByClientid_setGame hacting.inGame
            ⟨_, Game.getPlayer_modifyPlayer hacting.found rfl⟩
        refine absurd ⟨snapshotBegin, mem_packetsTo.mpr
          ⟨⟨x, snapshotBegin, false⟩, ?_, rfl, rfl⟩, hbegin⟩ (hno rfl haction)
        refine List.mem_append_right _ (List.mem_flatMap.mpr ⟨snapshotBegin, by simp, ?_⟩)
        exact mem_notifyPlayer hgame' hx
      · refine .setGame_same hlookup ?_ rfl
          (back_of_modifyPlayer fun p _ => ⟨rfl, rfl, fun h => absurd h hself⟩)
        rw [sentTo_append, sentTo_quiet hpre, Write.skip_andThen]
        refine sentTo_of_forall_ne fun s hs => ?_
        obtain ⟨q, -, hs⟩ := List.mem_flatMap.mp hs
        rw [Server.notifyPlayer_client hs]
        exact Ne.symm hself
  | closed _ hacting _ hquiet =>
      refine .setGame_same (Server.getGameByClientid_lookup hacting.inGame) (sentTo_quiet hquiet)
        rfl fun p' hp' w hc hw => ⟨p', (List.mem_filter.mp hp').1, hc, hw, rfl⟩
  | @closedLast _ key game player _ _ hacting _ hquiet =>
      have hlookup := Server.getGameByClientid_lookup hacting.inGame
      refine .still (sentTo_quiet hquiet) ?_
      rintro k g p w ⟨hk, hp, hc, hw⟩
      replace hk : ((srv.games.replace key _).erase game.id).lookup k = some g := hk
      rw [hok.keyed key game hlookup, AList.lookup_erase'] at hk
      split at hk
      · cases hk
      · rename_i hkey
        rw [AList.lookup_replace_of_ne _ hkey] at hk
        exact ⟨g, p, ⟨hk, hp, hc, hw⟩, rfl, rfl⟩

end

end VangersSrv
