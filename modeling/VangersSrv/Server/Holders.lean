/-
Who holds a client id.

Every lookup of the server takes the first player that carries a client id.  That is the
player of the connection as long as no two players carry the same id, and no handler
checks it: `attach_to_game` makes a player for a connection that may have one already, and
`restore_connection` hands a player over to such a connection.  Where neither happens, the
holders stay distinct.
-/
import VangersSrv.Server.Registry

namespace VangersSrv

/-- The client ids of a game's players. -/
def Game.clientIds (g : Game) : List ClientID := g.players.map Player.clientId

namespace Game

variable {g : Game} {c : ClientID} {p : Player}

theorem clientIds_modifyPlayer {f : Player → Player}
    (hf : ∀ p, g.getPlayer c = some p → (f p).clientId = p.clientId) :
    (g.modifyPlayer c f).clientIds = g.clientIds :=
  List.map_modifyFirst hf

theorem clientIds_withVanjects (g : Game) (vanjects : Vanjects) :
    ({ g with vanjects } : Game).clientIds = g.clientIds := rfl

theorem exists_getPlayer (h : c ∈ g.clientIds) : ∃ p, g.getPlayer c = some p := by
  obtain ⟨p, hp, hc⟩ := List.mem_map.mp h
  exact Option.isSome_iff_exists.mp (Game.getPlayer_isSome.mpr ⟨p, hp, hc⟩)

theorem mem_clientIds (h : g.getPlayer c = some p) : c ∈ g.clientIds :=
  List.mem_map.mpr ⟨p, Game.getPlayer_mem h, Game.getPlayer_clientId h⟩

end Game

/-- The client ids of all players of all games. -/
def Server.holders (srv : Server) : List ClientID :=
  srv.games.values.flatMap Game.clientIds

/-- Every lookup by a player's client id finds that player. -/
def ActsOnHolder (srv : Server) : Prop :=
  ∀ k g p, srv.games.lookup k = some g → p ∈ g.players →
    srv.getGameByClientid p.clientId = some (k, g) ∧ g.getPlayer p.clientId = some p

/-! ### Inputs that keep the holders distinct -/

/-- The game an attach request names has a free number; a game that is yet to be made has. -/
def Server.AcceptsAttach (srv : Server) (requested : I32) : Prop :=
  if requested = 0 then
    ∀ g, srv.games.lookup (srv.gamesIdUniq + 1) = some g → g.getUniqPlayerId.isSome = true
  else ∃ g, srv.games.lookup requested = some g ∧ g.getUniqPlayerId.isSome = true

/-- A request that would give its sender a player comes from a sender without another. -/
structure SoleHolder (srv : Server) (packet : Packet) (c : ClientID) : Prop where
  /-- An attach that is accepted. -/
  attach : packet.action = .attachToGame →
    ∀ requested, sliceLeToI32 packet.data = some requested → srv.AcceptsAttach requested →
      ∀ k g, srv.games.lookup k = some g → c ∉ g.clientIds
  /-- A restore that finds its player. -/
  restore : packet.action = .restoreConnection →
    ∀ gameId playerId game player, packet.data = toLeBytes32 gameId ++ [playerId] →
      srv.games.lookup gameId = some game →
      game.players.find? (fun p => p.bindId = some playerId) = some player →
      ∀ k g p, srv.games.lookup k = some g → p ∈ g.players → p.clientId = c →
        k = gameId ∧ p.bindId = some playerId

/-- Other requests give nobody a player. -/
theorem SoleHolder.of_action {srv : Server} {packet : Packet} {c : ClientID}
    (haction : packet.action ∉ [Action.attachToGame, .restoreConnection]) :
    SoleHolder srv packet c := by
  constructor
  · intro ha
    simp [ha] at haction
  · intro ha
    simp [ha] at haction

/-- An input whose request, if it is one, comes from such a sender. -/
def SoleHolderInput (srv : Server) : Input → Prop
  | .message c (.updated packet) => SoleHolder srv packet c
  | _ => True

/-! ### Distinct holders -/

/-- No client id twice, neither in one game nor in two. -/
structure OneHolder (srv : Server) : Prop where
  inGame : ∀ k g, srv.games.lookup k = some g → g.clientIds.Nodup
  apart : ∀ k k' g g', srv.games.lookup k = some g → srv.games.lookup k' = some g' → k ≠ k' →
    g.clientIds.Disjoint g'.clientIds

namespace OneHolder

variable {env : Env} {packet : Packet} {c : ClientID} {srv srv' : Server} {sent : List Sent}
  {key : GameID} {game game' : Game}

theorem nodup_holders (h : OneHolder srv) : srv.holders.Nodup := by
  unfold Server.holders AList.values
  rw [List.nodup_flatMap]
  constructor
  · intro g hg
    obtain ⟨e, he, rfl⟩ := List.mem_map.mp hg
    exact h.inGame e.1 e.2 (AList.mem_entries_iff.mp he)
  · rw [List.pairwise_map]
    have hkeys := List.nodupKeys_iff_pairwise.mp srv.games.nodupKeys
    refine hkeys.imp_of_mem ?_
    intro e e' he he' hne
    exact h.apart e.1 e'.1 e.2 e'.2 (AList.mem_entries_iff.mp he) (AList.mem_entries_iff.mp he') hne

theorem of_nodup (h : srv.holders.Nodup) : OneHolder srv := by
  unfold Server.holders AList.values at h
  rw [List.nodup_flatMap, List.pairwise_map] at h
  obtain ⟨hnodup, happart⟩ := h
  constructor
  · intro k g hk
    exact hnodup g (List.mem_map.mpr ⟨⟨k, g⟩, AList.mem_entries_iff.mpr hk, rfl⟩)
  · intro k k' g g' hk hk' hne
    have hsymm : Std.Symm fun e e' : Sigma fun _ : GameID => Game =>
        Function.onFun List.Disjoint Game.clientIds e.2 e'.2 := 
      ⟨fun _ _ hd => List.disjoint_comm.mp hd⟩
    have hmem : (⟨k, g⟩ : Sigma fun _ : GameID => Game) ∈ srv.games.entries :=
      AList.mem_entries_iff.mpr hk
    have hmem' : (⟨k', g'⟩ : Sigma fun _ : GameID => Game) ∈ srv.games.entries :=
      AList.mem_entries_iff.mpr hk'
    exact happart.forall hmem hmem' fun heq => hne (congrArg Sigma.fst heq)

theorem actsOnHolder (h : OneHolder srv) : ActsOnHolder srv := by
  intro k g p hk hp
  have hmem : p.clientId ∈ g.clientIds := List.mem_map_of_mem hp
  have hfound : ∀ q, g.getPlayer p.clientId = some q → q = p := by
    intro q hq
    exact List.inj_on_of_nodup_map (h.inGame k g hk) (Game.getPlayer_mem hq) hp
      (Game.getPlayer_clientId hq)
  constructor
  · cases hgame : srv.getGameByClientid p.clientId with
    | none => exact absurd rfl (Server.getGameByClientid_eq_none.mp hgame k g hk p hp)
    | some e =>
        obtain ⟨k', g'⟩ := e
        have hk' := Server.getGameByClientid_lookup hgame
        obtain ⟨q, hq⟩ := Server.getGameByClientid_getPlayer hgame
        have hkey : k' = k := by
          by_contra hne
          refine h.apart k' k g' g hk' hk hne ?_ hmem
          exact Game.mem_clientIds hq
        subst hkey
        rw [hk] at hk'
        cases hk'
        rfl
  · obtain ⟨q, hq⟩ := Option.isSome_iff_exists.mp (Game.getPlayer_isSome.mpr ⟨p, hp, rfl⟩)
    rw [hq, hfound q hq]

/-- A client id names one player. -/
theorem unique {k k' : GameID} {g g' : Game} {p p' : Player} (h : OneHolder srv)
    (hk : srv.games.lookup k = some g) (hp : p ∈ g.players)
    (hk' : srv.games.lookup k' = some g') (hp' : p' ∈ g'.players)
    (hc : p.clientId = p'.clientId) : k = k' ∧ g = g' ∧ p = p' := by
  obtain ⟨hgame, hplayer⟩ := h.actsOnHolder k g p hk hp
  obtain ⟨hgame', hplayer'⟩ := h.actsOnHolder k' g' p' hk' hp'
  rw [← hc] at hgame' hplayer'
  rw [hgame] at hgame'
  simp only [Option.some.injEq, Prod.mk.injEq] at hgame'
  obtain ⟨rfl, rfl⟩ := hgame'
  exact ⟨rfl, rfl, Option.some.inj (hplayer.symm.trans hplayer')⟩

/-! ### Writes to one game -/

/-- The game written back holds ids it held before, and ids no other game holds. -/
theorem setGame (h : OneHolder srv) (hlookup : srv.games.lookup key = some game)
    (hnodup : game'.clientIds.Nodup)
    (hnew : ∀ id ∈ game'.clientIds, id ∈ game.clientIds ∨
      ∀ k g, k ≠ key → srv.games.lookup k = some g → id ∉ g.clientIds) :
    OneHolder (srv.setGame key game') := by
  have hother : ∀ k g, k ≠ key → srv.games.lookup k = some g →
      game'.clientIds.Disjoint g.clientIds := by
    intro k g hne hk id hid hg
    rcases hnew id hid with hold | hfresh
    · exact h.apart key k game g hlookup hk (Ne.symm hne) hold hg
    · exact hfresh k g hne hk hg
  constructor
  · intro k g hk
    rw [Server.lookup_setGame hlookup] at hk
    split at hk
    · cases hk
      exact hnodup
    · exact h.inGame k g hk
  · intro k k' g g' hk hk' hne
    rw [Server.lookup_setGame hlookup] at hk hk'
    split at hk <;> split at hk'
    · rename_i hkey hkey'
      exact absurd (hkey.trans hkey'.symm) hne
    · rename_i hkey'
      cases hk
      exact hother k' g' hkey' hk'
    · rename_i hkey _
      cases hk'
      exact List.disjoint_comm.mp (hother k g hkey hk)
    · exact h.apart k k' g g' hk hk' hne

theorem setGame_same (h : OneHolder srv) (hlookup : srv.games.lookup key = some game)
    (hsame : game'.clientIds = game.clientIds) : OneHolder (srv.setGame key game') :=
  h.setGame hlookup (by rw [hsame]; exact h.inGame key game hlookup)
    fun id hid => Or.inl (by rw [← hsame]; exact hid)

/-- Fewer games with fewer players each. -/
theorem mono (h : OneHolder srv)
    (hsub : ∀ k g', srv'.games.lookup k = some g' →
      ∃ g, srv.games.lookup k = some g ∧ g'.clientIds.Sublist g.clientIds) : OneHolder srv' := by
  constructor
  · intro k g' hk
    obtain ⟨g, hg, hle⟩ := hsub k g' hk
    exact (h.inGame k g hg).sublist hle
  · intro k k' g₁ g₂ hk hk' hne id hid hid'
    obtain ⟨g, hg, hle⟩ := hsub k g₁ hk
    obtain ⟨g', hg', hle'⟩ := hsub k' g₂ hk'
    exact h.apart k k' g g' hg hg' hne (hle.subset hid) (hle'.subset hid')

/-- A connection without a player joins the game. -/
theorem joined {bind : Bind} (h : OneHolder srv) (hlookup : srv.games.lookup key = some game)
    (hnone : ∀ k g, srv.games.lookup k = some g → c ∉ g.clientIds) :
    OneHolder (srv.setGame key (game.joined c bind)) := by
  have hids : (game.joined c bind).clientIds = game.clientIds ++ [c] := by
    simp [Game.clientIds, Game.joined, Player.new]
  refine h.setGame hlookup ?_ ?_
  · rw [hids]
    exact List.nodup_append'.mpr ⟨h.inGame key game hlookup, List.nodup_singleton c,
      by simpa using hnone key game hlookup⟩
  · intro id hid
    rw [hids, List.mem_append, List.mem_singleton] at hid
    rcases hid with hold | rfl
    · exact Or.inl hold
    · exact Or.inr fun k g _ hk => hnone k g hk

/-- A connection takes over a player, and holds no other. -/
theorem restored {playerId : UInt8} {player : Player} (h : OneHolder srv)
    (hlookup : srv.games.lookup key = some game) (hok : GameOk game)
    (hfind : game.players.find? (fun p => p.bindId = some playerId) = some player)
    (hsole : ∀ k g p, srv.games.lookup k = some g → p ∈ g.players → p.clientId = c →
      k = key ∧ p.bindId = some playerId) :
    OneHolder (srv.setGame key (game.restored c playerId)) := by
  obtain ⟨l₁, l₂, hsplit, -, hbind, hmod⟩ := List.modifyFirst_split
    (f := fun p => { p with clientId := c, disconnectedUntil := none }) hfind
  have hids : (game.restored c playerId).clientIds
      = l₁.map Player.clientId ++ c :: l₂.map Player.clientId := by
    show ((game.players.modifyFirst _ _).map Player.clientId) = _
    rw [hmod]
    simp
  have hold : game.clientIds
      = l₁.map Player.clientId ++ player.clientId :: l₂.map Player.clientId := by
    simp [Game.clientIds, hsplit]
  have hnd := h.inGame key game hlookup
  rw [hold] at hnd
  -- of the players of the game only the restored one has its number
  have hbinds := hok.distinct
  rw [Game.bindIds, hsplit, List.map_append, List.map_cons] at hbinds
  have hrest : c ∉ l₁.map Player.clientId ++ l₂.map Player.clientId := by
    intro hc
    rw [← List.map_append] at hc
    obtain ⟨p, hp, hpc⟩ := List.mem_map.mp hc
    have hmem : p ∈ game.players := by
      rw [hsplit]
      rcases List.mem_append.mp hp with h₁ | h₂
      · exact List.mem_append_left _ h₁
      · exact List.mem_append_right _ (List.mem_cons_of_mem _ h₂)
    have hpb := (hsole key game p hlookup hmem hpc).2
    have hnot := (List.nodup_middle.mp hbinds).notMem
    rw [← List.map_append] at hnot
    refine hnot (List.mem_map.mpr ⟨p, hp, ?_⟩)
    rw [hpb]
    exact (of_decide_eq_true hbind).symm
  refine h.setGame hlookup ?_ ?_
  · rw [hids]
    exact List.nodup_middle.mpr (List.nodup_cons.mpr ⟨hrest, (List.nodup_middle.mp hnd).of_cons⟩)
  · intro id hid
    rw [hids, List.mem_append, List.mem_cons] at hid
    rw [hold, List.mem_append, List.mem_cons]
    rcases hid with hid | rfl | hid
    · exact Or.inl (Or.inl hid)
    · refine Or.inr fun k g hne hk hc => ?_
      obtain ⟨p, hp, hpc⟩ := List.mem_map.mp hc
      exact hne (hsole k g p hk hp hpc).1
    · exact Or.inl (Or.inr (Or.inr hid))

/-! ### Effects -/

theorem prelude (hone : OneHolder srv) (h : Prelude env packet c srv sent srv') :
    OneHolder srv' := by
  cases h with
  | playerChanged hgame hplayer hclient _ _ _ _ =>
      refine hone.setGame_same (Server.getGameByClientid_lookup hgame) ?_
      refine List.map_modifyFirst fun p hp => ?_
      rw [hclient, Option.some.inj (hplayer.symm.trans hp)]
  | left _ _ hacting _ _ _ =>
      exact hone.setGame_same (Server.getGameByClientid_lookup hacting.inGame)
        (List.map_modifyFirst fun _ _ => rfl)

/-- The request of an accepted attach found a game that accepts it. -/
theorem acceptsAttach {requested : I32} {found : Game} {b : UInt8}
    (hfound : (srv.requestedGame env requested).1.games.lookup
      (srv.requestedGame env requested).2 = some found)
    (hfree : found.getUniqPlayerId = some b) : srv.AcceptsAttach requested := by
  unfold Server.AcceptsAttach
  split
  · rename_i h0
    subst h0
    intro g hg
    rw [Server.requestedGame_taken (AList.mem_iff_lookup.mpr ⟨g, hg⟩)] at hfound
    rw [show found = g from Option.some.inj (hfound.symm.trans hg)] at hfree
    rw [hfree]
    rfl
  · rename_i h0
    rw [Server.requestedGame_of_ne h0] at hfound
    exact ⟨found, hfound, by rw [hfree]; rfl⟩

theorem effect (hone : OneHolder srv) (h : Effect env packet c srv sent srv') (hok : RegistryOk srv)
    (hsole : SoleHolder srv packet c) : OneHolder srv' := by
  cases h with
  | prelude h => exact hone.prelude h
  | quiet _ => exact hone
  | gameChanged hgame => exact hone.setGame_same (Server.getGameByClientid_lookup hgame) rfl
  | counted _ _ _ => exact ⟨hone.inGame, hone.apart⟩
  | @attached _ requested found bind haction hrequested hfound hfree _ =>
      have hnone := hsole.attach haction requested hrequested (acceptsAttach hfound hfree)
      rcases Server.requestedGame_cases hfound with ⟨key, n, hgame, hlookup⟩ | ⟨key, n, hgame, -, rfl⟩
      · have hcounted : OneHolder { srv with gamesIdUniq := n } := ⟨hone.inGame, hone.apart⟩
        rw [hgame]
        exact hcounted.joined hlookup hnone
      · -- the game that is made has no players
        have hmade : ∀ k g, (srv.games.insert key (Game.new key env.now)).lookup k = some g →
            g.clientIds = [] ∨ srv.games.lookup k = some g := by
          intro k g hk
          rw [AList.lookup_insert'] at hk
          split at hk
          · cases hk
            exact Or.inl rfl
          · exact Or.inr hk
        rw [hgame] at hfound ⊢
        refine OneHolder.joined ⟨?_, ?_⟩ hfound ?_
        · intro k g hk
          rcases hmade k g hk with hnil | hold
          · simp [hnil]
          · exact hone.inGame k g hold
        · intro k k' g g' hk hk' hne
          rcases hmade k g hk with hnil | hold
          · simp [hnil]
          · rcases hmade k' g' hk' with hnil | hold'
            · simp [hnil]
            · exact hone.apart k k' g g' hold hold' hne
        · intro k g hk
          rcases hmade k g hk with hnil | hold
          · simp [hnil]
          · exact hnone k g hold
  | @restored _ gameId playerId game player haction hdata hlookup hfind hsrv =>
      have hset : OneHolder (srv.setGame gameId (game.restored c playerId)) :=
        hone.restored hlookup (hok.game gameId game hlookup) hfind
          (hsole.restore haction gameId playerId game player hdata hlookup hfind)
      rw [hsrv]
      split
      · exact ⟨hset.inGame, hset.apart⟩
      · exact hset
  | replayed _ _ _ => exact hone
  | created _ hacting _ _ _ _ =>
      exact hone.setGame_same (Server.getGameByClientid_lookup hacting.inGame) rfl
  | updated _ hacting _ _ _ _ _ =>
      exact hone.setGame_same (Server.getGameByClientid_lookup hacting.inGame) rfl
  | deleted _ hacting _ _ _ =>
      exact hone.setGame_same (Server.getGameByClientid_lookup hacting.inGame) rfl
  | deleteMissed _ hacting _ _ =>
      exact hone.setGame_same (Server.getGameByClientid_lookup hacting.inGame) rfl
  | transferred _ hacting _ _ _ _ _ =>
      exact hone.setGame_same (Server.getGameByClientid_lookup hacting.inGame) rfl
  | worldMade hgame _ _ _ => exact hone.setGame_same (Server.getGameByClientid_lookup hgame) rfl
  | entered _ _ hacting _ _ _ _ _ _ _ =>
      exact hone.setGame_same (Server.getGameByClientid_lookup hacting.inGame)
        (List.map_modifyFirst fun _ _ => rfl)
  | @closed _ key game player bind _ hacting _ _ =>
      have hlookup := Server.getGameByClientid_lookup hacting.inGame
      refine hone.mono ?_
      intro k g' hk
      rw [Server.lookup_setGame hlookup] at hk
      split at hk
      · rename_i hkey
        cases hk
        exact ⟨game, by rw [hkey]; exact hlookup, List.filter_sublist.map _⟩
      · exact ⟨g', hk, List.Sublist.refl _⟩
  | @closedLast _ key game player bind _ hacting _ _ =>
      have hlookup := Server.getGameByClientid_lookup hacting.inGame
      refine hone.mono ?_
      intro k g' hk
      exact ⟨g', hok.lookup_erased hlookup hk, List.Sublist.refl _⟩

theorem handled (hone : OneHolder srv) (h : Handled env packet c srv sent srv')
    (hok : RegistryOk srv) (hsole : SoleHolder srv packet c) : OneHolder srv' := by
  cases h with
  | one h => exact hone.effect h hok hsole
  | two haction h₁ h₂ =>
      refine (hone.prelude h₁).effect h₂ (RegistryOk.prelude h₁ hok) (SoleHolder.of_action ?_)
      simp only [List.mem_cons, List.not_mem_nil, or_false] at haction ⊢
      rcases haction with ha | ha | ha <;> simp [ha]

theorem mark (hone : OneHolder srv) : OneHolder (srv.markPlayerDisconnected env c) := by
  unfold Server.markPlayerDisconnected
  split
  · rename_i key game hgame
    exact hone.setGame_same (Server.getGameByClientid_lookup hgame)
      (List.map_modifyFirst fun _ _ => rfl)
  · exact hone

theorem rehash (hone : OneHolder srv) (h : Rehash srv srv') : OneHolder srv' := by
  cases h with
  | games hperm =>
      refine hone.mono fun k g hk => ⟨g, ?_, List.Sublist.refl _⟩
      rw [← AList.perm_lookup (a := k) hperm]
      exact hk
  | vanjects hlookup _ => exact hone.setGame_same hlookup rfl

end OneHolder

/-- A round on such an input keeps the holders distinct. -/
theorem Step.oneHolder {srv srv' : Server} {e : Option Event} (h : Step srv e srv')
    (hok : RegistryOk srv) (hsole : ∀ event, e = some event → SoleHolderInput srv event.input)
    (hone : OneHolder srv) : OneHolder srv' := by
  refine (h.preserves (P := fun mid => RegistryOk mid ∧ OneHolder mid) ?_ ?_ ?_ ?_ ⟨hok, hone⟩).2
  · rintro env packet c mid mid' sent origin hh ⟨hmid, hmone⟩
    refine ⟨hmid.handled hh, hmone.handled hh hmid ?_⟩
    cases origin with
    | message he => exact hsole _ he
    | tick _ => exact SoleHolder.of_action (by decide)
  · exact fun env c mid hmid => ⟨hmid.1.mark, hmid.2.mark⟩
  · exact fun mid clients hmid => ⟨hmid.1.setClients clients, hmid.2.inGame, hmid.2.apart⟩
  · exact fun mid mid' hr hmid => ⟨hmid.1.rehash hr, hmid.2.rehash hr⟩

/-- A round whose input comes from a sender without another player. -/
def SoleHolderRound (srv : Server) (e : Option Event) (srv' : Server) : Prop :=
  Step srv e srv' ∧ ∀ event, e = some event → SoleHolderInput srv event.input

/-- **A client id identifies at most one player** in every run in which no connection that
has a player is given another. -/
theorem holders_distinct {start : Instant} {tr : List (Option Event)} {srv : Server}
    (h : Transition.Run SoleHolderRound (Server.new start) tr srv) :
    srv.holders.Nodup ∧ ActsOnHolder srv := by
  have hboth := h.invariant (P := fun s => RegistryOk s ∧ OneHolder s)
    ⟨registryOk_new start, by constructor <;> simp [Server.new]⟩ ?_
  · exact ⟨hboth.2.nodup_holders, hboth.2.actsOnHolder⟩
  · rintro a e b ⟨hstep, hsole⟩ ⟨hok, hone⟩
    exact ⟨hstep.registryOk hok, hstep.oneHolder hok hsole hone⟩

/-- A second connection takes over the player of the first. -/
theorem holders_distinct_restore : ∃ tr srv, Transition.Run SoleHolderRound (Server.new 0) tr srv ∧
    srv.holders = [8] ∧ srv.holders.Nodup ∧ ActsOnHolder srv := by
  have hplay : ((Server.new 0).take (Env.atTime 0) (ask 7 .attachToGame [0, 0, 0, 0])).any
      (fun first => decide (first.1.holders = [7]) &&
        (first.1.take (Env.atTime 0) (ask 8 .restoreConnection [1, 0, 0, 0, 1])).any fun last =>
          decide (last.1.holders = [8])) = true := by
    decide +kernel
  obtain ⟨⟨s₁, sent₁⟩, htake₁, htest⟩ := (Option.any_eq_true _ _).mp hplay
  rw [Bool.and_eq_true] at htest
  obtain ⟨⟨s₂, sent₂⟩, htake₂, hlast⟩ := (Option.any_eq_true _ _).mp htest.2
  have hfirst : s₁.holders = [7] := of_decide_eq_true htest.1
  have hrun : Transition.Run SoleHolderRound (Server.new 0)
      [some ⟨Env.atTime 0, ask 7 .attachToGame [0, 0, 0, 0], sent₁⟩,
        some ⟨Env.atTime 0, ask 8 .restoreConnection [1, 0, 0, 0, 1], sent₂⟩] s₂ := by
    have hattached : Transition.Run SoleHolderRound (Server.new 0)
        [some ⟨Env.atTime 0, ask 7 .attachToGame [0, 0, 0, 0], sent₁⟩] s₁ := by
      refine Transition.Run.nil.snoc ⟨.take htake₁, ?_⟩
      rintro event ⟨⟩
      refine ⟨fun _ _ _ _ k g hk => ?_, fun ha => absurd ha (by decide)⟩
      simp [Server.new] at hk
    refine hattached.snoc ⟨.take htake₂, ?_⟩
    · rintro event ⟨⟩
      refine ⟨fun ha => absurd ha (by decide), fun _ _ _ _ _ _ _ _ k g p hk hp hc => ?_⟩
      -- the only holder is the first connection
      have hmem : p.clientId ∈ s₁.holders :=
        List.mem_flatMap.mpr ⟨g, AList.mem_values.mpr ⟨k, hk⟩, List.mem_map_of_mem hp⟩
      rw [hfirst, hc] at hmem
      simp at hmem
  exact ⟨_, s₂, hrun, of_decide_eq_true hlast, holders_distinct hrun⟩

/-- A connection that attaches twice holds two players. -/
theorem holders_distinct_fails : ∃ srv, ServerReachable srv ∧ ¬ srv.holders.Nodup := by
  have hplay : (((play (Server.new 0)
      [(Env.atTime 0, ask 7 .attachToGame [0, 0, 0, 0]),
        (Env.atTime 0, ask 7 .attachToGame [1, 0, 0, 0])]).map Prod.fst).bind
      fun srv => some srv.holders) = some [7, 7] := by
    decide +kernel
  obtain ⟨srv, tr, hrun, hfacts⟩ := play_bind hplay
  refine ⟨srv, ⟨0, tr, hrun⟩, ?_⟩
  rw [Option.some.inj hfacts]
  decide

end VangersSrv
