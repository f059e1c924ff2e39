/-
A game is served as if it were the only one.

Take a group of clients that play in one game, where nobody else plays.  What the server does for
them, a server does that has no other game and no other client (`Server.alone`).  Here are the parts:
what is kept of a server for one game, and that a request of one of the group does the same with the
other games away.  `Lockstep` puts them together over whole runs.  The list of games and the top list
are about all games, so the group must not ask for them.
-/
import VangersSrv.Server.Audience
import VangersSrv.Server.Isolation
import VangersSrv.Server.Registry

namespace VangersSrv

/-! ### The part of a game -/

/-- The server with one game only.  Its counter stands where it can give the game's id out, until the
game was made. -/
def Server.only (key : GameID) (srv : Server) : Server :=
  { srv with
    games := srv.games.retain fun k _ => k = key
    gamesIdUniq := if srv.gamesIdUniq < key then key - 1 else key }

/-- The server with one game and one group of clients only. -/
def Server.alone (mine : ClientID → Bool) (key : GameID) (srv : Server) : Server :=
  (srv.only key).among mine

/-- The group plays in the game, and nobody else does. -/
def Apart (mine : ClientID → Bool) (key : GameID) (srv : Server) : Prop :=
  ∀ k g, srv.games.lookup k = some g → ∀ x ∈ g.clientIds, mine x = decide (k = key)

section

variable {mine : ClientID → Bool} {env : Env} {packet p : Packet} {c : ClientID} {srv s t : Server}
  {key k : GameID} {game game' g : Game} {outcome : Option Game} {r : Reply}

instance : Decidable (Apart mine key srv) :=
  decidable_of_iff (∀ e ∈ srv.games.entries, ∀ x ∈ e.2.clientIds, mine x = decide (e.1 = key))
    ⟨fun h k g hk => h ⟨k, g⟩ (AList.mem_entries_iff.mpr hk),
      fun h e he => h e.1 e.2 (AList.mem_entries_iff.mp he)⟩

/-- What is kept of a server is told by the game, the clients and the clock. -/
theorem only_congr (hlookup : t.games.lookup key = s.games.lookup key)
    (hclients : t.clients = s.clients) (huptime : t.uptime = s.uptime)
    (hcounter : t.gamesIdUniq < key ↔ s.gamesIdUniq < key) :
    t.only key = s.only key := by
  unfold Server.only
  rw [AList.retain_key_congr hlookup, hclients, huptime]
  simp only [hcounter]

theorem lookup_only :
    (srv.only key).games.lookup k = if k = key then srv.games.lookup k else none := by
  show (srv.games.retain _).lookup k = _
  rw [AList.lookup_retain]
  split
  · rename_i hkey
    cases srv.games.lookup k <;> simp [hkey]
  · rename_i hkey
    cases srv.games.lookup k <;> simp [hkey]

theorem lookup_only_self : (srv.only key).games.lookup key = srv.games.lookup key := by
  rw [lookup_only, if_pos rfl]

/-- A map of games that has the game and no other. -/
theorem only_games {games : Games} (hlookup : games.lookup key = srv.games.lookup key)
    (hkeys : ∀ j ∈ games, j = key) : (srv.only key).games = games :=
  AList.retain_key_eq hlookup hkeys

theorem mem_only (h : k ∈ (srv.only key).games) : k = key := by
  obtain ⟨g, hg⟩ := AList.mem_iff_lookup.mp h
  rw [lookup_only] at hg
  by_contra hne
  rw [if_neg hne] at hg
  cases hg

theorem settle_only (hlookup : srv.games.lookup key = some game) :
    (srv.settle key outcome).only key = (srv.only key).settle key outcome := by
  have hgames : ((srv.settle key outcome).only key).games
      = ((srv.only key).settle key outcome).games := by
    refine only_games ?_ ?_
    · cases outcome with
      | none =>
          exact (AList.lookup_erase key (srv.only key).games).trans
            (AList.lookup_erase key srv.games).symm
      | some g =>
          exact (Server.lookup_setGame_self (lookup_only_self.trans hlookup)).trans
            (Server.lookup_setGame_self hlookup).symm
    · intro j hj
      cases outcome with
      | none => exact mem_only (AList.mem_erase.mp hj).2
      | some g => exact mem_only (AList.mem_replace.mp hj)
  cases outcome with
  | none => exact congrArg (fun games => { srv.only key with games }) hgames
  | some g => exact congrArg (fun games => { srv.only key with games }) hgames

theorem setGame_only (hlookup : srv.games.lookup key = some game) :
    (srv.setGame key game').only key = (srv.only key).setGame key game' := by
  have h : (srv.settle key (some game')).only key = (srv.only key).settle key (some game') :=
    settle_only hlookup
  exact h

/-- What becomes of another game does not show. -/
theorem only_settle_of_ne (hne : k ≠ key) : (srv.settle k outcome).only key = srv.only key := by
  refine only_congr (lookup_settle_of_ne (Ne.symm hne)) ?_ ?_ ?_ <;> rw [settle_eq]

theorem only_setGame_of_ne (hne : k ≠ key) : (srv.setGame k game').only key = srv.only key := by
  have h : (srv.settle k (some game')).only key = srv.only key := only_settle_of_ne hne
  exact h

/-- The game's id is given out. -/
theorem only_made :
    ({ srv with games := srv.games.insert key game, gamesIdUniq := key } : Server).only key
      = { srv.only key with games := (srv.only key).games.insert key game, gamesIdUniq := key } := by
  have hgames : ((srv.games.insert key game).retain fun k _ => k = key)
      = (srv.only key).games.insert key game :=
    AList.retain_key_eq
      ((AList.lookup_insert (srv.only key).games).trans (AList.lookup_insert srv.games).symm)
      fun j hj => ((AList.mem_insert _).mp hj).elim id mem_only
  show ({ srv with
    games := (srv.games.insert key game).retain fun k _ => k = key
    gamesIdUniq := if key < key then key - 1 else key } : Server) = _
  rw [hgames, if_neg (BitVec.lt_irrefl key)]
  rfl

/-! ### Who plays where -/

namespace Apart

/-- The game of one of the group. -/
theorem key_eq (h : Apart mine key srv) (hmine : mine c = true)
    (hgame : srv.getGameByClientid c = some (k, game)) : k = key := by
  obtain ⟨p, hp⟩ := Server.getGameByClientid_getPlayer hgame
  have hplays := h k game (Server.getGameByClientid_lookup hgame) c (Game.mem_clientIds hp)
  rw [hmine] at hplays
  exact of_decide_eq_true hplays.symm

/-- The game of anybody else. -/
theorem key_ne (h : Apart mine key srv) (hother : mine c = false)
    (hgame : srv.getGameByClientid c = some (k, game)) : k ≠ key := by
  obtain ⟨p, hp⟩ := Server.getGameByClientid_getPlayer hgame
  have hplays := h k game (Server.getGameByClientid_lookup hgame) c (Game.mem_clientIds hp)
  rw [hother] at hplays
  exact of_decide_eq_false hplays.symm

theorem getGame_some (h : Apart mine key srv) (hmine : mine c = true)
    (hgame : srv.getGameByClientid c = some (k, game)) :
    (srv.only key).getGameByClientid c = some (key, game) := by
  obtain rfl := h.key_eq hmine hgame
  have hlookup := Server.getGameByClientid_lookup hgame
  obtain ⟨p, hp⟩ := Server.getGameByClientid_getPlayer hgame
  show ((srv.games.retain fun j _ => j = k).entries.find? _).map _ = _
  rw [AList.entries_retain_key, hlookup]
  simp [hp]

theorem getGame_none (hgame : srv.getGameByClientid c = none) :
    (srv.only key).getGameByClientid c = none := by
  rw [Server.getGameByClientid_eq_none] at hgame ⊢
  intro k g hk
  rw [lookup_only] at hk
  split at hk
  · exact hgame k g hk
  · cases hk

theorem getGame (h : Apart mine key srv) (hmine : mine c = true) :
    (srv.only key).getGameByClientid c = srv.getGameByClientid c := by
  cases hgame : srv.getGameByClientid c with
  | none => exact getGame_none hgame
  | some found =>
      obtain ⟨k, game⟩ := found
      rw [h.getGame_some hmine hgame, h.key_eq hmine hgame]

/-- One of the group sends to the same clients. -/
theorem notifyPlayer (h : Apart mine key srv) (hmine : mine c = true) :
    (srv.only key).notifyPlayer c = srv.notifyPlayer c := by
  funext p
  unfold Server.notifyPlayer Server.notify
  rw [h.getGame hmine]
  rfl

/-- Players that leave, and games that go, keep a group apart. -/
theorem settle (h : Apart mine key srv) (hlookup : srv.games.lookup k = some game)
    (hsub : ∀ g ∈ outcome, g.clientIds.Sublist game.clientIds) :
    Apart mine key (srv.settle k outcome) := by
  intro j g hj x hx
  by_cases hjk : j = k
  · subst hjk
    cases outcome with
    | none =>
        have hnone : (srv.settle j none).games.lookup j = none := AList.lookup_erase j _
        rw [hnone] at hj
        cases hj
    | some g' =>
        obtain rfl := Option.some.inj ((Server.lookup_setGame_self hlookup).symm.trans hj)
        exact h j game hlookup x ((hsub _ rfl).subset hx)
  · rw [lookup_settle_of_ne hjk] at hj
    exact h j g hj x hx

end Apart

/-! ### A connection without a game -/

/-- Both panic, or both turn the request down for the same reason. -/
def TurnedDown (s t : Server) : Option Reply → Option Reply → Prop :=
  Option.Rel fun r r' => ∃ err, r = { srv := s, sent := [], result := .error err } ∧
    r' = { srv := t, sent := [], result := .error err }

theorem TurnedDown.fail {err : OnUpdateError} : TurnedDown s t (s.fail err) (t.fail err) :=
  .some ⟨err, rfl, rfl⟩

theorem TurnedDown.bind {α : Type} {x : Option α} {f f' : α → Option Reply}
    (h : ∀ a, TurnedDown s t (f a) (f' a)) : TurnedDown s t (x.bind f) (x.bind f') := by
  cases x with
  | none => exact .none
  | some a => exact h a

/-- **Without a game every request about one is turned down**, whatever the server has. -/
theorem handle_turnedDown (env : Env) (hs : s.getGameByClientid c = none)
    (ht : t.getGameByClientid c = none) (haction : packet.action ∉ sharedActions) :
    TurnedDown s t (s.handle env packet c) (t.handle env packet c) := by
  have hleave : TurnedDown s t (s.leaveWorld env c) (t.leaveWorld env c) := by
    unfold Server.leaveWorld
    rw [hs, ht]
    exact .fail
  unfold Server.handle
  cases ha : packet.action
  case attachToGame | restoreConnection | gamesListQuery | topListQuery | serverTimeQuery =>
    simp [ha, sharedActions] at haction
  case totalPlayersDataQuery =>
    dsimp only [Server.totalPlayersDataQuery]
    rw [hs, ht]
    exact .fail
  case registerName =>
    dsimp only [Server.registerName]
    rw [hs, ht]
    exact .fail
  case setPlayerData =>
    dsimp only [Server.setPlayerData]
    rw [hs, ht]
    exact .fail
  case setPosition =>
    dsimp only [Server.setPosition]
    rw [hs, ht]
    split
    · exact .fail
    · exact .bind fun _ => .bind fun _ => .bind fun _ => .bind fun _ => .bind fun _ => .bind fun _ =>
        .fail
  case setGameData =>
    dsimp only [Server.setGameData]
    rw [hs, ht]
    exact .fail
  case getGameData =>
    dsimp only [Server.getGameData]
    rw [hs, ht]
    exact .fail
  case createObject =>
    dsimp only [Server.createObject]
    rw [hs, ht]
    refine .bind fun parsed => ?_
    cases parsed with
    | error err => exact .fail
    | ok v => exact .fail
  case setWorld =>
    have hstays : ∀ {srv : Server} {w : UInt8}, srv.getGameByClientid c = none →
        srv.needsLeaveWorld c w = false := by
      intro srv w hnone
      unfold Server.needsLeaveWorld
      rw [hnone]
      rfl
    dsimp only [Server.setWorld]
    refine .bind fun _ => .bind fun _ => .bind fun _ => ?_
    rw [hstays hs, hstays ht, if_neg (by simp), if_neg (by simp)]
    unfold Server.enterWorld
    rw [hs, ht]
    exact .fail
  case leaveWorld => exact hleave
  case updateObject =>
    dsimp only [Server.updateObject]
    rw [hs, ht]
    split
    · exact .fail
    · exact .bind fun _ => .bind fun _ => .fail
  case deleteObject =>
    dsimp only [Server.deleteObject]
    rw [hs, ht]
    exact .bind fun _ => .bind fun _ => .fail
  case itemTransfer =>
    dsimp only [Server.itemTransfer]
    rw [hs, ht]
    refine .bind fun parsed => ?_
    cases parsed with
    | error err => exact .fail
    | ok transfer =>
        dsimp only
        cases transfer.validate with
        | error err => exact .fail
        | ok _ => exact .fail
  case directSending =>
    dsimp only [Server.directSending]
    rw [hs, ht]
    split
    · exact .fail
    · exact .fail
  case closeSocket =>
    dsimp only [Server.closeSocket, Server.leaveWorld]
    rw [hs, ht]
    exact .fail
  all_goals exact .fail

theorem onUpdate_turnedDown (env : Env) (hs : s.getGameByClientid c = none)
    (ht : t.getGameByClientid c = none) (haction : packet.action ∉ sharedActions) :
    TurnedDown s t (s.onUpdate env c packet) (t.onUpdate env c packet) := by
  unfold Server.onUpdate
  have hdown := handle_turnedDown env hs ht haction
  generalize s.handle env packet c = x at hdown
  generalize t.handle env packet c = y at hdown
  cases hdown with
  | none => exact .none
  | @some r r' hrel =>
      obtain ⟨err, rfl, rfl⟩ := hrel
      simp only [Option.bind_eq_bind, Option.bind_some]
      by_cases hlogged : Server.logged (.error err) = true
      · rw [if_pos hlogged, if_pos hlogged]
        exact .some ⟨err, rfl, rfl⟩
      · rw [if_neg hlogged, if_neg hlogged]
        exact .none

/-! ### Requests about a game -/

/-- A request that is about the game of its sender. -/
structure AboutGame (c : ClientID) (f : Server → Option Reply) : Prop where
  same : ∀ {s t : Server} {key : GameID} {game : Game}, Alike s t c key game → game.id = key →
    SameOrGone s t key game.clientIds (f s) (f t)
  turnedDown : ∀ {s t : Server}, s.getGameByClientid c = none → t.getGameByClientid c = none →
    TurnedDown s t (f s) (f t)

theorem AboutGame.onUpdate (haction : packet.action ∉ sharedActions) :
    AboutGame c fun srv => srv.onUpdate env c packet :=
  ⟨fun h hid => onUpdate_same env h hid haction, fun hs ht => onUpdate_turnedDown env hs ht haction⟩

theorem AboutGame.closeSocket : AboutGame c fun srv => srv.closeSocket env c := by
  have haction : closePacket.action ∉ sharedActions := by decide
  exact ⟨fun h hid => closeSocket_same h hid, fun hs ht => handle_turnedDown env hs ht haction⟩

namespace AboutGame

variable {f : Server → Option Reply}

/-- It does nothing, or it settles the game of its sender and is heard there. -/
theorem cases (h : AboutGame c f) (hfiled : GamesFiled srv) (hr : f srv = some r) :
    (r.srv = srv ∧ r.sent = []) ∨ ∃ k game outcome, srv.getGameByClientid c = some (k, game) ∧
      r.srv = srv.settle k outcome ∧ (∀ g ∈ outcome, g.clientIds.Sublist game.clientIds) ∧
      ∀ x ∈ r.sent, x.client ∈ game.clientIds := by
  cases hgame : srv.getGameByClientid c with
  | none =>
      have hdown := h.turnedDown hgame hgame
      rw [hr] at hdown
      cases hdown with
      | some hrel =>
          obtain ⟨err, rfl, -⟩ := hrel
          exact Or.inl ⟨rfl, rfl⟩
  | some found =>
      obtain ⟨k, game⟩ := found
      have hsame := h.same ⟨hgame, hgame, rfl⟩ (hfiled k game (Server.getGameByClientid_lookup hgame))
      rw [hr] at hsame
      cases hsame with
      | some hrel =>
          obtain ⟨outcome, hplayers, hreply⟩ := hrel
          exact Or.inr ⟨k, game, outcome, rfl, hreply.left, hplayers, hreply.recipients⟩

theorem apart (h : AboutGame c f) (hfiled : GamesFiled srv) (hapart : Apart mine key srv)
    (hr : f srv = some r) : Apart mine key r.srv := by
  rcases h.cases hfiled hr with ⟨hsrv, -⟩ | ⟨k, game, outcome, hgame, hsrv, hplayers, -⟩
  · rw [hsrv]
    exact hapart
  · rw [hsrv]
    exact hapart.settle (Server.getGameByClientid_lookup hgame) hplayers

/-- **From outside the group it does not show.** -/
theorem unseen (h : AboutGame c f) (hfiled : GamesFiled srv) (hapart : Apart mine key srv)
    (hother : mine c = false) (hr : f srv = some r) :
    r.srv.alone mine key = srv.alone mine key ∧ heardBy mine r.sent = [] := by
  rcases h.cases hfiled hr with ⟨hsrv, hsent⟩ | ⟨k, game, outcome, hgame, hsrv, -, hheard⟩
  · rw [hsrv, hsent]
    exact ⟨rfl, rfl⟩
  · have hne := hapart.key_ne hother hgame
    refine ⟨?_, heardBy_eq_nil fun x hx => ?_⟩
    · rw [hsrv]
      exact congrArg (Server.among mine) (only_settle_of_ne hne)
    · rw [hapart k game (Server.getGameByClientid_lookup hgame) x.client (hheard x hx)]
      exact decide_eq_false hne

/-- **From the group it does the same with the other games away.** -/
theorem only (h : AboutGame c f) (hfiled : GamesFiled srv) (hapart : Apart mine key srv)
    (hmine : mine c = true) (hr : f srv = some r) :
    ∃ r', f (srv.only key) = some r' ∧ r'.srv = r.srv.only key ∧ r'.sent = r.sent := by
  cases hgame : srv.getGameByClientid c with
  | none =>
      have halone : (srv.only key).getGameByClientid c = none := Apart.getGame_none hgame
      have hdown := h.turnedDown hgame halone
      rw [hr] at hdown
      generalize f (srv.only key) = y at hdown
      cases hdown with
      | some hrel =>
          obtain ⟨err, rfl, rfl⟩ := hrel
          exact ⟨_, rfl, rfl, rfl⟩
  | some found =>
      obtain ⟨k, game⟩ := found
      have hsome := hapart.getGame_some hmine hgame
      obtain rfl := hapart.key_eq hmine hgame
      have hlookup := Server.getGameByClientid_lookup hgame
      have hsame := h.same ⟨hgame, hsome, rfl⟩ (hfiled k game hlookup)
      rw [hr] at hsame
      generalize f (srv.only k) = y at hsame
      cases hsame with
      | @some _ r' hrel =>
          obtain ⟨outcome, -, hreply⟩ := hrel
          refine ⟨r', rfl, ?_, hreply.sent⟩
          rw [hreply.right, hreply.left, settle_only hlookup]

end AboutGame

/-! ### Joining -/

theorem attachPlayer_joined {bind : Bind} (h : game.getUniqPlayerId = some bind.id) :
    game.attachPlayer (Player.new c) = some (some (game.joined c bind, bind.id)) := by
  obtain ⟨g', hattached, -⟩ := Game.attachPlayer_of_some (Player.new c) h
  obtain ⟨b, -, hid, rfl⟩ := attachPlayer_some hattached
  obtain rfl : b = bind := by
    cases b
    cases bind
    simp only at hid
    simp [hid]
  exact hattached

/-- A game that is not there, or is full, is not joined. -/
theorem attachToGame_refused {requested : I32} (hrequested : sliceLeToI32 packet.data = some requested)
    (hrefuses : srv.Refuses env c requested) :
    ∃ err, srv.attachToGame env packet c
      = (srv.requestedGame env requested).1.fail (.attachToGame err) := by
  have hlen : ¬ packet.data.length ≠ 4 := by
    rw [← toLeBytes32_of_sliceLeToI32 hrequested]
    simp
  unfold Server.attachToGame
  rw [if_neg hlen, hrequested]
  simp only [Option.bind_eq_bind, Option.bind_some]
  rcases hrefuses with hnone | ⟨found, hfound, hfull⟩
  · rw [hnone]
    exact ⟨_, rfl⟩
  · rw [hfound]
    simp only [hfull, Option.bind_some]
    exact ⟨_, rfl⟩

/-- While the counter does not come round, a new game gets an id of its own. -/
theorem CountersOk.fresh (h : CountersOk srv)
    (hroom : srv.gamesIdUniq.toNat ≤ (srv.gamesIdUniq + 1).toNat) :
    srv.gamesIdUniq + 1 ∉ srv.games := by
  intro hin
  have hle := (h _ hin).2
  have hsame : srv.gamesIdUniq + 1 = srv.gamesIdUniq := BitVec.eq_of_toNat_eq (by omega)
  exact absurd hsame (by bv_omega)

theorem requestedGame_counter :
    (srv.requestedGame env 0).1.gamesIdUniq = srv.gamesIdUniq + 1 := by
  by_cases hin : srv.gamesIdUniq + 1 ∈ srv.games
  · rw [Server.requestedGame_taken hin]
  · rw [Server.requestedGame_fresh hin]

/-- The game that is asked for is found, or made, with the other games away. -/
theorem requestedGame_only {requested : I32} (hkey : (srv.requestedGame env requested).2 = key)
    (hfresh : requested = 0 → srv.gamesIdUniq + 1 ∉ srv.games ∧
      srv.gamesIdUniq.toNat < (srv.gamesIdUniq + 1).toNat) :
    (srv.only key).requestedGame env requested
      = ((srv.requestedGame env requested).1.only key, key) := by
  by_cases h0 : requested = 0
  · subst h0
    obtain ⟨hin, hless⟩ := hfresh rfl
    rw [Server.requestedGame_fresh hin] at hkey ⊢
    obtain rfl : srv.gamesIdUniq + 1 = key := hkey
    have hcounter : (srv.only (srv.gamesIdUniq + 1)).gamesIdUniq + 1 = srv.gamesIdUniq + 1 := by
      show (if srv.gamesIdUniq < srv.gamesIdUniq + 1 then _ else _) + 1 = _
      rw [if_pos (BitVec.lt_def.mpr hless)]
      bv_omega
    have hnew : (srv.only (srv.gamesIdUniq + 1)).gamesIdUniq + 1
        ∉ (srv.only (srv.gamesIdUniq + 1)).games := by
      rw [hcounter, ← AList.lookup_eq_none, lookup_only_self, AList.lookup_eq_none]
      exact hin
    rw [Server.requestedGame_fresh hnew, hcounter, only_made]
  · rw [Server.requestedGame_of_ne h0] at hkey
    obtain rfl : requested = key := hkey
    rw [Server.requestedGame_of_ne h0, Server.requestedGame_of_ne h0]

/-- What an attach leaves behind when it is turned down. -/
theorem attach_refused {requested : I32} (hcounters : CountersOk srv)
    (hroom : srv.gamesIdUniq.toNat ≤ r.srv.gamesIdUniq.toNat) {err : OnUpdateError}
    (hrefuses : srv.Refuses env c requested)
    (hfail : (srv.requestedGame env requested).1.fail err = some r) :
    requested ≠ 0 ∧ r.srv = srv ∧ r.sent = [] := by
  obtain rfl := Server.fail_eq_some hfail
  have h0 : requested ≠ 0 := by
    rintro rfl
    rw [requestedGame_counter] at hroom
    exact not_refuses_fresh (hcounters.fresh hroom) hrefuses
  refine ⟨h0, ?_, rfl⟩
  rw [Server.requestedGame_of_ne h0]

/-- **One of the group joins its game with the other games away.** -/
theorem attachToGame_only (hcounters : CountersOk srv) (hmine : mine c = true)
    (hroom : srv.gamesIdUniq.toNat ≤ r.srv.gamesIdUniq.toNat) (hapart : Apart mine key r.srv)
    (h : srv.attachToGame env packet c = some r) :
    ∃ r', (srv.only key).attachToGame env packet c = some r' ∧ r'.srv = r.srv.only key ∧
      r'.sent = r.sent := by
  rcases attachToGame_cases h with ⟨hlen, hfail⟩ | ⟨requested, hrequested, ⟨hrefuses, err, hfail⟩ |
    ⟨found, bind, offsets, packets, time, header, hfound, hfree, hoffsets, rfl, hpackets, htime, h⟩⟩
  · obtain rfl := Server.fail_eq_some hfail
    refine ⟨{
      srv := srv.only key
      sent := []
      result := .error (.attachToGame .idEmpty) }, ?_, rfl, rfl⟩
    unfold Server.attachToGame
    rw [if_pos hlen]
    rfl
  · obtain ⟨h0, hsrv, hsent⟩ := attach_refused hcounters hroom hrefuses hfail
    have halone : (srv.only key).Refuses env c requested := by
      unfold Server.Refuses at hrefuses ⊢
      rw [Server.requestedGame_of_ne h0] at hrefuses
      rw [Server.requestedGame_of_ne h0, lookup_only]
      split
      · exact hrefuses
      · exact Or.inl rfl
    obtain ⟨err', hdown⟩ := attachToGame_refused hrequested halone
    rw [Server.requestedGame_of_ne h0] at hdown
    exact ⟨_, hdown, by rw [hsrv], hsent.symm⟩
  · obtain rfl := Server.complete_eq_some h
    -- the game that it joins is the group's
    have hjoined : ((srv.requestedGame env requested).1.setGame (srv.requestedGame env requested).2
        (found.joined c bind)).games.lookup (srv.requestedGame env requested).2
          = some (found.joined c bind) := Server.lookup_setGame_self hfound
    have hplays := hapart _ _ hjoined c (by simp [Game.clientIds, Game.joined, Player.new])
    rw [hmine] at hplays
    have hkey := of_decide_eq_true hplays.symm
    have hfresh : requested = 0 → srv.gamesIdUniq + 1 ∉ srv.games ∧
        srv.gamesIdUniq.toNat < (srv.gamesIdUniq + 1).toNat := by
      rintro rfl
      have hle : srv.gamesIdUniq.toNat ≤ (srv.gamesIdUniq + 1).toNat := by
        have hcounter : (srv.requestedGame env 0).1.gamesIdUniq = srv.gamesIdUniq + 1 :=
          requestedGame_counter
        rw [← hcounter]
        exact hroom
      have hin := hcounters.fresh hle
      have hne : srv.gamesIdUniq.toNat ≠ (srv.gamesIdUniq + 1).toNat := fun heq =>
        absurd (BitVec.eq_of_toNat_eq heq) (by bv_omega)
      exact ⟨hin, by omega⟩
    have hrequest := requestedGame_only hkey hfresh
    rw [hkey] at hfound hapart ⊢
    have hlen : ¬ packet.data.length ≠ 4 := by
      rw [← toLeBytes32_of_sliceLeToI32 hrequested]
      simp
    refine ⟨{
      srv := ((srv.requestedGame env requested).1.setGame key (found.joined c bind)).only key
      sent := _
      result := .ok .complete }, ?_, rfl, rfl⟩
    unfold Server.attachToGame
    rw [if_neg hlen, hrequested]
    simp only [Option.bind_eq_bind, Option.bind_some]
    rw [hrequest]
    dsimp only
    rw [lookup_only_self, hfound]
    simp only [attachPlayer_joined hfree, Option.bind_some, hoffsets, hpackets, htime]
    rw [← setGame_only hfound, hapart.notifyPlayer hmine]
    rfl

/-! ### Coming back -/

theorem mem_restored {playerId : UInt8} {player : Player}
    (hfind : game.players.find? (fun p => p.bindId = some playerId) = some player) :
    c ∈ (game.restored c playerId).clientIds := by
  obtain ⟨l₁, l₂, -, -, -, hmod⟩ := List.modifyFirst_split
    (f := fun p => { p with clientId := c, disconnectedUntil := none }) hfind
  show c ∈ (game.players.modifyFirst _ _).map Player.clientId
  rw [hmod]
  simp

/-- The player that comes back is in the group's game if it is one of the group. -/
theorem restored_plays {gameId : GameID} {playerId : UInt8} {player : Player}
    (hlookup : srv.games.lookup gameId = some game)
    (hfind : game.players.find? (fun p => p.bindId = some playerId) = some player)
    (hapart : Apart mine key (if player.clientId ≠ c then
      (srv.setGame gameId (game.restored c playerId)).dropClient player.clientId
      else srv.setGame gameId (game.restored c playerId))) : mine c = decide (gameId = key) := by
  have hrestored : (srv.setGame gameId (game.restored c playerId)).games.lookup gameId
      = some (game.restored c playerId) := Server.lookup_setGame_self hlookup
  refine hapart gameId (game.restored c playerId) ?_ c (mem_restored hfind)
  split <;> exact hrestored

/-- **One of the group comes back with the other games away.** -/
theorem restoreConnection_only (hmine : mine c = true) (hapart : Apart mine key r.srv)
    (h : srv.restoreConnection packet c = some r) :
    ∃ r', (srv.only key).restoreConnection packet c = some r' ∧ r'.srv = r.srv.only key ∧
      r'.sent = r.sent ∧ r'.result = r.result := by
  unfold Server.restoreConnection at h ⊢
  by_cases hlen : packet.data.length ≠ 5
  · rw [if_pos hlen] at h ⊢
    obtain rfl := Server.fail_eq_some h
    exact ⟨_, rfl, rfl, rfl, rfl⟩
  rw [if_neg hlen] at h ⊢
  simp only [Option.bind_eq_bind, Option.bind_eq_some_iff] at h
  obtain ⟨data, hdata, gameId, hid, playerId, hplayerId, h⟩ := h
  simp only [hdata, hid, hplayerId, Option.bind_eq_bind, Option.bind_some]
  rw [lookup_only]
  split at h
  · rename_i hnone
    simp only [Option.bind_eq_some_iff, Option.some.injEq] at h
    obtain ⟨answer, hanswer, rfl⟩ := h
    rw [hnone, ite_self]
    simp only [hanswer, Option.bind_some]
    exact ⟨_, rfl, rfl, rfl, rfl⟩
  rename_i game hlookup
  split at h
  · rename_i hnone
    simp only [Option.bind_eq_some_iff, Option.some.injEq] at h
    obtain ⟨answer, hanswer, rfl⟩ := h
    by_cases hkey : gameId = key
    · rw [if_pos hkey, hlookup]
      simp only [hnone, hanswer, Option.bind_some]
      exact ⟨_, rfl, rfl, rfl, rfl⟩
    · rw [if_neg hkey]
      simp only [hanswer, Option.bind_some]
      exact ⟨_, rfl, rfl, rfl, rfl⟩
  · rename_i player hfind
    simp only [Option.bind_eq_some_iff, Option.some.injEq] at h
    obtain ⟨answer, hanswer, rfl⟩ := h
    have hplays := restored_plays hlookup hfind hapart
    rw [hmine] at hplays
    obtain rfl := of_decide_eq_true hplays.symm
    rw [if_pos rfl]
    simp only [hlookup, hfind, hanswer, Option.bind_some]
    refine ⟨_, rfl, ?_, rfl, rfl⟩
    dsimp only
    rw [← setGame_only hlookup]
    split <;> rfl

end

end VangersSrv
