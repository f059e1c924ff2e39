/-
Who sits where.

A player's seat is its number in its game, the connection that speaks for it and its
deadline.  Most requests leave every seat alone; an attach adds one, a restore hands one
over and a closed socket empties those of its connection.  A `Roster` records beside the
server which connections were given a player, so that a run can say that none was given two.
-/
import VangersSrv.Server.Holders

namespace VangersSrv

/-! ### Seats -/

/-- What decides who a player is and whether it is about to expire. -/
def Player.seat (p : Player) : Option UInt8 × ClientID × Option Instant :=
  (p.bindId, p.clientId, p.disconnectedUntil)

/-- A request that gives its sender a player. -/
inductive GivesPlayer (srv : Server) (packet : Packet) : Prop
  | attach {requested : I32} (haction : packet.action = .attachToGame)
      (hrequested : sliceLeToI32 packet.data = some requested)
      (haccepts : srv.AcceptsAttach requested) : GivesPlayer srv packet
  | restore {gameId : GameID} {playerId : UInt8} {game : Game} {player : Player}
      (haction : packet.action = .restoreConnection)
      (hdata : packet.data = toLeBytes32 gameId ++ [playerId])
      (hlookup : srv.games.lookup gameId = some game)
      (hfind : game.players.find? (fun p => p.bindId = some playerId) = some player) :
      GivesPlayer srv packet

/-- How the seats of two states are related by a request of a connection. -/
structure Seats (packet : Packet) (c : ClientID) (srv srv' : Server) : Prop where
  /-- Every seat was there before, or is new, without a deadline and the sender's. -/
  back : ∀ k g' q, srv'.games.lookup k = some g' → q ∈ g'.players →
    (∃ g p, srv.games.lookup k = some g ∧ p ∈ g.players ∧ q.seat = p.seat) ∨
      (q.disconnectedUntil = none ∧ q.clientId = c ∧ GivesPlayer srv packet)
  /-- Every player keeps its number, or its connection closed its socket. -/
  forward : ∀ k g p, srv.games.lookup k = some g → p ∈ g.players →
    (∃ g' q, srv'.games.lookup k = some g' ∧ q ∈ g'.players ∧ q.bindId = p.bindId) ∨
      (packet.action = .closeSocket ∧ p.clientId = c)

/-- Every seat stays as it is. -/
structure SeatsKept (srv srv' : Server) : Prop where
  back : ∀ k g' q, srv'.games.lookup k = some g' → q ∈ g'.players →
    ∃ g p, srv.games.lookup k = some g ∧ p ∈ g.players ∧ q.seat = p.seat
  forward : ∀ k g p, srv.games.lookup k = some g → p ∈ g.players →
    ∃ g' q, srv'.games.lookup k = some g' ∧ q ∈ g'.players ∧ q.seat = p.seat

section

variable {env : Env} {packet : Packet} {c : ClientID} {srv srv' mid : Server} {sent : List Sent}
  {key k : GameID} {game game' : Game} {player : Player} {b : UInt8} {r : Reply}

theorem Player.seat_eq {p q : Player} (h : q.seat = p.seat) :
    q.bindId = p.bindId ∧ q.clientId = p.clientId ∧ q.disconnectedUntil = p.disconnectedUntil := by
  simpa [Player.seat] using h

theorem SeatsKept.refl (srv : Server) : SeatsKept srv srv :=
  ⟨fun _ g q hk hq => ⟨g, q, hk, hq, rfl⟩, fun _ g p hk hp => ⟨g, p, hk, hp, rfl⟩⟩

theorem SeatsKept.seats (h : SeatsKept srv srv') : Seats packet c srv srv' := by
  refine ⟨fun k g' q hk hq => Or.inl (h.back k g' q hk hq), fun k g p hk hp => Or.inl ?_⟩
  obtain ⟨g', q, hk', hq, hseat⟩ := h.forward k g p hk hp
  exact ⟨g', q, hk', hq, (Player.seat_eq hseat).1⟩

theorem SeatsKept.setGame (hlookup : srv.games.lookup key = some game)
    (hseats : game'.players.map Player.seat = game.players.map Player.seat) :
    SeatsKept srv (srv.setGame key game') := by
  have hfrom : ∀ {l l' : List Player} {p : Player}, p ∈ l → l.map Player.seat = l'.map Player.seat →
      ∃ q ∈ l', p.seat = q.seat := by
    intro l l' p hp hmap
    have hmem : p.seat ∈ l'.map Player.seat := by
      rw [← hmap]
      exact List.mem_map_of_mem hp
    obtain ⟨q, hq, hqp⟩ := List.mem_map.mp hmem
    exact ⟨q, hq, hqp.symm⟩
  constructor
  · intro k g' q hk hq
    rw [Server.lookup_setGame hlookup] at hk
    split at hk
    · rename_i hkey
      cases hk
      obtain ⟨p, hp, hseat⟩ := hfrom hq hseats
      exact ⟨game, p, by rw [hkey]; exact hlookup, hp, hseat⟩
    · exact ⟨g', q, hk, hq, rfl⟩
  · intro k g p hk hp
    by_cases hkey : k = key
    · subst hkey
      rw [hlookup] at hk
      cases hk
      obtain ⟨q, hq, hseat⟩ := hfrom hp hseats.symm
      exact ⟨game', q, Server.lookup_setGame_self hlookup, hq, hseat.symm⟩
    · exact ⟨g, p, by rw [Server.lookup_setGame_of_ne hkey]; exact hk, hp, rfl⟩

theorem Seats.setGame (hlookup : srv.games.lookup key = some game)
    (hseats : game'.players.map Player.seat = game.players.map Player.seat) :
    Seats packet c srv (srv.setGame key game') :=
  (SeatsKept.setGame hlookup hseats).seats

/-- Two requests, the first of which leaves the seats alone. -/
theorem SeatsKept.andThen (h : SeatsKept srv mid) (h' : Seats packet c mid srv')
    (hgives : ¬ GivesPlayer mid packet) : Seats packet c srv srv' := by
  constructor
  · intro k g' q hk hq
    rcases h'.back k g' q hk hq with ⟨g, p, hg, hp, hseat⟩ | ⟨-, -, hnew⟩
    · obtain ⟨g₀, p₀, hg₀, hp₀, hseat₀⟩ := h.back k g p hg hp
      exact Or.inl ⟨g₀, p₀, hg₀, hp₀, hseat.trans hseat₀⟩
    · exact absurd hnew hgives
  · intro k g p hk hp
    obtain ⟨g₁, q₁, hk₁, hq₁, hseat⟩ := h.forward k g p hk hp
    obtain ⟨hbind, hclient, -⟩ := Player.seat_eq hseat
    rcases h'.forward k g₁ q₁ hk₁ hq₁ with ⟨g', q, hk', hq, hsame⟩ | ⟨haction, hc⟩
    · exact Or.inl ⟨g', q, hk', hq, hsame.trans hbind⟩
    · exact Or.inr ⟨haction, hclient.symm.trans hc⟩

/-! ### Effects -/

theorem Prelude.seatsKept (h : Prelude env packet c srv sent srv') : SeatsKept srv srv' := by
  cases h with
  | playerChanged hgame hplayer hclient hbind _ hdeadline _ =>
      refine SeatsKept.setGame (Server.getGameByClientid_lookup hgame) ?_
      refine List.map_modifyFirst fun p hp => ?_
      rw [Option.some.inj (hp.symm.trans hplayer)]
      simp [Player.seat, Player.bindId, hclient, hbind, hdeadline]
  | left _ _ hacting _ _ _ =>
      exact SeatsKept.setGame (Server.getGameByClientid_lookup hacting.inGame)
        (List.map_modifyFirst fun _ _ => rfl)

/-- A write to one game: it is enough to account for the players of that game. -/
theorem Seats.write (hlookup : srv.games.lookup key = some game)
    (hback : ∀ q ∈ game'.players, (∃ p ∈ game.players, q.seat = p.seat) ∨
      (q.disconnectedUntil = none ∧ q.clientId = c ∧ GivesPlayer srv packet))
    (hforward : ∀ p ∈ game.players, ∃ q ∈ game'.players, q.bindId = p.bindId) :
    Seats packet c srv (srv.setGame key game') := by
  constructor
  · intro k g' q hk hq
    rw [Server.lookup_setGame hlookup] at hk
    split at hk
    · rename_i hkey
      cases hk
      exact (hback q hq).imp_left fun ⟨p, hp, hseat⟩ =>
        ⟨game, p, by rw [hkey]; exact hlookup, hp, hseat⟩
    · exact Or.inl ⟨g', q, hk, hq, rfl⟩
  · intro k g p hk hp
    by_cases hkey : k = key
    · subst hkey
      cases hk.symm.trans hlookup
      obtain ⟨q, hq, hbind⟩ := hforward p hp
      exact Or.inl ⟨game', q, Server.lookup_setGame_self hlookup, hq, hbind⟩
    · exact Or.inl ⟨g, p, by rw [Server.lookup_setGame_of_ne hkey]; exact hk, hp, rfl⟩

/-- A connection joins a game. -/
theorem Seats.joined {bind : Bind} (hgames : mid.games = srv.games)
    (hlookup : srv.games.lookup key = some game) (hgives : GivesPlayer srv packet) :
    Seats packet c srv (mid.setGame key (game.joined c bind)) := by
  have hmid : mid.setGame key (game.joined c bind)
      = { mid with games := (srv.setGame key (game.joined c bind)).games } := by
    simp [Server.setGame, hgames]
  have hset : Seats packet c srv (srv.setGame key (game.joined c bind)) := by
    refine Seats.write hlookup (fun q hq => ?_) fun p hp => ⟨p, List.mem_append_left _ hp, rfl⟩
    rcases List.mem_append.mp hq with hold | hnew
    · exact Or.inl ⟨q, hold, rfl⟩
    · rw [List.mem_singleton.mp hnew]
      exact Or.inr ⟨rfl, rfl, hgives⟩
  rw [hmid]
  exact ⟨hset.back, hset.forward⟩

/-- A connection takes over a seat. -/
theorem Seats.restored {playerId : UInt8} (hlookup : srv.games.lookup key = some game)
    (hgives : GivesPlayer srv packet) :
    Seats packet c srv (srv.setGame key (game.restored c playerId)) := by
  have hbinds : (game.restored c playerId).players.map Player.bindId
      = game.players.map Player.bindId := List.map_modifyFirst fun _ _ => rfl
  refine Seats.write hlookup (fun q hq => ?_) fun p hp => ?_
  · rcases List.mem_modifyFirst hq with hold | ⟨p, -, rfl⟩
    · exact Or.inl ⟨q, hold, rfl⟩
    · exact Or.inr ⟨rfl, rfl, hgives⟩
  · have hmem : p.bindId ∈ (game.restored c playerId).players.map Player.bindId := by
      rw [hbinds]
      exact List.mem_map_of_mem hp
    exact List.mem_map.mp hmem

/-- The seats of one connection in one game are emptied, and perhaps the game goes. -/
theorem Seats.closed (hlookup : srv.games.lookup key = some game)
    (haction : packet.action = .closeSocket)
    (hplayers : game'.players = game.players.filter fun p => p.clientId ≠ c)
    (hsame : ∀ k, k ≠ key → srv'.games.lookup k = srv.games.lookup k)
    (hat : srv'.games.lookup key = none ∧ game'.players = [] ∨
      srv'.games.lookup key = some game') : Seats packet c srv srv' := by
  constructor
  · intro k g' q hk hq
    by_cases hkey : k = key
    · subst hkey
      rcases hat with ⟨hnone, -⟩ | hsome
      · rw [hnone] at hk
        cases hk
      · rw [hsome] at hk
        cases hk
        rw [hplayers] at hq
        exact Or.inl ⟨game, q, hlookup, (List.mem_filter.mp hq).1, rfl⟩
    · exact Or.inl ⟨g', q, by rw [← hsame k hkey]; exact hk, hq, rfl⟩
  · intro k g p hk hp
    by_cases hkey : k = key
    · subst hkey
      rw [hlookup] at hk
      cases hk
      by_cases hc : p.clientId = c
      · exact Or.inr ⟨haction, hc⟩
      · have hmem : p ∈ game'.players := by
          rw [hplayers]
          exact List.mem_filter.mpr ⟨hp, by simpa using hc⟩
        rcases hat with ⟨-, hnil⟩ | hsome
        · rw [hnil] at hmem
          simp at hmem
        · exact Or.inl ⟨game', p, hsome, hmem, rfl⟩
    · exact Or.inl ⟨g, p, by rw [hsame k hkey]; exact hk, hp, rfl⟩

theorem Effect.seats (h : Effect env packet c srv sent srv') (hok : RegistryOk srv) :
    Seats packet c srv srv' := by
  cases h with
  | prelude h => exact h.seatsKept.seats
  | quiet _ => exact (SeatsKept.refl srv).seats
  | gameChanged hgame =>
      exact Seats.setGame (Server.getGameByClientid_lookup hgame) rfl
  | counted _ _ _ =>
      exact ⟨(SeatsKept.refl srv).seats.back, (SeatsKept.refl srv).seats.forward⟩
  | @attached _ requested found bind haction hrequested hfound hfree _ =>
      have hgives : GivesPlayer srv packet :=
        .attach haction hrequested (OneHolder.acceptsAttach hfound hfree)
      rcases Server.requestedGame_cases hfound with ⟨key, n, hgame, hlookup⟩ | ⟨key, n, hgame, hin, rfl⟩
      · rw [hgame]
        exact Seats.joined rfl hlookup hgives
      · rw [hgame]
        constructor
        · intro k g' q hk hq
          by_cases hkey : k = key
          · subst hkey
            rw [Server.lookup_setGame_self (AList.lookup_insert _)] at hk
            cases hk
            rw [show q = _ from List.mem_singleton.mp hq]
            exact Or.inr ⟨rfl, rfl, hgives⟩
          · rw [Server.lookup_setGame_of_ne hkey] at hk
            exact Or.inl ⟨g', q, by rw [← AList.lookup_insert_ne hkey]; exact hk, hq, rfl⟩
        · intro k g p hk hp
          have hkey : k ≠ key := by
            rintro rfl
            exact hin (AList.mem_iff_lookup.mpr ⟨g, hk⟩)
          refine Or.inl ⟨g, p, ?_, hp, rfl⟩
          rw [Server.lookup_setGame_of_ne hkey, AList.lookup_insert_ne hkey]
          exact hk
  | @restored _ gameId playerId game player haction hdata hlookup hfind hsrv =>
      have hset : Seats packet c srv (srv.setGame gameId (game.restored c playerId)) :=
        Seats.restored hlookup (.restore haction hdata hlookup hfind)
      rw [hsrv]
      split
      · exact ⟨hset.back, hset.forward⟩
      · exact hset
  | replayed _ _ _ => exact (SeatsKept.refl srv).seats
  | created _ hacting _ _ _ _ =>
      exact Seats.setGame (Server.getGameByClientid_lookup hacting.inGame) rfl
  | updated _ hacting _ _ _ _ _ =>
      exact Seats.setGame (Server.getGameByClientid_lookup hacting.inGame) rfl
  | deleted _ hacting _ _ _ =>
      exact Seats.setGame (Server.getGameByClientid_lookup hacting.inGame) rfl
  | deleteMissed _ hacting _ _ =>
      exact Seats.setGame (Server.getGameByClientid_lookup hacting.inGame) rfl
  | transferred _ hacting _ _ _ _ _ =>
      exact Seats.setGame (Server.getGameByClientid_lookup hacting.inGame) rfl
  | worldMade hgame _ _ _ =>
      exact Seats.setGame (Server.getGameByClientid_lookup hgame) rfl
  | entered _ _ hacting _ _ _ _ _ _ _ =>
      exact Seats.setGame (Server.getGameByClientid_lookup hacting.inGame)
        (List.map_modifyFirst fun _ _ => rfl)
  | closed haction hacting _ _ =>
      have hlookup := Server.getGameByClientid_lookup hacting.inGame
      exact Seats.closed hlookup haction rfl (fun k hkey => Server.lookup_setGame_of_ne hkey)
        (Or.inr (Server.lookup_setGame_self hlookup))
  | @closedLast _ key game player bind haction hacting hothers _ =>
      have hlookup := Server.getGameByClientid_lookup hacting.inGame
      have hid := hok.keyed key game hlookup
      have hplayers : (game.closed c player).players
          = game.players.filter fun p => p.clientId ≠ c := rfl
      refine Seats.closed hlookup haction hplayers ?_ (Or.inl ⟨?_, hothers⟩)
      · intro k hkey
        show ((srv.games.replace key _).erase game.id).lookup k = _
        rw [AList.lookup_erase', hid, if_neg hkey, AList.lookup_replace_of_ne _ hkey]
      · show ((srv.games.replace key _).erase game.id).lookup key = none
        rw [AList.lookup_erase', hid, if_pos rfl]

theorem Handled.seats (h : Handled env packet c srv sent srv') (hok : RegistryOk srv) :
    Seats packet c srv srv' := by
  cases h with
  | one h => exact h.seats hok
  | two haction h₁ h₂ =>
      refine h₁.seatsKept.andThen (h₂.seats (RegistryOk.prelude h₁ hok)) ?_
      simp only [List.mem_cons, List.not_mem_nil, or_false] at haction
      rintro (⟨ha, -, -⟩ | ⟨ha, -, -, -⟩) <;> rcases haction with h' | h' | h' <;> simp [ha] at h'

theorem Rehash.seatsKept (h : Rehash srv srv') : SeatsKept srv srv' := by
  cases h with
  | games hperm =>
      refine ⟨fun k g q hk hq => ⟨g, q, ?_, hq, rfl⟩, fun k g p hk hp => ⟨g, p, ?_, hp, rfl⟩⟩
      · rw [← AList.perm_lookup (a := k) hperm]
        exact hk
      · rw [← hk]
        exact AList.perm_lookup (a := k) hperm
  | vanjects hlookup _ => exact SeatsKept.setGame hlookup rfl

end

end VangersSrv
