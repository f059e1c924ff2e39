/-
Disconnect, restore and expiry.

A lost connection starts a deadline on its player, a restore hands the player to a new
connection and takes the deadline away, and a tick closes every player whose deadline has
passed.  The three are processed in any order.  What keeps them apart is that a deadline
always belongs to the connection that currently speaks for its player (`Step.deadline`), and that a
connection that was given one player speaks for no other.
-/
import VangersSrv.Server.Seats

namespace VangersSrv

/-! ### Connections that were given a player -/

/-- Whether a request is an attach or a restore, and succeeds. -/
def Server.attachesOrRestores (env : Env) (srv : Server) (c : ClientID) (packet : Packet) : Bool :=
  match packet.action, (srv.onUpdate env c packet).map Reply.result with
  | .attachToGame, some (.ok _) => true
  | .restoreConnection, some (.ok (.response answer)) => answer.data = [1]
  | _, _ => false

/-- The connection that a round gives a player, if it gives one. -/
def Server.given (srv : Server) : Option Event → List ClientID
  | some { env, input := .message c (.updated packet), .. } =>
    if srv.attachesOrRestores env c packet then [c] else []
  | _ => []

/-- The server, and the connections that were given a player, each as often as it was. -/
structure Roster where
  srv : Server
  given : List ClientID

/-- One round, with the roster kept. -/
def RosterStep (s : Roster) (e : Option Event) (s' : Roster) : Prop :=
  Step s.srv e s'.srv ∧ s'.given = s.given ++ s.srv.given e

/-- A run of the server from its start, with the roster kept. -/
def RosterRun (start : Instant) (tr : List (Option Event)) (s : Roster) : Prop :=
  Transition.Run RosterStep { srv := Server.new start, given := [] } tr s

/-! ### What a run says about its players -/

/-- The player's number is no longer taken in its game. -/
def Removed (srv : Server) (k : GameID) (p : Player) : Prop :=
  ∀ g, srv.games.lookup k = some g → ∀ q ∈ g.players, q.bindId ≠ p.bindId

/-- A request to restore the player with the number of `p`. -/
def Restores (e : Option Event) (k : GameID) (p : Player) : Prop :=
  ∃ event c packet playerId, e = some event ∧ event.input = .message c (.updated packet) ∧
    packet.action = .restoreConnection ∧ packet.data = toLeBytes32 k ++ [playerId] ∧
    p.bindId = some playerId

/-- The disconnect of the player's current connection was processed at a time `t`, and
nobody asked to restore the player since. -/
def DisconnectedAt (tr : List (Option Event)) (k : GameID) (p : Player) (t : Instant) : Prop :=
  ∃ tr₁ event tr₂, tr = tr₁ ++ some event :: tr₂ ∧
    event.input = .message p.clientId .disconnected ∧ event.env.now = t ∧
    ∀ e ∈ tr₂, ¬ Restores e k p

/-- A round removes a player only for its own connection's closing, or after its deadline. -/
def RemovalOk (tr : List (Option Event)) (srv : Server) (e : Option Event) (srv' : Server) : Prop :=
  ∀ k g p, srv.games.lookup k = some g → p ∈ g.players → Removed srv' k p →
    ∃ event, e = some event ∧
      ((∃ packet, event.input = .message p.clientId (.updated packet) ∧
          packet.action = .closeSocket) ∨
        (event.input = .tick ∧
          ∃ t, DisconnectedAt tr k p t ∧ t + Server.disconnectedPlayerTtl ≤ event.env.now))

/-- A restore request changes nothing, or the connection and the deadline of one player, and
the player's old connection goes. -/
def RestoreOk (srv : Server) (e : Option Event) (srv' : Server) : Prop :=
  ∀ event c packet, e = some event → event.input = .message c (.updated packet) →
    packet.action = .restoreConnection →
    srv' = srv ∨ ∃ k playerId g p l₁ l₂, packet.data = toLeBytes32 k ++ [playerId] ∧
      srv.games.lookup k = some g ∧ g.players = l₁ ++ p :: l₂ ∧ p.bindId = some playerId ∧
      srv' = { srv with
        games := srv.games.replace k
          { g with players := l₁ ++ { p with clientId := c, disconnectedUntil := none } :: l₂ }
        clients := srv.clients.filter fun cl => p.clientId = c ∨ cl.id ≠ p.clientId }

/-- The deadline that a lost connection sets has passed. -/
def Player.PastDeadline (p : Player) (now : Instant) : Prop :=
  ∃ deadline, p.disconnectedUntil = some deadline ∧ deadline ≤ now

/-- A tick removes the players whose deadline has passed and leaves the others as they are. -/
def TickOk (srv : Server) (e : Option Event) (srv' : Server) : Prop :=
  ∀ event, e = some event → event.input = .tick →
    (∀ k g p, srv.games.lookup k = some g → p ∈ g.players →
      (p.PastDeadline event.env.now → Removed srv' k p) ∧
      (¬ p.PastDeadline event.env.now → ∃ g', srv'.games.lookup k = some g' ∧ p ∈ g'.players)) ∧
    (∀ k g' q, srv'.games.lookup k = some g' → q ∈ g'.players →
      ∃ g, srv.games.lookup k = some g ∧ q ∈ g.players)

section

variable {env : Env} {packet : Packet} {c : ClientID} {srv srv' mid : Server} {sent : List Sent}
  {key k : GameID} {game game' g : Game} {player p : Player} {b : UInt8} {r : Reply}
  {e : Option Event}

/-! ### Nobody is given two players -/

/-- A game that accepts an attach is found, with a free number. -/
theorem Server.AcceptsAttach.found {requested : I32} (h : srv.AcceptsAttach requested) (env : Env) :
    ∃ found b, (srv.requestedGame env requested).1.games.lookup
      (srv.requestedGame env requested).2 = some found ∧ found.getUniqPlayerId = some b := by
  unfold Server.AcceptsAttach at h
  split at h
  · rename_i h0
    subst h0
    by_cases hin : srv.gamesIdUniq + 1 ∈ srv.games
    · obtain ⟨g, hg⟩ := AList.mem_iff_lookup.mp hin
      obtain ⟨b, hb⟩ := Option.isSome_iff_exists.mp (h g hg)
      rw [Server.requestedGame_taken hin]
      exact ⟨g, b, hg, hb⟩
    · rw [Server.requestedGame_fresh hin]
      exact ⟨_, 1, AList.lookup_insert _, rfl⟩
  · rename_i h0
    obtain ⟨g, hg, hfree⟩ := h
    obtain ⟨b, hb⟩ := Option.isSome_iff_exists.mp hfree
    rw [Server.requestedGame_of_ne h0]
    exact ⟨g, b, hg, hb⟩

/-- A request that gives its sender a player succeeds. -/
theorem GivesPlayer.succeeds (hgives : GivesPlayer srv packet)
    (h : srv.onUpdate env c packet = some r) : srv.attachesOrRestores env c packet = true := by
  obtain ⟨reply, hreply, hresult, -, -⟩ := onUpdate_result h
  unfold Server.attachesOrRestores
  rw [h, Option.map_some, hresult]
  cases hgives with
  | attach haction hrequested haccepts =>
      obtain ⟨found, b, hfound, hfree⟩ := haccepts.found env
      rw [Server.handle, haction] at hreply
      rw [haction, attachToGame_ok hrequested hfound hfree hreply]
  | @restore gameId playerId game player haction hdata hlookup hfind =>
      rw [Server.handle, haction] at hreply
      rcases restoreConnection_cases hreply with ⟨hnone, -⟩ | ⟨_, _, _, _, answer, -, -, -, hanswer, rfl⟩
      · rw [hnone gameId playerId game hdata hlookup] at hfind
        cases hfind
      · simp [haction, (Packet.new_eq_some hanswer).2.1]

/-- What holds as long as nobody is given two players. -/
structure RosterOk (s : Roster) : Prop where
  registry : RegistryOk s.srv
  oneHolder : OneHolder s.srv
  /-- Whoever holds a player was given one. -/
  holders : ∀ k g p, s.srv.games.lookup k = some g → p ∈ g.players → p.clientId ∈ s.given

/-- A connection that is given its first player held none. -/
theorem RosterOk.soleHolder {s s' : Roster} {event : Event} (hok : RosterOk s)
    (hstep : RosterStep s (some event) s') (honce : s'.given.Nodup) :
    SoleHolderInput s.srv event.input := by
  obtain ⟨env, input, sent⟩ := event
  obtain ⟨hstep, hgiven⟩ := hstep
  match input with
  | .tick => trivial
  | .add _ => trivial
  | .message _ (.status _) => trivial
  | .message _ .disconnected => trivial
  | .message c (.updated packet) =>
    have hnone : GivesPlayer s.srv packet →
        ∀ k g p, s.srv.games.lookup k = some g → p ∈ g.players → p.clientId ≠ c := by
      intro hgives k g p hk hp hc
      obtain ⟨reply, hreply, -⟩ := hstep.onUpdate
      simp only [Server.given, hgives.succeeds hreply, if_true] at hgiven
      rw [hgiven, List.nodup_append'] at honce
      exact honce.2.2 (hok.holders k g p hk hp) (by simp [hc])
    constructor
    · intro haction requested hrequested haccepts k g hk hmem
      obtain ⟨p, hp, hpc⟩ := List.mem_map.mp hmem
      exact hnone (.attach haction hrequested haccepts) k g p hk hp hpc
    · intro haction gameId playerId game player hdata hlookup hfind k g p hk hp hpc
      exact absurd hpc (hnone (.restore haction hdata hlookup hfind) k g p hk hp)

/-- Whoever holds a player after a round held it before or is given it. -/
theorem Step.holders {given : List ClientID} (h : Step srv e srv') (hok : RegistryOk srv)
    (hin : ∀ k g p, srv.games.lookup k = some g → p ∈ g.players → p.clientId ∈ given) :
    ∀ k g p, srv'.games.lookup k = some g → p ∈ g.players → p.clientId ∈ given ++ srv.given e := by
  have hkept : ∀ {mid mid' : Server} {given' : List ClientID}, SeatsKept mid mid' →
      (∀ k g p, mid.games.lookup k = some g → p ∈ g.players → p.clientId ∈ given') →
      ∀ k g p, mid'.games.lookup k = some g → p ∈ g.players → p.clientId ∈ given' := by
    intro mid mid' given' hseats hmid k g q hk hq
    obtain ⟨g₀, p₀, hk₀, hp₀, hseat⟩ := hseats.back k g q hk hq
    rw [(Player.seat_eq hseat).2.1]
    exact hmid k g₀ p₀ hk₀ hp₀
  refine (h.preserves (P := fun mid => RegistryOk mid ∧ ∀ k g p, mid.games.lookup k = some g →
    p ∈ g.players → p.clientId ∈ given ++ srv.given e) ?_ ?_ ?_ ?_ ⟨hok, ?_⟩).2
  · rintro env packet c mid mid' sent origin hh ⟨hmid, hmin⟩
    refine ⟨hmid.handled hh, fun k g q hk hq => ?_⟩
    rcases (hh.seats hmid).back k g q hk hq with ⟨g₀, p₀, hk₀, hp₀, hseat⟩ | ⟨-, hc, hgives⟩
    · rw [(Player.seat_eq hseat).2.1]
      exact hmin k g₀ p₀ hk₀ hp₀
    · cases origin with
      | tick _ => cases hgives with
        | attach ha _ _ => cases ha
        | restore ha _ _ _ => cases ha
      | message he =>
          subst he
          obtain ⟨reply, hreply, -⟩ := h.onUpdate
          simp [Server.given, hgives.succeeds hreply, hc]
  · rintro env c mid ⟨hmid, hmin⟩
    refine ⟨hmid.mark, fun k g q hk hq => ?_⟩
    unfold Server.markPlayerDisconnected at hk
    split at hk
    · rename_i key game hgame
      have hlookup := Server.getGameByClientid_lookup hgame
      rw [Server.lookup_setGame hlookup] at hk
      split at hk
      · cases hk
        rcases List.mem_modifyFirst hq with hold | ⟨p₀, hp₀, rfl⟩
        · exact hmin key game q hlookup hold
        · exact hmin key game p₀ hlookup (List.mem_of_find?_eq_some hp₀)
      · exact hmin k g q hk hq
    · exact hmin k g q hk hq
  · exact fun mid clients hmid => ⟨hmid.1.setClients clients, hmid.2⟩
  · exact fun mid mid' hr hmid => ⟨hmid.1.rehash hr, hkept hr.seatsKept hmid.2⟩
  · exact fun k g p hk hp => List.mem_append_left _ (hin k g p hk hp)

theorem RosterStep.ok {s s' : Roster} (h : RosterStep s e s') (hok : RosterOk s)
    (honce : s'.given.Nodup) : RosterOk s' := by
  have hsole : ∀ event, e = some event → SoleHolderInput s.srv event.input := by
    rintro event rfl
    exact hok.soleHolder h honce
  refine ⟨h.1.registryOk hok.registry, h.1.oneHolder hok.registry hsole hok.oneHolder, ?_⟩
  rw [h.2]
  exact h.1.holders hok.registry hok.holders

/-- In a run in which nobody is given two players the roster is in order. -/
theorem RosterRun.ok {start : Instant} {tr : List (Option Event)} {s : Roster}
    (h : RosterRun start tr s) (honce : s.given.Nodup) : RosterOk s := by
  refine Transition.Run.invariant (P := fun s => s.given.Nodup → RosterOk s) h ?_ ?_ honce
  · intro _
    exact ⟨registryOk_new start, by constructor <;> simp [Server.new],
      fun k g p hk => by simp [Server.new] at hk⟩
  · intro a e b hstep ih hb
    refine hstep.ok (ih ?_) hb
    rw [hstep.2] at hb
    exact (List.nodup_append'.mp hb).1

/-! ### What a tick removes -/

/-- The players of the connections go, and so does a game that is left with none. -/
structure Drops (ids : List ClientID) (srv srv' : Server) : Prop where
  back : ∀ k g', srv'.games.lookup k = some g' →
    ∃ g, srv.games.lookup k = some g ∧ g'.players = g.players.filter fun p => p.clientId ∉ ids
  forward : ∀ k g, srv.games.lookup k = some g →
    (g.players.filter fun p => p.clientId ∉ ids) ≠ [] → ∃ g', srv'.games.lookup k = some g'

theorem Drops.cons {ids : List ClientID} (h : Drops [c] srv mid) (h' : Drops ids mid srv') :
    Drops (c :: ids) srv srv' := by
  have hfilter : ∀ l : List Player, (l.filter fun p => p.clientId ∉ [c]).filter
      (fun p => p.clientId ∉ ids) = l.filter fun p => p.clientId ∉ c :: ids := by
    intro l
    rw [List.filter_filter]
    refine List.filter_congr fun p _ => ?_
    by_cases hc : p.clientId = c <;> simp [hc]
  constructor
  · intro k g' hk
    obtain ⟨g₁, hk₁, hplayers₁⟩ := h'.back k g' hk
    obtain ⟨g, hg, hplayers⟩ := h.back k g₁ hk₁
    exact ⟨g, hg, by rw [hplayers₁, hplayers, hfilter]⟩
  · intro k g hk hne
    rw [← hfilter] at hne
    have hfirst : (g.players.filter fun p => p.clientId ∉ [c]) ≠ [] := by
      intro hnil
      rw [hnil] at hne
      exact hne rfl
    obtain ⟨g₁, hk₁⟩ := h.forward k g hk hfirst
    obtain ⟨g₀, hg₀, hplayers⟩ := h.back k g₁ hk₁
    rw [hk] at hg₀
    cases hg₀
    exact h'.forward k g₁ hk₁ (by rw [hplayers]; exact hne)

/-- Closing a socket drops the one player that its connection holds. -/
theorem closeSocket_drops (hok : RegistryOk srv) (hone : OneHolder srv)
    (h : srv.closeSocket env c = some r) : Drops [c] srv r.srv := by
  -- where the connection holds nothing, nothing is filtered out
  have hall : ∀ {g : Game}, c ∉ g.clientIds →
      (g.players.filter fun p => p.clientId ∉ [c]) = g.players := by
    intro g hnot
    refine List.filter_eq_self.mpr fun p hp => ?_
    have hpc : p.clientId ≠ c := fun hpc => hnot (List.mem_map.mpr ⟨p, hp, hpc⟩)
    simpa using hpc
  cases hgame : srv.getGameByClientid c with
  | none =>
      have hnot : ∀ k g, srv.games.lookup k = some g → c ∉ g.clientIds := by
        intro k g hk hmem
        obtain ⟨p, hp, hpc⟩ := List.mem_map.mp hmem
        exact Server.getGameByClientid_eq_none.mp hgame k g hk p hp hpc
      rw [closeSocket_none hgame h]
      exact ⟨fun k g hk => ⟨g, hk, (hall (hnot k g hk)).symm⟩, fun k g hk _ => ⟨g, hk⟩⟩
  | some found =>
      obtain ⟨key, game⟩ := found
      have hlookup := Server.getGameByClientid_lookup hgame
      obtain ⟨player, b, hacting⟩ := hok.exists_acting hgame
      have hheld : c ∈ game.clientIds := Game.mem_clientIds hacting.found
      have hother : ∀ k g, k ≠ key → srv.games.lookup k = some g → c ∉ g.clientIds :=
        fun k g hne hk hmem => hone.apart k key g game hk hlookup hne hmem hheld
      obtain ⟨-, game', hplayers, -, hends⟩ := closeSocket_closes hacting h
      have hplayers' : game'.players = game.players.filter fun p => p.clientId ∉ [c] := by
        rw [hplayers]
        exact List.filter_congr fun p _ => by simp
      rcases hends with ⟨hempty, hsrv⟩ | ⟨-, hsrv⟩
      · have hlook : ∀ k, r.srv.games.lookup k = if k = key then none else srv.games.lookup k := by
          intro k
          rw [hsrv, AList.lookup_erase', hok.keyed key game hlookup]
          split
          · rfl
          · rename_i hkey
            exact AList.lookup_replace_of_ne _ hkey
        constructor
        · intro k g' hk
          rw [hlook] at hk
          split at hk
          · cases hk
          · rename_i hkey
            exact ⟨g', hk, (hall (hother k g' hkey hk)).symm⟩
        · intro k g hk hne
          rw [hlook]
          split
          · rename_i hkey
            rw [hkey, hlookup] at hk
            cases hk
            exact absurd (hplayers'.symm.trans hempty) hne
          · exact ⟨g, hk⟩
      · have hlook : ∀ k, r.srv.games.lookup k
            = if k = key then some game' else srv.games.lookup k := by
          intro k
          rw [hsrv]
          exact Server.lookup_setGame hlookup k
        constructor
        · intro k g' hk
          rw [hlook] at hk
          split at hk
          · rename_i hkey
            cases hk
            exact ⟨game, by rw [hkey]; exact hlookup, hplayers'⟩
          · rename_i hkey
            exact ⟨g', hk, (hall (hother k g' hkey hk)).symm⟩
        · intro k g hk _
          rw [hlook]
          split
          · exact ⟨game', rfl⟩
          · exact ⟨g, hk⟩

/-- Closing one socket after the other drops the players of all of them. -/
theorem closeAll_drops {ids : List ClientID} (hok : RegistryOk srv) (hone : OneHolder srv)
    (h : srv.closeAll env ids = some (srv', sent)) : Drops ids srv srv' := by
  induction ids generalizing srv sent with
  | nil =>
      simp only [Server.closeAll, Option.some.injEq, Prod.mk.injEq] at h
      rw [← h.1]
      exact ⟨fun k g hk => ⟨g, hk, by simp⟩, fun k g hk _ => ⟨g, hk⟩⟩
  | cons c rest ih =>
      simp only [Server.closeAll, Option.bind_eq_bind, Option.bind_eq_some_iff, Option.some.injEq,
        Prod.mk.injEq] at h
      obtain ⟨closed, hclosed, ⟨last, s⟩, hrest, rfl, -⟩ := h
      have hsound : Sound env closePacket c srv closed := closeSocket_sound rfl hclosed
      have hnext := hone.handled hsound.handled hok (SoleHolder.of_action (by decide))
      exact (closeSocket_drops hok hone hclosed).cons (ih (hok.handled hsound.handled) hnext hrest)

theorem isExpired_iff : Server.isExpired env.now p = true ↔ p.PastDeadline env.now := by
  unfold Server.isExpired Player.PastDeadline
  cases p.disconnectedUntil <;> simp

theorem mem_expiredClientIds {id : ClientID} :
    id ∈ srv.expiredClientIds env ↔ ∃ k g p, srv.games.lookup k = some g ∧ p ∈ g.players ∧
      Server.isExpired env.now p = true ∧ p.clientId = id := by
  simp only [Server.expiredClientIds, List.mem_map, List.mem_filter, List.mem_flatMap,
    AList.mem_values]
  constructor
  · rintro ⟨p, ⟨⟨g, ⟨k, hk⟩, hp⟩, hexpired⟩, rfl⟩
    exact ⟨k, g, p, hk, hp, hexpired, rfl⟩
  · rintro ⟨k, g, p, hk, hp, hexpired, rfl⟩
    exact ⟨p, ⟨⟨g, ⟨k, hk⟩, hp⟩, hexpired⟩, rfl⟩

/-- Players whose connections are distinct expire one by one. -/
theorem expiredClientIds_iff (hone : OneHolder srv) (hk : srv.games.lookup k = some g)
    (hp : p ∈ g.players) :
    p.clientId ∈ srv.expiredClientIds env ↔ p.PastDeadline env.now := by
  rw [mem_expiredClientIds, ← isExpired_iff]
  constructor
  · rintro ⟨k', g', q, hk', hq, hexpired, hc⟩
    have hp' := (hone.actsOnHolder k g p hk hp)
    obtain ⟨hgame, hplayer⟩ := hone.actsOnHolder k' g' q hk' hq
    rw [hc, hp'.1] at hgame
    simp only [Option.some.injEq, Prod.mk.injEq] at hgame
    obtain ⟨rfl, rfl⟩ := hgame
    rw [hc, hp'.2] at hplayer
    cases hplayer
    exact hexpired
  · exact fun hexpired => ⟨k, g, p, hk, hp, hexpired, rfl⟩

theorem Step.tickOk (h : Step srv e srv') (hok : RegistryOk srv) (hone : OneHolder srv) :
    TickOk srv e srv' := by
  rintro ⟨env, input, sent⟩ rfl hinput
  obtain rfl : input = .tick := hinput
  have hdrops : Drops (srv.expiredClientIds env) srv srv' := by
    cases h.round with
    | tick hall => exact closeAll_drops hok hone hall
  have hback : ∀ k g' q, srv'.games.lookup k = some g' → q ∈ g'.players →
      ∃ g, srv.games.lookup k = some g ∧ q ∈ g.players ∧
        q.clientId ∉ srv.expiredClientIds env := by
    intro k g' q hk hq
    obtain ⟨g, hg, hplayers⟩ := hdrops.back k g' hk
    rw [hplayers, List.mem_filter, decide_eq_true_eq] at hq
    exact ⟨g, hg, hq⟩
  refine ⟨?_, fun k g' q hk hq => ?_⟩
  · intro k g p hk hp
    refine ⟨fun hexpired g' hk' q hq hbind => ?_, fun hexpired => ?_⟩
    · obtain ⟨g₀, hg₀, hq₀, hnot⟩ := hback k g' q hk' hq
      rw [hk] at hg₀
      cases hg₀
      -- its number names the player, so the player left over would be the expired one
      have hsame : q = p :=
        List.inj_on_of_nodup_map (hok.game k g hk).distinct hq₀ hp hbind
      subst hsame
      exact hnot ((expiredClientIds_iff hone hk hp).mpr hexpired)
    · have hnot : p.clientId ∉ srv.expiredClientIds env :=
        fun hmem => hexpired ((expiredClientIds_iff hone hk hp).mp hmem)
      have hmem : p ∈ g.players.filter fun p => p.clientId ∉ srv.expiredClientIds env :=
        List.mem_filter.mpr ⟨hp, by simpa using hnot⟩
      obtain ⟨g', hk'⟩ := hdrops.forward k g hk (List.ne_nil_of_mem hmem)
      obtain ⟨g₀, hg₀, hplayers⟩ := hdrops.back k g' hk'
      rw [hk] at hg₀
      cases hg₀
      exact ⟨g', hk', by rw [hplayers]; exact hmem⟩
  · obtain ⟨g, hg, hq, -⟩ := hback k g' q hk hq
    exact ⟨g, hg, hq⟩

/-! ### What a restore changes -/

theorem Step.restoreOk (h : Step srv e srv') : RestoreOk srv e srv' := by
  rintro ⟨env, input, sent⟩ c packet rfl hinput haction
  obtain rfl : input = .message c (.updated packet) := hinput
  obtain ⟨r, hr, rfl, -⟩ := h.onUpdate
  obtain ⟨reply, hreply, -, hsrv, -⟩ := onUpdate_result hr
  rw [hsrv]
  rw [Server.handle, haction] at hreply
  rcases restoreConnection_cases hreply with ⟨-, hsame, -⟩ |
    ⟨k, playerId, g, p, answer, hdata, hlookup, hfind, -, rfl⟩
  · exact Or.inl hsame
  · obtain ⟨l₁, l₂, hsplit, -, hbind, hmod⟩ := List.modifyFirst_split
      (f := fun p => { p with clientId := c, disconnectedUntil := none }) hfind
    refine Or.inr ⟨k, playerId, g, p, l₁, l₂, hdata, hlookup, hsplit, of_decide_eq_true hbind, ?_⟩
    have hrestored : g.restored c playerId = { g with
        players := l₁ ++ { p with clientId := c, disconnectedUntil := none } :: l₂ } := by
      simp only [Game.restored, hmod]
    simp only [hrestored]
    split
    · rename_i hne
      simp only [Server.dropClient, Server.setGame]
      congr 1
      exact List.filter_congr fun cl _ => by simp [hne]
    · rename_i heq
      simp only [Server.setGame]
      congr 1
      exact (List.filter_eq_self.mpr fun cl _ => by simp [not_not.mp heq]).symm

/-! ### Whose deadline it is -/

/-- A disconnect writes one deadline, that of a player of the connection. -/
theorem mark_back {g' : Game} {q : Player}
    (hk : (srv.markPlayerDisconnected env c).games.lookup k = some g') (hq : q ∈ g'.players) :
    ∃ g p, srv.games.lookup k = some g ∧ p ∈ g.players ∧ (q.seat = p.seat ∨
      (q.clientId = c ∧ q.disconnectedUntil = some (env.now + Server.disconnectedPlayerTtl))) := by
  unfold Server.markPlayerDisconnected at hk
  split at hk
  · rename_i key game hgame
    have hlookup := Server.getGameByClientid_lookup hgame
    rw [Server.lookup_setGame hlookup] at hk
    split at hk
    · rename_i hkey
      cases hk
      rcases List.mem_modifyFirst hq with hold | ⟨p, hp, rfl⟩
      · exact ⟨game, q, by rw [hkey]; exact hlookup, hold, Or.inl rfl⟩
      · have hmem := List.mem_of_find?_eq_some hp
        have hc : p.clientId = c := by simpa using List.find?_some hp
        exact ⟨game, p, by rw [hkey]; exact hlookup, hmem, Or.inr ⟨hc, rfl⟩⟩
    · exact ⟨g', q, hk, hq, Or.inl rfl⟩
  · exact ⟨g', q, hk, hq, Or.inl rfl⟩

/-- A disconnect leaves every number taken. -/
theorem mark_forward (env : Env) (c : ClientID) (hk : srv.games.lookup k = some g) (hp : p ∈ g.players) :
    ∃ g' q, (srv.markPlayerDisconnected env c).games.lookup k = some g' ∧ q ∈ g'.players ∧
      q.bindId = p.bindId := by
  unfold Server.markPlayerDisconnected
  split
  · rename_i key game hgame
    have hlookup := Server.getGameByClientid_lookup hgame
    by_cases hkey : k = key
    · subst hkey
      rw [hlookup] at hk
      cases hk
      have hbinds : ∀ f : Player → Player, (∀ p, (f p).bindId = p.bindId) →
          (g.modifyPlayer c f).players.map Player.bindId = g.players.map Player.bindId :=
        fun f hf => List.map_modifyFirst fun p _ => hf p
      have hmem : p.bindId ∈ g.players.map Player.bindId := List.mem_map_of_mem hp
      rw [← hbinds (fun p => { p with
        disconnectedUntil := some (env.now + Server.disconnectedPlayerTtl) }) fun _ => rfl] at hmem
      obtain ⟨q, hq, hsame⟩ := List.mem_map.mp hmem
      exact ⟨_, q, Server.lookup_setGame_self hlookup, hq, hsame⟩
    · exact ⟨g, p, by rw [Server.lookup_setGame_of_ne hkey]; exact hk, hp, rfl⟩
  · exact ⟨g, p, hk, hp, rfl⟩

/-- A restore takes the deadline from the player it names. -/
theorem restoreConnection_deadline {g' : Game} {q : Player} (hok : RegistryOk srv)
    (h : srv.restoreConnection packet c = some r) (hk : r.srv.games.lookup k = some g')
    (hq : q ∈ g'.players) :
    q.disconnectedUntil = none ∨
      ∃ g, srv.games.lookup k = some g ∧ q ∈ g.players ∧
        ∀ playerId, packet.data = toLeBytes32 k ++ [playerId] → q.bindId ≠ some playerId := by
  rcases restoreConnection_cases h with ⟨hnone, hsrv, -⟩ |
    ⟨key, playerId, g, p, answer, hdata, hlookup, hfind, -, rfl⟩
  · rw [hsrv] at hk
    refine Or.inr ⟨g', hk, hq, fun playerId hdata hbind => ?_⟩
    have hmiss := List.find?_eq_none.mp (hnone k playerId g' hdata hk) q hq
    simp [hbind] at hmiss
  · have hunique : ∀ playerId', packet.data = toLeBytes32 k ++ [playerId'] →
        k = key ∧ playerId' = playerId := by
      intro playerId' hdata'
      obtain ⟨hbytes, hlast⟩ := List.append_inj' (hdata'.symm.trans hdata) rfl
      exact ⟨toLeBytes32_injective hbytes, by simpa using hlast⟩
    have hk' : (srv.setGame key (g.restored c playerId)).games.lookup k = some g' := by
      revert hk
      dsimp only
      split <;> exact id
    rw [Server.lookup_setGame hlookup] at hk'
    split at hk'
    · rename_i hkey
      cases hk'
      rcases List.mem_modifyFirst hq with hold | ⟨_, -, rfl⟩
      · by_cases hbind : q.bindId = some playerId
        · -- numbers are distinct, so this is the player that was handed over
          have hfirst := List.mem_of_find?_eq_some (List.find?_modifyFirst
            (f := fun p => { p with clientId := c, disconnectedUntil := none }) hfind
            (List.find?_eq_some_iff_append.mp hfind).1)
          have hrestored : GameOk (g.restored c playerId) := (hok.game key g hlookup).restored
          have hsame := List.inj_on_of_nodup_map hrestored.distinct hq hfirst
            (hbind.trans (of_decide_eq_true (List.find?_eq_some_iff_append.mp hfind).1).symm)
          rw [hsame]
          exact Or.inl rfl
        · refine Or.inr ⟨g, by rw [hkey]; exact hlookup, hold, fun playerId' hdata' => ?_⟩
          rw [(hunique playerId' hdata').2]
          exact hbind
      · exact Or.inl rfl
    · rename_i hkey
      refine Or.inr ⟨g', hk', hq, fun playerId' hdata' _ => ?_⟩
      exact hkey (hunique playerId' hdata').1

/-- After a round a player has no deadline, or the one it had, unless it was restored, or
the one its connection's disconnect just started. -/
theorem Step.deadline {g' : Game} {q : Player} (h : Step srv e srv') (hok : RegistryOk srv)
    (hone : OneHolder srv) (hk : srv'.games.lookup k = some g') (hq : q ∈ g'.players) :
    q.disconnectedUntil = none ∨
      (∃ g p, srv.games.lookup k = some g ∧ p ∈ g.players ∧ q.seat = p.seat ∧ ¬ Restores e k p) ∨
      ∃ event, e = some event ∧ event.input = .message q.clientId .disconnected ∧
        q.disconnectedUntil = some (event.env.now + Server.disconnectedPlayerTtl) := by
  have hother : ∀ {env sent input} p, (∀ c packet, input ≠ Input.message c (.updated packet)) →
      ¬ Restores (some { env, input, sent }) k p := by
    rintro env sent input p hne ⟨_, c, packet, _, ⟨⟩, hinput, -⟩
    exact hne c packet hinput
  cases h.round with
  | rehash hr =>
      obtain ⟨g, p, hg, hp, hseat⟩ := hr.seatsKept.back k g' q hk hq
      refine Or.inr (Or.inl ⟨g, p, hg, hp, hseat, ?_⟩)
      rintro ⟨_, _, _, _, hnone, -⟩
      cases hnone
  | tick _ =>
      obtain ⟨g, hg, hq'⟩ := (h.tickOk hok hone _ rfl rfl).2 k g' q hk hq
      exact Or.inr (Or.inl ⟨g, q, hg, hq', rfl, hother q (by simp)⟩)
  | added => exact Or.inr (Or.inl ⟨g', q, hk, hq, rfl, hother q (by simp)⟩)
  | status => exact Or.inr (Or.inl ⟨g', q, hk, hq, rfl, hother q (by simp)⟩)
  | disconnected =>
      obtain ⟨g, p, hg, hp, hseat | ⟨hc, hdeadline⟩⟩ := mark_back hk hq
      · exact Or.inr (Or.inl ⟨g, p, hg, hp, hseat, hother p (by simp)⟩)
      · exact Or.inr (Or.inr ⟨_, rfl, by rw [hc], hdeadline⟩)
  | @updated env c packet r hr =>
      by_cases haction : packet.action = .restoreConnection
      · obtain ⟨reply, hreply, -, hsrv, -⟩ := onUpdate_result hr
        rw [Server.handle, haction] at hreply
        rw [hsrv] at hk
        rcases restoreConnection_deadline hok hreply hk hq with hnone | ⟨g, hg, hq', hnot⟩
        · exact Or.inl hnone
        · refine Or.inr (Or.inl ⟨g, q, hg, hq', rfl, ?_⟩)
          rintro ⟨_, c', packet', playerId, ⟨⟩, hinput, -, hdata, hbind⟩
          cases hinput
          exact hnot playerId hdata hbind
      · obtain ⟨s, answer, -, -, hh, -⟩ := onUpdate_handled hr
        rcases (hh.seats hok).back k g' q hk hq with ⟨g, p, hg, hp, hseat⟩ | ⟨hnone, -, -⟩
        · refine Or.inr (Or.inl ⟨g, p, hg, hp, hseat, ?_⟩)
          rintro ⟨_, c', packet', _, ⟨⟩, hinput, ha, -⟩
          cases hinput
          exact haction ha
        · exact Or.inl hnone
theorem DisconnectedAt.snoc {tr : List (Option Event)} {q : Player} {t : Instant}
    (h : DisconnectedAt tr k p t) (hseat : q.seat = p.seat) (hnot : ¬ Restores e k p) :
    DisconnectedAt (tr ++ [e]) k q t := by
  obtain ⟨hbind, hclient, -⟩ := Player.seat_eq hseat
  obtain ⟨tr₁, event, tr₂, rfl, hinput, hnow, hrest⟩ := h
  refine ⟨tr₁, event, tr₂ ++ [e], by simp, by rw [hclient]; exact hinput, hnow, ?_⟩
  unfold Restores at hrest hnot ⊢
  rw [hbind]
  intro e' he'
  rcases List.mem_append.mp he' with hmem | hmem
  · exact hrest e' hmem
  · rw [List.mem_singleton.mp hmem]
    exact hnot

/-- **Every deadline is that of the player's current connection**, sixty seconds after its
disconnect was processed, and no restore of the player came in between. -/
theorem RosterRun.deadline {start : Instant} {tr : List (Option Event)} {s : Roster} {d : Instant}
    (h : RosterRun start tr s) (honce : s.given.Nodup) (hk : s.srv.games.lookup k = some g)
    (hp : p ∈ g.players) (hd : p.disconnectedUntil = some d) :
    ∃ t, DisconnectedAt tr k p t ∧ d = t + Server.disconnectedPlayerTtl := by
  refine Transition.Run.history (P := fun tr s => s.given.Nodup → ∀ k g p d,
    s.srv.games.lookup k = some g → p ∈ g.players → p.disconnectedUntil = some d →
      ∃ t, DisconnectedAt tr k p t ∧ d = t + Server.disconnectedPlayerTtl) h ?_ ?_ honce k g p d hk hp hd
  · intro _ k g p d hk
    simp [Server.new] at hk
  · intro tr a e b hrun hstep ih honce k g q d hk hq hd
    have hgiven : a.given.Nodup := by
      rw [hstep.2] at honce
      exact (List.nodup_append'.mp honce).1
    have hok : RosterOk a := RosterRun.ok hrun hgiven
    rcases hstep.1.deadline hok.registry hok.oneHolder hk hq with
      hnone | ⟨g₀, p₀, hk₀, hp₀, hseat, hnot⟩ | ⟨event, rfl, hinput, hdeadline⟩
    · rw [hnone] at hd
      cases hd
    · rw [(Player.seat_eq hseat).2.2] at hd
      obtain ⟨t, hdisc, heq⟩ := ih hgiven k g₀ p₀ d hk₀ hp₀ hd
      exact ⟨t, hdisc.snoc hseat hnot, heq⟩
    · rw [hdeadline] at hd
      exact ⟨_, ⟨tr, event, [], rfl, hinput, rfl, by simp⟩, (Option.some.inj hd).symm⟩

/-! ### What removes a player -/

/-- A number is freed only by its connection's closing, or by a tick after its deadline. -/
theorem Step.removal (h : Step srv e srv') (hok : RegistryOk srv) (hone : OneHolder srv)
    (hk : srv.games.lookup k = some g) (hp : p ∈ g.players) (hgone : Removed srv' k p) :
    ∃ event, e = some event ∧
      ((∃ packet, event.input = .message p.clientId (.updated packet) ∧
          packet.action = .closeSocket) ∨
        (event.input = .tick ∧ p.PastDeadline event.env.now)) := by
  have hstay : ∀ {g' q}, srv'.games.lookup k = some g' → q ∈ g'.players →
      q.bindId = p.bindId → False := fun hk' hq hbind => hgone _ hk' _ hq hbind
  cases h.round with
  | rehash hr =>
      obtain ⟨g', q, hk', hq, hseat⟩ := hr.seatsKept.forward k g p hk hp
      exact (hstay hk' hq (Player.seat_eq hseat).1).elim
  | @tick env _ _ _ =>
      by_cases hpast : p.PastDeadline env.now
      · exact ⟨_, rfl, Or.inr ⟨rfl, hpast⟩⟩
      · obtain ⟨g', hk', hp'⟩ := ((h.tickOk hok hone _ rfl rfl).1 k g p hk hp).2 hpast
        exact (hstay hk' hp' rfl).elim
  | added => exact (hstay hk hp rfl).elim
  | status => exact (hstay hk hp rfl).elim
  | disconnected =>
      obtain ⟨g', q, hk', hq, hbind⟩ := mark_forward _ _ hk hp
      exact (hstay hk' hq hbind).elim
  | @updated env c packet r hr =>
      obtain ⟨s, answer, -, -, hh, -⟩ := onUpdate_handled hr
      rcases (hh.seats hok).forward k g p hk hp with ⟨g', q, hk', hq, hbind⟩ | ⟨haction, hc⟩
      · exact (hstay hk' hq hbind).elim
      · exact ⟨_, rfl, Or.inl ⟨packet, by rw [hc], haction⟩⟩

end

/-- **Disconnect, restore and expiry do not race.**  After any run in which no connection is
given two players, a tick can be taken, and a round removes, restores and expires players
only as it should. -/
theorem disconnect_restore_expiry {start : Instant} {tr : List (Option Event)} {s s' : Roster}
    {e : Option Event} (hrun : RosterRun start tr s) (hstep : RosterStep s e s')
    (honce : s'.given.Nodup) :
    RemovalOk tr s.srv e s'.srv ∧ RestoreOk s.srv e s'.srv ∧ TickOk s.srv e s'.srv ∧
      ∀ env, ∃ last sent, s.srv.take env .tick = some (last, sent) := by
  have hgiven : s.given.Nodup := by
    rw [hstep.2] at honce
    exact (List.nodup_append'.mp honce).1
  have hok : RosterOk s := hrun.ok hgiven
  refine ⟨?_, hstep.1.restoreOk, hstep.1.tickOk hok.registry hok.oneHolder, fun env => ?_⟩
  swap
  · obtain ⟨⟨last, sent⟩, hlast⟩ : ∃ out, s.srv.closeAll env (s.srv.expiredClientIds env) = some out :=
      closeAll_total
    exact ⟨last, sent, hlast⟩
  intro k g p hk hp hgone
  obtain ⟨event, rfl, hclose | ⟨htick, hexpired⟩⟩ :=
    hstep.1.removal hok.registry hok.oneHolder hk hp hgone
  · exact ⟨event, rfl, Or.inl hclose⟩
  · refine ⟨event, rfl, Or.inr ⟨htick, ?_⟩⟩
    obtain ⟨d, hd, hpassed⟩ := hexpired
    obtain ⟨t, hdisc, rfl⟩ := hrun.deadline hgiven hk hp hd
    exact ⟨t, hdisc, hpassed⟩

/-- A player whose connection was lost sixty seconds ago is removed by a tick. -/
theorem disconnect_restore_expiry_tick : ∃ tr s e s', RosterRun 0 tr s ∧ RosterStep s e s' ∧
    s'.given = [7] ∧ s.srv.holders = [7] ∧ s'.srv.holders = [] ∧
    (RemovalOk tr s.srv e s'.srv ∧ RestoreOk s.srv e s'.srv ∧ TickOk s.srv e s'.srv ∧
      ∀ env, ∃ last sent, s.srv.take env .tick = some (last, sent)) := by
  have hplay : ((Server.new 0).take (Env.atTime 0) (ask 7 .attachToGame [0, 0, 0, 0])).any
      (fun first => (first.1.take (Env.atTime 0) (.message 7 .disconnected)).any fun second =>
        decide (second.1.holders = [7]) &&
          (second.1.take (Env.atTime Server.disconnectedPlayerTtl) .tick).any fun last =>
            decide (last.1.holders = [])) = true := by
    decide +kernel
  obtain ⟨⟨s₁, sent₁⟩, htake₁, htest⟩ := (Option.any_eq_true _ _).mp hplay
  obtain ⟨⟨s₂, sent₂⟩, htake₂, htest⟩ := (Option.any_eq_true _ _).mp htest
  rw [Bool.and_eq_true] at htest
  obtain ⟨⟨s₃, sent₃⟩, htake₃, hlast⟩ := (Option.any_eq_true _ _).mp htest.2
  have hgiven : (Server.new 0).given
      (some ⟨Env.atTime 0, ask 7 .attachToGame [0, 0, 0, 0], sent₁⟩) = [7] := by
    simp only [Server.given, ask]
    rw [if_pos]
    decide +kernel
  have hrun : RosterRun 0 [some ⟨Env.atTime 0, ask 7 .attachToGame [0, 0, 0, 0], sent₁⟩,
      some ⟨Env.atTime 0, .message 7 .disconnected, sent₂⟩] ⟨s₂, [7]⟩ := by
    have hattached : RosterRun 0 [some ⟨Env.atTime 0, ask 7 .attachToGame [0, 0, 0, 0], sent₁⟩]
        ⟨s₁, [7]⟩ := Transition.Run.nil.snoc ⟨.take htake₁, by rw [hgiven]; rfl⟩
    exact hattached.snoc ⟨.take htake₂, rfl⟩
  have hstep : RosterStep ⟨s₂, [7]⟩
      (some ⟨Env.atTime Server.disconnectedPlayerTtl, .tick, sent₃⟩) ⟨s₃, [7]⟩ :=
    ⟨.take htake₃, rfl⟩
  exact ⟨_, _, _, _, hrun, hstep, rfl, of_decide_eq_true htest.1, of_decide_eq_true hlast,
    disconnect_restore_expiry hrun hstep (List.nodup_singleton 7)⟩

end VangersSrv
