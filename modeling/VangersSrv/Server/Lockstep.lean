/-
A group is served in lockstep with a server of its own.

Where a group of clients has its game to itself, round by round, what the server keeps of it
(`Server.alone`) goes through the rounds of the group and through no others, and the group is sent
the same.  One lemma for each kind of round says what a member's and what an outsider's does to
that part; `Transition.Run.project` makes a run of them.
-/
import VangersSrv.Server.Alone
import VangersSrv.Server.WorldReplica

namespace VangersSrv

section

variable {mine : ClientID → Bool} {env : Env} {packet p : Packet} {c : ClientID}
  {srv srv' s t : Server} {key k : GameID} {game : Game} {r : Reply} {sent : List Sent}
  {result : Except OnUpdateError OnUpdateOk}

/-! ### Answers -/

/-- An answer goes to who asked. -/
theorem resultSends_unheard (hother : mine c = false) (hquiet : QuietResult result) :
    heardBy mine (srv.resultSends c result) = [] := by
  match result, hquiet with
  | .ok (.response p), _ =>
    refine heardBy_eq_nil fun s hs => ?_
    have hclient : s.client = c := by
      simp only [Server.resultSends, Server.sendClient] at hs
      split at hs
      · rename_i client hfind
        obtain rfl := List.mem_singleton.mp hs
        simpa using List.find?_some hfind
      · cases hs
    rw [hclient]
    exact hother
  | .ok .complete, _ => rfl
  | .error _, _ => rfl

theorem resultSends_only (hquiet : QuietResult result) :
    (srv.only key).resultSends c result = srv.resultSends c result := by
  match result, hquiet with
  | .ok (.response p), _ => rfl
  | .ok .complete, _ => rfl
  | .error _, _ => rfl

/-- What a handler does with the other games away, `on_update` does. -/
theorem onUpdate_only_of_handle (h : srv.onUpdate env c packet = some r)
    (hsame : ∀ reply, srv.handle env packet c = some reply →
      ∃ reply', (srv.only key).handle env packet c = some reply' ∧ reply'.srv = reply.srv.only key ∧
        reply'.sent = reply.sent ∧ reply'.result = reply.result) :
    ∃ r', (srv.only key).onUpdate env c packet = some r' ∧ r'.srv = r.srv.only key ∧
      r'.sent = r.sent := by
  unfold Server.onUpdate at h ⊢
  simp only [Option.bind_eq_bind, Option.bind_eq_some_iff] at h
  obtain ⟨reply, hreply, h⟩ := h
  obtain ⟨reply', hreply', hsrv, hsent, hresult⟩ := hsame reply hreply
  have hquiet := (handle_sound hreply).result
  simp only [hreply', Option.bind_eq_bind, Option.bind_some, hresult]
  split at h
  · rename_i hlogged
    obtain rfl := Option.some.inj h
    rw [if_pos hlogged]
    exact ⟨_, rfl, hsrv, by rw [hsent, hsrv, resultSends_only hquiet]⟩
  · cases h

/-- An attach is answered by its handler alone. -/
theorem onUpdate_attachToGame (haction : packet.action = .attachToGame) :
    srv.onUpdate env c packet = srv.attachToGame env packet c := by
  have hhandle : srv.handle env packet c = srv.attachToGame env packet c := by
    unfold Server.handle
    rw [haction]
  unfold Server.onUpdate
  rw [hhandle]
  cases hattach : srv.attachToGame env packet c with
  | none => rfl
  | some reply =>
      have hresult : reply.result = .ok .complete ∨
          ∃ err, reply.result = .error (.attachToGame err) := by
        rcases attachToGame_cases hattach with ⟨-, hfail⟩ | ⟨_, -, ⟨-, err, hfail⟩ |
          ⟨_, _, _, _, _, _, -, -, -, -, -, -, hjoined⟩⟩
        · rw [Server.fail_eq_some hfail]
          exact Or.inr ⟨_, rfl⟩
        · rw [Server.fail_eq_some hfail]
          exact Or.inr ⟨err, rfl⟩
        · rw [Server.complete_eq_some hjoined]
          exact Or.inl rfl
      obtain ⟨srv', sent, result⟩ := reply
      rcases hresult with rfl | ⟨err, rfl⟩
      · simp [Server.logged, Server.resultSends]
      · simp [Server.logged, Server.resultSends]

/-! ### A member's packet -/

/-- What is done with the other games away is done with the other clients away. -/
theorem Echoes.alone {x y : Option Reply} (h : Echoes mine x y)
    (honly : ∃ r', x = some r' ∧ r'.srv = r.srv.only key ∧ r'.sent = r.sent) :
    ∃ r', y = some r' ∧ r'.srv = r.srv.alone mine key ∧ r'.sent = heardBy mine r.sent := by
  obtain ⟨r', hr', hsrv, hsent⟩ := honly
  subst hr'
  exact ⟨r'.among mine, h, congrArg (Server.among mine) hsrv, congrArg (heardBy mine) hsent⟩

/-- **A packet of one of the group** does the same with the other games away. -/
theorem onUpdate_only (hreg : RegistryOk srv) (hcounters : CountersOk srv)
    (hbefore : Apart mine key srv) (hafter : Apart mine key r.srv)
    (hroom : srv.gamesIdUniq.toNat ≤ r.srv.gamesIdUniq.toNat)
    (hmine : mine c = true) (hgames : packet.action ≠ .gamesListQuery)
    (htop : packet.action ≠ .topListQuery) (h : srv.onUpdate env c packet = some r) :
    ∃ r', (srv.only key).onUpdate env c packet = some r' ∧ r'.srv = r.srv.only key ∧
      r'.sent = r.sent := by
  by_cases haction : packet.action ∈ sharedActions
  · simp only [sharedActions, List.mem_cons, List.not_mem_nil, or_false] at haction
    rcases haction with ha | ha | ha | ha | ha
    · rw [onUpdate_attachToGame ha] at h ⊢
      exact attachToGame_only hcounters hmine hroom hafter h
    · obtain ⟨reply, hreply, -, hsrv, -⟩ := onUpdate_result h
      refine onUpdate_only_of_handle h fun reply' hreply' => ?_
      obtain rfl := Option.some.inj (hreply.symm.trans hreply')
      have hhandle : ∀ srv : Server, srv.handle env packet c = srv.restoreConnection packet c := by
        intro srv
        unfold Server.handle
        rw [ha]
      rw [hhandle] at hreply ⊢
      rw [hsrv] at hafter
      exact restoreConnection_only hmine hafter hreply
    · exact absurd ha hgames
    · exact absurd ha htop
    · refine onUpdate_only_of_handle h fun reply hreply => ?_
      have hhandle : ∀ srv : Server, srv.handle env packet c = srv.serverTimeQuery env packet := by
        intro srv
        unfold Server.handle
        rw [ha]
      rw [hhandle] at hreply ⊢
      unfold Server.serverTimeQuery Server.respond at hreply ⊢
      split at hreply
      · obtain rfl := Option.some.inj hreply
        rename_i answer hanswer
        exact ⟨{ srv := srv.only key, sent := [], result := .ok (.response answer) },
          by rw [show (srv.only key).uptime = srv.uptime from rfl, hanswer], rfl, rfl, rfl⟩
      · obtain rfl := Server.fail_eq_some hreply
        rename_i hanswer
        exact ⟨{ srv := srv.only key, sent := [], result := _ },
          by rw [show (srv.only key).uptime = srv.uptime from rfl, hanswer]; rfl, rfl, rfl, rfl⟩
  · exact (AboutGame.onUpdate haction).only hreg.keyed hbefore hmine h

/-! ### An outsider's packet -/

theorem dropClient_unseen (hother : mine c = false) :
    (srv.dropClient c).alone mine key = srv.alone mine key := by
  have hclients : (srv.clients.filter fun x => x.id ≠ c).filter (fun client => mine client.id)
      = srv.clients.filter fun client => mine client.id := by
    rw [List.filter_filter]
    refine List.filter_congr fun x _ => ?_
    by_cases hx : x.id = c <;> simp [hx, hother]
  exact congrArg (fun clients => { srv.only key with clients }) hclients

/-- Nobody of the group sees somebody else join. -/
theorem attachToGame_unseen (hcounters : CountersOk srv) (hafter : Apart mine key r.srv)
    (hroom : srv.gamesIdUniq.toNat ≤ r.srv.gamesIdUniq.toNat) (hother : mine c = false)
    (h : srv.attachToGame env packet c = some r) :
    r.srv.alone mine key = srv.alone mine key ∧ heardBy mine r.sent = [] := by
  rcases attachToGame_cases h with ⟨-, hfail⟩ | ⟨requested, -, ⟨hrefuses, err, hfail⟩ |
    ⟨found, bind, offsets, packets, time, header, hfound, -, -, -, -, -, hjoined⟩⟩
  · obtain rfl := Server.fail_eq_some hfail
    exact ⟨rfl, rfl⟩
  · obtain ⟨-, hsrv, hsent⟩ := attach_refused hcounters hroom hrefuses hfail
    rw [hsrv, hsent]
    exact ⟨rfl, rfl⟩
  · obtain rfl := Server.complete_eq_some hjoined
    -- the game that it joins is another one
    have hplays := hafter _ _ (Server.lookup_setGame_self hfound) c
      (by simp [Game.clientIds, Game.joined, Player.new])
    rw [hother] at hplays
    have hne := of_decide_eq_false hplays.symm
    refine ⟨congrArg (Server.among mine) ((only_setGame_of_ne hne).trans ?_), ?_⟩
    · by_cases h0 : requested = 0
      · subst h0
        have hcounter : (srv.requestedGame env 0).1.gamesIdUniq = srv.gamesIdUniq + 1 :=
          requestedGame_counter
        have hle : srv.gamesIdUniq.toNat ≤ (srv.gamesIdUniq + 1).toNat := by
          rw [← hcounter]
          exact hroom
        rw [Server.requestedGame_fresh (hcounters.fresh hle)] at hne ⊢
        refine only_congr (AList.lookup_insert_ne (Ne.symm hne)) rfl rfl ?_
        dsimp only at hne ⊢
        bv_omega
      · rw [Server.requestedGame_of_ne h0]
    · refine heardBy_eq_nil fun s hs => ?_
      obtain ⟨_, -, hs⟩ := List.mem_flatMap.mp hs
      rw [Server.notifyPlayer_client hs]
      exact hother

/-- Nor come back. -/
theorem restoreConnection_unseen (hbefore : Apart mine key srv) (hafter : Apart mine key r.srv)
    (hother : mine c = false) (h : srv.restoreConnection packet c = some r) :
    r.srv.alone mine key = srv.alone mine key ∧ r.sent = [] := by
  rcases restoreConnection_cases h with ⟨-, hsrv, hsent, -⟩ |
    ⟨gameId, playerId, game, player, answer, -, hlookup, hfind, -, rfl⟩
  · rw [hsrv]
    exact ⟨rfl, hsent⟩
  refine ⟨?_, rfl⟩
  have hplays := restored_plays hlookup hfind hafter
  rw [hother] at hplays
  have hne := of_decide_eq_false hplays.symm
  have hgame : (srv.setGame gameId (game.restored c playerId)).alone mine key = srv.alone mine key :=
    congrArg (Server.among mine) (only_setGame_of_ne hne)
  dsimp only
  split
  · -- the connection that is dropped played there, so it is no member either
    have hold := hbefore gameId game hlookup player.clientId
      (List.mem_map_of_mem (List.mem_of_find?_eq_some hfind))
    rw [decide_eq_false hne] at hold
    rw [dropClient_unseen hold, hgame]
  · exact hgame

theorem respond_unchanged {data : Bytes} (h : srv.respond packet data = some r) :
    r.srv = srv ∧ r.sent = [] := by
  unfold Server.respond at h
  split at h
  · obtain rfl := Option.some.inj h
    exact ⟨rfl, rfl⟩
  · obtain rfl := Server.fail_eq_some h
    exact ⟨rfl, rfl⟩

theorem topListQuery_unchanged (h : srv.topListQuery env packet = some r) :
    r.srv = srv ∧ r.sent = [] := by
  rcases topListQuery_cases h with hfail | ⟨_, hrespond⟩
  · obtain rfl := Server.fail_eq_some hfail
    exact ⟨rfl, rfl⟩
  · exact respond_unchanged hrespond

/-- **A packet of anybody else** does nothing to the group's part, and nobody of the group hears of
it. -/
theorem onUpdate_unseen (hreg : RegistryOk srv) (hcounters : CountersOk srv)
    (hbefore : Apart mine key srv) (hafter : Apart mine key r.srv)
    (hroom : srv.gamesIdUniq.toNat ≤ r.srv.gamesIdUniq.toNat) (hother : mine c = false)
    (h : srv.onUpdate env c packet = some r) :
    r.srv.alone mine key = srv.alone mine key ∧ heardBy mine r.sent = [] := by
  by_cases hattach : packet.action = .attachToGame
  · rw [onUpdate_attachToGame hattach] at h
    exact attachToGame_unseen hcounters hafter hroom hother h
  by_cases haction : packet.action ∈ sharedActions
  · obtain ⟨reply, hreply, -, hsrv, hsent⟩ := onUpdate_result h
    have hanswered : reply.srv = srv ∧ reply.sent = [] →
        reply.srv.alone mine key = srv.alone mine key ∧ reply.sent = [] := by
      rintro ⟨hsame, hquiet⟩
      rw [hsame]
      exact ⟨rfl, hquiet⟩
    have hunseen : reply.srv.alone mine key = srv.alone mine key ∧ reply.sent = [] := by
      rw [hsrv] at hafter
      have hhandle := hreply
      unfold Server.handle at hhandle
      simp only [sharedActions, List.mem_cons, List.not_mem_nil, or_false] at haction
      rcases haction with ha | ha | ha | ha | ha
      · exact absurd ha hattach
      · rw [ha] at hhandle
        exact restoreConnection_unseen hbefore hafter hother hhandle
      · rw [ha] at hhandle
        exact hanswered (respond_unchanged hhandle)
      · rw [ha] at hhandle
        exact hanswered (topListQuery_unchanged hhandle)
      · rw [ha] at hhandle
        exact hanswered (respond_unchanged hhandle)
    rw [hsrv, hsent, hunseen.2, List.nil_append]
    exact ⟨hunseen.1, resultSends_unheard hother (handle_sound hreply).result⟩
  · exact (AboutGame.onUpdate haction).unseen hreg.keyed hbefore hother h

/-! ### Expiry -/

/-- The server of the group closes the group's connections among those that expired. -/
theorem expiredClientIds_alone (hapart : Apart mine key srv) :
    (srv.alone mine key).expiredClientIds env = (srv.expiredClientIds env).filter mine := by
  have hplays : ∀ e ∈ srv.games.entries, ∀ p ∈ e.2.players, mine p.clientId = decide (e.1 = key) :=
    fun e he p hp => hapart e.1 e.2 (AList.mem_entries_iff.mp he) p.clientId (List.mem_map_of_mem hp)
  show (((((srv.games.entries.filter fun e => decide (e.1 = key)).map Sigma.snd).flatMap
    Game.players).filter (Server.isExpired env.now)).map Player.clientId) = List.filter mine
      ((((srv.games.entries.map Sigma.snd).flatMap Game.players).filter
        (Server.isExpired env.now)).map Player.clientId)
  generalize srv.games.entries = entries at hplays
  induction entries with
  | nil => rfl
  | cons e rest ih =>
      have hrest := ih fun e' he' => hplays e' (List.mem_cons_of_mem e he')
      have hfirst := hplays e List.mem_cons_self
      simp only [List.map_cons, List.flatMap_cons, List.filter_append, List.map_append]
      rw [← hrest]
      by_cases hkey : e.1 = key
      · have hkept : ((e :: rest).filter fun e => decide (e.1 = key))
            = e :: rest.filter fun e => decide (e.1 = key) := by simp [hkey]
        rw [hkept, List.map_cons, List.flatMap_cons, List.filter_append, List.map_append]
        congr 1
        refine (List.filter_eq_self.mpr fun x hx => ?_).symm
        obtain ⟨p, hp, rfl⟩ := List.mem_map.mp hx
        rw [hfirst p (List.mem_of_mem_filter hp)]
        exact decide_eq_true hkey
      · have hgone : ((e :: rest).filter fun e => decide (e.1 = key))
            = rest.filter fun e => decide (e.1 = key) := by simp [hkey]
        rw [hgone]
        refine (List.append_left_eq_self.mpr (List.filter_eq_nil_iff.mpr fun x hx => ?_)).symm
        obtain ⟨p, hp, rfl⟩ := List.mem_map.mp hx
        rw [hfirst p (List.mem_of_mem_filter hp), decide_eq_false hkey]
        exact Bool.false_ne_true

theorem closeAll_alone {ids : List ClientID} (hreg : RegistryOk srv) (hapart : Apart mine key srv)
    (h : srv.closeAll env ids = some (srv', sent)) :
    (srv.alone mine key).closeAll env (ids.filter mine)
      = some (srv'.alone mine key, heardBy mine sent) := by
  induction ids generalizing srv sent with
  | nil =>
      simp only [Server.closeAll, Option.some.injEq, Prod.mk.injEq] at h
      obtain ⟨rfl, rfl⟩ := h
      rfl
  | cons c rest ih =>
      simp only [Server.closeAll, Option.bind_eq_bind, Option.bind_eq_some_iff, Option.some.injEq,
        Prod.mk.injEq] at h
      obtain ⟨closed, hclosed, ⟨srv'', sent''⟩, hrest, rfl, rfl⟩ := h
      have hclosing : AboutGame c fun srv => srv.closeSocket env c := AboutGame.closeSocket
      have haction : closePacket.action = .closeSocket := rfl
      have hregClosed : RegistryOk closed.srv :=
        hreg.handled (closeSocket_sound haction hclosed).handled
      have htail := ih hregClosed (hclosing.apart hreg.keyed hapart hclosed) hrest
      rw [heardBy_append]
      cases hmine : mine c with
      | true =>
          have hechoes : Echoes mine ((srv.only key).closeSocket env c)
              ((srv.alone mine key).closeSocket env c) := closeSocket_among env c (srv.only key)
          obtain ⟨closed', hclosed', hsrv, hsent⟩ :=
            hechoes.alone (hclosing.only hreg.keyed hapart hmine hclosed)
          rw [List.filter_cons_of_pos hmine]
          simp only [Server.closeAll, hclosed', Option.bind_eq_bind, Option.bind_some, hsrv, htail,
            hsent]
      | false =>
          obtain ⟨hsame, hquiet⟩ := hclosing.unseen hreg.keyed hapart hmine hclosed
          rw [List.filter_cons_of_neg (by simp [hmine]), hquiet, List.nil_append, ← hsame]
          exact htail

/-! ### Connections -/

theorem addClient_alone {client : Client} (hmine : mine client.id = true) :
    (srv.addClient client).alone mine key = (srv.alone mine key).addClient client := by
  have hclients : (srv.clients ++ [client]).filter (fun x => mine x.id)
      = srv.clients.filter (fun x => mine x.id) ++ [client] := by
    rw [List.filter_append]
    simp [hmine]
  exact congrArg (fun clients => { srv.only key with clients }) hclients

theorem addClient_unseen {client : Client} (hother : mine client.id = false) :
    (srv.addClient client).alone mine key = srv.alone mine key := by
  have hclients : (srv.clients ++ [client]).filter (fun x => mine x.id)
      = srv.clients.filter fun x => mine x.id := by
    rw [List.filter_append]
    simp [hother]
  exact congrArg (fun clients => { srv.only key with clients }) hclients

theorem setConnection_alone {connection : Connection} (hmine : mine c = true) :
    (srv.setConnection c connection).alone mine key
      = (srv.alone mine key).setConnection c connection := by
  unfold Server.setConnection Server.alone Server.among
  dsimp only
  congr 1
  refine List.filter_modifyFirst_comm fun x hx => ?_
  have hid : x.id = c := of_decide_eq_true hx
  rw [hid]
  exact ⟨hmine, hmine⟩

theorem setConnection_unseen {connection : Connection} (hother : mine c = false) :
    (srv.setConnection c connection).alone mine key = srv.alone mine key := by
  unfold Server.setConnection Server.alone Server.among
  congr 1
  refine List.filter_modifyFirst fun x hx => ?_
  have hid : x.id = c := by simpa using List.find?_some hx
  rw [hid]
  exact ⟨hother, hother⟩

theorem disconnected_alone (hapart : Apart mine key srv) (hmine : mine c = true) :
    ((srv.markPlayerDisconnected env c).dropClient c).alone mine key
      = ((srv.alone mine key).markPlayerDisconnected env c).dropClient c := by
  have hmark : (srv.markPlayerDisconnected env c).alone mine key
      = (srv.alone mine key).markPlayerDisconnected env c := by
    unfold Server.markPlayerDisconnected
    have hsame : (srv.alone mine key).getGameByClientid c = srv.getGameByClientid c :=
      hapart.getGame hmine
    rw [hsame]
    cases hgame : srv.getGameByClientid c with
    | none => rfl
    | some found =>
        obtain ⟨k, game⟩ := found
        obtain rfl := hapart.key_eq hmine hgame
        exact congrArg (Server.among mine) (setGame_only (Server.getGameByClientid_lookup hgame))
  have hdrop : (((srv.markPlayerDisconnected env c).only key).among mine).dropClient c
      = (((srv.markPlayerDisconnected env c).only key).dropClient c).among mine := dropClient_among
  rw [← hmark]
  exact hdrop.symm

theorem disconnected_unseen (hapart : Apart mine key srv) (hother : mine c = false) :
    ((srv.markPlayerDisconnected env c).dropClient c).alone mine key = srv.alone mine key := by
  rw [dropClient_unseen hother]
  unfold Server.markPlayerDisconnected
  cases hgame : srv.getGameByClientid c with
  | none => rfl
  | some found =>
      obtain ⟨k, game⟩ := found
      exact congrArg (Server.among mine) (only_setGame_of_ne (hapart.key_ne hother hgame))

/-- A hash map is reordered there as well, or stays as it is. -/
theorem rehash_alone (h : Rehash srv srv') : Rehash (srv.alone mine key) (srv'.alone mine key) := by
  have hstays : ∀ {srv' : Server}, srv'.alone mine key = srv.alone mine key →
      Rehash (srv.alone mine key) (srv'.alone mine key) := by
    intro srv' hsame
    rw [hsame]
    exact .games (.refl (srv.alone mine key).games.entries)
  cases h with
  | games hperm =>
      refine hstays (congrArg (Server.among mine) (only_congr ?_ rfl rfl Iff.rfl))
      exact AList.perm_lookup hperm
  | @vanjects k game vanjects hlookup hperm =>
      by_cases hkey : k = key
      · subst hkey
        have hgame : (srv.setGame k { game with vanjects }).alone mine k
            = (srv.alone mine k).setGame k { game with vanjects } :=
          congrArg (Server.among mine) (setGame_only hlookup)
        rw [hgame]
        exact .vanjects (lookup_only_self.trans hlookup) hperm
      · exact hstays (congrArg (Server.among mine) (only_setGame_of_ne hkey))

/-! ### Rounds -/

/-- Whether a round is one of the group's: it takes something from one of them, or from nobody. -/
def Input.isAmong (mine : ClientID → Bool) : Input → Bool
  | .tick => true
  | .add client => mine client.id
  | .message id _ => mine id

/-- Whether a round takes a request for a list of the games. -/
def Input.asksForGames : Input → Bool
  | .message _ (.updated packet) => packet.action = .gamesListQuery || packet.action = .topListQuery
  | _ => false

/-- What the group's server shows of a round, if it takes part in it. -/
def roundAmong (mine : ClientID → Bool) : Option Event → Option (Option Event)
  | none => some none
  | some e => if e.input.isAmong mine then some (some { e with sent := heardBy mine e.sent }) else none

/-- A round after which the group still has the game to itself.  None of the group asks for a list of
the games, and the counter for the ids of games does not come round. -/
structure GroupStep (mine : ClientID → Bool) (key : GameID) (srv : Server) (e : Option Event)
    (srv' : Server) : Prop where
  step : Step srv e srv'
  apart : Apart mine key srv'
  counter : srv.gamesIdUniq.toNat ≤ srv'.gamesIdUniq.toNat
  asks : ∀ event ∈ e, event.input.isAmong mine = true → event.input.asksForGames = false

/-- What holds between the rounds. -/
structure Separate (mine : ClientID → Bool) (key : GameID) (srv : Server) : Prop where
  registry : RegistryOk srv
  counters : CountersOk srv
  apart : Apart mine key srv

/-- The counter stays ahead of the ids unless it comes round. -/
theorem Counts.countersOk (h : Counts packet srv srv') (hcounters : CountersOk srv)
    (hroom : srv.gamesIdUniq.toNat ≤ srv'.gamesIdUniq.toNat) : CountersOk srv' := by
  intro k hk
  rcases h.keys k hk with hk | ⟨rfl, hnext⟩
  · exact ⟨(hcounters k hk).1, le_trans (hcounters k hk).2 hroom⟩
  · rw [hnext] at hroom ⊢
    exact ⟨by bv_omega, le_refl _⟩

namespace GroupStep

variable {e : Option Event}

theorem countersOk (h : GroupStep mine key srv e srv') (hcounters : CountersOk srv) :
    CountersOk srv' := by
  cases h.step.round with
  | rehash hr =>
      cases hr with
      | games hperm => exact fun k hk => hcounters k ((AList.mem_of_perm hperm).mp hk)
      | vanjects _ _ => exact fun k hk => hcounters k (mem_setGame.mp hk)
  | tick hall =>
      refine closeAll_preserves hall (fun c mid mid' s hclosed hmid => ?_) hcounters
      have hcounts := hclosed.counts
      rcases hcounts.counter with hsame | ⟨hrequests, -⟩
      · exact hcounts.countersOk hmid (by rw [hsame])
      · exact absurd hrequests (by decide)
  | added => exact hcounters
  | status => exact hcounters
  | disconnected =>
      show CountersOk (srv.markPlayerDisconnected _ _)
      unfold Server.markPlayerDisconnected
      split
      · exact fun k hk => hcounters k (mem_setGame.mp hk)
      · exact hcounters
  | updated hr =>
      obtain ⟨_, _, -, -, hhandled, -⟩ := onUpdate_handled hr
      exact hhandled.counts.countersOk hcounters h.counter

theorem separate (h : GroupStep mine key srv e srv') (hsep : Separate mine key srv) :
    Separate mine key srv' :=
  ⟨h.step.registryOk hsep.registry, h.countersOk hsep.counters, h.apart⟩

/-- **A round of the group's is a round of its server.** -/
theorem kept {e' : Option Event} (h : GroupStep mine key srv e srv') (hsep : Separate mine key srv)
    (hround : roundAmong mine e = some e') : Step (srv.alone mine key) e' (srv'.alone mine key) := by
  cases e with
  | none =>
      obtain rfl := Option.some.inj hround
      cases h.step with
      | rehash hr => exact .rehash (rehash_alone hr)
  | some event =>
      obtain ⟨env, input, sent⟩ := event
      unfold roundAmong at hround
      dsimp only at hround
      split at hround
      · rename_i hamong
        obtain rfl := Option.some.inj hround
        refine .take ?_
        cases h.step.round with
        | tick hall =>
            show (srv.alone mine key).closeAll env ((srv.alone mine key).expiredClientIds env) = _
            rw [expiredClientIds_alone hsep.apart]
            exact closeAll_alone hsep.registry hsep.apart hall
        | added =>
            rw [addClient_alone hamong]
            rfl
        | status =>
            rw [setConnection_alone hamong]
            rfl
        | disconnected =>
            rw [disconnected_alone hsep.apart hamong]
            rfl
        | @updated _ c packet r hr =>
            have hasks : packet.action ≠ .gamesListQuery ∧ packet.action ≠ .topListQuery := by
              simpa [Input.asksForGames] using h.asks _ rfl hamong
            have hechoes : Echoes mine ((srv.only key).onUpdate env c packet)
                ((srv.alone mine key).onUpdate env c packet) :=
              onUpdate_among env packet c (srv.only key)
            obtain ⟨r', hr', hsrv, hsent⟩ := hechoes.alone (onUpdate_only hsep.registry hsep.counters
              hsep.apart h.apart h.counter hamong hasks.1 hasks.2 hr)
            exact Option.map_eq_some_iff.mpr ⟨r', hr', Prod.ext hsrv hsent⟩
      · cases hround

/-- **A round of somebody else's is not seen.** -/
theorem quiet (h : GroupStep mine key srv e srv') (hsep : Separate mine key srv)
    (hround : roundAmong mine e = none) :
    srv'.alone mine key = srv.alone mine key ∧ heardBy mine (sentIn e) = [] := by
  cases e with
  | none => cases hround
  | some event =>
      obtain ⟨env, input, sent⟩ := event
      unfold roundAmong at hround
      dsimp only at hround
      split at hround
      · cases hround
      · rename_i hamong
        have hother := Bool.eq_false_iff.mpr hamong
        cases h.step.round with
        | tick _ => cases hother
        | added => exact ⟨addClient_unseen hother, rfl⟩
        | status => exact ⟨setConnection_unseen hother, rfl⟩
        | disconnected => exact ⟨disconnected_unseen hsep.apart hother, rfl⟩
        | updated hr =>
            exact onUpdate_unseen hsep.registry hsep.counters hsep.apart h.apart h.counter hother hr

end GroupStep

theorem sentIn_roundAmong {e e' : Option Event} (h : roundAmong mine e = some e') :
    sentIn e' = heardBy mine (sentIn e) := by
  cases e with
  | none =>
      obtain rfl := Option.some.inj h
      rfl
  | some event =>
      unfold roundAmong at h
      dsimp only at h
      split at h
      · obtain rfl := Option.some.inj h
        rfl
      · cases h

/-! ### Runs -/

theorem separate_new (start : Instant) : Separate mine key (Server.new start) :=
  ⟨registryOk_new start, fun k hk => absurd hk (AList.notMem_empty k), fun k g hk => by
    rw [show (Server.new start).games.lookup k = none from AList.lookup_empty k] at hk
    cases hk⟩

/-- **Separation.**  In every run in which a group of clients has its game to itself, the group is
served as by a server that has nobody else: one that starts with no games and the counter where the
group's game gets its id, takes the rounds of the group and no others, and sends the group the same
packets in the same order. -/
theorem served_alone {start : Instant} {tr : List (Option Event)}
    (h : Transition.Run (GroupStep mine key) (Server.new start) tr srv) :
    Transition.Run Step ((Server.new start).alone mine key) (tr.filterMap (roundAmong mine))
        (srv.alone mine key) ∧
      heardBy mine (tr.flatMap sentIn) = (tr.filterMap (roundAmong mine)).flatMap sentIn := by
  have hrun := h.guarded (separate_new start) fun _ _ _ hstep hsep => hstep.separate hsep
  refine ⟨hrun.project (fun _ _ _ _ hstep hround => hstep.1.kept hstep.2 hround)
    fun _ _ _ hstep hround => (hstep.1.quiet hstep.2 hround).1, ?_⟩
  refine hrun.history (P := fun tr _ =>
    heardBy mine (tr.flatMap sentIn) = (tr.filterMap (roundAmong mine)).flatMap sentIn) rfl ?_
  intro tr a e b _ hstep ih
  rw [List.flatMap_append, heardBy_append, ih, List.filterMap_append, List.flatMap_append]
  congr 1
  cases hround : roundAmong mine e with
  | none =>
      rw [List.filterMap_cons_none hround, List.flatMap_singleton]
      exact (hstep.1.quiet hstep.2 hround).2
  | some e' =>
      rw [List.filterMap_cons_some hround, List.flatMap_singleton]
      simp [sentIn_roundAmong hround]

end

/-! ### Playing -/

/-- The rounds on the inputs, as long as each leaves the group its game to itself. -/
def playApart (mine : ClientID → Bool) (key : GameID) (srv : Server) :
    List (Env × Input) → Option (Server × List (Option Event))
  | [] => some (srv, [])
  | (env, input) :: rest => do
    let (mid, sent) ← srv.take env input
    if Apart mine key mid ∧ srv.gamesIdUniq.toNat ≤ mid.gamesIdUniq.toNat ∧
        (input.isAmong mine = true → input.asksForGames = false) then do
      let (last, events) ← playApart mine key mid rest
      some (last, some { env, input, sent } :: events)
    else none

theorem playApart_run {mine : ClientID → Bool} {key : GameID} {srv last : Server}
    {inputs : List (Env × Input)} {events : List (Option Event)}
    (h : playApart mine key srv inputs = some (last, events)) :
    Transition.Run (GroupStep mine key) srv events last := by
  induction inputs generalizing srv events with
  | nil =>
      simp only [playApart, Option.some.injEq, Prod.mk.injEq] at h
      obtain ⟨rfl, rfl⟩ := h
      exact .nil
  | cons first rest ih =>
      obtain ⟨env, input⟩ := first
      simp only [playApart, Option.bind_eq_bind, Option.bind_eq_some_iff] at h
      obtain ⟨⟨mid, sent⟩, htake, h⟩ := h
      split at h
      · rename_i htest
        obtain ⟨hapart, hcounter, hasks⟩ := htest
        simp only [Option.bind_eq_some_iff, Option.some.injEq, Prod.mk.injEq] at h
        obtain ⟨⟨last', events'⟩, hrest, rfl, rfl⟩ := h
        have hstep : GroupStep mine key srv (some { env, input, sent }) mid := by
          refine ⟨.take htake, hapart, hcounter, fun event he hamong => ?_⟩
          obtain rfl := Option.some.inj he
          exact hasks hamong
        exact (Transition.Run.nil.snoc hstep).append (ih hrest)
      · cases h

/-- One connection makes a first game, two others play in a second one, and the first game goes. -/
def twoGamesInputs : List (Env × Input) :=
  [(Env.atTime 0, .add (Client.new 7)), (Env.atTime 0, .add (Client.new 8)),
    (Env.atTime 0, ask 7 .attachToGame [0, 0, 0, 0]), (Env.atTime 0, ask 8 .attachToGame [0, 0, 0, 0]),
    (Env.atTime 0, ask 7 .registerName [65, 0, 66, 0]), (Env.atTime 0, .add (Client.new 9)),
    (Env.atTime 0, ask 9 .attachToGame [2, 0, 0, 0]), (Env.atTime 0, ask 7 .gamesListQuery []),
    (Env.atTime 0, ask 9 .registerName [67, 0, 68, 0]), (Env.atTime 0, .message 7 .disconnected),
    (Env.atTime (61 * nanosPerSec), .tick), (Env.atTime (61 * nanosPerSec), ask 8 .leaveWorld [])]

/-- The two that play in the second game. -/
def inSecondGame (x : ClientID) : Bool := x = 8 || x = 9

/-- The two of the second game are served in seven of the twelve rounds, and what they hear is what
their own server sends. -/
theorem served_alone_second : ∃ tr srv,
    Transition.Run (GroupStep inSecondGame 2) (Server.new 0) tr srv ∧
    Transition.Run Step ((Server.new 0).alone inSecondGame 2) (tr.filterMap (roundAmong inSecondGame))
      (srv.alone inSecondGame 2) ∧
    tr.length = 12 ∧ (tr.filterMap (roundAmong inSecondGame)).length = 7 ∧
    (((tr.filterMap (roundAmong inSecondGame)).flatMap sentIn).map fun s => (s.client, s.packet.action))
      = [(8, .attachToGameResponse), (8, .zTimeResponse), (9, .attachToGameResponse),
        (9, .zTimeResponse), (8, .playersName)] := by
  have hplay : ((playApart inSecondGame 2 (Server.new 0) twoGamesInputs).map fun played =>
      (played.2.length, (played.2.filterMap (roundAmong inSecondGame)).length,
        (heardBy inSecondGame (played.2.flatMap sentIn)).map fun s => (s.client, s.packet.action)))
      = some (12, 7, [(8, .attachToGameResponse), (8, .zTimeResponse), (9, .attachToGameResponse),
          (9, .zTimeResponse), (8, .playersName)]) := by
    decide +kernel
  obtain ⟨⟨srv, tr⟩, hplayed, htests⟩ := Option.map_eq_some_iff.mp hplay
  simp only [Prod.mk.injEq] at htests
  obtain ⟨hrounds, hgroup, hheard⟩ := htests
  have hrun := playApart_run hplayed
  obtain ⟨halone, hsame⟩ := served_alone hrun
  refine ⟨tr, srv, hrun, halone, hrounds, hgroup, ?_⟩
  rw [← hsame]
  exact hheard

end VangersSrv
