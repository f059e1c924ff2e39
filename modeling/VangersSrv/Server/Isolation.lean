/-
Games are isolated, and requests of different games commute.

A request writes to its sender's game only (`Isolated`), and what it does depends on that
game and the clients alone (`onUpdate_same`).  Where no connection has two players, a
request to one game leaves the other as it is found, so two requests of different games can
be handled in either order.  The one thing that differs between two runs is the order in
which `leave_world` drains its map of deleted objects (`SameButDeletes`).
-/
import VangersSrv.Server.Locality

namespace VangersSrv

/-! ### The order of a drained map -/

/-- The same environment, but for the order in which a map is drained, and what becomes of entries
that are sorted. -/
structure Env.Redrained (env env' : Env) : Prop where
  now : env'.now = env.now
  unix : env'.unix = env.unix
  randomName : env'.randomName = env.randomName

/-- The same packets in the same order, but for the deletes of one leave, which come first. -/
def SameButDeletes (a b : List Sent) : Prop :=
  ∃ deletes deletes' rest, a = deletes ++ rest ∧ b = deletes' ++ rest ∧ deletes.Perm deletes' ∧
    ∀ s ∈ deletes, s.packet.action = .deleteObject

namespace SameButDeletes

theorem refl (a : List Sent) : SameButDeletes a a := ⟨[], [], a, rfl, rfl, .refl _, by simp⟩

theorem append {a b : List Sent} (h : SameButDeletes a b) (l : List Sent) :
    SameButDeletes (a ++ l) (b ++ l) := by
  obtain ⟨deletes, deletes', rest, rfl, rfl, hperm, hdeletes⟩ := h
  exact ⟨deletes, deletes', rest ++ l, List.append_assoc .., List.append_assoc .., hperm, hdeletes⟩

theorem filter {a b : List Sent} (h : SameButDeletes a b) (q : Sent → Bool) :
    SameButDeletes (a.filter q) (b.filter q) := by
  obtain ⟨deletes, deletes', rest, rfl, rfl, hperm, hdeletes⟩ := h
  refine ⟨deletes.filter q, deletes'.filter q, rest.filter q, List.filter_append .., 
    List.filter_append .., hperm.filter q, fun s hs => hdeletes s (List.mem_of_mem_filter hs)⟩

theorem symm {a b : List Sent} (h : SameButDeletes a b) : SameButDeletes b a := by
  obtain ⟨deletes, deletes', rest, rfl, rfl, hperm, hdeletes⟩ := h
  exact ⟨deletes', deletes, rest, rfl, rfl, hperm.symm, fun s hs => hdeletes s (hperm.mem_iff.mpr hs)⟩

/-- Who hears the one hears the other. -/
theorem mem {a b : List Sent} (h : SameButDeletes a b) {s : Sent} (hs : s ∈ b) : s ∈ a := by
  obtain ⟨deletes, deletes', rest, rfl, rfl, hperm, -⟩ := h
  rcases List.mem_append.mp hs with hs | hs
  · exact List.mem_append_left _ (hperm.mem_iff.mpr hs)
  · exact List.mem_append_right _ hs

end SameButDeletes

/-- The same reply, but for the order of the deletes. -/
structure Redrained (r r' : Reply) : Prop where
  srv : r'.srv = r.srv
  result : r'.result = r.result
  sent : SameButDeletes r.sent r'.sent

section

variable {env env' : Env} {packet : Packet} {c : ClientID} {srv : Server}

theorem Redrained.refl (x : Option Reply) : Option.Rel Redrained x x := by
  cases x with
  | none => exact .none
  | some r => exact .some ⟨rfl, rfl, .refl _⟩

/-- What was sent before comes first. -/
theorem Redrained.prepend {a b : List Sent} (h : SameButDeletes a b) (x : Option Reply) :
    Option.Rel Redrained (x.bind fun r => some { r with sent := a ++ r.sent })
      (x.bind fun r => some { r with sent := b ++ r.sent }) := by
  cases x with
  | none => exact .none
  | some r => exact .some ⟨rfl, rfl, h.append r.sent⟩

theorem leaveDeletes_action {vanjects : Vanjects} {b : UInt8} {deletes : List (I32 × Packet)}
    (h : leaveDeletes vanjects b = some deletes) : ∀ e ∈ deletes, e.2.action = .deleteObject := by
  intro e he
  obtain ⟨v, -, -, hpacket⟩ := leaveDeletes_packet h he
  exact (Packet.new_eq_some hpacket).1

theorem leaveWorld_redrained (srv : Server) (c : ClientID) (env env' : Env) :
    Option.Rel Redrained (srv.leaveWorld env c) (srv.leaveWorld env' c) := by
  unfold Server.leaveWorld
  cases srv.getGameByClientid c with
  | none => exact Redrained.refl _
  | some found =>
      obtain ⟨key, game⟩ := found
      dsimp only
      cases game.getPlayer c with
      | none => exact .none
      | some player =>
          simp only [Option.bind_eq_bind, Option.bind_some]
          cases player.bindId with
          | none => exact Redrained.refl _
          | some playerBindId =>
              dsimp only
              cases player.world with
              | none => exact Redrained.refl _
              | some world =>
                  dsimp only
                  cases hdelete : leaveDeletes game.vanjects playerBindId with
                  | none => exact .none
                  | some delete =>
                      simp only [Option.bind_some]
                      cases Packet.new .playersWorld [playerBindId, 0] with
                      | none => exact .none
                      | some playersWorld =>
                          refine .some ⟨rfl, rfl, ?_⟩
                          refine ⟨_, _, _, rfl, rfl, ?_, ?_⟩
                          · exact ((env.drain_perm delete).trans
                              (env'.drain_perm delete).symm).flatMap_right _
                          · intro s hs
                            obtain ⟨e, he, hs⟩ := List.mem_flatMap.mp hs
                            rw [Server.notify_packet hs]
                            exact leaveDeletes_action hdelete e ((env.drain_perm delete).mem_iff.mp he)

theorem setWorld_redrained (env env' : Env) :
    Option.Rel Redrained (srv.setWorld env packet c) (srv.setWorld env' packet c) := by
  unfold Server.setWorld
  cases packet.data[0]? with
  | none => exact .none
  | some worldId =>
      cases slice packet.data 1 3 with
      | none => exact .none
      | some data =>
          simp only [Option.bind_eq_bind, Option.bind_some]
          cases sliceLeToI16 data with
          | none => exact .none
          | some ySize =>
              simp only [Option.bind_some]
              by_cases hneeds : srv.needsLeaveWorld c worldId = true
              · rw [if_pos hneeds, if_pos hneeds]
                have hleft := leaveWorld_redrained srv c env env'
                generalize srv.leaveWorld env c = x at hleft
                generalize srv.leaveWorld env' c = y at hleft
                cases hleft with
                | none => exact .none
                | @some left left' hrel =>
                    obtain ⟨mid, sent, result⟩ := left
                    obtain ⟨mid', sent', result'⟩ := left'
                    obtain ⟨rfl, rfl, hsent⟩ := hrel
                    cases result' with
                    | error err => exact .some ⟨rfl, rfl, hsent⟩
                    | ok _ => exact Redrained.prepend hsent _
              · rw [if_neg hneeds, if_neg hneeds]
                exact Redrained.refl _

theorem closeSocket_redrained (env env' : Env) :
    Option.Rel Redrained (srv.closeSocket env c) (srv.closeSocket env' c) := by
  unfold Server.closeSocket
  have hleft := leaveWorld_redrained srv c env env'
  generalize srv.leaveWorld env c = x at hleft
  generalize srv.leaveWorld env' c = y at hleft
  cases hleft with
  | none => exact .none
  | @some left left' hrel =>
      obtain ⟨mid, sent, result⟩ := left
      obtain ⟨mid', sent', result'⟩ := left'
      obtain ⟨rfl, rfl, hsent⟩ := hrel
      have hcloses := Redrained.prepend hsent (mid'.closeLeft c)
      have hstays : ∀ err, Option.Rel Redrained (some ⟨mid', sent, .error err⟩)
          (some ⟨mid', sent', .error err⟩) := fun _ => .some ⟨rfl, rfl, hsent⟩
      cases result' with
      | ok _ => exact hcloses
      | error err =>
          cases err
          case leaveWorld err =>
            cases err
            case worldEmpty => exact hcloses
            all_goals exact hstays _
          all_goals exact hstays _

theorem handle_redrained (srv : Server) (packet : Packet) (c : ClientID) (henv : env.Redrained env')
    (haction : packet.action ∉ sharedActions) :
    Option.Rel Redrained (srv.handle env packet c) (srv.handle env' packet c) := by
  obtain ⟨now, unix, randomName, drain, hdrain, sort, hordered, hperm⟩ := env
  obtain ⟨now', unix', randomName', drain', hdrain', sort', hordered', hperm'⟩ := env'
  obtain ⟨rfl, rfl, rfl⟩ := henv
  unfold Server.handle
  cases ha : packet.action
  case topListQuery => simp [ha, sharedActions] at haction
  case setWorld => exact setWorld_redrained _ _
  case leaveWorld => exact leaveWorld_redrained srv c _ _
  case closeSocket => exact closeSocket_redrained _ _
  -- the other handlers drain no map and sort nothing
  all_goals exact Redrained.refl _

/-- Only the order of the deletes depends on how the map is drained. -/
theorem onUpdate_redrained (srv : Server) (c : ClientID) (packet : Packet)
    (henv : env.Redrained env') (haction : packet.action ∉ sharedActions) :
    Option.Rel Redrained (srv.onUpdate env c packet) (srv.onUpdate env' c packet) := by
  unfold Server.onUpdate
  have hsame := handle_redrained srv packet c henv haction
  generalize srv.handle env packet c = x at hsame
  generalize srv.handle env' packet c = y at hsame
  cases hsame with
  | none => exact .none
  | @some reply reply' hrel =>
      obtain ⟨mid, sent, result⟩ := reply
      obtain ⟨mid', sent', result'⟩ := reply'
      obtain ⟨rfl, rfl, hsent⟩ := hrel
      simp only [Option.bind_eq_bind, Option.bind_some]
      by_cases hlogged : Server.logged result' = true
      · rw [if_pos hlogged, if_pos hlogged]
        exact .some ⟨rfl, rfl, hsent.append _⟩
      · rw [if_neg hlogged, if_neg hlogged]
        exact .none

end

/-! ### A request stays in its game -/

section

variable {srv : Server} {key key' : GameID} {game game' : Game} {c c' : ClientID}
  {outcome outcome' : Option Game}

/-- Every game is filed under its own id. -/
def GamesFiled (srv : Server) : Prop := ∀ k g, srv.games.lookup k = some g → g.id = k

theorem ServerReachable.gamesFiled (h : ServerReachable srv) : GamesFiled srv :=
  h.registryOk.keyed

/-- What a request to a game leaves alone, and who hears of it. -/
structure Isolated (srv : Server) (key : GameID) (game : Game) (r : Reply) : Prop where
  games : ∀ k, k ≠ key → r.srv.games.lookup k = srv.games.lookup k
  clients : r.srv.clients = srv.clients
  gamesIdUniq : r.srv.gamesIdUniq = srv.gamesIdUniq
  uptime : r.srv.uptime = srv.uptime
  recipients : ∀ s ∈ r.sent, s.client ∈ game.clientIds

/-- Only the games are written. -/
theorem settle_eq (srv : Server) (key : GameID) (outcome : Option Game) :
    srv.settle key outcome = { srv with games := (srv.settle key outcome).games } := by
  cases outcome with
  | none => rfl
  | some g => rfl

theorem lookup_settle_of_ne {k : GameID} (h : k ≠ key) :
    (srv.settle key outcome).games.lookup k = srv.games.lookup k := by
  cases outcome with
  | none => exact AList.lookup_erase_ne h
  | some g => exact Server.lookup_setGame_of_ne h

/-- What became of a game can be written before or after what became of another. -/
theorem settle_comm (h : key ≠ key') :
    (srv.settle key outcome).settle key' outcome' = (srv.settle key' outcome').settle key outcome := by
  have hgames : ((srv.settle key outcome).settle key' outcome').games
      = ((srv.settle key' outcome').settle key outcome).games := by
    cases outcome with
    | none =>
        cases outcome' with
        | none => exact AList.erase_erase key key' srv.games
        | some g' => exact (AList.erase_replace_comm h g').symm
    | some g =>
        cases outcome' with
        | none => exact AList.erase_replace_comm (Ne.symm h) g
        | some g' => exact AList.replace_comm h g g'
  rw [settle_eq (srv.settle key outcome), settle_eq (srv.settle key' outcome'), hgames,
    settle_eq srv key outcome, settle_eq srv key' outcome']

namespace OneHolder

theorem settle (hone : OneHolder srv) (hlookup : srv.games.lookup key = some game)
    (hplayers : ∀ g ∈ outcome, g.clientIds.Sublist game.clientIds) :
    OneHolder (srv.settle key outcome) := by
  refine hone.mono fun k g hk => ?_
  by_cases hkey : k = key
  · subst hkey
    refine ⟨game, hlookup, hplayers g ?_⟩
    cases outcome with
    | none =>
        have hgone : (srv.settle k none).games.lookup k = none := AList.lookup_erase k srv.games
        rw [hgone] at hk
        cases hk
    | some g' =>
        have hwritten : (srv.setGame k g').games.lookup k = some g' :=
          Server.lookup_setGame_self hlookup
        exact hwritten.symm.trans hk
  · rw [lookup_settle_of_ne hkey] at hk
    exact ⟨g, hk, .refl _⟩

/-- The game of a connection's player is the one that is looked up. -/
theorem getGame (hone : OneHolder srv) (hlookup : srv.games.lookup key = some game)
    (hc : c ∈ game.clientIds) : srv.getGameByClientid c = some (key, game) := by
  obtain ⟨p, hp, rfl⟩ := List.mem_map.mp hc
  exact (hone.actsOnHolder key game p hlookup hp).1

/-- A connection of another game does not see what became of this one. -/
theorem alike (hone : OneHolder srv) (hlookup : srv.games.lookup key = some game)
    (hplayers : ∀ g ∈ outcome, g.clientIds.Sublist game.clientIds)
    (hlookup' : srv.games.lookup key' = some game') (hc' : c' ∈ game'.clientIds) (hne : key' ≠ key) :
    Alike srv (srv.settle key outcome) c' key' game' := by
  refine ⟨hone.getGame hlookup' hc', ?_, Server.settle_clients srv outcome⟩
  refine (hone.settle hlookup hplayers).getGame ?_ hc'
  rw [lookup_settle_of_ne hne]
  exact hlookup'

end OneHolder

variable {env env' : Env} {packet : Packet} {r : Reply}

/-- What a request did to its game, and what it would have done after a request to another. -/
theorem onUpdate_after (hone : OneHolder srv) (hid : game.id = key)
    (hlookup : srv.games.lookup key = some game) (hc : c ∈ game.clientIds)
    (hlookup' : srv.games.lookup key' = some game') (hne : key ≠ key')
    (hplayers' : ∀ g ∈ outcome', g.clientIds.Sublist game'.clientIds)
    (haction : packet.action ∉ sharedActions) (henv : env.Redrained env')
    (hr : srv.onUpdate env c packet = some r) :
    ∃ outcome r', (∀ g ∈ outcome, g.clientIds.Sublist game.clientIds) ∧
      r.srv = srv.settle key outcome ∧ (∀ s ∈ r.sent, s.client ∈ game.clientIds) ∧
      (srv.settle key' outcome').onUpdate env' c packet = some r' ∧
      r'.srv = (srv.settle key' outcome').settle key outcome ∧ r'.result = r.result ∧
      SameButDeletes r.sent r'.sent := by
  have hsame := onUpdate_same env (hone.alike hlookup' hplayers' hlookup hc hne) hid haction
  rw [hr] at hsame
  generalize hmid : (srv.settle key' outcome').onUpdate env c packet = x at hsame
  cases hsame with
  | @some _ mid hrel =>
      obtain ⟨outcome, hplayers, hleft, hright, hsent, hresult, hrecipients, -⟩ := hrel
      have hdrained := onUpdate_redrained (srv.settle key' outcome') c packet henv
        haction
      rw [hmid] at hdrained
      generalize hlast : (srv.settle key' outcome').onUpdate env' c packet = y at hdrained
      cases hdrained with
      | @some _ last hlast' =>
          refine ⟨outcome, last, hplayers, hleft, hrecipients, rfl, ?_, ?_, ?_⟩
          · exact hlast'.srv.trans hright
          · exact hlast'.result.trans hresult
          · rw [← hsent]
            exact hlast'.sent

/-- What a request does to its game. -/
theorem onUpdate_settles (hone : OneHolder srv) (hid : game.id = key)
    (hlookup : srv.games.lookup key = some game) (hc : c ∈ game.clientIds)
    (haction : packet.action ∉ sharedActions) (hr : srv.onUpdate env c packet = some r) :
    ∃ outcome, (∀ g ∈ outcome, g.clientIds.Sublist game.clientIds) ∧
      r.srv = srv.settle key outcome ∧ ∀ s ∈ r.sent, s.client ∈ game.clientIds := by
  have hgame := hone.getGame hlookup hc
  have hsame := onUpdate_same env ⟨hgame, hgame, rfl⟩ hid haction
  rw [hr] at hsame
  cases hsame with
  | some hrel =>
      obtain ⟨outcome, hplayers, hreply⟩ := hrel
      exact ⟨outcome, hplayers, hreply.left, hreply.recipients⟩

theorem Isolated.of_settle (hsrv : r.srv = srv.settle key outcome)
    (hrecipients : ∀ s ∈ r.sent, s.client ∈ game.clientIds) : Isolated srv key game r := by
  refine ⟨fun k hk => ?_, ?_, ?_, ?_, hrecipients⟩
  · rw [hsrv]
    exact lookup_settle_of_ne hk
  · rw [hsrv, settle_eq]
  · rw [hsrv, settle_eq]
  · rw [hsrv, settle_eq]

end

/-- **Games are isolated and commute.**  A request changes nothing outside its sender's game
and is heard by connections of its players only, and requests of two games can be handled in
either order. -/
theorem games_commute {srv : Server} {k₁ k₂ : GameID} {g₁ g₂ : Game} {c₁ c₂ : ClientID}
    {p₁ p₂ : Packet} {env₁ env₁' env₂ env₂' : Env} {r₁ r₂ : Reply}
    (hone : OneHolder srv) (hfiled : GamesFiled srv)
    (hg₁ : srv.games.lookup k₁ = some g₁) (hc₁ : c₁ ∈ g₁.clientIds)
    (hg₂ : srv.games.lookup k₂ = some g₂) (hc₂ : c₂ ∈ g₂.clientIds) (hne : k₁ ≠ k₂)
    (ha₁ : p₁.action ∉ sharedActions) (ha₂ : p₂.action ∉ sharedActions)
    (henv₁ : env₁.Redrained env₁') (henv₂ : env₂.Redrained env₂')
    (hr₁ : srv.onUpdate env₁ c₁ p₁ = some r₁) (hr₂ : srv.onUpdate env₂ c₂ p₂ = some r₂) :
    Isolated srv k₁ g₁ r₁ ∧ ∃ r₁₂ r₂₁, r₁.srv.onUpdate env₂' c₂ p₂ = some r₁₂ ∧
      r₂.srv.onUpdate env₁' c₁ p₁ = some r₂₁ ∧ r₁₂.srv = r₂₁.srv ∧
      r₁₂.result = r₂.result ∧ r₂₁.result = r₁.result ∧
      ∀ x, SameButDeletes ((r₁.sent ++ r₁₂.sent).filter fun s => s.client = x)
        ((r₂.sent ++ r₂₁.sent).filter fun s => s.client = x) := by
  have hid₁ := hfiled k₁ g₁ hg₁
  have hid₂ := hfiled k₂ g₂ hg₂
  obtain ⟨o, ho, hsrv, -⟩ := onUpdate_settles hone hid₂ hg₂ hc₂ ha₂ hr₂
  obtain ⟨o₁, r₂₁, ho₁, hsrv₁, hheard₁, hrun₂₁, hsrv₂₁, hres₂₁, hsent₁⟩ :=
    onUpdate_after hone hid₁ hg₁ hc₁ hg₂ hne ho ha₁ henv₁ hr₁
  obtain ⟨o₂, r₁₂, -, hsrv₂, hheard₂, hrun₁₂, hsrv₁₂, hres₁₂, hsent₂⟩ :=
    onUpdate_after hone hid₂ hg₂ hc₂ hg₁ (Ne.symm hne) ho₁ ha₂ henv₂ hr₂
  rw [← hsrv] at hrun₂₁ hsrv₂₁
  rw [← hsrv₁] at hrun₁₂
  refine ⟨.of_settle hsrv₁ hheard₁, r₁₂, r₂₁, hrun₁₂, hrun₂₁, ?_, hres₁₂, hres₂₁, fun x => ?_⟩
  · rw [hsrv₁₂, hsrv₂₁, hsrv₂, settle_comm hne]
  -- a connection hears of one of the two games at most
  have hsilent : ∀ {g : Game} {sent : List Sent}, x ∉ g.clientIds →
      (∀ s ∈ sent, s.client ∈ g.clientIds) → (sent.filter fun s => s.client = x) = [] := by
    intro g sent hx hheard
    rw [List.filter_eq_nil_iff]
    intro s hs hclient
    rw [← of_decide_eq_true hclient] at hx
    exact hx (hheard s hs)
  rw [List.filter_append, List.filter_append]
  by_cases hx : x ∈ g₁.clientIds
  · have hx₂ : x ∉ g₂.clientIds := fun hin => hone.apart k₁ k₂ g₁ g₂ hg₁ hg₂ hne hx hin
    rw [hsilent hx₂ hheard₂, hsilent hx₂ fun s hs => hheard₂ s (hsent₂.mem hs), List.append_nil,
      List.nil_append]
    exact hsent₁.filter _
  · rw [hsilent hx hheard₁, hsilent hx fun s hs => hheard₁ s (hsent₁.mem hs), List.append_nil,
      List.nil_append]
    exact (hsent₂.filter _).symm

/-- The player of one game closes its socket, and the player of another leaves its world. -/
theorem games_commute_two : ∃ srv g r₁ r₂, ServerReachable srv ∧ Isolated srv 1 g r₁ ∧
    srv.onUpdate (Env.atTime 0) 7 (request .closeSocket []) = some r₁ ∧
    srv.onUpdate (Env.atTime 0) 8 (request .leaveWorld []) = some r₂ ∧
    ∃ r₁₂ r₂₁, r₁.srv.onUpdate (Env.atTime 0) 8 (request .leaveWorld []) = some r₁₂ ∧
      r₂.srv.onUpdate (Env.atTime 0) 7 (request .closeSocket []) = some r₂₁ ∧
      r₁₂.srv = r₂₁.srv := by
  have hplay : ((play (Server.new 0)
      [(Env.atTime 0, .add (Client.new 7)), (Env.atTime 0, .add (Client.new 8)),
        (Env.atTime 0, ask 7 .attachToGame [0, 0, 0, 0]),
        (Env.atTime 0, ask 7 .setWorld [0, 0, 8]),
        (Env.atTime 0, ask 8 .attachToGame [0, 0, 0, 0]),
        (Env.atTime 0, ask 8 .setWorld [0, 0, 8])]).map Prod.fst).bind
      (fun srv => do
        let g₁ ← srv.games.lookup 1
        let g₂ ← srv.games.lookup 2
        let _ ← srv.onUpdate (Env.atTime 0) 7 (request .closeSocket [])
        let _ ← srv.onUpdate (Env.atTime 0) 8 (request .leaveWorld [])
        some (g₁.clientIds, g₂.clientIds, srv.holders))
      = some ([7], [8], [8, 7]) := by
    decide +kernel
  obtain ⟨srv, tr, hrun, hfacts⟩ := play_bind hplay
  simp only [Option.bind_eq_bind, Option.bind_eq_some_iff, Option.some.injEq, Prod.mk.injEq] at hfacts
  obtain ⟨g₁, hg₁, g₂, hg₂, r₁, hr₁, r₂, hr₂, hids₁, hids₂, hholders⟩ := hfacts
  have hreach : ServerReachable srv := ⟨0, tr, hrun⟩
  have hone : OneHolder srv := .of_nodup (by rw [hholders]; decide)
  have henv : (Env.atTime 0).Redrained (Env.atTime 0) := ⟨rfl, rfl, rfl⟩
  have hclosing : (request .closeSocket []).action ∉ sharedActions := by decide
  have hleaving : (request .leaveWorld []).action ∉ sharedActions := by decide
  obtain ⟨hisolated, r₁₂, r₂₁, hr₁₂, hr₂₁, hsame, -⟩ := games_commute hone hreach.gamesFiled
    hg₁ (by rw [hids₁]; decide) hg₂ (by rw [hids₂]; decide) (by decide) hclosing hleaving
    henv henv hr₁ hr₂
  exact ⟨srv, g₁, r₁, r₂, hreach, hisolated, hr₁, hr₂, r₁₂, r₂₁, hr₁₂, hr₂₁, hsame⟩

end VangersSrv
