/-
What is stored fits into a packet.

A stored object was announced when it was stored, and the announcement fitted; so what is
replayed, shown in a snapshot or sent on joining fits again (`StoredFit`).  A players list grows
with the names of those that left, and does not always fit.
-/
import VangersSrv.Client.Framing
import VangersSrv.Server.Sizes
import VangersSrv.Server.Snapshot

namespace VangersSrv

/-- Every stored object fits the packet that announces it. -/
def StoredFit (srv : Server) : Prop :=
  ∀ k g, srv.games.lookup k = some g → ∀ id v, g.vanjects.lookup id = some v → Fits (stateData v)

theorem length_stateData (v : Vanject) :
    (stateData v).length = 13 + v.body.length + if isItemVanject v then 5 else 0 := by
  unfold stateData
  split
  · simp only [List.length_append, List.length_cons, List.length_nil, length_toLeBytes32,
      Vanject.length_toVangersByte]
    omega
  · rw [Vanject.length_toVangersByte]
    omega

/-- The owner of an object takes no more or less room. -/
theorem fits_stateData_congr {v w : Vanject} (hid : w.id = v.id) (hbody : w.body = v.body) :
    Fits (stateData w) ↔ Fits (stateData v) := by
  have hitem : isItemVanject w = isItemVanject v := by
    unfold isItemVanject Vanject.getType
    rw [hid]
  unfold Fits
  rw [length_stateData, length_stateData, hbody, hitem]

theorem fits_toVangersByte {v : Vanject} (h : Fits (stateData v)) : Fits v.toVangersByte := by
  unfold Fits at h ⊢
  rw [length_stateData] at h
  rw [Vanject.length_toVangersByte]
  omega

theorem fits_of_itemState {v : Vanject} {previousId : I32} {p : Packet}
    (h : itemStatePacket previousId v = some p) : Fits (stateData v) := by
  have hlen := (Packet.new_eq_some h).2.2
  simp only [List.length_append, List.length_cons, List.length_nil, length_toLeBytes32,
    Vanject.length_toVangersByte] at hlen
  unfold Fits
  rw [length_stateData]
  split <;> omega

theorem fits_of_statePacket {v : Vanject} {p : Packet} (h : statePacket v = some p) :
    Fits (stateData v) := by
  rw [statePacket_eq] at h
  exact Packet.new_isSome_iff.mp (Option.isSome_iff_exists.mpr ⟨p, h⟩)

namespace StoredFit

variable {env : Env} {packet : Packet} {c : ClientID} {srv srv' : Server} {sent : List Sent}
  {key : GameID} {game game' : Game}

theorem setGame (h : StoredFit srv) (hlookup : srv.games.lookup key = some game)
    (hstored : ∀ id v, game'.vanjects.lookup id = some v → Fits (stateData v)) :
    StoredFit (srv.setGame key game') := by
  intro k g hk
  rw [Server.lookup_setGame hlookup] at hk
  split at hk
  · cases hk
    exact hstored
  · exact h k g hk

/-- A write that keeps the store. -/
theorem setGame_same (h : StoredFit srv) (hlookup : srv.games.lookup key = some game)
    (hsame : game'.vanjects = game.vanjects) : StoredFit (srv.setGame key game') := by
  refine h.setGame hlookup ?_
  rw [hsame]
  exact h key game hlookup

theorem prelude (h : Prelude env packet c srv sent srv') (hfit : StoredFit srv) :
    StoredFit srv' := by
  cases h with
  | playerChanged hgame _ _ _ _ _ _ =>
      exact hfit.setGame_same (Server.getGameByClientid_lookup hgame) rfl
  | left _ _ hacting _ _ _ =>
      have hlookup := Server.getGameByClientid_lookup hacting.inGame
      refine hfit.setGame hlookup fun id v hv => ?_
      exact hfit _ _ hlookup id v (AList.lookup_retain_eq_some.mp hv).1

/-- Storing an object that fits. -/
theorem insert {k : I32} {v : Vanject} {vanjects : Vanjects}
    (h : ∀ id w, vanjects.lookup id = some w → Fits (stateData w)) (hv : Fits (stateData v)) :
    ∀ id w, (vanjects.insert k v).lookup id = some w → Fits (stateData w) := by
  intro id w hw
  rw [AList.lookup_insert'] at hw
  split at hw
  · cases hw
    exact hv
  · exact h id w hw

/-- A game that is made stores nothing. -/
theorem requestedGame {requested : I32} (h : StoredFit srv) :
    StoredFit (srv.requestedGame env requested).1 := by
  by_cases h0 : requested = 0
  · subst h0
    by_cases hin : srv.gamesIdUniq + 1 ∈ srv.games
    · rw [Server.requestedGame_taken hin]
      exact h
    · rw [Server.requestedGame_fresh hin]
      intro k g hk
      simp only [AList.lookup_insert'] at hk
      split at hk
      · cases hk
        intro id v hv
        simp [Game.new] at hv
      · exact h k g hk
  · rw [Server.requestedGame_of_ne h0]
    exact h

theorem effect (h : Effect env packet c srv sent srv') (hfit : StoredFit srv) :
    StoredFit srv' := by
  cases h with
  | prelude h => exact prelude h hfit
  | quiet _ => exact hfit
  | gameChanged hgame => exact hfit.setGame_same (Server.getGameByClientid_lookup hgame) rfl
  | counted _ _ _ => exact hfit
  | attached _ _ hfound _ _ => exact hfit.requestedGame.setGame_same hfound rfl
  | @restored _ gameId playerId game _ _ _ hlookup _ hsrv =>
      have hset : StoredFit (srv.setGame gameId (game.restored c playerId)) :=
        hfit.setGame_same hlookup rfl
      rw [hsrv]
      split
      · exact hset
      · exact hset
  | replayed _ _ _ => exact hfit
  | created _ hacting _ _ _ hsent =>
      have hlookup := Server.getGameByClientid_lookup hacting.inGame
      refine hfit.setGame hlookup (insert (hfit _ _ hlookup) ?_)
      rcases hsent with ⟨answer, hanswer, -⟩ | ⟨htype, hshort, -⟩
      · exact fits_of_statePacket hanswer
      · simp only [Body.getBaseStructSize] at hshort
        unfold Fits
        rw [length_stateData]
        simp only [i16Max]
        split <;> omega
  | updated _ hacting _ _ _ _ hanswer =>
      have hlookup := Server.getGameByClientid_lookup hacting.inGame
      refine hfit.setGame hlookup fun id v hv => ?_
      rw [AList.lookup_replace] at hv
      split at hv
      · obtain ⟨w, -, rfl⟩ := Option.map_eq_some_iff.mp hv
        exact fits_of_statePacket hanswer
      · exact hfit _ _ hlookup id v hv
  | deleted _ hacting _ _ _ =>
      have hlookup := Server.getGameByClientid_lookup hacting.inGame
      exact hfit.setGame hlookup fun id v hv => hfit _ _ hlookup id v (AList.lookup_erase_eq_some hv)
  | deleteMissed _ hacting _ _ =>
      exact hfit.setGame_same (Server.getGameByClientid_lookup hacting.inGame) rfl
  | transferred _ hacting _ _ _ _ hanswer =>
      have hlookup := Server.getGameByClientid_lookup hacting.inGame
      refine hfit.setGame hlookup (insert ?_ (fits_of_itemState hanswer))
      exact fun id v hv => hfit _ _ hlookup id v (AList.lookup_erase_eq_some hv)
  | worldMade hgame _ _ _ => exact hfit.setGame_same (Server.getGameByClientid_lookup hgame) rfl
  | entered _ _ hacting _ _ _ _ _ _ _ =>
      exact hfit.setGame_same (Server.getGameByClientid_lookup hacting.inGame) rfl
  | closed _ hacting _ _ =>
      exact hfit.setGame_same (Server.getGameByClientid_lookup hacting.inGame) rfl
  | @closedLast _ key game player _ _ hacting _ _ =>
      have hlookup := Server.getGameByClientid_lookup hacting.inGame
      have hset : StoredFit (srv.setGame key (game.closed c player)) :=
        hfit.setGame_same hlookup rfl
      exact fun k g hk => hset k g (AList.lookup_erase_eq_some hk)

theorem handled (h : Handled env packet c srv sent srv') (hfit : StoredFit srv) :
    StoredFit srv' := by
  cases h with
  | one h => exact effect h hfit
  | two _ h₁ h₂ => exact effect h₂ (prelude h₁ hfit)

theorem mark (h : StoredFit srv) : StoredFit (srv.markPlayerDisconnected env c) := by
  unfold Server.markPlayerDisconnected
  split
  · rename_i key game hgame
    exact h.setGame_same (Server.getGameByClientid_lookup hgame) rfl
  · exact h

theorem rehash (h : Rehash srv srv') (hfit : StoredFit srv) : StoredFit srv' := by
  cases h with
  | games hperm =>
      intro k g hk
      exact hfit k g (by rw [← AList.perm_lookup hperm]; exact hk)
  | vanjects hlookup hperm =>
      refine hfit.setGame hlookup fun id v hv => ?_
      rw [AList.perm_lookup hperm] at hv
      exact hfit _ _ hlookup id v hv

end StoredFit

theorem Step.storedFit {srv srv' : Server} {e : Option Event} (h : Step srv e srv')
    (hfit : StoredFit srv) : StoredFit srv' :=
  h.preserves (fun _ _ _ _ _ _ _ hh hmid => hmid.handled hh) (fun _ _ _ hmid => hmid.mark)
    (fun _ _ hmid => hmid) (fun _ _ hr hmid => hmid.rehash hr) hfit

/-- Every stored object fits its packet in every reachable state. -/
theorem ServerReachable.storedFit {srv : Server} (h : ServerReachable srv) : StoredFit srv := by
  obtain ⟨start, hreach⟩ := h
  refine hreach.invariant ?_ fun _ _ _ hstep hfit => hstep.storedFit hfit
  intro k g hk
  simp [Server.new] at hk

/-! ### The length of a players list -/

/-- How many bytes a present player takes in the list.  Without a name it is `[UNDEFINED]`. -/
def entrySize (p : Player) : Nat :=
  match p.bindId, p.body with
  | some _, some body =>
    7 + p.auth.elim 12 (fun auth => auth.name.length) + (Body.getBaseStructSize + body.stats.length)
  | _, _ => 0

def removedEntrySize (r : RemovedPlayer) : Nat := 7 + r.name.length + r.body.length

/-- The length that a game's players list has grown to. -/
def playersListSize (game : Game) : Nat :=
  1 + (game.players.map entrySize).sum + (game.removedPlayers.map removedEntrySize).sum

theorem Body.length_toVangersByte (b : Body) :
    b.toVangersByte.length = Body.getBaseStructSize + b.stats.length := by
  simp [Body.toVangersByte, Body.getBaseStructSize]
  omega

theorem length_playerEntry (p : Player) : ((playerEntry p).getD []).length = entrySize p := by
  unfold playerEntry entrySize
  cases p.bindId with
  | none => rfl
  | some id =>
      cases p.body with
      | none => rfl
      | some body =>
          simp only [Option.bind_eq_bind, Option.bind_some, Option.getD_some, List.length_append,
            Body.length_toVangersByte, Pos.toVangersByte, length_toLeBytes16, List.length_cons,
            List.length_nil]
          cases p.auth with
          | none => rfl
          | some auth => rfl

theorem length_removedPlayerEntry (r : RemovedPlayer) :
    (removedPlayerEntry r).length = removedEntrySize r := by
  simp only [removedPlayerEntry, removedEntrySize, Pos.toVangersByte, List.length_append,
    List.length_cons, List.length_nil, length_toLeBytes16]

theorem length_playersList (g : Game) : (playersList g).length = playersListSize g := by
  have hpresent : ∀ l : List Player,
      ((l.filterMap playerEntry).flatten).length = (l.map entrySize).sum := by
    intro l
    induction l with
    | nil => rfl
    | cons p rest ih =>
        rw [List.filterMap_cons, List.map_cons, List.sum_cons, ← ih, ← length_playerEntry]
        cases playerEntry p with
        | none => simp
        | some entry => simp
  have hremoved : ∀ l : List RemovedPlayer,
      ((l.map removedPlayerEntry).flatten).length = (l.map removedEntrySize).sum := by
    intro l
    induction l with
    | nil => rfl
    | cons r rest ih =>
        rw [List.map_cons, List.flatten_cons, List.length_append, ih, length_removedPlayerEntry,
          List.map_cons, List.sum_cons]
  simp only [playersList, playersListSize, List.length_append, List.length_cons, List.length_nil,
    List.flatten_append, hpresent, hremoved]
  omega

theorem fits_playersList {g : Game} : Fits (playersList g) ↔ playersListSize g < i16Max := by
  unfold Fits
  rw [length_playersList]
  exact Iff.rfl

/-- Where a player stands, and whether it plays, takes no room. -/
theorem entrySize_congr {p q : Player} (hbind : q.bind = p.bind) (hauth : q.auth = p.auth)
    (hbody : q.body = p.body) : entrySize q = entrySize p := by
  have hbindId : q.bindId = p.bindId := by
    unfold Player.bindId
    rw [hbind]
  unfold entrySize
  rw [hbindId, hauth, hbody]

theorem playersListSize_modify {g g' : Game} {c : ClientID} {f : Player → Player}
    (hplayers : g'.players = g.players.modifyFirst (fun p => p.clientId = c) f)
    (hremoved : g'.removedPlayers = g.removedPlayers)
    (hf : ∀ p, entrySize (f p) = entrySize p) : playersListSize g' = playersListSize g := by
  unfold playersListSize
  rw [hplayers, hremoved, List.map_modifyFirst fun p _ => hf p]

end VangersSrv
