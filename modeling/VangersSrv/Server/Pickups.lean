/-
A race for an item has one winner.

A transfer that is accepted takes its old object out of the store, so the next one that takes it
needs a request between the two that put it back.  None of the competing pick-ups is such a
request: each of them asks for an object that has to be there.
-/
import VangersSrv.Server.Fates
import VangersSrv.Server.Transfer

namespace VangersSrv

/-- The object is stored in the game. -/
def InStore (o : Option Game) (id : I32) : Prop := ∃ g, o = some g ∧ id ∈ g.vanjects

/-- A connection of the game `k` sends the packet, and the server accepts it. -/
def Accepts (k : GameID) (srv : Server) (e : Option Event) (packet : Packet) : Prop :=
  ∃ env c sent g r ok, e = some { env, input := .message c (.updated packet), sent } ∧
    srv.getGameByClientid c = some (k, g) ∧ srv.onUpdate env c packet = some r ∧ r.result = .ok ok

/-- A transfer of the object with the id. -/
def Consumes (packet : Packet) (id : I32) : Prop :=
  packet.action = .itemTransfer ∧ ∃ t, ItemTransfer.parse packet = some (.ok t) ∧ t.oldId = id

/-- An accepted transfer takes the object of the game. -/
def Takes (k : GameID) (id : I32) (srv : Server) (e : Option Event) : Prop :=
  ∃ packet, Accepts k srv e packet ∧ Consumes packet id

/-- An accepted request stores the object that the game did not have. -/
def Stores (k : GameID) (id : I32) (srv : Server) (e : Option Event) (srv' : Server) : Prop :=
  (∃ packet, Accepts k srv e packet ∧ packet.action ∈ [Action.createObject, .itemTransfer]) ∧
    ¬ InStore (srv.games.lookup k) id ∧ InStore (srv'.games.lookup k) id

/-- A round in which whoever creates or transfers anything competes for the object. -/
def Competes (id : I32) (e : Option Event) : Prop :=
  ∀ env c packet sent, e = some { env, input := .message c (.updated packet), sent } →
    packet.action ∈ [Action.createObject, .itemTransfer] → Consumes packet id

/-- The packet brings an object into a game that does not have it. -/
inductive Brings (packet : Packet) (g : Game) : I32 → Prop
  | created {v : Vanject} (haction : packet.action = .createObject)
      (hparse : Vanject.createFromSlice packet.data = some (.ok v))
      (hnew : g.vanjects.lookup v.id = none) : Brings packet g v.id
  | transferred {t : ItemTransfer} (haction : packet.action = .itemTransfer)
      (hparse : ItemTransfer.parse packet = some (.ok t)) (hvalid : t.validate = .ok ()) :
      Brings packet g t.newVanject.id

section

variable {env : Env} {packet : Packet} {c : ClientID} {srv srv' mid : Server} {e : Option Event}
  {k : GameID} {g g' : Game} {id : I32}

/-- Objects come into a game by a create or a transfer of one of its players. -/
theorem GameStep.inStore (h : GameStep env packet c srv k g g') (hin : InStore (some g') id) :
    InStore (some g) id ∨ Brings packet g id ∧ ∃ player b, Acting srv c k g player b := by
  obtain ⟨_, hg, hin⟩ := hin
  cases hg
  cases h with
  | left haction hacting hworld =>
      left
      obtain ⟨v, hv⟩ := AList.mem_iff_lookup.mp hin
      exact ⟨g, rfl, AList.mem_iff_lookup.mpr ⟨v, (AList.lookup_retain_eq_some.mp hv).1⟩⟩
  | created haction hacting hparse hnew =>
      rcases (AList.mem_insert _).mp hin with rfl | hin
      · exact Or.inr ⟨.created haction hparse hnew, _, _, hacting⟩
      · exact Or.inl ⟨g, rfl, hin⟩
  | updated _ _ _ _ _ _ => exact Or.inl ⟨g, rfl, AList.mem_replace.mp hin⟩
  | deleted _ _ _ _ _ => exact Or.inl ⟨g, rfl, (AList.mem_erase.mp hin).2⟩
  | transferred haction hacting _ hparse hvalid _ =>
      rcases (AList.mem_insert _).mp hin with rfl | hin
      · exact Or.inr ⟨.transferred haction hparse hvalid, _, _, hacting⟩
      · exact Or.inl ⟨g, rfl, (AList.mem_erase.mp hin).2⟩
  | _ => exact Or.inl ⟨g, rfl, hin⟩

theorem Brings.action (h : Brings packet g id) :
    packet.action ∈ [Action.createObject, .itemTransfer] := by
  cases h with
  | created haction _ _ => simp [haction]
  | transferred haction _ _ => simp [haction]

theorem Takes.of_onUpdate {r : Reply} {ok : OnUpdateOk} (hgame : srv.getGameByClientid c = some (k, g))
    (h : srv.onUpdate env c packet = some r) (hres : r.result = .ok ok)
    (hconsumes : Consumes packet id) :
    Takes k id srv (some { env, input := .message c (.updated packet), sent := r.sent }) :=
  ⟨packet, ⟨env, c, r.sent, g, r, ok, rfl, hgame, h, hres⟩, hconsumes⟩

/-- What an accepted transfer takes was there and is not any more. -/
theorem Step.takes (h : Step srv e srv') (hok : RegistryOk srv) (htakes : Takes k id srv e) :
    InStore (srv.games.lookup k) id ∧ ¬ InStore (srv'.games.lookup k) id := by
  obtain ⟨packet, ⟨env, c, sent, g, r, ok, rfl, hgame, hupdate, hres⟩, haction, t, hparse, rfl⟩ := htakes
  obtain ⟨reply, hhandle, hresult, hsrv, -⟩ := onUpdate_result hupdate
  have htransfer : srv.itemTransfer packet c = some reply := by
    simpa [Server.handle, haction] using hhandle
  have hkeyed : ∀ k g id v, srv.games.lookup k = some g → g.vanjects.lookup id = some v →
      v.id = id := fun k g id v hk hv => ((hok.game k g hk).keyed id v hv).1
  obtain ⟨key, game, game', player, b, w, t', old, new, answer, ht⟩ :=
    (itemTransfer_atomic hkeyed htransfer).2 ok (hresult ▸ hres)
  obtain rfl : t' = t := by
    have heq := ht.request.symm.trans hparse
    simpa using heq
  have hkeys := ht.acting.inGame.symm.trans hgame
  simp only [Option.some.injEq, Prod.mk.injEq] at hkeys
  obtain ⟨rfl, rfl⟩ := hkeys
  have hlookup := Server.getGameByClientid_lookup hgame
  have hlast : srv' = reply.srv := by
    obtain ⟨r', hr', rfl, -⟩ := h.onUpdate
    obtain rfl := Option.some.inj (hr'.symm.trans hupdate)
    exact hsrv
  constructor
  · exact ⟨game, hlookup, AList.mem_iff_lookup.mpr ⟨old, ht.oldStored⟩⟩
  · rw [hlast, ht.written, Server.lookup_setGame_self hlookup]
    rintro ⟨_, hg, hin⟩
    cases hg
    obtain ⟨v, hv⟩ := AList.mem_iff_lookup.mp hin
    have hne : t'.oldId ≠ new.id := by
      intro heq
      have hstored := ht.oldStored
      rw [heq, ht.isNew, ht.newMissing] at hstored
      cases hstored
    rw [ht.swapped, if_neg hne, if_pos rfl] at hv
    cases hv

theorem Brings.congr (h : Brings packet g id) (hvan : g'.vanjects = g.vanjects) :
    Brings packet g' id := by
  cases h with
  | created haction hparse hnew => exact .created haction hparse (by rw [hvan]; exact hnew)
  | transferred haction hparse hvalid => exact .transferred haction hparse hvalid

/-- An object comes into a game by an accepted request that brings it. -/
theorem Step.brings (h : Step srv e srv') (hok : RegistryOk srv)
    (hnot : ¬ InStore (srv.games.lookup k) id) (hin : InStore (srv'.games.lookup k) id) :
    ∃ packet g, Accepts k srv e packet ∧ srv.games.lookup k = some g ∧ Brings packet g id := by
  by_contra hnone
  refine h.keeps hok (P := fun o => ¬ InStore o id) ?_ ?_ ?_ hnot hin
  · intro env packet c mid o harises hmid hfate hbefore hafter
    generalize hlookup : mid.games.lookup k = before at hfate hbefore
    cases hfate with
    | missing => exact hbefore hafter
    | opened _ _ =>
        obtain ⟨_, hg, hin⟩ := hafter
        cases hg
        simp [Game.joined, Game.new] at hin
    | ended _ _ _ =>
        obtain ⟨_, hg, -⟩ := hafter
        cases hg
    | kept hstep =>
        rcases hstep.inStore hafter with hin | ⟨hbrings, player, b, hacting⟩
        · exact hbefore hin
        have haction := hbrings.action
        have hclose : packet.action ≠ .closeSocket := by
          intro hclose
          simp [hclose] at haction
        obtain ⟨⟨sent, rfl⟩, g₀, p₀, hacting₀, -, hvan⟩ := harises.acting_back hok hclose hacting
        obtain ⟨r, hr, rfl, -⟩ := h.onUpdate
        obtain ⟨_, _, -, -, -, hfailed⟩ := onUpdate_handled hr
        cases hres : r.result with
        | ok ok =>
            have hsame := hvan.resolve_right fun hleave => by
              simp only [List.mem_cons, List.not_mem_nil, or_false] at haction
              rcases haction with ha | ha <;> simp [ha] at hleave
            exact hnone ⟨packet, g₀, ⟨env, c, sent, g₀, r, ok, rfl, hacting₀.inGame, hr, hres⟩,
              Server.getGameByClientid_lookup hacting₀.inGame, hbrings.congr hsame.symm⟩
        | error err =>
            -- a rejected request stores nothing
            have hobject : packet.action ∈ objectActions := by
              simp only [List.mem_cons, List.not_mem_nil, or_false] at haction
              rcases haction with ha | ha <;> simp [ha, objectActions]
            rw [hfailed err hres hobject] at hin
            exact hnot hin
  · rintro g c deadline hbefore ⟨_, hg, hin⟩
    cases hg
    exact hbefore ⟨g, rfl, hin⟩
  · rintro g vanjects hperm hbefore ⟨_, hg, hin⟩
    cases hg
    refine hbefore ⟨g, rfl, ?_⟩
    obtain ⟨v, hv⟩ := AList.mem_iff_lookup.mp hin
    exact AList.mem_iff_lookup.mpr ⟨v, by rw [← AList.perm_lookup hperm]; exact hv⟩

theorem Step.stores (h : Step srv e srv') (hok : RegistryOk srv)
    (hnot : ¬ InStore (srv.games.lookup k) id) (hin : InStore (srv'.games.lookup k) id) :
    Stores k id srv e srv' := by
  obtain ⟨packet, g, haccepts, -, hbrings⟩ := h.brings hok hnot hin
  exact ⟨⟨packet, haccepts, hbrings.action⟩, hnot, hin⟩

/-- What stores an object does not compete for it. -/
theorem Stores.not_competes (h : Stores k id srv e srv') (hstep : Step srv e srv')
    (hok : RegistryOk srv) : ¬ Competes id e := by
  obtain ⟨⟨packet, haccepts, haction⟩, hnot, -⟩ := h
  have haccepts' := haccepts
  obtain ⟨env, c, sent, g, r, ok, he, -, -, -⟩ := haccepts'
  intro hcompetes
  exact hnot (hstep.takes hok ⟨packet, haccepts, hcompetes env c packet sent he haction⟩).1

/-- **A race for an item has one winner.**  Between two accepted transfers that take the same
object of a game an accepted request stores it again, and so not everybody competed for it. -/
theorem itemTransfer_single_winner {first before last after : Server} {e₁ e₂ : Option Event}
    {tr : List (Option Event)} (hreach : ServerReachable first) (hstep : Step first e₁ before)
    (htakes : Takes k id first e₁) (hrun : Transition.Run Step before tr last)
    (hagain : Step last e₂ after) (htakesAgain : Takes k id last e₂) :
    (∃ tr₁ e tr₂ srv srv', tr = tr₁ ++ e :: tr₂ ∧ Transition.Run Step before tr₁ srv ∧
      Step srv e srv' ∧ Transition.Run Step srv' tr₂ last ∧ Stores k id srv e srv') ∧
      ¬ ∀ e ∈ tr, Competes id e := by
  have hok : RegistryOk before := hstep.registryOk hreach.registryOk
  have hkept : ∀ {tr srv}, Transition.Run Step before tr srv → RegistryOk srv := fun hrun =>
    hrun.invariant hok fun _ _ _ hstep hok => hstep.registryOk hok
  have hgone := (hstep.takes hreach.registryOk htakes).2
  have hback := (hagain.takes (hkept hrun) htakesAgain).1
  obtain ⟨tr₁, e, tr₂, srv, srv', htr, hrun₁, hturn, hrun₂, hout, hin⟩ :=
    hrun.exists_turn (P := fun s => InStore (s.games.lookup k) id) hgone hback
  have hstores : Stores k id srv e srv' := hturn.stores (hkept hrun₁) hout hin
  refine ⟨⟨tr₁, e, tr₂, srv, srv', htr, hrun₁, hturn, hrun₂, hstores⟩, fun hall => ?_⟩
  exact hstores.not_competes hturn (hkept hrun₁) (hall e (by simp [htr]))

end

/-- The transfer of a STUFF made by the first player to an inventory. -/
def pickup : Bytes :=
  [1, 5, 0, 11, 4, 0, 0, 0, 0, 1] ++ [5, 0, 1, 4, 0, 0, 0, 0, 0, 0, 0, 0, 0, 0] ++ [0, 5, 0, 11, 4]

/-- And the transfer back. -/
def drop : Bytes :=
  [2, 5, 0, 1, 4, 0, 0, 0, 0, 1] ++ [5, 0, 11, 4, 0, 0, 0, 0, 0, 0, 0, 0, 0, 0] ++ [0, 5, 0, 1, 4]

/-- Two players of a world, in which one of them made a STUFF. -/
def stuffBetween : List (Env × Input) :=
  [(Env.atTime 0, ask 7 .attachToGame [0, 0, 0, 0]),
    (Env.atTime 0, ask 7 .setWorld [0, 0, 8]),
    (Env.atTime 0, ask 8 .attachToGame [1, 0, 0, 0]),
    (Env.atTime 0, ask 8 .setWorld [0, 0, 8]),
    (Env.atTime 0, ask 7 .createObject [5, 0, 11, 4, 0, 0, 0, 0, 0, 0, 0, 0, 0, 0])]

/-- The STUFF is picked up, dropped and picked up by the other player. -/
theorem itemTransfer_single_winner_dropped : ∃ first before last e₁ e₂ tr, ServerReachable first ∧
    Step first e₁ before ∧ Takes 1 67829765#32 first e₁ ∧ Transition.Run Step before tr last ∧
    Takes 1 67829765#32 last e₂ ∧ ¬ ∀ e ∈ tr, Competes 67829765#32 e := by
  have hplay : ((play (Server.new 0) stuffBetween).map Prod.fst).bind (fun srv => do
      let g₁ ← srv.getGameByClientid 8
      let r₁ ← srv.onUpdate (Env.atTime 0) 8 (request .itemTransfer pickup)
      let r₂ ← r₁.srv.onUpdate (Env.atTime 0) 8 (request .itemTransfer drop)
      let g₃ ← r₂.srv.getGameByClientid 7
      let r₃ ← r₂.srv.onUpdate (Env.atTime 0) 7 (request .itemTransfer pickup)
      some (g₁.1, r₁.result.toOption, g₃.1, r₃.result.toOption))
      = some (1, some .complete, 1, some .complete) := by
    decide +kernel
  obtain ⟨first, tr, hrun, hfacts⟩ := play_bind hplay
  simp only [Option.bind_eq_bind, Option.bind_eq_some_iff, Option.some.injEq, Prod.mk.injEq,
    Prod.exists] at hfacts
  obtain ⟨_, g₁, hgame₁, r₁, hr₁, r₂, hr₂, _, g₃, hgame₃, r₃, hr₃, rfl, hres₁, rfl, hres₃⟩ := hfacts
  have hpickup : Consumes (request .itemTransfer pickup) 67829765#32 := by
    refine ⟨rfl, ?_⟩
    have hparse : ((ItemTransfer.parse (request .itemTransfer pickup)).bind Except.toOption).map
        ItemTransfer.oldId = some 67829765#32 := by
      decide
    obtain ⟨t, ht, hid⟩ := Option.map_eq_some_iff.mp hparse
    obtain ⟨x, hx, hxt⟩ := Option.bind_eq_some_iff.mp ht
    exact ⟨t, by rw [hx, ok_of_toOption hxt], hid⟩
  have htakes₁ := Takes.of_onUpdate hgame₁ hr₁ (ok_of_toOption hres₁) hpickup
  have htakes₃ := Takes.of_onUpdate hgame₃ hr₃ (ok_of_toOption hres₃) hpickup
  have hreach : ServerReachable first := ⟨0, tr, hrun⟩
  have hdrop := Transition.Run.nil.snoc (Step.updated hr₂)
  exact ⟨first, r₁.srv, r₂.srv, _, _, _, hreach, .updated hr₁, htakes₁, hdrop, htakes₃,
    (itemTransfer_single_winner hreach (.updated hr₁) htakes₁ hdrop (.updated hr₃) htakes₃).2⟩

end VangersSrv
