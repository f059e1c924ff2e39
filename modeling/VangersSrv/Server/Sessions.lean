/-
Whose objects a player may change.

An object belongs to a number, and the number of a player that has left is given to the next one.
So what only the owner of an object may do is done by the session that wrote the object last, or
by a later one under the same number, when the writer was taken out of the game and its object
was not.
-/
import VangersSrv.Server.Bodies
import VangersSrv.Server.Cleanup

namespace VangersSrv

/-! ### Writes -/

/-- The packet makes an object that is not stored, updates it, or makes it out of another. -/
inductive Packet.WritesObject (packet : Packet) (g : Game) (id : I32) : Prop
  | created {v : Vanject} (haction : packet.action = .createObject)
      (hparse : Vanject.createFromSlice packet.data = some (.ok v)) (hid : v.id = id)
      (hnew : g.vanjects.lookup id = none) : packet.WritesObject g id
  | updated (haction : packet.action = .updateObject)
      (hid : sliceLeToI32 (packet.data.take 4) = some id) : packet.WritesObject g id
  | transferred {t : ItemTransfer} (haction : packet.action = .itemTransfer)
      (hparse : ItemTransfer.parse packet = some (.ok t)) (hid : t.newVanject.id = id) :
      packet.WritesObject g id

/-- In the round the server accepts a write of the object by the player with the number. -/
def Wrote (k : GameID) (b : UInt8) (id : I32) (srv : Server) (e : Option Event) : Prop :=
  ∃ env packet c sent g p r ok, e = some { env, input := .message c (.updated packet), sent } ∧
    Acting srv c k g p b ∧ packet.WritesObject g id ∧ srv.onUpdate env c packet = some r ∧
    r.result = .ok ok

/-- What the server lets only the owner of the object `v` do. -/
inductive Packet.OwnersRequest (packet : Packet) (id : I32) (v : Vanject) : Prop
  | delete (haction : packet.action = .deleteObject)
      (hid : sliceLeToI32 (packet.data.take 4) = some id) : packet.OwnersRequest id v
  | update (haction : packet.action = .updateObject)
      (hid : sliceLeToI32 (packet.data.take 4) = some id) (hlocal : v.isNonGlobal = true)
      (hdynamic : v.isNonStatic = true) : packet.OwnersRequest id v
  | drop {t : ItemTransfer} (haction : packet.action = .itemTransfer)
      (hparse : ItemTransfer.parse packet = some (.ok t)) (hkind : t.kind = itemTransferDrop)
      (hid : t.oldId = id) : packet.OwnersRequest id v

/-- A round in which nobody writes the object. -/
def Unwritten (k : GameID) (id : I32) (srv : Server) (e : Option Event) (srv' : Server) : Prop :=
  Step srv e srv' ∧ ¬ ∃ b, Wrote k b id srv e

/-! ### Sessions -/

/-- Where a socket is closed in a round: at the request of its connection, or by the cleanup timer
when it has closed those before it in line. -/
inductive ClosesIn (srv : Server) (e : Option Event) (env : Env) : ClientID → Server → Prop
  | requested {packet : Packet} {c : ClientID} {sent : List Sent}
      (he : e = some { env, input := .message c (.updated packet), sent })
      (haction : packet.action = .closeSocket) : ClosesIn srv e env c srv
  | expired {before after : List ClientID} {c : ClientID} {mid : Server} {sent sent' : List Sent}
      (he : e = some { env, input := .tick, sent })
      (hline : srv.expiredClientIds env = before ++ c :: after)
      (hbefore : srv.closeAll env before = some (mid, sent')) : ClosesIn srv e env c mid

/-- The player with the number is taken out of the game with the connection `c`. -/
structure TakenOut (k : GameID) (b : UInt8) (srv : Server) (e : Option Event) (env : Env)
    (c : ClientID) (mid : Server) (r : Reply) : Prop where
  closes : ClosesIn srv e env c mid
  closed : mid.closeSocket env c = some r
  before : Seated (mid.games.lookup k) b
  after : ¬ Seated (r.srv.games.lookup k) b

/-- The round ends the session of the player with the number. -/
def EndsSession (k : GameID) (b : UInt8) (srv : Server) (e : Option Event) : Prop :=
  ∃ env c mid r, TakenOut k b srv e env c mid r

/-- A round after which the player with the number is the same as before. -/
def SessionStep (k : GameID) (b : UInt8) (srv : Server) (e : Option Event) (srv' : Server) : Prop :=
  Step srv e srv' ∧ ¬ EndsSession k b srv e ∧ Seated (srv'.games.lookup k) b

/-- The round takes out the player with the number and leaves its object `v`, which is none of
those that leaving a world deletes when the player was in one. -/
def LeavesBehind (k : GameID) (b : UInt8) (id : I32) (v : Vanject) (srv : Server)
    (e : Option Event) : Prop :=
  ∃ env c mid r, TakenOut k b srv e env c mid r ∧ Kept r.srv k id v ∧
    ∀ g p, Acting mid c k g p b → p.world ≠ none → shouldDeleteOnLeaveWorld v b = false

/-- The last write of the object on the way to `srv` led to `last`, and what came after it. -/
structure LastWrite (start : Instant) (k : GameID) (b : UInt8) (id : I32) (tr : List (Option Event))
    (last : Server) (since : List (Option Event)) (srv : Server) : Prop where
  wrote : ∃ earlier e before, tr = earlier ++ e :: since ∧ ServerRun start earlier before ∧
    Step before e last ∧ Wrote k b id before e
  unwritten : Transition.Run (Unwritten k id) last since srv

section

variable {env : Env} {packet : Packet} {c : ClientID} {srv srv' mid : Server} {e : Option Event}
  {k key : GameID} {g game : Game} {player p : Player} {b : UInt8} {id : I32} {v : Vanject}
  {r : Reply} {ok : OnUpdateOk} {sent : List Sent}

theorem Packet.WritesObject.action (h : packet.WritesObject g id) :
    packet.action ∈ [Action.createObject, .updateObject, .itemTransfer] := by
  cases h with
  | created haction _ _ _ => simp [haction]
  | updated haction _ => simp [haction]
  | transferred haction _ _ => simp [haction]

/-! ### Accepted requests -/

/-- An accepted update of the object finds it, passes the checks and stores it as the sender's. -/
theorem updateObject_accepted (haction : packet.action = .updateObject)
    (hid : sliceLeToI32 (packet.data.take 4) = some id) (hacting : Acting srv c k g p b)
    (hupdate : srv.onUpdate env c packet = some r) (hres : r.result = .ok ok) :
    ∃ old new : Vanject, g.vanjects.lookup id = some old ∧ updateRejection old id c b p.worldId = none ∧
      r.srv = srv.setGame k
        { g with vanjects := g.vanjects.replace id { new with playerBindId := b } } := by
  obtain ⟨reply, hhandle, hresult, hsrv, -⟩ := onUpdate_result hupdate
  rw [hresult] at hres
  have hreply : srv.updateObject packet c = some reply := by
    simpa [Server.handle, haction] using hhandle
  rcases updateObject_cases hreply with ⟨err, hfail⟩ | ⟨key, game, player, bind, id', old, new,
    answer, hacting', hid', hlookup, hpassed, -, -, hcomplete⟩
  · exact absurd hres (Server.fail_ne_ok hfail)
  · obtain ⟨rfl, rfl, rfl, rfl⟩ := hacting.unique hacting'
    obtain rfl := Option.some.inj (hid'.symm.trans hid)
    exact ⟨old, new, hlookup, hpassed,
      hsrv.trans (congrArg Reply.srv (Server.complete_eq_some hcomplete))⟩

/-- An accepted transfer passes the checks and stores the new object as the sender's. -/
theorem itemTransfer_accepted {t : ItemTransfer} (haction : packet.action = .itemTransfer)
    (hparse : ItemTransfer.parse packet = some (.ok t)) (hacting : Acting srv c k g p b)
    (hupdate : srv.onUpdate env c packet = some r) (hres : r.result = .ok ok) :
    ∃ world old, t.check g.vanjects b world = .ok old ∧
      r.srv = srv.setGame k
        { g with
          vanjects := (g.vanjects.erase t.oldId).insert t.newVanject.id
            { t.newVanject with playerBindId := b } } := by
  obtain ⟨reply, hhandle, hresult, hsrv, -⟩ := onUpdate_result hupdate
  rw [hresult] at hres
  have hreply : srv.itemTransfer packet c = some reply := by
    simpa [Server.handle, haction] using hhandle
  rcases itemTransfer_cases hreply with ⟨err, hfail⟩ | ⟨key, game, player, bind, world, t', old,
    answer, hacting', -, hparse', -, hpassed, -, hcomplete⟩
  · exact absurd hres (Server.fail_ne_ok hfail)
  · obtain ⟨rfl, rfl, rfl, rfl⟩ := hacting.unique hacting'
    obtain rfl : t' = t := by simpa using hparse'.symm.trans hparse
    exact ⟨world, old, hpassed, hsrv.trans (congrArg Reply.srv (Server.complete_eq_some hcomplete))⟩

/-- An accepted create of an object that is not stored stores it as the sender's. -/
theorem createObject_accepted (haction : packet.action = .createObject)
    (hparse : Vanject.createFromSlice packet.data = some (.ok v))
    (hnew : g.vanjects.lookup v.id = none) (hacting : Acting srv c k g p b)
    (hupdate : srv.onUpdate env c packet = some r) (hres : r.result = .ok ok) :
    ∃ game', r.srv = srv.setGame k game' ∧
      game'.vanjects = g.vanjects.insert v.id { v with playerBindId := b } := by
  obtain ⟨reply, hhandle, hresult, hsrv, -⟩ := onUpdate_result hupdate
  rw [hresult] at hres
  have hreply : srv.createObject packet c = some reply := by
    simpa [Server.handle, haction] using hhandle
  rcases createObject_cases hreply with ⟨err, hfail⟩ |
    ⟨key, game, w, existing, packets, hgame, hparse', hstored, -⟩ |
    ⟨key, game, player, bind, w, hacting', hparse', -, -, haccepted⟩
  · exact absurd hres (Server.fail_ne_ok hfail)
  · -- a duplicate is answered, not written
    obtain ⟨rfl, rfl⟩ := Prod.mk.inj (Option.some.inj (hacting.inGame.symm.trans hgame))
    obtain rfl : w = v := by simpa using hparse'.symm.trans hparse
    cases hnew.symm.trans hstored
  · obtain ⟨rfl, rfl, rfl, rfl⟩ := hacting.unique hacting'
    obtain rfl : w = v := by simpa using hparse'.symm.trans hparse
    rw [hsrv]
    exact createAccepted_stores hacting.inGame hacting.found haccepted

/-- A delete of a stored object is accepted only from its owner. -/
theorem deleteObject_accepted (haction : packet.action = .deleteObject)
    (hid : sliceLeToI32 (packet.data.take 4) = some id) (hacting : Acting srv c k g p b)
    (hv : g.vanjects.lookup id = some v) (hupdate : srv.onUpdate env c packet = some r)
    (hres : r.result = .ok ok) : v.playerBindId = b := by
  obtain ⟨reply, hhandle, hresult, -⟩ := onUpdate_result hupdate
  rw [hresult] at hres
  have hreply : srv.deleteObject packet c = some reply := by
    simpa [Server.handle, haction] using hhandle
  rcases deleteObject_cases hreply with ⟨err, hfail⟩ |
    ⟨key, game, player, bind, id', answer, hacting', hid', ⟨hmissing, -⟩ | ⟨w, hw, howner, -⟩, -⟩
  · exact absurd hres (Server.fail_ne_ok hfail)
  · obtain ⟨rfl, rfl, rfl, rfl⟩ := hacting.unique hacting'
    obtain rfl := Option.some.inj (hid'.symm.trans hid)
    cases hmissing.symm.trans hv
  · obtain ⟨rfl, rfl, rfl, rfl⟩ := hacting.unique hacting'
    obtain rfl := Option.some.inj (hid'.symm.trans hid)
    obtain rfl := Option.some.inj (hw.symm.trans hv)
    exact howner

/-- An accepted write is found, under the number of its sender. -/
theorem Wrote.owner (hstep : Step srv e srv') (h : Wrote k b id srv e) (hv : Kept srv' k id v) :
    v.playerBindId = b := by
  obtain ⟨env, packet, c, sent, g, p, r, ok, rfl, hacting, hwrites, hupdate, hres⟩ := h
  obtain ⟨r', hr', rfl, -⟩ := hstep.onUpdate
  obtain rfl := Option.some.inj (hr'.symm.trans hupdate)
  have hfound : ∀ {game'}, r'.srv = srv.setGame k game' → game'.vanjects.lookup id = some v := by
    intro game' hset
    obtain ⟨g', hg', hv'⟩ := hv
    rw [hset, Server.lookup_setGame_self (Server.getGameByClientid_lookup hacting.inGame)] at hg'
    cases hg'
    exact hv'
  cases hwrites with
  | created haction hparse hid hnew =>
      subst hid
      obtain ⟨game', hset, hvan⟩ := createObject_accepted haction hparse hnew hacting hupdate hres
      have hlookup := hfound hset
      rw [hvan, AList.lookup_insert] at hlookup
      rw [← Option.some.inj hlookup]
  | updated haction hid =>
      obtain ⟨old, new, hold, -, hset⟩ := updateObject_accepted haction hid hacting hupdate hres
      have hlookup := hfound hset
      rw [AList.lookup_replace_self _ hold] at hlookup
      rw [← Option.some.inj hlookup]
  | transferred haction hparse hid =>
      subst hid
      obtain ⟨_, _, -, hset⟩ := itemTransfer_accepted haction hparse hacting hupdate hres
      have hlookup := hfound hset
      rw [AList.lookup_insert] at hlookup
      rw [← Option.some.inj hlookup]

/-- What only the owner may do, the owner did. -/
theorem Packet.OwnersRequest.owner (h : packet.OwnersRequest id v) (hacting : Acting srv c k g p b)
    (hv : g.vanjects.lookup id = some v) (hupdate : srv.onUpdate env c packet = some r)
    (hres : r.result = .ok ok) : v.playerBindId = b := by
  cases h with
  | delete haction hid => exact deleteObject_accepted haction hid hacting hv hupdate hres
  | update haction hid hlocal hdynamic =>
      obtain ⟨old, new, hold, hpassed, -⟩ := updateObject_accepted haction hid hacting hupdate hres
      obtain rfl := Option.some.inj (hold.symm.trans hv)
      exact updateRejection_owner hlocal hdynamic hpassed
  | drop haction hparse hkind hid =>
      subst hid
      obtain ⟨world, old, hpassed, -⟩ := itemTransfer_accepted haction hparse hacting hupdate hres
      obtain ⟨-, hold, -, -, hdropped⟩ := ItemTransfer.check_ok hpassed
      obtain rfl := Option.some.inj (hold.symm.trans hv)
      exact hdropped hkind

/-! ### What nobody writes -/

/-- An object that a step of its game brings about, and that was not stored so before, is written. -/
theorem GameStep.writes {g' : Game} (h : GameStep env packet c srv k g g')
    (hv : g'.vanjects.lookup id = some v) :
    g.vanjects.lookup id = some v ∨
      packet.action ∈ objectActions ∧ packet.WritesObject g id ∧ ∃ p b, Acting srv c k g p b := by
  cases h with
  | left _ _ _ => exact Or.inl (AList.lookup_retain_eq_some.mp hv).1
  | @created _ _ w haction hacting hparse hnew =>
      by_cases hid : id = w.id
      · exact Or.inr ⟨by simp [haction, objectActions], .created haction hparse hid.symm (hid ▸ hnew),
          _, _, hacting⟩
      · exact Or.inl (by rwa [AList.lookup_insert', if_neg hid] at hv)
  | @updated _ _ id' _ _ haction hacting hid _ _ _ =>
      by_cases heq : id = id'
      · exact Or.inr ⟨by simp [haction, objectActions], .updated haction (heq ▸ hid), _, _, hacting⟩
      · exact Or.inl (by rwa [AList.lookup_replace_of_ne _ heq] at hv)
  | deleted _ _ _ _ _ => exact Or.inl (AList.lookup_erase_eq_some hv)
  | @transferred _ _ _ t _ haction hacting _ hparse _ _ =>
      by_cases hid : id = t.newVanject.id
      · exact Or.inr ⟨by simp [haction, objectActions], .transferred haction hparse hid.symm, _, _,
          hacting⟩
      · rw [AList.lookup_insert', if_neg hid] at hv
        exact Or.inl (AList.lookup_erase_eq_some hv)
  | _ => exact Or.inl hv

/-- The writes of a packet are the same in two games with the same objects. -/
theorem Packet.WritesObject.congr {g' : Game} (h : packet.WritesObject g id)
    (hvan : g.vanjects = g'.vanjects) : packet.WritesObject g' id := by
  cases h with
  | created haction hparse hid hnew => exact .created haction hparse hid (hvan ▸ hnew)
  | updated haction hid => exact .updated haction hid
  | transferred haction hparse hid => exact .transferred haction hparse hid

/-- What nobody writes was stored before as it is now. -/
theorem Unwritten.kept (h : Unwritten k id srv e srv') (hok : RegistryOk srv)
    (hv : Kept srv' k id v) : Kept srv k id v := by
  obtain ⟨hstep, hnobody⟩ := h
  obtain ⟨g', hk', hv'⟩ := hv
  refine hstep.keeps hok (P := fun o => ∀ g, o = some g → g.vanjects.lookup id = some v →
    Kept srv k id v) ?_ ?_ ?_ (fun g hk hv => ⟨g, hk, hv⟩) g' hk' hv'
  · intro env packet c mid o harises hmid hfate hbefore
    generalize mid.games.lookup k = before at hfate hbefore
    rintro g hg hv
    cases hfate with
    | missing => cases hg
    | opened _ _ =>
        cases hg
        simp [Game.joined, Game.new] at hv
    | ended _ _ _ => cases hg
    | kept hgs =>
        cases hg
        rcases hgs.writes hv with hv | ⟨haction, hwrites, p, b, hacting⟩
        · exact hbefore _ rfl hv
        have hclose : packet.action ≠ .closeSocket := by
          intro hclose
          simp [hclose, objectActions] at haction
        obtain ⟨⟨sent, rfl⟩, g₀, p₀, hacting₀, -, hsame⟩ := harises.acting_back hok hclose hacting
        obtain ⟨r, hr, rfl, -⟩ := hstep.onUpdate
        obtain ⟨_, _, -, -, -, hfailed⟩ := onUpdate_handled hr
        cases hres : r.result with
        | error err =>
            -- a rejected request writes nothing
            rw [hfailed err hres haction] at hk'
            exact ⟨g', hk', hv'⟩
        | ok ok =>
            rcases hsame with hvan | hleaves
            · exact absurd ⟨b, env, packet, c, sent, g₀, p₀, r, ok, rfl, hacting₀,
                hwrites.congr hvan, hr, hres⟩ hnobody
            · have := hwrites.action
              simp only [List.mem_cons, List.not_mem_nil, or_false] at hleaves this
              rcases hleaves with ha | ha | ha <;> simp [ha] at this
  · intro g c deadline hbefore _ hg hv
    cases hg
    exact hbefore g rfl hv
  · intro g vanjects hperm hbefore _ hg hv
    cases hg
    refine hbefore g rfl ?_
    rw [← AList.perm_lookup hperm]
    exact hv

/-! ### Closing sockets -/

theorem ClosesIn.closes (h : ClosesIn srv e env c mid) : Closes srv env c mid := by
  cases h with
  | requested _ _ => exact .requested
  | expired _ hline hbefore => exact .expired hline hbefore

/-- Sockets are closed one after the other. -/
theorem closeAll_append {before after : List ClientID} : srv.closeAll env (before ++ after)
    = (srv.closeAll env before).bind fun out =>
        (out.1.closeAll env after).map fun out' => (out'.1, out.2 ++ out'.2) := by
  induction before generalizing srv with
  | nil => simp [Server.closeAll]
  | cons c rest ih =>
      simp only [List.cons_append, Server.closeAll, Option.bind_eq_bind]
      cases srv.closeSocket env c with
      | none => rfl
      | some closed =>
          simp only [Option.bind_some, ih]
          cases closed.srv.closeAll env rest with
          | none => rfl
          | some out =>
              simp only [Option.bind_some]
              cases out.1.closeAll env after with
              | none => rfl
              | some out' => simp

/-- Closing sockets stores nothing. -/
theorem closeAll_kept {ids : List ClientID} (h : srv.closeAll env ids = some (srv', sent))
    (hok : RegistryOk srv) (hv : Kept srv' k id v) : Kept srv k id v := by
  by_contra hnot
  have hboth : RegistryOk srv' ∧ ¬ Kept srv' k id v := by
    refine closeAll_preserves (P := fun s => RegistryOk s ∧ ¬ Kept s k id v) h ?_ ⟨hok, hnot⟩
    rintro c mid mid' sent hhandled ⟨hmid, hnone⟩
    refine ⟨hmid.handled hhandled, ?_⟩
    have hfate : ∀ {sent a b}, RegistryOk a → Effect env closePacket c a sent b → ¬ Kept a k id v →
        ¬ Kept b k id v := by
      rintro sent a b ha heffect hnone ⟨g', hk', hv'⟩
      have hfate := heffect.fate ha k
      rw [hk'] at hfate
      generalize hlookup : a.games.lookup k = before at hfate
      cases hfate with
      | opened haction _ => cases haction
      | kept hgs =>
          rcases hgs.writes hv' with hv | ⟨haction, -⟩
          · exact hnone ⟨_, hlookup, hv⟩
          · exact absurd haction (by decide)
    cases hhandled with
    | one heffect => exact hfate hmid heffect hnone
    | two _ hprelude heffect =>
        exact hfate (hmid.prelude hprelude) heffect (hfate hmid (.prelude hprelude) hnone)
  exact hboth.2 hv

/-- What follows the closing of a socket in its round stores nothing. -/
theorem ClosesIn.kept (h : ClosesIn srv e env c mid) (hstep : Step srv e srv') (hok : RegistryOk srv)
    (hclosed : mid.closeSocket env c = some r) (hv : Kept srv' k id v) : Kept r.srv k id v := by
  cases h with
  | requested he haction =>
      subst he
      obtain ⟨r', hr', rfl, -⟩ := hstep.onUpdate
      obtain ⟨reply, hhandle, -, hsrv, -⟩ := onUpdate_result hr'
      have hclose : srv.closeSocket env c = some reply := by
        simpa [Server.handle, haction] using hhandle
      obtain rfl := Option.some.inj (hclosed.symm.trans hclose)
      rwa [hsrv] at hv
  | @expired before after c mid sent sent' he hline hbefore =>
      have hmid := Closes.registryOk (.expired hline hbefore) hok
      subst he
      cases hstep.round with
      | tick hall =>
          simp only [hline, closeAll_append, hbefore, Option.bind_some, Option.map_eq_some_iff,
            Server.closeAll, hclosed, Option.bind_eq_bind, Option.bind_eq_some_iff,
            Option.some.injEq, Prod.mk.injEq] at hall
          obtain ⟨_, ⟨⟨last, s⟩, hafter, rfl⟩, rfl, -⟩ := hall
          have hsound : Sound env closePacket c mid r := closeSocket_sound rfl hclosed
          exact closeAll_kept hafter (hmid.handled hsound.handled) hv

/-- What a player in a world leaves behind was not to be deleted. -/
theorem EndsSession.leavesBehind (h : EndsSession k b srv e) (hstep : Step srv e srv')
    (hok : RegistryOk srv) (hv : Kept srv' k id v) : LeavesBehind k b id v srv e := by
  obtain ⟨env, c, mid, r, hout⟩ := h
  have hkept := hout.closes.kept hstep hok hout.closed hv
  refine ⟨env, c, mid, r, hout, hkept, fun g p hacting hworld => ?_⟩
  obtain ⟨g', hk', hv'⟩ := hkept
  have hmid := hout.closes.closes.registryOk hok
  have hid : g.id = k := hmid.keyed k g (Server.getGameByClientid_lookup hacting.inGame)
  obtain ⟨-, ⟨-, hgone⟩ | ⟨-, g₁, hk₁, hvan⟩⟩ := closeSocket_game hacting hid hout.closed
  · cases hgone.symm.trans hk'
  · obtain rfl := Option.some.inj (hk₁.symm.trans hk')
    exact ((hvan id v).mp hv').2 hworld

/-- Among the sockets that are closed there is one that takes the player out, if it is. -/
theorem closeAll_seated {ids : List ClientID} (h : srv.closeAll env ids = some (srv', sent))
    (hseat : Seated (srv.games.lookup k) b) (hgone : ¬ Seated (srv'.games.lookup k) b) :
    ∃ before c after mid s r, ids = before ++ c :: after ∧ srv.closeAll env before = some (mid, s) ∧
      mid.closeSocket env c = some r ∧ Seated (mid.games.lookup k) b ∧
      ¬ Seated (r.srv.games.lookup k) b := by
  induction ids generalizing srv sent with
  | nil =>
      simp only [Server.closeAll, Option.some.injEq, Prod.mk.injEq] at h
      rw [h.1] at hseat
      exact absurd hseat hgone
  | cons c rest ih =>
      simp only [Server.closeAll, Option.bind_eq_bind, Option.bind_eq_some_iff, Option.some.injEq,
        Prod.mk.injEq] at h
      obtain ⟨r, hclosed, ⟨last, s⟩, hrest, rfl, -⟩ := h
      by_cases hnext : Seated (r.srv.games.lookup k) b
      · obtain ⟨before, c', after, mid, s', r', rfl, hbefore, hrest⟩ := ih hrest hnext
        refine ⟨c :: before, c', after, mid, r.sent ++ s', r', rfl, ?_, hrest⟩
        simp [Server.closeAll, hclosed, hbefore]
      · exact ⟨[], c, rest, srv, [], r, rfl, rfl, hclosed, hseat, hnext⟩

/-- **A player stays** in every round that does not end its session. -/
theorem Step.seated (h : Step srv e srv') (hok : RegistryOk srv)
    (hseat : Seated (srv.games.lookup k) b) (hends : ¬ EndsSession k b srv e) :
    Seated (srv'.games.lookup k) b := by
  by_contra hgone
  have hcloses : Seated (srv'.games.lookup k) b ∨
      ∃ env packet c mid, Origin srv e env packet c mid ∧ packet.action = .closeSocket := by
    refine h.keeps hok (P := fun o => Seated o b ∨
      ∃ env packet c mid, Origin srv e env packet c mid ∧ packet.action = .closeSocket)
      ?_ ?_ ?_ (Or.inl hseat)
    · intro env packet c mid o harises _ hfate hbefore
      rcases hbefore with hseat | hcloses
      · by_cases hclose : packet.action = .closeSocket
        · obtain ⟨mid, horigin⟩ := harises.origin
          exact Or.inr ⟨env, packet, c, mid, horigin, hclose⟩
        · exact Or.inl (hfate.seated hclose hseat)
      · exact Or.inr hcloses
    · intro g c deadline hbefore
      exact hbefore.imp_left fun hs => (Embodied.modify (s := fun p => p.clientId = c)
        (f := fun p => { p with disconnectedUntil := deadline }) (fun _ => rfl) fun _ => rfl).1.mpr hs
    · intro g vanjects _ hbefore
      exact hbefore.imp_left fun hs => by simpa [Seated] using hs
  obtain ⟨env, packet, c, mid, horigin, hclose⟩ := hcloses.resolve_left hgone
  cases horigin with
  | message he =>
      subst he
      obtain ⟨r, hr, rfl, -⟩ := h.onUpdate
      obtain ⟨reply, hhandle, -, hsrv, -⟩ := onUpdate_result hr
      refine hends ⟨env, c, srv, reply, .requested rfl hclose, ?_, hseat, hsrv ▸ hgone⟩
      simpa [Server.handle, hclose] using hhandle
  | tick he =>
      subst he
      cases h.round with
      | tick hall =>
          obtain ⟨before, c, after, mid, s, r, hline, hbefore, hclosed, hin, hout⟩ :=
            closeAll_seated hall hseat hgone
          exact hends ⟨env, c, mid, r, .expired rfl hline hbefore, hclosed, hin, hout⟩

/-- A round that writes an object closes no socket. -/
theorem Wrote.not_ends {b' : UInt8} (h : Wrote k b id srv e) : ¬ EndsSession k b' srv e := by
  obtain ⟨env, packet, c, sent, g, p, r, ok, he, -, hwrites, -⟩ := h
  rintro ⟨env', c', mid, r', hout⟩
  cases hout.closes with
  | requested he' haction =>
      cases he.symm.trans he'
      have := hwrites.action
      simp [haction] at this
  | expired he' _ _ => cases he.symm.trans he'

/-- As long as its session is not ended a player stays. -/
theorem SessionStep.of_run {tr : List (Option Event)} (hok : RegistryOk srv)
    (hseat : Seated (srv.games.lookup k) b)
    (h : Transition.Run (fun s e s' => Step s e s' ∧ ¬ EndsSession k b s e) srv tr srv') :
    Transition.Run (SessionStep k b) srv tr srv' := by
  have hguarded := h.guarded (P := fun s => RegistryOk s ∧ Seated (s.games.lookup k) b) ⟨hok, hseat⟩
    fun _ _ _ ⟨hstep, hends⟩ ⟨hok, hseat⟩ => ⟨hstep.registryOk hok, hstep.seated hok hseat hends⟩
  exact hguarded.mono fun _ _ _ ⟨⟨hstep, hends⟩, hok, hseat⟩ =>
    ⟨hstep, hends, hstep.seated hok hseat hends⟩

/-- What is stored was written once, and nobody has written it since. -/
theorem Kept.lastWrite {start : Instant} {tr : List (Option Event)} (hrun : ServerRun start tr srv)
    (hv : Kept srv k id v) : ∃ last since, LastWrite start k v.playerBindId id tr last since srv ∧
      RegistryOk last ∧ Seated (last.games.lookup k) v.playerBindId ∧
      Transition.Run (fun s e s' => Step s e s' ∧ RegistryOk s ∧ Kept s' k id v) last since srv := by
  have hback : ∀ s e s', (Step s e s' ∧ RegistryOk s) ∧ (¬ ∃ b, Wrote k b id s e) → Kept s' k id v →
      Kept s k id v :=
    fun s e s' ⟨⟨hstep, hok⟩, hnobody⟩ hv => Unwritten.kept ⟨hstep, hnobody⟩ hok hv
  have hguarded := hrun.guarded (P := RegistryOk) (registryOk_new start)
    fun _ _ _ hstep hok => hstep.registryOk hok
  rcases hguarded.exists_last (fun s e _ => ∃ b, Wrote k b id s e) with hnone |
    ⟨earlier, e, since, before, last, rfl, hearlier, ⟨hstep, hok⟩, ⟨b, hwrote⟩, hsince⟩
  · -- at the start nothing is stored
    obtain ⟨⟨g, hk, -⟩, -⟩ := hnone.backward hv hback
    simp [Server.new] at hk
  · obtain ⟨hlast, hkept⟩ := hsince.backward hv hback
    obtain rfl := hwrote.owner hstep hlast
    have hwrote' := hwrote
    obtain ⟨env, packet, c, sent, g, p, r, ok, -, hacting, -⟩ := hwrote'
    have hseat : Seated (before.games.lookup k) v.playerBindId :=
      ⟨g, p, Server.getGameByClientid_lookup hacting.inGame, Game.getPlayer_mem hacting.found,
        hacting.bound⟩
    refine ⟨last, since, ⟨⟨earlier, e, before, rfl, hearlier.mono fun _ _ _ h => h.1, hstep, hwrote⟩,
      hsince.mono fun _ _ _ h => ⟨h.1.1, h.2⟩⟩, hstep.registryOk hok,
      hstep.seated hok hseat hwrote.not_ends, hkept.mono fun _ _ _ h => ⟨h.1.1.1, h.1.1.2, h.2⟩⟩

/-- **Whose objects a player may change.**  A request that only the owner of an object may make is
accepted from the session that wrote the object last, or from a later one with the same number
after the writer was taken out of the game and the object was left behind. -/
theorem last_write_session {start : Instant} {tr : List (Option Event)}
    (hrun : ServerRun start tr srv) (hgame : srv.getGameByClientid c = some (k, g))
    (hv : g.vanjects.lookup id = some v) (hrequest : packet.OwnersRequest id v)
    (hupdate : srv.onUpdate env c packet = some r) (hres : r.result = .ok ok) :
    ∃ p b last since, Acting srv c k g p b ∧ LastWrite start k b id tr last since srv ∧
      (Transition.Run (SessionStep k b) last since srv ∨
        ∃ tr₁ e tr₂ mid mid', since = tr₁ ++ e :: tr₂ ∧
          Transition.Run (SessionStep k b) last tr₁ mid ∧ Step mid e mid' ∧
          LeavesBehind k b id v mid e ∧ Transition.Run Step mid' tr₂ srv) := by
  have hreach : ServerReachable srv := ⟨start, tr, hrun⟩
  obtain ⟨p, b, hacting⟩ := hreach.registryOk.exists_acting hgame
  obtain rfl := hrequest.owner hacting hv hupdate hres
  obtain ⟨last, since, hlast, hok, hseat, hsince⟩ :=
    Kept.lastWrite hrun ⟨g, Server.getGameByClientid_lookup hgame, hv⟩
  refine ⟨p, _, last, since, hacting, hlast, ?_⟩
  rcases hsince.exists_first (fun s e _ => EndsSession k v.playerBindId s e) with hnone |
    ⟨tr₁, e, tr₂, mid, mid', rfl, hbefore, ⟨hstep, hmid, hkept⟩, hends, hafter⟩
  · exact Or.inl (SessionStep.of_run hok hseat (hnone.mono fun _ _ _ h => ⟨h.1.1, h.2⟩))
  · exact Or.inr ⟨tr₁, e, tr₂, mid, mid', rfl,
      SessionStep.of_run hok hseat (hbefore.mono fun _ _ _ h => ⟨h.1.1, h.2⟩), hstep,
      hends.leavesBehind hstep hmid hkept, hafter.mono fun _ _ _ h => h.1⟩

/-- Two players of a game, the first of them in a world. -/
def firstInWorld : List (Env × Input) :=
  [(Env.atTime 0, ask 7 .attachToGame [0, 0, 0, 0]),
    (Env.atTime 0, ask 7 .setWorld [0, 0, 8]),
    (Env.atTime 0, ask 8 .attachToGame [1, 0, 0, 0])]

/-- The request that makes a STUFF. -/
def makeStuff : Packet := request .createObject [5, 0, 11, 4, 0, 0, 0, 0, 0, 0, 0, 0, 0, 0]

/-- The request to delete it. -/
def deleteStuff : Packet := request .deleteObject [5, 0, 11, 4, 0, 0, 0, 0]

theorem deleteStuff_ownersRequest : deleteStuff.OwnersRequest 67829765#32 v :=
  .delete rfl (by decide)

/-- To make the STUFF is to write it. -/
theorem makeStuff_wrote (hacting : Acting srv c k g p b) (hnew : g.vanjects.lookup 67829765#32 = none)
    (hupdate : srv.onUpdate env c makeStuff = some r) (hres : r.result = .ok ok) :
    Wrote k b 67829765#32 srv
      (some { env, input := .message c (.updated makeStuff), sent := r.sent }) := by
  have hparse : ((Vanject.createFromSlice makeStuff.data).bind Except.toOption).map Vanject.id
      = some 67829765#32 := by
    decide
  obtain ⟨v, hv, hid⟩ := Option.map_eq_some_iff.mp hparse
  obtain ⟨x, hx, hxv⟩ := Option.bind_eq_some_iff.mp hv
  rw [ok_of_toOption hxv] at hx
  exact ⟨env, makeStuff, c, r.sent, g, p, r, ok, rfl, hacting, .created rfl hx hid hnew, hupdate, hres⟩

/-- A round with a request that is no write writes nothing. -/
theorem Unwritten.of_onUpdate (h : srv.onUpdate env c packet = some r)
    (haction : packet.action ∉ [Action.createObject, .updateObject, .itemTransfer]) :
    Unwritten k id srv (some { env, input := .message c (.updated packet), sent := r.sent }) r.srv := by
  refine ⟨.updated h, ?_⟩
  rintro ⟨b, env', packet', c', sent', g, p, r', ok, he, -, hwrites, -⟩
  cases he
  exact haction hwrites.action

end

/-- The player that made a STUFF deletes it. -/
theorem last_write_session_own : ∃ tr srv g v r p b last since, ServerRun 0 tr srv ∧
    srv.getGameByClientid 7 = some (1, g) ∧ g.vanjects.lookup 67829765#32 = some v ∧
    deleteStuff.OwnersRequest 67829765#32 v ∧
    srv.onUpdate (Env.atTime 0) 7 deleteStuff = some r ∧ r.result = .ok .complete ∧
    Acting srv 7 1 g p b ∧ LastWrite 0 1 b 67829765#32 tr last since srv := by
  have hplay : ((play (Server.new 0) (firstInWorld
        ++ [(Env.atTime 0, .message 7 (.updated makeStuff))])).map Prod.fst).bind (fun srv => do
      let entry ← srv.getGameByClientid 7
      let _ ← entry.2.vanjects.lookup 67829765#32
      let r ← srv.onUpdate (Env.atTime 0) 7 deleteStuff
      some (entry.1, r.result.toOption)) = some (1, some .complete) := by
    decide +kernel
  obtain ⟨srv, tr, hrun, hfacts⟩ := play_bind hplay
  simp only [Option.bind_eq_bind, Option.bind_eq_some_iff, Option.some.injEq, Prod.mk.injEq,
    Prod.exists] at hfacts
  obtain ⟨_, g, hgame, v, hv, r, hr, rfl, hres⟩ := hfacts
  have hresult := ok_of_toOption hres
  obtain ⟨p, b, last, since, hacting, hlast, -⟩ :=
    last_write_session hrun hgame hv deleteStuff_ownersRequest hr hresult
  exact ⟨tr, srv, g, v, r, p, b, last, since, hrun, hgame, hv, deleteStuff_ownersRequest, hr, hresult,
    hacting, hlast⟩

/-- The first player leaves, and its number goes to a stranger, who deletes the STUFF. -/
theorem last_write_session_stranger : ∃ tr srv g v r p b last since, ServerRun 0 tr srv ∧
    srv.getGameByClientid 9 = some (1, g) ∧ g.vanjects.lookup 67829765#32 = some v ∧
    deleteStuff.OwnersRequest 67829765#32 v ∧
    srv.onUpdate (Env.atTime 0) 9 deleteStuff = some r ∧ r.result = .ok .complete ∧
    Acting srv 9 1 g p b ∧ LastWrite 0 1 b 67829765#32 tr last since srv ∧
    ¬ Transition.Run (SessionStep 1 b) last since srv := by
  have hplay : ((play (Server.new 0) firstInWorld).map Prod.fst).bind (fun srv => do
      let entry ← srv.getGameByClientid 7
      let p ← entry.2.getPlayer 7
      let r₁ ← srv.onUpdate (Env.atTime 0) 7 makeStuff
      let r₂ ← r₁.srv.onUpdate (Env.atTime 0) 7 (request .closeSocket [])
      let r₃ ← r₂.srv.onUpdate (Env.atTime 0) 9 (request .attachToGame [1, 0, 0, 0])
      let entry' ← r₃.srv.getGameByClientid 9
      let p' ← entry'.2.getPlayer 9
      let _ ← entry'.2.vanjects.lookup 67829765#32
      let r₄ ← r₃.srv.onUpdate (Env.atTime 0) 9 deleteStuff
      some (decide (entry.1 = 1 ∧ p.bindId = some 1 ∧ entry.2.vanjects.lookup 67829765#32 = none ∧
          r₁.result.toOption = some .complete),
        decide (Seated (r₁.srv.games.lookup 1) 1 ∧ ¬ Seated (r₂.srv.games.lookup 1) 1),
        decide (entry'.1 = 1 ∧ p'.bindId = some 1 ∧ r₄.result.toOption = some .complete)))
      = some (true, true, true) := by
    decide +kernel
  obtain ⟨first, tr, hrun, hfacts⟩ := play_bind hplay
  simp only [Option.bind_eq_bind, Option.bind_eq_some_iff, Option.some.injEq, Prod.mk.injEq,
    Prod.exists, decide_eq_true_eq] at hfacts
  obtain ⟨_, g, hgame, p, hp, r₁, hr₁, r₂, hr₂, r₃, hr₃, _, g', hgame', p', hp', v, hv, r₄, hr₄,
    ⟨rfl, hbind, hnew, hres₁⟩, ⟨hseat, hgone⟩, rfl, hbind', hres₄⟩ := hfacts
  have hwrote := makeStuff_wrote ⟨hgame, hp, hbind⟩ hnew hr₁ (ok_of_toOption hres₁)
  have hsince : Transition.Run (Unwritten 1 67829765#32) r₁.srv _ r₃.srv :=
    (Transition.Run.nil.snoc (.of_onUpdate hr₂ (by decide))).snoc (.of_onUpdate hr₃ (by decide))
  refine ⟨_, r₃.srv, g', v, r₄, p', 1, r₁.srv, _, (hrun.snoc (Step.updated hr₁)).append
    (hsince.mono fun _ _ _ h => h.1), hgame', hv, deleteStuff_ownersRequest, hr₄, ok_of_toOption hres₄,
    ⟨hgame', hp', hbind'⟩, ⟨⟨tr, _, first, ?_, hrun, .updated hr₁, hwrote⟩, hsince⟩, ?_⟩
  · simp
  · intro hsession
    obtain ⟨_, ⟨-, hnot, -⟩, -⟩ := hsession.uncons
    obtain ⟨reply, hhandle, -, hsrv, -⟩ := onUpdate_result hr₂
    exact hnot ⟨_, _, _, reply, .requested rfl rfl, hhandle, hseat, hsrv ▸ hgone⟩

end VangersSrv
