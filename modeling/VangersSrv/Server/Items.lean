/-
Two forms of one item.

The body of a STUFF or DEVICE links to the id of the item's other form.  A game should
never store both, and three requests write a link or a new id: `create_object` checks
the new item's own link against the store, `item_transfer` removes the form it replaces,
and `update_object` checks nothing.  `LinkSafe` is what the requests would have to check
besides, and it is enough in every run.
-/
import VangersSrv.Server.Ownership

namespace VangersSrv

/-! ### The exclusion -/

/-- No item of the store links to another item of it. -/
def OneForm (vanjects : Vanjects) : Prop :=
  ∀ i j v w, vanjects.lookup i = some v → vanjects.lookup j = some w → i ≠ j →
    isItemVanject v = true → isItemVanject w = true → itemLinkedId v ≠ some w.id

/-- No game stores both forms of an item. -/
def ItemsOk (srv : Server) : Prop :=
  ∀ k g, srv.games.lookup k = some g → OneForm g.vanjects

/-- What the object requests of a player leave unchecked about links.  Each field is about
a request that would be accepted. -/
structure LinkSafe (srv : Server) (packet : Packet) (c : ClientID) : Prop where
  /-- No stored item links to the id of an item that is created. -/
  create : ∀ key game player b v, Acting srv c key game player b →
    packet.action = .createObject → Vanject.createFromSlice packet.data = some (.ok v) →
    game.vanjects.lookup v.id = none → isItemVanject v = true →
    itemHasPairedVanject v game.vanjects = none →
    ∀ j w, game.vanjects.lookup j = some w → isItemVanject w = true → itemLinkedId w ≠ some v.id
  /-- The link an update writes is not the id of another stored item. -/
  update : ∀ key game player b id old new, Acting srv c key game player b →
    packet.action = .updateObject → sliceLeToI32 (packet.data.take 4) = some id →
    game.vanjects.lookup id = some old → updateRejection old id c b player.worldId = none →
    old.updateFromSlice packet.data = some (.ok new) → isItemVanject new = true →
    ∀ j w, game.vanjects.lookup j = some w → j ≠ id → isItemVanject w = true →
      itemLinkedId new ≠ some w.id
  /-- Only the form that a transfer removes links to the form it stores. -/
  transfer : ∀ key game player b world t old, Acting srv c key game player b →
    packet.action = .itemTransfer → player.worldId = some world →
    ItemTransfer.parse packet = some (.ok t) → t.validate = .ok () →
    t.check game.vanjects b world = .ok old →
    ∀ j w, game.vanjects.lookup j = some w → j ≠ t.oldId → isItemVanject w = true →
      itemLinkedId w ≠ some t.newVanject.id

/-- An input whose request, if it is one, is safe. -/
def LinkSafeInput (srv : Server) : Input → Prop
  | .message c (.updated packet) => LinkSafe srv packet c
  | _ => True

section

variable {env : Env} {packet : Packet} {c : ClientID} {srv srv' mid : Server} {sent : List Sent}
  {key k : GameID} {game g : Game} {player player' p : Player} {b : UInt8} {vs vs' : Vanjects}
  {id : I32} {v : Vanject}

/-! ### Stores -/

/-- An owner is no part of an item's type or link. -/
@[simp] theorem isItemVanject_owner : isItemVanject { v with playerBindId := b } = isItemVanject v :=
  rfl

@[simp] theorem itemLinkedId_owner : itemLinkedId { v with playerBindId := b } = itemLinkedId v := rfl

theorem OneForm.mono (h : OneForm vs)
    (hsub : ∀ j w, vs'.lookup j = some w → vs.lookup j = some w) : OneForm vs' :=
  fun i j v w hv hw => h i j v w (hsub i v hv) (hsub j w hw)

/-- One new object keeps the exclusion when neither its link nor its id meets another item. -/
theorem OneForm.put (h : OneForm vs) (hid : v.id = id)
    (hsub : ∀ j w, vs'.lookup j = some w → if j = id then w = v else vs.lookup j = some w)
    (hfrom : isItemVanject v = true → ∀ j w, vs'.lookup j = some w → j ≠ id →
      isItemVanject w = true → itemLinkedId v ≠ some w.id)
    (hto : isItemVanject v = true → ∀ j w, vs'.lookup j = some w → j ≠ id →
      isItemVanject w = true → itemLinkedId w ≠ some id) : OneForm vs' := by
  intro i j x y hx hy hne hix hiy
  have hx' := hsub i x hx
  have hy' := hsub j y hy
  by_cases hi : i = id
  · rw [if_pos hi] at hx'
    subst hx'
    exact hfrom hix j y hy (fun hj => hne (hi.trans hj.symm)) hiy
  · rw [if_neg hi] at hx'
    by_cases hj : j = id
    · rw [if_pos hj] at hy'
      subst hy'
      rw [hid]
      exact hto hiy i x hx hi hix
    · rw [if_neg hj] at hy'
      exact h i j x y hx' hy' hne hix hiy

/-- A new item whose own link is checked, and that nothing links to. -/
theorem OneForm.insert (h : OneForm vs) (hkeyed : ∀ j w, vs.lookup j = some w → w.id = j)
    (hpaired : isItemVanject v = true → itemHasPairedVanject v vs = none)
    (hto : isItemVanject v = true → ∀ j w, vs.lookup j = some w → isItemVanject w = true →
      itemLinkedId w ≠ some v.id) :
    OneForm (vs.insert v.id { v with playerBindId := b }) := by
  have hother : ∀ j w, (vs.insert v.id { v with playerBindId := b }).lookup j = some w →
      j ≠ v.id → vs.lookup j = some w := by
    intro j w hw hj
    rw [AList.lookup_insert', if_neg hj] at hw
    exact hw
  refine h.put (v := { v with playerBindId := b }) rfl ?_ ?_ ?_
  · intro j w hw
    split
    · rename_i hj
      rw [AList.lookup_insert', if_pos hj] at hw
      exact (Option.some.inj hw).symm
    · rename_i hj
      exact hother j w hw hj
  · -- the check of the handler: a stored item is not what the new one links to
    intro hitem j w hw hj hiw hlink
    have hw' := hother j w hw hj
    have hnone := hpaired hitem
    rw [itemLinkedId_owner] at hlink
    simp only [itemHasPairedVanject, hlink, Option.bind_some] at hnone
    rw [if_pos ⟨hiw, AList.mem_iff_lookup.mpr ⟨w, by rw [hkeyed j w hw']; exact hw'⟩⟩] at hnone
    cases hnone
  · intro hitem j w hw hj hiw
    exact hto hitem j w (hother j w hw hj) hiw

/-- An item that is written in place under a link that meets no other item. -/
theorem OneForm.replace {old : Vanject} (h : OneForm vs) (hold : vs.lookup id = some old)
    (holdid : old.id = id) (hid : v.id = id)
    (hfrom : isItemVanject v = true → ∀ j w, vs.lookup j = some w → j ≠ id →
      isItemVanject w = true → itemLinkedId v ≠ some w.id) :
    OneForm (vs.replace id { v with playerBindId := b }) := by
  have hother : ∀ j w, (vs.replace id { v with playerBindId := b }).lookup j = some w →
      j ≠ id → vs.lookup j = some w := by
    intro j w hw hj
    rw [AList.lookup_replace_of_ne _ hj] at hw
    exact hw
  refine h.put (v := { v with playerBindId := b }) hid ?_ ?_ ?_
  · intro j w hw
    split
    · rename_i hj
      subst hj
      rw [AList.lookup_replace_self _ hold] at hw
      exact (Option.some.inj hw).symm
    · rename_i hj
      exact hother j w hw hj
  · intro hitem j w hw hj hiw
    exact hfrom hitem j w (hother j w hw hj) hj hiw
  · -- the item keeps its id and its type, so the old one already excluded such a link
    intro hitem j w hw hj hiw
    have hsame : isItemVanject v = isItemVanject old := by
      simp only [isItemVanject, Vanject.getType, hid, holdid]
    rw [isItemVanject_owner, hsame] at hitem
    rw [← holdid]
    exact h j id w old (hother j w hw hj) hold hj hiw hitem

/-- An item that takes the place of the form it links to. -/
theorem OneForm.exchange {oldId : I32} (h : OneForm vs)
    (hkeyed : ∀ j w, vs.lookup j = some w → w.id = j) (hlinked : itemLinkedId v = some oldId)
    (hto : ∀ j w, vs.lookup j = some w → j ≠ oldId → isItemVanject w = true →
      itemLinkedId w ≠ some v.id) :
    OneForm ((vs.erase oldId).insert v.id { v with playerBindId := b }) := by
  have hother : ∀ j w, ((vs.erase oldId).insert v.id { v with playerBindId := b }).lookup j
      = some w → j ≠ v.id → j ≠ oldId ∧ vs.lookup j = some w := by
    intro j w hw hj
    rw [AList.lookup_insert', if_neg hj, AList.lookup_erase'] at hw
    split at hw
    · cases hw
    · rename_i hne
      exact ⟨hne, hw⟩
  refine h.put (v := { v with playerBindId := b }) rfl ?_ ?_ ?_
  · intro j w hw
    split
    · rename_i hj
      rw [AList.lookup_insert', if_pos hj] at hw
      exact (Option.some.inj hw).symm
    · rename_i hj
      exact (hother j w hw hj).2
  · intro _ j w hw hj _ hlink
    obtain ⟨hne, hw'⟩ := hother j w hw hj
    rw [itemLinkedId_owner, hlinked] at hlink
    exact hne ((hkeyed j w hw').symm.trans (Option.some.inj hlink).symm)
  · intro _ j w hw hj hiw
    obtain ⟨hne, hw'⟩ := hother j w hw hj
    exact hto j w hw' hne hiw

/-! ### Items of a server -/

theorem ItemsOk.setGame {game' : Game} (hok : ItemsOk srv)
    (hlookup : srv.games.lookup key = some game) (hone : OneForm game'.vanjects) :
    ItemsOk (srv.setGame key game') := by
  intro k g hk
  rw [Server.lookup_setGame hlookup] at hk
  split at hk
  · cases hk
    exact hone
  · exact hok k g hk

/-- A write that leaves the store of its game alone keeps the exclusion. -/
theorem ItemsOk.setGame_same {game' : Game} (hok : ItemsOk srv)
    (hlookup : srv.games.lookup key = some game) (hvan : game'.vanjects = game.vanjects) :
    ItemsOk (srv.setGame key game') :=
  hok.setGame hlookup (by rw [hvan]; exact hok key game hlookup)

theorem Prelude.itemsOk (h : Prelude env packet c srv sent srv') (hitems : ItemsOk srv) :
    ItemsOk srv' := by
  cases h with
  | playerChanged hgame _ _ _ _ _ _ =>
      exact hitems.setGame_same (Server.getGameByClientid_lookup hgame) rfl
  | left _ _ hacting _ _ _ =>
      have hlookup := Server.getGameByClientid_lookup hacting.inGame
      refine hitems.setGame hlookup ((hitems _ _ hlookup).mono ?_)
      exact fun id v hv => (AList.lookup_retain_eq_some.mp hv).1

/-! ### Safe requests keep the exclusion -/

/-- The player that acts after its own data changed acted before, on the same store and
from the same world. -/
theorem Acting.before (hgame : srv.getGameByClientid c = some (key, game))
    (hplayer : game.getPlayer c = some player) (hclient : player'.clientId = player.clientId)
    (hbind : player'.bind = player.bind)
    (h : Acting (srv.setGame key (game.modifyPlayer c fun _ => player')) c k g p b) :
    k = key ∧ g = game.modifyPlayer c (fun _ => player') ∧ p = player' ∧
      Acting srv c key game player b := by
  have hfound : (game.modifyPlayer c fun _ => player').getPlayer c = some player' :=
    Game.getPlayer_modifyPlayer hplayer hclient
  have hgame' := h.inGame.symm.trans (Server.getGameByClientid_setGame hgame ⟨player', hfound⟩)
  simp only [Option.some.injEq, Prod.mk.injEq] at hgame'
  obtain ⟨rfl, rfl⟩ := hgame'
  obtain rfl := Option.some.inj (h.found.symm.trans hfound)
  refine ⟨rfl, rfl, rfl, hgame, hplayer, ?_⟩
  rw [← h.bound]
  simp [Player.bindId, hbind]

/-- Other requests have nothing to check. -/
theorem LinkSafe.of_action
    (haction : packet.action ∉ [Action.createObject, .updateObject, .itemTransfer]) :
    LinkSafe srv packet c := by
  constructor
  · intro _ _ _ _ _ _ ha
    simp [ha] at haction
  · intro _ _ _ _ _ _ _ _ ha
    simp [ha] at haction
  · intro _ _ _ _ _ _ _ _ ha
    simp [ha] at haction

/-- What comes before the effect of a request does not make it less safe. -/
theorem LinkSafe.prelude (hsafe : LinkSafe srv packet c) (h : Prelude env packet c srv sent mid)
    (haction : packet.action ∈ [Action.createObject, .setWorld, .closeSocket]) :
    LinkSafe mid packet c := by
  by_cases hcreate : packet.action = .createObject
  swap
  · refine LinkSafe.of_action ?_
    simp only [List.mem_cons, List.not_mem_nil, or_false] at haction
    rcases haction with ha | ha | ha
    · exact absurd ha hcreate
    · simp [ha]
    · simp [ha]
  cases h with
  | @playerChanged _ key₁ game₁ p₁ p₂ hgame hplayer hclient hbind _ _ _ =>
      constructor
      · intro key game player b v hacting
        obtain ⟨-, rfl, -, hacting'⟩ := hacting.before hgame hplayer hclient hbind
        exact hsafe.create key₁ game₁ p₁ b v hacting'
      · intro _ _ _ _ _ _ _ _ ha
        simp [hcreate] at ha
      · intro _ _ _ _ _ _ _ _ ha
        simp [hcreate] at ha
  | left hleft _ _ _ _ _ => simp [hcreate] at hleft

theorem Effect.itemsOk (h : Effect env packet c srv sent srv') (hok : RegistryOk srv)
    (hsafe : LinkSafe srv packet c) (hitems : ItemsOk srv) : ItemsOk srv' := by
  have hkeyed : ∀ {key game}, srv.games.lookup key = some game → ∀ j w,
      game.vanjects.lookup j = some w → w.id = j :=
    fun hlookup j w hw => ((hok.game _ _ hlookup).keyed j w hw).1
  cases h with
  | prelude h => exact h.itemsOk hitems
  | quiet _ => exact hitems
  | gameChanged hgame =>
      exact hitems.setGame_same (Server.getGameByClientid_lookup hgame) rfl
  | counted _ _ _ => exact hitems
  | attached _ _ hfound _ _ =>
      rcases Server.requestedGame_cases hfound with ⟨made, n, hgame, hlookup⟩ | ⟨made, n, hgame, -, rfl⟩
      · have hcounted : ItemsOk { srv with gamesIdUniq := n } := hitems
        rw [hgame]
        exact hcounted.setGame_same hlookup rfl
      · rw [hgame]
        -- the game that is made has no objects
        intro k g' hk
        by_cases hkey : k = made
        · subst hkey
          rw [Server.lookup_setGame_self (AList.lookup_insert _)] at hk
          cases hk
          intro i j v w hv
          simp [Game.joined, Game.new] at hv
        · rw [Server.lookup_setGame_of_ne hkey] at hk
          exact hitems k g' (by rw [← AList.lookup_insert_ne hkey]; exact hk)
  | @restored _ gameId playerId game player _ _ hlookup _ hsrv =>
      have hset : ItemsOk (srv.setGame gameId (game.restored c playerId)) :=
        hitems.setGame_same hlookup rfl
      rw [hsrv]
      split
      · exact hset
      · exact hset
  | replayed _ _ _ => exact hitems
  | @created _ key game player bind v ha hacting hparse hnew hpaired _ =>
      have hlookup := Server.getGameByClientid_lookup hacting.inGame
      refine hitems.setGame hlookup ((hitems key game hlookup).insert (hkeyed hlookup) hpaired ?_)
      intro hitem
      exact hsafe.create key game player bind v hacting ha hparse hnew hitem (hpaired hitem)
  | @updated key game player bind id old new _ _ ha hacting hid hold hpassed hparse _ =>
      have hlookup := Server.getGameByClientid_lookup hacting.inGame
      have holdid := hkeyed hlookup id old hold
      have hnew : new.id = id := by
        rw [(Vanject.updateFromSlice_ok hparse).2.1]
        exact holdid
      refine hitems.setGame hlookup ((hitems key game hlookup).replace hold holdid hnew ?_)
      exact hsafe.update key game player bind id old new hacting ha hid hold hpassed hparse
  | deleted _ hacting _ _ _ =>
      have hlookup := Server.getGameByClientid_lookup hacting.inGame
      refine hitems.setGame hlookup ((hitems _ _ hlookup).mono ?_)
      intro id v hv
      rw [AList.lookup_erase'] at hv
      split at hv
      · cases hv
      · exact hv
  | deleteMissed _ hacting _ _ =>
      exact hitems.setGame_same (Server.getGameByClientid_lookup hacting.inGame) rfl
  | @transferred key game player bind world t old answer ha hacting hworld hparse hvalid hpassed _ =>
      have hlookup := Server.getGameByClientid_lookup hacting.inGame
      obtain ⟨-, -, hlinked, -⟩ := ItemTransfer.validate_ok hvalid
      refine hitems.setGame hlookup
        ((hitems key game hlookup).exchange (hkeyed hlookup) hlinked ?_)
      exact hsafe.transfer key game player bind world t old hacting ha hworld hparse hvalid hpassed
  | worldMade hgame _ _ _ =>
      exact hitems.setGame_same (Server.getGameByClientid_lookup hgame) rfl
  | entered _ _ hacting _ _ _ _ _ _ _ =>
      exact hitems.setGame_same (Server.getGameByClientid_lookup hacting.inGame) rfl
  | closed _ hacting _ _ =>
      exact hitems.setGame_same (Server.getGameByClientid_lookup hacting.inGame) rfl
  | @closedLast _ key game player bind _ hacting _ _ =>
      have hlookup := Server.getGameByClientid_lookup hacting.inGame
      intro k g' hk
      exact hitems k g' (hok.lookup_erased hlookup hk)

theorem Handled.itemsOk (h : Handled env packet c srv sent srv') (hok : RegistryOk srv)
    (hsafe : LinkSafe srv packet c) (hitems : ItemsOk srv) : ItemsOk srv' := by
  cases h with
  | one h => exact h.itemsOk hok hsafe hitems
  | two haction h₁ h₂ =>
      exact h₂.itemsOk (RegistryOk.prelude h₁ hok) (hsafe.prelude h₁ haction) (h₁.itemsOk hitems)

theorem ItemsOk.rehash (h : Rehash srv srv') (hitems : ItemsOk srv) : ItemsOk srv' := by
  cases h with
  | games hperm =>
      intro k g hk
      exact hitems k g (by rw [← AList.perm_lookup (a := k) hperm]; exact hk)
  | vanjects hlookup hperm =>
      refine hitems.setGame hlookup ((hitems _ _ hlookup).mono ?_)
      intro id v hv
      rw [AList.perm_lookup hperm] at hv
      exact hv

theorem ItemsOk.mark (hitems : ItemsOk srv) : ItemsOk (srv.markPlayerDisconnected env c) := by
  unfold Server.markPlayerDisconnected
  split
  · rename_i key game hgame
    exact hitems.setGame_same (Server.getGameByClientid_lookup hgame) rfl
  · exact hitems

end

/-- A round on a safe input keeps the exclusion. -/
theorem Step.itemsOk {srv srv' : Server} {e : Option Event} (h : Step srv e srv')
    (hok : RegistryOk srv) (hsafe : ∀ event, e = some event → LinkSafeInput srv event.input)
    (hitems : ItemsOk srv) : ItemsOk srv' := by
  refine (h.preserves (P := fun mid => RegistryOk mid ∧ ItemsOk mid) ?_ ?_ ?_ ?_ ⟨hok, hitems⟩).2
  · rintro env packet c mid mid' sent origin hh ⟨hmid, hmitems⟩
    refine ⟨hmid.handled hh, hh.itemsOk hmid ?_ hmitems⟩
    cases origin with
    | message he => exact hsafe _ he
    | tick _ => exact LinkSafe.of_action (by decide)
  · exact fun env c mid hmid => ⟨hmid.1.mark, hmid.2.mark⟩
  · exact fun mid clients hmid => ⟨hmid.1.setClients clients, hmid.2⟩
  · exact fun mid mid' hr hmid => ⟨hmid.1.rehash hr, hmid.2.rehash hr⟩

/-- A round whose input is safe. -/
def LinkSafeRound (srv : Server) (e : Option Event) (srv' : Server) : Prop :=
  Step srv e srv' ∧ ∀ event, e = some event → LinkSafeInput srv event.input

/-- **One physical item has one representation** in every run of safe inputs. -/
theorem oneForm_of_linkSafe {start : Instant} {tr : List (Option Event)} {srv : Server}
    (h : Transition.Run LinkSafeRound (Server.new start) tr srv) : ItemsOk srv := by
  refine (h.invariant (P := fun s => RegistryOk s ∧ ItemsOk s)
    ⟨registryOk_new start, fun k g hk => by simp [Server.new] at hk⟩ ?_).2
  rintro a e b ⟨hstep, hsafe⟩ ⟨hok, hitems⟩
  exact ⟨hstep.registryOk hok, hstep.itemsOk hok hsafe hitems⟩

/-- The stored items but for the one with the id pass a test. -/
def Game.otherItems (g : Game) (id : I32) (test : Vanject → Bool) : Bool :=
  g.vanjects.entries.all fun e => decide (e.1 = id) || !isItemVanject e.2 || test e.2

theorem Game.otherItems_of {g : Game} {id j : I32} {test : Vanject → Bool} {w : Vanject}
    (h : g.otherItems id test = true) (hw : g.vanjects.lookup j = some w) (hj : j ≠ id)
    (hitem : isItemVanject w = true) : test w = true := by
  have htest := List.all_eq_true.mp h ⟨j, w⟩ (AList.mem_entries_iff.mpr hw)
  simpa [hj, hitem] using htest

/-- No other item of the sender's game links to the id that a request brings, nor does the link that
it writes name another item. -/
def Server.linksApart (srv : Server) : Input → Bool
  | .message c (.updated packet) => (srv.getGameByClientid c).all fun found =>
    match packet.action with
    | .createObject => ((Vanject.createFromSlice packet.data).bind Except.toOption).all fun v =>
      found.2.otherItems v.id fun w => decide (itemLinkedId w ≠ some v.id)
    | .updateObject => (sliceLeToI32 (packet.data.take 4)).all fun id =>
      (found.2.vanjects.lookup id).all fun old =>
        ((old.updateFromSlice packet.data).bind Except.toOption).all fun new =>
          found.2.otherItems id fun w => decide (itemLinkedId new ≠ some w.id)
    | .itemTransfer => ((ItemTransfer.parse packet).bind Except.toOption).all fun t =>
      found.2.otherItems t.oldId fun w => decide (itemLinkedId w ≠ some t.newVanject.id)
    | _ => true
  | _ => true

/-- Links that stay apart are safe. -/
theorem LinkSafeInput.of_linksApart {srv : Server} {input : Input} (h : srv.linksApart input = true) :
    LinkSafeInput srv input := by
  match input, h with
  | .tick, _ | .add _, _ | .message _ (.status _), _ | .message _ .disconnected, _ => trivial
  | .message c (.updated packet), h =>
    refine ⟨?_, ?_, ?_⟩
    · intro key game player b v hacting haction hparse hnew hitem _ j w hw hiw
      simp only [Server.linksApart, hacting.inGame, haction, hparse, Option.all_some,
        Option.bind_some, Except.toOption] at h
      have hj : j ≠ v.id := by
        rintro rfl
        rw [hnew] at hw
        cases hw
      exact of_decide_eq_true (Game.otherItems_of h hw hj hiw)
    · intro key game player b id old new hacting haction hid hold _ hparse hitem j w hw hj hiw
      simp only [Server.linksApart, hacting.inGame, haction, hid, hold, hparse, Option.all_some,
        Option.bind_some, Except.toOption] at h
      exact of_decide_eq_true (Game.otherItems_of h hw hj hiw)
    · intro key game player b world t old hacting haction _ hparse _ _ j w hw hj hiw
      simp only [Server.linksApart, hacting.inGame, haction, hparse, Option.all_some,
        Option.bind_some, Except.toOption] at h
      exact of_decide_eq_true (Game.otherItems_of h hw hj hiw)

/-- Two STUFF items are stored, the link of the first is written anew, and the second is picked up as
the DEVICE that it links to. -/
theorem oneForm_of_linkSafe_stuff : ∃ tr srv g v w,
    Transition.Run LinkSafeRound (Server.new 0) tr srv ∧ srv.games.lookup 1 = some g ∧
      g.vanjects.lookup 0x040b0005#32 = some v ∧ itemLinkedId v = some 0x04010007#32 ∧
      g.vanjects.lookup 0x04010006#32 = some w ∧ itemLinkedId w = some 0x040b0006#32 ∧
      ItemsOk srv := by
  have hplay : (playWhile (fun srv input _ => srv.linksApart input) (Server.new 0)
      [(Env.atTime 0, ask 7 .attachToGame [0, 0, 0, 0]),
        (Env.atTime 0, ask 7 .setWorld [0, 0, 8]),
        (Env.atTime 0, ask 7 .createObject
          [5, 0, 11, 4, 0, 0, 0, 0, 0, 0, 0, 0, 0, 0, 0, 5, 0, 1, 4]),
        (Env.atTime 0, ask 7 .createObject
          [6, 0, 11, 4, 0, 0, 0, 0, 0, 0, 0, 0, 0, 0, 0, 6, 0, 1, 4]),
        (Env.atTime 0, ask 7 .updateObject [5, 0, 11, 4, 0, 0, 0, 0, 0, 0, 0, 0, 0, 7, 0, 1, 4]),
        (Env.atTime 0, ask 7 .itemTransfer
          ([1, 6, 0, 11, 4, 0, 0, 0, 0, 1] ++ [6, 0, 1, 4, 0, 0, 0, 0, 0, 0, 0, 0, 0, 0]
            ++ [0, 6, 0, 11, 4]))]).bind (fun last => do
      let g ← last.1.games.lookup 1
      let v ← g.vanjects.lookup 0x040b0005#32
      let w ← g.vanjects.lookup 0x04010006#32
      some (itemLinkedId v, itemLinkedId w)) = some (some 0x04010007#32, some 0x040b0006#32) := by
    decide +kernel
  obtain ⟨⟨srv, tr⟩, hlast, hplay⟩ := Option.bind_eq_some_iff.mp hplay
  simp only [Option.bind_eq_bind, Option.bind_eq_some_iff, Option.some.injEq, Prod.mk.injEq] at hplay
  obtain ⟨g, hk, v, hv, w, hw, hlinkv, hlinkw⟩ := hplay
  have hrun : Transition.Run LinkSafeRound (Server.new 0) tr srv := by
    refine (playWhile_run hlast).mono ?_
    rintro s e s' ⟨hstep, event, rfl, htest⟩
    refine ⟨hstep, ?_⟩
    rintro _ ⟨⟩
    exact .of_linksApart htest
  exact ⟨tr, srv, g, v, w, hrun, hk, hv, hlinkv, hw, hlinkw, oneForm_of_linkSafe hrun⟩

/-- The check looks only at the new item's own link: a STUFF that links to a DEVICE is
created first, and then that DEVICE, which links to nothing. -/
theorem oneForm_fails : ∃ srv, ServerReachable srv ∧ ¬ ItemsOk srv := by
  have hplay : (((play (Server.new 0)
      [(Env.atTime 0, ask 7 .attachToGame [0, 0, 0, 0]),
        (Env.atTime 0, ask 7 .createObject
          [5, 0, 11, 4, 0, 0, 0, 0, 0, 0, 0, 0, 0, 0, 0, 5, 0, 1, 4]),
        (Env.atTime 0, ask 7 .createObject
          [5, 0, 1, 4, 0, 0, 0, 0, 0, 0, 0, 0, 0, 0, 0, 0, 0, 0, 0])]).map Prod.fst).bind
      fun srv => do
        let g ← srv.games.lookup 1
        let v ← g.vanjects.lookup 0x040b0005#32
        let w ← g.vanjects.lookup 0x04010005#32
        some (isItemVanject v, isItemVanject w, itemLinkedId v, w.id)) =
      some (true, true, some 0x04010005#32, 0x04010005#32) := by
    decide +kernel
  obtain ⟨srv, tr, hrun, hfacts⟩ := play_bind hplay
  simp only [Option.bind_eq_bind, Option.bind_eq_some_iff, Option.some.injEq,
    Prod.mk.injEq] at hfacts
  obtain ⟨g, hg, v, hv, w, hw, hiv, hiw, hlink, hid⟩ := hfacts
  refine ⟨srv, ⟨0, tr, hrun⟩, fun hitems => ?_⟩
  exact hitems 1 g hg _ _ v w hv hw (by decide) hiv hiw (by rw [hlink, hid])

end VangersSrv
