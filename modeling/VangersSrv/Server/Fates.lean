/-
What becomes of one game.

`Effect` says how a packet changes the server; this file says it again for a single game.  A
game is opened by its first player, ended with its last one, left as it is or taken one step on,
and what a game holds is a matter of these steps.
-/
import VangersSrv.Server.Ownership

namespace VangersSrv

/-! ### Steps of a game -/

/-- What a packet of a connection can make of a game. -/
inductive GameStep (env : Env) (packet : Packet) (c : ClientID) (srv : Server) (k : GameID)
    (g : Game) : Game → Prop
  | same : GameStep env packet c srv k g g
  | playerChanged {player player' : Player}
      (hgame : srv.getGameByClientid c = some (k, g)) (hplayer : g.getPlayer c = some player)
      (hclient : player'.clientId = player.clientId) (hbind : player'.bind = player.bind)
      (hchange : PlayerChange env packet g player player') :
      GameStep env packet c srv k g (g.modifyPlayer c fun _ => player')
  | left {player : Player} {bind : UInt8} {world : World}
      (haction : packet.action ∈ [Action.leaveWorld, .setWorld, .closeSocket])
      (hacting : Acting srv c k g player bind) (hworld : player.world = some world) :
      GameStep env packet c srv k g (g.left c bind)
  | gameChanged {config : Option Config} {name : Bytes}
      (hgame : srv.getGameByClientid c = some (k, g)) (haction : packet.action = .setGameData)
      (hunconfigured : g.config = none) (hchange : GameChange packet g config name) :
      GameStep env packet c srv k g { g with config, name }
  | joined {bind : Bind} (haction : packet.action = .attachToGame)
      (hfree : g.getUniqPlayerId = some bind.id) :
      GameStep env packet c srv k g (g.joined c bind)
  | restored {playerId : UInt8} (haction : packet.action = .restoreConnection) :
      GameStep env packet c srv k g (g.restored c playerId)
  | created {player : Player} {bind : UInt8} {v : Vanject}
      (haction : packet.action = .createObject) (hacting : Acting srv c k g player bind)
      (hparse : Vanject.createFromSlice packet.data = some (.ok v))
      (hnew : g.vanjects.lookup v.id = none) :
      GameStep env packet c srv k g
        { g with vanjects := g.vanjects.insert v.id { v with playerBindId := bind } }
  | updated {player : Player} {bind : UInt8} {id : I32} {old new : Vanject}
      (haction : packet.action = .updateObject) (hacting : Acting srv c k g player bind)
      (hid : sliceLeToI32 (packet.data.take 4) = some id) (hlookup : g.vanjects.lookup id = some old)
      (hpassed : updateRejection old id c bind player.worldId = none)
      (hparse : old.updateFromSlice packet.data = some (.ok new)) :
      GameStep env packet c srv k g
        { g with vanjects := g.vanjects.replace id { new with playerBindId := bind } }
  | deleted {player : Player} {bind : UInt8} {id : I32} {v : Vanject}
      (haction : packet.action = .deleteObject) (hacting : Acting srv c k g player bind)
      (hid : sliceLeToI32 (packet.data.take 4) = some id) (hlookup : g.vanjects.lookup id = some v)
      (howner : v.playerBindId = bind) :
      GameStep env packet c srv k g { g with vanjects := g.vanjects.erase id }
  | transferred {player : Player} {bind world : UInt8} {t : ItemTransfer} {old : Vanject}
      (haction : packet.action = .itemTransfer) (hacting : Acting srv c k g player bind)
      (hworld : player.worldId = some world)
      (hparse : ItemTransfer.parse packet = some (.ok t)) (hvalid : t.validate = .ok ())
      (hpassed : t.check g.vanjects bind world = .ok old) :
      GameStep env packet c srv k g
        { g with
          vanjects := (g.vanjects.erase t.oldId).insert t.newVanject.id
            { t.newVanject with playerBindId := bind } }
  | entered {player : Player} {bind : UInt8} {worlds : List World} {world : World}
      (haction : packet.action = .setWorld) (hacting : Acting srv c k g player bind) :
      GameStep env packet c srv k g (g.entered c worlds world)
  | closed {player : Player} {bind : UInt8} (haction : packet.action = .closeSocket)
      (hacting : Acting srv c k g player bind) (hothers : (g.closed c player).players ≠ []) :
      GameStep env packet c srv k g (g.closed c player)

/-- What is found under an id before a packet and after it. -/
inductive Fate (env : Env) (packet : Packet) (c : ClientID) (srv : Server) (k : GameID) :
    Option Game → Option Game → Prop
  | missing : Fate env packet c srv k none none
  | opened {bind : Bind} (haction : packet.action = .attachToGame)
      (hfree : (Game.new k env.now).getUniqPlayerId = some bind.id) :
      Fate env packet c srv k none (some ((Game.new k env.now).joined c bind))
  | kept {g g' : Game} (hstep : GameStep env packet c srv k g g') :
      Fate env packet c srv k (some g) (some g')
  | ended {g : Game} {player : Player} {bind : UInt8} (haction : packet.action = .closeSocket)
      (hacting : Acting srv c k g player bind) (hothers : (g.closed c player).players = []) :
      Fate env packet c srv k (some g) none

section

variable {env : Env} {packet : Packet} {c : ClientID} {srv srv' mid : Server} {sent : List Sent}
  {key k : GameID} {game game' : Game} {player : Player} {b : UInt8}

namespace Fate

/-- Nothing became of the game. -/
theorem same : Fate env packet c srv k (srv.games.lookup k) (srv.games.lookup k) := by
  cases srv.games.lookup k with
  | none => exact .missing
  | some g => exact .kept .same

/-- One game was written, the others are as before. -/
theorem setGame (hlookup : srv.games.lookup key = some game)
    (hstep : GameStep env packet c srv key game game') :
    Fate env packet c srv k (srv.games.lookup k) ((srv.setGame key game').games.lookup k) := by
  rw [Server.lookup_setGame hlookup]
  split
  · rename_i hkey
    rw [hkey, hlookup]
    exact .kept hstep
  · exact same

end Fate

theorem Prelude.fate (h : Prelude env packet c srv sent srv') (k : GameID) :
    Fate env packet c srv k (srv.games.lookup k) (srv'.games.lookup k) := by
  cases h with
  | playerChanged hgame hplayer hclient hbind _ _ _ hchange =>
      exact .setGame (Server.getGameByClientid_lookup hgame)
        (.playerChanged hgame hplayer hclient hbind hchange)
  | left haction _ hacting hworld _ _ =>
      exact .setGame (Server.getGameByClientid_lookup hacting.inGame) (.left haction hacting hworld)

theorem Fate.attached {requested : I32} {found : Game} {bind : Bind}
    (haction : packet.action = .attachToGame)
    (hfound : (srv.requestedGame env requested).1.games.lookup
      (srv.requestedGame env requested).2 = some found)
    (hfree : found.getUniqPlayerId = some bind.id) (k : GameID) :
    Fate env packet c srv k (srv.games.lookup k)
      (((srv.requestedGame env requested).1.setGame (srv.requestedGame env requested).2
        (found.joined c bind)).games.lookup k) := by
  rcases Server.requestedGame_cases hfound with ⟨key, n, hgame, hlookup⟩ | ⟨key, n, hgame, hin, rfl⟩
  · rw [hgame]
    exact Fate.setGame hlookup (.joined haction hfree)
  · rw [hgame, Server.lookup_setGame (AList.lookup_insert _)]
    split
    · rename_i hkey
      rw [hkey, AList.lookup_eq_none.mpr hin]
      exact .opened haction hfree
    · rename_i hkey
      rw [AList.lookup_insert_ne hkey]
      exact .same

/-- **What becomes of a game.** -/
theorem Effect.fate (h : Effect env packet c srv sent srv') (hok : RegistryOk srv) (k : GameID) :
    Fate env packet c srv k (srv.games.lookup k) (srv'.games.lookup k) := by
  cases h with
  | prelude h => exact h.fate k
  | quiet _ => exact .same
  | gameChanged hgame haction hunconfigured hchange =>
      exact .setGame (Server.getGameByClientid_lookup hgame)
        (.gameChanged hgame haction hunconfigured hchange)
  | counted _ _ _ => exact .same
  | attached haction _ hfound hfree _ => exact .attached haction hfound hfree k
  | @restored _ gameId playerId game player haction _ hlookup _ hsrv =>
      have hgames : srv'.games = (srv.setGame gameId (game.restored c playerId)).games := by
        rw [hsrv]
        split <;> rfl
      rw [hgames]
      exact .setGame hlookup (.restored haction)
  | replayed _ _ _ => exact .same
  | created haction hacting hparse hnew _ _ =>
      exact .setGame (Server.getGameByClientid_lookup hacting.inGame)
        (.created haction hacting hparse hnew)
  | updated haction hacting hid hlookup hpassed hparse _ =>
      exact .setGame (Server.getGameByClientid_lookup hacting.inGame)
        (.updated haction hacting hid hlookup hpassed hparse)
  | deleted haction hacting hlookup howner _ hid _ =>
      exact .setGame (Server.getGameByClientid_lookup hacting.inGame)
        (.deleted haction hacting hid hlookup howner)
  | deleteMissed _ hacting _ _ _ =>
      exact .setGame (Server.getGameByClientid_lookup hacting.inGame) .same
  | transferred haction hacting hworld hparse hvalid hpassed _ =>
      exact .setGame (Server.getGameByClientid_lookup hacting.inGame)
        (.transferred haction hacting hworld hparse hvalid hpassed)
  | worldMade hgame hplayer hunbound _ =>
      -- every player has a number, so this one has too
      have hlookup := Server.getGameByClientid_lookup hgame
      obtain ⟨b, hb, -⟩ := (hok.game _ _ hlookup).bound _ (Game.getPlayer_mem hplayer)
      rw [hunbound] at hb
      cases hb
  | entered haction _ hacting _ _ _ _ _ _ _ =>
      exact .setGame (Server.getGameByClientid_lookup hacting.inGame) (.entered haction hacting)
  | closed haction hacting hothers _ =>
      exact .setGame (Server.getGameByClientid_lookup hacting.inGame)
        (.closed haction hacting hothers)
  | @closedLast _ key game player bind haction hacting hothers _ =>
      have hlookup := Server.getGameByClientid_lookup hacting.inGame
      obtain rfl : game.id = key := hok.keyed _ _ hlookup
      dsimp only
      rw [AList.lookup_erase']
      split
      · rename_i hkey
        rw [hkey, hlookup]
        exact .ended haction hacting hothers
      · rename_i hkey
        rw [AList.lookup_replace_of_ne _ hkey]
        exact .same

/-! ### Players of a game -/

/-- What a packet can make of a player. -/
inductive PlayerStep (env : Env) (packet : Packet) (c : ClientID) (srv : Server) (k : GameID)
    (g : Game) (p : Player) : Player → Prop
  /-- Its connection, its place or its deadline changed, or nothing. -/
  | moved {clientId : ClientID} {world : Option World} {status : Status}
      {disconnectedUntil : Option Instant} :
      PlayerStep env packet c srv k g p { p with clientId, world, status, disconnectedUntil }
  | changed {p' : Player} (hgame : srv.getGameByClientid c = some (k, g))
      (hplayer : g.getPlayer c = some p) (hclient : p'.clientId = p.clientId)
      (hbind : p'.bind = p.bind) (hchange : PlayerChange env packet g p p') :
      PlayerStep env packet c srv k g p p'

/-- A player keeps its number. -/
theorem PlayerStep.bind {p q : Player} (h : PlayerStep env packet c srv k game p q) :
    q.bind = p.bind := by
  cases h with
  | moved => rfl
  | changed _ _ _ hbind _ => exact hbind

/-- One player was written, the others are as before. -/
theorem PlayerStep.modifyFirst {s : Player → Bool} {f : Player → Player} {p : Player}
    (hf : ∀ a, game.players.find? s = some a → PlayerStep env packet c srv k game a (f a)) :
    (p ∈ game.players → ∃ q ∈ game.players.modifyFirst s f,
      PlayerStep env packet c srv k game p q) ∧
    (p ∈ game.players.modifyFirst s f → ∃ q ∈ game.players,
      PlayerStep env packet c srv k game q p) := by
  cases hfind : game.players.find? s with
  | none =>
      rw [List.modifyFirst_of_find?_eq_none hfind]
      exact ⟨fun hp => ⟨p, hp, .moved⟩, fun hp => ⟨p, hp, .moved⟩⟩
  | some a =>
      obtain ⟨l₁, l₂, hl, -, -, hmod⟩ := List.modifyFirst_split (f := f) hfind
      rw [hmod, hl]
      simp only [List.mem_append, List.mem_cons]
      constructor
      · rintro (hp | rfl | hp)
        · exact ⟨p, Or.inl hp, .moved⟩
        · exact ⟨f p, Or.inr (Or.inl rfl), hf p hfind⟩
        · exact ⟨p, Or.inr (Or.inr hp), .moved⟩
      · rintro (hp | rfl | hp)
        · exact ⟨p, Or.inl hp, .moved⟩
        · exact ⟨a, Or.inr (Or.inl rfl), hf a hfind⟩
        · exact ⟨p, Or.inr (Or.inr hp), .moved⟩

namespace GameStep

/-- Every player stays, or its connection closes its socket. -/
theorem forward {p : Player} (h : GameStep env packet c srv k game game') (hp : p ∈ game.players) :
    (∃ q ∈ game'.players, PlayerStep env packet c srv k game p q) ∨
      (packet.action = .closeSocket ∧ p.clientId = c) := by
  cases h with
  | playerChanged hgame hplayer hclient hbind hchange =>
      refine Or.inl ((PlayerStep.modifyFirst fun a ha => ?_).1 hp)
      obtain rfl := Option.some.inj (ha.symm.trans hplayer)
      exact .changed hgame hplayer hclient hbind hchange
  | left _ _ _ => exact Or.inl ((PlayerStep.modifyFirst fun _ _ => .moved).1 hp)
  | joined _ _ => exact Or.inl ⟨p, List.mem_append_left _ hp, .moved⟩
  | restored _ => exact Or.inl ((PlayerStep.modifyFirst fun _ _ => .moved).1 hp)
  | entered _ _ => exact Or.inl ((PlayerStep.modifyFirst fun _ _ => .moved).1 hp)
  | closed haction _ _ =>
      by_cases hc : p.clientId = c
      · exact Or.inr ⟨haction, hc⟩
      · exact Or.inl ⟨p, List.mem_filter.mpr ⟨hp, by simpa using hc⟩, .moved⟩
  | _ => exact Or.inl ⟨p, hp, .moved⟩

/-- Every player was there before, or it joins. -/
theorem back {q : Player} (h : GameStep env packet c srv k game game') (hq : q ∈ game'.players) :
    (∃ p ∈ game.players, PlayerStep env packet c srv k game p q) ∨
      ∃ bind, packet.action = .attachToGame ∧ game.getUniqPlayerId = some bind.id ∧
        q = { Player.new c with bind := some bind } := by
  cases h with
  | playerChanged hgame hplayer hclient hbind hchange =>
      refine Or.inl ((PlayerStep.modifyFirst fun a ha => ?_).2 hq)
      obtain rfl := Option.some.inj (ha.symm.trans hplayer)
      exact .changed hgame hplayer hclient hbind hchange
  | left _ _ _ => exact Or.inl ((PlayerStep.modifyFirst fun _ _ => .moved).2 hq)
  | @joined bind haction hfree =>
      rcases List.mem_append.mp hq with hq | hq
      · exact Or.inl ⟨q, hq, .moved⟩
      · exact Or.inr ⟨bind, haction, hfree, List.mem_singleton.mp hq⟩
  | restored _ => exact Or.inl ((PlayerStep.modifyFirst fun _ _ => .moved).2 hq)
  | entered _ _ => exact Or.inl ((PlayerStep.modifyFirst fun _ _ => .moved).2 hq)
  | closed _ _ _ => exact Or.inl ⟨q, (List.mem_filter.mp hq).1, .moved⟩
  | _ => exact Or.inl ⟨q, hq, .moved⟩

end GameStep

/-! ### Rounds of the loop -/

/-- Where a packet meets the state: as a connection or the cleanup timer hands it over, or after
its own prelude. -/
inductive Arises (srv : Server) (e : Option Event) (env : Env) (packet : Packet) (c : ClientID) :
    Server → Prop
  | first {mid : Server} (h : Origin srv e env packet c mid) : Arises srv e env packet c mid
  | second {mid mid' : Server} {sent : List Sent} (h : Origin srv e env packet c mid)
      (hprelude : Prelude env packet c mid sent mid') : Arises srv e env packet c mid'

theorem Arises.origin {e : Option Event} (h : Arises srv e env packet c mid) :
    ∃ mid, Origin srv e env packet c mid := by
  rcases h with h | ⟨h, -⟩ <;> exact ⟨_, h⟩

/-- A round handles one packet, over and over in a round of the timer. -/
theorem Arises.packet_unique {e : Option Event} {env' : Env} {packet' : Packet} {c' : ClientID}
    {mid' : Server} (h : Arises srv e env packet c mid) (h' : Arises srv e env' packet' c' mid') :
    packet' = packet := by
  obtain ⟨_, ho⟩ := h.origin
  obtain ⟨_, ho'⟩ := h'.origin
  cases ho with
  | message he =>
      cases ho' with
      | message he' =>
          cases he.symm.trans he'
          rfl
      | tick he' => cases he.symm.trans he'
  | tick he =>
      cases ho' with
      | message he' => cases he.symm.trans he'
      | tick he' => rfl

/-- Who acts in the round acted before it, with the same configuration and with the same objects
unless it has left a world, and sent the packet itself. -/
theorem Arises.acting_back {e : Option Event} (h : Arises srv e env packet c mid)
    (hok : RegistryOk srv) (hclose : packet.action ≠ .closeSocket)
    (hacting : Acting mid c k game player b) :
    (∃ sent, e = some { env, input := .message c (.updated packet), sent }) ∧
      ∃ game₀ player₀, Acting srv c k game₀ player₀ b ∧ game.config = game₀.config ∧
        (game.vanjects = game₀.vanjects ∨
          packet.action ∈ [Action.leaveWorld, .setWorld, .closeSocket]) := by
  cases h with
  | first horigin =>
      cases horigin with
      | message he => exact ⟨⟨_, he⟩, game, player, hacting, rfl, Or.inl rfl⟩
      | tick _ => exact absurd rfl hclose
  | second horigin hprelude =>
      cases horigin with
      | message he => exact ⟨⟨_, he⟩, hprelude.acting_back hok hacting⟩
      | tick _ => exact absurd rfl hclose

/-- **The step rule for one game.** -/
theorem Step.keeps {P : Option Game → Prop} {e : Option Event} (h : Step srv e srv')
    (hok : RegistryOk srv)
    (hfate : ∀ env packet c mid o, Arises srv e env packet c mid → RegistryOk mid →
      Fate env packet c mid k (mid.games.lookup k) o → P (mid.games.lookup k) → P o)
    (hmark : ∀ g c deadline, P (some g) →
      P (some (g.modifyPlayer c fun p => { p with disconnectedUntil := deadline })))
    (hrehash : ∀ g vanjects, vanjects.entries.Perm g.vanjects.entries → P (some g) →
      P (some { g with vanjects }))
    (hsrv : P (srv.games.lookup k)) : P (srv'.games.lookup k) := by
  have hboth : RegistryOk srv' ∧ P (srv'.games.lookup k) := by
    refine Step.preserves (P := fun s => RegistryOk s ∧ P (s.games.lookup k)) h ?_ ?_ ?_ ?_
      ⟨hok, hsrv⟩
    · rintro env packet c mid mid' sent horigin hh ⟨hmid, hP⟩
      refine ⟨RegistryOk.handled hh hmid, ?_⟩
      cases hh with
      | one h => exact hfate env packet c mid _ (.first horigin) hmid (h.fate hmid k) hP
      | two _ h₁ h₂ =>
          have hmid₂ := RegistryOk.prelude h₁ hmid
          exact hfate env packet c _ _ (.second horigin h₁) hmid₂ (h₂.fate hmid₂ k)
            (hfate env packet c mid _ (.first horigin) hmid (h₁.fate k) hP)
    · rintro env c mid ⟨hmid, hP⟩
      refine ⟨hmid.mark, ?_⟩
      unfold Server.markPlayerDisconnected
      split
      · rename_i key game hgame
        rw [Server.lookup_setGame (Server.getGameByClientid_lookup hgame)]
        split
        · rename_i hkey
          rw [hkey, Server.getGameByClientid_lookup hgame] at hP
          exact hmark game c _ hP
        · exact hP
      · exact hP
    · rintro mid clients ⟨hmid, hP⟩
      exact ⟨hmid.setClients clients, hP⟩
    · rintro mid mid' hr ⟨hmid, hP⟩
      refine ⟨RegistryOk.rehash hr hmid, ?_⟩
      cases hr with
      | games hperm =>
          rw [AList.perm_lookup hperm]
          exact hP
      | vanjects hlookup hperm =>
          rw [Server.lookup_setGame hlookup]
          split
          · rename_i hkey
            rw [hkey, hlookup] at hP
            exact hrehash _ _ hperm hP
          · exact hP
  exact hboth.2

/-- What every step of a game keeps holds of the game as long as it is there. -/
theorem Step.keepsGame {P : Game → Prop} {e : Option Event} {g g' : Game} (h : Step srv e srv')
    (hok : RegistryOk srv) (hk : srv.games.lookup k = some g) (hk' : srv'.games.lookup k = some g')
    (hstep : ∀ env packet c mid g g', Arises srv e env packet c mid → RegistryOk mid →
      mid.games.lookup k = some g → GameStep env packet c mid k g g' → P g → P g')
    (hmark : ∀ g c deadline, P g →
      P (g.modifyPlayer c fun p => { p with disconnectedUntil := deadline }))
    (hrehash : ∀ g vanjects, vanjects.entries.Perm g.vanjects.entries → P g → P { g with vanjects })
    (hP : P g) : P g' := by
  -- a game that has ended is not opened again in the same round
  have hkept : (∀ g, srv'.games.lookup k = some g → P g) ∧
      ((∃ env packet c mid, Arises srv e env packet c mid ∧ packet.action = .attachToGame) →
        srv'.games.lookup k ≠ none) := by
    refine h.keeps hok (P := fun o => (∀ g, o = some g → P g) ∧
      ((∃ env packet c mid, Arises srv e env packet c mid ∧ packet.action = .attachToGame) →
        o ≠ none)) ?_ ?_ ?_ ⟨fun g₀ hg => ?_, fun _ hnone => ?_⟩
    · rintro env packet c mid o harises hmid hfate ⟨hall, hattach⟩
      generalize hlookup : mid.games.lookup k = before at hfate hall hattach
      cases hfate with
      | missing => exact ⟨hall, hattach⟩
      | opened haction _ => exact absurd rfl (hattach ⟨env, packet, c, mid, harises, haction⟩)
      | kept hgs =>
          refine ⟨fun g₁ hg => ?_, fun _ => Option.some_ne_none _⟩
          cases hg
          exact hstep _ _ _ _ _ _ harises hmid hlookup hgs (hall _ rfl)
      | ended haction _ _ =>
          refine ⟨nofun, ?_⟩
          rintro ⟨env', packet', c', mid', harises', ha⟩
          rw [harises.packet_unique harises', haction] at ha
          cases ha
    · rintro g c deadline ⟨hall, -⟩
      refine ⟨fun g₁ hg => ?_, fun _ => Option.some_ne_none _⟩
      cases hg
      exact hmark g c deadline (hall g rfl)
    · rintro g vanjects hperm ⟨hall, -⟩
      refine ⟨fun g₁ hg => ?_, fun _ => Option.some_ne_none _⟩
      cases hg
      exact hrehash g vanjects hperm (hall g rfl)
    · cases hk.symm.trans hg
      exact hP
    · cases hk.symm.trans hnone
  exact hkept.1 g' hk'

/-- **What every step of a game keeps holds of every game**, when it holds of one that opens. -/
theorem ServerReachable.everyGame {P : Game → Prop} {g : Game} (h : ServerReachable srv)
    (hk : srv.games.lookup k = some g) (hopened : ∀ now c bind, P ((Game.new k now).joined c bind))
    (hstep : ∀ env packet c mid g g', GameOk g → GameStep env packet c mid k g g' → P g → P g')
    (hmark : ∀ g c deadline, P g →
      P (g.modifyPlayer c fun p => { p with disconnectedUntil := deadline }))
    (hrehash : ∀ g vanjects, vanjects.entries.Perm g.vanjects.entries → P g →
      P { g with vanjects }) : P g := by
  obtain ⟨start, hreach⟩ := h
  have hboth : RegistryOk srv ∧ ∀ g, srv.games.lookup k = some g → P g := by
    refine hreach.invariant (P := fun s => RegistryOk s ∧ ∀ g, s.games.lookup k = some g → P g)
      ⟨registryOk_new start, fun g hg => by simp [Server.new] at hg⟩ ?_
    rintro a e s hround ⟨hok, hall⟩
    refine ⟨hround.registryOk hok, hround.keeps hok (P := fun o => ∀ g, o = some g → P g)
      ?_ ?_ ?_ hall⟩
    · intro env packet c mid o _ hmid hfate hbefore g' hg'
      generalize hlookup : mid.games.lookup k = before at hfate hbefore
      cases hfate with
      | missing => cases hg'
      | opened _ _ =>
          cases hg'
          exact hopened _ _ _
      | ended _ _ _ => cases hg'
      | kept hgame =>
          cases hg'
          exact hstep _ _ _ _ _ _ (hmid.game k _ hlookup) hgame (hbefore _ rfl)
    · rintro g c deadline hbefore _ hg
      cases hg
      exact hmark g c deadline (hbefore g rfl)
    · rintro g vanjects hperm hbefore _ hg
      cases hg
      exact hrehash g vanjects hperm (hbefore g rfl)
  exact hboth.2 g hk

/-- A round that does not end the game. -/
def StaysStep (k : GameID) (srv : Server) (e : Option Event) (srv' : Server) : Prop :=
  Step srv e srv' ∧ k ∈ srv'.games

end

end VangersSrv
