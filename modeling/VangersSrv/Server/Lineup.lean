/-
What the players of a game are told of each other.

A client keeps a lineup: of every number the world its player stands in, whether it plays, and its
name.  `Packet.tells` is what a packet writes into it.  Only four requests change what a lineup shows,
and each of them tells the others; so a client that knows the lineup of its game goes on knowing it,
its own number apart, as long as it keeps its player and its connection.
-/
import VangersSrv.Server.Delivered
import VangersSrv.Server.Fates
import VangersSrv.Server.Recipients
import VangersSrv.Server.WorldReplica

namespace VangersSrv

open Replica

/-! ### Lineups -/

/-- What a client is told of a player. -/
inductive Trait
  | world
  | plays
  | name
  deriving DecidableEq, Repr

/-- What the server holds of it. -/
def Player.trait (p : Player) : Trait → Option Bytes
  | .world => some [p.worldId.getD 0]
  | .plays => some [if p.status = .gaming then 1 else 0]
  | .name => p.auth.map Auth.name

/-- What is shown of a number that no player has. -/
def Trait.blank : Trait → Option Bytes
  | .world | .plays => some [0]
  | .name => none

/-- The lineup of a game. -/
def Game.lineup (g : Game) : View (Trait × UInt8) Bytes := fun k =>
  match g.players.find? fun p => p.bindId = some k.2 with
  | some p => p.trait k.1
  | none => k.1.blank

/-- What a packet says of a player. -/
def Packet.tells (p : Packet) : Write (Trait × UInt8) Bytes :=
  match p.action, p.data with
  | .playersWorld, [b, w] => .put (.world, b) [w]
  | .playersStatus, [b, status] => .put (.plays, b) [if status = Status.gaming.toU8 then 1 else 0]
  | .playersName, b :: name => .put (.name, b) name
  | _, _ => .skip

/-- What the packets sent on an occasion say to one client. -/
def saidTo (x : ClientID) (sent : List Sent) : Write (Trait × UInt8) Bytes :=
  Write.all ((packetsTo x sent).map Packet.tells)

/-- The packets that say something of a player. -/
def lineupKinds : List Action := [.playersWorld, .playersStatus, .playersName]

/-- The requests that change what a lineup shows. -/
def lineupRequests : List Action := [.registerName, .setWorld, .leaveWorld, .closeSocket]

section

variable {env : Env} {packet p : Packet} {c x : ClientID} {srv srv' : Server} {sent sent' : List Sent}
  {key k : GameID} {game game' g g' : Game} {player q : Player} {b bind : UInt8} {t : Trait}
  {name : Bytes}

/-! ### What packets say -/

theorem tells_of_kind (h : p.action ∉ lineupKinds) : p.tells = .skip := by
  unfold Packet.tells
  simp only [lineupKinds, List.mem_cons, List.not_mem_nil, or_false, not_or] at h
  obtain ⟨hworld, hstatus, hname⟩ := h
  split <;> first | contradiction | rfl

theorem tells_playersWorld {w : UInt8} (h : Packet.new .playersWorld [b, w] = some p) :
    p.tells = .put (.world, b) [w] := by
  obtain ⟨haction, hdata, -⟩ := Packet.new_eq_some h
  simp [Packet.tells, haction, hdata]

theorem tells_playersStatus {status : Status} (h : Packet.new .playersStatus [b, status.toU8] = some p) :
    p.tells = .put (.plays, b) [if status = .gaming then 1 else 0] := by
  obtain ⟨haction, hdata, -⟩ := Packet.new_eq_some h
  cases status <;> simp [Packet.tells, haction, hdata, Status.toU8]

theorem tells_playersName (haction : packet.action = .registerName)
    (h : packet.createAnswer ([b] ++ name) = some p) : p.tells = .put (.name, b) name := by
  obtain ⟨hkind, hdata, -⟩ := Packet.createAnswer_eq_some h
  rw [haction] at hkind
  have haction' : p.action = .playersName := (Option.some.inj hkind).symm
  simp [Packet.tells, haction', hdata]

@[simp] theorem saidTo_nil : saidTo x [] = .skip := rfl

theorem saidTo_append : saidTo x (sent ++ sent') = (saidTo x sent).andThen (saidTo x sent') := by
  simp [saidTo, packetsTo, Write.all_append]

theorem saidTo_of_kinds (h : ∀ s ∈ sent, s.packet.action ∉ lineupKinds) : saidTo x sent = .skip := by
  refine Write.all_eq_skip fun w hw => ?_
  obtain ⟨q, hq, rfl⟩ := List.mem_map.mp hw
  obtain ⟨s, hs, -, rfl⟩ := mem_packetsTo.mp hq
  exact tells_of_kind (h s hs)

/-- A connection gets a packet as often as it is registered, which is no matter. -/
theorem saidTo_of_packetsTo (hx : x ∈ srv.connected)
    (h : packetsTo x sent = srv.toConnections x [p]) : saidTo x sent = p.tells := by
  have hall : ∀ w ∈ (packetsTo x sent).map Packet.tells, w = p.tells := by
    intro w hw
    obtain ⟨q, hq, rfl⟩ := List.mem_map.mp hw
    rw [h, Server.toConnections, List.flatMap_singleton] at hq
    rw [List.eq_of_mem_replicate hq]
  rw [saidTo, Write.all_eq_of_forall hall, if_neg]
  rw [h, List.map_eq_nil_iff, toConnections_eq_nil]
  simp [hx]

theorem saidTo_notifyGame (hgame : srv.getGameByClientid c = some (key, game))
    (hx : x ∈ srv.connected) :
    saidTo x (srv.notifyGame c p) = if x ∈ game.clientIds ∧ x ≠ c then p.tells else .skip := by
  have hpackets : packetsTo x (srv.notifyGame c p) = _ := packetsTo_notifyGame hgame
  split
  · rename_i h
    rw [if_pos h] at hpackets
    exact saidTo_of_packetsTo hx hpackets
  · rename_i h
    rw [if_neg h] at hpackets
    rw [saidTo, hpackets]
    rfl

theorem saidTo_notifyAll (hgame : srv.getGameByClientid c = some (key, game))
    (hx : x ∈ srv.connected) :
    saidTo x (srv.notifyAll c p) = if x ∈ game.clientIds then p.tells else .skip := by
  have hpackets : packetsTo x (srv.notifyAll c p) = _ := packetsTo_notifyAll hgame
  split
  · rename_i h
    rw [if_pos h] at hpackets
    exact saidTo_of_packetsTo hx hpackets
  · rename_i h
    rw [if_neg h] at hpackets
    rw [saidTo, hpackets]
    rfl

/-! ### Lineups after a write -/

namespace Game

theorem lineup_of_mem (hok : g.bindIds.Nodup) (hq : q ∈ g.players) (hb : q.bindId = some b) :
    g.lineup (t, b) = q.trait t := by
  have hfind : g.players.find? (fun p => p.bindId = some b) = some q := by
    cases hfound : g.players.find? fun p => p.bindId = some b with
    | none => exact absurd hb (by simpa using List.find?_eq_none.mp hfound q hq)
    | some p =>
        have hp : p.bindId = some b := by simpa using List.find?_some hfound
        rw [List.inj_on_of_nodup_map hok (List.mem_of_find?_eq_some hfound) hq (hp.trans hb.symm)]
  unfold lineup
  rw [hfind]

/-- A lineup depends on the numbers and the traits alone. -/
theorem lineup_congr (h : g'.players.map (fun p => (p.bindId, p.trait))
      = g.players.map fun p => (p.bindId, p.trait)) : g'.lineup = g.lineup := by
  have hread : ∀ (l : List Player) (k : Trait × UInt8),
      (match l.find? fun p => p.bindId = some k.2 with
        | some p => p.trait k.1
        | none => k.1.blank)
      = match (l.map fun p => (p.bindId, p.trait)).find? fun e => e.1 = some k.2 with
        | some e => e.2 k.1
        | none => k.1.blank := by
    intro l k
    rw [List.find?_map]
    cases hfind : l.find? fun p => p.bindId = some k.2 with
    | none => simp [hfind]
    | some p => simp [hfind]
  funext k
  unfold lineup
  rw [hread, hread, h]

/-- A change of one player shows at its number only. -/
theorem lineup_modifyPlayer {f : Player → Player} (hplayer : g.getPlayer c = some player)
    (hbound : player.bindId = some b) (hbind : (f player).bindId = player.bindId)
    {k : Trait × UInt8} (hk : k.2 ≠ b) : (g.modifyPlayer c f).lineup k = g.lineup k := by
  obtain ⟨l₁, l₂, hl, -, -, hmod⟩ := List.modifyFirst_split (f := f) hplayer
  have hplayers : (g.modifyPlayer c f).players = l₁ ++ f player :: l₂ := hmod
  unfold lineup
  rw [hplayers, hl]
  simp [List.find?_append, hbind, hbound, Ne.symm hk]

/-- Who joins shows what nobody shows. -/
theorem lineup_joined {bind : Bind} : (g.joined c bind).lineup = g.lineup := by
  funext k
  unfold lineup
  have hplayers : (g.joined c bind).players = g.players ++ [{ Player.new c with bind := some bind }] := rfl
  rw [hplayers, List.find?_append]
  cases hfind : g.players.find? fun p => p.bindId = some k.2 with
  | some p => rfl
  | none =>
      obtain ⟨t, b⟩ := k
      by_cases hb : bind.id = b
      · cases t <;> simp [Player.bindId, hb, Player.trait, Player.new, Player.worldId, Trait.blank]
      · simp [Player.bindId, hb]

/-- Who leaves the game takes its number with it. -/
theorem lineup_closed (hplayer : g.getPlayer c = some player) (hbound : player.bindId = some b)
    (hids : g.clientIds.Nodup) (hok : g.bindIds.Nodup) {k : Trait × UInt8} :
    (g.closed c player).lineup k = if k.2 = b then k.1.blank else g.lineup k := by
  have hmem := getPlayer_mem hplayer
  have hclient := getPlayer_clientId hplayer
  -- the connection has no other player
  have hsole : ∀ q ∈ g.players, q.clientId = c ↔ q.bindId = some b := by
    intro q hq
    constructor
    · intro hc
      rw [List.inj_on_of_nodup_map hids hq hmem (hc.trans hclient.symm)]
      exact hbound
    · intro hb
      rw [List.inj_on_of_nodup_map hok hq hmem (hb.trans hbound.symm)]
      exact hclient
  have hplayers : (g.closed c player).players = g.players.filter fun p => p.clientId ≠ c := rfl
  unfold lineup
  rw [hplayers, List.find?_filter]
  by_cases hk : k.2 = b
  · rw [if_pos hk, List.find?_eq_none.mpr]
    intro q hq
    simp only [decide_eq_true_eq, not_and, hk]
    exact fun hne hb => hne ((hsole q hq).mpr hb)
  · rw [if_neg hk]
    congr 1
    refine List.find?_congr fun q hq => ?_
    by_cases hb : q.bindId = some k.2
    · have hne : q.clientId ≠ c := fun hc => by
        have hsame := (hsole q hq).mp hc
        rw [hb] at hsame
        exact hk (Option.some.inj hsame)
      simp [hb, hne]
    · simp [hb]

end Game

end

/-! ### Who is told -/

/-- A connection holds the player with a number in a game. -/
structure Holds (srv : Server) (x : ClientID) (k : GameID) (g : Game) (b : UInt8) : Prop where
  inGame : srv.games.lookup k = some g
  player : ∃ p ∈ g.players, p.clientId = x ∧ p.bindId = some b

/-- What a lineup shows of the others. -/
def Others (b : UInt8) (k : Trait × UInt8) : Prop := k.2 ≠ b

/-- A client has the others right: of every player but the one with its own number the world, whether
it plays and its name, and of a number without a player that it stands nowhere and does not play. -/
structure ShowsOthers (g : Game) (b : UInt8) (known : View (Trait × UInt8) Bytes) : Prop where
  world : ∀ q ∈ g.players, ∀ b', q.bindId = some b' → b' ≠ b →
    known (.world, b') = some [q.worldId.getD 0]
  plays : ∀ q ∈ g.players, ∀ b', q.bindId = some b' → b' ≠ b →
    known (.plays, b') = some [if q.status = .gaming then 1 else 0]
  name : ∀ q ∈ g.players, ∀ b', q.bindId = some b' → b' ≠ b → ∀ auth, q.auth = some auth →
    known (.name, b') = some auth.name
  nobody : ∀ b', b' ≠ b → (∀ q ∈ g.players, q.bindId ≠ some b') →
    known (.world, b') = some [0] ∧ known (.plays, b') = some [0]

/-- Whoever holds a player held it before, and was told what happened to the lineup. -/
def Informed (x : ClientID) (srv : Server) (sent : List Sent) (srv' : Server) : Prop :=
  ∀ k g' b, Holds srv' x k g' b → ∃ g, Holds srv x k g b ∧
    Tells (Others b) g.lineup g'.lineup (saidTo x sent)

section

variable {env : Env} {packet p : Packet} {c x : ClientID} {srv srv' mid : Server}
  {sent sent' s₁ s₂ : List Sent} {key k : GameID} {game game' g g' : Game} {player q : Player}
  {b bind : UInt8} {t : Trait} {r left : Reply}

namespace Informed

theorem trans (h : Informed x srv s₁ mid) (h' : Informed x mid s₂ srv') :
    Informed x srv (s₁ ++ s₂) srv' := by
  intro k g' b hin
  obtain ⟨g₁, hmid, ht'⟩ := h' k g' b hin
  obtain ⟨g, hold, ht⟩ := h k g₁ b hmid
  refine ⟨g, hold, ?_⟩
  rw [saidTo_append]
  exact ht.trans ht'

/-- Nothing happened and nothing was said. -/
theorem still : Informed x srv [] srv := fun _ g _ hin => ⟨g, hin, .refl fun _ _ => rfl⟩

/-- One game is written back: who is not in it hears nothing. -/
theorem setGame (hone : OneHolder srv) (hlookup : srv.games.lookup key = some game)
    (hout : x ∉ game.clientIds → saidTo x sent = .skip)
    (hin : ∀ b, (∃ p ∈ game'.players, p.clientId = x ∧ p.bindId = some b) →
      (∃ p ∈ game.players, p.clientId = x ∧ p.bindId = some b) ∧
        Tells (Others b) game.lineup game'.lineup (saidTo x sent)) :
    Informed x srv sent (srv.setGame key game') := by
  rintro k g' b ⟨hk, hplayer⟩
  by_cases hkey : k = key
  · subst hkey
    rw [Server.lookup_setGame_self hlookup] at hk
    cases hk
    obtain ⟨hbefore, ht⟩ := hin b hplayer
    exact ⟨game, ⟨hlookup, hbefore⟩, ht⟩
  · rw [Server.lookup_setGame_of_ne hkey] at hk
    refine ⟨g', ⟨hk, hplayer⟩, ?_⟩
    obtain ⟨p, hp, hc, -⟩ := hplayer
    rw [hout fun hx => hone.apart k key g' game hk hlookup hkey (List.mem_map.mpr ⟨p, hp, hc⟩) hx]
    exact .refl fun _ _ => rfl

/-- One player changed, and the others were told of what they are shown of it. -/
theorem change {f : Player → Player} (hone : OneHolder srv) (hok : RegistryOk srv)
    (hacting : Acting srv c key game player bind)
    (hplayers : game'.players = (game.modifyPlayer c f).players)
    (hclient : (f player).clientId = player.clientId) (hbind : (f player).bind = player.bind)
    (hout : x ∉ game.clientIds → saidTo x sent = .skip)
    (hapart : ∀ k, k.2 ≠ bind → saidTo x sent k = none)
    (htold : x ≠ c → x ∈ game.clientIds → ∀ t v, (f player).trait t = some v →
      saidTo x sent (t, bind) = some (some v) ∨
        saidTo x sent (t, bind) = none ∧ player.trait t = some v) :
    Informed x srv sent (srv.setGame key game') := by
  have hlookup := Server.getGameByClientid_lookup hacting.inGame
  have hgame := hok.game _ _ hlookup
  have hmem := Game.getPlayer_mem hacting.found
  have hbindId : (f player).bindId = player.bindId := by rw [Player.bindId, hbind, Player.bindId]
  have hbound : (f player).bindId = some bind := hbindId.trans hacting.bound
  have hlineup : game'.lineup = (game.modifyPlayer c f).lineup :=
    Game.lineup_congr (by rw [hplayers])
  refine setGame hone hlookup hout fun b hheld => ?_
  -- who holds a player held it before
  have hbefore : ∃ p ∈ game.players, p.clientId = x ∧ p.bindId = some b := by
    obtain ⟨p', hp', hc, hb⟩ := hheld
    rw [hplayers] at hp'
    rcases List.mem_modifyFirst hp' with hold | ⟨p, hp, rfl⟩
    · exact ⟨p', hold, hc, hb⟩
    · obtain rfl := Option.some.inj (hp.symm.trans hacting.found)
      exact ⟨p, hmem, hclient.symm.trans hc, hbindId.symm.trans hb⟩
  refine ⟨hbefore, ?_⟩
  obtain ⟨p, hp, hc, hb⟩ := hbefore
  rw [hlineup]
  rintro ⟨t, b'⟩ v hother hv
  by_cases hnumber : b' = bind
  · subst hnumber
    have hne : x ≠ c := by
      rintro rfl
      -- a client id names one player
      have hsame := (hone.unique hlookup hp hlookup hmem
        (hc.trans (Game.getPlayer_clientId hacting.found).symm)).2.2
      rw [hsame, hacting.bound] at hb
      exact hother (Option.some.inj hb)
    have hnodup : (game.modifyPlayer c f).bindIds.Nodup := by
      have hids : (game.modifyPlayer c f).bindIds = game.bindIds :=
        List.map_modifyFirst fun a ha => by
          rw [Option.some.inj (ha.symm.trans hacting.found), hbindId]
      rw [hids]
      exact hgame.distinct
    have hmem' : f player ∈ (game.modifyPlayer c f).players :=
      Game.getPlayer_mem (Game.getPlayer_modifyPlayer hacting.found hclient)
    rw [Game.lineup_of_mem hnodup hmem' hbound] at hv
    rw [Game.lineup_of_mem hgame.distinct hmem hacting.bound]
    exact htold hne (List.mem_map.mpr ⟨p, hp, hc⟩) t v hv
  · rw [Game.lineup_modifyPlayer hacting.found hacting.bound hbindId hnumber] at hv
    exact Or.inr ⟨hapart _ hnumber, hv⟩

end Informed

/-- The players of a game keep their connections when one of them changes. -/
theorem clientIds_change {f : Player → Player} (hplayer : game.getPlayer c = some player)
    (hclient : (f player).clientId = player.clientId) :
    (game.modifyPlayer c f).clientIds = game.clientIds :=
  Game.clientIds_modifyPlayer fun a ha => by
    rw [Option.some.inj (ha.symm.trans hplayer), hclient]

/-! ### Names -/

theorem registerName_informed (haction : packet.action = .registerName)
    (h : srv.registerName env packet c = some r) (hok : RegistryOk srv) (hone : OneHolder srv)
    (hx : x ∈ srv.connected) : Informed x srv r.sent r.srv := by
  rcases registerName_cases h with ⟨err, hfail⟩ |
    ⟨key, game, player, bind, login, pwd, answer, hacting, hdata, hanswer, h⟩
  · obtain rfl := Server.fail_eq_some hfail
    exact .still
  obtain rfl := Server.complete_eq_some h
  set named : Player := { player with auth := some (Auth.new env.randomName (withNul login)) } with hnamed
  have hgame : (srv.setGame key (game.modifyPlayer c fun _ => named)).getGameByClientid c
      = some (key, game.modifyPlayer c fun _ => named) :=
    Server.getGameByClientid_setGame hacting.inGame ⟨_, Game.getPlayer_modifyPlayer hacting.found rfl⟩
  have hids := clientIds_change (f := fun _ => named) hacting.found rfl
  have hsaid := saidTo_notifyGame (x := x) (p := answer) hgame hx
  rw [hids, tells_playersName haction hanswer] at hsaid
  refine .change hone hok hacting rfl rfl rfl ?_ ?_ ?_
  · intro hout
    rw [hsaid, if_neg fun h => hout h.1]
  · intro k hk
    rw [hsaid]
    split
    · simp only [Write.put]
      exact if_neg fun heq => hk (congrArg Prod.snd heq)
    · rfl
  · intro hne hin t v hv
    rw [hsaid, if_pos ⟨hin, hne⟩]
    cases t with
    | name =>
        left
        have hname : (Auth.new env.randomName (withNul login)).name = withNul login := by
          simp [Auth.new, withNul]
        simp only [Player.trait, hnamed, Option.map_some, Option.some.injEq, hname] at hv
        simp [Write.put, hv]
    | world => exact Or.inr ⟨by simp [Write.put], hv⟩
    | plays => exact Or.inr ⟨by simp [Write.put], hv⟩

/-! ### Leaving a world -/

theorem leaveWorld_informed (h : srv.leaveWorld env c = some r) (hok : RegistryOk srv)
    (hone : OneHolder srv) (hx : x ∈ srv.connected) : Informed x srv r.sent r.srv := by
  rcases leaveWorld_cases h with ⟨err, hfail⟩ | ⟨key, game, player, bind, world, deletes,
    playersWorld, hacting, hworld, hdeletes, hpacket, rfl⟩
  · obtain rfl := Server.fail_eq_some hfail
    exact .still
  have hgame := hacting.left.inGame
  have hids : (game.left c bind).clientIds = game.clientIds :=
    clientIds_change (f := fun p => { p with world := none }) hacting.found rfl
  have hsaid : saidTo x ((env.drain deletes).flatMap (fun e =>
        (srv.setGame key (game.left c bind)).notifyGame c e.2)
      ++ (srv.setGame key (game.left c bind)).notifyGame c playersWorld)
      = if x ∈ game.clientIds ∧ x ≠ c then .put (.world, bind) [0] else .skip := by
    rw [saidTo_append, saidTo_of_kinds, Write.skip_andThen, saidTo_notifyGame hgame hx, hids,
      tells_playersWorld hpacket]
    intro s hs
    obtain ⟨e, he, hs⟩ := List.mem_flatMap.mp hs
    obtain ⟨v, -, -, hdelete⟩ := leaveDeletes_packet hdeletes ((env.drain_perm deletes).mem_iff.mp he)
    rw [Server.notify_packet hs, (Packet.new_eq_some hdelete).1]
    decide
  refine .change (f := fun p => { p with world := none }) hone hok hacting rfl rfl rfl ?_ ?_ ?_
  · intro hout
    rw [hsaid, if_neg fun h => hout h.1]
  · intro k hk
    rw [hsaid]
    split
    · exact if_neg fun heq => hk (congrArg Prod.snd heq)
    · rfl
  · intro hne hin t v hv
    rw [hsaid, if_pos ⟨hin, hne⟩]
    cases t with
    | world =>
        simp only [Player.trait, Player.worldId, Option.map_none, Option.getD_none,
          Option.some.injEq] at hv
        exact Or.inl (by simp [Write.put, hv])
    | plays => exact Or.inr ⟨by simp [Write.put], hv⟩
    | name => exact Or.inr ⟨by simp [Write.put], hv⟩

/-- Leaving a world keeps the registry, the holders and the clients. -/
theorem leaveWorld_keeps (h : srv.leaveWorld env c = some r) (hok : RegistryOk srv)
    (hone : OneHolder srv) : RegistryOk r.srv ∧ OneHolder r.srv ∧ r.srv.connected = srv.connected := by
  have hh : Handled env (request .leaveWorld []) c srv r.sent r.srv := (leaveWorld_sound rfl h).handled
  exact ⟨hok.handled hh, hone.handled hh hok (.of_action (by decide)), (Posted.leaveWorld h).2⟩

/-- Who still acts stands in no world. -/
theorem leaveWorld_outside (h : srv.leaveWorld env c = some r)
    (hacting : Acting r.srv c key game player bind) : player.world = none := by
  rcases leaveWorld_cases h with ⟨err, hfail⟩ | ⟨key', game', player', bind', world, deletes,
    playersWorld, hbefore, -, -, -, rfl⟩
  · obtain rfl := Server.fail_eq_some hfail
    rcases leaveWorld_acting hacting h with ⟨hworld, -, -⟩ | ⟨-, hres, -⟩
    · exact hworld
    · cases hres
  · obtain ⟨-, -, rfl, -⟩ := hbefore.left.unique hacting
    rfl

/-! ### Entering a world -/

/-- What entering a world says to the others: that the player plays, if it did not before, and where. -/
theorem enterWorld_informed {worldId : UInt8} {ySize : I16} (haction : packet.action = .setWorld)
    (h : srv.enterWorld packet c worldId ySize = some r) (hok : RegistryOk srv) (hone : OneHolder srv)
    (hx : x ∈ srv.connected) : Informed x srv r.sent r.srv := by
  rcases enterWorld_outcome h with ⟨err, s, hfail, hs⟩ |
    ⟨key, game, player, bind, worlds, world, snapshot, changed, status, playersWorld, worldStatus,
      response, snapshotBegin, playersSnapshot, snapshotEnd, hacting, rfl, -, hsnapshot, hstatus, hpw,
      hresponse, hbegin, hplayers, hend, hchanged, rfl⟩
  · obtain rfl := Server.fail_eq_some hfail
    rcases hs with rfl | ⟨key, game, player, world, hgame, hplayer, hunbound, -, -⟩
    · exact .still
    · -- every player has a number
      obtain ⟨b, hb, -⟩ := (hok.game _ _ (Server.getGameByClientid_lookup hgame)).bound _
        (Game.getPlayer_mem hplayer)
      rw [hunbound] at hb
      cases hb
  set placed : Player → Player := fun p => { p with world := some world, status := .gaming } with hplaced
  have hgame : (srv.setGame key (game.entered c worlds world)).getGameByClientid c
      = some (key, game.entered c worlds world) :=
    Server.getGameByClientid_setGame hacting.inGame
      ⟨_, Game.getPlayer_modifyPlayer (f := placed) hacting.found rfl⟩
  have hids : (game.entered c worlds world).clientIds = game.clientIds :=
    clientIds_change (f := placed) hacting.found rfl
  -- the answer and the snapshot say nothing of this kind
  have hquiet : saidTo x (([response, snapshotBegin, playersSnapshot] ++ snapshot ++ [snapshotEnd]).flatMap
      ((srv.setGame key (game.entered c worlds world)).notifyPlayer c)) = .skip := by
    have hmailed : Mailed (srv.setGame key (game.entered c worlds world)) [.setWorldResponse,
        .worldSnapshotBegin, .totalListOfPlayersData, .updateObject, .itemState, .worldSnapshotEnd]
        (([response, snapshotBegin, playersSnapshot] ++ snapshot ++ [snapshotEnd]).flatMap
          ((srv.setGame key (game.entered c worlds world)).notifyPlayer c)) := by
      refine .notifyPlayers fun p hp => ?_
      simp only [List.mem_append, List.mem_cons, List.not_mem_nil, or_false] at hp
      rcases hp with ((rfl | rfl | rfl) | hp) | rfl
      · exact .of_createAnswer haction hresponse (by decide)
      · exact .of_new hbegin (by decide)
      · exact .of_new hplayers (by decide)
      · obtain ⟨v, -, hv⟩ := (mem_mapM hsnapshot).mp hp
        exact .of_statePacket hv (by decide) (by decide)
      · exact .of_new hend (by decide)
    refine saidTo_of_kinds fun s hs => ?_
    have hkind := (hmailed s hs).2.kind
    generalize s.packet.action = kind at hkind
    revert kind
    decide
  have hsaid : saidTo x ((if changed = true then
          (srv.setGame key (game.entered c worlds world)).notifyAll c status else [])
        ++ (srv.setGame key (game.entered c worlds world)).notifyGame c playersWorld
        ++ ([response, snapshotBegin, playersSnapshot] ++ snapshot ++ [snapshotEnd]).flatMap
            ((srv.setGame key (game.entered c worlds world)).notifyPlayer c))
      = (if player.status ≠ .gaming ∧ x ∈ game.clientIds then
          Write.put (.plays, bind) [1] else .skip).andThen
        (if x ∈ game.clientIds ∧ x ≠ c then .put (.world, bind) [world.id] else .skip) := by
    rw [saidTo_append, saidTo_append, hquiet, Write.andThen_skip, saidTo_notifyGame hgame hx, hids,
      tells_playersWorld hpw]
    congr 1
    by_cases hstatus' : player.status = .gaming
    · simp [hchanged, hstatus']
    · simp only [hchanged, hstatus', ne_eq, not_false_eq_true, decide_true, if_true, true_and,
        saidTo_notifyAll hgame hx, hids, tells_playersStatus hstatus]
  refine .change (f := placed) hone hok hacting rfl rfl rfl ?_ ?_ ?_
  · intro hout
    rw [hsaid, if_neg fun h => hout h.2, if_neg fun h => hout h.1, Write.skip_andThen]
  · rintro ⟨t, b⟩ hk
    rw [hsaid]
    have hne : ∀ t', ¬ ((t, b) : Trait × UInt8) = (t', bind) := fun t' heq => hk (congrArg Prod.snd heq)
    unfold Write.andThen
    split <;> split <;> simp [Write.put, Write.skip, hne]
  · intro hne hin t v hv
    have hother : x ∈ game.clientIds ∧ x ≠ c := ⟨hin, hne⟩
    rw [hsaid, if_pos hother]
    cases t with
    | world =>
        simp only [Player.trait, hplaced, Player.worldId, Option.map_some, Option.getD_some,
          Option.some.injEq] at hv
        exact Or.inl (by simp [Write.andThen, Write.put, hv])
    | plays =>
        simp only [Player.trait, hplaced, if_true, Option.some.injEq] at hv
        by_cases hstatus' : player.status = .gaming
        · rw [if_neg fun h => h.1 hstatus']
          exact Or.inr ⟨by simp [Write.put], by simp [Player.trait, hstatus', hv]⟩
        · rw [if_pos ⟨hstatus', hin⟩]
          exact Or.inl (by simp [Write.andThen, Write.put, hv])
    | name =>
        refine Or.inr ⟨?_, hv⟩
        split <;> simp [Write.andThen, Write.put, Write.skip]

theorem setWorld_informed (haction : packet.action = .setWorld) (h : srv.setWorld env packet c = some r)
    (hok : RegistryOk srv) (hone : OneHolder srv) (hx : x ∈ srv.connected) :
    Informed x srv r.sent r.srv := by
  obtain ⟨worldId, ySize, -, -, ⟨-, h⟩ | ⟨-, left, hleft, ⟨rfl, -⟩ |
    ⟨ok, entered, -, hentered, rfl⟩⟩⟩ := setWorld_cases h
  · exact enterWorld_informed haction h hok hone hx
  · exact leaveWorld_informed hleft hok hone hx
  · obtain ⟨hok₁, hone₁, hconnected⟩ := leaveWorld_keeps hleft hok hone
    exact (leaveWorld_informed hleft hok hone hx).trans
      (enterWorld_informed haction hentered hok₁ hone₁ (hconnected ▸ hx))

/-! ### Closing a socket -/

/-- The others are told that a player that was in the game has finished. -/
theorem closeLeft_sent (hacting : Acting srv c key game player bind) (h : srv.closeLeft c = some r) :
    (player.status ≠ .gaming ∧ r.sent = []) ∨
      ∃ finished, player.status = .gaming ∧
        Packet.new .playersStatus [bind, Status.finished.toU8] = some finished ∧
        r.sent = (srv.setGame key (game.finish c (finishPlayer player))).notifyGame c finished := by
  unfold Server.closeLeft at h
  simp only [hacting.inGame, hacting.found, hacting.bound, Option.bind_eq_bind, Option.bind_some,
    Option.bind_eq_some_iff] at h
  obtain ⟨sent, hsent, srv₂, -, h⟩ := h
  obtain rfl := Server.complete_eq_some h
  unfold Server.announceFinished at hsent
  split at hsent
  · rename_i hstatus
    obtain ⟨finished, hfinished, rfl⟩ := Option.map_eq_some_iff.mp hsent
    exact Or.inr ⟨finished, hstatus, hfinished, rfl⟩
  · rename_i hstatus
    exact Or.inl ⟨hstatus, (Option.some.inj hsent).symm⟩

theorem closeLeft_informed (h : srv.closeLeft c = some r) (hok : RegistryOk srv)
    (hone : OneHolder srv) (hx : x ∈ srv.connected)
    (houtside : ∀ key game player bind, Acting srv c key game player bind → player.world = none) :
    Informed x srv r.sent r.srv := by
  rcases closeLeft_cases h with ⟨-, -, hsrv, hsent⟩ |
    ⟨key, game, player, bind, hacting, -, -, hclosed⟩
  · rw [hsrv, hsent]
    exact .still
  have hlookup := Server.getGameByClientid_lookup hacting.inGame
  have hgameOk := hok.game _ _ hlookup
  have hmem := Game.getPlayer_mem hacting.found
  have hclient := Game.getPlayer_clientId hacting.found
  have hworld := houtside key game player bind hacting
  have hgame : (srv.setGame key (game.finish c (finishPlayer player))).getGameByClientid c
      = some (key, game.finish c (finishPlayer player)) :=
    Server.getGameByClientid_setGame hacting.inGame
      ⟨_, Game.getPlayer_modifyPlayer (f := fun _ => finishPlayer player) hacting.found rfl⟩
  have hids : (game.finish c (finishPlayer player)).clientIds = game.clientIds :=
    clientIds_change (f := fun _ => finishPlayer player) hacting.found rfl
  have hsaid : saidTo x r.sent = if player.status = .gaming ∧ x ∈ game.clientIds ∧ x ≠ c then
      .put (.plays, bind) [0] else .skip := by
    rcases closeLeft_sent hacting h with ⟨hstatus, hsent⟩ | ⟨finished, hstatus, hfinished, hsent⟩
    · rw [hsent, if_neg fun h => hstatus h.1]
      rfl
    · rw [hsent, saidTo_notifyGame hgame hx, hids, tells_playersStatus hfinished]
      simp [hstatus]
  -- who is left held its player before, and it is another one
  have hleft : ∀ {b}, (∃ p ∈ (game.closed c player).players, p.clientId = x ∧ p.bindId = some b) →
      x ≠ c ∧ x ∈ game.clientIds ∧ ∃ p ∈ game.players, p.clientId = x ∧ p.bindId = some b := by
    rintro b ⟨p, hp, hc, hb⟩
    obtain ⟨hp, hne⟩ := List.mem_filter.mp hp
    exact ⟨by simpa [hc] using hne, List.mem_map.mpr ⟨p, hp, hc⟩, p, hp, hc, hb⟩
  have hset : Informed x srv r.sent (srv.setGame key (game.closed c player)) := by
    refine .setGame hone hlookup (fun hout => by rw [hsaid, if_neg fun h => hout h.2.1]) ?_
    intro b hheld
    obtain ⟨hne, hin, hbefore⟩ := hleft hheld
    refine ⟨hbefore, ?_⟩
    rintro ⟨t, b'⟩ v - hv
    rw [Game.lineup_closed hacting.found hacting.bound (hone.inGame _ _ hlookup) hgameOk.distinct] at hv
    rw [hsaid]
    by_cases hnumber : b' = bind
    · subst hnumber
      rw [if_pos rfl] at hv
      rw [Game.lineup_of_mem hgameOk.distinct hmem hacting.bound]
      cases t with
      | world =>
          refine Or.inr ⟨?_, ?_⟩
          · split
            · simp [Write.put]
            · rfl
          · simpa [Player.trait, Player.worldId, hworld, Trait.blank] using hv
      | plays =>
          by_cases hstatus : player.status = .gaming
          · rw [if_pos ⟨hstatus, hin, hne⟩]
            simp only [Trait.blank, Option.some.injEq] at hv
            exact Or.inl (by simp [Write.put, hv])
          · rw [if_neg fun h => hstatus h.1]
            refine Or.inr ⟨rfl, ?_⟩
            simpa [Player.trait, hstatus, Trait.blank] using hv
      | name => cases hv
    · rw [if_neg hnumber] at hv
      refine Or.inr ⟨?_, hv⟩
      split
      · exact if_neg fun heq => hnumber (congrArg Prod.snd heq)
      · rfl
  rcases hclosed with ⟨hempty, hsrv⟩ | ⟨-, hsrv⟩
  · -- the game goes, and nobody is left in it
    rintro k g' b ⟨hk, hplayer⟩
    rw [hsrv] at hk
    replace hk : ((srv.games.replace key (game.closed c player)).erase game.id).lookup k = some g' := hk
    rw [hok.keyed _ _ hlookup, AList.lookup_erase'] at hk
    split at hk
    · cases hk
    · rename_i hkey
      exact hset k g' b ⟨hk, hplayer⟩
  · rw [hsrv]
    exact hset

theorem closeSocket_informed (h : srv.closeSocket env c = some r) (hok : RegistryOk srv)
    (hone : OneHolder srv) (hx : x ∈ srv.connected) : Informed x srv r.sent r.srv := by
  obtain ⟨left, hleft, hcases⟩ := closeSocket_cases h
  have hfirst := leaveWorld_informed hleft hok hone hx
  obtain ⟨hok₁, hone₁, hconnected⟩ := leaveWorld_keeps hleft hok hone
  rcases hcases with ⟨closed, hclosed, rfl⟩ | ⟨rfl, -⟩
  · exact hfirst.trans (closeLeft_informed hclosed hok₁ hone₁ (hconnected ▸ hx)
      fun _ _ _ _ hacting => leaveWorld_outside hleft hacting)
  · exact hfirst

/-- Closing sockets is told like one request after the other. -/
theorem closeAll_informed {ids : List ClientID} (h : srv.closeAll env ids = some (srv', sent))
    (hok : RegistryOk srv) (hone : OneHolder srv) (hx : x ∈ srv'.connected) :
    Informed x srv sent srv' := by
  induction ids generalizing srv sent with
  | nil =>
      simp only [Server.closeAll, Option.some.injEq, Prod.mk.injEq] at h
      obtain ⟨rfl, rfl⟩ := h
      exact .still
  | cons c rest ih =>
      simp only [Server.closeAll, Option.bind_eq_bind, Option.bind_eq_some_iff, Option.some.injEq,
        Prod.mk.injEq] at h
      obtain ⟨closed, hclosed, ⟨last, s⟩, hrest, rfl, rfl⟩ := h
      have hh : Handled env closePacket c srv closed.sent closed.srv :=
        (closeSocket_sound rfl hclosed).handled
      have hmid := (closeAll_clients hrest).sub x hx
      exact (closeSocket_informed hclosed hok hone (hh.clients.sub x hmid)).trans
        (ih hrest (hok.handled hh) (hone.handled hh hok (.of_action (by decide))))

/-! ### Requests -/

/-- The requests that change a lineup are not answered to the one that makes them. -/
theorem lineupRequest_unanswered (haction : packet.action ∈ lineupRequests)
    (h : srv.handle env packet c = some r) : ∀ p, r.result ≠ .ok (.response p) := by
  have failed : ∀ {s : Server} {err : OnUpdateError} {r : Reply}, s.fail err = some r →
      ∀ p, r.result ≠ .ok (.response p) := by
    intro s err r hfail p
    obtain rfl := Server.fail_eq_some hfail
    simp
  have left : ∀ {r : Reply}, srv.leaveWorld env c = some r → ∀ p, r.result ≠ .ok (.response p) := by
    intro r h
    rcases leaveWorld_cases h with ⟨err, hfail⟩ | ⟨_, _, _, _, _, _, _, -, -, -, -, rfl⟩
    · exact failed hfail
    · simp
  have entered : ∀ {s : Server} {w : UInt8} {ySize : I16} {r : Reply},
      s.enterWorld packet c w ySize = some r → ∀ p, r.result ≠ .ok (.response p) := by
    intro s w ySize r h
    rcases enterWorld_cases h with ⟨err, s, hfail, -⟩ |
      ⟨_, _, _, _, _, _, _, _, _, _, _, _, _, _, _, -, -, -, -, -, -, -, -, -, -, rfl⟩
    · exact failed hfail
    · simp
  simp only [lineupRequests, List.mem_cons, List.not_mem_nil, or_false] at haction
  unfold Server.handle at h
  rcases haction with ha | ha | ha | ha
  · simp only [ha] at h
    rcases registerName_cases h with ⟨err, hfail⟩ | ⟨_, _, _, _, _, _, _, -, -, -, h⟩
    · exact failed hfail
    · obtain rfl := Server.complete_eq_some h
      simp
  · simp only [ha] at h
    obtain ⟨worldId, ySize, -, -, ⟨-, h⟩ | ⟨-, _, hleft, ⟨rfl, -⟩ | ⟨_, _, -, hentered, rfl⟩⟩⟩ :=
      setWorld_cases h
    · exact entered h
    · exact left hleft
    · have hplain := entered hentered
      exact hplain
  · simp only [ha] at h
    exact left h
  · simp only [ha] at h
    rcases closeSocket_cases h with ⟨_, hleft, ⟨closed, hclosed, rfl⟩ | ⟨rfl, -⟩⟩
    · rcases closeLeft_cases hclosed with ⟨-, ⟨err, herr⟩, -, -⟩ | ⟨_, _, _, _, -, hres, -, -⟩
      · simp [herr]
      · simp [hres]
    · exact left hleft

theorem onUpdate_informed (haction : packet.action ∈ lineupRequests)
    (h : srv.onUpdate env c packet = some r) (hok : RegistryOk srv) (hone : OneHolder srv)
    (hx : x ∈ r.srv.connected) : Informed x srv r.sent r.srv := by
  obtain ⟨reply, hreply, -, hsrv, hsent⟩ := onUpdate_result h
  have hno := lineupRequest_unanswered haction hreply
  have hanswer : reply.srv.resultSends c reply.result = [] := by
    cases hres : reply.result with
    | error err => rfl
    | ok ok =>
        cases ok with
        | response p => exact absurd hres (hno p)
        | broadcast p =>
            have hquiet := (handle_sound hreply).result
            rw [hres] at hquiet
            exact absurd hquiet (by simp [QuietResult])
        | complete => rfl
  have hx' : x ∈ srv.connected := (handle_sound hreply).handled.clients.sub x (hsrv ▸ hx)
  rw [hsent, hanswer, List.append_nil, hsrv]
  simp only [lineupRequests, List.mem_cons, List.not_mem_nil, or_false] at haction
  unfold Server.handle at hreply
  rcases haction with ha | ha | ha | ha
  · simp only [ha] at hreply
    exact registerName_informed ha hreply hok hone hx'
  · simp only [ha] at hreply
    exact setWorld_informed ha hreply hok hone hx'
  · simp only [ha] at hreply
    exact leaveWorld_informed hreply hok hone hx'
  · simp only [ha] at hreply
    exact closeSocket_informed hreply hok hone hx'

/-! ### Rounds -/

/-- No other request makes the server say anything of a player. -/
theorem causes_lineup {action kind : Action} (hkind : kind ∈ lineupKinds) (h : kind ∈ action.causes) :
    action ∈ lineupRequests := by
  simp only [lineupKinds, List.mem_cons, List.not_mem_nil, or_false] at hkind
  rcases hkind with rfl | rfl | rfl <;> cases action <;> first | decide | exact absurd h (by decide)

/-- No other request changes the lineup of a game that stays. -/
theorem GameStep.lineup (h : GameStep env packet c srv k g g') (haction : packet.action ∉ lineupRequests) :
    g'.lineup = g.lineup := by
  simp only [lineupRequests, List.mem_cons, List.not_mem_nil, or_false, not_or] at haction
  obtain ⟨hname, hset, hleave, hclose⟩ := haction
  cases h with
  | @playerChanged player player' hgame hplayer hclient hbind hchange =>
      refine Game.lineup_congr (List.map_modifyFirst fun a ha => ?_)
      obtain rfl := Option.some.inj (ha.symm.trans hplayer)
      cases hchange with
      | named ha _ => exact absurd ha hname
      | described _ _ => rfl
      | moved _ => rfl
      | embodied _ _ _ _ _ => rfl
  | left ha _ _ => simp [hset, hleave, hclose] at ha
  | joined _ _ => exact Game.lineup_joined
  | restored _ => exact Game.lineup_congr (List.map_modifyFirst fun _ _ => rfl)
  | entered ha _ => exact absurd ha hset
  | closed ha _ _ => exact absurd ha hclose
  | _ => rfl

/-- A round without such a request leaves the lineup of a game that stays. -/
theorem Step.lineup {e : Option Event} (h : Step srv e srv') (hok : RegistryOk srv)
    (hk : srv.games.lookup k = some g) (hk' : srv'.games.lookup k = some g')
    (hother : ∀ env packet c mid, Origin srv e env packet c mid → packet.action ∉ lineupRequests) :
    g'.lineup = g.lineup := by
  refine h.keepsGame hok hk hk' (P := fun g₁ => g₁.lineup = g.lineup) ?_ ?_ ?_ rfl
  · intro env packet c mid g₁ g₂ harises _ _ hstep hsame
    obtain ⟨_, horigin⟩ := harises.origin
    exact (hstep.lineup (hother _ _ _ _ horigin)).trans hsame
  · intro g₁ c deadline hsame
    refine (Game.lineup_congr ?_).trans hsame
    exact List.map_modifyFirst (f := fun p : Player => { p with disconnectedUntil := deadline })
      fun _ _ => rfl
  · intro g₁ vanjects _ hsame
    exact hsame

/-- **The step lemma.**  A connection that keeps its player is told in every round what the others in
its game have come to show. -/
theorem Step.tells {e : Option Event} (h : Step srv e srv') (hok : RegistryOk srv) (hone : OneHolder srv)
    (hx : x ∈ srv'.connected) (hin : Holds srv x k g b) (hin' : Holds srv' x k g' b) :
    Tells (Others b) g.lineup g'.lineup (saidTo x (sentIn e)) := by
  have told : Informed x srv (sentIn e) srv' →
      Tells (Others b) g.lineup g'.lineup (saidTo x (sentIn e)) := by
    intro hinformed
    obtain ⟨g₀, hold, ht⟩ := hinformed k g' b hin'
    obtain rfl := Option.some.inj (hold.inGame.symm.trans hin.inGame)
    exact ht
  have still : saidTo x (sentIn e) = .skip →
      (∀ env packet c mid, Origin srv e env packet c mid → packet.action ∉ lineupRequests) →
      Tells (Others b) g.lineup g'.lineup (saidTo x (sentIn e)) := by
    intro hsaid hother
    rw [h.lineup hok hin.inGame hin'.inGame hother, hsaid]
    exact .refl fun _ _ => rfl
  cases h.round with
  | tick hall => exact told (closeAll_informed hall hok hone hx)
  | @updated env c packet r hr =>
      by_cases haction : packet.action ∈ lineupRequests
      · exact told (onUpdate_informed haction hr hok hone hx)
      · refine still (saidTo_of_kinds fun s hs hkind => ?_) fun _ _ _ _ horigin => ?_
        · exact haction (causes_lineup hkind (onUpdate_mailed hr s hs).2.kind)
        · cases horigin with
          | message he =>
              cases he
              exact haction
          | tick he => cases he
  | _ =>
      refine still rfl fun _ _ _ _ horigin => ?_
      cases horigin with
      | message he => cases he
      | tick he => cases he

/-! ### Runs -/

/-- A round after which no client id is held twice and a connection still holds its player. -/
def HeldStep (x : ClientID) (k : GameID) (b : UInt8) (srv : Server) (e : Option Event) (srv' : Server) :
    Prop :=
  Step srv e srv' ∧ OneHolder srv' ∧ x ∈ srv'.connected ∧ ∃ g, Holds srv' x k g b

/-- What a client knows after the rounds, from what it knew before them. -/
def knownAfter (x : ClientID) (tr : List (Option Event)) (r : View (Trait × UInt8) Bytes) :
    View (Trait × UInt8) Bytes :=
  (saidTo x (tr.flatMap sentIn)).on r

/-- What is known of the others stays known along a run. -/
theorem covers_run {r : View (Trait × UInt8) Bytes} {tr : List (Option Event)} (hok : RegistryOk srv)
    (hone : OneHolder srv) (hin : Holds srv x k g b) (hknown : Covers (Others b) g.lineup r)
    (hrun : Transition.Run (HeldStep x k b) srv tr srv') :
    RegistryOk srv' ∧ OneHolder srv' ∧
      ∃ g', Holds srv' x k g' b ∧ Covers (Others b) g'.lineup (knownAfter x tr r) := by
  induction hrun with
  | nil => exact ⟨hok, hone, g, hin, hknown⟩
  | @snoc tr mid last e _ hstep ih =>
      obtain ⟨hok₁, hone₁, g₁, hin₁, hknown₁⟩ := ih
      obtain ⟨hround, hone', hx, g', hin'⟩ := hstep
      refine ⟨hround.registryOk hok₁, hone', g', hin', ?_⟩
      rw [knownAfter, List.flatMap_append, saidTo_append, Write.andThen_on, List.flatMap_singleton]
      exact hknown₁.tell (hround.tells hok₁ hone₁ hx hin₁ hin')

/-- A replica that has the lineup of the others shows them. -/
theorem ShowsOthers.of_covers {r : View (Trait × UInt8) Bytes} (hok : GameOk g)
    (h : Covers (Others b) g.lineup r) : ShowsOthers g b r where
  world q hq b' hb hne := h (.world, b') _ hne (Game.lineup_of_mem hok.distinct hq hb)
  plays q hq b' hb hne := h (.plays, b') _ hne (Game.lineup_of_mem hok.distinct hq hb)
  name q hq b' hb hne auth hauth := by
    refine h (.name, b') _ hne ?_
    rw [Game.lineup_of_mem hok.distinct hq hb, Player.trait, hauth]
    rfl
  nobody b' hne hnobody := by
    have hblank : ∀ t : Trait, g.lineup (t, b') = t.blank := by
      intro t
      unfold Game.lineup
      rw [List.find?_eq_none.mpr fun q hq => by simpa using hnobody q hq]
    exact ⟨h (.world, b') _ hne (hblank .world), h (.plays, b') _ hne (hblank .plays)⟩

/-- **A client knows the lineup of its game.**  From a state in which it knows what the others show,
and along every run in which no client id is held twice and it keeps its connection and its player, the
packets it is sent tell it all that it is to know of the others. -/
theorem lineup_known {r : View (Trait × UInt8) Bytes} {tr : List (Option Event)}
    (hreach : ServerReachable srv) (hone : OneHolder srv) (hin : Holds srv x k g b)
    (hknown : Covers (Others b) g.lineup r) (hrun : Transition.Run (HeldStep x k b) srv tr srv')
    (hk : srv'.games.lookup k = some g') : ShowsOthers g' b (knownAfter x tr r) := by
  obtain ⟨hok', -, g₁, hin', hcovers⟩ := covers_run hreach.registryOk hone hin hknown hrun
  obtain rfl := Option.some.inj (hin'.inGame.symm.trans hk)
  exact .of_covers (hok'.game _ _ hk) hcovers

/-- Who is alone in a game knows that nobody else is there. -/
theorem covers_alone (halone : ∀ q ∈ g.players, q.bindId = some b) :
    Covers (Others b) g.lineup fun k => k.1.blank := by
  intro k v hother hv
  unfold Game.lineup at hv
  rw [List.find?_eq_none.mpr fun q hq => by
    rw [halone q hq]
    simpa using Ne.symm hother] at hv
  exact hv

/-- Nobody is held twice, and the connection is there with its player. -/
def heldTest (x : ClientID) (k : GameID) (b : UInt8) (srv : Server) : Bool :=
  decide (srv.holders.Nodup) && decide (x ∈ srv.connected) && (srv.games.lookup k).any fun g =>
    g.players.any fun p => decide (p.clientId = x) && decide (p.bindId = some b)

theorem holds_of_test (h : heldTest x k b srv = true) :
    OneHolder srv ∧ x ∈ srv.connected ∧ ∃ g, Holds srv x k g b := by
  simp only [heldTest, Bool.and_eq_true, decide_eq_true_eq, Option.any_eq_true, List.any_eq_true] at h
  obtain ⟨⟨hnodup, hx⟩, g, hk, p, hp, hc, hb⟩ := h
  exact ⟨.of_nodup hnodup, hx, g, hk, p, hp, hc, hb⟩

end

/-- The maker of a game, alone in it, is told of the player that joins, names itself and enters a
world. -/
theorem lineup_known_entered : ∃ srv tr srv', Transition.Run (HeldStep 7 1 1) srv tr srv' ∧
    knownAfter 7 tr (fun k => k.1.blank) (.world, 2) = some [3] ∧
    knownAfter 7 tr (fun k => k.1.blank) (.plays, 2) = some [1] ∧
    knownAfter 7 tr (fun k => k.1.blank) (.name, 2) = some [65, 0] := by
  have hplay : ((play (Server.new 0) [(Env.atTime 0, .add (Client.new 7)),
        (Env.atTime 0, ask 7 .attachToGame [0, 0, 0, 0])]).bind fun made => do
      let game ← made.1.games.lookup 1
      let later ← playWhile (fun _ _ => heldTest 7 1 1) made.1
        [(Env.atTime 0, .add (Client.new 8)),
        (Env.atTime 0, ask 8 .attachToGame [1, 0, 0, 0]),
        (Env.atTime 0, ask 8 .registerName [65, 0, 66, 0]),
        (Env.atTime 0, ask 8 .setWorld [3, 0, 8])]
      let after ← later.1.games.lookup 1
      let q ← after.getPlayer 8
      let auth ← q.auth
      some (heldTest 7 1 1 made.1 && game.players.all fun p => decide (p.bindId = some 1), q.bindId,
        q.worldId.getD 0, q.status, auth.name)) = some (true, some 2, 3, .gaming, [65, 0]) := by
    decide +kernel
  obtain ⟨⟨srv, before⟩, hmade, hplay⟩ := Option.bind_eq_some_iff.mp hplay
  simp only [Option.bind_eq_bind, Option.bind_eq_some_iff, Option.some.injEq, Prod.mk.injEq] at hplay
  obtain ⟨game, hgame, ⟨last, tr⟩, hlast, after, hafter, q, hq, auth, hauth, htests, hbound, hworld,
    hstatus, hname⟩ := hplay
  obtain ⟨htest, halone⟩ := Bool.and_eq_true_iff.mp htests
  have hrun : Transition.Run (HeldStep 7 1 1) srv tr last := (playWhile_run hlast).mono
    fun _ _ _ ⟨hstep, _, _, htest⟩ => ⟨hstep, holds_of_test htest⟩
  obtain ⟨hone, -, g, hin⟩ := holds_of_test htest
  obtain rfl := Option.some.inj (hin.inGame.symm.trans hgame)
  have hknown : Covers (Others 1) g.lineup fun k => k.1.blank :=
    covers_alone fun p hp => of_decide_eq_true (List.all_eq_true.mp halone p hp)
  have hshows := lineup_known ⟨0, before, play_run hmade⟩ hone hin hknown hrun hafter
  have hmem := Game.getPlayer_mem hq
  refine ⟨srv, tr, last, hrun, ?_, ?_, ?_⟩
  · rw [hshows.world q hmem 2 hbound (by decide), hworld]
  · rw [hshows.plays q hmem 2 hbound (by decide), if_pos hstatus]
  · rw [hshows.name q hmem 2 hbound (by decide) auth hauth, hname]

end VangersSrv
