/-
How a player loses its body.

`set_body` stores what the parse gives, so a packet with fewer bytes than a body has takes the
earlier one away: `SET_PLAYER_DATA` does so and answers with an error, and a new VANGER does
so and is accepted.  No other round of the loop changes a body.
-/
import VangersSrv.Server.Fates
import VangersSrv.Server.Panics

namespace VangersSrv

/-! ### Bodies -/

/-- The game has a player with the number. -/
def Seated (o : Option Game) (b : UInt8) : Prop := ∃ g p, o = some g ∧ p ∈ g.players ∧ p.bindId = some b

/-- And this player has a body. -/
def Embodied (o : Option Game) (b : UInt8) : Prop :=
  ∃ g p, o = some g ∧ p ∈ g.players ∧ p.bindId = some b ∧ p.body ≠ none

/-- The packet's body is too short to parse, and it is stored as the sender's. -/
inductive TakesBody (packet : Packet) (game : Game) : Prop
  | described (haction : packet.action = .setPlayerData)
      (hshort : packet.data.length < Body.getBaseStructSize) : TakesBody packet game
  | embodied {v : Vanject} (haction : packet.action = .createObject)
      (hparse : Vanject.createFromSlice packet.data = some (.ok v))
      (htype : v.getType = NID.vanger) (hnew : game.vanjects.lookup v.id = none)
      (hshort : v.body.length < Body.getBaseStructSize) : TakesBody packet game

/-- The round takes such a packet from the player. -/
def Disembodies (srv : Server) (k : GameID) (b : UInt8) (e : Option Event) : Prop :=
  ∃ env packet c sent game player, e = some { env, input := .message c (.updated packet), sent } ∧
    Acting srv c k game player b ∧ TakesBody packet game

/-- A round after which the player is still there, and in which it sends no such packet. -/
def BodyStep (k : GameID) (b : UInt8) (srv : Server) (e : Option Event) (srv' : Server) : Prop :=
  Step srv e srv' ∧ ¬ Disembodies srv k b e ∧ Seated (srv'.games.lookup k) b

section

variable {env : Env} {packet : Packet} {c : ClientID} {srv srv' mid : Server} {sent : List Sent}
  {e : Option Event} {key k : GameID} {game game' g : Game} {player p q : Player} {b : UInt8}

theorem seated_some : Seated (some g) b ↔ some b ∈ g.bindIds := by
  simp [Seated, Game.bindIds]

theorem embodied_some :
    Embodied (some g) b ↔ (some b, true) ∈ g.players.map fun p => (p.bindId, p.body.isSome) := by
  simp [Embodied, Option.isSome_iff_ne_none]

instance (o : Option Game) (b : UInt8) : Decidable (Seated o b) :=
  match o with
  | none => isFalse fun ⟨_, _, h, _⟩ => Option.some_ne_none _ h.symm
  | some _ => decidable_of_iff _ seated_some.symm

instance (o : Option Game) (b : UInt8) : Decidable (Embodied o b) :=
  match o with
  | none => isFalse fun ⟨_, _, h, _⟩ => Option.some_ne_none _ h.symm
  | some _ => decidable_of_iff _ embodied_some.symm

/-- A number is one player's. -/
theorem GameOk.bindId_unique (hok : GameOk g) (hp : p ∈ g.players) (hq : q ∈ g.players)
    (hpb : p.bindId = some b) (hqb : q.bindId = some b) : p = q :=
  List.inj_on_of_nodup_map hok.distinct hp hq (hpb.trans hqb.symm)

/-- The body changes by a packet of the player, and is gone when that was too short. -/
theorem PlayerStep.body (h : PlayerStep env packet c srv k game p q) (hb : p.bindId = some b)
    (hbody : p.body ≠ none)
    (htakes : Acting srv c k game p b → ¬ TakesBody packet game) : q.body ≠ none := by
  cases h with
  | moved => exact hbody
  | changed hgame hplayer _ _ hchange =>
      have hnot := htakes ⟨hgame, hplayer, hb⟩
      have hparsed : ∀ {s body}, Body.fromSlice s = some body → Body.getBaseStructSize ≤ s.length →
          body ≠ none := by
        intro s body hs hlen hnone
        have hsome := Body.fromSlice_isSome hs
        rw [hnone] at hsome
        simp [hlen] at hsome
      cases hchange with
      | named _ _ => exact hbody
      | moved _ => exact hbody
      | described haction hs =>
          exact hparsed hs (Nat.le_of_not_lt fun hshort => hnot (.described haction hshort))
      | embodied haction hparse htype hnew hs =>
          exact hparsed hs
            (Nat.le_of_not_lt fun hshort => hnot (.embodied haction hparse htype hnew hshort))

theorem TakesBody.action (h : TakesBody packet game) :
    packet.action = .setPlayerData ∨ packet.action = .createObject := by
  cases h with
  | described haction _ => exact Or.inl haction
  | embodied haction _ _ _ _ => exact Or.inr haction

/-- No packet of the round is one that takes the body away. -/
theorem Arises.not_takesBody (h : Arises srv e env packet c mid) (hok : RegistryOk srv)
    (hkeeps : ¬ Disembodies srv k b e) (hacting : Acting mid c k game player b) :
    ¬ TakesBody packet game := by
  intro htakes
  have hclose : packet.action ≠ .closeSocket := by
    rcases htakes.action with haction | haction <;> simp [haction]
  obtain ⟨⟨sent, he⟩, game₀, player₀, hacting₀, -, hsame⟩ := h.acting_back hok hclose hacting
  refine hkeeps ⟨_, _, _, _, _, _, he, hacting₀, ?_⟩
  cases htakes with
  | described haction hshort => exact .described haction hshort
  | embodied haction hparse htype hnew hshort =>
      rcases hsame with hvan | hleaves
      · exact .embodied haction hparse htype (hvan ▸ hnew) hshort
      · simp [haction] at hleaves

theorem PlayerStep.bindId (h : PlayerStep env packet c srv k game p q) : q.bindId = p.bindId :=
  congrArg (Option.map Bind.id) h.bind

/-- A number is freed only by a packet that closes a socket. -/
theorem Fate.seated {o : Option Game} (h : Fate env packet c srv k (srv.games.lookup k) o)
    (hclose : packet.action ≠ .closeSocket) (hseat : Seated (srv.games.lookup k) b) : Seated o b := by
  obtain ⟨g, p, hg, hp, hpb⟩ := hseat
  rw [hg] at h
  cases h with
  | ended haction _ _ => exact absurd haction hclose
  | kept hstep =>
      rcases hstep.forward hp with ⟨q, hq, hps⟩ | ⟨haction, -⟩
      · exact ⟨_, q, rfl, hq, hps.bindId.trans hpb⟩
      · exact absurd haction hclose

/-- Whoever has the number after the packet has a body, as before. -/
theorem Fate.embodied {o : Option Game} (h : Fate env packet c srv k (srv.games.lookup k) o)
    (hok : RegistryOk srv)
    (hkeeps : ∀ game player, Acting srv c k game player b → ¬ TakesBody packet game)
    (hbody : Seated (srv.games.lookup k) b → Embodied (srv.games.lookup k) b)
    (hseat : packet.action = .attachToGame → Seated (srv.games.lookup k) b) :
    (Seated o b → Embodied o b) ∧ (packet.action = .attachToGame → Seated o b) := by
  refine ⟨?_, fun hattach => h.seated (by simp [hattach]) (hseat hattach)⟩
  generalize hlookup : srv.games.lookup k = before at h hbody hseat
  rintro ⟨g', q, rfl, hq, hqb⟩
  cases h with
  | opened haction _ =>
      obtain ⟨g, p, hg, -⟩ := hseat haction
      cases hg
  | @kept g _ hstep =>
      have hgok := hok.game k g hlookup
      rcases hstep.back hq with ⟨p, hp, hps⟩ | ⟨bind, haction, hfree, rfl⟩
      · have hpb : p.bindId = some b := hps.bindId.symm.trans hqb
        obtain ⟨_, p', hg, hp', hpb', hpbody⟩ := hbody ⟨g, p, rfl, hp, hpb⟩
        cases hg
        obtain rfl := hgok.bindId_unique hp hp' hpb hpb'
        exact ⟨g', q, rfl, hq, hqb, hps.body hpb hpbody fun hacting => hkeeps _ _ hacting⟩
      · -- the number was free, so it was nobody's
        obtain ⟨_, p, hg, hp, hpb⟩ := hseat haction
        cases hg
        obtain rfl : bind.id = b := by simpa [Player.bindId] using hqb
        exact absurd (List.mem_map.mpr ⟨p, hp, hpb⟩) (hgok.free hfree).2

theorem Embodied.modify {s : Player → Bool} {f : Player → Player}
    (hbind : ∀ p, (f p).bindId = p.bindId) (hbody : ∀ p, (f p).body = p.body) :
    (Seated (some { g with players := g.players.modifyFirst s f }) b ↔ Seated (some g) b) ∧
      (Embodied (some { g with players := g.players.modifyFirst s f }) b ↔ Embodied (some g) b) := by
  have hmap : ∀ {α : Type} (v : Player → α), (∀ p, v (f p) = v p) →
      (g.players.modifyFirst s f).map v = g.players.map v :=
    fun v hv => List.map_modifyFirst fun p _ => hv p
  constructor
  · rw [seated_some, seated_some, Game.bindIds, hmap _ hbind, Game.bindIds]
  · rw [embodied_some, embodied_some, hmap _ fun p => by rw [hbind, hbody]]

/-- The body outlasts the round, or the player does not. -/
theorem Step.embodied (h : Step srv e srv') (hok : RegistryOk srv) (hkeeps : ¬ Disembodies srv k b e)
    (hbody : Embodied (srv.games.lookup k) b) (hseat : Seated (srv'.games.lookup k) b) :
    Embodied (srv'.games.lookup k) b := by
  have hseated : Seated (srv.games.lookup k) b := by
    obtain ⟨g, p, hg, hp, hb, -⟩ := hbody
    exact ⟨g, p, hg, hp, hb⟩
  -- in a round that attaches a player nobody leaves
  have hkept : (Seated (srv'.games.lookup k) b → Embodied (srv'.games.lookup k) b) ∧
      ((∃ env packet c mid, Arises srv e env packet c mid ∧ packet.action = .attachToGame) →
        Seated (srv'.games.lookup k) b) := by
    refine h.keeps hok (P := fun o => (Seated o b → Embodied o b) ∧
      ((∃ env packet c mid, Arises srv e env packet c mid ∧ packet.action = .attachToGame) →
        Seated o b)) ?_ ?_ ?_ ⟨fun _ => hbody, fun _ => hseated⟩
    · rintro env packet c mid o harises hmid hfate ⟨hb, hs⟩
      obtain ⟨hb', hs'⟩ := hfate.embodied hmid
        (fun game player hacting => harises.not_takesBody hok hkeeps hacting) hb
        (fun ha => hs ⟨env, packet, c, mid, harises, ha⟩)
      refine ⟨hb', ?_⟩
      rintro ⟨env', packet', c', mid', harises', ha⟩
      rw [harises.packet_unique harises'] at ha
      exact hs' ha
    · rintro g c deadline ⟨hb, hs⟩
      obtain ⟨hseated, hembodied⟩ := Embodied.modify (g := g) (b := b)
        (s := fun p => p.clientId = c) (f := fun p => { p with disconnectedUntil := deadline })
        (fun _ => rfl) (fun _ => rfl)
      exact ⟨fun h => hembodied.mpr (hb (hseated.mp h)), fun h => hseated.mpr (hs h)⟩
    · rintro g vanjects - ⟨hb, hs⟩
      have hseated : Seated (some { g with vanjects }) b ↔ Seated (some g) b := by simp [Seated]
      have hembodied : Embodied (some { g with vanjects }) b ↔ Embodied (some g) b := by
        simp [Embodied]
      exact ⟨fun h => hembodied.mpr (hb (hseated.mp h)), fun h => hseated.mpr (hs h)⟩
  exact hkept.1 hseat

/-- What a rejected `SET_PLAYER_DATA` leaves of the players: all but a body that was too short. -/
theorem setPlayerData_error {r : Reply} {err : OnUpdateError}
    (haction : packet.action = .setPlayerData) (hdeliverable : packet.Deliverable)
    (h : srv.setPlayerData packet c = some r) (herr : r.result = .error err)
    (hkeeps : ∀ game player, Acting srv c k game player b → ¬ TakesBody packet game)
    (hk : srv.games.lookup k = some g) (hp : p ∈ g.players) (hb : p.bindId = some b) :
    ∃ g', r.srv.games.lookup k = some g' ∧ p ∈ g'.players := by
  rcases setPlayerData_cases h with ⟨err', hfail⟩ |
    ⟨key, game, player, body, after, hgame, hplayer, hbody, rfl, hresult⟩
  · rw [Server.fail_eq_some hfail]
    exact ⟨g, hk, hp⟩
  have hlookup := Server.getGameByClientid_lookup hgame
  by_cases hself : k = key ∧ p = player
  · -- the player's own body was long enough, and the answer fits
    obtain ⟨rfl, rfl⟩ := hself
    have hlong : Body.getBaseStructSize ≤ packet.data.length :=
      Nat.le_of_not_lt fun hshort => hkeeps _ _ ⟨hgame, hplayer, hb⟩ (.described haction hshort)
    have hparsed : body.isSome = true := by rw [Body.fromSlice_isSome hbody, decide_eq_true hlong]
    have hlen := hdeliverable.2
    unfold maxDataLength at hlen
    have hfits : ([b] ++ packet.data).length + 1 ≤ i16Max := by
      simp only [List.length_append, List.length_singleton, i16Max]
      omega
    rcases hresult with ⟨err', -, -, hnone⟩ | ⟨b', answer, -, h⟩
    · have hanswer := hnone hparsed b hb
      simp only [Packet.createAnswer, haction, Action.requestToResponse, Option.bind_some,
        if_pos hfits] at hanswer
      cases hanswer
    · rw [Server.complete_eq_some h] at herr
      cases herr
  · have hwritten : r.srv = srv.setGame key (game.modifyPlayer c fun _ => { player with body }) := by
      rcases hresult with ⟨err', hfail, -⟩ | ⟨b', answer, -, h⟩
      · rw [Server.fail_eq_some hfail]
      · rw [Server.complete_eq_some h]
    rw [hwritten, Server.lookup_setGame hlookup]
    split
    · rename_i hkey
      rw [hkey, hlookup] at hk
      cases hk
      refine ⟨_, rfl, List.mem_modifyFirst_of_ne hp fun a ha heq => hself ⟨hkey, ?_⟩⟩
      exact heq.trans (Option.some.inj (ha.symm.trans hplayer))
    · exact ⟨g, hk, hp⟩

/-- **A player keeps its body until it goes**, in every run without a packet that takes it away;
and a `SET_PLAYER_DATA` that is rejected and is none of these leaves the player as it is. -/
theorem body_kept {tr : List (Option Event)} (hreach : ServerReachable srv)
    (hbody : Embodied (srv.games.lookup k) b) (hrun : Transition.Run (BodyStep k b) srv tr srv') :
    Embodied (srv'.games.lookup k) b ∧
      ∀ env packet c r err, packet.action = .setPlayerData → packet.Deliverable →
        srv'.onUpdate env c packet = some r → r.result = .error err →
        ¬ Disembodies srv' k b (some { env, input := .message c (.updated packet), sent := r.sent }) →
        ∀ g p, srv'.games.lookup k = some g → p ∈ g.players → p.bindId = some b →
          ∃ g', r.srv.games.lookup k = some g' ∧ p ∈ g'.players := by
  have hboth : RegistryOk srv' ∧ Embodied (srv'.games.lookup k) b := by
    refine hrun.invariant (P := fun s => RegistryOk s ∧ Embodied (s.games.lookup k) b)
      ⟨hreach.registryOk, hbody⟩ ?_
    rintro a e s ⟨hstep, hkeeps, hseat⟩ ⟨hok, hb⟩
    exact ⟨hstep.registryOk hok, hstep.embodied hok hkeeps hb hseat⟩
  refine ⟨hboth.2, fun env packet c r err haction hdeliverable hupdate herr hkeeps g p hk hp hb => ?_⟩
  obtain ⟨reply, hhandle, hresult, hsrv, -⟩ := onUpdate_result hupdate
  have hset : srv'.setPlayerData packet c = some reply := by
    simpa [Server.handle, haction] using hhandle
  rw [hsrv]
  refine setPlayerData_error haction hdeliverable hset (hresult ▸ herr) ?_ hk hp hb
  exact fun game player hacting htakes => hkeeps ⟨_, _, _, _, _, _, rfl, hacting, htakes⟩

end

/-- A player with a body of the smallest size. -/
def oneBody : List (Env × Input) :=
  [(Env.atTime 0, ask 7 .attachToGame [0, 0, 0, 0]),
    (Env.atTime 0, ask 7 .setPlayerData (List.replicate 25 0))]

/-- A request without a byte is rejected, and the body is gone. -/
theorem body_taken : ∃ srv r err, ServerReachable srv ∧ (request .setPlayerData []).Deliverable ∧
    srv.onUpdate (Env.atTime 0) 7 (request .setPlayerData []) = some r ∧ r.result = .error err ∧
    Embodied (srv.games.lookup 1) 1 ∧ Seated (r.srv.games.lookup 1) 1 ∧
    ¬ Embodied (r.srv.games.lookup 1) 1 := by
  have hplay : ((play (Server.new 0) oneBody).map Prod.fst).bind (fun srv => do
      let r ← srv.onUpdate (Env.atTime 0) 7 (request .setPlayerData [])
      some (decide (Embodied (srv.games.lookup 1) 1), r.result.toOption,
        decide (Seated (r.srv.games.lookup 1) 1), decide (Embodied (r.srv.games.lookup 1) 1)))
      = some (true, none, true, false) := by
    decide +kernel
  obtain ⟨srv, tr, hrun, hfacts⟩ := play_bind hplay
  simp only [Option.bind_eq_bind, Option.bind_eq_some_iff, Option.some.injEq, Prod.mk.injEq,
    decide_eq_true_eq, decide_eq_false_iff_not] at hfacts
  obtain ⟨r, hr, hbody, hres, hseat, hgone⟩ := hfacts
  obtain ⟨err, hresult⟩ := error_of_toOption hres
  exact ⟨srv, r, err, ⟨0, tr, hrun⟩, by decide, hr, hresult, hbody, hseat, hgone⟩

/-- A second body takes the place of the first. -/
theorem body_kept_again : ∃ srv tr srv', ServerReachable srv ∧ Embodied (srv.games.lookup 1) 1 ∧
    Transition.Run (BodyStep 1 1) srv tr srv' ∧ tr.length = 1 ∧ Embodied (srv'.games.lookup 1) 1 := by
  have hplay : ((play (Server.new 0) oneBody).map Prod.fst).bind (fun srv => do
      let r ← srv.take (Env.atTime 0) (ask 7 .setPlayerData (List.replicate 25 1))
      some (decide (Embodied (srv.games.lookup 1) 1), decide (Seated (r.1.games.lookup 1) 1)))
      = some (true, true) := by
    decide +kernel
  obtain ⟨srv, tr, hrun, hfacts⟩ := play_bind hplay
  simp only [Option.bind_eq_bind, Option.bind_eq_some_iff, Option.some.injEq, Prod.mk.injEq,
    decide_eq_true_eq] at hfacts
  obtain ⟨⟨srv', sent⟩, hr, hbody, hseat⟩ := hfacts
  have hkeeps : ¬ Disembodies srv 1 1
      (some { env := Env.atTime 0, input := ask 7 .setPlayerData (List.replicate 25 1), sent }) := by
    rintro ⟨env, packet, c, sent', game, player, he, -, htakes⟩
    cases he
    cases htakes with
    | described _ hshort => exact absurd hshort (by decide)
    | embodied haction _ _ _ _ => cases haction
  have hone : Transition.Run (BodyStep 1 1) srv
      [some { env := Env.atTime 0, input := ask 7 .setPlayerData (List.replicate 25 1), sent }] srv' :=
    Transition.Run.nil.snoc ⟨.take hr, hkeeps, hseat⟩
  exact ⟨srv, _, srv', ⟨0, tr, hrun⟩, hbody, hone, rfl, (body_kept ⟨0, tr, hrun⟩ hbody hone).1⟩

end VangersSrv
