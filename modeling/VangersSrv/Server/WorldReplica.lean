/-
The replica of a world agrees with the server.

`Views` keeps beside the server what every connection knows of the objects: a map that its
packets write to, and into which it takes over the changes its own requests made.  A
connection is `synced` while its player stands in the world it was last sent a snapshot
of.  In every run in which no client id is held twice, a synced connection knows all that
it is shown of its world, and nothing in its sight that is not stored.
-/
import VangersSrv.Server.Snapshot

namespace VangersSrv

open Replica

section

variable {env : Env} {packet : Packet} {c x : ClientID} {srv srv' : Server} {sent : List Sent}
  {e : Option Event}

/-! ### Requests -/

theorem Handled.followed (h : Handled env packet c srv sent srv') (hok : RegistryOk srv)
    (hone : OneHolder srv) (hone' : OneHolder srv') (hwhole : WholeVanger packet)
    (hx : x ∈ srv'.connected)
    (hin : packet.action = .restoreConnection → ∃ k g p w, InWorld srv x k g p w)
    (hno : x = c → packet.action = .setWorld → ¬ SentSnapshot x sent) :
    Followed (x = c ∧ packet.action ∈ objectActions) x srv sent srv' := by
  cases h with
  | one h => exact h.followed hok hone hone' hwhole hx hin hno
  | two haction h₁ h₂ =>
      have hmid := h₂.clients.sub x hx
      have hfirst := h₁.followed hone (by rw [← h₁.connected]; exact hmid)
      have hsecond := h₂.followed (hok.prelude h₁) (hone.prelude h₁) hone' hwhole hx
        (fun ha => by simp [ha] at haction)
        fun hself ha hs => hno hself ha (sentSnapshot_append.mpr (Or.inr hs))
      refine hfirst.trans hsecond ?_
      rintro ⟨-, hobject⟩
      -- of the requests about objects only a create comes in two parts
      have hcreate : packet.action = .createObject := by
        simp only [objectActions, List.mem_cons, List.not_mem_nil, or_false] at haction hobject
        rcases haction with ha | ha | ha
        · exact ha
        · simp [ha] at hobject
        · simp [ha] at hobject
      cases h₁ with
      | playerChanged _ _ _ _ _ _ hquiet => exact sentTo_quiet hquiet
      | left ha _ _ _ _ _ => simp [hcreate] at ha

theorem Handled.snapshot {k : GameID} {g : Game} {p : Player} {w b : UInt8} {r : View I32 Bytes}
    (h : Handled env packet c srv sent srv') (haction : packet.action = .setWorld)
    (hok : RegistryOk srv) (hone' : OneHolder srv') (hsnap : SentSnapshot c sent)
    (hx : c ∈ srv'.connected) (hin : InWorld srv' c k g p w) (hb : p.bindId = some b) :
    Agrees (InSight w) (Shown b) (storedView g.vanjects) ((sentTo c sent).on r) := by
  cases h with
  | one h => exact h.snapshot haction hok hone' hsnap hx hin hb
  | two _ h₁ h₂ =>
      rw [sentTo_append, Write.andThen_on]
      exact h₂.snapshot haction (hok.prelude h₁) hone'
        ((sentSnapshot_append.mp hsnap).resolve_left h₁.no_snapshot) hx hin hb

/-- Closing sockets is told like any other request. -/
theorem closeAll_followed {ids : List ClientID} (h : srv.closeAll env ids = some (srv', sent))
    (hok : RegistryOk srv) (hone : OneHolder srv) (hx : x ∈ srv'.connected) :
    Followed False x srv sent srv' := by
  induction ids generalizing srv sent with
  | nil =>
      simp only [Server.closeAll, Option.some.injEq, Prod.mk.injEq] at h
      obtain ⟨rfl, rfl⟩ := h
      exact .still rfl fun k g p w hp => ⟨g, p, hp, rfl, rfl⟩
  | cons c rest ih =>
      simp only [Server.closeAll, Option.bind_eq_bind, Option.bind_eq_some_iff, Option.some.injEq,
        Prod.mk.injEq] at h
      obtain ⟨closed, hclosed, ⟨last, s⟩, hrest, rfl, rfl⟩ := h
      have hh : Handled env closePacket c srv closed.sent closed.srv :=
        (closeSocket_sound rfl hclosed).handled
      have hok₁ := hok.handled hh
      have hone₁ := hone.handled hh hok (SoleHolder.of_action (by decide))
      have hfirst := hh.followed hok hone hone₁ (fun ha => by cases ha)
        ((closeAll_clients hrest).sub x hx) (fun ha => by cases ha) (fun _ ha => by cases ha)
      refine (hfirst.mono ?_).trans (ih hrest hok₁ hone₁) False.elim
      exact fun hown => absurd hown.2 (by decide)

/-! ### Rounds -/

/-- The request that is handled in a round, and whose it is. -/
def requestIn : Option Event → Option (ClientID × Packet)
  | some { input := .message c (.updated packet), .. } => some (c, packet)
  | _ => none

/-- The packets that are sent in a round. -/
def sentIn (e : Option Event) : List Sent := e.elim [] Event.sent

/-- A round with a connection's own request about an object. -/
def OwnRequest (e : Option Event) (x : ClientID) : Prop :=
  ∃ request ∈ requestIn e, request.1 = x ∧ request.2.action ∈ objectActions

/-- A round with a connection's `SET_WORLD` that is answered with a snapshot. -/
def EntersWorld (e : Option Event) (x : ClientID) : Prop :=
  (∃ request ∈ requestIn e, request.1 = x ∧ request.2.action = .setWorld) ∧
    SentSnapshot x (sentIn e)

/-- A round whose request, if it creates a VANGER, brings a whole body. -/
def WholeVangerRound (e : Option Event) : Prop :=
  ∀ request ∈ requestIn e, WholeVanger request.2

instance (e : Option Event) (x : ClientID) : Decidable (OwnRequest e x) := by
  unfold OwnRequest
  infer_instance

instance (e : Option Event) (x : ClientID) : Decidable (EntersWorld e x) := by
  unfold EntersWorld
  infer_instance

instance (e : Option Event) : Decidable (WholeVangerRound e) := by
  unfold WholeVangerRound
  infer_instance

/-- The deadline of a player changes nothing that is told. -/
theorem mark_followed : Followed False x srv [] (srv.markPlayerDisconnected env c) := by
  unfold Server.markPlayerDisconnected
  split
  · rename_i key game hgame
    exact .setGame_same (Server.getGameByClientid_lookup hgame) rfl rfl
      (back_of_modifyPlayer fun _ _ => ⟨rfl, rfl, fun _ => rfl⟩)
  · exact .still rfl fun k g p w hp => ⟨g, p, hp, rfl, rfl⟩

/-- The client list is not part of what is followed. -/
theorem Followed.withGames {owner : Prop} {last : Server} (h : Followed owner x srv sent srv')
    (hgames : last.games = srv'.games) : Followed owner x srv sent last := by
  rintro k g p w ⟨hk, hp, hc, hw⟩
  exact h k g p w ⟨by rw [← hgames]; exact hk, hp, hc, hw⟩

theorem rehash_followed (h : Rehash srv srv') : Followed False x srv [] srv' := by
  cases h with
  | games hperm =>
      refine .still rfl ?_
      rintro k g p w ⟨hk, hp, hc, hw⟩
      exact ⟨g, p, ⟨by rw [← AList.perm_lookup (a := k) hperm]; exact hk, hp, hc, hw⟩, rfl, rfl⟩
  | vanjects hlookup hperm =>
      exact .setGame_same hlookup rfl (storedView_perm hperm)
        fun p hp w hc hw => ⟨p, hp, hc, hw, rfl⟩

theorem sentTo_answer (x : ClientID) (sent : List Sent) {answer : List Sent}
    (h : ∀ s ∈ answer, s.packet.Quiet) :
    sentTo x (sent ++ answer) = sentTo x sent ∧
      (SentSnapshot x (sent ++ answer) ↔ SentSnapshot x sent) := by
  refine ⟨by rw [sentTo_append, sentTo_quiet h, Write.andThen_skip], ?_⟩
  rw [sentSnapshot_append]
  exact or_iff_left (not_sentSnapshot fun s hs => (h s hs).not_begin)

/-- **The step lemma.**  In every round a connection whose player stands in a world, before
and after, was told of all that changed in its sight, its own requests excepted. -/
theorem Step.followed (h : Step srv e srv') (hok : RegistryOk srv) (hone : OneHolder srv)
    (hone' : OneHolder srv') (hwhole : WholeVangerRound e) (hx : x ∈ srv'.connected)
    (hin : ∃ k g p w, InWorld srv x k g p w) (hno : ¬ EntersWorld e x) :
    Followed (OwnRequest e x) x srv (sentIn e) srv' := by
  cases h.round with
  | rehash hr => exact (rehash_followed hr).mono False.elim
  | tick hall => exact (closeAll_followed hall hok hone hx).mono False.elim
  | added =>
      exact .still rfl fun k g p w hp => ⟨g, p, ⟨hp.inGame, hp.mem, hp.client, hp.world⟩, rfl, rfl⟩
  | status =>
      exact .still rfl fun k g p w hp => ⟨g, p, ⟨hp.inGame, hp.mem, hp.client, hp.world⟩, rfl, rfl⟩
  | disconnected => exact (mark_followed.mono False.elim).withGames rfl
  | @updated env c packet reply hreply =>
      obtain ⟨s, answer, hsent, hquiet, hh, -⟩ := onUpdate_handled hreply
      obtain ⟨hsame, hsnap⟩ := sentTo_answer x s hquiet
      have hf := hh.followed hok hone hone' (hwhole (c, packet) rfl) hx (fun _ => hin)
        fun hself ha hs => hno ⟨⟨(c, packet), rfl, hself.symm, ha⟩, by
          rw [← hsent] at hsnap
          exact hsnap.mpr hs⟩
      intro k g' p' w hp
      obtain ⟨g, p, hold, hbind, hfollows⟩ := hf k g' p' w hp
      refine ⟨g, p, hold, hbind, ?_⟩
      show Follows _ _ _ _ (sentTo x reply.sent)
      rw [hsent, hsame]
      exact hfollows.mono fun hown => ⟨(c, packet), rfl, hown.1.symm, hown.2⟩

theorem Step.snapshot {k : GameID} {g : Game} {p : Player} {w b : UInt8} {r : View I32 Bytes}
    (h : Step srv e srv') (henters : EntersWorld e x) (hok : RegistryOk srv)
    (hone' : OneHolder srv') (hx : x ∈ srv'.connected) (hin : InWorld srv' x k g p w)
    (hb : p.bindId = some b) :
    Agrees (InSight w) (Shown b) (storedView g.vanjects) ((sentTo x (sentIn e)).on r) := by
  obtain ⟨⟨⟨c, packet⟩, hrequest, rfl, haction⟩, hsnap⟩ := henters
  cases h.round with
  | @updated _ c _ reply hreply =>
      obtain ⟨rfl, rfl⟩ := Prod.mk.inj (Option.some.inj hrequest)
      obtain ⟨s, answer, hsent, hquiet, hh, -⟩ := onUpdate_handled hreply
      obtain ⟨hsame, hiff⟩ := sentTo_answer c s hquiet
      rw [← hsent] at hsame hiff
      show Agrees _ _ _ ((sentTo c reply.sent).on r)
      rw [hsame]
      exact hh.snapshot haction hok hone' (hiff.mp hsnap) hx hin hb
  | _ => cases hrequest

/-! ### What the connections know -/

end

namespace Server

/-- The objects of the game of a connection. -/
def stored (srv : Server) (x : ClientID) : View I32 Bytes :=
  match srv.getGameByClientid x with
  | some (_, game) => storedView game.vanjects
  | none => fun _ => none

/-- Whether the player of a connection stands in a world. -/
def standsInWorld (srv : Server) (x : ClientID) : Bool :=
  (((srv.getGameByClientid x).bind fun e => e.2.getPlayer x).bind Player.worldId).isSome

end Server

/-- The server, and what every connection knows. -/
structure Views where
  srv : Server
  replica : ClientID → View I32 Bytes
  /-- The player of the connection stands in the world it was last sent a snapshot of. -/
  synced : ClientID → Bool

namespace Views

def new (start : Instant) : Views :=
  { srv := Server.new start, replica := fun _ _ => none, synced := fun _ => false }

/-- What a connection knows after a round: its packets are applied in the order they were
sent, and the server does not echo the connection's own requests about objects. -/
def learn (s : Views) (srv : Server) (e : Option Event) (x : ClientID) : View I32 Bytes :=
  let told := (sentTo x (sentIn e)).on (s.replica x)
  if OwnRequest e x then mirror (s.srv.stored x) (srv.stored x) told else told

/-- What a round does to what is known. -/
def write (s : Views) (srv : Server) (e : Option Event) : Views :=
  { srv
    replica := s.learn srv e
    synced := fun x =>
      x ∈ srv.connected && srv.standsInWorld x && (s.synced x || decide (EntersWorld e x)) }

end Views

/-- One round, with what is known kept beside it, after which no client id is held twice. -/
def ViewsStep (s : Views) (e : Option Event) (s' : Views) : Prop :=
  Step s.srv e s'.srv ∧ s' = s.write s'.srv e ∧ OneHolder s'.srv ∧ WholeVangerRound e

/-- What is known is right. -/
structure ViewsOk (s : Views) : Prop where
  registry : RegistryOk s.srv
  holders : OneHolder s.srv
  /-- A synced connection has a player that stands in a world. -/
  stands : ∀ x, s.synced x = true → ∃ k g p w, InWorld s.srv x k g p w
  agrees : ∀ x k g p w b, s.synced x = true → InWorld s.srv x k g p w → p.bindId = some b →
    Agrees (InSight w) (Shown b) (storedView g.vanjects) (s.replica x)

section

variable {srv : Server} {x : ClientID} {k : GameID} {g : Game} {p : Player} {w : UInt8}

theorem InWorld.stored (h : InWorld srv x k g p w) (hone : OneHolder srv) :
    srv.stored x = storedView g.vanjects := by
  have hgame := (hone.actsOnHolder k g p h.inGame h.mem).1
  rw [h.client] at hgame
  unfold Server.stored
  rw [hgame]

theorem inWorld_of_standsInWorld (h : srv.standsInWorld x = true) :
    ∃ k g p w, InWorld srv x k g p w := by
  unfold Server.standsInWorld at h
  obtain ⟨w, hw⟩ := Option.isSome_iff_exists.mp h
  simp only [Option.bind_eq_some_iff] at hw
  obtain ⟨p, ⟨⟨k, g⟩, hgame, hp⟩, hw⟩ := hw
  exact ⟨k, g, p, w, Server.getGameByClientid_lookup hgame, Game.getPlayer_mem hp,
    Game.getPlayer_clientId hp, hw⟩

theorem viewsOk_new (start : Instant) : ViewsOk (Views.new start) :=
  ⟨registryOk_new start, by constructor <;> simp [Views.new, Server.new], by simp [Views.new],
    by simp [Views.new]⟩

theorem ViewsStep.ok {s s' : Views} {e : Option Event} (h : ViewsStep s e s') (hok : ViewsOk s) :
    ViewsOk s' := by
  obtain ⟨hstep, hwrite, hone', hwhole⟩ := h
  have hreg' := hstep.registryOk hok.registry
  have hsynced : ∀ x, s'.synced x = true → x ∈ s'.srv.connected ∧
      s'.srv.standsInWorld x = true ∧ (s.synced x = true ∨ EntersWorld e x) := by
    intro x hx
    rw [hwrite] at hx
    simpa [Views.write, and_assoc] using hx
  refine ⟨hreg', hone', fun x hx => inWorld_of_standsInWorld (hsynced x hx).2.1, ?_⟩
  intro x k g p w b hx hin hb
  obtain ⟨hconnected, -, hsync⟩ := hsynced x hx
  have hreplica : s'.replica x = s.learn s'.srv e x := by
    rw [hwrite]
    rfl
  rw [hreplica]
  by_cases henters : EntersWorld e x
  · -- a snapshot: what was known before does not matter
    have hown : ¬ OwnRequest e x := by
      rintro ⟨request, hrequest, -, hobject⟩
      obtain ⟨⟨request', hrequest', -, haction⟩, -⟩ := henters
      rw [Option.mem_unique hrequest hrequest', haction] at hobject
      exact absurd hobject (by decide)
    unfold Views.learn
    rw [if_neg hown]
    exact hstep.snapshot henters hok.registry hone' hconnected hin hb
  · have hold := hsync.resolve_right henters
    obtain ⟨g₀, p₀, hin₀, hbind, hf⟩ := hstep.followed hok.registry hok.holders hone' hwhole
      hconnected (hok.stands x hold) henters k g p w hin
    have hagrees := hok.agrees x k g₀ p₀ w b hold hin₀ (hbind.trans hb)
    unfold Views.learn
    by_cases hown : OwnRequest e x
    · rw [if_pos hown, hin₀.stored hok.holders, hin.stored hone']
      exact hagrees.followMirror (hf.mono fun _ => trivial)
    · rw [if_neg hown]
      exact hagrees.follow (hf.mono hown)

end

/-- **The replica of a world agrees with the server.**  A synced connection knows every
stored object of its player's world of the types it is shown, unless it is the player's
own, exactly as it is stored; and what it knows at an id of the world, or at one that is
global, is stored exactly so. -/
theorem replica_agrees {start : Instant} {tr : List (Option Event)} {s : Views}
    (h : Transition.Run ViewsStep (Views.new start) tr s) {x : ClientID} {k : GameID} {g : Game}
    {p : Player} {w b : UInt8} (hin : InWorld s.srv x k g p w) (hb : p.bindId = some b)
    (hsynced : s.synced x = true) :
    (∀ id v, g.vanjects.lookup id = some v → worldOf id = w →
        getVanjectType id ∈ [NID.vanger, NID.slot, NID.device, NID.shell, NID.stuff] →
        v.playerBindId ≠ b → s.replica x id = some v.entry) ∧
      (∀ id entry, worldOf id = w ∨ isNonGlobalVanject id = false →
        s.replica x id = some entry → ∃ v, g.vanjects.lookup id = some v ∧ v.entry = entry) := by
  have hok := h.invariant (P := ViewsOk) (viewsOk_new start) fun _ _ _ hstep hs => hstep.ok hs
  have hagrees := hok.agrees x k g p w b hsynced hin hb
  constructor
  · intro id v hv hworld htype howner
    refine hagrees.stored id v.entry (Or.inl hworld) (by rw [storedView, hv]; rfl) ⟨htype, ?_⟩
    rw [head?_entry]
    simpa using howner
  · intro id entry hsight hknown
    exact Option.map_eq_some_iff.mp (hagrees.known id entry hsight hknown)

/-! ### Playing inputs -/

/-- The rounds on the inputs, as long as they are rounds of `ViewsStep`. -/
def Views.play (s : Views) : List (Env × Input) → Option (Views × List (Option Event))
  | [] => some (s, [])
  | (env, input) :: rest => do
    let (srv, sent) ← s.srv.take env input
    let event : Event := { env, input, sent }
    if srv.holders.Nodup ∧ WholeVangerRound (some event) then do
      let (last, events) ← (s.write srv (some event)).play rest
      some (last, some event :: events)
    else none

theorem Views.play_run {s last : Views} {inputs : List (Env × Input)} {events : List (Option Event)}
    (h : s.play inputs = some (last, events)) : Transition.Run ViewsStep s events last := by
  induction inputs generalizing s events with
  | nil =>
      simp only [Views.play, Option.some.injEq, Prod.mk.injEq] at h
      obtain ⟨rfl, rfl⟩ := h
      exact .nil
  | cons first rest ih =>
      obtain ⟨env, input⟩ := first
      simp only [Views.play, Option.bind_eq_bind, Option.bind_eq_some_iff] at h
      obtain ⟨⟨srv, sent⟩, htake, h⟩ := h
      split at h
      · rename_i hround
        simp only [Option.bind_eq_some_iff, Option.some.injEq, Prod.mk.injEq] at h
        obtain ⟨⟨last', events'⟩, hrest, rfl, rfl⟩ := h
        have hfirst : Transition.Run ViewsStep s [some { env, input, sent }]
            (s.write srv (some { env, input, sent })) :=
          Transition.Run.nil.snoc ⟨.take htake, rfl, .of_nodup hround.1, hround.2⟩
        exact hfirst.append (ih hrest)
      · cases h

/-- Two players stand in a world, and the first creates an item there. -/
theorem replica_agrees_create : ∃ tr s k g p v,
    Transition.Run ViewsStep (Views.new 0) tr s ∧ InWorld s.srv 8 k g p 0 ∧
      g.vanjects.lookup 0x040b0005#32 = some v ∧ v.playerBindId = 1 ∧
      s.replica 8 0x040b0005#32 = some v.entry := by
  have hplay : ((Views.new 0).play
      [(Env.atTime 0, .add (Client.new 7)), (Env.atTime 0, .add (Client.new 8)),
        (Env.atTime 0, ask 7 .attachToGame [0, 0, 0, 0]),
        (Env.atTime 0, ask 7 .setWorld [0, 0, 8]),
        (Env.atTime 0, ask 8 .attachToGame [1, 0, 0, 0]),
        (Env.atTime 0, ask 8 .setWorld [0, 0, 8]),
        (Env.atTime 0, ask 7 .createObject [5, 0, 11, 4, 0, 0, 0, 0, 0, 0, 0, 0, 0, 0])]).bind
      (fun played => do
        let entry ← played.1.srv.getGameByClientid 8
        let player ← entry.2.getPlayer 8
        let v ← entry.2.vanjects.lookup 0x040b0005#32
        some (entry.1, player.worldId, player.bindId, v.playerBindId, played.1.synced 8))
      = some (1, some 0, some 2, 1, true) := by
    decide +kernel
  obtain ⟨⟨s, tr⟩, hplayed, hfacts⟩ := Option.bind_eq_some_iff.mp hplay
  simp only [Option.bind_eq_bind, Option.bind_eq_some_iff, Option.some.injEq,
    Prod.mk.injEq] at hfacts
  obtain ⟨⟨key, game⟩, hgame, player, hplayer, v, hv, -, hworld, hb, howner, hsynced⟩ := hfacts
  have hrun := Views.play_run hplayed
  have hin : InWorld s.srv 8 key game player 0 :=
    ⟨Server.getGameByClientid_lookup hgame, Game.getPlayer_mem hplayer,
      Game.getPlayer_clientId hplayer, hworld⟩
  refine ⟨tr, s, key, game, player, v, hrun, hin, hv, howner, ?_⟩
  exact (replica_agrees hrun hin hb hsynced).1 _ v hv (by decide) (by decide)
    (by rw [howner]; decide)

end VangersSrv
