/-
The table of a client agrees with the server.

From the objects that the server stores to the table that a client makes of its wire there are two
links.  What the rounds send keeps a replica right that reads every packet at once; and what is sent
is passed, moved, coalesced and written so that the wire does to a table what the packets do in
their order.  Put together: whenever a client is told of all that was sent to it and its writer
sleeps, the table it has made of its wire agrees with what the server stores, for the objects that
are not its own to change.  And there is always a way to get there.
-/
import VangersSrv.Client.Tables
import VangersSrv.System.Resting

namespace VangersSrv

open Replica

/-! ### A system that is watched -/

/-- The system, and what every connection would know if it read every packet at once. -/
structure Watched where
  sys : System
  views : Views

def Watched.new (start : Instant) : Watched := { sys := System.new start, views := Views.new start }

/-- A step of the system in which every call to one connection fits in, and a request of its own
about an object changes none of certain objects. -/
structure WatchedStep (x : ClientID) (theirs : I32 → Prop) (a : Watched) (e : Label) (b : Watched) :
    Prop where
  system : SystemStep a.sys e b.sys
  round : ∀ r, e.toRound = some r → ViewsStep a.views r b.views
  still : e.toRound = none → b.views = a.views
  same : b.views.srv = b.sys.srv
  others : ∀ r, e.toRound = some r → OwnRequest r x → ∀ id, theirs id →
    b.sys.srv.stored x id = a.sys.srv.stored x id
  fits : ∀ call, e.calledTo x = some call → call.FitsIn (a.sys.outs x)

/-- What is sent, what is passed and what is known go together. -/
structure Watching (start : Instant) (x : ClientID) (theirs : I32 → Prop) (tr : List Label)
    (a : Watched) : Prop where
  fitting : Transition.Run (fun s e s' => SystemStep s e s' ∧
    ∀ call, e.calledTo x = some call → call.FitsIn (s.outs x)) (System.new start) tr a.sys
  views : Transition.Run ViewsStep (Views.new start) (roundsOf tr) a.views
  same : a.views.srv = a.sys.srv
  known : ∀ id, theirs id → a.views.replica x id = (sentTo x (sentOf tr)).on (fun _ => none) id

section

variable {start : Instant} {x : ClientID} {theirs : I32 → Prop} {tr : List Label} {a b : Watched}
  {e : Label} {sent : List Sent}

/-- The packets of the calls are the packets that were sent. -/
theorem write_callsTo : Write.all ((callsTo x sent).map Call.write) = sentTo x sent := by
  unfold callsTo sentTo packetsTo
  rw [List.map_map, List.map_map]
  congr 2
  funext s
  simp [Call.write]

namespace Watching

theorem new : Watching start x theirs [] (Watched.new start) where
  fitting := .nil
  views := .nil
  same := rfl
  known := fun _ _ => rfl

theorem step (h : Watching start x theirs tr a) (hstep : WatchedStep x theirs a e b) :
    Watching start x theirs (tr ++ [e]) b where
  fitting := h.fitting.snoc ⟨hstep.system, hstep.fits⟩
  views := by
    have hrounds : roundsOf (tr ++ [e]) = roundsOf tr ++ e.toRound.toList := filterMap_snoc _ _ _
    rw [hrounds]
    cases hround : e.toRound with
    | none =>
        rw [Option.toList_none, List.append_nil, hstep.still hround]
        exact h.views
    | some r => exact h.views.snoc (hstep.round r hround)
  same := hstep.same
  known := by
    intro id hid
    rw [sentOf_snoc]
    cases hround : e.toRound with
    | none =>
        rw [hstep.still hround, h.known id hid]
        simp
    | some r =>
        obtain ⟨-, hwrite, -, -⟩ := hstep.round r hround
        have htold : (sentTo x (sentIn r)).on (a.views.replica x) id
            = (sentTo x (sentOf tr ++ sentIn r)).on (fun _ => none) id := by
          rw [sentTo_append, Write.andThen_on]
          simp only [Write.on]
          rw [h.known id hid]
          rfl
        have hreplica : b.views.replica x id = a.views.learn b.views.srv r x id := by
          rw [hwrite]
          rfl
        rw [hreplica]
        simp only [Option.toList_some, List.flatMap_cons, List.flatMap_nil, List.append_nil]
        unfold Views.learn
        by_cases hown : OwnRequest r x
        · rw [if_pos hown, mirror, if_pos, htold]
          rw [h.same, hstep.same]
          exact hstep.others r hround hown id hid
        · rw [if_neg hown, htold]

theorem of_run (h : Transition.Run (WatchedStep x theirs) (Watched.new start) tr a) :
    Watching start x theirs tr a :=
  h.history (P := Watching start x theirs) .new fun _ _ _ _ _ hstep hbefore => hbefore.step hstep

theorem system (h : Watching start x theirs tr a) : Transition.Run SystemStep (System.new start) tr a.sys :=
  h.fitting.mono fun _ _ _ hstep => hstep.1

/-- When all is sent and passed and the writer sleeps, the table of the wire is what is known. -/
theorem table (h : Watching start x theirs tr a) (hsends : callsTo x a.sys.sends = [])
    (hidle : (a.sys.outs x).ops = []) (hasleep : (a.sys.outs x).Asleep)
    (htasks : (a.sys.outs x).tasks = []) :
    ∀ id, theirs id → tableOf (a.sys.outs x).wire id = a.views.replica x id := by
  intro id hid
  obtain ⟨t, hrun, hcalls⟩ := outs_run h.fitting
  have hcalled := (Delivering.of_run h.system).called x
  rw [hsends, List.append_nil] at hcalled
  rw [tableOf_wire hrun hasleep hidle htasks, hcalls, hcalled, write_callsTo, h.known id hid]

end Watching

/-- What a table has to show of the objects that are others' to change: those of its player's world
of the types that are shown, unless they are its player's own, exactly as they are stored; and
nothing in its sight that is not stored. -/
structure TableAgrees (theirs : I32 → Prop) (table : View I32 Bytes) (g : Game) (w b : UInt8) : Prop where
  shown : ∀ id v, theirs id → g.vanjects.lookup id = some v → worldOf id = w →
    getVanjectType id ∈ [NID.vanger, NID.slot, NID.device, NID.shell, NID.stuff] →
    v.playerBindId ≠ b → table id = some v.entry
  stored : ∀ id entry, theirs id → worldOf id = w ∨ isNonGlobalVanject id = false →
    table id = some entry → ∃ v, g.vanjects.lookup id = some v ∧ v.entry = entry

theorem Watching.agrees {k : GameID} {g : Game} {p : Player} {w bind : UInt8}
    (h : Watching start x theirs tr a) (hsends : callsTo x a.sys.sends = [])
    (hidle : (a.sys.outs x).ops = []) (hasleep : (a.sys.outs x).Asleep)
    (htasks : (a.sys.outs x).tasks = []) (hsynced : a.views.synced x = true)
    (hin : InWorld a.sys.srv x k g p w) (hb : p.bindId = some bind) :
    TableAgrees theirs (tableOf (a.sys.outs x).wire) g w bind := by
  have htable := h.table hsends hidle hasleep htasks
  have hok := h.views.invariant (P := ViewsOk) (viewsOk_new start) fun _ _ _ hstep hs => hstep.ok hs
  have hagrees := hok.agrees x k g p w bind hsynced (h.same ▸ hin) hb
  constructor
  · intro id v hid hv hworld htype howner
    rw [htable id hid]
    refine hagrees.stored id v.entry (Or.inl hworld) (by rw [storedView, hv]; rfl) ⟨htype, ?_⟩
    rw [head?_entry]
    simpa using howner
  · intro id entry hid hsight hknown
    rw [htable id hid] at hknown
    exact Option.map_eq_some_iff.mp (hagrees.known id entry hsight hknown)

/-- **The table of a client agrees with the server.**  In every run in which the calls to a
connection fit in, when everything that was sent to it has been passed and its writer sleeps, the
table that its client has made of the bytes on its wire agrees with what the server stores, for the
objects that its own requests do not change. -/
theorem table_agrees {k : GameID} {g : Game} {p : Player} {w bind : UInt8}
    (h : Transition.Run (WatchedStep x theirs) (Watched.new start) tr a)
    (hsends : ∀ sent ∈ a.sys.sends, sent.client ≠ x) (hidle : (a.sys.outs x).ops = [])
    (hasleep : (a.sys.outs x).Asleep) (htasks : (a.sys.outs x).tasks = [])
    (hsynced : a.views.synced x = true) (hin : InWorld a.sys.srv x k g p w)
    (hb : p.bindId = some bind) : TableAgrees theirs (tableOf (a.sys.outs x).wire) g w bind := by
  have hnone : callsTo x a.sys.sends = [] := by
    unfold callsTo
    rw [List.map_eq_nil_iff, List.filter_eq_nil_iff]
    simpa using hsends
  exact (Watching.of_run h).agrees hnone hidle hasleep htasks hsynced hin hb

/-! ### There is always a way -/

/-- A step between two rounds, in which a call fits in if it is to the connection. -/
theorem WatchedStep.of_quiet {s' : System} (hstep : SystemStep a.sys e s') (hround : e.toRound = none)
    (hsame : a.views.srv = a.sys.srv)
    (hfits : ∀ call, e.calledTo x = some call → call.FitsIn (a.sys.outs x)) :
    WatchedStep x theirs a e { a with sys := s' } where
  system := hstep
  round := fun r hr => by simp [hround] at hr
  still := fun _ => rfl
  same := hsame.trans (hstep.srv_kept hround).symm
  others := fun r hr => by simp [hround] at hr
  fits := hfits

/-- Calm steps that are no rounds are watched. -/
theorem watched_calm {s' : System} {t : List Label} (h : Transition.Run (CalmStep x) a.sys t s')
    (hquiet : ∀ e ∈ t, e.toRound = none) (hsame : a.views.srv = a.sys.srv) :
    Transition.Run (WatchedStep x theirs) a t { a with sys := s' } := by
  have hkept : s'.srv = a.sys.srv ∧ Transition.Run (WatchedStep x theirs) a t { a with sys := s' } := by
    induction h with
    | nil => exact ⟨rfl, .nil⟩
    | @snoc t mid last e hrun hlast ih =>
        have hround := hquiet e (by simp)
        obtain ⟨hsrv, hmid⟩ := ih fun e he => hquiet e (List.mem_append_left _ he)
        refine ⟨(hlast.system.srv_kept hround).trans hsrv, hmid.snoc (.of_quiet hlast.system hround ?_ ?_)⟩
        · exact hsame.trans hsrv.symm
        · intro call hcall
          obtain ⟨hwaits, htasks, hupdates⟩ := hlast.calm call hcall
          exact .of_rest call hwaits htasks hupdates
  exact hkept.2

/-- **The table of a client can always catch up.**  From every state of such a run there is a way
on, on which no round is made and every call fits in, to a state where everything that was sent to
the connection has been passed and written; and there its table agrees with the server. -/
theorem table_catches_up (h : Transition.Run (WatchedStep x theirs) (Watched.new start) tr a)
    (hconnected : x ∈ a.sys.srv.connected) (hstarted : (a.sys.outs x).writer ≠ .handshake)
    (hrunning : (a.sys.outs x).writer ≠ .stopped) :
    ∃ t s, Transition.Run (WatchedStep x theirs) a t { a with sys := s } ∧ OnlyOuts a.sys s ∧ s.Idle ∧
      (s.outs x).AtRest ∧ (s.outs x).Live ∧
      ∀ k g p w bind, a.views.synced x = true → InWorld a.sys.srv x k g p w → p.bindId = some bind →
        TableAgrees theirs (tableOf (s.outs x).wire) g w bind := by
  obtain ⟨t, s, hrun, hquiet, honly, hrests⟩ :=
    calm_catches_up (Watching.of_run h).system hconnected hstarted hrunning
  have hwatched : Transition.Run (WatchedStep x theirs) a t { a with sys := s } :=
    watched_calm hrun hquiet (Watching.of_run h).same
  refine ⟨t, s, hwatched, honly, hrests.idle, hrests.rest, hrests.live, ?_⟩
  intro k g p w bind hsynced hin hb
  exact (Watching.of_run (h.append hwatched)).agrees (by rw [hrests.idle.1]; rfl) (hrests.idle.2 x)
    hrests.asleep hrests.rest.1 hsynced (honly.srv ▸ hin) hb

/-! ### Playing what waits -/

/-- What waits can be played, one round after the other. -/
theorem watched_play {v : Views} {played : List (Option Event)}
    (h : Transition.Run (WatchedStep x theirs) (Watched.new start) tr a) (hrests : a.sys.Rests x)
    (hplay : a.views.play a.sys.waiting = some (v, played))
    (hothers : ∀ m ∈ a.sys.messages, ∀ p, m = (x, .updated p) → p.action ∉ objectActions) :
    ∃ t s, Transition.Run (WatchedStep x theirs) a t { sys := s, views := v } ∧ s.Rests x := by
  generalize hwaiting : a.sys.waiting = inputs at hplay
  induction inputs generalizing tr a played with
  | nil =>
      simp only [Views.play, Option.some.injEq, Prod.mk.injEq] at hplay
      obtain ⟨rfl, -⟩ := hplay
      exact ⟨[], a.sys, .nil, hrests⟩
  | cons first rest ih =>
      obtain ⟨env, input⟩ := first
      simp only [Views.play, Option.bind_eq_bind, Option.bind_eq_some_iff] at hplay
      obtain ⟨⟨srv, sent⟩, htake, hplay⟩ := hplay
      split at hplay
      swap
      · cases hplay
      rename_i hround
      simp only [Option.bind_eq_some_iff, Option.some.injEq, Prod.mk.injEq] at hplay
      obtain ⟨⟨last, later⟩, hplay, rfl, -⟩ := hplay
      have hwatching := Watching.of_run h
      have hviews : ViewsStep a.views (some { env, input, sent })
          (a.views.write srv (some { env, input, sent })) :=
        ⟨.take htake, rfl, .of_nodup hround.1, hround.2⟩
      rw [hwatching.same] at htake
      obtain ⟨mid, t, s, hstep, hmid, hcalm, hquiet, -, hleft, hrests', hinput, hmessages⟩ :=
        calm_round hwatching.system hrests hwaiting htake
      -- what is taken of the connection is about no object
      have hown : ¬ OwnRequest (some { env, input, sent }) x := by
        rintro ⟨⟨z, packet⟩, hrequest, hz, hobject⟩
        rcases hinput with ⟨y, rfl⟩ | ⟨y, message, rfl, hm⟩
        · cases hrequest
        · cases message with
          | updated p =>
              obtain ⟨rfl, rfl⟩ := Prod.mk.inj (Option.some.inj hrequest)
              obtain rfl : y = x := hz
              exact hothers _ hm p rfl hobject
          | _ => cases hrequest
      have htaken : WatchedStep x theirs a (.round (some { env, input, sent }))
          { sys := mid, views := a.views.write srv (some { env, input, sent }) } := {
        system := hstep
        round := fun r hr => by
          obtain rfl := Option.some.inj hr
          exact hviews
        still := fun hnone => by cases hnone
        same := hmid.symm
        others := fun r hr howns => by
          obtain rfl := Option.some.inj hr
          exact absurd howns hown
        fits := fun call hcall => by cases hcall }
      have hfirst := (Transition.Run.nil.snoc htaken).append (watched_calm hcalm hquiet hmid.symm)
      obtain ⟨t', s', hlast, hend⟩ := ih (h.append hfirst) hrests'
        (fun m hm => hothers m (hmessages m hm)) hleft hplay
      exact ⟨_, s', hfirst.append hlast, hend⟩

end

/-- They play: the second has created an item, and the first is in its world. -/
theorem Watched.joined (theirs : I32 → Prop) : ∃ tr a k g p v,
    Transition.Run (WatchedStep 8 theirs) (Watched.new 0) tr a ∧ a.sys.Rests 8 ∧
      8 ∈ a.sys.srv.connected ∧ a.views.synced 8 = true ∧ InWorld a.sys.srv 8 k g p 0 ∧ p.bindId = some 1 ∧
      g.vanjects.lookup 0x040b0005#32 = some v ∧ v.playerBindId = 2 := by
  obtain ⟨tr, s, hcalm, hquiet, hrests, -, hevents, hmessages⟩ := System.greeted
  have hrun : Transition.Run (WatchedStep 8 theirs) (Watched.new 0) tr _ :=
    watched_calm (a := Watched.new 0) hcalm hquiet rfl
  have hplay : ((Views.new 0).play
      [(Env.atTime 0, .add (Client.new 7)), (Env.atTime 0, .add (Client.new 8)),
        (Env.atTime 0, .message 8 (.status (.authenticated protocolVersion))),
        (Env.atTime 0, ask 8 .attachToGame [0, 0, 0, 0]), (Env.atTime 0, ask 8 .setWorld [0, 0, 8]),
        (Env.atTime 0, .message 7 (.status (.authenticated protocolVersion))),
        (Env.atTime 0, ask 7 .attachToGame [1, 0, 0, 0]), (Env.atTime 0, ask 7 .setWorld [0, 0, 8]),
        (Env.atTime 0, ask 7 .createObject [5, 0, 11, 4, 0, 0, 0, 0, 0, 0, 0, 0, 0, 0])]).bind
      (fun played => do
        let entry ← played.1.srv.getGameByClientid 8
        let player ← entry.2.getPlayer 8
        let v ← entry.2.vanjects.lookup 0x040b0005#32
        some (decide (8 ∈ played.1.srv.connected), player.worldId, player.bindId, v.playerBindId,
          played.1.synced 8))
      = some (true, some 0, some 1, 2, true) := by
    decide +kernel
  obtain ⟨⟨v, played⟩, hplayed, hfacts⟩ := Option.bind_eq_some_iff.mp hplay
  simp only [Option.bind_eq_bind, Option.bind_eq_some_iff, Option.some.injEq,
    Prod.mk.injEq] at hfacts
  obtain ⟨⟨key, game⟩, hgame, player, hplayer, object, hobject, hconnected, hworld, hb, howner, hsynced⟩ :=
    hfacts
  obtain ⟨t, last, hlast, hend⟩ := watched_play hrun hrests
    (by rw [System.waiting, hevents, hmessages]; exact hplayed)
    (by
      rintro m hm p rfl
      have hp : p = request .attachToGame [0, 0, 0, 0] ∨ p = request .setWorld [0, 0, 8] := by
        simpa [hmessages] using hm
      rcases hp with rfl | rfl
      · decide
      · decide)
  have hall := hrun.append hlast
  have hsame : v.srv = last.srv := (Watching.of_run hall).same
  refine ⟨_, _, key, game, player, object, hall, hend, ?_, hsynced, ?_, hb, hobject, howner⟩
  · rw [← hsame]
    exact of_decide_eq_true hconnected
  · rw [← hsame]
    exact ⟨Server.getGameByClientid_lookup hgame, Game.getPlayer_mem hplayer,
      Game.getPlayer_clientId hplayer, hworld⟩

/-- The first client has read of the item that the second has created. -/
theorem table_agrees_joined : ∃ tr a k g v,
    Transition.Run (WatchedStep 8 fun _ => True) (Watched.new 0) tr a ∧
      a.sys.srv.games.lookup k = some g ∧ g.vanjects.lookup 0x040b0005#32 = some v ∧
      tableOf (a.sys.outs 8).wire 0x040b0005#32 = some v.entry := by
  obtain ⟨tr, a, k, g, p, v, hrun, hrests, -, hsynced, hin, hb, hv, howner⟩ :=
    Watched.joined fun _ => True
  have hagrees := table_agrees hrun (by simp [hrests.idle.1]) (hrests.idle.2 8) hrests.asleep
    hrests.rest.1 hsynced hin hb
  refine ⟨tr, a, k, g, v, hrun, hin.inGame, hv, ?_⟩
  exact hagrees.shown _ v trivial hv (by decide) (by decide) (by rw [howner]; decide)

/-- The first client can read of it. -/
theorem table_catches_up_joined : ∃ tr a t s, ∃ g : Game, ∃ v : Vanject,
    Transition.Run (WatchedStep 8 fun _ => True) (Watched.new 0) tr a ∧
      Transition.Run (WatchedStep 8 fun _ => True) a t { a with sys := s } ∧
      g.vanjects.lookup 0x040b0005#32 = some v ∧
      tableOf (s.outs 8).wire 0x040b0005#32 = some v.entry := by
  obtain ⟨tr, a, k, g, p, v, hrun, hrests, hconnected, hsynced, hin, hb, hv, howner⟩ :=
    Watched.joined fun _ => True
  obtain ⟨t, s, hrest, -, -, -, -, hagrees⟩ :=
    table_catches_up hrun hconnected hrests.live.started hrests.live.running
  refine ⟨tr, a, t, s, g, v, hrun, hrest, hv, ?_⟩
  exact (hagrees k g p 0 1 hsynced hin hb).shown _ v trivial hv (by decide) (by decide)
    (by rw [howner]; decide)

end VangersSrv
