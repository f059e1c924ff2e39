/-
There is always a way to rest.

The main loop may wait with every packet for a connection until the writer of that connection sleeps
and nothing of it is on its way.  `CalmStep` is a step in which a call to the connection finds it so.
From every state in which the writer runs such steps lead to rest without another round, and what waits
in the two channels can be taken one round after the other with rest between them.
-/
import VangersSrv.System.Delivery
import VangersSrv.System.Draining

namespace VangersSrv

/-- The writer waits, and nothing is before a packet that is passed now. -/
structure Outbound.Calm (o : Outbound) : Prop where
  waits : o.writer = .wait
  tasks : o.tasks = []
  updates : o.latestObjectUpdates.packets = ∅

/-- A step in which a call to a connection, if it is one, finds the way out calm. -/
structure CalmStep (x : ClientID) (s : System) (e : Label) (s' : System) : Prop where
  system : SystemStep s e s'
  calm : ∀ call, e.calledTo x = some call → (s.outs x).Calm

section

variable {start : Instant} {x : ClientID} {tr t : List Label} {s s' : System} {e : Label}

/-- While a client is held and its writer runs, its queue is not closed. -/
theorem Delivering.live (h : Delivering tr s) (hdropped : (s.outs x).dropped = false)
    (hstarted : (s.outs x).writer ≠ .handshake) (hrunning : (s.outs x).writer ≠ .stopped) :
    (s.outs x).Live where
  notDropped := hdropped
  notClosed := by
    obtain ⟨t, hrun, -⟩ := h.run x
    by_contra hclosed
    have hgone := ((Outbound.Orderly.of_run hrun).closed (by simpa using hclosed)).2.2
    simp [hdropped] at hgone
  started := hstarted
  running := hrunning

/-- Only rounds change the server. -/
theorem SystemStep.srv_kept (h : SystemStep s e s') (hround : e.toRound = none) : s'.srv = s.srv := by
  cases h with
  | tick _ _ => cases hround
  | add _ _ _ => cases hround
  | take _ _ _ => cases hround
  | rehash _ _ => cases hround
  | _ => rfl

/-- A round of the main loop is a round of the server. -/
theorem SystemStep.step {r : Option Event} (h : SystemStep s (.round r) s') : Step s.srv r s'.srv := by
  cases h with
  | tick _ htake => exact .take htake
  | add _ _ htake => exact .take htake
  | take _ _ htake => exact .take htake
  | rehash _ hr => exact .rehash hr

/-- **The rounds of a run are a run of the server**, and what the run keeps of the server they keep. -/
theorem rounds_run {P : Server → Prop}
    (h : Transition.Run (fun a e b => SystemStep a e b ∧ P b.srv) s tr s') :
    Transition.Run (fun a e b => Step a e b ∧ P b) s.srv (roundsOf tr) s'.srv := by
  induction h with
  | nil => exact .nil
  | @snoc tr mid last e _ hlast ih =>
      have hrounds : roundsOf (tr ++ [e]) = roundsOf tr ++ e.toRound.toList := filterMap_snoc _ _ _
      rw [hrounds]
      cases e with
      | round r => exact ih.snoc ⟨hlast.1.step, hlast.2⟩
      | _ =>
          rw [hlast.1.srv_kept rfl]
          simpa [Label.toRound] using ih

/-! ### Calm runs -/

/-- A calm run is a run. -/
theorem calm_system (h : Transition.Run (CalmStep x) s t s') : Transition.Run SystemStep s t s' :=
  h.mono fun _ _ _ hstep => hstep.system

/-- Steps that make no call to the connection are calm. -/
theorem calm_quiet (h : Transition.Run SystemStep s t s') (hquiet : ∀ e ∈ t, e.calledTo x = none) :
    Transition.Run (CalmStep x) s t s' := by
  induction h with
  | nil => exact .nil
  | @snoc t mid last e _ hlast ih =>
      refine (ih fun e he => hquiet e (List.mem_append_left _ he)).snoc ⟨hlast, fun call hcall => ?_⟩
      rw [hquiet e (by simp)] at hcall
      cases hcall

/-- The operations of a call are such steps. -/
theorem calm_silent (h : Transition.Run SendStep s t s') (hsilent : ∀ e ∈ t, e = .silent) :
    Transition.Run (CalmStep x) s t s' := by
  refine calm_quiet (h.mono fun _ _ _ hstep => hstep.system) fun e he => ?_
  rw [hsilent e he]
  rfl

/-- So are the steps of the writer and the tasks. -/
theorem calm_drain {o : Outbound} {t : List (Option Call)} (h : Transition.Run DrainStep (s.outs x) t o) :
    ∃ t', Transition.Run (CalmStep x) s t' (s.setOut x o) ∧ ∀ e ∈ t', e.toRound = none := by
  induction h with
  | nil => exact ⟨[], by simpa [System.setOut] using Transition.Run.nil, fun _ he => by cases he⟩
  | @snoc t mid last e _ hlast ih =>
      obtain ⟨t', hmid, hquiet⟩ := ih
      have hout : (s.setOut x mid).outs x = mid := Function.update_self ..
      have hstep : SystemStep (s.setOut x mid) .silent ((s.setOut x mid).setOut x last) :=
        .background (by rw [hout]; exact hlast.background)
      have hset : (s.setOut x mid).setOut x last = s.setOut x last := by simp [System.setOut]
      rw [hset] at hstep
      refine ⟨_, hmid.snoc ⟨hstep, fun call hcall => by cases hcall⟩, fun e he => ?_⟩
      rcases List.mem_append.mp he with he | he
      · exact hquiet e he
      · rw [List.mem_singleton.mp he]
        rfl

/-- Without a round the server stays as it passed a test. -/
theorem calm_tested {test : Server → Bool} (h : Transition.Run (CalmStep x) s t s')
    (hquiet : ∀ e ∈ t, e.toRound = none) (htest : test s.srv = true) :
    Transition.Run (fun a e b => CalmStep x a e b ∧ test b.srv = true) s t s' ∧ s'.srv = s.srv := by
  induction h with
  | nil => exact ⟨.nil, rfl⟩
  | @snoc t mid last e _ hlast ih =>
      obtain ⟨hrun, hsame⟩ := ih fun e he => hquiet e (List.mem_append_left _ he)
      have hkept := (hlast.system.srv_kept (hquiet e (by simp))).trans hsame
      exact ⟨hrun.snoc ⟨hlast, by rw [hkept]; exact htest⟩, hkept⟩

/-- The writer of the connection goes to sleep. -/
theorem calm_rest (hlive : (s.outs x).Live) :
    ∃ t o, Transition.Run (CalmStep x) s t (s.setOut x o) ∧ (∀ e ∈ t, e.toRound = none) ∧
      o.AtRest ∧ o.Live ∧ o.ops = (s.outs x).ops := by
  obtain ⟨t, o, hrun, hrest, hlive', hops, -⟩ := hlive.exists_rest
  obtain ⟨t', hcalm, hquiet⟩ := calm_drain hrun
  exact ⟨t', o, hcalm, hquiet, hrest, hlive', hops⟩

/-- While the writer of the connection sleeps, a packet can be passed. -/
theorem calm_call {rest : List Sent} {first : Sent} (h : Transition.Run SystemStep (System.new start) tr s)
    (hlive : (s.outs x).Live) (hrest : (s.outs x).AtRest) (hdone : ∀ y, (s.outs y).ops = [])
    (hleft : s.sends = first :: rest) :
    ∃ t s', Transition.Run (CalmStep x) s t s' ∧ (∀ e ∈ t, e.toRound = none) ∧ OnlyOuts s s' ∧
      s'.sends = rest ∧ (∀ y, (s'.outs y).ops = []) ∧ (s'.outs x).Live := by
  have hdelivering := Delivering.of_run h
  obtain ⟨halive, hbuilt⟩ := hdelivering.sends first (hleft ▸ List.mem_cons_self)
  obtain ⟨data, hdata⟩ := Option.isSome_iff_exists.mp hbuilt.asBytes_isSome
  rw [← Sent.call_packet] at hdata
  have hcall : SendStep s (.call first.client first.call) _ :=
    .call hleft hdone (.call (hdone first.client) halive hdata)
  -- a writer that sleeps has nothing before it that the packet could overtake
  have hcalm : (s.outs x).Calm := by
    obtain ⟨t, hrun, -⟩ := hdelivering.run x
    have hasleep := hrest.asleep hlive
    exact ⟨hasleep.waits, hrest.1, (hasleep.idle hrun (hdone x)).2⟩
  obtain ⟨t, s', hops, hdone', hsends, hsilent⟩ := ops_complete (x := first.client)
    (s := { s.setOut first.client _ with sends := rest }) fun y hy => by
      show (Function.update s.outs first.client _ y).ops = []
      rw [Function.update_of_ne hy]
      exact hdone y
  have hpassed := PassedOn.run ((Transition.Run.nil.snoc hcall).append hops)
  have hfirst : Transition.Run (CalmStep x) s [.call first.client first.call] _ :=
    Transition.Run.nil.snoc ⟨hcall.system, fun _ _ => hcalm⟩
  have hrun := hfirst.append (calm_silent hops hsilent)
  refine ⟨_, s', hrun, fun e he => ?_, hpassed.toOnlyOuts, hsends, hdone', ?_⟩
  · rcases List.mem_cons.mp he with rfl | he
    · rfl
    · rw [hsilent e he]
      rfl
  · exact (Delivering.of_run (h.append (calm_system hrun))).live
      ((hpassed.dropped x).trans hlive.notDropped) (by rw [hpassed.writers]; exact hlive.started)
      (by rw [hpassed.writers]; exact hlive.running)

/-- Everything is passed, and the writer of the connection sleeps. -/
structure System.Rests (s : System) (x : ClientID) : Prop where
  idle : s.Idle
  rest : (s.outs x).AtRest
  live : (s.outs x).Live

theorem System.Rests.asleep (h : s.Rests x) : (s.outs x).Asleep := h.rest.asleep h.live

/-- What is left to send is passed, each packet when the writer sleeps. -/
theorem calm_sends (h : Transition.Run SystemStep (System.new start) tr s) (hlive : (s.outs x).Live)
    (hdone : ∀ y, (s.outs y).ops = []) :
    ∃ t s', Transition.Run (CalmStep x) s t s' ∧ (∀ e ∈ t, e.toRound = none) ∧ OnlyOuts s s' ∧
      s'.Rests x := by
  generalize hleft : s.sends = left
  induction left generalizing tr s with
  | nil =>
      obtain ⟨t, o, hrun, hquiet, hrest, hlive', hops⟩ := calm_rest hlive
      have hout : (s.setOut x o).outs x = o := Function.update_self ..
      refine ⟨t, _, hrun, hquiet, ⟨rfl, rfl, rfl, rfl, rfl⟩, ⟨hleft, ?_⟩, ?_, ?_⟩
      · exact System.ops_update hdone (hops.trans (hdone x))
      · rw [hout]
        exact hrest
      · rw [hout]
        exact hlive'
  | cons first rest ih =>
      obtain ⟨t₁, o, hdrain, hquiet₁, hrest, hlive', hops⟩ := calm_rest hlive
      have hout : (s.setOut x o).outs x = o := Function.update_self ..
      have hmid := h.append (calm_system hdrain)
      obtain ⟨t₂, s₂, hcall, hquiet₂, honly, hsends, hdone₂, hlive₂⟩ := calm_call hmid
        (by rw [hout]; exact hlive') (by rw [hout]; exact hrest)
        (System.ops_update hdone (hops.trans (hdone x))) hleft
      obtain ⟨t₃, s₃, hlast, hquiet₃, honly₃, hend⟩ :=
        ih (hmid.append (calm_system hcall)) hlive₂ hdone₂ hsends
      have hfirst : OnlyOuts s (s.setOut x o) := ⟨rfl, rfl, rfl, rfl, rfl⟩
      refine ⟨_, s₃, (hdrain.append hcall).append hlast, fun e he => ?_,
        (hfirst.trans honly).trans honly₃, hend⟩
      rcases List.mem_append.mp he with he | he
      · exact (List.mem_append.mp he).elim (hquiet₁ e) (hquiet₂ e)
      · exact hquiet₃ e he

/-- **A connection can always come to rest** while the server holds it and its writer runs: with calm
steps and without another round. -/
theorem calm_catches_up (h : Transition.Run SystemStep (System.new start) tr s)
    (hconnected : x ∈ s.srv.connected) (hstarted : (s.outs x).writer ≠ .handshake)
    (hrunning : (s.outs x).writer ≠ .stopped) :
    ∃ t s', Transition.Run (CalmStep x) s t s' ∧ (∀ e ∈ t, e.toRound = none) ∧ OnlyOuts s s' ∧
      s'.Rests x := by
  have hdelivering := Delivering.of_run h
  have hlive := hdelivering.live (hdelivering.held x (Or.inr (Or.inr hconnected))) hstarted hrunning
  -- the call that is being made comes first
  obtain ⟨y, hy⟩ := hdelivering.exists_caller
  obtain ⟨t₁, s₁, hrun, hdone, -, hsilent⟩ := ops_complete hy
  have hpassed := PassedOn.run hrun
  have hfirst : Transition.Run (CalmStep x) s t₁ s₁ := calm_silent hrun hsilent
  have hmid := h.append (calm_system hfirst)
  have hlive₁ := (Delivering.of_run hmid).live ((hpassed.dropped x).trans hlive.notDropped)
    (by rw [hpassed.writers]; exact hstarted) (by rw [hpassed.writers]; exact hrunning)
  obtain ⟨t₂, s₂, hrest, hquiet, honly, hend⟩ := calm_sends hmid hlive₁ hdone
  refine ⟨_, s₂, hfirst.append hrest, fun e he => ?_, hpassed.toOnlyOuts.trans honly, hend⟩
  rcases List.mem_append.mp he with he | he
  · rw [hsilent e he]
    rfl
  · exact hquiet e he

/-! ### Playing what waits -/

/-- What waits in the two channels, as inputs of the main loop. -/
def System.waiting (s : System) : List (Env × Input) :=
  s.events.map (fun y => (Env.atTime 0, .add (Client.new y))) ++
    s.messages.map fun m => (Env.atTime 0, .message m.1 m.2)

/-- The first of what waits is taken, and what the round sends is passed. -/
theorem calm_round {env : Env} {input : Input} {rest : List (Env × Input)} {srv : Server}
    {sent : List Sent} (h : Transition.Run SystemStep (System.new start) tr s) (hrests : s.Rests x)
    (hwaiting : s.waiting = (env, input) :: rest) (htake : s.srv.take env input = some (srv, sent)) :
    ∃ mid t s', SystemStep s (.round (some { env, input, sent })) mid ∧ mid.srv = srv ∧
      Transition.Run (CalmStep x) mid t s' ∧ (∀ e ∈ t, e.toRound = none) ∧ s'.srv = srv ∧
      s'.waiting = rest ∧ s'.Rests x ∧
      ((∃ y, input = .add (Client.new y)) ∨
        ∃ y message, input = .message y message ∧ (y, message) ∈ s.messages) ∧
      ∀ m ∈ s'.messages, m ∈ s.messages := by
  -- after the round the rest waits
  have hgo : ∀ {mid : System}, SystemStep s (.round (some { env, input, sent })) mid →
      mid.srv = srv → mid.outs = s.outs → mid.waiting = rest →
      ∃ t s', Transition.Run (CalmStep x) mid t s' ∧ (∀ e ∈ t, e.toRound = none) ∧ s'.srv = srv ∧
        s'.waiting = rest ∧ s'.Rests x ∧ s'.messages = mid.messages := by
    intro mid hstep hsrv houts hleft
    obtain ⟨t, s', hrun, hquiet, honly, hend⟩ := calm_sends (h.snoc hstep)
      (by rw [houts]; exact hrests.live) (by rw [houts]; exact hrests.idle.2)
    refine ⟨t, s', hrun, hquiet, honly.srv.trans hsrv, ?_, hend, honly.messages⟩
    rw [← hleft, System.waiting, System.waiting, honly.events, honly.messages]
  cases hevents : s.events with
  | cons y events =>
      simp only [System.waiting, hevents, List.map_cons, List.cons_append, List.cons.injEq,
        Prod.mk.injEq] at hwaiting
      obtain ⟨⟨rfl, rfl⟩, hleft⟩ := hwaiting
      obtain ⟨t, s', hrun, hquiet, hsrv, hrest, hend, hmessages⟩ :=
        hgo (.addAt 0 hrests.idle hevents htake) rfl rfl hleft
      exact ⟨_, t, s', .addAt 0 hrests.idle hevents htake, rfl, hrun, hquiet, hsrv, hrest, hend,
        Or.inl ⟨y, rfl⟩, fun m hm => hmessages ▸ hm⟩
  | nil =>
      cases hmessages : s.messages with
      | nil => simp [System.waiting, hevents, hmessages] at hwaiting
      | cons m messages =>
          obtain ⟨y, message⟩ := m
          simp only [System.waiting, hevents, hmessages, List.map_nil, List.nil_append,
            List.map_cons, List.cons.injEq, Prod.mk.injEq] at hwaiting
          obtain ⟨⟨rfl, rfl⟩, hleft⟩ := hwaiting
          obtain ⟨t, s', hrun, hquiet, hsrv, hrest, hend, hkept⟩ :=
            hgo (.takeAt 0 hrests.idle hmessages htake) rfl rfl (by
              simp only [System.waiting, System.afterRound, hevents, List.map_nil, List.nil_append]
              exact hleft)
          refine ⟨_, t, s', .takeAt 0 hrests.idle hmessages htake, rfl, hrun, hquiet, hsrv, hrest, hend,
            Or.inr ⟨y, message, rfl, List.mem_cons_self⟩, fun m hm => ?_⟩
          rw [hkept] at hm
          exact List.mem_cons_of_mem _ hm

/-- What waits can be played, one round after the other, as long as the states pass the test. -/
theorem calm_play {test : Server → Bool} {inputs rest : List (Env × Input)} {srv : Server}
    {events : List (Option Event)} (h : Transition.Run SystemStep (System.new start) tr s)
    (hrests : s.Rests x) (hwaiting : s.waiting = inputs ++ rest)
    (hplay : playWhile (fun _ _ => test) s.srv inputs = some (srv, events)) :
    ∃ t s', Transition.Run (fun a e b => CalmStep x a e b ∧ test b.srv = true) s t s' ∧
      roundsOf t = events ∧ s'.srv = srv ∧ s'.waiting = rest ∧ s'.Rests x := by
  induction inputs generalizing tr s events with
  | nil =>
      simp only [playWhile, Option.some.injEq, Prod.mk.injEq] at hplay
      obtain ⟨rfl, rfl⟩ := hplay
      exact ⟨[], s, .nil, rfl, rfl, hwaiting, hrests⟩
  | cons first inputs ih =>
      obtain ⟨env, input⟩ := first
      simp only [playWhile, Option.bind_eq_bind, Option.bind_eq_some_iff] at hplay
      obtain ⟨⟨next, sent⟩, htake, hplay⟩ := hplay
      split at hplay
      swap
      · cases hplay
      rename_i htest
      simp only [Option.bind_eq_some_iff, Option.some.injEq, Prod.mk.injEq] at hplay
      obtain ⟨⟨last, later⟩, hplay, rfl, rfl⟩ := hplay
      obtain ⟨mid, t₁, s₁, hround, hmid, hrun, hquiet, hsrv, hleft, hrests₁, -, -⟩ :=
        calm_round h hrests hwaiting htake
      have hreach := (h.snoc hround).append (calm_system hrun)
      obtain ⟨t₂, s₂, hlast, hrounds, hend⟩ := ih hreach hrests₁ hleft (by rw [hsrv]; exact hplay)
      have hcalm : Transition.Run (fun a e b => CalmStep x a e b ∧ test b.srv = true) mid t₁ s₁ := by
        have htested : test mid.srv = true := by rw [hmid]; exact htest
        refine (calm_tested hrun hquiet htested).1
      have hfirst : Transition.Run (fun a e b => CalmStep x a e b ∧ test b.srv = true) s _ s₁ :=
        (Transition.Run.nil.snoc ⟨⟨hround, fun call hcall => by cases hcall⟩, by
          rw [hmid]
          exact htest⟩).append hcalm
      refine ⟨_, s₂, hfirst.append hlast, ?_, hend⟩
      rw [roundsOf, List.filterMap_append, List.filterMap_append, List.filterMap_eq_nil_iff.mpr hquiet,
        show t₂.filterMap Label.toRound = later from hrounds]
      rfl

/-! ### Two clients -/

/-- As long as nothing is called, no call is being made. -/
theorem ops_of_uncalled (h : Transition.Run SystemStep (System.new start) tr s)
    (hquiet : ∀ e ∈ tr, ∀ y, e.calledTo y = none) (y : ClientID) : (s.outs y).ops = [] := by
  induction h with
  | nil => rfl
  | @snoc t mid last e _ hlast ih =>
      by_contra hops
      rcases hlast.ops hops with hbefore | ⟨⟨made, rfl⟩, -⟩
      · exact hbefore (ih fun e he => hquiet e (List.mem_append_left _ he))
      · have hcalled := hquiet (.call y made) (by simp) y
        simp [Label.calledTo] at hcalled

end

/-- Two clients have greeted the server and asked to play: the one makes a game and enters a world, the
other joins it there and creates an item. -/
theorem System.greeted : ∃ tr s, Transition.Run (CalmStep 8) (System.new 0) tr s ∧
    (∀ e ∈ tr, e.toRound = none) ∧ s.Rests 8 ∧ s.srv = Server.new 0 ∧ s.events = [7, 8] ∧
      s.messages = [(8, .status (.authenticated protocolVersion)),
        (8, .updated (request .attachToGame [0, 0, 0, 0])), (8, .updated (request .setWorld [0, 0, 8])),
        (7, .status (.authenticated protocolVersion)),
        (7, .updated (request .attachToGame [1, 0, 0, 0])), (7, .updated (request .setWorld [0, 0, 8])),
        (7, .updated (request .createObject [5, 0, 11, 4, 0, 0, 0, 0, 0, 0, 0, 0, 0, 0]))] := by
  have hcut {s : System} {y : ClientID} {buff : Bytes} {readable offset offset' : Nat} (packet : Packet)
      (hreader : s.readers y = some (.parsing buff readable offset))
      (hround : ReadBuffer.round buff readable offset = some (packet, offset')) :
      SystemStep s (.read y []) (s.setReader y (.updated packet buff readable offset')) :=
    .read hreader (.cut hround)
  have hrun := (Transition.Run.nil : Transition.Run SystemStep (System.new 0) [] (System.new 0))
    |>.snoc (.accept (x := 7) rfl rfl)
    |>.snoc (.enqueue (x := 7) rfl (by decide))
    |>.snoc (.accept (x := 8) rfl rfl)
    |>.snoc (.enqueue (x := 8) rfl (by decide))
    |>.snoc (.readBytes (x := 8) greeting rfl (.accepted (by decide) (by decide) (by decide)))
    |>.snoc (.say (x := 8) rfl rfl (by decide))
    |>.snoc (.readBytes (x := 8) [5, 0, 131, 0, 0, 0, 0, 4, 0, 139, 0, 0, 8] rfl
      (.read (by decide) (by decide)))
    |>.snoc (hcut (y := 8) (request .attachToGame [0, 0, 0, 0]) rfl rfl)
    |>.snoc (.say (x := 8) rfl rfl (by decide))
    |>.snoc (hcut (y := 8) (request .setWorld [0, 0, 8]) rfl rfl)
    |>.snoc (.say (x := 8) rfl rfl (by decide))
    |>.snoc (.readBytes (x := 7) greeting rfl (.accepted (by decide) (by decide) (by decide)))
    |>.snoc (.say (x := 7) rfl rfl (by decide))
    |>.snoc (.readBytes (x := 7) [5, 0, 131, 1, 0, 0, 0, 4, 0, 139, 0, 0, 8,
      15, 0, 2, 5, 0, 11, 4, 0, 0, 0, 0, 0, 0, 0, 0, 0, 0] rfl (.read (by decide) (by decide)))
    |>.snoc (hcut (y := 7) (request .attachToGame [1, 0, 0, 0]) rfl rfl)
    |>.snoc (.say (x := 7) rfl rfl (by decide))
    |>.snoc (hcut (y := 7) (request .setWorld [0, 0, 8]) rfl rfl)
    |>.snoc (.say (x := 7) rfl rfl (by decide))
    |>.snoc (hcut (y := 7) (request .createObject [5, 0, 11, 4, 0, 0, 0, 0, 0, 0, 0, 0, 0, 0]) rfl rfl)
    |>.snoc (.say (x := 7) rfl rfl (by decide))
  obtain ⟨tr, s, hread, hquiet, hlive, hrest⟩ : ∃ tr s, Transition.Run SystemStep (System.new 0) tr s ∧
      (∀ e ∈ tr, e.toRound = none ∧ ∀ y, e.calledTo y = none) ∧ (s.outs 8).Live ∧
      s.srv = Server.new 0 ∧ s.events = [7, 8] ∧ s.messages = _ :=
    ⟨_, _, hrun, by simp [Label.toRound, Label.calledTo], ⟨rfl, rfl, nofun, nofun⟩, rfl, rfl, rfl⟩
  obtain ⟨t, s', hcalm, hsilent, honly, hrests⟩ :=
    calm_sends hread hlive (ops_of_uncalled hread fun e he => (hquiet e he).2)
  refine ⟨_, s', (calm_quiet hread fun e he => (hquiet e he).2 8).append hcalm, fun e he => ?_, hrests, ?_⟩
  · exact (List.mem_append.mp he).elim (fun he => (hquiet e he).1) (hsilent e)
  · rw [honly.srv, honly.events, honly.messages]
    exact hrest

end VangersSrv
