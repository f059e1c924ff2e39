/-
Which connections are clients.

The rounds of the main loop, taken out of a run of the system, are a run of the ledger: the
listener hands every client over once, and after a disconnect nothing of its connection is left
in the channel.  So the clients can be read off a run.  A connection is one from the round that
added it on, until a round takes its disconnect or takes its player over; a disconnect that was
taken before does not count.
-/
import VangersSrv.System.Sessions

namespace VangersSrv

/-! ### Rounds -/

namespace Label

/-- The round of the main loop that a step is. -/
def toRound : Label → Option (Option Event)
  | .round e => some e
  | _ => none

/-- A round that adds the client of a connection. -/
def Registers (x : ClientID) : Label → Prop
  | .round (some { input := .add client, .. }) => client.id = x
  | _ => False

/-- A round that takes the disconnect of a connection, or its player over. -/
def Unregisters (s : System) (x : ClientID) : Label → Prop
  | .round (some { input := .message c .disconnected, .. }) => c = x
  | .round (some { input := .message c (.updated packet), .. }) => s.srv.takenOver c packet = some x
  | _ => False

end Label

/-- The rounds of a run. -/
def roundsOf (tr : List Label) : List (Option Event) := tr.filterMap Label.toRound

section

variable {tr : List Label} {s s' : System} {e : Label} {x y : ClientID} {message : Message}
  {env : Env} {srv srv' : Server} {sent : List Sent} {packet : Packet} {c : ClientID} {l : Ledger}

/-! ### Clients after a round -/

/-- A request that takes a player over drops the client that had it. -/
theorem onUpdate_drops {reply : Reply} (h : srv.onUpdate env c packet = some reply)
    (htaken : srv.takenOver c packet = some x) : x ∉ reply.srv.connected := by
  unfold Server.takenOver at htaken
  split at htaken
  · rename_i hboth
    obtain ⟨haction, hlen⟩ := hboth
    simp only [Option.bind_eq_bind, Option.bind_eq_some_iff] at htaken
    obtain ⟨gameId, hid, playerId, hplayerId, game, hgame, player, hplayer, hother⟩ := htaken
    split at hother
    · cases hother
    · rename_i hne
      obtain rfl := Option.some.inj hother
      obtain ⟨inner, hinner, -, hsrv, -⟩ := onUpdate_result h
      have hslice : slice packet.data 0 4 = some (packet.data.take 4) := by
        simp [slice, hlen]
      simp only [Server.handle, haction, Server.restoreConnection, hlen, hslice, hid, hplayerId, hgame,
        hplayer, ne_eq, not_true_eq_false, if_false, Option.bind_eq_bind, Option.bind_some,
        Option.bind_eq_some_iff, Option.some.injEq] at hinner
      obtain ⟨answer, -, rfl⟩ := hinner
      rw [hsrv]
      simp only [hne, not_false_eq_true, if_true]
      exact fun hmem => (mem_connected_dropClient.mp hmem).2 rfl
  · cases htaken

/-- No request registers anybody, so nobody is registered twice. -/
theorem Handled.connected_nodup (h : Handled env packet c srv sent srv')
    (hnodup : srv.connected.Nodup) : srv'.connected.Nodup := by
  have heffect : ∀ {srv srv' : Server} {sent : List Sent}, Effect env packet c srv sent srv' →
      srv.connected.Nodup → srv'.connected.Nodup := by
    intro srv srv' sent h hnodup
    cases h with
    | prelude h =>
        rw [h.connected]
        exact hnodup
    | attached _ _ _ _ _ _ =>
        show (Server.connected (srv.requestedGame env _).1).Nodup
        rw [requestedGame_connected]
        exact hnodup
    | restored _ _ _ _ hsrv =>
        rw [hsrv]
        split
        · exact hnodup.sublist (List.filter_sublist.map _)
        · exact hnodup
    | _ => exact hnodup
  cases h with
  | one h => exact heffect h hnodup
  | two _ h₁ h₂ => exact heffect h₂ (by rw [h₁.connected]; exact hnodup)

theorem Rehash.connected (h : Rehash srv srv') : srv'.connected = srv.connected := by
  cases h <;> rfl

theorem setConnection_connected {connection : Connection} :
    (srv.setConnection c connection).connected = srv.connected :=
  List.map_modifyFirst fun _ _ => rfl

/-- **The clients after a round.** -/
theorem SystemStep.connected_iff (h : SystemStep s e s') (x : ClientID) :
    x ∈ s'.srv.connected ↔ e.Registers x ∨ x ∈ s.srv.connected ∧ ¬ e.Unregisters s x := by
  cases h with
  | @tick env srv sent _ htake =>
      have hkept := closeAll_clients htake
      constructor
      · exact fun hx => Or.inr ⟨hkept.sub x hx, False.elim⟩
      · rintro (hnone | ⟨hx, -⟩)
        · exact hnone.elim
        · exact hkept.stay x hx False.elim
  | @add env y rest srv sent _ _ htake =>
      obtain ⟨rfl, -⟩ := Prod.mk.inj (Option.some.inj htake)
      have hconnected : (s.srv.addClient (Client.new y)).connected = s.srv.connected ++ [y] := by
        simp [Server.connected, Server.addClient, Client.new]
      show x ∈ (s.srv.addClient (Client.new y)).connected ↔ (Client.new y).id = x ∨ _
      rw [hconnected, List.mem_append, List.mem_singleton, or_comm, eq_comm]
      exact or_congr Iff.rfl (and_iff_left False.elim).symm
  | @take env y message rest srv sent _ _ htake =>
      cases message with
      | status connection =>
          obtain ⟨rfl, -⟩ := Prod.mk.inj (Option.some.inj htake)
          show x ∈ (s.srv.setConnection y connection).connected ↔ _
          rw [setConnection_connected]
          exact ⟨fun hx => Or.inr ⟨hx, False.elim⟩, fun hx => (hx.resolve_left False.elim).1⟩
      | disconnected =>
          obtain ⟨rfl, -⟩ := Prod.mk.inj (Option.some.inj htake)
          show x ∈ ((s.srv.markPlayerDisconnected env y).dropClient y).connected ↔
            False ∨ x ∈ s.srv.connected ∧ ¬ y = x
          rw [mem_connected_dropClient, markPlayerDisconnected_connected, false_or, eq_comm]
      | updated packet =>
          obtain ⟨reply, hreply, hsame⟩ := Option.map_eq_some_iff.mp htake
          obtain ⟨rfl, -⟩ := Prod.mk.inj hsame
          obtain ⟨_, _, -, -, hh, -⟩ := onUpdate_handled hreply
          show x ∈ reply.srv.connected ↔
            False ∨ x ∈ s.srv.connected ∧ ¬ s.srv.takenOver y packet = some x
          rw [false_or]
          constructor
          · exact fun hx => ⟨hh.clients.sub x hx, fun htaken => onUpdate_drops hreply htaken hx⟩
          · exact fun hx => hh.clients.stay x hx.1 hx.2
  | rehash _ hr =>
      show x ∈ Server.connected _ ↔ _
      rw [hr.connected]
      exact ⟨fun hx => Or.inr ⟨hx, False.elim⟩, fun hx => (hx.resolve_left False.elim).1⟩
  | _ => exact ⟨fun hx => Or.inr ⟨hx, False.elim⟩, fun hx => (hx.resolve_left False.elim).1⟩

theorem SystemStep.readers_kept (h : SystemStep s e s') (hx : s.readers x ≠ none) :
    s'.readers x ≠ none := by
  have hset : ∀ {z : ClientID} {r : Reader}, Function.update s.readers z (some r) x ≠ none := by
    intro z r
    rw [Function.update_apply]
    split
    · exact Option.some_ne_none r
    · exact hx
  cases h with
  | accept _ _ => exact hset
  | read _ _ => exact hset
  | say _ _ _ => exact hset
  | _ => exact hx

/-! ### The ledger of a run -/

/-- What the ledger has written down of a run. -/
structure Recorded (tr : List Label) (l : Ledger) (s : System) : Prop where
  srv : l.srv = s.srv
  /-- The listener hands nobody over twice. -/
  once : (l.added ++ (s.events ++ s.listener.toList)).Nodup
  accepted : ∀ x ∈ l.added ++ (s.events ++ s.listener.toList), s.readers x ≠ none
  gone : ∀ x, x ∈ l.gone ↔ .disconnected ∈ tr.filterMap (Label.takenFrom x)
  clients : s.srv.connected.Nodup
  known : ∀ x ∈ s.srv.connected, x ∈ l.added

/-- What a connection has not disconnected with yet is followed by more of it. -/
theorem Sessions.not_gone {rest : List (ClientID × Message)} (h : Sessions tr s)
    (hmessages : s.messages = (x, message) :: rest) :
    .disconnected ∉ tr.filterMap (Label.takenFrom x) := by
  have hfifo := h.fifo x
  have hqueued : s.queued x = message :: (rest.filter fun e => e.1 = x).map Prod.snd := by
    simp [System.queued, hmessages]
  -- what was taken is followed by the message, so it stands before the last that was said
  have hlast : ∀ m ∈ tr.filterMap (Label.takenFrom x), m ∈ (tr.filterMap (Label.saidBy x)).dropLast := by
    intro m hm
    rw [← hfifo, hqueued, List.dropLast_append_cons]
    exact List.mem_append_left _ hm
  intro hgone
  have hgone := hlast _ hgone
  cases hreader : s.readers x with
  | none =>
      rw [(h.unheard x hreader).2] at hgone
      cases hgone
  | some r =>
      have hopened : ∀ packets, Message.disconnected ∉ opened packets := by simp [opened]
      rcases (h.accounts x r hreader).shape with hsaid | hsaid | ⟨-, packets, hsaid | hsaid⟩
      · rw [hsaid] at hgone
        cases hgone
      · rw [hsaid] at hgone
        cases hgone
      · rw [hsaid] at hgone
        exact hopened packets (List.dropLast_subset _ hgone)
      · rw [hsaid, List.dropLast_concat] at hgone
        exact hopened packets hgone

namespace Recorded

variable {l' : Ledger}

theorem new (start : Instant) : Recorded [] (Ledger.new start) (System.new start) where
  srv := rfl
  once := List.nodup_nil
  accepted := fun _ hx => by cases hx
  gone := fun x => by simp [Ledger.new]
  clients := List.nodup_nil
  known := fun _ hx => by cases hx

/-- A step that adds nobody and takes no disconnect. -/
theorem kept (h : Recorded tr l s) (hstep : SystemStep s e s') (hsrv : l'.srv = s'.srv)
    (hadded : l'.added = l.added) (hgone : l'.gone = l.gone)
    (hhanded : s'.events ++ s'.listener.toList = s.events ++ s.listener.toList)
    (htaken : ∀ x, e.takenFrom x ≠ some .disconnected) (hregisters : ∀ x, ¬ e.Registers x)
    (hclients : s'.srv.connected.Nodup) : Recorded (tr ++ [e]) l' s' where
  srv := hsrv
  once := by
    rw [hadded, hhanded]
    exact h.once
  accepted x hx := by
    rw [hadded, hhanded] at hx
    exact hstep.readers_kept (h.accepted x hx)
  gone x := by
    rw [hgone, h.gone x, filterMap_snoc, List.mem_append, Option.mem_toList]
    exact (or_iff_left (htaken x)).symm
  clients := hclients
  known x hx := by
    rw [hadded]
    exact h.known x (((hstep.connected_iff x).mp hx).resolve_left (hregisters x)).1

/-- A step of another task. -/
theorem quiet (h : Recorded tr l s) (hstep : SystemStep s e s') (hround : e.toRound = none)
    (hsrv : s'.srv = s.srv)
    (hhanded : s'.events ++ s'.listener.toList = s.events ++ s.listener.toList) :
    Recorded (tr ++ [e]) l s' := by
  refine h.kept hstep (h.srv.trans hsrv.symm) rfl rfl hhanded ?_ ?_ (hsrv ▸ h.clients)
  · intro x htaken
    cases e with
    | round r => cases hround
    | _ => cases htaken
  · intro x hregisters
    cases e with
    | round r => cases hround
    | _ => exact hregisters

theorem accept (h : Recorded tr l s) (hfree : s.listener = none) (hnew : s.readers y = none) :
    Recorded (tr ++ [.accept y]) l { s.setReader y (.auth []) with listener := some y } := by
  have hstep : SystemStep s (.accept y) { s.setReader y (.auth []) with listener := some y } :=
    .accept hfree hnew
  have honce := h.once
  have haccepted := h.accepted
  rw [hfree, Option.toList_none, List.append_nil] at honce haccepted
  refine ⟨h.srv, ?_, ?_, fun x => ?_, h.clients, h.known⟩
  · show (l.added ++ (s.events ++ [y])).Nodup
    rw [← List.append_assoc]
    refine honce.append (List.nodup_singleton y) ?_
    rw [List.disjoint_singleton]
    exact fun hy => haccepted y hy hnew
  · intro x hx
    replace hx : x ∈ l.added ++ (s.events ++ [y]) := hx
    rw [← List.append_assoc, List.mem_append, List.mem_singleton] at hx
    rcases hx with hx | rfl
    · exact hstep.readers_kept (haccepted x hx)
    · simp [System.setReader]
  · rw [h.gone x, filterMap_snoc]
    simp [Label.takenFrom]

theorem add (h : Recorded tr l s) {rest : List ClientID} (hevents : s.events = y :: rest) :
    Recorded (tr ++ [.round (some { env, input := .add (Client.new y), sent := [] })])
      (l.write (s.srv.addClient (Client.new y)) (some { env, input := .add (Client.new y), sent := [] }))
      { s.afterRound (s.srv.addClient (Client.new y)) [] with events := rest } := by
  have hsame : l.added ++ [y] ++ (rest ++ s.listener.toList)
      = l.added ++ (s.events ++ s.listener.toList) := by simp [hevents]
  have hconnected : (s.srv.addClient (Client.new y)).connected = s.srv.connected ++ [y] := by
    simp [Server.connected, Server.addClient, Client.new]
  have honce := h.once
  have hnew : y ∉ l.added := by
    rw [hevents] at honce
    exact fun hy => List.disjoint_of_nodup_append honce hy (by simp)
  refine ⟨rfl, ?_, fun x hx => ?_, fun x => ?_, ?_, fun x hx => ?_⟩
  · show (l.added ++ [y] ++ (rest ++ s.listener.toList)).Nodup
    rw [hsame]
    exact honce
  · replace hx : x ∈ l.added ++ [y] ++ (rest ++ s.listener.toList) := hx
    rw [hsame] at hx
    exact h.accepted x hx
  · show x ∈ l.gone ↔ _
    rw [h.gone x, filterMap_snoc]
    simp [Label.takenFrom]
  · show (s.srv.addClient (Client.new y)).connected.Nodup
    rw [hconnected]
    refine h.clients.append (List.nodup_singleton y) ?_
    rw [List.disjoint_singleton]
    exact fun hy => hnew (h.known y hy)
  · replace hx : x ∈ (s.srv.addClient (Client.new y)).connected := hx
    rw [hconnected, List.mem_append] at hx
    exact List.mem_append.mpr (hx.imp (h.known x) id)

theorem disconnected (h : Recorded tr l s) {rest : List (ClientID × Message)} :
    Recorded (tr ++ [.round (some { env, input := .message y .disconnected, sent := [] })])
      (l.write ((s.srv.markPlayerDisconnected env y).dropClient y)
        (some { env, input := .message y .disconnected, sent := [] }))
      { s.afterRound ((s.srv.markPlayerDisconnected env y).dropClient y) [] with messages := rest } := by
  refine ⟨rfl, h.once, h.accepted, fun x => ?_, ?_, fun x hx => ?_⟩
  · show x ∈ l.gone ++ [y] ↔ _
    rw [filterMap_snoc, List.mem_append, List.mem_append, h.gone x]
    refine or_congr Iff.rfl ?_
    by_cases hy : y = x
    · simp [Label.takenFrom, hy]
    · simp [Label.takenFrom, hy, show x ≠ y from fun heq => hy heq.symm]
  · refine List.Nodup.sublist (List.filter_sublist.map _) ?_
    show (s.srv.markPlayerDisconnected env y).connected.Nodup
    rw [markPlayerDisconnected_connected]
    exact h.clients
  · refine h.known x ?_
    rw [← markPlayerDisconnected_connected]
    exact (mem_connected_dropClient.mp hx).1

/-- **A round of the main loop is a round of the ledger.** -/
theorem round (h : Recorded tr l s) (hsessions : Sessions tr s) {r : Option Event}
    (hstep : SystemStep s (.round r) s') :
    LedgerStep l r (l.write s'.srv r) ∧ Recorded (tr ++ [.round r]) (l.write s'.srv r) s' := by
  cases hstep with
  | @tick env srv sent hidle htake =>
      refine ⟨⟨.take (h.srv.symm ▸ htake), rfl, fun event heq => ?_⟩, ?_⟩
      · cases heq
        trivial
      · refine h.kept (.tick hidle htake) rfl rfl rfl rfl ?_ (fun _ => id) ?_
        · intro x htaken
          cases htaken
        · exact closeAll_preserves (P := fun mid => mid.connected.Nodup) htake
            (fun _ _ _ _ hh hmid => hh.connected_nodup hmid) h.clients
  | @add env y rest srv sent hidle hevents htake =>
      have hstep : Step l.srv (some { env, input := .add (Client.new y), sent }) srv :=
        .take (h.srv.symm ▸ htake)
      obtain ⟨rfl, rfl⟩ := Prod.mk.inj (Option.some.inj htake)
      refine ⟨⟨hstep, rfl, fun event heq => ?_⟩, h.add hevents⟩
      · cases heq
        have honce := h.once
        rw [hevents] at honce
        exact fun hy => List.disjoint_of_nodup_append honce hy (by simp [Client.new])
  | @take env y message rest srv sent hidle hmessages htake =>
      have horder : ∀ event, some ({ env, input := .message y message, sent } : Event) = some event →
          l.InOrder event.input := by
        intro event heq
        cases heq
        exact fun hgone => hsessions.not_gone hmessages ((h.gone y).mp hgone)
      have hstep : Step l.srv (some { env, input := .message y message, sent }) srv :=
        .take (h.srv.symm ▸ htake)
      cases message with
      | status connection =>
          obtain ⟨rfl, rfl⟩ := Prod.mk.inj (Option.some.inj htake)
          refine ⟨⟨hstep, rfl, horder⟩, ?_⟩
          refine h.kept (.take hidle hmessages htake) rfl rfl rfl rfl ?_ (fun _ => id) ?_
          · intro x htaken
            simp [Label.takenFrom] at htaken
          · show (s.srv.setConnection y connection).connected.Nodup
            rw [setConnection_connected]
            exact h.clients
      | disconnected =>
          obtain ⟨rfl, rfl⟩ := Prod.mk.inj (Option.some.inj htake)
          exact ⟨⟨hstep, rfl, horder⟩, h.disconnected⟩
      | updated packet =>
          refine ⟨⟨hstep, rfl, horder⟩, ?_⟩
          refine h.kept (.take hidle hmessages htake) rfl rfl rfl rfl ?_ (fun _ => id) ?_
          · intro x htaken
            simp [Label.takenFrom] at htaken
          · obtain ⟨reply, hreply, hsame⟩ := Option.map_eq_some_iff.mp htake
            obtain ⟨rfl, -⟩ := Prod.mk.inj hsame
            obtain ⟨_, _, -, -, hh, -⟩ := onUpdate_handled hreply
            exact hh.connected_nodup h.clients
  | @rehash srv hidle hr =>
      refine ⟨⟨.rehash (h.srv.symm ▸ hr), rfl, fun _ heq => ?_⟩, ?_⟩
      · cases heq
      · refine h.kept (.rehash hidle hr) rfl rfl rfl rfl ?_ (fun _ => id) ?_
        · intro x htaken
          cases htaken
        · show (Server.connected srv).Nodup
          rw [hr.connected]
          exact h.clients

theorem run {start : Instant} (h : Transition.Run SystemStep (System.new start) tr s) :
    ∃ l, Transition.Run LedgerStep (Ledger.new start) (roundsOf tr) l ∧ Recorded tr l s := by
  refine h.history (P := fun tr s => ∃ l,
    Transition.Run LedgerStep (Ledger.new start) (roundsOf tr) l ∧ Recorded tr l s)
    ⟨_, .nil, .new start⟩ ?_
  rintro tr s e s' hrun hstep ⟨l, hledger, hrecorded⟩
  have hrounds : roundsOf (tr ++ [e]) = roundsOf tr ++ e.toRound.toList := filterMap_snoc _ _ _
  rw [hrounds]
  have hother : e.toRound = none → s'.srv = s.srv →
      s'.events ++ s'.listener.toList = s.events ++ s.listener.toList →
      ∃ l, Transition.Run LedgerStep (Ledger.new start) (roundsOf tr ++ e.toRound.toList) l ∧
        Recorded (tr ++ [e]) l s' := by
    intro hround hsrv hhanded
    rw [hround, Option.toList_none, List.append_nil]
    exact ⟨l, hledger, hrecorded.quiet hstep hround hsrv hhanded⟩
  have hround : ∀ r, e = .round r →
      ∃ l, Transition.Run LedgerStep (Ledger.new start) (roundsOf tr ++ e.toRound.toList) l ∧
        Recorded (tr ++ [e]) l s' := by
    rintro r rfl
    obtain ⟨hl, hrecorded'⟩ := hrecorded.round (Sessions.run hrun) hstep
    exact ⟨_, hledger.snoc hl, hrecorded'⟩
  cases hstep with
  | accept hfree hnew => exact ⟨l, by simpa [Label.toRound] using hledger, hrecorded.accept hfree hnew⟩
  | enqueue hlistener _ => exact hother rfl rfl (by simp [hlistener])
  | tick _ _ => exact hround _ rfl
  | add _ _ _ => exact hround _ rfl
  | take _ _ _ => exact hround _ rfl
  | rehash _ _ => exact hround _ rfl
  | _ => exact hother rfl rfl rfl

end Recorded

/-- **The main loop takes everything in order.**  The rounds of a run of the system are a run of the
ledger: every client is added once, and nothing is taken of a connection after its disconnect.
Nobody is registered twice, and who is registered was added. -/
theorem rounds_in_order {start : Instant}
    (h : Transition.Run SystemStep (System.new start) tr s) :
    ∃ l, Transition.Run LedgerStep (Ledger.new start) (roundsOf tr) l ∧ l.srv = s.srv ∧
      l.added.Nodup ∧ s.srv.connected.Nodup ∧ (∀ x ∈ s.srv.connected, x ∈ l.added) ∧
      ∀ x, x ∈ l.gone ↔ .disconnected ∈ tr.filterMap (Label.takenFrom x) := by
  obtain ⟨l, hledger, hrecorded⟩ := Recorded.run h
  exact ⟨l, hledger, hrecorded.srv, (List.nodup_append.mp hrecorded.once).1, hrecorded.clients,
    hrecorded.known, hrecorded.gone⟩

/-- Two connections are accepted and their clients added; the first greets the server, asks to leave a
world that it is not in, and is gone. -/
theorem rounds_in_order_disconnected : ∃ tr s l, Transition.Run SystemStep (System.new 0) tr s ∧
    Transition.Run LedgerStep (Ledger.new 0) (roundsOf tr) l ∧ l.srv = s.srv ∧
      s.srv.connected = [8] ∧ tr.filterMap (Label.takenFrom 7) =
        [.status (.authenticated protocolVersion), .updated (request .leaveWorld []),
          .disconnected] ∧
      l.added.Nodup ∧ 8 ∈ l.added ∧ 7 ∈ l.gone := by
  have hidle {o o' : Outbound} (ho : o.ops = []) (ho' : o'.ops = []) (y : ClientID) :
      (Function.update (Function.update (fun _ => Outbound.new) 7 o) 7 o' y).ops = [] :=
    System.ops_update (System.ops_update (fun _ => rfl) ho) ho' y
  have hidle₂ {o o' o'' : Outbound} (ho : o.ops = []) (ho' : o'.ops = []) (ho'' : o''.ops = [])
      (y : ClientID) : (Function.update (Function.update (Function.update (fun _ => Outbound.new) 7 o)
        7 o') 7 o'' y).ops = [] :=
    System.ops_update (hidle ho ho') ho'' y
  have hrun := (Transition.Run.nil : Transition.Run SystemStep (System.new 0) [] (System.new 0))
    |>.snoc (.accept (x := 7) rfl rfl)
    |>.snoc (.enqueue (x := 7) rfl (by decide))
    |>.snoc (.addAt (x := 7) 0 ⟨rfl, fun _ => rfl⟩ rfl rfl)
    |>.snoc (.accept (x := 8) rfl rfl)
    |>.snoc (.enqueue (x := 8) rfl (by decide))
    |>.snoc (.addAt (x := 8) 0 ⟨rfl, fun _ => rfl⟩ rfl rfl)
    |>.snoc (.readBytes (x := 7) greeting rfl (.accepted (by decide) (by decide) (by decide)))
    |>.snoc (.say (x := 7) rfl rfl (by decide))
    |>.snoc (.readBytes (x := 7) [1, 0, 140] rfl (.read (by decide) (by decide)))
    |>.snoc (.read (x := 7) rfl (.cut rfl))
    |>.snoc (.say (x := 7) rfl rfl (by decide))
    |>.snoc (.takeAt 0 ⟨rfl, hidle rfl rfl⟩ rfl rfl)
    |>.snoc (.takeAt 0 ⟨rfl, hidle rfl rfl⟩ rfl rfl)
    |>.snoc (.read (x := 7) rfl (.leave rfl rfl))
    |>.snoc (.read (x := 7) rfl .readEnds)
    |>.snoc (.say (x := 7) rfl rfl (by decide))
    |>.snoc (.takeAt 0 ⟨rfl, hidle₂ rfl rfl rfl⟩ rfl rfl)
  obtain ⟨l, hledger, hsrv, hadded, -, hknown, hgone⟩ := rounds_in_order hrun
  exact ⟨_, _, l, hrun, hledger, hsrv, rfl, rfl, hadded, hknown 8 (List.mem_singleton_self 8),
    (hgone 7).mpr (by decide)⟩

/-- **Who is a client.**  A connection is one if and only if a round added it, and since then no
round took its disconnect or took its player over. -/
theorem connected_since_added {start : Instant}
    (h : Transition.Run SystemStep (System.new start) tr s) (x : ClientID) :
    x ∈ s.srv.connected ↔ ∃ before e after a b, tr = before ++ e :: after ∧
      Transition.Run SystemStep (System.new start) before a ∧ SystemStep a e b ∧ e.Registers x ∧
      Transition.Run (fun a e b => SystemStep a e b ∧ ¬ e.Unregisters a x) b after s := by
  constructor
  · refine h.history (P := fun tr s => x ∈ s.srv.connected → ∃ before e after a b,
      tr = before ++ e :: after ∧ Transition.Run SystemStep (System.new start) before a ∧
      SystemStep a e b ∧ e.Registers x ∧
      Transition.Run (fun a e b => SystemStep a e b ∧ ¬ e.Unregisters a x) b after s) ?_ ?_
    · exact fun hx => by cases hx
    · intro tr s e s' hrun hstep ih hx
      rcases (hstep.connected_iff x).mp hx with hregisters | ⟨hbefore, hunregisters⟩
      · exact ⟨tr, e, [], s, s', rfl, hrun, hstep, hregisters, .nil⟩
      · obtain ⟨before, e', after, a, b, rfl, ha, hadd, hregisters, hafter⟩ := ih hbefore
        exact ⟨before, e', after ++ [e], a, b, by simp, ha, hadd, hregisters,
          hafter.snoc ⟨hstep, hunregisters⟩⟩
  · rintro ⟨before, e, after, a, b, -, -, hadd, hregisters, hafter⟩
    refine hafter.invariant (P := fun s => x ∈ s.srv.connected)
      ((hadd.connected_iff x).mpr (Or.inl hregisters)) ?_
    exact fun _ _ _ hstep hx => (hstep.1.connected_iff x).mpr (Or.inr ⟨hx, hstep.2⟩)

/-- A disconnect that overtakes its client leaves the client registered. -/
theorem connected_since_added_overtaken : ∃ tr s, Transition.Run SystemStep (System.new 0) tr s ∧
    tr.filterMap (Label.takenFrom 7) = [.disconnected] ∧ 7 ∈ s.srv.connected := by
  have hrun := (Transition.Run.nil : Transition.Run SystemStep (System.new 0) [] (System.new 0))
    |>.snoc (.accept (x := 7) rfl rfl)
    |>.snoc (.read (x := 7) rfl .authEnds)
    |>.snoc (.say (x := 7) rfl rfl (by decide))
    |>.snoc (.takeAt 0 ⟨rfl, System.ops_update (fun _ => rfl) rfl⟩ rfl rfl)
    |>.snoc (.enqueue (x := 7) rfl (by decide))
  have hrun' := hrun.snoc (.addAt (x := 7) 0
    ⟨rfl, System.ops_update (fun _ => rfl) rfl⟩ rfl rfl)
  refine ⟨_, _, hrun', rfl, (connected_since_added hrun' 7).mpr ⟨_, _, [], _, _, rfl, hrun, ?_, rfl, .nil⟩⟩
  exact .add ⟨rfl, System.ops_update (fun _ => rfl) rfl⟩ rfl rfl

end

end VangersSrv
