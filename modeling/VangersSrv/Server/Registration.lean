/-
Registering a connection.

A new client comes over the event channel and its messages over another, and the loop takes
the two in any order.  A message that overtakes the client it belongs to does nothing to it:
the answer to a request has nowhere to go, and a disconnect that comes first leaves the
client registered for good.  A `Ledger` records beside the server which connections were
added, disconnected or taken over, so that a run can say in which order that happened.
-/
import VangersSrv.Server.Registry

namespace VangersSrv

/-! ### The order of a connection's messages -/

/-- The other connection whose player a restore takes over, if it takes one over. -/
def Server.takenOver (srv : Server) (c : ClientID) (packet : Packet) : Option ClientID :=
  if packet.action = .restoreConnection ∧ packet.data.length = 5 then do
    let gameId ← sliceLeToI32 (packet.data.take 4)
    let playerId ← packet.data[4]?
    let game ← srv.games.lookup gameId
    let player ← game.players.find? fun p => p.bindId = some playerId
    if player.clientId = c then none else some player.clientId
  else none

/-- The server, and the connections that were added, that disconnected, and whose player
another connection took over. -/
structure Ledger where
  srv : Server
  added : List ClientID
  gone : List ClientID
  taken : List ClientID

namespace Ledger

def new (start : Instant) : Ledger := { srv := Server.new start, added := [], gone := [], taken := [] }

/-- What a round writes into the ledger. -/
def write (s : Ledger) (srv : Server) : Option Event → Ledger
  | some { input := .add client, .. } => { s with srv, added := s.added ++ [client.id] }
  | some { input := .message c .disconnected, .. } => { s with srv, gone := s.gone ++ [c] }
  | some { input := .message c (.updated packet), .. } =>
    { s with srv, taken := s.taken ++ (s.srv.takenOver c packet).toList }
  | _ => { s with srv }

/-- Client ids are unique, and a connection sends nothing after its disconnect. -/
def InOrder (s : Ledger) : Input → Prop
  | .add client => client.id ∉ s.added
  | .message c _ => c ∉ s.gone
  | .tick => True

/-- A message comes after its client, and a request from a client that was not replaced. -/
def Registered (s : Ledger) : Input → Prop
  | .message c (.updated _) => c ∈ s.added ∧ c ∉ s.taken
  | .message c _ => c ∈ s.added
  | _ => True

end Ledger

/-- One round, with the ledger kept, on an input that the channels can deliver. -/
def LedgerStep (s : Ledger) (e : Option Event) (s' : Ledger) : Prop :=
  Step s.srv e s'.srv ∧ s' = s.write s'.srv e ∧ ∀ event, e = some event → s.InOrder event.input

/-- Such a round on a message that did not overtake its client. -/
def RegisteredStep (s : Ledger) (e : Option Event) (s' : Ledger) : Prop :=
  LedgerStep s e s' ∧ ∀ event, e = some event → s.Registered event.input

/-! ### What registration is for -/

/-- The ids of the registered clients. -/
def Server.connected (srv : Server) : List ClientID := srv.clients.map Client.id

/-- A connection that was added and has disconnected is no client any more. -/
def Ledger.NoLeak (s : Ledger) : Prop :=
  ∀ c, c ∈ s.added → c ∈ s.gone → c ∉ s.srv.connected

/-- The answer to a request is queued to its connection. -/
def Answered (srv : Server) (e : Option Event) : Prop :=
  ∀ env c packet sent reply answer,
    e = some { env, input := .message c (.updated packet), sent } →
    srv.onUpdate env c packet = some reply → reply.result = .ok (.response answer) →
    { client := c, packet := answer, realtime := false } ∈ sent

section

variable {env : Env} {packet : Packet} {c : ClientID} {srv srv' mid : Server} {sent : List Sent}
  {e : Option Event} {s s' : Ledger}

/-! ### Who stays registered -/

/-- No client comes in, and only one whose player was taken over goes. -/
structure ClientsKept (srv srv' : Server) (lost : ClientID → Prop) : Prop where
  sub : ∀ id ∈ srv'.connected, id ∈ srv.connected
  stay : ∀ id ∈ srv.connected, ¬ lost id → id ∈ srv'.connected

theorem ClientsKept.of_eq {lost : ClientID → Prop} (h : srv'.connected = srv.connected) :
    ClientsKept srv srv' lost :=
  ⟨fun id hid => by rw [← h]; exact hid, fun id hid _ => by rw [h]; exact hid⟩

theorem mem_connected_dropClient {id : ClientID} :
    id ∈ (srv.dropClient c).connected ↔ id ∈ srv.connected ∧ id ≠ c := by
  simp only [Server.connected, Server.dropClient, List.mem_map, List.mem_filter, decide_eq_true_eq]
  constructor
  · rintro ⟨client, ⟨hmem, hne⟩, rfl⟩
    exact ⟨⟨client, hmem, rfl⟩, hne⟩
  · rintro ⟨⟨client, hmem, rfl⟩, hne⟩
    exact ⟨client, ⟨hmem, hne⟩, rfl⟩

theorem requestedGame_connected {requested : I32} :
    (srv.requestedGame env requested).1.connected = srv.connected :=
  congrArg (List.map Client.id) Server.requestedGame_clients

theorem takenOver_restored {gameId : GameID} {playerId : UInt8} {game : Game} {player : Player}
    (haction : packet.action = .restoreConnection)
    (hdata : packet.data = toLeBytes32 gameId ++ [playerId])
    (hlookup : srv.games.lookup gameId = some game)
    (hfind : game.players.find? (fun p => p.bindId = some playerId) = some player)
    (hne : player.clientId ≠ c) : srv.takenOver c packet = some player.clientId := by
  have htake : packet.data.take 4 = toLeBytes32 gameId := by
    rw [hdata, List.take_append_of_le_length (by simp), List.take_of_length_le (by simp)]
  have hlast : packet.data[4]? = some playerId := by
    rw [hdata, List.getElem?_append_right (by simp)]
    simp
  have hlen : packet.data.length = 5 := by rw [hdata]; simp
  unfold Server.takenOver
  rw [if_pos ⟨haction, hlen⟩, htake, hlast]
  simp [hlookup, hfind, hne]

theorem takenOver_of_ne (h : packet.action ≠ .restoreConnection) : srv.takenOver c packet = none :=
  if_neg fun hboth => h hboth.1

theorem Prelude.connected (h : Prelude env packet c srv sent srv') :
    srv'.connected = srv.connected := by
  cases h <;> rfl

theorem Effect.clients (h : Effect env packet c srv sent srv') :
    ClientsKept srv srv' fun id => srv.takenOver c packet = some id := by
  cases h with
  | prelude h => exact .of_eq h.connected
  | attached _ _ _ _ _ => exact .of_eq requestedGame_connected
  | @restored _ gameId playerId game player haction hdata hlookup hfind hsrv =>
      rw [hsrv]
      split
      · rename_i hne
        refine ⟨fun id hid => (mem_connected_dropClient.mp hid).1, fun id hid hnot => ?_⟩
        rw [takenOver_restored haction hdata hlookup hfind hne] at hnot
        exact mem_connected_dropClient.mpr ⟨hid, fun heq => hnot (by rw [heq])⟩
      · exact .of_eq rfl
  | _ => exact .of_eq rfl

theorem Handled.clients (h : Handled env packet c srv sent srv') :
    ClientsKept srv srv' fun id => srv.takenOver c packet = some id := by
  cases h with
  | one h => exact h.clients
  | two haction h₁ h₂ =>
      -- a request that starts with a prelude is no restore
      have hkept := h₂.clients
      simp only [List.mem_cons, List.not_mem_nil, or_false] at haction
      have hne : packet.action ≠ .restoreConnection := by
        rcases haction with h | h | h <;> simp [h]
      refine ⟨fun id hid => ?_, fun id hid _ => hkept.stay id ?_ (by simp [takenOver_of_ne hne])⟩
      · rw [← h₁.connected]
        exact hkept.sub id hid
      · rw [h₁.connected]
        exact hid

theorem ClientsKept.trans {lost : ClientID → Prop} (h : ClientsKept srv mid lost)
    (h' : ClientsKept mid srv' lost) : ClientsKept srv srv' lost :=
  ⟨fun id hid => h.sub id (h'.sub id hid), fun id hid hnot => h'.stay id (h.stay id hid hnot) hnot⟩

/-- The cleanup timer takes nobody off the list of clients. -/
theorem closeAll_clients {ids : List ClientID} (h : srv.closeAll env ids = some (srv', sent)) :
    ClientsKept srv srv' fun _ => False := by
  refine closeAll_preserves (P := fun mid => ClientsKept srv mid fun _ => False) h ?_ (.of_eq rfl)
  intro c mid mid' sent hh hmid
  have hkept := hh.clients
  have hnone : mid.takenOver c closePacket = none := takenOver_of_ne (by decide)
  rw [hnone] at hkept
  exact hmid.trans ⟨hkept.sub, fun id hid _ => hkept.stay id hid (by simp)⟩

/-! ### The ledger is right -/

/-- What the ledger says about the clients. -/
structure LedgerOk (s : Ledger) : Prop where
  known : ∀ c ∈ s.srv.connected, c ∈ s.added ∧ c ∉ s.gone
  there : ∀ c ∈ s.added, c ∉ s.gone → c ∉ s.taken → c ∈ s.srv.connected
  /-- Nobody disconnects before it was added. -/
  goneAdded : ∀ c ∈ s.gone, c ∈ s.added

theorem LedgerOk.noLeak (h : LedgerOk s) : s.NoLeak :=
  fun c _ hgone hc => (h.known c hc).2 hgone

/-- A round that only drops clients whose player it takes over. -/
theorem LedgerOk.kept {taken : List ClientID} {lost : ClientID → Prop} (h : LedgerOk s)
    (hkept : ClientsKept s.srv srv' lost) (hlost : ∀ id, lost id → id ∈ taken) :
    LedgerOk { s with srv := srv', taken := s.taken ++ taken } := by
  refine ⟨fun c hc => h.known c (hkept.sub c hc), ?_, h.goneAdded⟩
  intro c hc hgone htaken
  simp only [List.mem_append, not_or] at htaken
  exact hkept.stay c (h.there c hc hgone htaken.1) fun hl => htaken.2 (hlost c hl)

theorem LedgerOk.added {client : Client} (h : LedgerOk s) (hnew : client.id ∉ s.added) :
    LedgerOk { s with srv := s.srv.addClient client, added := s.added ++ [client.id] } := by
  have hconnected : (s.srv.addClient client).connected = s.srv.connected ++ [client.id] := by
    simp [Server.connected, Server.addClient]
  constructor
  · intro c hc
    replace hc : c ∈ (s.srv.addClient client).connected := hc
    rw [hconnected, List.mem_append, List.mem_singleton] at hc
    rcases hc with hold | rfl
    · obtain ⟨hadded, hgone⟩ := h.known c hold
      exact ⟨List.mem_append_left _ hadded, hgone⟩
    · exact ⟨by simp, fun hgone => hnew (h.goneAdded _ hgone)⟩
  · intro c hc hgone htaken
    show c ∈ (s.srv.addClient client).connected
    rw [hconnected, List.mem_append]
    rcases List.mem_append.mp hc with hold | hmem
    · exact Or.inl (h.there c hold hgone htaken)
    · exact Or.inr hmem
  · exact fun c hc => List.mem_append_left _ (h.goneAdded c hc)

theorem LedgerOk.disconnected (h : LedgerOk s) (hadded : c ∈ s.added)
    (hconnected : ∀ id, id ∈ srv'.connected ↔ id ∈ s.srv.connected ∧ id ≠ c) :
    LedgerOk { s with srv := srv', gone := s.gone ++ [c] } := by
  constructor
  · intro id hid
    obtain ⟨hold, hne⟩ := (hconnected id).mp hid
    obtain ⟨hknown, hgone⟩ := h.known id hold
    refine ⟨hknown, ?_⟩
    simp only [List.mem_append, List.mem_singleton, not_or]
    exact ⟨hgone, hne⟩
  · intro id hid hgone htaken
    simp only [List.mem_append, List.mem_singleton, not_or] at hgone
    exact (hconnected id).mpr ⟨h.there id hid hgone.1 htaken, hgone.2⟩
  · intro id hid
    rcases List.mem_append.mp hid with hold | hmem
    · exact h.goneAdded id hold
    · rw [List.mem_singleton.mp hmem]
      exact hadded

theorem markPlayerDisconnected_connected :
    (srv.markPlayerDisconnected env c).connected = srv.connected := by
  unfold Server.markPlayerDisconnected
  split <;> rfl

/-- A round whose message did not overtake its client keeps the ledger right. -/
theorem RegisteredStep.ok (h : RegisteredStep s e s') (hok : LedgerOk s) : LedgerOk s' := by
  obtain ⟨⟨hstep, hwrite, horder⟩, hreg⟩ := h
  have hnone : s.taken = s.taken ++ [] := (List.append_nil _).symm
  rw [hwrite]
  generalize s'.srv = srv' at hstep ⊢
  cases hstep.round with
  | rehash hr =>
      show LedgerOk { s with srv := srv' }
      have hconnected : srv'.connected = s.srv.connected := by cases hr <;> rfl
      rw [hnone]
      have hkept : ClientsKept s.srv srv' fun _ => False := .of_eq hconnected
      exact hok.kept hkept fun _ hl => hl.elim
  | tick hall =>
      show LedgerOk { s with srv := srv' }
      rw [hnone]
      exact hok.kept (closeAll_clients hall) fun _ hl => hl.elim
  | added => exact hok.added (horder _ rfl)
  | @status _ c connection =>
      have hconnected : (s.srv.setConnection c connection).connected = s.srv.connected :=
        List.map_modifyFirst fun _ _ => rfl
      show LedgerOk { s with srv := s.srv.setConnection c connection }
      rw [hnone]
      have hkept : ClientsKept s.srv (s.srv.setConnection c connection) fun _ => False :=
        .of_eq hconnected
      exact hok.kept hkept fun _ hl => hl.elim
  | disconnected =>
      refine hok.disconnected (hreg _ rfl) fun id => ?_
      rw [mem_connected_dropClient, markPlayerDisconnected_connected]
  | updated hr =>
      obtain ⟨_, _, -, -, hh, -⟩ := onUpdate_handled hr
      exact hok.kept hh.clients fun id hid => by simp [hid]

/-- The answer of a registered connection's request has somewhere to go. -/
theorem RegisteredStep.answered (h : RegisteredStep s e s') (hok : LedgerOk s) :
    Answered s.srv e := by
  obtain ⟨⟨hstep, hwrite, horder⟩, hreg⟩ := h
  rintro env c packet sent reply answer rfl hreply hresult
  have hgone := horder _ rfl
  obtain ⟨hadded, htaken⟩ := hreg _ rfl
  have hthere := hok.there c hadded hgone htaken
  obtain ⟨r, hr, -, rfl⟩ := hstep.onUpdate
  obtain rfl := Option.some.inj (hr.symm.trans hreply)
  -- a request never takes the player of its own connection over
  have hnot : s.srv.takenOver c packet ≠ some c := by
    unfold Server.takenOver
    split
    · simp [Option.bind_eq_some_iff]
    · simp
  obtain ⟨_, _, -, -, hh, -⟩ := onUpdate_handled hr
  obtain ⟨client, hclient, hid⟩ := List.mem_map.mp (hh.clients.stay c hthere hnot)
  obtain ⟨inner, -, hres, hsrv, hsent⟩ := onUpdate_result hr
  rw [hsent, ← hsrv, ← hres, hresult]
  refine List.mem_append_right _ ?_
  have hfind : (r.srv.clients.find? fun cl => cl.id = c).isSome := by
    rw [List.find?_isSome]
    exact ⟨client, hclient, by simpa using hid⟩
  obtain ⟨found, hfound⟩ := Option.isSome_iff_exists.mp hfind
  have hfid : found.id = c := by simpa using List.find?_some hfound
  simp [Server.resultSends, Server.sendClient, hfound, hfid]

end

/-- **Registration.**  In every run in which no message overtakes its client, and nothing is
handled for a client whose player was taken over, no disconnected connection stays
registered and every answer is queued to the connection that asked. -/
theorem registration_order {start : Instant} {tr : List (Option Event)} {s : Ledger}
    (hrun : Transition.Run RegisteredStep (Ledger.new start) tr s) :
    s.NoLeak ∧ ∀ e s', RegisteredStep s e s' → Answered s.srv e := by
  have hok : LedgerOk s := by
    refine hrun.invariant ⟨?_, ?_, ?_⟩ fun _ _ _ hstep hok => hstep.ok hok
    · simp [Ledger.new, Server.new, Server.connected]
    · simp [Ledger.new]
    · simp [Ledger.new]
  exact ⟨hok.noLeak, fun _ _ hstep => hstep.answered hok⟩

/-- A client is added, asks for the time, and disconnects. -/
theorem registration_order_once : ∃ tr s, Transition.Run RegisteredStep (Ledger.new 0) tr s ∧
    s.added = [7] ∧ s.gone = [7] ∧ s.NoLeak ∧ ∀ e s', RegisteredStep s e s' → Answered s.srv e := by
  have hplay : (((Server.new 0).addClient (Client.new 7)).take (Env.atTime 0)
      (ask 7 .serverTimeQuery [])).isSome = true := by
    decide +kernel
  obtain ⟨⟨s₁, sent₁⟩, htake⟩ := Option.isSome_iff_exists.mp hplay
  have hadd : RegisteredStep (Ledger.new 0) (some ⟨Env.atTime 0, .add (Client.new 7), []⟩)
      ⟨(Server.new 0).addClient (Client.new 7), [7], [], []⟩ := by
    refine ⟨⟨.take rfl, rfl, ?_⟩, ?_⟩
    · rintro event ⟨⟩
      exact List.not_mem_nil
    · rintro event ⟨⟩
      trivial
  have hask : RegisteredStep ⟨(Server.new 0).addClient (Client.new 7), [7], [], []⟩
      (some ⟨Env.atTime 0, ask 7 .serverTimeQuery [], sent₁⟩) ⟨s₁, [7], [], []⟩ := by
    refine ⟨⟨.take htake, ?_, ?_⟩, ?_⟩
    · simp [Ledger.write, ask, request, takenOver_of_ne]
    · rintro event ⟨⟩
      exact List.not_mem_nil
    · rintro event ⟨⟩
      exact ⟨List.mem_singleton_self 7, List.not_mem_nil⟩
  have hgone : RegisteredStep ⟨s₁, [7], [], []⟩
      (some ⟨Env.atTime 0, .message 7 .disconnected, []⟩)
      ⟨(s₁.markPlayerDisconnected (Env.atTime 0) 7).dropClient 7, [7], [7], []⟩ := by
    refine ⟨⟨.take rfl, rfl, ?_⟩, ?_⟩
    · rintro event ⟨⟩
      exact List.not_mem_nil
    · rintro event ⟨⟩
      exact List.mem_singleton_self 7
  have hrun := ((Transition.Run.nil.snoc hadd).snoc hask).snoc hgone
  exact ⟨_, _, hrun, rfl, rfl, registration_order hrun⟩

/-- A disconnect that overtakes its client leaves the client registered, and the answer to a
request that overtakes its client is lost. -/
theorem registration_order_fails :
    (∃ tr s, Transition.Run LedgerStep (Ledger.new 0) tr s ∧ ¬ s.NoLeak) ∧
      ∃ e s', LedgerStep (Ledger.new 0) e s' ∧ ¬ Answered (Ledger.new 0).srv e := by
  constructor
  · have hgone : LedgerStep (Ledger.new 0) (some ⟨Env.atTime 0, .message 7 .disconnected, []⟩)
        ⟨Server.new 0, [], [7], []⟩ := by
      refine ⟨.take rfl, rfl, ?_⟩
      rintro event ⟨⟩
      exact List.not_mem_nil
    have hadd : LedgerStep ⟨Server.new 0, [], [7], []⟩
        (some ⟨Env.atTime 0, .add (Client.new 7), []⟩)
        ⟨(Server.new 0).addClient (Client.new 7), [7], [7], []⟩ := by
      refine ⟨.take rfl, rfl, ?_⟩
      rintro event ⟨⟩
      exact List.not_mem_nil
    refine ⟨_, _, (Transition.Run.nil.snoc hgone).snoc hadd, fun h => ?_⟩
    exact h 7 (List.mem_singleton_self 7) (List.mem_singleton_self 7) (List.mem_singleton_self 7)
  · have hplay : ((Server.new 0).onUpdate (Env.atTime 0) 7 (request .serverTimeQuery [])).any
        (fun r => decide (r.sent = []) &&
          match r.result with
          | .ok (.response _) => true
          | _ => false) = true := by
      decide +kernel
    obtain ⟨r, hr, htest⟩ := (Option.any_eq_true _ _).mp hplay
    rw [Bool.and_eq_true, decide_eq_true_eq] at htest
    obtain ⟨hsent, hanswer⟩ := htest
    have hresult : ∃ answer, r.result = .ok (.response answer) := by
      split at hanswer
      · exact ⟨_, by assumption⟩
      · cases hanswer
    obtain ⟨answer, hresult⟩ := hresult
    refine ⟨some ⟨Env.atTime 0, ask 7 .serverTimeQuery [], []⟩, ⟨r.srv, [], [], []⟩,
      ⟨.take ?_, ?_, ?_⟩, fun h => ?_⟩
    · show ((Server.new 0).onUpdate (Env.atTime 0) 7 (request .serverTimeQuery [])).map
        (fun reply => (reply.srv, reply.sent)) = some (r.srv, [])
      rw [hr, Option.map_some, hsent]
    · simp [Ledger.write, Ledger.new, ask, request, takenOver_of_ne]
    · rintro event ⟨⟩
      exact List.not_mem_nil
    · exact List.not_mem_nil (h _ _ _ _ r answer rfl hr hresult)

end VangersSrv
