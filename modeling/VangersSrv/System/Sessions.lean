/-
What reaches the main loop from a connection.

A connection's task sends one message after the other, and the channel is first in, first out;
so what the main loop has taken from a connection, and what waits for it there, is what the task
has said so far.  And a task says little: nothing but a disconnect unless its client has greeted
the server, then that it is authenticated, then the packets it cuts out of what it reads, then a
disconnect, and after that nothing.
-/
import VangersSrv.System.Tasks

namespace VangersSrv

/-! ### Reading a run -/

namespace Label

/-- The message a task has sent to the main loop. -/
def saidBy (x : ClientID) : Label → Option Message
  | .said y message => if y = x then some message else none
  | _ => none

/-- The message the main loop has taken. -/
def takenFrom (x : ClientID) : Label → Option Message
  | .round (some { input := .message y message, .. }) => if y = x then some message else none
  | _ => none

/-- The bytes a connection was read from. -/
def readFrom (x : ClientID) : Label → Option Bytes
  | .read y chunk => if y = x ∧ chunk ≠ [] then some chunk else none
  | _ => none

end Label

namespace System

/-- What waits in the channel from a connection. -/
def queued (s : System) (x : ClientID) : List Message :=
  (s.messages.filter fun e => e.1 = x).map Prod.snd

end System

/-! ### One read -/

namespace ReadBuffer

/-- The packets that were cut out of a buffer in front of an offset. -/
inductive Cut (buff : Bytes) (readable : Nat) : List Packet → Nat → Prop
  | nil : Cut buff readable [] 0
  | snoc {packets : List Packet} {packet : Packet} {offset offset' : Nat} :
      Cut buff readable packets offset → round buff readable offset = some (packet, offset') →
        Cut buff readable (packets ++ [packet]) offset'

section

variable {buff : Bytes} {readable offset fuel : Nat} {packets : List Packet} {b : ReadBuffer}

/-- A loop that has cut more packets than there are bytes is at one of size 0, and stays there. -/
theorem Cut.bounded (h : Cut buff readable packets offset) :
    packets.length ≤ offset ∨ ∃ packet, round buff readable offset = some (packet, offset) := by
  induction h with
  | nil => exact Or.inl (Nat.zero_le 0)
  | @snoc packets packet offset offset' _ hround ih =>
      obtain ⟨-, size, -, -, -, -, hoffset⟩ := round_eq_some.mp hround
      rcases ih with hle | ⟨stuck, hstuck⟩
      · by_cases hsize : size.toNat = 0
        · rw [hsize, Nat.add_zero] at hoffset
          rw [← hoffset] at hround ⊢
          exact Or.inr ⟨packet, hround⟩
        · rw [List.length_append, List.length_singleton]
          exact Or.inl (by omega)
      · rw [hround, Option.some.injEq, Prod.mk.injEq] at hstuck
        rw [hstuck.2] at hround ⊢
        exact Or.inr ⟨packet, hround⟩

theorem Cut.le (h : Cut buff readable packets offset) : offset ≤ readable := by
  induction h with
  | nil => exact Nat.zero_le _
  | snoc _ hround _ =>
      obtain ⟨hlt, size, -, -, hle, -, hoffset⟩ := round_eq_some.mp hround
      omega

/-- The loop delivers what was cut, and goes on from there. -/
theorem Cut.parse (h : Cut buff readable packets offset) (fuel : Nat) :
    ReadBuffer.parse buff readable (packets.length + fuel) 0
      = (ReadBuffer.parse buff readable fuel offset).after packets := by
  induction h generalizing fuel with
  | nil => simp [Parsed.after]
  | @snoc packets packet offset offset' _ hround ih =>
      have hrest := ih (fuel + 1)
      rw [parse_of_round hround] at hrest
      rw [List.length_append, List.length_singleton, Nat.add_assoc, Nat.add_comm 1 fuel, hrest]
      simp [Parsed.after]

/-- The loop that is left needs no more fuel. -/
theorem parse_left_rest (hround : round buff readable offset = none)
    (hrest : (ReadBuffer.parse buff readable 1 offset).rest = some b) (hfuel : 0 < fuel) :
    ReadBuffer.parse buff readable fuel offset = { delivered := [], rest := some b } := by
  have hsame : (ReadBuffer.parse buff readable fuel offset).rest
      = (ReadBuffer.parse buff readable 1 offset).rest := by
    rcases Nat.lt_or_ge offset readable with hlt | hge
    · cases hsize : packetSize buff offset with
      | none => rw [parse_outside hlt hsize, parse_outside hlt hsize]
      | some size =>
          cases hmsb : size.msb with
          | true =>
              rw [parse_negative hlt hfuel hsize hmsb, parse_negative hlt Nat.one_pos hsize hmsb]
          | false =>
              rcases Nat.lt_or_ge (readable - offset) size.toNat with hpart | hwhole
              · rw [parse_part hlt hfuel hsize hmsb hpart, parse_part hlt Nat.one_pos hsize hmsb hpart]
              · obtain ⟨p, hp⟩ := fromSlice_of_size hsize hmsb
                have hsome : round buff readable offset = some (p, offset + size.toNat) :=
                  round_eq_some.mpr ⟨hlt, size, hsize, hmsb, hwhole, hp, rfl⟩
                rw [hround] at hsome
                cases hsome
    · rw [parse_done hge hfuel, parse_done hge Nat.one_pos]
  have hnone : (ReadBuffer.parse buff readable fuel offset).delivered = [] := parse_of_leave hround
  cases hparsed : ReadBuffer.parse buff readable fuel offset with
  | mk delivered rest =>
      rw [hparsed] at hsame hnone
      dsimp only at hsame hnone
      rw [hnone, hsame, hrest]

/-- **A read that the loop has left delivered what the loop cut.** -/
theorem Cut.read {chunk : Bytes} {b' : ReadBuffer}
    (h : Cut (b.fill chunk) (b.buffOffset + chunk.length) packets offset)
    (hround : round (b.fill chunk) (b.buffOffset + chunk.length) offset = none)
    (hrest : (ReadBuffer.parse (b.fill chunk) (b.buffOffset + chunk.length) 1 offset).rest = some b') :
    b.read chunk = { delivered := packets, rest := some b' } := by
  have hbound : packets.length ≤ offset := by
    refine h.bounded.resolve_right ?_
    rintro ⟨packet, hsome⟩
    rw [hround] at hsome
    cases hsome
  have hle := h.le
  obtain ⟨fuel, hfuel⟩ : ∃ fuel, b.buffOffset + chunk.length + 1 = packets.length + (fuel + 1) :=
    ⟨b.buffOffset + chunk.length - packets.length, by omega⟩
  unfold ReadBuffer.read
  rw [hfuel, h.parse, parse_left_rest hround hrest (Nat.succ_pos fuel)]
  simp [Parsed.after]

/-- One more read. -/
theorem receive_snoc {chunks : List Bytes} {chunk : Bytes} {b₀ b' : ReadBuffer}
    {packets packets' : List Packet}
    (h : b₀.receive chunks = { delivered := packets, rest := some b })
    (hread : b.read chunk = { delivered := packets', rest := some b' }) :
    b₀.receive (chunks ++ [chunk]) = { delivered := packets ++ packets', rest := some b' } := by
  induction chunks generalizing b₀ packets with
  | nil =>
      simp only [receive_nil, Parsed.mk.injEq, Option.some.injEq] at h
      obtain ⟨rfl, rfl⟩ := h
      simp [receive, hread]
  | cons first rest ih =>
      cases hfirst : (b₀.read first).rest with
      | none =>
          have hstuck : (b₀.receive (first :: rest)).rest = none := receive_stuck hfirst
          rw [h] at hstuck
          cases hstuck
      | some b₁ =>
          rw [receive_cons hfirst] at h
          rw [List.cons_append, receive_cons hfirst]
          cases hlater : b₁.receive rest with
          | mk delivered left =>
              rw [hlater] at h
              simp only [Parsed.after, Parsed.mk.injEq] at h
              obtain ⟨rfl, rfl⟩ := h
              rw [ih hlater]
              simp [Parsed.after]

end

end ReadBuffer

/-! ### What a task has said -/

/-- What a task says whose client has greeted the server, as long as the connection lasts. -/
def opened (packets : List Packet) : List Message :=
  .status (.authenticated protocolVersion) :: packets.map .updated

/-- The greeting was read, and after it the later reads. -/
structure Greeted (chunks later : List Bytes) : Prop where
  split : ∃ first, chunks = first ++ later ∧ examine first.flatten = .version protocolVersion

/-- The packets of all later reads were sent, and the buffer is ready for the next one. -/
structure CaughtUp (chunks : List Bytes) (packets : List Packet) (b : ReadBuffer) : Prop where
  reads : ∃ later, Greeted chunks later ∧
    ReadBuffer.new.receive later = { delivered := packets, rest := some b }

/-- The packets in front of the offset were sent, and those of the reads before. -/
structure Cutting (chunks : List Bytes) (said : List Message) (buff : Bytes) (readable offset : Nat) :
    Prop where
  cut : ∃ later chunk b packets ahead, Greeted chunks (later ++ [chunk]) ∧
    ReadBuffer.new.receive later = { delivered := packets, rest := some b } ∧
    buff = b.fill chunk ∧ readable = b.buffOffset + chunk.length ∧
    ReadBuffer.Cut buff readable ahead offset ∧ said = opened (packets ++ ahead)

/-- What a task has read and said, by where it stands. -/
def Reader.Accounts (chunks : List Bytes) (said : List Message) : Reader → Prop
  | .auth received => said = [] ∧ received = chunks.flatten
  | .authenticated protocol => said = [] ∧ protocol = protocolVersion ∧ Greeted chunks []
  | .refused => said = []
  | .reading b => ∃ packets, said = opened packets ∧ CaughtUp chunks packets b
  | .parsing buff readable offset => Cutting chunks said buff readable offset
  | .updated packet buff readable offset' =>
    ∃ offset, Cutting chunks said buff readable offset ∧
      ReadBuffer.round buff readable offset = some (packet, offset')
  | .closed => ∃ packets b, said = opened packets ∧ CaughtUp chunks packets b
  | .finished =>
    said = [.disconnected] ∨
      ∃ packets b, said = opened packets ++ [.disconnected] ∧ CaughtUp chunks packets b
  | .panicked => ∃ buff readable offset, Cutting chunks said buff readable offset

section

variable {chunks : List Bytes} {said : List Message} {r r' : Reader} {chunk : Bytes}
  {message : Message}

theorem opened_append (packets packets' : List Packet) :
    opened (packets ++ packets') = opened packets ++ packets'.map .updated := by
  simp [opened]

/-- The reads of a run are those that brought bytes. -/
def readAfter (chunks : List Bytes) (chunk : Bytes) : List Bytes :=
  if chunk = [] then chunks else chunks ++ [chunk]

theorem readAfter_nil : readAfter chunks [] = chunks := if_pos rfl

theorem readAfter_of_ne (hne : chunk ≠ []) : readAfter chunks chunk = chunks ++ [chunk] := if_neg hne

namespace Reader.Accounts

theorem step (h : r.Accounts chunks said) (hstep : ReaderStep r chunk r') :
    r'.Accounts (readAfter chunks chunk) said := by
  cases hstep with
  | more hne _ _ =>
      obtain ⟨hsaid, rfl⟩ := h
      rw [readAfter_of_ne hne]
      exact ⟨hsaid, by simp⟩
  | wrong _ _ _ => exact h.1
  | otherVersion _ _ _ _ => exact h.1
  | accepted hne _ hversion =>
      obtain ⟨hsaid, rfl⟩ := h
      rw [readAfter_of_ne hne]
      exact ⟨hsaid, rfl, ⟨chunks ++ [chunk], by simp, by simpa using hversion⟩⟩
  | unanswered _ _ _ => exact h.1
  | authEnds => exact h.1
  | @read b _ hne _ =>
      obtain ⟨packets, hsaid, later, ⟨first, hchunks, hgreeted⟩, hreceived⟩ := h
      rw [readAfter_of_ne hne]
      refine ⟨later, chunk, b, packets, [], ⟨first, ?_, hgreeted⟩, hreceived, rfl, rfl, .nil, ?_⟩
      · rw [hchunks, List.append_assoc]
      · rw [List.append_nil]
        exact hsaid
  | @readEnds b =>
      rw [readAfter_nil]
      obtain ⟨packets, hsaid, hcaught⟩ := h
      exact ⟨packets, b, hsaid, hcaught⟩
  | @cut _ _ offset _ _ hround =>
      rw [readAfter_nil]
      exact ⟨offset, h, hround⟩
  | leave hround hrest =>
      rw [readAfter_nil]
      obtain ⟨later, chunk, b, packets, ahead, hgreeted, hreceived, rfl, rfl, hcut, hsaid⟩ := h
      refine ⟨packets ++ ahead, hsaid, later ++ [chunk], hgreeted, ?_⟩
      exact ReadBuffer.receive_snoc hreceived (hcut.read hround hrest)
  | panic _ _ =>
      rw [readAfter_nil]
      exact ⟨_, _, _, h⟩

theorem say (h : r.Accounts chunks said) (hsay : r.says = some (message, r')) :
    r'.Accounts chunks (said ++ [message]) := by
  cases r with
  | authenticated protocol =>
      obtain ⟨rfl, rfl⟩ := Prod.mk.inj (Option.some.inj hsay)
      obtain ⟨rfl, rfl, hgreeted⟩ := h
      exact ⟨[], rfl, [], hgreeted, rfl⟩
  | updated packet buff readable offset' =>
      obtain ⟨rfl, rfl⟩ := Prod.mk.inj (Option.some.inj hsay)
      obtain ⟨offset, ⟨later, chunk, b, packets, ahead, hgreeted, hreceived, hbuff, hreadable, hcut,
        rfl⟩, hround⟩ := h
      refine ⟨later, chunk, b, packets, ahead ++ [packet], hgreeted, hreceived, hbuff, hreadable,
        hcut.snoc hround, ?_⟩
      rw [← List.append_assoc, opened_append (packets ++ ahead)]
      rfl
  | refused =>
      obtain ⟨rfl, rfl⟩ := Prod.mk.inj (Option.some.inj hsay)
      obtain rfl : said = [] := h
      exact Or.inl rfl
  | closed =>
      obtain ⟨rfl, rfl⟩ := Prod.mk.inj (Option.some.inj hsay)
      obtain ⟨packets, b, rfl, hcaught⟩ := h
      exact Or.inr ⟨packets, b, rfl, hcaught⟩
  | _ => cases hsay

/-- A task has said nothing but a disconnect, or it has read the greeting. -/
theorem shape (h : r.Accounts chunks said) :
    said = [] ∨ said = [.disconnected] ∨ greeting <+: chunks.flatten ∧
      ∃ packets, said = opened packets ∨ said = opened packets ++ [.disconnected] := by
  have hgreets : ∀ {later}, Greeted chunks later → greeting <+: chunks.flatten := by
    rintro later ⟨first, rfl, hversion⟩
    rw [List.flatten_append]
    exact (examine_version.mp hversion).trans (List.prefix_append _ _)
  cases r with
  | auth received => exact Or.inl h.1
  | authenticated protocol => exact Or.inl h.1
  | refused => exact Or.inl h
  | reading b =>
      obtain ⟨packets, hsaid, later, hgreeted, -⟩ := h
      exact Or.inr (Or.inr ⟨hgreets hgreeted, packets, Or.inl hsaid⟩)
  | parsing buff readable offset =>
      obtain ⟨later, chunk, b, packets, ahead, hgreeted, -, -, -, -, hsaid⟩ := h
      exact Or.inr (Or.inr ⟨hgreets hgreeted, _, Or.inl hsaid⟩)
  | updated packet buff readable offset' =>
      obtain ⟨offset, ⟨later, chunk, b, packets, ahead, hgreeted, -, -, -, -, hsaid⟩, -⟩ := h
      exact Or.inr (Or.inr ⟨hgreets hgreeted, _, Or.inl hsaid⟩)
  | closed =>
      obtain ⟨packets, b, hsaid, later, hgreeted, -⟩ := h
      exact Or.inr (Or.inr ⟨hgreets hgreeted, packets, Or.inl hsaid⟩)
  | finished =>
      rcases h with hsaid | ⟨packets, b, hsaid, later, hgreeted, -⟩
      · exact Or.inr (Or.inl hsaid)
      · exact Or.inr (Or.inr ⟨hgreets hgreeted, packets, Or.inr hsaid⟩)
  | panicked =>
      obtain ⟨buff, readable, offset, later, chunk, b, packets, ahead, hgreeted, -, -, -, -, hsaid⟩ := h
      exact Or.inr (Or.inr ⟨hgreets hgreeted, _, Or.inl hsaid⟩)

end Reader.Accounts

end

/-! ### Runs -/

/-- What was said, read and taken so far, beside the state. -/
structure Sessions (tr : List Label) (s : System) : Prop where
  /-- The channel is first in, first out. -/
  fifo : ∀ x, tr.filterMap (Label.takenFrom x) ++ s.queued x = tr.filterMap (Label.saidBy x)
  accounts : ∀ x r, s.readers x = some r →
    r.Accounts (tr.filterMap (Label.readFrom x)) (tr.filterMap (Label.saidBy x))
  unheard : ∀ x, s.readers x = none →
    tr.filterMap (Label.readFrom x) = [] ∧ tr.filterMap (Label.saidBy x) = []
  messagesFit : s.messages.length ≤ clientsCapacity
  eventsFit : s.events.length ≤ eventsCapacity

theorem filterMap_snoc {α β : Type} (f : α → Option β) (l : List α) (a : α) :
    (l ++ [a]).filterMap f = l.filterMap f ++ (f a).toList := by
  rw [List.filterMap_append]
  cases h : f a <;> simp [h]

section

variable {tr : List Label} {s s' : System} {e : Label} {x y : ClientID} {message : Message}

theorem System.queued_snoc {messages : List (ClientID × Message)}
    (h : s'.messages = messages ++ [(y, message)]) (hs : s.messages = messages) :
    s'.queued x = s.queued x ++ (Label.saidBy x (.said y message)).toList := by
  simp only [System.queued, h, hs, List.filter_append, List.map_append, Label.saidBy]
  by_cases hy : y = x <;> simp [hy]

theorem System.queued_cons {rest : List (ClientID × Message)} (h : s.messages = (y, message) :: rest)
    (hs' : s'.messages = rest) {env : Env} {sent : List Sent} :
    s.queued x = (Label.takenFrom x (.round (some { env, input := .message y message, sent }))).toList
      ++ s'.queued x := by
  simp only [System.queued, h, hs', Label.takenFrom]
  by_cases hy : y = x <;> simp [hy]

namespace Sessions

theorem new (start : Instant) : Sessions [] (System.new start) where
  fifo := fun _ => rfl
  accounts := fun _ _ hr => by cases hr
  unheard := fun _ _ => ⟨rfl, rfl⟩
  messagesFit := Nat.zero_le _
  eventsFit := Nat.zero_le _

/-- A step that says, reads and takes nothing. -/
theorem quiet (h : Sessions tr s) (hsaid : ∀ x, e.saidBy x = none) (htaken : ∀ x, e.takenFrom x = none)
    (hread : ∀ x, e.readFrom x = none) (hmessages : s'.messages = s.messages)
    (hreaders : s'.readers = s.readers) (hevents : s'.events.length ≤ eventsCapacity) :
    Sessions (tr ++ [e]) s' where
  fifo x := by
    rw [filterMap_snoc, filterMap_snoc, hsaid, htaken]
    simpa [System.queued, hmessages] using h.fifo x
  accounts x r hr := by
    rw [filterMap_snoc, filterMap_snoc, hsaid, hread]
    simpa using h.accounts x r (hreaders ▸ hr)
  unheard x hx := by
    rw [filterMap_snoc, filterMap_snoc, hsaid, hread]
    simpa using h.unheard x (hreaders ▸ hx)
  messagesFit := by
    rw [hmessages]
    exact h.messagesFit
  eventsFit := hevents

theorem accept (h : Sessions tr s) (hnew : s.readers y = none) :
    Sessions (tr ++ [.accept y]) { s.setReader y (.auth []) with listener := some y } where
  fifo x := by
    rw [filterMap_snoc, filterMap_snoc]
    simpa [Label.takenFrom, Label.saidBy, System.queued, System.setReader] using h.fifo x
  accounts x r hr := by
    rw [filterMap_snoc, filterMap_snoc]
    simp only [Label.readFrom, Label.saidBy, Option.toList_none, List.append_nil]
    by_cases hx : x = y
    · subst hx
      have hauth : Reader.auth [] = r := by simpa [System.setReader] using hr
      obtain ⟨hread, hsaid⟩ := h.unheard x hnew
      rw [← hauth, hread, hsaid]
      exact ⟨rfl, rfl⟩
    · exact h.accounts x r (by simpa [System.setReader, hx] using hr)
  unheard x hx := by
    rw [filterMap_snoc, filterMap_snoc]
    simp only [Label.readFrom, Label.saidBy, Option.toList_none, List.append_nil]
    by_cases hxy : x = y
    · subst hxy
      simp [System.setReader] at hx
    · exact h.unheard x (by simpa [System.setReader, hxy] using hx)
  messagesFit := h.messagesFit
  eventsFit := h.eventsFit

theorem read (h : Sessions tr s) {r r' : Reader} {chunk : Bytes} (hreader : s.readers y = some r)
    (hstep : ReaderStep r chunk r') : Sessions (tr ++ [.read y chunk]) (s.setReader y r') where
  fifo x := by
    rw [filterMap_snoc, filterMap_snoc]
    simpa [Label.takenFrom, Label.saidBy, System.queued, System.setReader] using h.fifo x
  accounts x r₁ hr := by
    rw [filterMap_snoc, filterMap_snoc]
    simp only [Label.saidBy, Option.toList_none, List.append_nil]
    by_cases hx : x = y
    · subst hx
      have hsame : r' = r₁ := by simpa [System.setReader] using hr
      have hreads : tr.filterMap (Label.readFrom x) ++ (Label.readFrom x (.read x chunk)).toList
          = readAfter (tr.filterMap (Label.readFrom x)) chunk := by
        unfold readAfter Label.readFrom
        by_cases hne : chunk = [] <;> simp [hne]
      rw [hreads, ← hsame]
      exact (h.accounts x r hreader).step hstep
    · have hread : Label.readFrom x (.read y chunk) = none := by
        simp [Label.readFrom, show y ≠ x from fun heq => hx heq.symm]
      rw [hread]
      simpa using h.accounts x r₁ (by simpa [System.setReader, hx] using hr)
  unheard x hx := by
    by_cases hxy : x = y
    · subst hxy
      simp [System.setReader] at hx
    · rw [filterMap_snoc, filterMap_snoc]
      have hread : Label.readFrom x (.read y chunk) = none := by
        simp [Label.readFrom, show y ≠ x from fun heq => hxy heq.symm]
      rw [hread]
      simpa [Label.saidBy] using h.unheard x (by simpa [System.setReader, hxy] using hx)
  messagesFit := h.messagesFit
  eventsFit := h.eventsFit

theorem say (h : Sessions tr s) {r r' : Reader} (hreader : s.readers y = some r)
    (hsay : r.says = some (message, r')) (hroom : s.messages.length < clientsCapacity) :
    Sessions (tr ++ [.said y message])
      { (s.setReader y r').setOut y (r.starts (s.outs y)) with
        messages := s.messages ++ [(y, message)] } where
  fifo x := by
    rw [filterMap_snoc, filterMap_snoc, System.queued_snoc (s := s) rfl rfl]
    have hfifo := h.fifo x
    rw [← hfifo]
    simp [Label.takenFrom]
  accounts x r₁ hr := by
    rw [filterMap_snoc, filterMap_snoc]
    simp only [Label.readFrom, Option.toList_none, List.append_nil]
    by_cases hx : x = y
    · subst hx
      have hsame : r' = r₁ := by simpa [System.setReader, System.setOut] using hr
      rw [← hsame]
      simpa [Label.saidBy] using (h.accounts x r hreader).say hsay
    · have hsaid : Label.saidBy x (.said y message) = none := by
        simp [Label.saidBy, show y ≠ x from fun heq => hx heq.symm]
      rw [hsaid]
      simpa using h.accounts x r₁ (by simpa [System.setReader, System.setOut, hx] using hr)
  unheard x hx := by
    by_cases hxy : x = y
    · subst hxy
      simp [System.setReader, System.setOut] at hx
    · rw [filterMap_snoc, filterMap_snoc]
      have hsaid : Label.saidBy x (.said y message) = none := by
        simp [Label.saidBy, show y ≠ x from fun heq => hxy heq.symm]
      rw [hsaid]
      simpa [Label.readFrom] using
        h.unheard x (by simpa [System.setReader, System.setOut, hxy] using hx)
  messagesFit := by
    simp only [List.length_append, List.length_singleton]
    exact hroom
  eventsFit := h.eventsFit

theorem take (h : Sessions tr s) {env : Env} {rest : List (ClientID × Message)} {srv : Server}
    {sent : List Sent} (hmessages : s.messages = (y, message) :: rest) :
    Sessions (tr ++ [.round (some { env, input := .message y message, sent })])
      { s.afterRound srv sent with messages := rest } where
  fifo x := by
    have hfifo := h.fifo x
    have hcons : s.queued x
        = (Label.takenFrom x (.round (some { env, input := .message y message, sent }))).toList
          ++ System.queued { s.afterRound srv sent with messages := rest } x :=
      System.queued_cons hmessages rfl
    rw [hcons, ← List.append_assoc] at hfifo
    rw [filterMap_snoc, filterMap_snoc]
    simpa [Label.saidBy] using hfifo
  accounts x r hr := by
    rw [filterMap_snoc, filterMap_snoc]
    simpa [Label.readFrom, Label.saidBy] using h.accounts x r hr
  unheard x hx := by
    rw [filterMap_snoc, filterMap_snoc]
    simpa [Label.readFrom, Label.saidBy] using h.unheard x hx
  messagesFit := by
    have hfit := h.messagesFit
    rw [hmessages, List.length_cons] at hfit
    exact Nat.le_of_succ_le hfit
  eventsFit := h.eventsFit

theorem step (h : Sessions tr s) (hstep : SystemStep s e s') : Sessions (tr ++ [e]) s' := by
  have hsilent : ∀ {s' : System}, s'.messages = s.messages → s'.readers = s.readers →
      s'.events.length ≤ eventsCapacity → Sessions (tr ++ [.silent]) s' :=
    h.quiet (fun _ => rfl) (fun _ => rfl) (fun _ => rfl)
  cases hstep with
  | accept _ hnew => exact h.accept hnew
  | enqueue _ hroom =>
      refine hsilent rfl rfl ?_
      rw [List.length_append, List.length_singleton]
      exact hroom
  | read hreader hstep => exact h.read hreader hstep
  | say hreader hsay hroom => exact h.say hreader hsay hroom
  | tick _ _ => exact h.quiet (fun _ => rfl) (fun _ => rfl) (fun _ => rfl) rfl rfl h.eventsFit
  | add _ hevents _ =>
      refine h.quiet (fun _ => rfl) (fun _ => rfl) (fun _ => rfl) rfl rfl ?_
      have hfit := h.eventsFit
      rw [hevents, List.length_cons] at hfit
      exact Nat.le_of_succ_le hfit
  | take _ hmessages _ => exact h.take hmessages
  | rehash _ _ => exact h.quiet (fun _ => rfl) (fun _ => rfl) (fun _ => rfl) rfl rfl h.eventsFit
  | call _ _ _ => exact h.quiet (fun _ => rfl) (fun _ => rfl) (fun _ => rfl) rfl rfl h.eventsFit
  | op _ => exact hsilent rfl rfl h.eventsFit
  | drop _ _ _ => exact hsilent rfl rfl h.eventsFit
  | background _ => exact hsilent rfl rfl h.eventsFit

theorem run {start : Instant} (h : Transition.Run SystemStep (System.new start) tr s) :
    Sessions tr s :=
  h.history (P := Sessions) (.new start) fun _ _ _ _ _ hstep hbefore => hbefore.step hstep

end Sessions

/-- The packets that the main loop has taken from a connection are the first of those that its task
has said. -/
theorem opened_prefix {taken queued : List Message} {packets : List Packet} {last : List Message}
    (hlast : last = [] ∨ last = [.disconnected]) (h : taken ++ queued = opened packets ++ last) :
    taken = [] ∨ ∃ packets', packets' <+: packets ∧
      (taken = opened packets' ∨ taken = opened packets' ++ [.disconnected]) := by
  rcases List.append_eq_append_iff.mp h with ⟨later, hopened, -⟩ | ⟨more, htaken, hmore⟩
  · cases taken with
    | nil => exact Or.inl rfl
    | cons first rest =>
        simp only [opened, List.cons_append, List.cons.injEq] at hopened
        obtain ⟨rfl, hrest⟩ := hopened
        obtain ⟨packets', later', rfl, rfl, -⟩ := List.map_eq_append_iff.mp hrest
        exact Or.inr ⟨packets', List.prefix_append _ _, Or.inl rfl⟩
  · refine Or.inr ⟨packets, List.prefix_refl _, ?_⟩
    rcases hlast with rfl | rfl
    · obtain ⟨rfl, -⟩ := List.append_eq_nil_iff.mp hmore.symm
      exact Or.inl (by simpa using htaken)
    · rcases List.append_eq_singleton_iff.mp hmore.symm with ⟨rfl, -⟩ | ⟨rfl, -⟩
      · exact Or.inl (by simpa using htaken)
      · exact Or.inr htaken

/-- **What the main loop takes from a connection.**  In every run the messages it has taken,
followed by those that wait, are those that the connection's task has sent.  They are none, or a
disconnect alone; or the bytes of the connection begin with the greeting, and they are that it
is authenticated, then packets in the order in which they were cut out, then perhaps a
disconnect.  When the task waits for bytes again, the packets it sent are those that its reads
deliver. -/
theorem messages_in_order {start : Instant}
    (h : Transition.Run SystemStep (System.new start) tr s) (x : ClientID) :
    tr.filterMap (Label.takenFrom x) ++ s.queued x = tr.filterMap (Label.saidBy x) ∧
      (tr.filterMap (Label.takenFrom x) = [] ∨
        tr.filterMap (Label.takenFrom x) = [.disconnected] ∨
        greeting <+: (tr.filterMap (Label.readFrom x)).flatten ∧
          ∃ packets, tr.filterMap (Label.takenFrom x) = opened packets ∨
            tr.filterMap (Label.takenFrom x) = opened packets ++ [.disconnected]) ∧
      ∀ b, s.readers x = some (.reading b) → ∃ first later packets,
        tr.filterMap (Label.readFrom x) = first ++ later ∧
        examine first.flatten = .version protocolVersion ∧
        tr.filterMap (Label.saidBy x) = opened packets ∧
        ReadBuffer.new.receive later = { delivered := packets, rest := some b } := by
  have hsessions := Sessions.run h
  have hfifo := hsessions.fifo x
  refine ⟨hfifo, ?_, fun b hreader => ?_⟩
  · cases hreader : s.readers x with
    | none =>
        rw [(hsessions.unheard x hreader).2] at hfifo
        exact Or.inl (List.append_eq_nil_iff.mp hfifo).1
    | some r =>
        rcases (hsessions.accounts x r hreader).shape with hnone | honly | ⟨hgreeting, packets, hsaid⟩
        · rw [hnone] at hfifo
          exact Or.inl (List.append_eq_nil_iff.mp hfifo).1
        · rw [honly] at hfifo
          rcases List.append_eq_singleton_iff.mp hfifo with ⟨hnone, -⟩ | ⟨hlast, -⟩
          · exact Or.inl hnone
          · exact Or.inr (Or.inl hlast)
        · have hgreets : tr.filterMap (Label.takenFrom x) = [] ∨ ∃ packets', packets' <+: packets ∧
              (tr.filterMap (Label.takenFrom x) = opened packets' ∨
                tr.filterMap (Label.takenFrom x) = opened packets' ++ [.disconnected]) := by
            rcases hsaid with hsaid | hsaid
            · exact opened_prefix (Or.inl rfl) (by rw [hfifo, hsaid, List.append_nil])
            · exact opened_prefix (Or.inr rfl) (by rw [hfifo, hsaid])
          rcases hgreets with hnone | ⟨packets', -, htaken⟩
          · exact Or.inl hnone
          · exact Or.inr (Or.inr ⟨hgreeting, packets', htaken⟩)
  · obtain ⟨packets, hsaid, later, ⟨first, hreads, hversion⟩, hreceived⟩ :=
      hsessions.accounts x _ hreader
    exact ⟨first, later, packets, hreads, hversion, hsaid, hreceived⟩

end

/-- A client greets the server and asks for the time; the main loop has taken the first of the two
messages. -/
theorem messages_in_order_greeted : ∃ tr s, Transition.Run SystemStep (System.new 0) tr s ∧
    tr.filterMap (Label.takenFrom 7) = [.status (.authenticated protocolVersion)] ∧
    s.queued 7 = [.updated (request .serverTimeQuery [])] ∧
    tr.filterMap (Label.takenFrom 7) ++ s.queued 7 = tr.filterMap (Label.saidBy 7) := by
  have hrun := (Transition.Run.nil : Transition.Run SystemStep (System.new 0) [] (System.new 0))
    |>.snoc (.accept (x := 7) rfl rfl)
    |>.snoc (.enqueue (x := 7) rfl (by decide))
    |>.snoc (.addAt (x := 7) 0 ⟨rfl, fun _ => rfl⟩ rfl rfl)
    |>.snoc (.readBytes (x := 7) greeting rfl (.accepted (by decide) (by decide) (by decide)))
    |>.snoc (.say (x := 7) rfl rfl (by decide))
    |>.snoc (.readBytes (x := 7) [1, 0, 137] rfl (.read (by decide) (by decide)))
    |>.snoc (.read (x := 7) rfl (.cut rfl))
    |>.snoc (.say (x := 7) rfl rfl (by decide))
  have hrun' := hrun.snoc
    (.takeAt 0 ⟨rfl, System.ops_update (System.ops_update (fun _ => rfl) rfl) rfl⟩ rfl rfl)
  exact ⟨_, _, hrun', rfl, rfl, (messages_in_order hrun' 7).1⟩

end VangersSrv
