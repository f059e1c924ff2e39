/-
What reaches the ways out.

What a round has to send is passed to the clients one packet after the other, while their writers
go on.  Seen from one connection this is a run of its way out, whose calls are the packets that the
rounds sent to it, so that all that is known of such a run holds here.  And the loop is never held
up: every client it has to send to still exists, every packet has bytes, and no operation of a call
waits for a writer.
-/
import VangersSrv.Client.Places
import VangersSrv.Server.Recipients
import VangersSrv.Server.WorldReplica
import VangersSrv.System.Clients

namespace VangersSrv

/-! ### What was sent and what was passed -/

/-- The call that is made to a connection. -/
def Label.calledTo (x : ClientID) : Label → Option Call
  | .call y made => if y = x then some made else none
  | _ => none

/-- What the rounds of a run send, in order. -/
def sentOf (tr : List Label) : List Sent := (roundsOf tr).flatMap sentIn

/-- The calls that pass something to a connection. -/
def callsTo (x : ClientID) (sent : List Sent) : List Call :=
  (sent.filter fun s => s.client = x).map Sent.call

/-- The task of a connection has not started its writer yet. -/
def Reader.Unwritten : Option Reader → Prop
  | none | some (.auth _) | some (.authenticated _) | some .refused => True
  | _ => False

/-- A step of the main loop that passes on what a round has sent. -/
inductive SendStep : System → Label → System → Prop
  | call {s : System} {sent : Sent} {rest : List Sent} {o : Outbound} (hsends : s.sends = sent :: rest)
      (hidle : ∀ x, (s.outs x).ops = [])
      (hcall : OutboundStep (s.outs sent.client) (some sent.call) o) :
      SendStep s (.call sent.client sent.call) { s.setOut sent.client o with sends := rest }
  | op {s : System} {x : ClientID} {op : Op} {rest : List Op} (hops : (s.outs x).ops = op :: rest) :
      SendStep s .silent (s.setOut x ({ s.outs x with ops := rest }.perform op))

section

variable {tr : List Label} {s s' : System} {e : Label} {x y : ClientID} {o : Outbound}
  {sent : List Sent} {srv : Server}

@[simp] theorem Sent.call_packet (sent : Sent) : sent.call.packet = sent.packet := by
  unfold Sent.call
  split <;> rfl

theorem SendStep.system (h : SendStep s e s') : SystemStep s e s' := by
  cases h with
  | call hsends hidle hcall => exact .call hsends hidle hcall
  | op hops => exact .op hops

theorem sentOf_snoc : sentOf (tr ++ [e]) = sentOf tr ++ e.toRound.toList.flatMap sentIn := by
  rw [sentOf, sentOf, show roundsOf (tr ++ [e]) = roundsOf tr ++ e.toRound.toList from filterMap_snoc _ _ _,
    List.flatMap_append]

@[simp] theorem callsTo_nil : callsTo x [] = [] := rfl

theorem callsTo_append {sent sent' : List Sent} :
    callsTo x (sent ++ sent') = callsTo x sent ++ callsTo x sent' := by
  simp [callsTo]

theorem callsTo_cons {first : Sent} : callsTo x (first :: sent)
    = (Label.calledTo x (.call first.client first.call)).toList ++ callsTo x sent := by
  by_cases hx : first.client = x <;> simp [callsTo, Label.calledTo, hx]

/-! ### One way out -/

theorem Outbound.Orderly.of_run {t : List (Option Call)}
    (h : Transition.Run OutboundStep Outbound.new t o) : o.Orderly := by
  refine h.invariant .new fun a e b hstep ha => ?_
  cases e with
  | none => exact ha.step hstep
  | some made =>
      cases hstep with
      | call _ halive _ => exact { ha with quiet := fun hdropped => by simp [halive] at hdropped }

/-- **What is on the wire was passed.** -/
theorem wire_passed {t : List (Option Call)} (h : Transition.Run OutboundStep Outbound.new t o) :
    ∀ data ∈ o.wire, data ∈ passed t := by
  -- a way out that is alike to another one by what its bytes are holds no other bytes
  have halike : ∀ all : List Bytes, (∀ data ∈ passed t, data ∈ all) →
      ∃ o', Outbound.Alike (fun data _ => data ∈ all) o o' := by
    refine h.history (P := fun t o => ∀ all : List Bytes, (∀ data ∈ passed t, data ∈ all) →
      ∃ o', Outbound.Alike (fun data _ => data ∈ all) o o') ?_ ?_
    · intro all _
      exact ⟨Outbound.new, {
        fifo := .nil, tasks := .nil, latestServerTime := .none
        latestObjectUpdates := { order := rfl, packets := fun _ => .none }
        timeNotified := rfl, updatesNotified := rfl, ops := .nil, dropped := rfl
        writer := .idle rfl, rxServerClosed := rfl, wire := .nil }⟩
    · intro t o e o' _ hstep ih all hall
      have hpassed : passed (t ++ [e]) = passed t ++ passed [e] := List.filterMap_append ..
      rw [hpassed] at hall
      obtain ⟨a, ha⟩ := ih all fun data hdata => hall data (List.mem_append_left _ hdata)
      cases e with
      | none =>
          obtain ⟨a', -, ha'⟩ := ha.step hstep
          exact ⟨a', ha'⟩
      | some call =>
          cases hstep with
          | @call call data _ _ hdata =>
              have hmem : data ∈ all := hall data (List.mem_append_right _ (by simp [passed, hdata]))
              exact ⟨{ a with ops := call.ops data }, { ha with ops := call.ops_alike hmem }⟩
  obtain ⟨o', ho'⟩ := halike (passed t) fun _ => id
  intro data hdata
  obtain ⟨i, hi, rfl⟩ := List.getElem_of_mem hdata
  exact (List.forall₂_iff_get.mp ho'.wire).2 i hi (ho'.wire.length_eq ▸ hi)

/-! ### The ways out of the system -/

theorem System.outs_setOut : (s.setOut x o).outs y = if y = x then o else s.outs y :=
  Function.update_apply ..

/-- A write to one way out does no more to any of them than it does to that one. -/
theorem System.related_update {R : Outbound → Outbound → Prop} (hrefl : ∀ o, R o o)
    (h : R (s.outs y) o) (x : ClientID) : R (s.outs x) (Function.update s.outs y o x) :=
  (Function.forall_update_iff s.outs fun z o' => R (s.outs z) o').mpr ⟨h, fun _ _ => hrefl _⟩ x

/-- **A step of the system is a step of a way out, or leaves it alone.** -/
theorem SystemStep.out (h : SystemStep s e s')
    (hshake : Reader.Unwritten (s.readers x) → (s.outs x).writer = .handshake) :
    s'.outs x = s.outs x ∧ e.calledTo x = none ∨ OutboundStep (s.outs x) (e.calledTo x) (s'.outs x) := by
  have hset : ∀ {z : ClientID} {o : Outbound} {e : Label},
      (z = x → OutboundStep (s.outs x) (e.calledTo x) o) →
      (z ≠ x → e.calledTo x = none) →
      (s.setOut z o).outs x = s.outs x ∧ e.calledTo x = none ∨
        OutboundStep (s.outs x) (e.calledTo x) ((s.setOut z o).outs x) := by
    intro z o e hstep hother
    rcases eq_or_ne z x with hz | hz
    · refine Or.inr ?_
      rw [System.outs_setOut, if_pos hz.symm]
      exact hstep hz
    · refine Or.inl ⟨?_, hother hz⟩
      rw [System.outs_setOut, if_neg hz.symm]
  have hsame : ∀ z, Function.update s.outs z (s.outs z) x = s.outs x := by simp
  cases h with
  | @say z r r' message hreader hsay _ =>
      cases r with
      | authenticated protocol =>
          refine hset (fun hz => ?_) fun _ => rfl
          subst hz
          exact .authenticated (hshake (by rw [hreader]; trivial))
      | refused =>
          refine hset (fun hz => ?_) fun _ => rfl
          subst hz
          exact .refused (hshake (by rw [hreader]; trivial))
      | updated packet buff readable offset => exact Or.inl ⟨hsame z, rfl⟩
      | closed => exact Or.inl ⟨hsame z, rfl⟩
      | _ => cases hsay
  | @call sent rest o _ _ hcall =>
      refine hset (fun hz => ?_) fun hz => by simp [Label.calledTo, hz]
      subst hz
      simpa [Label.calledTo] using hcall
  | op hops =>
      refine hset (fun hz => ?_) fun _ => rfl
      subst hz
      exact .op hops
  | @drop z hidle _ _ =>
      refine hset (fun hz => ?_) fun _ => rfl
      subst hz
      exact .drop (hidle.2 z)
  | background hstep =>
      refine hset (fun hz => ?_) fun _ => rfl
      subst hz
      exact hstep.step
  | _ => exact Or.inl ⟨rfl, rfl⟩

theorem SystemStep.ops (h : SystemStep s e s') (hops : (s'.outs x).ops ≠ []) :
    (s.outs x).ops ≠ [] ∨ (∃ made, e = .call x made) ∧ ∀ y, (s.outs y).ops = [] := by
  have hset : ∀ {z : ClientID} {o : Outbound}, (o.ops ≠ [] → (s.outs z).ops ≠ []) →
      (Function.update s.outs z o x).ops ≠ [] → (s.outs x).ops ≠ [] := fun hkept =>
    System.related_update (R := fun before after => after.ops ≠ [] → before.ops ≠ []) (fun _ => id)
      hkept x
  cases h with
  | @say z r _ _ _ _ _ =>
      refine Or.inl (hset ?_ hops)
      cases r <;> exact id
  | @call sent _ o _ hidle _ =>
      by_cases hz : x = sent.client
      · subst hz
        exact Or.inr ⟨⟨_, rfl⟩, hidle⟩
      · replace hops : (Function.update s.outs sent.client o x).ops ≠ [] := hops
        rw [Function.update_of_ne hz] at hops
        exact Or.inl hops
  | op hbefore =>
      refine Or.inl (hset (fun _ => ?_) hops)
      rw [hbefore]
      exact List.cons_ne_nil _ _
  | drop _ _ _ =>
      refine Or.inl (hset ?_ hops)
      exact id
  | background hstep =>
      refine Or.inl (hset ?_ hops)
      rw [hstep.ops]
      exact id
  | _ => exact Or.inl hops

/-- Only a client that is not held any more is dropped. -/
theorem SystemStep.dropped (h : SystemStep s e s') :
    (s'.outs x).dropped = (s.outs x).dropped ∨ s.Idle ∧ s.readers x ≠ none ∧ ¬ s.Held x := by
  have hset : ∀ {z : ClientID} {o : Outbound}, o.dropped = (s.outs z).dropped →
      (Function.update s.outs z o x).dropped = (s.outs x).dropped := fun hsame =>
    System.related_update (R := fun before after => after.dropped = before.dropped) (fun _ => rfl)
      hsame x
  cases h with
  | @say z r _ _ _ _ _ =>
      refine Or.inl (hset ?_)
      cases r <;> rfl
  | call _ _ hcall =>
      refine Or.inl (hset ?_)
      cases hcall with
      | call _ _ _ => rfl
  | op _ => exact Or.inl (hset (by simp))
  | @drop z hidle hreader hgone =>
      by_cases hz : x = z
      · subst hz
        exact Or.inr ⟨hidle, hreader, hgone⟩
      · exact Or.inl (by rw [System.outs_setOut, if_neg hz])
  | background hstep => exact Or.inl (hset hstep.dropped)
  | _ => exact Or.inl rfl

theorem SystemStep.held (h : SystemStep s e s') (hheld : s'.Held x) : s.Held x ∨ s.readers x = none := by
  have hconnected : x ∈ s'.srv.connected → s.Held x ∨ e.Registers x := fun hx =>
    ((h.connected_iff x).mp hx).symm.imp (fun hbefore => Or.inr (Or.inr hbefore.1)) id
  cases h with
  | accept _ hnew =>
      rcases hheld with hlistener | hevents | hx
      · exact Or.inr (Option.some.inj hlistener ▸ hnew)
      · exact Or.inl (Or.inr (Or.inl hevents))
      · exact Or.inl (Or.inr (Or.inr hx))
  | enqueue hlistener _ =>
      rcases hheld with hnone | hevents | hx
      · cases hnone
      · rcases List.mem_append.mp hevents with hevents | hx
        · exact Or.inl (Or.inr (Or.inl hevents))
        · exact Or.inl (Or.inl (by rw [hlistener, List.mem_singleton.mp hx]))
      · exact Or.inl (Or.inr (Or.inr hx))
  | @add env z rest srv sent _ hevents _ =>
      rcases hheld with hlistener | hrest | hx
      · exact Or.inl (Or.inl hlistener)
      · exact Or.inl (Or.inr (Or.inl (hevents ▸ List.mem_cons_of_mem _ hrest)))
      · rcases hconnected hx with hbefore | hadded
        · exact Or.inl hbefore
        · have hz : z = x := hadded
          exact Or.inl (Or.inr (Or.inl (by simp [hevents, hz])))
  | _ =>
      rcases hheld with hlistener | hevents | hx
      · exact Or.inl (Or.inl hlistener)
      · exact Or.inl (Or.inr (Or.inl hevents))
      · exact Or.inl ((hconnected hx).resolve_right (by exact id))

/-- A task that has started its writer does not come back to the greeting. -/
theorem ReaderStep.unwritten {r r' : Reader} {chunk : Bytes} (h : ReaderStep r chunk r')
    (hafter : Reader.Unwritten (some r')) : Reader.Unwritten (some r) := by
  cases h with
  | read _ _ => exact hafter
  | readEnds => exact hafter
  | cut _ => exact hafter
  | leave _ _ => exact hafter
  | panic _ _ => exact hafter
  | _ => trivial

theorem SystemStep.unwritten (h : SystemStep s e s')
    (hbefore : Reader.Unwritten (s.readers x) → (s.outs x).writer = .handshake)
    (hafter : Reader.Unwritten (s'.readers x)) : (s'.outs x).writer = .handshake := by
  have hset : ∀ {z : ClientID} {o : Outbound}, (o.writer = .handshake ↔ (s.outs z).writer = .handshake) →
      Reader.Unwritten (s.readers x) → (Function.update s.outs z o x).writer = .handshake := by
    intro z o hsame hunwritten
    have hkept := System.related_update
      (R := fun before after => after.writer = .handshake ↔ before.writer = .handshake)
      (fun _ => Iff.rfl) hsame x
    exact hkept.mpr (hbefore hunwritten)
  have hread : ∀ {z : ClientID} {r : Option Reader} {r' : Reader}, s.readers z = r →
      (Reader.Unwritten (some r') → Reader.Unwritten r) →
      Reader.Unwritten (Function.update s.readers z (some r') x) → Reader.Unwritten (s.readers x) := by
    intro z r r' hreader hkept hunwritten
    rw [Function.update_apply] at hunwritten
    split at hunwritten
    · rename_i hz
      rw [hz, hreader]
      exact hkept hunwritten
    · exact hunwritten
  cases h with
  | accept _ hnew => exact hbefore (hread hnew (fun _ => trivial) hafter)
  | read hreader hstep => exact hbefore (hread hreader hstep.unwritten hafter)
  | @say z r r' message hreader hsay _ =>
      have hz : x ≠ z := by
        rintro rfl
        have hgone : Reader.Unwritten (some r') := by simpa [System.setReader, System.setOut] using hafter
        cases r with
        | authenticated _ =>
            obtain ⟨-, rfl⟩ := Prod.mk.inj (Option.some.inj hsay)
            exact hgone
        | updated _ _ _ _ =>
            obtain ⟨-, rfl⟩ := Prod.mk.inj (Option.some.inj hsay)
            exact hgone
        | refused =>
            obtain ⟨-, rfl⟩ := Prod.mk.inj (Option.some.inj hsay)
            exact hgone
        | closed =>
            obtain ⟨-, rfl⟩ := Prod.mk.inj (Option.some.inj hsay)
            exact hgone
        | _ => cases hsay
      have hsame : Reader.Unwritten (s.readers x) := by
        simpa [System.setReader, System.setOut, hz] using hafter
      simpa [System.setReader, System.setOut, hz] using hbefore hsame
  | call _ _ hcall =>
      refine hset ?_ hafter
      cases hcall with
      | call _ _ _ => exact Iff.rfl
  | op _ => exact hset (by simp) hafter
  | drop _ _ _ => exact hset Iff.rfl hafter
  | background hstep => exact hset hstep.handshake hafter
  | _ => exact hbefore hafter

/-- What holds between the ways out and the main loop. -/
structure Delivering (tr : List Label) (s : System) : Prop where
  /-- What was passed to a connection and what is left to pass is what was sent to it. -/
  called : ∀ x, tr.filterMap (Label.calledTo x) ++ callsTo x s.sends = callsTo x (sentOf tr)
  run : ∀ x, ∃ t, Transition.Run OutboundStep Outbound.new t (s.outs x) ∧
    t.filterMap id = tr.filterMap (Label.calledTo x)
  unwritten : ∀ x, Reader.Unwritten (s.readers x) → (s.outs x).writer = .handshake
  /-- The loop makes one call at a time. -/
  oneCall : ∀ x y, (s.outs x).ops ≠ [] → (s.outs y).ops ≠ [] → x = y
  unknown : ∀ x, s.readers x = none → (s.outs x).dropped = false
  held : ∀ x, s.Held x → (s.outs x).dropped = false
  sends : ∀ sent ∈ s.sends, (s.outs sent.client).dropped = false ∧ sent.packet.Built

namespace Delivering

theorem new (start : Instant) : Delivering [] (System.new start) where
  called := fun _ => rfl
  run := fun _ => ⟨[], .nil, rfl⟩
  unwritten := fun _ _ => rfl
  oneCall := fun _ _ hx => absurd rfl hx
  unknown := fun _ _ => rfl
  held := fun _ _ => rfl
  sends := fun _ hsent => by cases hsent

/-! ### One thing after the other -/

theorem step_run (h : Delivering tr s) (hstep : SystemStep s e s') (x : ClientID) :
    ∃ t, Transition.Run OutboundStep Outbound.new t (s'.outs x) ∧
      t.filterMap id = (tr ++ [e]).filterMap (Label.calledTo x) := by
  obtain ⟨t, hrun, hcalls⟩ := h.run x
  rw [filterMap_snoc]
  rcases hstep.out (h.unwritten x) with ⟨hsame, hcalled⟩ | hmove
  · refine ⟨t, ?_, ?_⟩
    · rw [hsame]
      exact hrun
    · rw [hcalled, Option.toList_none, List.append_nil]
      exact hcalls
  · refine ⟨_, hrun.snoc hmove, ?_⟩
    rw [filterMap_snoc, hcalls]
    rfl

/-- A step that is no call and sends nothing. -/
theorem step_called (h : Delivering tr s) (hstep : SystemStep s e s') (x : ClientID) :
    (tr ++ [e]).filterMap (Label.calledTo x) ++ callsTo x s'.sends
      = callsTo x (sentOf (tr ++ [e])) := by
  have hbefore := h.called x
  rw [filterMap_snoc, sentOf_snoc, callsTo_append, ← hbefore]
  cases hstep with
  | tick hidle _ => simp [Label.calledTo, Label.toRound, sentIn, System.afterRound, hidle.1, callsTo]
  | add hidle _ _ => simp [Label.calledTo, Label.toRound, sentIn, System.afterRound, hidle.1, callsTo]
  | take hidle _ _ => simp [Label.calledTo, Label.toRound, sentIn, System.afterRound, hidle.1, callsTo]
  | rehash hidle _ => simp [Label.calledTo, Label.toRound, sentIn, hidle.1, callsTo]
  | call hsends _ _ =>
      rw [hsends, callsTo_cons]
      simp [Label.toRound]
  | _ => simp [Label.calledTo, Label.toRound, System.setOut, System.setReader]

theorem step (h : Delivering tr s) (hstep : SystemStep s e s') : Delivering (tr ++ [e]) s' where
  called := h.step_called hstep
  run := h.step_run hstep
  unwritten := fun x => hstep.unwritten (h.unwritten x)
  oneCall x y hx hy := by
    rcases hstep.ops hx with hx | ⟨⟨made, hx⟩, hnone⟩
    · rcases hstep.ops hy with hy | ⟨-, hnone⟩
      · exact h.oneCall x y hx hy
      · exact absurd (hnone x) hx
    · rcases hstep.ops hy with hy | ⟨⟨made', hy⟩, -⟩
      · exact absurd (hnone y) hy
      · exact (Label.call.inj (hx.symm.trans hy)).1
  unknown x hnew := by
    have hbefore : s.readers x = none := by_contra fun hne => hstep.readers_kept hne hnew
    rcases hstep.dropped with hsame | ⟨-, hreader, -⟩
    · rw [hsame]
      exact h.unknown x hbefore
    · exact absurd hbefore hreader
  held x hheld := by
    rcases hstep.dropped with hsame | ⟨-, hreader, hgone⟩
    · rw [hsame]
      exact (hstep.held hheld).elim (h.held x) (h.unknown x)
    · exact ((hstep.held hheld).elim hgone hreader).elim
  sends sent hsent := by
    -- what is left to send after a step was left before it, or a round has just sent it
    have hold : sent ∈ s.sends → (s'.outs sent.client).dropped = false ∧ sent.packet.Built := by
      intro hsent
      obtain ⟨halive, hbuilt⟩ := h.sends sent hsent
      rcases hstep.dropped with hsame | ⟨hidle, -, -⟩
      · exact ⟨hsame ▸ halive, hbuilt⟩
      · rw [hidle.1] at hsent
        cases hsent
    have hround : ∀ {env : Env} {input : Input} {srv : Server} {all : List Sent},
        s.srv.take env input = some (srv, all) → sent ∈ all → s'.outs = s.outs →
          (s'.outs sent.client).dropped = false ∧ sent.packet.Built := by
      intro env input srv all htake hsent hsame
      obtain ⟨hto, hof⟩ := take_mailed htake sent hsent
      exact ⟨by rw [hsame]; exact h.held _ (Or.inr (Or.inr hto)), hof.built⟩
    cases hstep with
    | tick _ htake => exact hround htake hsent rfl
    | add _ _ htake => exact hround htake hsent rfl
    | take _ _ htake => exact hround htake hsent rfl
    | call hsends _ _ => exact hold (hsends ▸ List.mem_cons_of_mem _ hsent)
    | _ => exact hold hsent

theorem of_run {start : Instant} (h : Transition.Run SystemStep (System.new start) tr s) :
    Delivering tr s :=
  h.history (P := Delivering) (.new start) fun _ _ _ _ _ hstep hbefore => hbefore.step hstep

end Delivering

/-- What is passed was built. -/
theorem SystemStep.built {made : Call} (h : SystemStep s e s')
    (hsends : ∀ sent ∈ s.sends, sent.packet.Built) (hcalled : e.calledTo x = some made) :
    made.packet.Built := by
  cases h with
  | @call first rest o hnext _ _ =>
      simp only [Label.calledTo] at hcalled
      split at hcalled
      · obtain rfl := Option.some.inj hcalled
        rw [Sent.call_packet]
        exact hsends first (hnext ▸ List.mem_cons_self)
      · cases hcalled
  | _ => cases hcalled

/-- **What the calls to a connection find, they find on a run of its way out**, and they pass packets
that were built. -/
theorem outs_run {start : Instant} {P : Outbound → Call → Prop}
    (h : Transition.Run (fun s e s' => SystemStep s e s' ∧
      ∀ call, e.calledTo x = some call → P (s.outs x) call) (System.new start) tr s) :
    ∃ t, Transition.Run (fun o e o' => OutboundStep o e o' ∧
        ∀ call, e = some call → call.packet.Built ∧ P o call) Outbound.new t (s.outs x) ∧
      t.filterMap id = tr.filterMap (Label.calledTo x) := by
  refine h.history (P := fun tr s => ∃ t, Transition.Run (fun o e o' => OutboundStep o e o' ∧
    ∀ call, e = some call → call.packet.Built ∧ P o call) Outbound.new t (s.outs x) ∧
      t.filterMap id = tr.filterMap (Label.calledTo x)) ⟨[], .nil, rfl⟩ ?_
  rintro tr s e s' hbefore ⟨hstep, hfinds⟩ ⟨t, hrun, hcalls⟩
  have hdelivering := Delivering.of_run (hbefore.mono fun _ _ _ hstep => hstep.1)
  rw [filterMap_snoc]
  rcases hstep.out (hdelivering.unwritten x) with ⟨hsame, hcalled⟩ | hmove
  · refine ⟨t, ?_, ?_⟩
    · rw [hsame]
      exact hrun
    · rw [hcalled, Option.toList_none, List.append_nil]
      exact hcalls
  · refine ⟨_, hrun.snoc ⟨hmove, fun call hcall => ⟨?_, hfinds call hcall⟩⟩, ?_⟩
    · exact hstep.built (fun sent hsent => (hdelivering.sends sent hsent).2) hcall
    · rw [filterMap_snoc, hcalls]
      rfl

/-- The call that is being made is the only one. -/
theorem Delivering.exists_caller (h : Delivering tr s) : ∃ x, ∀ y, y ≠ x → (s.outs y).ops = [] := by
  by_cases hcall : ∃ x, (s.outs x).ops ≠ []
  · obtain ⟨x, hx⟩ := hcall
    exact ⟨x, fun y hy => by_contra fun hne => hy (h.oneCall y x hne hx)⟩
  · exact ⟨0, fun y _ => by_contra fun hne => hcall ⟨y, hne⟩⟩

/-- The server time, one instant after the start. -/
def timeAnswer : Sent :=
  { client := 7, packet := request .serverTime [0, 0, 0, 0], realtime := false }

/-- A client greets the server and asks for the time, and the main loop has the answer to send. -/
theorem System.asked : ∃ tr s, Transition.Run SystemStep (System.new 0) tr s ∧
    s.sends = [timeAnswer] ∧ s.outs 7 = { Outbound.new with writer := .time } ∧
      ∀ x, (s.outs x).ops = [] := by
  have hanswer : (((((Server.new 0).addClient (Client.new 7)).setConnection 7
      (.authenticated protocolVersion)).take (Env.atTime 0) (ask 7 .serverTimeQuery [])).any
      fun r => decide (r.2 = [timeAnswer])) = true := by
    decide +kernel
  obtain ⟨⟨srv, sent⟩, htake, hsent⟩ := (Option.any_eq_true _ _).mp hanswer
  have hidle {o o' : Outbound} (ho : o.ops = []) (ho' : o'.ops = []) (y : ClientID) :
      (Function.update (Function.update (fun _ => Outbound.new) 7 o) 7 o' y).ops = [] :=
    System.ops_update (System.ops_update (fun _ => rfl) ho) ho' y
  have hrun := (Transition.Run.nil : Transition.Run SystemStep (System.new 0) [] (System.new 0))
    |>.snoc (.accept (x := 7) rfl rfl)
    |>.snoc (.enqueue (x := 7) rfl (by decide))
    |>.snoc (.addAt (x := 7) 0 ⟨rfl, fun _ => rfl⟩ rfl rfl)
    |>.snoc (.readBytes (x := 7) greeting rfl (.accepted (by decide) (by decide) (by decide)))
    |>.snoc (.say (x := 7) rfl rfl (by decide))
    |>.snoc (.readBytes (x := 7) [1, 0, 137] rfl (.read (by decide) (by decide)))
    |>.snoc (.read (x := 7) rfl (.cut rfl))
    |>.snoc (.say (x := 7) rfl rfl (by decide))
    |>.snoc (.takeAt 0 ⟨rfl, hidle rfl rfl⟩ rfl rfl)
    |>.snoc (.takeAt 0 ⟨rfl, hidle rfl rfl⟩ rfl htake)
  exact ⟨_, _, hrun, of_decide_eq_true hsent, rfl, hidle rfl rfl⟩

/-- **What was sent is what is passed.**  Seen from one connection a run of the system is a run of
its way out.  The packets it was passed, followed by those the main loop still has for it, are
those that the rounds sent to it, in their order; and nothing else is on its wire. -/
theorem delivered_in_order {start : Instant}
    (h : Transition.Run SystemStep (System.new start) tr s) (x : ClientID) :
    ∃ t, Transition.Run OutboundStep Outbound.new t (s.outs x) ∧
      t.filterMap id ++ callsTo x s.sends = callsTo x (sentOf tr) ∧
      ∀ data ∈ (s.outs x).wire, ∃ sent ∈ sentOf tr, sent.client = x ∧ sent.packet.asBytes = some data := by
  have hdelivering := Delivering.of_run h
  obtain ⟨t, hrun, hcalls⟩ := hdelivering.run x
  have hsame : t.filterMap id ++ callsTo x s.sends = callsTo x (sentOf tr) := by
    rw [hcalls]
    exact hdelivering.called x
  refine ⟨t, hrun, hsame, fun data hdata => ?_⟩
  obtain ⟨e, he, hbytes⟩ := List.mem_filterMap.mp (wire_passed hrun data hdata)
  obtain ⟨made, rfl, hbytes⟩ := Option.bind_eq_some_iff.mp hbytes
  have hmade : made ∈ callsTo x (sentOf tr) := by
    rw [← hsame]
    exact List.mem_append_left _ (List.mem_filterMap.mpr ⟨_, he, rfl⟩)
  obtain ⟨sent, hsent, rfl⟩ := List.mem_map.mp hmade
  obtain ⟨hsent, hclient⟩ := List.mem_filter.mp hsent
  exact ⟨sent, hsent, of_decide_eq_true hclient, by simpa using hbytes⟩

/-- The answer is passed on, and the writer writes it. -/
theorem delivered_in_order_written : ∃ tr s t, Transition.Run SystemStep (System.new 0) tr s ∧
    s.sends = [] ∧ (s.outs 7).wire = [[5, 0, 198, 0, 0, 0, 0]] ∧
      Transition.Run OutboundStep Outbound.new t (s.outs 7) ∧
      t.filterMap id = callsTo 7 (sentOf tr) ∧
      ∃ sent ∈ sentOf tr, sent.client = 7 ∧ sent.packet.asBytes = some [5, 0, 198, 0, 0, 0, 0] := by
  obtain ⟨tr, s, hrun, hsends, hout, hidle⟩ := System.asked
  have hdata : timeAnswer.call.packet.asBytes = some [5, 0, 198, 0, 0, 0, 0] := by decide
  have halive : (s.outs 7).dropped = false := by rw [hout]; rfl
  have htime : (s.outs 7).writer = .time := by rw [hout]
  have hpassed := hrun.snoc (.call hsends hidle (.call (hidle 7) halive hdata))
    |>.snoc (.op (x := 7) rfl)
    |>.snoc (.op (x := 7) rfl)
  have htaken := hpassed.snoc (.background (x := 7) {
    step := .takeTime htime rfl
    moves := fun heq => nomatch (congrArg Outbound.writer heq).trans htime
    ops := rfl
    dropped := rfl
    handshake := iff_of_false nofun fun hshake => nomatch hshake.symm.trans htime })
  have hwritten := htaken.snoc (.background (x := 7) {
    step := .written rfl
    moves := fun heq => nomatch congrArg Outbound.writer heq
    ops := rfl
    dropped := rfl
    handshake := iff_of_false nofun nofun })
  have hwire : (s.outs 7).wire ++ [[5, 0, 198, 0, 0, 0, 0]] = [[5, 0, 198, 0, 0, 0, 0]] := by
    rw [hout]
    rfl
  obtain ⟨t, hway, hsame, hsent⟩ := delivered_in_order hwritten 7
  refine ⟨_, _, t, hwritten, rfl, hwire, hway, (List.append_nil _).symm.trans hsame, hsent _ ?_⟩
  exact hwire.symm ▸ List.mem_singleton_self _

/-! ### The loop is never held up -/

/-- Nothing has changed but the ways out and what is still to be sent. -/
structure OnlyOuts (s s' : System) : Prop where
  srv : s'.srv = s.srv
  listener : s'.listener = s.listener
  events : s'.events = s.events
  messages : s'.messages = s.messages
  readers : s'.readers = s.readers

/-- What passing packets on leaves as it is. -/
structure PassedOn (s s' : System) : Prop extends OnlyOuts s s' where
  writers : ∀ x, (s'.outs x).writer = (s.outs x).writer
  wires : ∀ x, (s'.outs x).wire = (s.outs x).wire
  dropped : ∀ x, (s'.outs x).dropped = (s.outs x).dropped

theorem OnlyOuts.trans {s'' : System} (h : OnlyOuts s s') (h' : OnlyOuts s' s'') : OnlyOuts s s'' where
  srv := h'.srv.trans h.srv
  listener := h'.listener.trans h.listener
  events := h'.events.trans h.events
  messages := h'.messages.trans h.messages
  readers := h'.readers.trans h.readers

namespace PassedOn

variable {s'' : System}

theorem refl : PassedOn s s := ⟨⟨rfl, rfl, rfl, rfl, rfl⟩, fun _ => rfl, fun _ => rfl, fun _ => rfl⟩

theorem trans (h : PassedOn s s') (h' : PassedOn s' s'') : PassedOn s s'' where
  toOnlyOuts := h.toOnlyOuts.trans h'.toOnlyOuts
  writers := fun x => (h'.writers x).trans (h.writers x)
  wires := fun x => (h'.wires x).trans (h.wires x)
  dropped := fun x => (h'.dropped x).trans (h.dropped x)

end PassedOn

theorem SendStep.passedOn (h : SendStep s e s') : PassedOn s s' := by
  have hset : ∀ {z : ClientID} {o : Outbound} {α : Type} (f : Outbound → α), f o = f (s.outs z) →
      ∀ y, f (Function.update s.outs z o y) = f (s.outs y) := fun f hsame =>
    System.related_update (R := fun before after => f after = f before) (fun _ => rfl) hsame
  cases h with
  | call _ _ hcall =>
      cases hcall with
      | call _ _ _ =>
          exact ⟨⟨rfl, rfl, rfl, rfl, rfl⟩, hset Outbound.writer rfl, hset Outbound.wire rfl,
            hset Outbound.dropped rfl⟩
  | op _ =>
      exact ⟨⟨rfl, rfl, rfl, rfl, rfl⟩, hset Outbound.writer (by simp), hset Outbound.wire (by simp),
        hset Outbound.dropped (by simp)⟩

theorem PassedOn.run (h : Transition.Run SendStep s tr s') : PassedOn s s' :=
  h.invariant (P := PassedOn s) .refl fun _ _ _ hstep hbefore => hbefore.trans hstep.passedOn

/-- The rest of a call is done. -/
theorem ops_complete (hothers : ∀ y, y ≠ x → (s.outs y).ops = []) :
    ∃ t s', Transition.Run SendStep s t s' ∧ (∀ y, (s'.outs y).ops = []) ∧ s'.sends = s.sends ∧
      ∀ e ∈ t, e = .silent := by
  generalize hops : (s.outs x).ops = ops
  induction ops generalizing s with
  | nil =>
      refine ⟨[], s, .nil, fun y => ?_, rfl, fun _ he => by cases he⟩
      by_cases hy : y = x
      · rw [hy, hops]
      · exact hothers y hy
  | cons op rest ih =>
      have hstep := SendStep.op hops
      have hnow : ∀ y, (s.setOut x ({ s.outs x with ops := rest }.perform op)).outs y
          = if y = x then { s.outs x with ops := rest }.perform op else s.outs y :=
        fun _ => System.outs_setOut
      obtain ⟨t, s', hrun, hdone, hsends, hsilent⟩ := ih
        (s := s.setOut x ({ s.outs x with ops := rest }.perform op))
        (fun y hy => by rw [hnow, if_neg hy]; exact hothers y hy) (by rw [hnow, if_pos rfl]; simp)
      refine ⟨_, s', (Transition.Run.nil.snoc hstep).append hrun, hdone, hsends, fun e he => ?_⟩
      exact (List.mem_append.mp he).elim List.mem_singleton.mp (hsilent e)

/-- What is left to send is sent. -/
theorem sends_complete (hidle : ∀ y, (s.outs y).ops = [])
    (hsends : ∀ sent ∈ s.sends, (s.outs sent.client).dropped = false ∧ sent.packet.Built) :
    ∃ t s', Transition.Run SendStep s t s' ∧ s'.Idle := by
  generalize hleft : s.sends = left at hsends
  induction left generalizing s with
  | nil => exact ⟨[], s, .nil, hleft, hidle⟩
  | cons sent rest ih =>
      obtain ⟨halive, hbuilt⟩ := hsends sent List.mem_cons_self
      have hbytes : sent.call.packet.asBytes.isSome := by
        rw [Sent.call_packet]
        exact hbuilt.asBytes_isSome
      obtain ⟨data, hdata⟩ := Option.isSome_iff_exists.mp hbytes
      have hcall := Transition.Run.nil.snoc
        (SendStep.call hleft hidle (.call (hidle sent.client) halive hdata))
      obtain ⟨t, mid, hcalled, hdone, hrest, -⟩ := ops_complete (x := sent.client)
        (s := { s.setOut sent.client { s.outs sent.client with ops := sent.call.ops data } with
          sends := rest })
        fun y hy => by
          show (Function.update s.outs sent.client _ y).ops = []
          rw [Function.update_of_ne hy]
          exact hidle y
      obtain ⟨t', s', hrun, hend⟩ := ih (s := mid) hdone hrest fun later hlater => by
        rw [(PassedOn.run (hcall.append hcalled)).dropped]
        exact hsends later (List.mem_cons_of_mem _ hlater)
      exact ⟨_, s', (hcall.append hcalled).append hrun, hend⟩

/-- **The main loop is never held up.**  In every state that the system reaches, the main loop can
pass on all that its round has sent by steps of its own, in which no writer and no task moves:
every client it has to send to is still there, and every packet has bytes. -/
theorem round_completes {start : Instant}
    (h : Transition.Run SystemStep (System.new start) tr s) :
    ∃ t s', Transition.Run SendStep s t s' ∧ Transition.Run SystemStep (System.new start) (tr ++ t) s' ∧
      s'.Idle ∧ PassedOn s s' := by
  have hdelivering := Delivering.of_run h
  obtain ⟨x, hx⟩ := hdelivering.exists_caller
  obtain ⟨t, mid, hrun, hdone, hsends, -⟩ := ops_complete hx
  obtain ⟨t', s', hrun', hidle⟩ := sends_complete hdone fun sent hsent => by
    rw [(PassedOn.run hrun).dropped]
    exact hdelivering.sends sent (hsends ▸ hsent)
  have hall := hrun.append hrun'
  exact ⟨_, s', hall, h.append (hall.mono fun _ _ _ hstep => hstep.system), hidle, .run hall⟩

/-- The answer is passed on. -/
theorem round_completes_asked : ∃ tr s t s', Transition.Run SystemStep (System.new 0) tr s ∧
    s.sends = [timeAnswer] ∧ Transition.Run SendStep s t s' ∧ s'.Idle := by
  obtain ⟨tr, s, hrun, hsends, -, -⟩ := System.asked
  obtain ⟨t, s', hrest, -, hidle, -⟩ := round_completes hrun
  exact ⟨tr, s, t, s', hrun, hsends, hrest, hidle⟩

end

end VangersSrv
