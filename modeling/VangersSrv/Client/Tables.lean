/-
What a client makes of its bytes.

A packet that was built reads back as the packet it was, so what the bytes on the wire do to a
client that reads them is what their packets do.  `Call.FitsIn` says of bytes what
`Call.FindsPlace` says of numbers.  Where every call fits in, the table that a client has made of
its wire is the one that all packets it was passed would have made, whenever its writer sleeps and
nothing is on its way.
-/
import VangersSrv.Client.Coalescing
import VangersSrv.Client.Framing
import VangersSrv.Server.Recipients

namespace VangersSrv

open Replica

/-! ### Bytes -/

/-- What the bytes of a packet do to a client that makes something of its packets. -/
def bytesDo {κ V : Type} (f : Packet → Write κ V) (data : Bytes) : Write κ V :=
  ((Packet.fromSlice data).map f).getD .skip

/-- What the bytes of a packet do to a client that reads them. -/
def bytesWrite : Bytes → Write I32 Bytes := bytesDo Packet.write

/-- What a client that has read its wire knows of the objects. -/
def tableOf (wire : List Bytes) : View I32 Bytes := (Write.all (wire.map bytesWrite)).on fun _ => none

/-- What a call has to find, said of the bytes that are on their way. -/
structure Call.FitsIn (o : Outbound) (call : Call) : Prop where
  tasks : ∀ data ∈ o.held, Write.Apart (bytesWrite data) call.write
  pending : call.way = .queue → ∀ id, o.latestObjectUpdates.packets.lookup id ≠ none →
    call.write id = none ∨ call.ends = some id
  hidden : call.packet.action = .hideObject → ∀ id, call.ends = some id →
    o.latestObjectUpdates.packets.lookup id = none
  queue : ∀ id, call.way = .live id → o.writer = .slot → ∀ data ∈ o.fifo, bytesWrite data id = none

/-- A step whose call, if it is one, passes a packet that was built and fits in. -/
def FittingStep (o : Outbound) (e : Option Call) (o' : Outbound) : Prop :=
  OutboundStep o e o' ∧ ∀ call, e = some call → call.packet.Built ∧ call.FitsIn o

section

variable {p : Packet} {data : Bytes} {o o' : Outbound} {m : Numbered} {calls : Nat → Call}
  {tr : List (Option Call)} {call : Call}

/-- **A packet that was built reads back as itself**, but for its size field. -/
theorem Packet.Built.fromSlice_asBytes (h : p.Built) (hdata : p.asBytes = some data) :
    ∃ q, Packet.fromSlice data = some q ∧ q.content = p.content := by
  have hfits := h.fits
  unfold Fits i16Max at hfits
  have hnamed : p.Named := by
    unfold Packet.Named
    rw [h.realAction, Action.fromU8_toU8]
    rfl
  unfold Packet.asBytes at hdata
  dsimp only at hdata
  rw [if_pos (by unfold i16Max; omega), hnamed.actionByte, Option.some.injEq] at hdata
  subst hdata
  have hsize : (BitVec.ofNat 16 (1 + p.data.length)).msb = false := by
    rw [BitVec.msb_eq_false_iff_two_mul_lt, BitVec.toNat_ofNat]
    omega
  have hheader : sliceLeToI16 (LittleEndian.ofNat 2 (1 + p.data.length))
      = some (BitVec.ofNat 16 (1 + p.data.length)) := by
    unfold sliceLeToI16
    rw [if_pos (by simp), LittleEndian.toNat_ofNat_of_lt (by omega)]
  obtain ⟨lo, hi, hbytes⟩ : ∃ lo hi, LittleEndian.ofNat 2 (1 + p.data.length) = [lo, hi] := ⟨_, _, rfl⟩
  rw [hbytes] at hheader ⊢
  refine ⟨{ eventSize := BitVec.ofNat 16 (1 + p.data.length), action := p.action
            realAction := p.realAction, data := p.data }, ?_, rfl⟩
  unfold Packet.Named at hnamed
  simp [Packet.fromSlice, slice, sliceFrom, hheader, hsize, ← hnamed]

/-- Where only the content of a packet counts, its bytes do what the packet does. -/
theorem bytesDo_of_built {κ V : Type} {f : Packet → Write κ V}
    (hf : ∀ p q : Packet, p.content = q.content → f p = f q) (h : p.Built)
    (hdata : p.asBytes = some data) : bytesDo f data = f p := by
  obtain ⟨q, hq, hcontent⟩ := h.fromSlice_asBytes hdata
  unfold bytesDo
  rw [hq]
  exact hf q p hcontent

theorem Packet.write_content (p q : Packet) (h : p.content = q.content) : p.write = q.write := by
  simp only [Packet.content, Prod.mk.injEq] at h
  simp [Packet.write, h.1, h.2.2]

/-! ### Bytes for numbers -/

theorem Names.does {κ V : Type} {f : Packet → Write κ V}
    (hf : ∀ p q : Packet, p.content = q.content → f p = f q) {mark : Bytes}
    (h : Names calls data mark) (hbuilt : ∀ n, (calls n).packet.Built) :
    f (calls mark.length).packet = bytesDo f data := by
  obtain ⟨n, rfl, hdata⟩ := h
  rw [numeral_length, bytesDo_of_built hf (hbuilt n) hdata]

theorem Names.write {mark : Bytes} (h : Names calls data mark) (hbuilt : ∀ n, (calls n).packet.Built) :
    (calls mark.length).write = bytesWrite data :=
  h.does Packet.write_content hbuilt

/-- What stands in a list of numerals stands in the list of bytes that it shows. -/
theorem exists_named {marks bytes : List Bytes} (h : List.Forall₂ (Names calls) bytes marks)
    {mark : Bytes} (hmark : mark ∈ marks) : ∃ data ∈ bytes, Names calls data mark := by
  obtain ⟨i, hi, rfl⟩ := List.getElem_of_mem hmark
  have hlength : i < bytes.length := h.length_eq ▸ hi
  exact ⟨bytes[i], List.getElem_mem hlength, (List.forall₂_iff_get.mp h).2 i hlength hi⟩

/-- A call that fits in finds its place. -/
theorem Call.FitsIn.findsPlace (h : call.FitsIn o) (hshows : m.Shows calls o)
    (hbuilt : ∀ n, (calls n).packet.Built) : call.FindsPlace calls m.out where
  tasks := fun mark hmark => by
    have hheld : List.Forall₂ (Names calls) o.held m.out.held :=
      List.forall₂_map_left_iff.mpr (List.forall₂_map_right_iff.mpr
        (hshows.tasks.imp fun _ _ hab => hab.data))
    obtain ⟨data, hdata, hnames⟩ := exists_named hheld hmark
    rw [hnames.write hbuilt]
    exact h.tasks data hdata
  pending := fun hway k hfound => h.pending hway k fun hnone => hfound <| by
    rwa [← Option.not_isSome_iff_eq_none, ← rel_isSome (hshows.latestObjectUpdates.packets k),
      Option.not_isSome_iff_eq_none]
  hidden := fun haction k hends => by
    rw [← Option.not_isSome_iff_eq_none, ← rel_isSome (hshows.latestObjectUpdates.packets k),
      Option.not_isSome_iff_eq_none]
    exact h.hidden haction k hends
  queue := fun id hway hw mark hmark => by
    have hslot : o.writer = .slot := (hshows.symm.writer.eq_of_idle (by rw [hw]; rfl)).trans hw
    obtain ⟨data, hdata, hnames⟩ := exists_named hshows.fifo hmark
    rw [hnames.write hbuilt]
    exact h.queue id hway hslot data hdata

/-- What is passed on a run of fitting steps was built. -/
theorem built_of_mem (h : Transition.Run FittingStep Outbound.new tr o) :
    ∀ call ∈ tr.filterMap id, call.packet.Built := by
  refine h.history (P := fun tr _ => ∀ call ∈ tr.filterMap id, call.packet.Built) ?_ ?_
  · exact fun call hcall => by cases hcall
  · intro tr a e b _ hstep hbefore call hcall
    rw [List.filterMap_append, List.mem_append] at hcall
    rcases hcall with hcall | hcall
    · exact hbefore call hcall
    · obtain ⟨e', he', hsome⟩ := List.mem_filterMap.mp hcall
      exact (hstep.2 call (List.mem_singleton.mp he' ▸ hsome)).1

/-- **A run of fitting steps on which no write failed is shown by a settled run.** -/
theorem exists_settled (h : Transition.Run FittingStep Outbound.new tr o) (hopen : o.writer ≠ .stopped) :
    ∃ calls m, Transition.Run (SettledStep calls) Numbered.new tr m ∧ m.Shows calls o ∧
      (∀ n, (calls n).packet.Built) ∧ (List.range m.next).map calls = tr.filterMap id := by
  -- a writer that has not stopped in the end never did
  have hrun := (h.backward (P := fun o => o.writer ≠ .stopped) hopen fun a e b hstep hb => by
    obtain ⟨hstep, -⟩ := hstep
    cases e with
    | none => exact fun ha => hb (hstep.stays_stopped ha)
    | some call =>
        cases hstep with
        | call _ _ _ => exact hb).2
  have hside : Transition.Run (fun a e b => OutboundStep a e b ∧
      ((∀ call, e = some call → call.FitsIn a) ∧ b.writer ≠ .stopped)) Outbound.new tr o :=
    hrun.mono fun a e b hstep =>
      ⟨hstep.1.1, fun call hcall => (hstep.1.2 call hcall).2, hstep.2⟩
  obtain ⟨calls, m, hnumbered, hshows, hcalls, hmem⟩ :=
    Numbered.exists_lockstep (.send serverTime) hside
  have hbuilt : ∀ n, (calls n).packet.Built := by
    intro n
    rcases hmem n with hother | hn
    · rw [hother]
      exact ⟨by decide, rfl⟩
    · exact built_of_mem h _ hn
  refine ⟨calls, m, hnumbered.mono fun a e b hstep => ?_, hshows, hbuilt, hcalls⟩
  obtain ⟨hstep, o, o', ho, ho', hfits, hopen⟩ := hstep
  cases e with
  | none => exact hstep.settled_silent fun hw => hopen (ho'.writer.eq_stopped_iff.mpr hw)
  | some call =>
      have hnext : calls a.next = call := by
        cases hstep with
        | call _ _ _ => rfl
      refine hstep.settled ?_
      rw [hnext]
      exact (hfits call rfl).findsPlace ho hbuilt

/-! ### Tables -/

/-- The wire does to a client what the packets do whose numbers are written. -/
theorem wire_does {κ V : Type} {f : Packet → Write κ V}
    (hf : ∀ p q : Packet, p.content = q.content → f p = f q) (hshows : m.Shows calls o)
    (hbuilt : ∀ n, (calls n).packet.Built) :
    Write.all (o.wire.map (bytesDo f)) = Write.all (m.written.map fun n => f (calls n).packet) := by
  have hwire : List.Forall₂ (Names calls) o.wire m.out.wire := hshows.wire
  unfold Numbered.written Numbered.numbers
  rw [List.map_map]
  congr 1
  generalize o.wire = bytes, m.out.wire = marks at hwire
  induction hwire with
  | nil => rfl
  | cons hnames _ ih =>
      rw [List.map_cons, List.map_cons, ih, Function.comp_apply, hnames.does hf hbuilt]

theorem wire_write (hshows : m.Shows calls o) (hbuilt : ∀ n, (calls n).packet.Built) :
    Write.all (o.wire.map bytesWrite) = replayed calls m.written :=
  wire_does Packet.write_content hshows hbuilt

/-- **The wire makes the table that all packets make.**  Where every call fits in, a client that has
read its wire knows what the packets that it was passed say, one after the other, whenever its writer
sleeps between two calls and no task waits. -/
theorem tableOf_wire (h : Transition.Run FittingStep Outbound.new tr o) (hasleep : o.Asleep)
    (hidle : o.ops = []) (htasks : o.tasks = []) :
    tableOf o.wire = (Write.all ((tr.filterMap id).map Call.write)).on fun _ => none := by
  obtain ⟨calls, m, hrun, hshows, hbuilt, hcalls⟩ := exists_settled h (by simp [hasleep.waits])
  have hsettled := Settled.asleep hrun (hshows.asleep hasleep) (hshows.ops_nil hidle)
    (hshows.tasks_nil htasks)
  unfold tableOf
  rw [wire_write hshows hbuilt, hsettled, ← hcalls]
  unfold replayed
  rw [List.map_map]
  rfl

/-! ### Calls that fit in -/

/-- **At rest every call fits in.** -/
theorem Call.FitsIn.of_rest (call : Call) (hw : o.writer = .wait) (htasks : o.tasks = [])
    (hslot : o.latestObjectUpdates.packets = ∅) : call.FitsIn o where
  tasks := fun data hd => by
    rw [Outbound.held, htasks] at hd
    cases hd
  pending := fun _ k hfound => by
    rw [hslot] at hfound
    exact absurd (AList.lookup_empty k) hfound
  hidden := fun _ k _ => by
    rw [hslot]
    exact AList.lookup_empty k
  queue := fun _ _ hslot => by
    rw [hw] at hslot
    cases hslot

end

end VangersSrv
