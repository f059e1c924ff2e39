/-
When the loop over the packets in the buffer ends.

A round goes on by the size that a length field gives, and that is at least one unless the
field holds the bytes `FE FF`: these are the length −2, the size is 0, and the empty packet is
delivered again and again without an end.  The check for negative sizes lets it pass.
-/
import VangersSrv.Client.Inbound
import VangersSrv.Client.Framing
import VangersSrv.Lib.Iteration

namespace VangersSrv

namespace ReadBuffer

/-- One round of the loop: the packet it delivers and the offset it goes on with, or none if it
leaves the loop. -/
def round (buff : Bytes) (readable offset : Nat) : Option (Packet × Nat) :=
  if offset < readable then do
    let size ← packetSize buff offset
    if size.msb then none
    else if readable - offset < size.toNat then none
    else
      let p ← Packet.fromSlice ((buff.drop offset).take size.toNat)
      some (p, offset + size.toNat)
  else none

/-- The offset the loop goes on with. -/
def nextOffset (buff : Bytes) (readable offset : Nat) : Option Nat :=
  (round buff readable offset).map Prod.snd

/-- Where the packets of a buffer begin, as their length fields say. -/
inductive PacketStart (buff : Bytes) (readable : Nat) : Nat → Prop
  | first : PacketStart buff readable 0
  | next {offset : Nat} {lo hi : UInt8} :
      PacketStart buff readable offset → offset < readable →
      buff[offset]? = some lo → buff[offset + 1]? = some hi →
      (headerSize lo hi).msb = false → (headerSize lo hi).toNat ≤ readable - offset →
      PacketStart buff readable (offset + (headerSize lo hi).toNat)

/-- The loop ends after finitely many rounds, each that does not leave it gets ahead, and there
is an end to what is delivered. -/
structure Finishes (buff : Bytes) (readable : Nat) : Prop where
  ends : Iteration.Ends (nextOffset buff readable) 0
  ahead : ∀ rounds offset offset',
    Iteration.after (nextOffset buff readable) 0 rounds = some offset →
      nextOffset buff readable offset = some offset' → offset < offset'
  delivered : ∃ bound, ∀ fuel, (parse buff readable fuel 0).delivered.length ≤ bound

section

variable {buff : Bytes} {readable fuel offset offset' : Nat} {size : I16} {lo hi : UInt8} {p : Packet}

/-- What the loop has read makes a packet. -/
theorem fromSlice_of_size (hsize : packetSize buff offset = some size) (hpos : size.msb = false) :
    ∃ p, Packet.fromSlice ((buff.drop offset).take size.toNat) = some p := by
  rcases Nat.lt_or_ge ((buff.drop offset).take size.toNat).length 3 with hshort | hlong
  · exact ⟨_, fromSlice_short hshort⟩
  · match hs : (buff.drop offset).take size.toNat, hlong with
    | lo :: hi :: real :: data, _ =>
        -- the length field is the size less two, so it is not negative either
        have hheader : size = headerSize lo hi :=
          Option.some.inj (hsize.symm.trans (packetSize_of_take hs))
        have hnat := headerSize_toNat lo hi
        have hlen : (lo :: hi :: real :: data).length ≤ (headerSize lo hi).toNat := by
          rw [← hs, List.length_take, ← hheader]
          exact Nat.min_le_left _ _
        have hlo := lo.toNat_lt
        have hhi := hi.toNat_lt
        rw [hheader, BitVec.msb_eq_false_iff_two_mul_lt] at hpos
        simp only [List.length_cons] at hlen
        have hevent : (BitVec.ofNat 16 (lo.toNat + 256 * hi.toNat)).msb = false := by
          rw [BitVec.msb_eq_false_iff_two_mul_lt, BitVec.toNat_ofNat]
          omega
        refine ⟨{ eventSize := BitVec.ofNat 16 (lo.toNat + 256 * hi.toNat)
                  action := (Action.fromU8 real).getD .unknown
                  realAction := real
                  data }, ?_⟩
        simp [Packet.fromSlice, slice, sliceFrom, sliceLeToI16, LittleEndian.toNat, hevent]

theorem round_eq_some :
    round buff readable offset = some (p, offset') ↔
      offset < readable ∧ ∃ size, packetSize buff offset = some size ∧ size.msb = false ∧
        size.toNat ≤ readable - offset ∧
        Packet.fromSlice ((buff.drop offset).take size.toNat) = some p ∧
        offset + size.toNat = offset' := by
  unfold round
  split
  · rename_i hlt
    simp only [hlt, true_and, Option.bind_eq_bind, Option.bind_eq_some_iff]
    refine exists_congr fun size => and_congr_right fun _ => ?_
    cases hmsb : size.msb with
    | true => simp
    | false =>
        simp only [Bool.false_eq_true, if_false, true_and]
        split
        · rename_i hpart
          simp [Nat.not_le.mpr hpart]
        · rename_i hwhole
          simp [Nat.le_of_not_lt hwhole, Option.bind_eq_some_iff]
  · rename_i hnot
    simp [hnot]

/-- `parse` is the loop of these rounds. -/
theorem parse_of_round (h : round buff readable offset = some (p, offset')) :
    parse buff readable (fuel + 1) offset = (parse buff readable fuel offset').after [p] := by
  obtain ⟨hlt, size, hsize, hpos, hle, hp, rfl⟩ := round_eq_some.mp h
  exact parse_packet hlt hsize hpos hle hp

theorem parse_of_leave (h : round buff readable offset = none) :
    (parse buff readable fuel offset).delivered = [] := by
  cases fuel with
  | zero => rfl
  | succ fuel =>
      rcases Nat.lt_or_ge offset readable with hlt | hge
      · cases hsize : packetSize buff offset with
        | none =>
            rw [parse, if_pos hlt]
            simp [hsize]
        | some size =>
            cases hmsb : size.msb with
            | true => rw [parse_negative hlt (Nat.succ_pos _) hsize hmsb]
            | false =>
                rcases Nat.lt_or_ge (readable - offset) size.toNat with hpart | hwhole
                · rw [parse_part hlt (Nat.succ_pos _) hsize hmsb hpart]
                · obtain ⟨p, hp⟩ := fromSlice_of_size hsize hmsb
                  have hround : round buff readable offset = some (p, offset + size.toNat) :=
                    round_eq_some.mpr ⟨hlt, size, hsize, hmsb, hwhole, hp, rfl⟩
                  rw [h] at hround
                  cases hround
      · rw [parse_done hge (Nat.succ_pos _)]

theorem nextOffset_eq_some :
    nextOffset buff readable offset = some offset' ↔
      ∃ lo hi, offset < readable ∧ buff[offset]? = some lo ∧ buff[offset + 1]? = some hi ∧
        (headerSize lo hi).msb = false ∧ (headerSize lo hi).toNat ≤ readable - offset ∧
        offset' = offset + (headerSize lo hi).toNat := by
  simp only [nextOffset, Option.map_eq_some_iff, Prod.exists, exists_eq_right, round_eq_some]
  constructor
  · rintro ⟨p, hlt, size, hsize, hpos, hle, -, rfl⟩
    simp only [packetSize, Option.bind_eq_bind, Option.bind_eq_some_iff] at hsize
    obtain ⟨lo, hlo, hi, hhi, hsize⟩ := hsize
    cases hsize
    exact ⟨lo, hi, hlt, hlo, hhi, hpos, hle, rfl⟩
  · rintro ⟨lo, hi, hlt, hlo, hhi, hpos, hle, rfl⟩
    have hsize : packetSize buff offset = some (headerSize lo hi) := by simp [packetSize, hlo, hhi]
    obtain ⟨p, hp⟩ := fromSlice_of_size hsize hpos
    exact ⟨p, hlt, headerSize lo hi, hsize, hpos, hle, hp, rfl⟩

/-- The bytes of the length −2. -/
theorem headerSize_eq_zero : (headerSize lo hi).toNat = 0 ↔ lo = 0xFE ∧ hi = 0xFF := by
  have hlo := lo.toNat_lt
  have hhi := hi.toNat_lt
  rw [headerSize_toNat, ← UInt8.toNat_inj, ← UInt8.toNat_inj]
  have h₁ : (0xFE : UInt8).toNat = 254 := rfl
  have h₂ : (0xFF : UInt8).toNat = 255 := rfl
  omega

/-- The offsets of the rounds are the starts of the packets. -/
theorem packetStart_iff {offset : Nat} :
    PacketStart buff readable offset ↔
      ∃ rounds, Iteration.after (nextOffset buff readable) 0 rounds = some offset := by
  constructor
  · intro h
    induction h with
    | first => exact ⟨0, rfl⟩
    | next _ hlt hlo hhi hpos hle ih =>
        obtain ⟨rounds, hrounds⟩ := ih
        refine ⟨rounds + 1, Iteration.after_succ.mpr ⟨_, hrounds, ?_⟩⟩
        exact nextOffset_eq_some.mpr ⟨_, _, hlt, hlo, hhi, hpos, hle, rfl⟩
  · rintro ⟨rounds, hrounds⟩
    induction rounds generalizing offset with
    | zero =>
        cases hrounds
        exact .first
    | succ rounds ih =>
        obtain ⟨mid, hmid, hnext⟩ := Iteration.after_succ.mp hrounds
        obtain ⟨lo, hi, hlt, hlo, hhi, hpos, hle, rfl⟩ := nextOffset_eq_some.mp hnext
        exact (ih hmid).next hlt hlo hhi hpos hle

/-- One packet is delivered in each round that goes on. -/
theorem lt_delivered_iff {k : Nat} :
    k < (parse buff readable fuel offset).delivered.length ↔
      k < fuel ∧ Iteration.after (nextOffset buff readable) offset (k + 1) ≠ none := by
  induction fuel generalizing offset k with
  | zero => simp [parse]
  | succ fuel ih =>
      rw [Iteration.after_succ']
      cases hround : round buff readable offset with
      | none => simp [parse_of_leave hround, nextOffset, hround]
      | some next =>
          obtain ⟨p, offset'⟩ := next
          rw [parse_of_round hround]
          simp only [Parsed.after, List.singleton_append, List.length_cons, nextOffset, hround,
            Option.map_some, Option.bind_some]
          cases k with
          | zero => simp [Iteration.after]
          | succ k =>
              rw [Nat.add_lt_add_iff_right, Nat.add_lt_add_iff_right]
              exact ih

/-- What is delivered is bounded where the loop ends, -/
theorem delivered_of_ends (h : Iteration.Ends (nextOffset buff readable) 0) :
    ∃ bound, ∀ fuel, (parse buff readable fuel 0).delivered.length ≤ bound := by
  obtain ⟨rounds, hnone⟩ := h
  refine ⟨rounds, fun fuel => Nat.le_of_not_lt fun hlt => ?_⟩
  exact (lt_delivered_iff.mp hlt).2 (Iteration.after_none_mono hnone 1)

/-- and there is always more of it where it does not. -/
theorem delivered_of_not_ends (h : ¬ Iteration.Ends (nextOffset buff readable) 0) (fuel : Nat) :
    (parse buff readable fuel 0).delivered.length = fuel := by
  refine Nat.le_antisymm (Nat.le_of_not_lt fun hlt => ?_) (Nat.le_of_not_lt fun hlt => ?_)
  · exact Nat.lt_irrefl _ (lt_delivered_iff.mp hlt).1
  · exact Nat.lt_irrefl _ (lt_delivered_iff.mpr ⟨hlt, fun hnone => h ⟨_, hnone⟩⟩)

end

/-- **The loop finishes unless a packet begins with the length −2.** -/
theorem finishes_iff {buff : Bytes} {readable : Nat} :
    Finishes buff readable ↔
      ∀ offset, PacketStart buff readable offset → offset < readable →
        ¬ (buff[offset]? = some 0xFE ∧ buff[offset + 1]? = some 0xFF) := by
  constructor
  · rintro h offset hstart hlt ⟨hlo, hhi⟩
    obtain ⟨rounds, hrounds⟩ := packetStart_iff.mp hstart
    have hzero : (headerSize 0xFE 0xFF).toNat = 0 := headerSize_eq_zero.mpr ⟨rfl, rfl⟩
    have hnext : nextOffset buff readable offset = some offset :=
      nextOffset_eq_some.mpr ⟨0xFE, 0xFF, hlt, hlo, hhi, by decide, by omega, by omega⟩
    exact Nat.lt_irrefl _ (h.ahead rounds offset offset hrounds hnext)
  · intro h
    have hahead : ∀ rounds offset offset',
        Iteration.after (nextOffset buff readable) 0 rounds = some offset →
          nextOffset buff readable offset = some offset' → offset < offset' ∧ offset' ≤ readable := by
      intro rounds offset offset' hrounds hnext
      obtain ⟨lo, hi, hlt, hlo, hhi, -, hle, rfl⟩ := nextOffset_eq_some.mp hnext
      have hpos : (headerSize lo hi).toNat ≠ 0 := by
        intro hzero
        obtain ⟨rfl, rfl⟩ := headerSize_eq_zero.mp hzero
        exact h offset (packetStart_iff.mpr ⟨rounds, hrounds⟩) hlt ⟨hlo, hhi⟩
      omega
    have hends := Iteration.ends_of_measure id readable hahead
    exact {
      ends := hends
      ahead := fun rounds offset offset' hrounds hnext => (hahead rounds offset offset' hrounds hnext).1
      delivered := delivered_of_ends hends }

/-- What a first read of these two bytes leaves in the buffer. -/
def emptyPackets : Bytes := ReadBuffer.new.fill [0xFE, 0xFF]

theorem parse_never_ends :
    emptyPackets.length = i16Max ∧ ¬ Finishes emptyPackets 2 ∧
      ¬ Iteration.Ends (nextOffset emptyPackets 2) 0 ∧
      ∀ fuel, (parse emptyPackets 2 fuel 0).delivered.length = fuel := by
  have hnext : nextOffset emptyPackets 2 0 = some 0 :=
    nextOffset_eq_some.mpr ⟨0xFE, 0xFF, by decide, rfl, rfl, by decide, by decide, by decide⟩
  have hnever : ¬ Iteration.Ends (nextOffset emptyPackets 2) 0 :=
    Iteration.not_ends_of_fixed (n := 0) rfl hnext
  have hsized : ReadBuffer.new.Sized := { full := List.length_replicate, inside := Nat.zero_le _ }
  exact ⟨hsized.fill_length (by decide), fun h => hnever h.ends, hnever, delivered_of_not_ends hnever⟩

end ReadBuffer

end VangersSrv
