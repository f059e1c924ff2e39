/-
Packets out of a stream.

However the bytes of packets are cut into reads, the loop delivers the packets whose bytes are
complete and keeps the rest, with one exception: where a cut leaves a single byte of the next
packet, the second byte of its length is taken from what an earlier read left in the
buffer.  If the size comes out below two the byte is consumed, and if it comes out negative
the byte stays where it is while the next read is put behind the front of the buffer.
`SafeCuts` is the condition that neither happens, and after a cut that violates it the packets
cannot come out right any more: every packet stands for as many bytes as it travelled in, so
the first one that is delivered would have to have its own length.
-/
import VangersSrv.Client.Inbound
import VangersSrv.Lib.Frames
import Mathlib.Algebra.BigOperators.Group.List.Basic

namespace VangersSrv

/-! ### Frames of packets -/

/-- The longest data of a packet that fits into the buffer. -/
def maxDataLength : Nat := 32764

/-- A packet whose action is the one its byte names, as every packet that is read has it. -/
def Packet.Named (p : Packet) : Prop := p.action = (Action.fromU8 p.realAction).getD .unknown
  deriving Decidable

/-- The bytes of a packet on the wire. -/
structure Framed (p : Packet) (frame : Bytes) (lo hi : UInt8) : Prop where
  eq : frame = lo :: hi :: p.realAction :: p.data
  size : lo.toNat + 256 * hi.toNat = 1 + p.data.length
  short : p.data.length ≤ maxDataLength
  named : p.Named

def IsFrameOf (p : Packet) (frame : Bytes) : Prop := ∃ lo hi, Framed p frame lo hi

/-- How many bytes a packet travels in. -/
def Packet.wireSize (p : Packet) : Nat := 3 + p.data.length

/-- How many bytes packets travel in. -/
def wireSizes (l : List Packet) : Nat := (l.map Packet.wireSize).sum

section

variable {p q : Packet} {frame s : Bytes} {lo hi : UInt8} {l l' : List Packet}

@[simp] theorem wireSizes_nil : wireSizes [] = 0 := rfl

@[simp] theorem wireSizes_cons : wireSizes (p :: l) = p.wireSize + wireSizes l := by
  simp [wireSizes]

@[simp] theorem wireSizes_append : wireSizes (l ++ l') = wireSizes l + wireSizes l' := by
  simp [wireSizes]

theorem wireSize_of_content (h : p.content = q.content) : p.wireSize = q.wireSize := by
  simp only [Packet.content, Prod.mk.injEq] at h
  simp [Packet.wireSize, h.2.2]

theorem wireSizes_of_content (h : l.map Packet.content = l'.map Packet.content) :
    wireSizes l = wireSizes l' := by
  induction l generalizing l' with
  | nil => simp_all
  | cons p rest ih =>
      cases l' with
      | nil => simp at h
      | cons q rest' =>
          simp only [List.map_cons, List.cons.injEq] at h
          rw [wireSizes_cons, wireSizes_cons, wireSize_of_content h.1, ih h.2]

theorem Packet.Named.actionByte (h : p.Named) : p.actionByte = p.realAction := by
  unfold Packet.actionByte
  split
  · rfl
  · rename_i hne
    unfold Packet.Named at h
    cases hbyte : Action.fromU8 p.realAction with
    | none => simp [hbyte] at h; exact absurd h hne
    | some action =>
        rw [hbyte, Option.getD_some] at h
        rw [h]
        exact Action.toU8_of_fromU8 hbyte

theorem framed_of_asBytes (h : p.asBytes = some frame) (hnamed : p.Named)
    (hshort : p.data.length ≤ maxDataLength) : IsFrameOf p frame := by
  unfold Packet.asBytes at h
  dsimp only at h
  split at h
  · simp only [LittleEndian.ofNat, hnamed.actionByte, List.cons_append, List.nil_append,
      Option.some.injEq] at h
    refine ⟨_, _, { eq := h.symm, size := ?_, short := hshort, named := hnamed }⟩
    unfold maxDataLength at hshort
    simp only [UInt8.toNat_ofNat']
    omega
  · cases h

/-- Fewer bytes than a header are taken for the default packet. -/
theorem fromSlice_short (h : s.length < 3) : Packet.fromSlice s = some Packet.default := by
  simp [Packet.fromSlice, h]

theorem fromSlice_data (h : Packet.fromSlice s = some q) (hlen : 3 ≤ s.length) :
    q.data = s.drop 3 := by
  unfold Packet.fromSlice at h
  rw [if_neg (by omega)] at h
  simp only [Option.bind_eq_bind, Option.bind_eq_some_iff, sliceFrom_eq_some] at h
  obtain ⟨_, _, _, _, _, _, data, ⟨-, rfl⟩, h⟩ := h
  split at h
  · cases h
  · cases h
    rfl

/-- A packet stands for no fewer bytes than it was read from. -/
theorem length_le_wireSize (h : Packet.fromSlice s = some q) : s.length ≤ q.wireSize := by
  unfold Packet.wireSize
  rcases Nat.lt_or_ge s.length 3 with hlt | hge
  · omega
  · rw [fromSlice_data h hge, List.length_drop]
    omega

theorem wireSize_of_fromSlice (h : Packet.fromSlice s = some q) (hlen : 3 ≤ s.length) :
    q.wireSize = s.length := by
  rw [Packet.wireSize, fromSlice_data h hlen, List.length_drop]
  omega

namespace Framed

theorem length (h : Framed p frame lo hi) : frame.length = p.wireSize := by
  rw [h.eq, Packet.wireSize]
  simp only [List.length_cons]
  omega

/-- **Parsing undoes encoding.** -/
theorem fromSlice (h : Framed p frame lo hi) :
    ∃ q, Packet.fromSlice frame = some q ∧ q.content = p.content := by
  have hsize := h.size
  have hshort := h.short
  unfold maxDataLength at hshort
  have hevent : (BitVec.ofNat 16 (lo.toNat + 256 * hi.toNat)).msb = false := by
    rw [BitVec.msb_eq_false_iff_two_mul_lt, BitVec.toNat_ofNat]
    omega
  refine ⟨{ eventSize := BitVec.ofNat 16 (lo.toNat + 256 * hi.toNat)
            action := (Action.fromU8 p.realAction).getD .unknown
            realAction := p.realAction
            data := p.data }, ?_, ?_⟩
  · rw [h.eq]
    simp [Packet.fromSlice, slice, sliceFrom, sliceLeToI16, LittleEndian.toNat, hevent]
  · rw [Packet.content, Packet.content, h.named]

end Framed

/-! ### Sizes -/

theorem headerSize_toNat (lo hi : UInt8) :
    (headerSize lo hi).toNat = (2 + (lo.toNat + 256 * hi.toNat)) % 65536 := by
  have hlo := lo.toNat_lt
  have hhi := hi.toNat_lt
  have hor : lo.toNat ||| hi.toNat <<< 8 = lo.toNat + 256 * hi.toNat := by
    rw [Nat.or_comm, ← Nat.shiftLeft_add_eq_or_of_lt (by omega), Nat.shiftLeft_eq]
    omega
  have hsmall : hi.toNat % 65536 = hi.toNat := by omega
  have hshift : (hi.toNat <<< 8) % 65536 = hi.toNat <<< 8 := by
    rw [Nat.shiftLeft_eq]
    omega
  rw [headerSize, BitVec.toNat_add, BitVec.toNat_or, BitVec.toNat_shiftLeft]
  simp only [BitVec.toNat_ofNat, Nat.reducePow, hsmall, hshift]
  rw [Nat.mod_eq_of_lt (by omega : lo.toNat < 65536), hor]

/-- The header of a packet gives its size. -/
theorem Framed.headerSize (h : Framed p frame lo hi) :
    (headerSize lo hi).msb = false ∧ (headerSize lo hi).toNat = frame.length := by
  have hsize := h.size
  have hshort := h.short
  have hlen := h.length
  unfold maxDataLength at hshort
  unfold Packet.wireSize at hlen
  have hnat := headerSize_toNat lo hi
  refine ⟨?_, by omega⟩
  rw [BitVec.msb_eq_false_iff_two_mul_lt]
  omega

/-- Two bytes of a stream hold its header. -/
theorem header_of_append {s t rest : Bytes} (hlen : 2 ≤ s.length) (h : s ++ t = lo :: hi :: rest) :
    ∃ more, s = lo :: hi :: more := by
  match s, hlen with
  | x :: y :: more, _ =>
      simp only [List.cons_append, List.cons.injEq] at h
      obtain ⟨rfl, rfl, -⟩ := h
      exact ⟨more, rfl⟩

theorem packetSize_of_take {buff rest : Bytes} {offset n : Nat}
    (h : (buff.drop offset).take n = lo :: hi :: rest) :
    packetSize buff offset = some (VangersSrv.headerSize lo hi) := by
  have hdrop : buff.drop offset = lo :: hi :: (rest ++ (buff.drop offset).drop n) := by
    rw [← List.cons_append, ← List.cons_append, ← h, List.take_append_drop]
  have hlo : buff[offset]? = some lo := by
    rw [← Nat.add_zero offset, ← List.getElem?_drop, hdrop]
    rfl
  have hhi : buff[offset + 1]? = some hi := by
    rw [← List.getElem?_drop, hdrop]
    rfl
  simp [packetSize, hlo, hhi]

end

/-! ### Rounds of the loop -/

/-- Packets that were delivered before. -/
def Parsed.after (ps : List Packet) (parsed : Parsed) : Parsed :=
  { parsed with delivered := ps ++ parsed.delivered }

namespace ReadBuffer

section

variable {buff : Bytes} {readable fuel offset : Nat} {size : I16} {p : Packet} {b b' : ReadBuffer}
  {chunks : List Bytes}

theorem parse_done (h : readable ≤ offset) (hfuel : 0 < fuel) :
    parse buff readable fuel offset = { delivered := [], rest := some { buff, buffOffset := 0 } } := by
  cases fuel with
  | zero => omega
  | succ fuel =>
      rw [parse, if_neg (by omega)]
      simp [Nat.sub_eq_zero_of_le h]

theorem parse_packet (h : offset < readable) (hsize : packetSize buff offset = some size)
    (hpos : size.msb = false) (hle : size.toNat ≤ readable - offset)
    (hp : Packet.fromSlice ((buff.drop offset).take size.toNat) = some p) :
    parse buff readable (fuel + 1) offset
      = (parse buff readable fuel (offset + size.toNat)).after [p] := by
  rw [parse, if_pos h]
  simp [hsize, hpos, Nat.not_lt.mpr hle, hp, Parsed.after]

theorem parse_broken (h : offset < readable) (hsize : packetSize buff offset = some size)
    (hpos : size.msb = false) (hle : size.toNat ≤ readable - offset)
    (hp : Packet.fromSlice ((buff.drop offset).take size.toNat) = none) :
    (parse buff readable fuel offset).rest = none := by
  cases fuel with
  | zero => rfl
  | succ fuel =>
      rw [parse, if_pos h]
      simp [hsize, hpos, Nat.not_lt.mpr hle, hp]

theorem parse_part (h : offset < readable) (hfuel : 0 < fuel)
    (hsize : packetSize buff offset = some size) (hpos : size.msb = false)
    (hlt : readable - offset < size.toNat) :
    parse buff readable fuel offset =
      { delivered := []
        rest := some {
          buff := (buff.drop offset).take (readable - offset) ++
            List.replicate (i16Max - (readable - offset)) 0
          buffOffset := readable - offset } } := by
  cases fuel with
  | zero => omega
  | succ fuel =>
      rw [parse, if_pos h]
      simp [hsize, hpos, hlt, List.drop_take]

theorem parse_negative (h : offset < readable) (hfuel : 0 < fuel)
    (hsize : packetSize buff offset = some size) (hneg : size.msb = true) :
    parse buff readable fuel offset =
      { delivered := [], rest := some { buff, buffOffset := readable - offset } } := by
  cases fuel with
  | zero => omega
  | succ fuel =>
      rw [parse, if_pos h]
      simp [hsize, hneg]

theorem parse_outside (h : offset < readable) (hsize : packetSize buff offset = none) :
    (parse buff readable fuel offset).rest = none := by
  cases fuel with
  | zero => rfl
  | succ fuel =>
      rw [parse, if_pos h]
      simp [hsize]

/-- A packet of size 0 comes again for ever. -/
theorem parse_zero (h : offset < readable) (hsize : packetSize buff offset = some 0#16) :
    (parse buff readable fuel offset).rest = none := by
  induction fuel with
  | zero => rfl
  | succ fuel ih =>
      rw [parse_packet h hsize rfl (Nat.zero_le _) (fromSlice_short (by simp))]
      exact ih

/-- A packet of less than two bytes is none of the stream's: it is one of its own. -/
theorem parse_alone (h : offset < readable) (hsize : packetSize buff offset = some size)
    (hpos : size.msb = false) (hsmall : size.toNat < 2)
    (hrest : (parse buff readable fuel offset).rest = some b') :
    3 ≤ wireSizes (parse buff readable fuel offset).delivered := by
  have hone : 1 ≤ size.toNat := by
    by_contra hless
    have hzero : size = 0#16 := BitVec.eq_of_toNat_eq (by simpa using hless)
    rw [hzero] at hsize
    rw [parse_zero h hsize] at hrest
    cases hrest
  cases fuel with
  | zero => cases hrest
  | succ fuel =>
      rw [parse_packet h hsize hpos (by omega) (fromSlice_short (by rw [List.length_take]; omega))]
      simp only [Parsed.after, wireSizes_append, wireSizes_cons, wireSizes_nil, Packet.wireSize]
      omega

/-- A buffer of its size. -/
structure Sized (b : ReadBuffer) : Prop where
  full : b.buff.length = i16Max
  inside : b.buffOffset ≤ i16Max

/-- The buffer keeps its size, and every byte that was read is in a packet or still in it. -/
theorem parse_rest (hbuff : buff.length = i16Max) (hreadable : readable ≤ i16Max)
    (hle : offset ≤ readable) (h : (parse buff readable fuel offset).rest = some b) :
    b.Sized ∧
      readable - offset ≤ wireSizes (parse buff readable fuel offset).delivered + b.buffOffset := by
  induction fuel generalizing offset with
  | zero => cases h
  | succ fuel ih =>
      rcases Nat.lt_or_ge offset readable with hlt | hge
      · cases hsize : packetSize buff offset with
        | none =>
            rw [parse_outside hlt hsize] at h
            cases h
        | some size =>
            cases hmsb : size.msb with
            | true =>
                rw [parse_negative hlt (Nat.succ_pos _) hsize hmsb] at h ⊢
                cases h
                exact ⟨{ full := hbuff, inside := (Nat.sub_le _ _).trans hreadable }, by simp⟩
            | false =>
                rcases Nat.lt_or_ge (readable - offset) size.toNat with hpart | hwhole
                · rw [parse_part hlt (Nat.succ_pos _) hsize hmsb hpart] at h ⊢
                  cases h
                  refine ⟨⟨?_, (Nat.sub_le _ _).trans hreadable⟩, Nat.le_add_left _ _⟩
                  simp only [List.length_append, List.length_take, List.length_drop,
                    List.length_replicate, hbuff]
                  omega
                · cases hp : Packet.fromSlice ((buff.drop offset).take size.toNat) with
                  | none =>
                      rw [parse_broken hlt hsize hmsb hwhole hp] at h
                      cases h
                  | some p =>
                      rw [parse_packet hlt hsize hmsb hwhole hp] at h ⊢
                      obtain ⟨hsized, hrest⟩ := ih (by omega) h
                      refine ⟨hsized, ?_⟩
                      have hwire := length_le_wireSize hp
                      rw [List.length_take, List.length_drop, hbuff] at hwire
                      simp only [Parsed.after, wireSizes_append, wireSizes_cons, wireSizes_nil]
                      omega
      · rw [parse_done hge (Nat.succ_pos _)] at h ⊢
        cases h
        exact ⟨{ full := hbuff, inside := Nat.zero_le _ }, by omega⟩

/-! ### Reads -/

@[simp] theorem receive_nil : b.receive [] = { delivered := [], rest := some b } := rfl

theorem receive_cons {chunk : Bytes} (h : (b.read chunk).rest = some b') :
    b.receive (chunk :: chunks) = (b'.receive chunks).after (b.read chunk).delivered := by
  simp [receive, h, Parsed.after]

theorem receive_stuck {chunk : Bytes} (h : (b.read chunk).rest = none) :
    (b.receive (chunk :: chunks)).rest = none := by
  simp [receive, h]

/-- The bytes still to be parsed. -/
def unparsed (b : ReadBuffer) : Bytes := b.buff.take b.buffOffset

namespace Sized

variable {chunk : Bytes}

theorem unparsed_length (h : b.Sized) : b.unparsed.length = b.buffOffset := by
  rw [unparsed, List.length_take, h.full]
  exact Nat.min_eq_left h.inside

theorem fill_length (h : b.Sized) (hfits : b.buffOffset + chunk.length ≤ i16Max) :
    (b.fill chunk).length = i16Max := by
  have hlen := h.unparsed_length
  unfold unparsed at hlen
  rw [fill, List.length_append, List.length_append, List.length_drop, hlen, h.full]
  omega

theorem fill_take (h : b.Sized) :
    (b.fill chunk).take (b.buffOffset + chunk.length) = b.unparsed ++ chunk := by
  have hlen : (b.unparsed ++ chunk).length = b.buffOffset + chunk.length := by
    rw [List.length_append, h.unparsed_length]
  rw [fill, ← hlen]
  exact List.take_left

theorem read_rest (h : b.Sized) (hfits : b.buffOffset + chunk.length ≤ i16Max)
    (hrest : (b.read chunk).rest = some b') :
    b'.Sized ∧
      b.buffOffset + chunk.length ≤ wireSizes (b.read chunk).delivered + b'.buffOffset :=
  parse_rest (h.fill_length hfits) hfits (Nat.zero_le _) hrest

end Sized

/-- Every byte that came from the socket is in a packet or still in the buffer. -/
theorem receive_wireSizes (hb : b.Sized) (hfits : b.Fits chunks)
    (h : (b.receive chunks).rest = some b') :
    b.buffOffset + chunks.flatten.length ≤ wireSizes (b.receive chunks).delivered + b'.buffOffset := by
  induction chunks generalizing b with
  | nil =>
      cases h
      simp
  | cons chunk chunks ih =>
      obtain ⟨-, hroom, hnext⟩ := hfits
      cases hread : (b.read chunk).rest with
      | none =>
          rw [receive_stuck hread] at h
          cases h
      | some b₁ =>
          obtain ⟨hsized, hsizes⟩ := hb.read_rest hroom hread
          rw [receive_cons hread] at h ⊢
          have hrest := ih hsized (hnext b₁ hread) h
          simp only [Parsed.after, wireSizes_append, List.flatten_cons, List.length_append]
          omega

/-! ### The first packet of a stream -/

/-- The packets of a stream, when the first one has the given size. -/
def StartsWith (stream : Bytes) (size : I16) (delivered : List Packet) : Prop :=
  ∃ q ps, delivered = q :: ps ∧ size.msb = false ∧ size.toNat ≤ stream.length ∧
    Packet.fromSlice (stream.take size.toNat) = some q ∧
    stream.length ≤ size.toNat + wireSizes ps

/-- **Whatever the reads are, the first packet is the one the first two bytes speak of.** -/
theorem receive_first {lo hi : UInt8} {rest : Bytes} (hb : b.Sized) (hfits : b.Fits chunks)
    (hstream : b.unparsed ++ chunks.flatten = lo :: hi :: rest)
    (hpending : 0 < b.buffOffset) (hready : 2 ≤ b.buffOffset ∨ chunks ≠ [])
    (hrest : (b.receive chunks).rest = some b') (hdone : b'.buffOffset = 0) :
    StartsWith (lo :: hi :: rest) (headerSize lo hi) (b.receive chunks).delivered := by
  induction chunks generalizing b with
  | nil =>
      cases hrest
      omega
  | cons chunk chunks ih =>
      obtain ⟨hne, hroom, hnext⟩ := hfits
      have hchunk : 0 < chunk.length := List.length_pos_iff.mpr hne
      have hlen : (b.fill chunk).length = i16Max := hb.fill_length hroom
      have htake : (b.fill chunk).take (b.buffOffset + chunk.length) = b.unparsed ++ chunk :=
        hb.fill_take
      have hwhole : (b.unparsed ++ chunk) ++ chunks.flatten = lo :: hi :: rest := by
        rw [← hstream, List.flatten_cons, List.append_assoc]
      -- two bytes are there now
      have hlen' : (b.unparsed ++ chunk).length = b.buffOffset + chunk.length := by
        rw [List.length_append, hb.unparsed_length]
      obtain ⟨more, hmore⟩ := header_of_append (by omega) hwhole
      have hheader : packetSize (b.fill chunk) 0 = some (headerSize lo hi) :=
        packetSize_of_take (n := b.buffOffset + chunk.length) (by rw [List.drop_zero, htake, hmore])
      have hpos : 0 < b.buffOffset + chunk.length := by omega
      -- as long as it is not complete the bytes stay where they are
      have hstay : ∀ b₁, (b.read chunk) = { delivered := [], rest := some b₁ } → b₁.Sized →
          b₁.unparsed = b.unparsed ++ chunk → b₁.buffOffset = b.buffOffset + chunk.length →
          StartsWith (lo :: hi :: rest) (headerSize lo hi) (b.receive (chunk :: chunks)).delivered := by
        intro b₁ hread hsized hun hoff
        have hr : (b.read chunk).rest = some b₁ := by rw [hread]
        rw [receive_cons hr] at hrest ⊢
        rw [hread]
        exact ih hsized (hnext b₁ hr) (by rw [hun, hwhole]) (by omega) (Or.inl (by omega)) hrest
      rcases Bool.eq_false_or_eq_true (headerSize lo hi).msb with hmsb | hmsb
      · have hread : b.read chunk = ⟨[], some ⟨b.fill chunk, b.buffOffset + chunk.length⟩⟩ :=
          parse_negative hpos (Nat.succ_pos _) hheader hmsb
        exact hstay _ hread ⟨hlen, hroom⟩ htake rfl
      · rcases Nat.lt_or_ge (b.buffOffset + chunk.length) (headerSize lo hi).toNat with hpart | hall
        · have hread : b.read chunk = ⟨[], some
              ⟨(b.fill chunk).take (b.buffOffset + chunk.length) ++
                List.replicate (i16Max - (b.buffOffset + chunk.length)) 0,
                b.buffOffset + chunk.length⟩⟩ :=
            parse_part hpos (Nat.succ_pos _) hheader hmsb hpart
          refine hstay _ hread (hb.read_rest hroom (congrArg Parsed.rest hread)).1 ?_ rfl
          rw [htake]
          exact List.take_left' hlen'
        · have hslice : ((b.fill chunk).drop 0).take (headerSize lo hi).toNat
              = (lo :: hi :: rest).take (headerSize lo hi).toNat := by
            rw [List.drop_zero, ← hwhole, List.take_append_of_le_length (by omega), ← htake,
              List.take_take, Nat.min_eq_left hall]
          cases hread : (b.read chunk).rest with
          | none =>
              rw [receive_stuck hread] at hrest
              cases hrest
          | some b₁ =>
              cases hp : Packet.fromSlice ((lo :: hi :: rest).take (headerSize lo hi).toNat) with
              | none =>
                  rw [read, parse_broken hpos hheader hmsb hall (hslice ▸ hp)] at hread
                  cases hread
              | some q =>
                  have hparse : b.read chunk = (parse (b.fill chunk) (b.buffOffset + chunk.length)
                      (b.buffOffset + chunk.length) (0 + (headerSize lo hi).toNat)).after [q] :=
                    parse_packet hpos hheader hmsb hall (hslice ▸ hp)
                  rw [receive_cons hread] at hrest ⊢
                  rw [hparse] at hread ⊢
                  obtain ⟨hsized, hsizes⟩ := parse_rest hlen hroom (by omega) hread
                  have hall' := receive_wireSizes hsized (hnext b₁ (hparse ▸ hread)) hrest
                  refine ⟨q, (parse (b.fill chunk) (b.buffOffset + chunk.length)
                      (b.buffOffset + chunk.length) (0 + (headerSize lo hi).toNat)).delivered ++
                    (b₁.receive chunks).delivered, rfl, hmsb, ?_, hp, ?_⟩
                  · rw [← hwhole, List.length_append]
                    omega
                  · rw [← hwhole, List.length_append, wireSizes_append]
                    omega

/-! ### Complete packets -/

/-- What the loop makes of the bytes of packets: it delivers the complete ones, and gets to what
has come of the next one. -/
structure Parses (packets : List Packet) (frames : List Bytes) (buff : Bytes) (readable : Nat)
    (parsed : Parsed) (ps left : List Packet) (pending : Nat) : Prop where
  split : ∃ done, packets = done ++ left ∧ ps.map Packet.content = done.map Packet.content
  left : List.Forall₂ IsFrameOf left frames
  inside : pending ≤ readable
  content : (buff.drop (readable - pending)).take pending <+: frames.flatten
  tail : ∃ fuel, pending < fuel ∧ parsed = (parse buff readable fuel (readable - pending)).after ps

theorem parse_frames {packets : List Packet} {frames : List Bytes}
    (hframes : List.Forall₂ IsFrameOf packets frames) (hbuff : readable ≤ buff.length)
    (hle : offset ≤ readable) (hfuel : readable - offset < fuel)
    (hcontent : (buff.drop offset).take (readable - offset) <+: frames.flatten) :
    ∃ ps left, Parses packets (Frames.cut frames (readable - offset)).left buff readable
      (parse buff readable fuel offset) ps left (Frames.cut frames (readable - offset)).pending := by
  induction hframes generalizing offset fuel with
  | nil =>
      have hoffset : readable - (readable - offset) = offset := by omega
      refine ⟨[], [], ⟨[], rfl, rfl⟩, List.Forall₂.nil, Nat.sub_le _ _, ?_, fuel, hfuel, ?_⟩
      · simpa only [Frames.cut, hoffset] using hcontent
      · simp [Frames.cut, hoffset, Parsed.after]
  | @cons p frame packets frames hframe hframes ih =>
      rcases Nat.lt_or_ge (readable - offset) frame.length with hlt | hge
      · have hoffset : readable - (readable - offset) = offset := by omega
        rw [Frames.cut_cons_of_lt hlt]
        refine ⟨[], p :: packets, ⟨[], rfl, rfl⟩, List.Forall₂.cons hframe hframes, Nat.sub_le _ _,
          ?_, fuel, hfuel, ?_⟩
        · simpa only [hoffset] using hcontent
        · simp [hoffset, Parsed.after]
      · obtain ⟨lo, hi, hframe⟩ := hframe
        obtain ⟨q, hq, hsame⟩ := hframe.fromSlice
        obtain ⟨hpos, hsize⟩ := hframe.headerSize
        have hlen := hframe.length
        unfold Packet.wireSize at hlen
        -- the frame is what the next bytes of the buffer are
        obtain ⟨more, hmore⟩ := hcontent
        have hslice : (buff.drop offset).take frame.length = frame := by
          have htake := congrArg (List.take frame.length) hmore
          rw [List.flatten_cons, List.take_left, List.take_append_of_le_length, List.take_take,
            Nat.min_eq_left hge] at htake
          · exact htake
          · rw [List.length_take, List.length_drop]
            omega
        have hheader : packetSize buff offset = some (headerSize lo hi) :=
          packetSize_of_take (hslice.trans hframe.eq)
        cases fuel with
        | zero => omega
        | succ fuel =>
            have hround : parse buff readable (fuel + 1) offset
                = (parse buff readable fuel (offset + frame.length)).after [q] := by
              rw [← hsize]
              refine parse_packet (by omega) hheader hpos (by omega) ?_
              rw [hsize, hslice]
              exact hq
            have hrest : (buff.drop (offset + frame.length)).take (readable - (offset + frame.length))
                <+: frames.flatten := by
              have hdrop := congrArg (List.drop frame.length) hmore
              rw [List.flatten_cons, List.drop_left, List.drop_append_of_le_length, List.drop_take,
                List.drop_drop] at hdrop
              · exact ⟨more, by rw [← hdrop, Nat.sub_sub]⟩
              · rw [List.length_take, List.length_drop]
                omega
            have hnext : readable - (offset + frame.length) < fuel := by omega
            obtain ⟨ps, left, h⟩ := ih (by omega) hnext hrest
            rw [Frames.cut_cons_of_le hge, Nat.sub_sub]
            refine ⟨q :: ps, left, ?_, h.left, h.inside, h.content, ?_⟩
            · obtain ⟨done, hdone, hcontents⟩ := h.split
              exact ⟨p :: done, by rw [hdone]; rfl, by simp [hcontents, hsame]⟩
            · obtain ⟨fuel', hfuel', htail⟩ := h.tail
              exact ⟨fuel', hfuel', by rw [hround, htail]; rfl⟩

/-! ### Incomplete packets -/

/-- A cut after the first byte of a length.  What is taken for the second one makes the loop wait
for more, or makes it leave the first one where the next read expects it. -/
def SafeCut (buff : Bytes) (readable : Nat) : Prop :=
  ∃ size, packetSize buff (readable - 1) = some size ∧
    if size.msb then buff[0]? = buff[readable - 1]? else 2 ≤ size.toNat

instance (buff : Bytes) (readable : Nat) : Decidable (SafeCut buff readable) :=
  inferInstanceAs (Decidable (∃ size ∈ packetSize buff (readable - 1),
    if size.msb then buff[0]? = buff[readable - 1]? else 2 ≤ size.toNat))

theorem take_one_drop {n : Nat} : (buff.drop n).take 1 = buff[n]?.toList := by
  rw [List.take_one, List.head?_drop]

/-- Unless the cut is an unsafe one, what has come of a packet is in front of the buffer after
the read. -/
theorem parse_pending {packets : List Packet} {frames : List Bytes} {pending : Nat}
    (hframes : List.Forall₂ IsFrameOf packets frames) (hle : pending ≤ readable)
    (hfuel : pending < fuel) (hpart : Frames.Part frames pending)
    (hcontent : (buff.drop (readable - pending)).take pending <+: frames.flatten)
    (hlen : readable ≤ buff.length) (hsafe : pending = 1 → SafeCut buff readable) :
    ∃ b', parse buff readable fuel (readable - pending) = { delivered := [], rest := some b' } ∧
      b'.buffOffset = pending ∧
      b'.unparsed = (buff.drop (readable - pending)).take pending := by
  have hback : readable - (readable - pending) = pending := by omega
  -- when the loop waits for more, the bytes are moved to the front
  have hmoved : ∀ size, 0 < pending → packetSize buff (readable - pending) = some size →
      size.msb = false → pending < size.toNat →
      ∃ b', parse buff readable fuel (readable - pending) = { delivered := [], rest := some b' } ∧
        b'.buffOffset = pending ∧
        b'.unparsed = (buff.drop (readable - pending)).take pending := by
    intro size hpos hsize hmsb hlt
    have hinside : readable - pending < readable := by omega
    have hparse := parse_part hinside (by omega : 0 < fuel) hsize hmsb (by omega)
    rw [hback] at hparse
    refine ⟨_, hparse, rfl, List.take_left' (?_ : _ = pending)⟩
    rw [List.length_take, List.length_drop]
    omega
  match pending, hle with
  | 0, _ =>
      rw [parse_done (by omega) hfuel]
      exact ⟨_, rfl, rfl, by simp [unparsed]⟩
  | 1, hle =>
      obtain ⟨size, hsize, hcond⟩ := hsafe rfl
      rcases Bool.eq_false_or_eq_true size.msb with hmsb | hmsb
      · rw [if_pos hmsb] at hcond
        rw [parse_negative (by omega) (by omega) hsize hmsb, hback]
        refine ⟨_, rfl, rfl, ?_⟩
        rw [take_one_drop, ← hcond, ← take_one_drop]
        rfl
      · rw [if_neg (by simp [hmsb])] at hcond
        exact hmoved size Nat.one_pos hsize hmsb hcond
  | pending + 2, hle =>
      cases hframes with
      | nil => cases hpart
      | cons hframe _ =>
          obtain ⟨lo, hi, hframe⟩ := hframe
          obtain ⟨hmsb, hsize⟩ := hframe.headerSize
          have hlt : pending + 2 < _ := hpart
          obtain ⟨more, hmore⟩ := hcontent
          rw [List.flatten_cons, hframe.eq] at hmore
          obtain ⟨rest, hhead⟩ := header_of_append (by rw [List.length_take, List.length_drop]; omega)
            hmore
          exact hmoved _ (by omega) (packetSize_of_take hhead) hmsb (by omega)

/-! ### Connections -/

/-- The reads deliver the packets and leave nothing in the buffer. -/
def Delivers (b : ReadBuffer) (chunks : List Bytes) (packets : List Packet) : Prop :=
  (b.receive chunks).delivered.map Packet.content = packets.map Packet.content ∧
    ∃ b', (b.receive chunks).rest = some b' ∧ b'.buffOffset = 0

/-- No read of a connection ends in an unsafe cut.  The frames are those still to come. -/
def SafeCuts : List Bytes → ReadBuffer → List Bytes → Prop
  | _, _, [] => True
  | frames, b, chunk :: chunks =>
    ((Frames.cut frames (b.buffOffset + chunk.length)).pending = 1 →
        SafeCut (b.fill chunk) (b.buffOffset + chunk.length)) ∧
      ∀ b', (b.read chunk).rest = some b' →
        SafeCuts (Frames.cut frames (b.buffOffset + chunk.length)).left b' chunks

/-- Between two reads the buffer holds what has come of the next packet. -/
structure Waiting (packets : List Packet) (frames : List Bytes) (b : ReadBuffer) : Prop where
  sized : b.Sized
  framed : List.Forall₂ IsFrameOf packets frames
  content : b.unparsed <+: frames.flatten
  part : Frames.Part frames b.buffOffset

theorem Waiting.new {packets : List Packet} {frames : List Bytes}
    (h : List.Forall₂ IsFrameOf packets frames) : Waiting packets frames ReadBuffer.new where
  sized := ⟨List.length_replicate, Nat.zero_le _⟩
  framed := h
  content := List.nil_prefix
  part := by
    cases h with
    | nil => rfl
    | cons hframe _ =>
        obtain ⟨lo, hi, hframe⟩ := hframe
        show 0 < _
        rw [hframe.length, Packet.wireSize]
        omega

variable {packets : List Packet} {frames : List Bytes} {chunk : Bytes}

/-- What a read makes of a buffer that waits: its complete packets, and then the loop is at the
part of the next one. -/
theorem Waiting.read (h : Waiting packets frames b) (hroom : b.buffOffset + chunk.length ≤ i16Max)
    (hcontent : b.unparsed ++ chunk <+: frames.flatten) :
    ∃ ps left, Parses packets (Frames.cut frames (b.buffOffset + chunk.length)).left
      (b.fill chunk) (b.buffOffset + chunk.length) (b.read chunk) ps left
      (Frames.cut frames (b.buffOffset + chunk.length)).pending := by
  have hlen : (b.fill chunk).length = i16Max := h.sized.fill_length hroom
  have htake : (b.fill chunk).take (b.buffOffset + chunk.length) = b.unparsed ++ chunk :=
    h.sized.fill_take
  have hfilled : ((b.fill chunk).drop 0).take (b.buffOffset + chunk.length - 0) <+: frames.flatten := by
    rw [List.drop_zero, Nat.sub_zero, htake]
    exact hcontent
  exact parse_frames h.framed (hroom.trans hlen.ge) (Nat.zero_le _) (Nat.lt_succ_self _) hfilled

/-- A read that ends in no unsafe cut leaves a buffer that waits. -/
theorem Waiting.read_safe (h : Waiting packets frames b)
    (hroom : b.buffOffset + chunk.length ≤ i16Max) (hcontent : b.unparsed ++ chunk <+: frames.flatten)
    (hsafe : (Frames.cut frames (b.buffOffset + chunk.length)).pending = 1 →
      SafeCut (b.fill chunk) (b.buffOffset + chunk.length)) :
    ∃ ps done left b', packets = done ++ left ∧ ps.map Packet.content = done.map Packet.content ∧
      b.read chunk = { delivered := ps, rest := some b' } ∧
      Waiting left (Frames.cut frames (b.buffOffset + chunk.length)).left b' ∧
      b'.unparsed ++ frames.flatten.drop (b.buffOffset + chunk.length)
        = (Frames.cut frames (b.buffOffset + chunk.length)).left.flatten := by
  obtain ⟨ps, left, hparses⟩ := h.read hroom hcontent
  obtain ⟨done, hsplit, hsame⟩ := hparses.split
  obtain ⟨fuel, hfuel, htail⟩ := hparses.tail
  have hlen : (b.fill chunk).length = i16Max := h.sized.fill_length hroom
  have hpart : Frames.Part (Frames.cut frames (b.buffOffset + chunk.length)).left
      (Frames.cut frames (b.buffOffset + chunk.length)).pending := by
    refine Frames.part_cut ?_
    have hle := hcontent.length_le
    rw [List.length_append, h.sized.unparsed_length] at hle
    exact hle
  obtain ⟨b', hparse, hoff, hun⟩ := parse_pending hparses.left hparses.inside hfuel hpart
    hparses.content (hroom.trans hlen.ge) hsafe
  have hread : b.read chunk = { delivered := ps, rest := some b' } := by
    rw [htail, hparse, Parsed.after, List.append_nil]
  have hsized := (h.sized.read_rest hroom (congrArg Parsed.rest hread)).1
  have hprefix : b'.unparsed <+: (Frames.cut frames (b.buffOffset + chunk.length)).left.flatten := by
    rw [hun]
    exact hparses.content
  refine ⟨ps, done, left, b', hsplit, hsame, hread, ⟨hsized, hparses.left, hprefix, ?_⟩, ?_⟩
  · rw [hoff]
    exact hpart
  · rw [Frames.drop_flatten, ← hoff, ← hsized.unparsed_length]
    exact List.prefix_iff_eq_append.mp hprefix

theorem wireSizes_of_framed {left : List Packet} (h : List.Forall₂ IsFrameOf left frames) :
    wireSizes left = frames.flatten.length := by
  induction h with
  | nil => rfl
  | cons hframe _ ih =>
      obtain ⟨lo, hi, hframe⟩ := hframe
      rw [wireSizes_cons, ih, List.flatten_cons, List.length_append, hframe.length]

/-- A first byte that is not its packet's: the length it gives is another one. -/
theorem not_derailed {x : UInt8} {p q : Packet} {ps : List Packet} {frame stream : Bytes}
    {lo hi : UInt8} (hframe : Framed p frame lo hi) (hne : x ≠ lo)
    (hstarts : StartsWith stream (headerSize x hi) (q :: ps))
    (hsame : q.content = p.content) (hsizes : stream.length = q.wireSize + wireSizes ps) : False := by
  obtain ⟨_, _, heq, hmsb, hle, hslice, hstream⟩ := hstarts
  obtain ⟨rfl, rfl⟩ := List.cons.inj heq
  have hq : q.wireSize = 3 + p.data.length := wireSize_of_content hsame
  have hsize := hframe.size
  have hshort := hframe.short
  have hnat := headerSize_toNat x hi
  have hx := x.toNat_lt
  unfold maxDataLength at hshort
  -- the packet has the length it was read with, which is that of the frame
  have hwire := wireSize_of_fromSlice hslice (by rw [List.length_take]; omega)
  rw [List.length_take, Nat.min_eq_left hle] at hwire
  exact hne (UInt8.toNat_inj.mp (by omega))

/-- A buffer in front of which another byte stands than the one that came. -/
theorem derailed {p : Packet} {left : List Packet} {frame : Bytes} {coming : List Bytes}
    {x lo hi : UInt8} (hframe : Framed p frame lo hi) (hleft : List.Forall₂ IsFrameOf left coming)
    (hne : x ≠ lo) (hb : b.Sized) (hfits : b.Fits chunks) (hone : b.buffOffset = 1)
    (hfront : b.unparsed = [x])
    (hcome : chunks.flatten = hi :: (p.realAction :: p.data ++ coming.flatten))
    (hrest : (b.receive chunks).rest = some b') (hdone : b'.buffOffset = 0)
    (hsame : (b.receive chunks).delivered.map Packet.content = (p :: left).map Packet.content) :
    False := by
  have hstream : b.unparsed ++ chunks.flatten
      = x :: hi :: (p.realAction :: p.data ++ coming.flatten) := by
    rw [hfront, hcome]
    rfl
  have hready : chunks ≠ [] := by
    rintro rfl
    cases hcome
  have hstarts := receive_first hb hfits hstream (by omega) (Or.inr hready) hrest hdone
  obtain ⟨q, ps, hdelivered, -⟩ := id hstarts
  have hsizes := wireSizes_of_content hsame
  rw [hdelivered] at hstarts hsizes hsame
  rw [wireSizes_cons, wireSizes_cons, wireSizes_of_framed hleft] at hsizes
  refine not_derailed hframe hne hstarts (List.cons.inj hsame).1 ?_
  rw [hsizes, Packet.wireSize]
  simp only [List.length_cons, List.length_append]
  omega

/-- The same, for a frame whose first byte is not the one in front. -/
theorem derailed_of_first {left : List Packet} {coming : List Bytes}
    (hleft : List.Forall₂ IsFrameOf left coming) (hb : b.Sized) (hfits : b.Fits chunks)
    (hone : b.buffOffset = 1) (hcome : chunks.flatten = coming.flatten.drop 1)
    (hsome : coming.flatten ≠ []) (hfirst : b.buff[0]? ≠ coming.flatten.head?)
    (hrest : (b.receive chunks).rest = some b') (hdone : b'.buffOffset = 0)
    (hsame : (b.receive chunks).delivered.map Packet.content = left.map Packet.content) : False := by
  cases hleft with
  | nil => exact hsome rfl
  | @cons p frame left coming hframe hleft =>
      obtain ⟨lo, hi, hframe⟩ := hframe
      rw [List.flatten_cons, hframe.eq] at hcome hfirst
      have hlen := hb.unparsed_length
      rw [hone] at hlen
      obtain ⟨x, hx⟩ := List.length_eq_one_iff.mp hlen
      have hhead : b.buff[0]? = some x := by
        rw [unparsed, hone, List.take_one, List.head?_eq_getElem?] at hx
        cases hzero : b.buff[0]? with
        | none =>
            rw [hzero] at hx
            cases hx
        | some y =>
            rw [hzero] at hx
            rw [(List.cons.inj hx).1]
      have hne : x ≠ lo := by
        rintro rfl
        exact hfirst hhead
      exact derailed hframe hleft hne hb hfits hone hx hcome hrest hdone hsame

/-- The one byte that has come is the first of what is left. -/
theorem first_pending {buff stream : Bytes} {n : Nat} (hn : n < buff.length)
    (hcontent : (buff.drop n).take 1 <+: stream) : buff[n]? = stream.head? := by
  obtain ⟨others, hothers⟩ := hcontent
  rw [take_one_drop, List.getElem?_eq_getElem hn] at hothers
  rw [List.getElem?_eq_getElem hn, ← hothers]
  rfl

/-- **After an unsafe cut the packets do not come out right.** -/
theorem Waiting.not_delivers (h : Waiting packets frames b)
    (hroom : b.buffOffset + chunk.length ≤ i16Max)
    (hnext : ∀ b', (b.read chunk).rest = some b' → b'.Fits chunks)
    (hstream : b.unparsed ++ chunk ++ chunks.flatten = frames.flatten)
    (hpending : (Frames.cut frames (b.buffOffset + chunk.length)).pending = 1)
    (hcut : ¬ SafeCut (b.fill chunk) (b.buffOffset + chunk.length)) :
    ¬ Delivers b (chunk :: chunks) packets := by
  rintro ⟨hcontents, b', hrest, hdone⟩
  have hlen : (b.fill chunk).length = i16Max := h.sized.fill_length hroom
  obtain ⟨ps, left, hparses⟩ := h.read hroom ⟨_, hstream⟩
  obtain ⟨done, hsplit, hsame⟩ := hparses.split
  obtain ⟨fuel, hfuel, htail⟩ := hparses.tail
  have hinside := hparses.inside
  have hcontent := hparses.content
  have hleft := hparses.left
  rw [hpending] at hfuel htail hinside hcontent
  have hlt : b.buffOffset + chunk.length - 1 < b.buffOffset + chunk.length := by omega
  -- one byte of the packets left has come, and the others are those of the reads to come
  have hcome : chunks.flatten
      = (Frames.cut frames (b.buffOffset + chunk.length)).left.flatten.drop 1 := by
    rw [← hpending, ← Frames.drop_flatten, ← hstream, ← h.sized.unparsed_length,
      ← List.length_append, List.drop_left]
  cases hread : (b.read chunk).rest with
  | none =>
      rw [receive_stuck hread] at hrest
      cases hrest
  | some b₁ =>
      have hsized := (h.sized.read_rest hroom hread).1
      have hfits := hnext b₁ hread
      rw [receive_cons hread] at hcontents hrest
      have hafter := receive_wireSizes hsized hfits hrest
      rw [htail] at hcontents hread
      set tail := parse (b.fill chunk) (b.buffOffset + chunk.length) fuel
        (b.buffOffset + chunk.length - 1) with hdef
      have hrestSame : (tail.delivered ++ (b₁.receive chunks).delivered).map Packet.content
          = left.map Packet.content := by
        rw [hsplit, List.map_append, ← hsame] at hcontents
        simp only [Parsed.after, List.append_assoc, List.map_append] at hcontents ⊢
        exact List.append_cancel_left hcontents
      have hsizes := wireSizes_of_content hrestSame
      rw [wireSizes_of_framed hleft, wireSizes_append] at hsizes
      have hcount : (Frames.cut frames (b.buffOffset + chunk.length)).left.flatten.length
          = 1 + chunks.flatten.length := by
        have hone := hcontent.length_le
        rw [List.length_take, List.length_drop] at hone
        rw [hcome, List.length_drop]
        omega
      cases hsize : packetSize (b.fill chunk) (b.buffOffset + chunk.length - 1) with
      | none =>
          have hstuck : tail.rest = none := parse_outside hlt hsize
          rw [Parsed.after, hstuck] at hread
          cases hread
      | some size =>
          rcases Bool.eq_false_or_eq_true size.msb with hmsb | hmsb
          · -- the byte stays where it is, and the reads go on with another one
            have hstay : tail = { delivered := [], rest := some ⟨b.fill chunk, _⟩ } :=
              parse_negative hlt (by omega) hsize hmsb
            rw [hstay] at hread hrestSame
            cases hread
            have hback : b.buffOffset + chunk.length - (b.buffOffset + chunk.length - 1) = 1 := by
              omega
            have hsome : (Frames.cut frames (b.buffOffset + chunk.length)).left.flatten ≠ [] := by
              intro hnil
              rw [hnil, List.length_nil] at hcount
              omega
            refine derailed_of_first hleft hsized hfits hback hcome hsome ?_ hrest hdone hrestSame
            intro hfirst
            refine hcut ⟨size, hsize, ?_⟩
            rw [if_pos hmsb, first_pending (by omega) hcontent]
            exact hfirst
          · -- the byte is taken for a packet of its own
            have hsmall : size.toNat < 2 := by
              by_contra hge
              refine hcut ⟨size, hsize, ?_⟩
              rw [if_neg (by simp [hmsb])]
              omega
            have htaken : 3 ≤ wireSizes tail.delivered := parse_alone hlt hsize hmsb hsmall hread
            omega

/-- The reads of a connection deliver its packets exactly when none ends in an unsafe cut. -/
theorem Waiting.delivers_iff (h : Waiting packets frames b) (hfits : b.Fits chunks)
    (hstream : b.unparsed ++ chunks.flatten = frames.flatten) :
    Delivers b chunks packets ↔ SafeCuts frames b chunks := by
  induction chunks generalizing b packets frames with
  | nil =>
      refine ⟨fun _ => trivial, fun _ => ?_⟩
      rw [List.flatten_nil, List.append_nil] at hstream
      have hlen := h.sized.unparsed_length
      have hpart := h.part
      rw [hstream] at hlen
      cases h.framed with
      | nil => exact ⟨rfl, b, rfl, hpart⟩
      | cons hframe _ =>
          have hlt : b.buffOffset < _ := hpart
          rw [List.flatten_cons, List.length_append] at hlen
          omega
  | cons chunk chunks ih =>
      obtain ⟨-, hroom, hnext⟩ := hfits
      rw [List.flatten_cons, ← List.append_assoc] at hstream
      by_cases hsafe : (Frames.cut frames (b.buffOffset + chunk.length)).pending = 1 →
          SafeCut (b.fill chunk) (b.buffOffset + chunk.length)
      · obtain ⟨ps, done, left, b', rfl, hsame, hread, hwaiting, hleft⟩ :=
          h.read_safe hroom ⟨_, hstream⟩ hsafe
        have hrest : (b.read chunk).rest = some b' := by rw [hread]
        have hcoming : frames.flatten.drop (b.buffOffset + chunk.length) = chunks.flatten := by
          rw [← hstream, ← h.sized.unparsed_length, ← List.length_append, List.drop_left]
        rw [hcoming] at hleft
        have hgo := ih hwaiting (hnext b' hrest) hleft
        have hdelivers : Delivers b (chunk :: chunks) (done ++ left) ↔ Delivers b' chunks left := by
          rw [Delivers, Delivers, receive_cons hrest, hread]
          simp only [Parsed.after, List.map_append, hsame, List.append_cancel_left_eq]
        rw [hdelivers, hgo]
        refine ⟨fun hcuts => ⟨hsafe, fun b₁ hb₁ => ?_⟩, fun hcuts => hcuts.2 b' hrest⟩
        rw [hrest] at hb₁
        cases hb₁
        exact hcuts
      · obtain ⟨hpending, hcut⟩ := Classical.not_imp.mp hsafe
        refine iff_of_false (h.not_delivers hroom hnext hstream hpending hcut) ?_
        exact fun hcuts => hsafe hcuts.1

end

end ReadBuffer

/-! ### The read loop undoes the encoding -/

theorem framed_of_mapM {packets : List Packet} {frames : List Bytes}
    (hpackets : ∀ p ∈ packets, p.Named ∧ p.data.length ≤ maxDataLength)
    (hframes : packets.mapM Packet.asBytes = some frames) :
    List.Forall₂ IsFrameOf packets frames := by
  have hbytes := mapM_eq_some.mp hframes
  clear hframes
  induction hbytes with
  | nil => exact List.Forall₂.nil
  | cons hp _ ih =>
      obtain ⟨hnamed, hshort⟩ := hpackets _ List.mem_cons_self
      exact List.Forall₂.cons (framed_of_asBytes hp hnamed hshort)
        (ih fun p hp => hpackets p (List.mem_cons_of_mem _ hp))

/-- **Packets whose bytes are cut into reads in any way are delivered, and the buffer is empty
in the end, exactly when no read ends in an unsafe cut.** -/
theorem framing_iff {packets : List Packet} {frames chunks : List Bytes}
    (hpackets : ∀ p ∈ packets, p.Named ∧ p.data.length ≤ maxDataLength)
    (hframes : packets.mapM Packet.asBytes = some frames)
    (hchunks : chunks.flatten = frames.flatten) (hfits : ReadBuffer.new.Fits chunks) :
    ReadBuffer.new.Delivers chunks packets ↔ ReadBuffer.SafeCuts frames ReadBuffer.new chunks :=
  (ReadBuffer.Waiting.new (framed_of_mapM hpackets hframes)).delivers_iff hfits hchunks

/-- Requests for the list of games with some data. -/
def gamesListQueries (l : List Bytes) : List Packet :=
  l.map fun data =>
    { eventSize := BitVec.ofNat 16 (data.length + 1), action := .gamesListQuery, realAction := 0x81, data }

/-- A cut behind the first byte of a length, where no earlier read has left anything. -/
theorem framing_iff_cut :
    ReadBuffer.SafeCuts [[1, 0, 0x81], [2, 0, 0x81, 7]] ReadBuffer.new
      [[1, 0, 0x81, 2], [0, 0x81, 7]] :=
  (@framing_iff (gamesListQueries [[], [7]]) [[1, 0, 0x81], [2, 0, 0x81, 7]]
    [[1, 0, 0x81, 2], [0, 0x81, 7]] (by decide) (by decide) rfl (by decide +kernel)).mp
    ⟨by decide +kernel, _, rfl, by decide +kernel⟩

/-- The first read leaves `0x80` where the second one ends: the size of the third packet comes
out negative, and instead of it the second one is delivered again. -/
theorem framing_fails :
    ¬ ∀ (packets : List Packet) (frames chunks : List Bytes),
      (∀ p ∈ packets, p.Named ∧ p.data.length ≤ maxDataLength) →
      packets.mapM Packet.asBytes = some frames → chunks.flatten = frames.flatten →
      ReadBuffer.new.Fits chunks → ReadBuffer.new.Delivers chunks packets := by
  intro h
  have hdelivers := h (gamesListQueries [[0x80, 0x80], [], [7]])
    [[3, 0, 0x81, 0x80, 0x80], [1, 0, 0x81], [2, 0, 0x81, 7]]
    [[3, 0, 0x81, 0x80, 0x80], [1, 0, 0x81, 2], [0, 0x81, 7]]
    (by decide) (by decide) rfl (by decide +kernel)
  have hcontents := hdelivers.1
  revert hcontents
  decide +kernel

end VangersSrv
