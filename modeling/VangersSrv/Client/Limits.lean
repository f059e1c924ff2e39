/-
Where the reader goes out of bounds.

The loop over the packets looks at two bytes of the buffer in each round and adds 2 to the
number they make.  That goes wrong in three places: the last byte of a full buffer has no
neighbour, the two largest lengths do not leave room for the 2, and a negative length at the
front of a full buffer leaves no byte for the next read, which then looks like the end of the
connection.  `Tame` excludes these three, and nothing else goes out of bounds.
-/
import VangersSrv.Client.Termination

namespace VangersSrv

namespace ReadBuffer

/-- `(buff[offset] as i16) | ((buff[offset + 1] as i16) << 8)` -/
def lengthField (lo hi : UInt8) : I16 := BitVec.ofNat 16 lo.toNat ||| BitVec.ofNat 16 hi.toNat <<< 8

/-- The rounds of the loop stay within the buffer and the range of an `i16`. -/
structure RoundsInBounds (buff : Bytes) (readable : Nat) : Prop where
  /-- `buff[offset + 1]` is there in every round. -/
  indexed : ∀ offset, PacketStart buff readable offset → offset < readable →
    offset + 1 < buff.length
  /-- `2 + event_size` is an `i16`. -/
  sums : ∀ offset lo hi, PacketStart buff readable offset → offset < readable →
    buff[offset]? = some lo → buff[offset + 1]? = some hi →
    BitVec.saddOverflow 2#16 (lengthField lo hi) = false
  /-- `Packet::from_slice` takes what the loop cuts out. -/
  parsed : ∀ offset size, PacketStart buff readable offset → offset < readable →
    packetSize buff offset = some size → size.msb = false → size.toNat ≤ readable - offset →
    ∃ p, (slice buff offset (offset + size.toNat)).bind Packet.fromSlice = some p
  /-- `buff[offset..buff_readable_size]` and `buff[buff_readable_size - offset..]` are ranges of
  the buffer. -/
  ranges : ∀ offset, PacketStart buff readable offset →
    offset ≤ readable ∧ readable ≤ buff.length ∧ readable - offset ≤ buff.length

/-- One read that leaves the loop in order. -/
structure InBounds (b : ReadBuffer) (chunk : Bytes) : Prop
    extends RoundsInBounds (b.fill chunk) (b.buffOffset + chunk.length) where
  /-- The task does not panic: where no further read comes, the loop does not end. -/
  goesOn : (b.read chunk).rest = none →
    ¬ Iteration.Ends (nextOffset (b.fill chunk) (b.buffOffset + chunk.length)) 0
  /-- The next read has a byte of room. -/
  room : ∀ b', (b.read chunk).rest = some b' → b'.buffOffset < i16Max

/-- Every read of a connection stays in bounds, whatever was read before it. -/
def StaysInBounds (chunks : List Bytes) : Prop :=
  ∀ done chunk later b, chunks = done ++ chunk :: later →
    (ReadBuffer.new.receive done).rest = some b → InBounds b chunk

/-- What a buffer may hold. -/
structure Tame (buff : Bytes) (readable : Nat) : Prop where
  /-- No packet begins with the last byte of a full buffer. -/
  lastByte : readable = i16Max → ¬ PacketStart buff readable (i16Max - 1)
  /-- No packet begins with one of the lengths 32766 and 32767. -/
  short : ∀ offset lo, PacketStart buff readable offset → offset < readable →
    buff[offset]? = some lo → buff[offset + 1]? = some 0x7F → lo < 0xFE
  /-- A full buffer does not begin with a length below −2. -/
  front : readable = i16Max → ∀ lo hi, buff[0]? = some lo → buff[1]? = some hi →
    0x80 ≤ hi → hi = 0xFF ∧ 0xFE ≤ lo

section

variable {buff : Bytes} {readable fuel offset : Nat} {size : I16} {lo hi : UInt8} {b b' : ReadBuffer}
  {chunk : Bytes} {chunks done later : List Bytes}

/-! ### Length fields -/

theorem lengthField_toNat : (lengthField lo hi).toNat = lo.toNat + 256 * hi.toNat := by
  have hlo := lo.toNat_lt
  have hhi := hi.toNat_lt
  have hsum : headerSize lo hi = 2#16 + lengthField lo hi := rfl
  have hnat := headerSize_toNat lo hi
  rw [hsum, BitVec.toNat_add, BitVec.toNat_ofNat] at hnat
  have hlt := (lengthField lo hi).isLt
  omega

/-- The sum leaves the range of an `i16` for two lengths. -/
theorem saddOverflow_iff :
    BitVec.saddOverflow 2#16 (lengthField lo hi) = false ↔ (hi = 0x7F → lo < 0xFE) := by
  have hlo := lo.toNat_lt
  have hhi := hi.toNat_lt
  have hnat : (lengthField lo hi).toNat = lo.toNat + 256 * hi.toNat := lengthField_toNat
  have htwo : (2#16).toInt = 2 := by decide
  have h7F : (0x7F : UInt8).toNat = 127 := rfl
  have hFE : (0xFE : UInt8).toNat = 254 := rfl
  rw [← UInt8.toNat_inj, UInt8.lt_iff_toNat_lt]
  simp only [BitVec.saddOverflow, htwo, BitVec.toInt_eq_toNat_cond, hnat, Bool.or_eq_false_iff,
    decide_eq_false_iff_not, h7F, hFE]
  split <;> omega

theorem packetSize_eq_some :
    packetSize buff offset = some size ↔
      ∃ lo hi, buff[offset]? = some lo ∧ buff[offset + 1]? = some hi ∧ size = headerSize lo hi := by
  simp only [packetSize, Option.bind_eq_bind, Option.bind_eq_some_iff, Option.some.injEq]
  constructor
  · rintro ⟨lo, hlo, hi, hhi, hsize⟩
    exact ⟨lo, hi, hlo, hhi, hsize.symm⟩
  · rintro ⟨lo, hi, hlo, hhi, hsize⟩
    exact ⟨lo, hlo, hi, hhi, hsize.symm⟩

/-- A size comes out negative for a length below −2 and for the two that overflow. -/
theorem headerSize_msb :
    (headerSize lo hi).msb = true ↔
      (0x80 ≤ hi ∧ ¬ (hi = 0xFF ∧ 0xFE ≤ lo)) ∨ (hi = 0x7F ∧ 0xFE ≤ lo) := by
  have hlo := lo.toNat_lt
  have hhi := hi.toNat_lt
  have h80 : (0x80 : UInt8).toNat = 128 := rfl
  have h7F : (0x7F : UInt8).toNat = 127 := rfl
  have hFE : (0xFE : UInt8).toNat = 254 := rfl
  have hFF : (0xFF : UInt8).toNat = 255 := rfl
  rw [BitVec.msb_eq_true_iff_two_mul_ge, headerSize_toNat, UInt8.le_iff_toNat_le,
    UInt8.le_iff_toNat_le, ← UInt8.toNat_inj, ← UInt8.toNat_inj, h80, h7F, hFE, hFF]
  omega

/-! ### Where a round is -/

theorem PacketStart.le (h : PacketStart buff readable offset) : offset ≤ readable := by
  induction h with
  | first => exact Nat.zero_le _
  | next _ hlt _ _ _ hle ih => omega

/-- A round that goes on leads to a packet start. -/
theorem PacketStart.round {p : Packet} {offset' : Nat} (h : PacketStart buff readable offset)
    (hround : round buff readable offset = some (p, offset')) : PacketStart buff readable offset' := by
  obtain ⟨hlt, size, hsize, hpos, hle, -, rfl⟩ := round_eq_some.mp hround
  obtain ⟨lo, hi, hlo, hhi, rfl⟩ := packetSize_eq_some.mp hsize
  exact h.next hlt hlo hhi hpos hle

/-- Where the loop is left and a further read comes: behind the last packet, or at a packet whose
size is negative or more than there is. -/
theorem parse_left (hstart : PacketStart buff readable offset)
    (h : (parse buff readable fuel offset).rest = some b') :
    ∃ offset', PacketStart buff readable offset' ∧ b'.buffOffset = readable - offset' ∧
      (offset' < readable → ∃ size, packetSize buff offset' = some size ∧
        (size.msb = false → readable - offset' < size.toNat)) := by
  induction fuel generalizing offset with
  | zero => cases h
  | succ fuel ih =>
      rcases Nat.lt_or_ge offset readable with hlt | hge
      · cases hsize : packetSize buff offset with
        | none =>
            rw [parse_outside hlt hsize] at h
            cases h
        | some size =>
            cases hmsb : size.msb with
            | true =>
                rw [parse_negative hlt (Nat.succ_pos _) hsize hmsb] at h
                cases h
                refine ⟨offset, hstart, rfl, fun _ => ⟨size, hsize, fun hpos => ?_⟩⟩
                rw [hmsb] at hpos
                cases hpos
            | false =>
                rcases Nat.lt_or_ge (readable - offset) size.toNat with hpart | hwhole
                · rw [parse_part hlt (Nat.succ_pos _) hsize hmsb hpart] at h
                  cases h
                  exact ⟨offset, hstart, rfl, fun _ => ⟨size, hsize, fun _ => hpart⟩⟩
                · obtain ⟨p, hp⟩ := fromSlice_of_size hsize hmsb
                  have hround : round buff readable offset = some (p, offset + size.toNat) :=
                    round_eq_some.mpr ⟨hlt, size, hsize, hmsb, hwhole, hp, rfl⟩
                  rw [parse_of_round hround] at h
                  exact ih (hstart.round hround) h
      · rw [parse_done hge (Nat.succ_pos _)] at h
        cases h
        exact ⟨offset, hstart, by simp [Nat.sub_eq_zero_of_le hge], fun hlt => absurd hge (by omega)⟩

/-- Where the second byte of every length is there, only the end of the fuel keeps the loop from
a further read. -/
theorem parse_unfinished
    (hsizes : ∀ o, PacketStart buff readable o → o < readable → packetSize buff o ≠ none)
    (hstart : PacketStart buff readable offset) (h : (parse buff readable fuel offset).rest = none) :
    Iteration.after (nextOffset buff readable) offset fuel ≠ none := by
  induction fuel generalizing offset with
  | zero => exact Option.some_ne_none _
  | succ fuel ih =>
      rw [Iteration.after_succ']
      rcases Nat.lt_or_ge offset readable with hlt | hge
      · obtain ⟨size, hsize⟩ := Option.ne_none_iff_exists'.mp (hsizes offset hstart hlt)
        cases hmsb : size.msb with
        | true =>
            rw [parse_negative hlt (Nat.succ_pos _) hsize hmsb] at h
            cases h
        | false =>
            rcases Nat.lt_or_ge (readable - offset) size.toNat with hpart | hwhole
            · rw [parse_part hlt (Nat.succ_pos _) hsize hmsb hpart] at h
              cases h
            · obtain ⟨p, hp⟩ := fromSlice_of_size hsize hmsb
              have hround : round buff readable offset = some (p, offset + size.toNat) :=
                round_eq_some.mpr ⟨hlt, size, hsize, hmsb, hwhole, hp, rfl⟩
              rw [parse_of_round hround] at h
              simpa [nextOffset, hround] using ih (hstart.round hround) h
      · rw [parse_done hge (Nat.succ_pos _)] at h
        cases h

/-- A loop that ends does so within a round for each byte. -/
theorem after_of_ends (h : Iteration.Ends (nextOffset buff readable) 0) :
    Iteration.after (nextOffset buff readable) 0 (readable + 1) = none := by
  have hfinishes : Finishes buff readable := by
    refine finishes_iff.mpr fun offset hstart hlt hzero => ?_
    obtain ⟨rounds, hrounds⟩ := packetStart_iff.mp hstart
    have hsize : (headerSize 0xFE 0xFF).toNat = 0 := headerSize_eq_zero.mpr ⟨rfl, rfl⟩
    have hfix : nextOffset buff readable offset = some offset :=
      nextOffset_eq_some.mpr
        ⟨0xFE, 0xFF, hlt, hzero.1, hzero.2, by decide, by omega, by omega⟩
    exact Iteration.not_ends_of_fixed hrounds hfix h
  by_contra hgoes
  obtain ⟨offset, hoffset⟩ := Option.ne_none_iff_exists'.mp hgoes
  have hcount := Iteration.le_measure id hfinishes.ahead (readable + 1) offset hoffset
  have hle := (packetStart_iff.mpr ⟨_, hoffset⟩).le
  simp only [id_eq] at hcount
  omega

/-! ### A tame buffer -/

namespace Tame

theorem indexed (h : Tame buff readable) (hlen : buff.length = i16Max) (hle : readable ≤ i16Max)
    (hstart : PacketStart buff readable offset) (hlt : offset < readable) :
    offset + 1 < buff.length := by
  rw [hlen]
  by_contra hge
  have hlast : offset = i16Max - 1 := by omega
  exact h.lastByte (by omega) (hlast ▸ hstart)

theorem packetSize_ne_none (h : Tame buff readable) (hlen : buff.length = i16Max)
    (hle : readable ≤ i16Max) (hstart : PacketStart buff readable offset) (hlt : offset < readable) :
    packetSize buff offset ≠ none := by
  have hnext := h.indexed hlen hle hstart hlt
  simp [packetSize, List.getElem?_eq_getElem hnext,
    List.getElem?_eq_getElem (Nat.lt_of_succ_lt hnext)]

theorem rounds (h : Tame buff readable) (hlen : buff.length = i16Max) (hle : readable ≤ i16Max) :
    RoundsInBounds buff readable where
  indexed := fun _ => h.indexed hlen hle
  sums := by
    intro offset lo hi hstart hlt hlo hhi
    refine saddOverflow_iff.mpr fun h7F => ?_
    subst h7F
    exact h.short offset lo hstart hlt hlo hhi
  parsed := by
    intro offset size hstart hlt hsize hpos hwhole
    obtain ⟨p, hp⟩ := fromSlice_of_size hsize hpos
    have hslice : slice buff offset (offset + size.toNat)
        = some ((buff.drop offset).take size.toNat) := by
      refine slice_eq_some.mpr ⟨⟨Nat.le_add_right _ _, by omega⟩, ?_⟩
      rw [Nat.add_sub_cancel_left]
    exact ⟨p, by rw [hslice]; exact hp⟩
  ranges := fun offset hstart => ⟨hstart.le, by omega, by omega⟩

theorem goesOn (h : Tame buff readable) (hlen : buff.length = i16Max) (hle : readable ≤ i16Max)
    (hnone : (parse buff readable (readable + 1) 0).rest = none) :
    ¬ Iteration.Ends (nextOffset buff readable) 0 := by
  intro hends
  have hsizes : ∀ o, PacketStart buff readable o → o < readable → packetSize buff o ≠ none :=
    fun o => h.packetSize_ne_none hlen hle
  exact parse_unfinished hsizes .first hnone (after_of_ends hends)

/-- Only a negative size at the front of a full buffer leaves no room. -/
theorem room (h : Tame buff readable) (hle : readable ≤ i16Max)
    (hrest : (parse buff readable fuel 0).rest = some b') : b'.buffOffset < i16Max := by
  obtain ⟨offset, -, hoffset, hleft⟩ := parse_left .first hrest
  rw [hoffset]
  by_contra hfull
  have hpos : 0 < i16Max := by decide
  obtain rfl : offset = 0 := by omega
  have hreadable : readable = i16Max := by omega
  obtain ⟨size, hsize, hbig⟩ := hleft (by omega)
  obtain ⟨lo, hi, hlo, hhi, rfl⟩ := packetSize_eq_some.mp hsize
  cases hmsb : (headerSize lo hi).msb with
  | true =>
      rcases headerSize_msb.mp hmsb with ⟨hneg, hlow⟩ | ⟨rfl, hlarge⟩
      · exact hlow (h.front hreadable lo hi hlo hhi hneg)
      · have hlt := h.short 0 lo .first (by omega) hlo hhi
        rw [UInt8.lt_iff_toNat_lt] at hlt
        rw [UInt8.le_iff_toNat_le] at hlarge
        omega
  | false =>
      have hlarge := hbig hmsb
      rw [BitVec.msb_eq_false_iff_two_mul_lt] at hmsb
      unfold i16Max at hreadable
      omega

end Tame

/-! ### One read -/

/-- **A read stays in bounds exactly when the buffer it fills is tame.** -/
theorem inBounds_iff (hb : b.Sized) (hfits : b.buffOffset + chunk.length ≤ i16Max) :
    InBounds b chunk ↔ Tame (b.fill chunk) (b.buffOffset + chunk.length) := by
  have hlen := hb.fill_length hfits
  constructor
  · intro h
    refine { lastByte := ?_, short := ?_, front := ?_ }
    · intro hfull hstart
      have hpos : 0 < i16Max := by decide
      have hnext := h.indexed _ hstart (by omega)
      omega
    · intro offset lo hstart hlt hlo hhi
      exact saddOverflow_iff.mp (h.sums offset lo 0x7F hstart hlt hlo hhi) rfl
    · intro hfull lo hi hlo hhi hneg
      by_contra hlow
      have hsize : packetSize (b.fill chunk) 0 = some (headerSize lo hi) :=
        packetSize_eq_some.mpr ⟨lo, hi, hlo, hhi, rfl⟩
      have hmsb : (headerSize lo hi).msb = true := headerSize_msb.mpr (Or.inl ⟨hneg, hlow⟩)
      have hpos : 0 < b.buffOffset + chunk.length := by
        rw [hfull]
        decide
      -- the loop is left at once and keeps the whole buffer
      have hread : (b.read chunk).rest = some { buff := b.fill chunk, buffOffset := i16Max } := by
        rw [ReadBuffer.read, parse_negative hpos (Nat.succ_pos _) hsize hmsb, Nat.sub_zero, hfull]
      exact Nat.lt_irrefl _ (h.room _ hread)
  · intro h
    exact {
      toRoundsInBounds := h.rounds hlen hfits
      goesOn := h.goesOn hlen hfits
      room := fun _ => h.room hfits }

/-! ### Every read of a connection -/

/-- What was received leaves a buffer that the next read fits into. -/
theorem Fits.after (hb : b.Sized) (hfits : b.Fits (done ++ chunk :: later))
    (h : (b.receive done).rest = some b') :
    b'.Sized ∧ b'.buffOffset + chunk.length ≤ i16Max := by
  induction done generalizing b with
  | nil =>
      cases h
      exact ⟨hb, hfits.2.1⟩
  | cons first done ih =>
      obtain ⟨-, hroom, hnext⟩ := hfits
      cases hread : (b.read first).rest with
      | none =>
          rw [receive_stuck hread] at h
          cases h
      | some b₁ =>
          rw [receive_cons hread] at h
          exact ih (hb.read_rest hroom hread).1 (hnext b₁ hread) h

theorem sized_new : ReadBuffer.new.Sized :=
  { full := List.length_replicate, inside := Nat.zero_le _ }

end

/-- **The reader stays in bounds exactly when every read leaves the buffer tame.** -/
theorem staysInBounds_iff {chunks : List Bytes} (hfits : ReadBuffer.new.Fits chunks) :
    StaysInBounds chunks ↔
      ∀ done chunk later b, chunks = done ++ chunk :: later →
        (ReadBuffer.new.receive done).rest = some b →
        Tame (b.fill chunk) (b.buffOffset + chunk.length) := by
  refine forall_congr' fun done => forall_congr' fun chunk => forall_congr' fun later =>
    forall_congr' fun b => forall_congr' fun hsplit => forall_congr' fun hrest => ?_
  rw [hsplit] at hfits
  obtain ⟨hsized, hroom⟩ := Fits.after sized_new hfits hrest
  exact inBounds_iff hsized hroom

/-- Every read leaves room in the buffer, and no byte that begins one of the longest packets. -/
def Calm : ReadBuffer → List Bytes → Prop
  | _, [] => True
  | b, chunk :: chunks =>
    b.buffOffset + chunk.length < i16Max ∧
      0x7F ∉ (b.fill chunk).take (b.buffOffset + chunk.length + 1) ∧
      ∀ b', (b.read chunk).rest = some b' → Calm b' chunks

instance instDecidableCalm : (b : ReadBuffer) → (chunks : List Bytes) → Decidable (b.Calm chunks)
  | _, [] => isTrue trivial
  | b, chunk :: chunks =>
    have := fun b' => instDecidableCalm b' chunks
    inferInstanceAs (Decidable (b.buffOffset + chunk.length < i16Max ∧
      0x7F ∉ (b.fill chunk).take (b.buffOffset + chunk.length + 1) ∧
      ∀ b' ∈ (b.read chunk).rest, Calm b' chunks))

/-- A calm connection leaves the buffer tame. -/
theorem Calm.tame {done later : List Bytes} {chunk : Bytes} {b b' : ReadBuffer}
    (h : b.Calm (done ++ chunk :: later)) (hrest : (b.receive done).rest = some b') :
    Tame (b'.fill chunk) (b'.buffOffset + chunk.length) := by
  induction done generalizing b with
  | nil =>
      obtain rfl : b = b' := Option.some.inj hrest
      obtain ⟨hroom, hmissing, -⟩ := h
      refine {
        lastByte := fun hfull => absurd hfull hroom.ne
        short := fun offset lo _ hlt _ hhi => absurd ?_ hmissing
        front := fun hfull => absurd hfull hroom.ne }
      refine List.mem_of_getElem? (i := offset + 1) ?_
      rw [List.getElem?_take_of_lt (by omega)]
      exact hhi
  | cons first done ih =>
      cases hread : (b.read first).rest with
      | none =>
          rw [receive_stuck hread] at hrest
          cases hrest
      | some mid =>
          rw [receive_cons hread] at hrest
          exact ih (h.2.2 mid hread) hrest

/-- Three requests, cut inside a length, inside a payload and in front of an action. -/
def cutRequests : List Bytes := [[1, 0, 0x81, 5], [0, 0x83, 0], [0, 0, 0, 1, 0], [0x89]]

/-- They are read one after the other, and no read leaves the bounds. -/
theorem staysInBounds_cut : ReadBuffer.new.Fits cutRequests ∧
    (ReadBuffer.new.receive cutRequests).delivered.map Packet.action
      = [.gamesListQuery, .attachToGame, .serverTimeQuery] ∧ StaysInBounds cutRequests := by
  have hfits : ReadBuffer.new.Fits cutRequests := by decide +kernel
  have hcalm : ReadBuffer.new.Calm cutRequests := by decide +kernel
  refine ⟨hfits, by decide +kernel, (staysInBounds_iff hfits).mpr ?_⟩
  intro done chunk later b hsplit hrest
  exact Calm.tame (hsplit ▸ hcalm) hrest

section

variable {chunk : Bytes}

theorem fits_single (hne : chunk ≠ []) (hle : chunk.length ≤ i16Max) :
    ReadBuffer.new.Fits [chunk] :=
  ⟨hne, by simpa [new] using hle, fun _ _ => trivial⟩

/-- A first read fills the buffer from its front. -/
theorem StaysInBounds.tame (h : StaysInBounds [chunk]) (hfits : ReadBuffer.new.Fits [chunk]) :
    Tame (ReadBuffer.new.fill chunk) chunk.length := by
  have htame := (staysInBounds_iff hfits).mp h [] chunk [] ReadBuffer.new rfl rfl
  simpa [new] using htame

theorem fill_new (hfull : chunk.length = i16Max) : ReadBuffer.new.fill chunk = chunk := by
  simp [fill, new, hfull]

end

/-- A full buffer: a packet of 32766 bytes, and one byte of the next. -/
def endsInLength : Bytes := 0xFC :: 0x7F :: List.replicate 32765 0

/-- A full buffer that begins with a negative length. -/
def startsNegative : Bytes := 0x00 :: 0x80 :: List.replicate 32765 0

theorem endsInLength_length : endsInLength.length = i16Max := by
  rw [endsInLength, List.length_cons, List.length_cons, List.length_replicate]
  rfl

theorem startsNegative_length : startsNegative.length = i16Max := by
  rw [startsNegative, List.length_cons, List.length_cons, List.length_replicate]
  rfl

/-- The reader looks behind the end of the buffer, is left without room, and adds 2 to 32766. -/
theorem staysInBounds_fails :
    (ReadBuffer.new.Fits [endsInLength] ∧ ¬ StaysInBounds [endsInLength]) ∧
      (ReadBuffer.new.Fits [startsNegative] ∧ ¬ StaysInBounds [startsNegative]) ∧
      ReadBuffer.new.Fits [[0xFE, 0x7F]] ∧ ¬ StaysInBounds [[0xFE, 0x7F]] := by
  have hlast : ReadBuffer.new.Fits [endsInLength] :=
    fits_single (List.cons_ne_nil _ _) endsInLength_length.le
  have hfront : ReadBuffer.new.Fits [startsNegative] :=
    fits_single (List.cons_ne_nil _ _) startsNegative_length.le
  have hlarge : ReadBuffer.new.Fits [[0xFE, 0x7F]] := fits_single (List.cons_ne_nil _ _) (by decide)
  refine ⟨⟨hlast, fun h => ?_⟩, ⟨hfront, fun h => ?_⟩, hlarge, fun h => ?_⟩
  · have htame := h.tame hlast
    rw [fill_new endsInLength_length, endsInLength_length] at htame
    have hsize : (headerSize 0xFC 0x7F).toNat = i16Max - 1 := by decide
    have hstart : PacketStart endsInLength i16Max (0 + (headerSize 0xFC 0x7F).toNat) :=
      .next .first (by decide) rfl rfl (by decide) (by decide)
    rw [hsize, Nat.zero_add] at hstart
    exact htame.lastByte rfl hstart
  · have htame := h.tame hfront
    rw [fill_new startsNegative_length, startsNegative_length] at htame
    exact absurd (htame.front rfl 0x00 0x80 rfl rfl (by decide)) (by decide)
  · exact absurd ((h.tame hlarge).short 0 0xFE .first (by decide) rfl rfl) (by decide)

end ReadBuffer

end VangersSrv
