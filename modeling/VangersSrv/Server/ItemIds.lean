/-
The ids of the two forms of an item.

A transfer compares station, world and counter of the two ids and fixes their types.  That is
every bit of an id but bit 31, the static flag: a transfer may set it or clear it, and what it
says decides whether an update asks for the owner.
-/
import VangersSrv.Server.Transfer

namespace VangersSrv

/-- Two ids that agree in all but the type bits 16 to 21. -/
def SameButType (a b : I32) : Prop := ∀ i, i < 32 → i < 16 ∨ 21 < i → a.getLsbD i = b.getLsbD i

/-- A transfer that goes through in some state. -/
structure ItemTransfer.Accepted (srv : Server) (packet : Packet) (c : ClientID) (t : ItemTransfer) :
    Prop where
  request : ItemTransfer.parse packet = some (.ok t)
  ok : ∃ reply ok, srv.itemTransfer packet c = some reply ∧ reply.result = .ok ok

section

variable {a b : I32} {srv : Server} {packet : Packet} {c : ClientID} {t : ItemTransfer} {i s : Nat}

/-! ### Fields of an id -/

/-- A field of two ids that is the same holds the same bits. -/
theorem getLsbD_of_field {mask : I32} (h : (a.sshiftRight s) &&& mask = (b.sshiftRight s) &&& mask)
    (hmask : mask.getLsbD i = true) (hi : s + i < 32) : a.getLsbD (s + i) = b.getLsbD (s + i) := by
  have hbit := congrArg (BitVec.getLsbD · i) h
  have hlt : ¬ 32 ≤ i := by omega
  simpa [BitVec.getLsbD_and, BitVec.getLsbD_sshiftRight, hmask, hi, hlt] using hbit

/-- Ids of one place agree below the type and from the world up to the station. -/
theorem ItemTransfer.SamePlace.getLsbD (h : ItemTransfer.SamePlace a b)
    (hi : i < 16 ∨ 21 < i ∧ i < 31) : a.getLsbD i = b.getLsbD i := by
  obtain ⟨hstation, hworld, hcounter⟩ := h
  have hmask₅ : ∀ j : Fin 5, (31#32).getLsbD j = true := by decide
  have hmask₄ : ∀ j : Fin 4, (15#32).getLsbD j = true := by decide
  have hmask₁₆ : ∀ j : Fin 16, (0xffff#32).getLsbD j = true := by decide
  rcases hi with hlow | ⟨hhigh, hlt⟩
  · have hbit := congrArg (BitVec.getLsbD · i) hcounter
    simpa [BitVec.getLsbD_and, hmask₁₆ ⟨i, hlow⟩] using hbit
  · rcases Nat.lt_or_ge i 26 with hworld' | hstation'
    · obtain ⟨j, rfl⟩ := Nat.exists_eq_add_of_le (by omega : 22 ≤ i)
      exact getLsbD_of_field hworld (hmask₄ ⟨j, by omega⟩) (by omega)
    · obtain ⟨j, rfl⟩ := Nat.exists_eq_add_of_le hstation'
      exact getLsbD_of_field hstation (hmask₅ ⟨j, by omega⟩) (by omega)

/-- Ids of one place are as alike as their static flags. -/
theorem ItemTransfer.SamePlace.sameButType_iff (h : ItemTransfer.SamePlace a b) :
    SameButType a b ↔ a.getLsbD 31 = b.getLsbD 31 := by
  constructor
  · intro hsame
    exact hsame 31 (by decide) (Or.inr (by decide))
  · intro hflag i hi hout
    by_cases h31 : i = 31
    · rw [h31, hflag]
    · exact h.getLsbD (by omega)

theorem isNonStatic_eq (id : I32) : isNonStatic id = !id.getLsbD 31 := by
  have hset : (1#32 <<< 31).getLsbD 31 = true := by decide
  have hclear : ∀ i : Fin 32, i.1 ≠ 31 → (1#32 <<< 31).getLsbD i = false := by decide
  unfold isNonStatic
  cases hflag : id.getLsbD 31 with
  | true =>
      refine decide_eq_false fun hzero => ?_
      have hbit := congrArg (BitVec.getLsbD · 31) hzero
      rw [BitVec.getLsbD_and, hflag, hset] at hbit
      cases hbit
  | false =>
      refine decide_eq_true (BitVec.eq_of_getLsbD_eq fun i hi => ?_)
      rw [BitVec.getLsbD_and, BitVec.getLsbD_zero]
      by_cases h31 : i = 31
      · rw [h31, hflag, Bool.false_and]
      · rw [hclear ⟨i, hi⟩ h31, Bool.and_false]

/-- Ids of the same type that differ in nothing but the type are the same. -/
theorem SameButType.eq (h : SameButType a b) (htype : getVanjectType a = getVanjectType b) :
    a = b := by
  refine BitVec.eq_of_getLsbD_eq fun i hi => ?_
  by_cases hout : i < 16 ∨ 21 < i
  · exact h i hi hout
  · have hmask : ∀ j : Fin 6, (63#32 <<< 16).getLsbD (16 + j) = true := by decide
    have hbit := congrArg (BitVec.getLsbD · i) htype
    obtain ⟨j, rfl⟩ := Nat.exists_eq_add_of_le (by omega : 16 ≤ i)
    simp only [getVanjectType, BitVec.getLsbD_and] at hbit
    rwa [hmask ⟨j, by omega⟩, Bool.and_true, Bool.and_true] at hbit

/-! ### Accepted transfers -/

theorem ItemTransfer.Accepted.validate (h : ItemTransfer.Accepted srv packet c t) :
    t.validate = .ok () := by
  obtain ⟨reply, ok, hreply, hok⟩ := h.ok
  rcases itemTransfer_cases hreply with ⟨err, hfail⟩ | ⟨_, _, _, _, _, t', _, _, -, -, hparse,
    hvalid, -⟩
  · obtain rfl := Option.some.inj hfail
    cases hok
  · obtain rfl : t = t' := by
      have hsame := h.request.symm.trans hparse
      cases hsame
      rfl
    exact hvalid

theorem ItemTransfer.Accepted.samePlace (h : ItemTransfer.Accepted srv packet c t) :
    ItemTransfer.SamePlace t.oldId t.newVanject.id :=
  (ItemTransfer.validate_ok h.validate).2.1

theorem ItemTransfer.SamePlace.trans {d : I32} (h : ItemTransfer.SamePlace a b)
    (h' : ItemTransfer.SamePlace b d) : ItemTransfer.SamePlace a d :=
  ⟨h.1.trans h'.1, h.2.1.trans h'.2.1, h.2.2.trans h'.2.2⟩

theorem ItemTransfer.Accepted.stuff_of_pickup (h : ItemTransfer.Accepted srv packet c t)
    (hpickup : t.kind = itemTransferPickup) :
    getVanjectType t.oldId = NID.stuff ∧ getVanjectType t.newVanject.id = NID.device := by
  rcases (ItemTransfer.validate_ok h.validate).1 with ⟨-, htypes⟩ | ⟨hdrop, -⟩
  · exact htypes
  · exact absurd (hpickup.symm.trans hdrop) (by decide)

/-- A DEVICE can only be dropped. -/
theorem ItemTransfer.Accepted.stuff_of_device (h : ItemTransfer.Accepted srv packet c t)
    (hdevice : getVanjectType t.oldId = NID.device) : getVanjectType t.newVanject.id = NID.stuff := by
  rcases (ItemTransfer.validate_ok h.validate).1 with ⟨-, hstuff, -⟩ | ⟨-, -, hstuff⟩
  · exact absurd (hdevice.symm.trans hstuff) (by decide)
  · exact hstuff

end

/-- **A transfer changes nothing but the type bits exactly when it leaves bit 31 alone**, and the
drop of a picked up DEVICE brings back the first id exactly when it has that id's bit 31. -/
theorem itemTransfer_sameButType_iff {srv : Server} {packet : Packet} {c : ClientID}
    {t : ItemTransfer} (h : ItemTransfer.Accepted srv packet c t) :
    (SameButType t.oldId t.newVanject.id ∧ isNonStatic t.oldId = isNonStatic t.newVanject.id ↔
        t.oldId.getLsbD 31 = t.newVanject.id.getLsbD 31) ∧
      ∀ srv' packet' c' t', ItemTransfer.Accepted srv' packet' c' t' →
        t.kind = itemTransferPickup → t'.oldId = t.newVanject.id →
        (t'.newVanject.id = t.oldId ↔ t.oldId.getLsbD 31 = t'.newVanject.id.getLsbD 31) := by
  constructor
  · rw [h.samePlace.sameButType_iff, isNonStatic_eq, isNonStatic_eq]
    constructor
    · exact fun hsame => hsame.1
    · exact fun hflag => ⟨hflag, by rw [hflag]⟩
  · intro srv' packet' c' t' h' hpickup hdevice
    have hplace : ItemTransfer.SamePlace t.oldId t'.newVanject.id :=
      h.samePlace.trans (hdevice ▸ h'.samePlace)
    constructor
    · rintro heq
      rw [heq]
    · intro hflag
      have hstuff := h.stuff_of_pickup hpickup
      have hstuff' := h'.stuff_of_device (by rw [hdevice]; exact hstuff.2)
      exact ((hplace.sameButType_iff.mpr hflag).eq (hstuff.1.trans hstuff'.symm)).symm

/-- Two players of one world, and a STUFF in it. -/
def stuffInWorld : List (Env × Input) :=
  [(Env.atTime 0, ask 7 .attachToGame [0, 0, 0, 0]),
    (Env.atTime 0, ask 7 .setWorld [0, 0, 8]),
    (Env.atTime 0, ask 8 .attachToGame [1, 0, 0, 0]),
    (Env.atTime 0, ask 8 .setWorld [0, 0, 8]),
    (Env.atTime 0, ask 7 .createObject [5, 0, 11, 4, 0, 0, 0, 0, 0, 0, 0, 0, 0, 0])]

/-- The second player picks the STUFF up under an id with this top byte. -/
def pickUpAs (top : UInt8) : Packet :=
  request .itemTransfer ([1, 5, 0, 11, 4, 0, 0, 0, 0, 1]
    ++ [5, 0, 1, top, 0, 0, 0, 0, 0, 0, 0, 0, 0, 0] ++ [0, 5, 0, 11, 4])

/-- The request as it is parsed. -/
def pickUp (top : UInt8) : ItemTransfer :=
  { kind := itemTransferPickup
    oldId := 0x040b0005#32
    deleteBody := 1
    newVanject := {
      id := 0x00010005#32 ||| BitVec.ofNat 32 top.toNat <<< 24
      playerBindId := 0
      time := 0
      pos := Pos.default
      radius := 0
      body := [0, 5, 0, 11, 4] } }

theorem accepted_of_play (top : UInt8)
    (hparse : ItemTransfer.parse (pickUpAs top) = some (.ok (pickUp top)))
    (hplay : ((play (Server.new 0) stuffInWorld).map Prod.fst).bind (fun srv => do
      let reply ← srv.itemTransfer (pickUpAs top) 8
      reply.result.toOption) = some .complete) :
    ∃ srv, ServerReachable srv ∧ ItemTransfer.Accepted srv (pickUpAs top) 8 (pickUp top) := by
  obtain ⟨srv, tr, hrun, hfacts⟩ := play_bind hplay
  simp only [Option.bind_eq_bind, Option.bind_eq_some_iff] at hfacts
  obtain ⟨reply, hreply, hok⟩ := hfacts
  exact ⟨srv, ⟨0, tr, hrun⟩, hparse, reply, _, hreply, ok_of_toOption hok⟩

/-- The STUFF and the DEVICE under the ids that belong together. -/
theorem itemTransfer_sameButType_pickup : ∃ srv, ServerReachable srv ∧
    ItemTransfer.Accepted srv (pickUpAs 4) 8 (pickUp 4) ∧
    SameButType (pickUp 4).oldId (pickUp 4).newVanject.id := by
  obtain ⟨srv, hreach, h⟩ := accepted_of_play 4 (by decide +kernel) (by decide +kernel)
  exact ⟨srv, hreach, h, ((itemTransfer_sameButType_iff h).1.mpr (by decide)).1⟩

/-- The DEVICE is static, the STUFF was not. -/
theorem itemTransfer_makes_static : ∃ srv, ServerReachable srv ∧
    ItemTransfer.Accepted srv (pickUpAs 0x84) 8 (pickUp 0x84) ∧
    ¬ SameButType (pickUp 0x84).oldId (pickUp 0x84).newVanject.id ∧
    isNonStatic (pickUp 0x84).oldId = true ∧ isNonStatic (pickUp 0x84).newVanject.id = false := by
  obtain ⟨srv, hreach, h⟩ := accepted_of_play 0x84 (by decide +kernel) (by decide +kernel)
  exact ⟨srv, hreach, h, fun hsame => absurd (hsame 31 (by decide) (by decide)) (by decide),
    by decide, by decide⟩

end VangersSrv
