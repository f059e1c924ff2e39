/-
Game objects: `vanject.rs`.

An object id is an `i32` that packs, from the low bits up, a counter (16 bits), the
type (6 bits), the world (4 bits), the station (5 bits) and the static flag (bit 31).
Nothing else says which world or player an object belongs to, so every check a
handler makes on an object is a check on bits of its id.
-/
import VangersSrv.Protocol

namespace VangersSrv

/-! ### Object ids -/

namespace NID

def device : I32 := 1#32 <<< 16
def slot : I32 := 2#32 <<< 16
def shell : I32 := 3#32 <<< 16
def vanger : I32 := 9#32 <<< 16
def stuff : I32 := 11#32 <<< 16

end NID

def getStation (id : I32) : I32 := (id.sshiftRight 26) &&& 31#32

def getWorld (id : I32) : I32 := (id.sshiftRight 22) &&& 15#32

def getVanjectType (id : I32) : I32 := id &&& (63#32 <<< 16)

def isNonStatic (id : I32) : Bool := id &&& (1#32 <<< 31) = 0#32

def isNonGlobalVanject (id : I32) : Bool := ((id >>> 16) &&& 63#32) ≠ 0#32

/-- `7 << 16 + 3` shifts by 19: addition binds tighter than the shift. -/
def isPlayersVanject (id : I32) : Bool := id &&& (7#32 <<< (16 + 3)) = 0#32

def isPrivateVanject (id : I32) : Bool :=
  (8#32).sle ((id.sshiftRight 16) &&& 63#32) && ((id.sshiftRight 16) &&& 63#32).sle 10#32

/-- The six type bits, shifted down. -/
theorem typeBits_eq (id : I32) : (id >>> 16) &&& 63#32 = getVanjectType id >>> 16 := by
  unfold getVanjectType
  rw [BitVec.ushiftRight_and_distrib]
  rfl

/-- Only the type decides whether an object is global. -/
theorem isNonGlobalVanject_of_type {id : I32} {t : I32} (h : getVanjectType id = t) :
    isNonGlobalVanject id = decide (t >>> 16 ≠ 0#32) := by
  unfold isNonGlobalVanject
  rw [typeBits_eq, h]

/-- The six type bits stand clear of the sign. -/
theorem sshiftRight_typeBits (id : I32) :
    (id.sshiftRight 16) &&& 63#32 = (id >>> 16) &&& 63#32 := by
  have hmask : ∀ i : Fin 32, 16 ≤ i.1 → (63#32)[i] = false := by decide
  ext i hi
  simp only [BitVec.getElem_and, BitVec.getElem_sshiftRight, BitVec.getElem_ushiftRight]
  by_cases h : 16 + i < 32
  · rw [dif_pos h, BitVec.getLsbD_eq_getElem h]
  · have hzero : (63#32)[i] = false := hmask ⟨i, hi⟩ (by simp only; omega)
    rw [hzero, Bool.and_false, Bool.and_false]

/-- Only the type decides whether an object is a player's. -/
theorem isPlayersVanject_of_type {id t : I32} (h : getVanjectType id = t) :
    isPlayersVanject id = decide (t &&& (7#32 <<< (16 + 3)) = 0#32) := by
  unfold isPlayersVanject
  rw [← h, getVanjectType, BitVec.and_assoc]
  rfl

/-- Only the type decides whether an object is private. -/
theorem isPrivateVanject_of_type {id t : I32} (h : getVanjectType id = t) :
    isPrivateVanject id = ((8#32).sle (t >>> 16) && (t >>> 16).sle 10#32) := by
  unfold isPrivateVanject
  rw [sshiftRight_typeBits, typeBits_eq, h]

/-- The parts of an object id. -/
structure DecodedVanjectId where
  id : I32
  station : I32
  world : I32
  typeId : I32
  counter : I32
  global : Bool
  privateObject : Bool
  playersObject : Bool
  staticObject : Bool
  deriving DecidableEq, Repr

def DecodedVanjectId.new (id : I32) : DecodedVanjectId :=
  { id
    station := getStation id
    world := getWorld id
    typeId := (id.sshiftRight 16) &&& 63#32
    counter := id &&& 0xffff#32
    global := !isNonGlobalVanject id
    privateObject := isPrivateVanject id
    playersObject := isPlayersVanject id
    staticObject := !isNonStatic id }

/-- `x as u8` of an `i32`. -/
def asU8 (x : I32) : UInt8 := UInt8.ofNat x.toNat

/-- `x as i32` of a `u8`. -/
def asI32 (x : UInt8) : I32 := BitVec.ofNat 32 x.toNat

/-- The world of an object id as the `u8` that worlds are numbered by. -/
def worldOf (id : I32) : UInt8 := asU8 (getWorld id)

/-! ### Positions -/

structure Pos where
  x : I16
  y : I16
  deriving DecidableEq, Repr

namespace Pos

def default : Pos := { x := 0, y := 0 }

/-- `None` when the slice is not four bytes long. -/
def fromSlice (s : Bytes) : Option (Option Pos) :=
  if s.length ≠ 4 then some none
  else do
    let x ← sliceLeToI16 (← slice s 0 2)
    let y ← sliceLeToI16 (← slice s 2 4)
    some (some { x, y })

def toVangersByte (p : Pos) : Bytes := toLeBytes16 p.x ++ toLeBytes16 p.y

end Pos

/-! ### Objects -/

inductive VanjectError
  | sliceTooSmall
  | missmatchId (expected given : I32)
  deriving DecidableEq, Repr

structure Vanject where
  id : I32
  playerBindId : UInt8
  time : I32
  pos : Pos
  radius : I16
  body : Bytes
  deriving DecidableEq, Repr

namespace Vanject

/-- Parses the object a create request carries. -/
def createFromSlice (s : Bytes) : Option (Except VanjectError Vanject) :=
  if s.length < 14 then some (.error .sliceTooSmall)
  else do
    let id ← sliceLeToI32 (← slice s 0 4)
    let time ← sliceLeToI32 (← slice s 4 8)
    let pos ← (← Pos.fromSlice (← slice s 8 12))
    let radius ← sliceLeToI16 (← slice s 12 14)
    if getVanjectType id = NID.vanger then
      -- two more bytes hold half the height of the screen
      if s.length < 16 then some (.error .sliceTooSmall)
      else do
        let body ← sliceFrom s 16
        some (.ok { id, playerBindId := 0, time, pos, radius, body })
    else do
      let body ← sliceFrom s 14
      some (.ok { id, playerBindId := 0, time, pos, radius, body })

/-- Applies an update request to a stored object. -/
def updateFromSlice (v : Vanject) (s : Bytes) : Option (Except VanjectError Vanject) :=
  if s.length < 12 then some (.error .sliceTooSmall)
  else do
    let id ← sliceLeToI32 (← slice s 0 4)
    if id ≠ v.id then some (.error (.missmatchId v.id id))
    else do
      let time ← sliceLeToI32 (← slice s 4 8)
      let pos ← (← Pos.fromSlice (← slice s 8 12))
      if getVanjectType id = NID.vanger then
        if s.length < 14 then some (.error .sliceTooSmall)
        else do
          let body ← sliceFrom s 14
          some (.ok { v with time, pos, body })
      else do
        let body ← sliceFrom s 12
        some (.ok { v with time, pos, body })

/-- The object as it is sent to clients. -/
def toVangersByte (v : Vanject) : Bytes :=
  toLeBytes32 v.id ++ [v.playerBindId] ++ toLeBytes32 v.time ++ toLeBytes16 v.pos.x
    ++ toLeBytes16 v.pos.y ++ v.body

def getType (v : Vanject) : I32 := getVanjectType v.id

def getStation (v : Vanject) : I32 := VangersSrv.getStation v.id

def isPlayers (v : Vanject) : Bool := isPlayersVanject v.id

def isPrivate (v : Vanject) : Bool := isPrivateVanject v.id

def isNonGlobal (v : Vanject) : Bool := isNonGlobalVanject v.id

def isNonStatic (v : Vanject) : Bool := VangersSrv.isNonStatic v.id

def getWorld (v : Vanject) : I32 := VangersSrv.getWorld v.id

/-! ### The forms of a request -/

/-- The id, the time and the position. -/
def head (id time : I32) (pos : Pos) : Bytes := toLeBytes32 id ++ (toLeBytes32 time ++ pos.toVangersByte)

/-- The body in what follows the head and the radius. -/
def bodyOf (id : I32) (rest : Bytes) : Option Bytes :=
  if getVanjectType id = NID.vanger then
    if rest.length < 2 then none else some (rest.drop 2)
  else some rest

/-- How many bytes come before the body, apart from the head and the radius. -/
def screenSize (id : I32) : Nat := if getVanjectType id = NID.vanger then 2 else 0

section

variable {id time : I32} {pos : Pos} {radius : I16} {s t u rest : Bytes} {v w : Vanject}

theorem slice_left {n : Nat} (h : s.length = n) : slice (s ++ t) 0 n = some s := by
  subst h
  exact slice_eq_some.mpr ⟨⟨Nat.zero_le _, by simp⟩, by simp⟩

theorem slice_right {n a b : Nat} (hn : s.length = n) (h : slice t a b = some u) :
    slice (s ++ t) (n + a) (n + b) = some u := by
  subst hn
  exact slice_of_header h

theorem sliceFrom_right {n a : Nat} (hn : s.length = n) (ha : a ≤ t.length) :
    sliceFrom (s ++ t) (n + a) = some (t.drop a) := by
  subst hn
  refine sliceFrom_eq_some.mpr ⟨?_, List.drop_length_add_append a⟩
  rw [List.length_append]
  exact Nat.add_le_add_left ha _

theorem length_pos_toVangersByte (p : Pos) : p.toVangersByte.length = 4 := by
  simp [Pos.toVangersByte]

theorem pos_fromSlice_toVangersByte (p : Pos) : Pos.fromSlice p.toVangersByte = some (some p) := by
  have hx : slice p.toVangersByte 0 2 = some (toLeBytes16 p.x) := slice_left (length_toLeBytes16 p.x)
  have hy : slice p.toVangersByte 2 4 = some (toLeBytes16 p.y) := by
    have hlast : slice (toLeBytes16 p.y) 0 2 = some (toLeBytes16 p.y) := by
      have hall := slice_left (t := []) (length_toLeBytes16 p.y)
      rwa [List.append_nil] at hall
    exact slice_right (length_toLeBytes16 p.x) hlast
  unfold Pos.fromSlice
  rw [if_neg (by simp [length_pos_toVangersByte])]
  simp only [hx, hy, sliceLeToI16_toLeBytes16, Option.bind_eq_bind, Option.bind_some]

theorem length_head (id time : I32) (pos : Pos) : (head id time pos).length = 12 := by
  simp [head, length_pos_toVangersByte]

theorem slice_head_id : slice (head id time pos ++ rest) 0 4 = some (toLeBytes32 id) := by
  rw [head, List.append_assoc]
  exact slice_left (length_toLeBytes32 id)

theorem slice_head_time : slice (head id time pos ++ rest) 4 8 = some (toLeBytes32 time) := by
  rw [head, List.append_assoc, List.append_assoc]
  exact slice_right (length_toLeBytes32 id) (slice_left (length_toLeBytes32 time))

theorem slice_head_pos : slice (head id time pos ++ rest) 8 12 = some pos.toVangersByte := by
  rw [head, List.append_assoc, List.append_assoc]
  exact slice_right (length_toLeBytes32 id)
    (slice_right (a := 0) (b := 4) (length_toLeBytes32 time) (slice_left (length_pos_toVangersByte pos)))

/-- Two bytes are read as the integer that is written as them. -/
theorem exists_toLeBytes16 (h : s.length = 2) : ∃ x, toLeBytes16 x = s := by
  refine ⟨BitVec.ofNat 16 (LittleEndian.toNat s), ?_⟩
  have hlt := LittleEndian.toNat_lt s
  have hback := LittleEndian.ofNat_toNat s
  rw [h] at hlt hback
  have hval : LittleEndian.toNat s % 2 ^ 16 = LittleEndian.toNat s := Nat.mod_eq_of_lt hlt
  rw [toLeBytes16, BitVec.toNat_ofNat, hval, hback]

theorem exists_toLeBytes32 (h : s.length = 4) : ∃ x, toLeBytes32 x = s := by
  obtain ⟨x, hx⟩ := sliceLeToI32_isSome h
  exact ⟨x, toLeBytes32_of_sliceLeToI32 hx⟩

theorem take_four_head : (head id time pos ++ rest).take 4 = toLeBytes32 id := by
  rw [head, List.append_assoc, List.take_left' (length_toLeBytes32 id)]

/-- Twelve bytes are a head. -/
theorem exists_head (h : 12 ≤ s.length) : ∃ id time pos, s = head id time pos ++ s.drop 12 := by
  obtain ⟨id, hid⟩ := exists_toLeBytes32 (s := s.take 4) (by rw [List.length_take]; omega)
  obtain ⟨time, htime⟩ := exists_toLeBytes32 (s := (s.drop 4).take 4)
    (by rw [List.length_take, List.length_drop]; omega)
  obtain ⟨x, hx⟩ := exists_toLeBytes16 (s := (s.drop 8).take 2)
    (by rw [List.length_take, List.length_drop]; omega)
  obtain ⟨y, hy⟩ := exists_toLeBytes16 (s := (s.drop 10).take 2)
    (by rw [List.length_take, List.length_drop]; omega)
  refine ⟨id, time, { x, y }, ?_⟩
  have hsplit : s.take (4 + (4 + (2 + 2))) = head id time { x, y } := by
    rw [List.take_add, List.take_add, List.take_add, List.drop_drop, List.drop_drop]
    rw [head, Pos.toVangersByte, hid, htime, hx, hy]
  rw [← hsplit, List.take_append_drop]

/-- Two more bytes are a radius. -/
theorem exists_head_radius (h : 14 ≤ s.length) :
    ∃ id time pos radius, s = head id time pos ++ (toLeBytes16 radius ++ s.drop 14) := by
  obtain ⟨id, time, pos, hs⟩ := exists_head (Nat.le_of_add_right_le (k := 2) h)
  obtain ⟨radius, hradius⟩ := exists_toLeBytes16 (s := (s.drop 12).take 2)
    (by rw [List.length_take, List.length_drop]; omega)
  refine ⟨id, time, pos, radius, ?_⟩
  have hdrop : s.drop 14 = (s.drop 12).drop 2 := by rw [List.drop_drop]
  rw [hradius, hdrop, List.take_append_drop, ← hs]

/-- A create request is parsed field by field. -/
theorem createFromSlice_head :
    createFromSlice (head id time pos ++ (toLeBytes16 radius ++ rest)) = some (
      match bodyOf id rest with
      | none => .error .sliceTooSmall
      | some body => .ok { id, playerBindId := 0, time, pos, radius, body }) := by
  have hradius : slice (head id time pos ++ (toLeBytes16 radius ++ rest)) 12 14
      = some (toLeBytes16 radius) :=
    slice_right (length_head id time pos) (slice_left (length_toLeBytes16 radius))
  have hlen : (head id time pos ++ (toLeBytes16 radius ++ rest)).length = 14 + rest.length := by
    rw [List.length_append, List.length_append, length_head, length_toLeBytes16, ← Nat.add_assoc]
  have hbody : ∀ n, n ≤ rest.length → sliceFrom (head id time pos ++ (toLeBytes16 radius ++ rest)) (14 + n)
      = some (rest.drop n) := by
    intro n hn
    rw [← List.append_assoc]
    exact sliceFrom_right (by rw [List.length_append, length_head, length_toLeBytes16]) hn
  unfold createFromSlice bodyOf
  rw [if_neg (by omega), hlen]
  simp only [slice_head_id, slice_head_time, slice_head_pos, hradius, pos_fromSlice_toVangersByte,
    sliceLeToI32_toLeBytes32, sliceLeToI16_toLeBytes16, Option.bind_eq_bind, Option.bind_some]
  by_cases htype : getVanjectType id = NID.vanger
  · by_cases hrest : rest.length < 2
    · have hshort : 14 + rest.length < 16 := by omega
      simp [htype, hrest, hshort]
    · have hlong : ¬ 14 + rest.length < 16 := by omega
      simp [htype, hrest, hlong, hbody 2 (by omega)]
  · simp [htype, hbody 0 (Nat.zero_le _)]

/-- An update request is parsed field by field. -/
theorem updateFromSlice_head :
    v.updateFromSlice (head id time pos ++ rest) = some (
      if id ≠ v.id then .error (.missmatchId v.id id)
      else
        match bodyOf id rest with
        | none => .error .sliceTooSmall
        | some body => .ok { v with time, pos, body }) := by
  have hlen : (head id time pos ++ rest).length = 12 + rest.length := by
    rw [List.length_append, length_head]
  have hbody : ∀ n, n ≤ rest.length → sliceFrom (head id time pos ++ rest) (12 + n) = some (rest.drop n) :=
    fun n hn => sliceFrom_right (length_head id time pos) hn
  unfold updateFromSlice bodyOf
  rw [if_neg (by omega), hlen]
  simp only [slice_head_id, slice_head_time, slice_head_pos, pos_fromSlice_toVangersByte,
    sliceLeToI32_toLeBytes32, Option.bind_eq_bind, Option.bind_some]
  by_cases hid : id ≠ v.id
  · simp [hid]
  by_cases htype : getVanjectType id = NID.vanger
  · by_cases hrest : rest.length < 2
    · have hshort : 12 + rest.length < 14 := by omega
      simp [hid, htype, hrest, hshort]
    · have hlong : ¬ 12 + rest.length < 14 := by omega
      simp [hid, htype, hrest, hlong, hbody 2 (by omega)]
  · simp [hid, htype, hbody 0 (Nat.zero_le _)]

theorem createSize_eq (id : I32) :
    (if getVanjectType id = NID.vanger then 16 else 14) = 14 + screenSize id := by
  unfold screenSize
  split <;> rfl

theorem updateSize_eq (id : I32) :
    (if getVanjectType id = NID.vanger then 14 else 12) = 12 + screenSize id := by
  unfold screenSize
  split <;> rfl

theorem bodyOf_eq_some {id : I32} {body : Bytes} :
    bodyOf id rest = some body ↔ screenSize id ≤ rest.length ∧ body = rest.drop (screenSize id) := by
  unfold bodyOf screenSize
  by_cases htype : getVanjectType id = NID.vanger
  · by_cases hrest : rest.length < 2
    · simp [htype, hrest]
    · simp only [htype, if_true, if_neg hrest, Option.some.injEq]
      exact ⟨fun h => ⟨by omega, h.symm⟩, fun h => h.2.symm⟩
  · simp [htype, eq_comm]

theorem bodyOf_eq_none {id : I32} : bodyOf id rest = none ↔ rest.length < screenSize id := by
  unfold bodyOf screenSize
  by_cases htype : getVanjectType id = NID.vanger <;> simp [htype]

/-! ### What the two parsers accept -/

theorem createFromSlice_short (h : s.length < 14) : createFromSlice s = some (.error .sliceTooSmall) := by
  unfold createFromSlice
  rw [if_pos h]

theorem updateFromSlice_short (h : s.length < 12) :
    v.updateFromSlice s = some (.error .sliceTooSmall) := by
  unfold updateFromSlice
  rw [if_pos h]

/-- A created object has no owner yet, and its body ends the slice. -/
theorem createFromSlice_ok (h : createFromSlice s = some (.ok v)) :
    v.playerBindId = 0 ∧ 14 ≤ s.length ∧ sliceLeToI32 (s.take 4) = some v.id ∧
      v.body = s.drop (if getVanjectType v.id = NID.vanger then 16 else 14) := by
  have hlen : 14 ≤ s.length := by
    by_contra hshort
    rw [createFromSlice_short (Nat.lt_of_not_le hshort)] at h
    cases h
  obtain ⟨id, time, pos, radius, hs⟩ := exists_head_radius hlen
  rw [hs, createFromSlice_head] at h
  cases hbody : bodyOf id (s.drop 14) with
  | none =>
      rw [hbody] at h
      cases h
  | some body =>
      rw [hbody] at h
      cases h
      refine ⟨rfl, hlen, ?_, ?_⟩
      · rw [hs, take_four_head, sliceLeToI32_toLeBytes32]
      · rw [(bodyOf_eq_some.mp hbody).2, List.drop_drop, createSize_eq]

theorem length_of_updateFromSlice (h : v.updateFromSlice s = some (.ok w)) : 12 ≤ s.length := by
  by_contra hshort
  rw [updateFromSlice_short (Nat.lt_of_not_le hshort)] at h
  cases h

/-- An accepted update names the object and keeps its id, owner and radius. -/
theorem updateFromSlice_ok (h : v.updateFromSlice s = some (.ok w)) :
    sliceLeToI32 (s.take 4) = some v.id ∧
      w = { v with time := w.time, pos := w.pos, body := w.body } ∧
      w.body = s.drop (if getVanjectType v.id = NID.vanger then 14 else 12) := by
  obtain ⟨id, time, pos, hs⟩ := exists_head (length_of_updateFromSlice h)
  rw [hs, updateFromSlice_head] at h
  by_cases hid : id ≠ v.id
  · rw [if_pos hid] at h
    cases h
  obtain rfl : id = v.id := by simpa using hid
  rw [if_neg hid] at h
  cases hbody : bodyOf v.id (s.drop 12) with
  | none =>
      rw [hbody] at h
      cases h
  | some body =>
      rw [hbody] at h
      cases h
      refine ⟨?_, rfl, ?_⟩
      · rw [hs, take_four_head, sliceLeToI32_toLeBytes32]
      · rw [(bodyOf_eq_some.mp hbody).2, List.drop_drop, updateSize_eq]

end

/-! ### Reading an announced object back -/

theorem take_toVangersByte (v : Vanject) : v.toVangersByte.take 4 = toLeBytes32 v.id := by
  simp [toVangersByte, List.append_assoc]

theorem length_toVangersByte (v : Vanject) : v.toVangersByte.length = 13 + v.body.length := by
  simp [toVangersByte]
  omega

end Vanject

end VangersSrv
