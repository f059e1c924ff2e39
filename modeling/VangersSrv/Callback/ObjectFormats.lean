/-
The three forms of an object in bytes.

A create request, an update request and the relayed object share their first twelve bytes, the
head.  A create request has the radius after it, and what follows is the same in both requests: two
bytes that only a VANGER has, and the body.
-/
import VangersSrv.Vanject

namespace VangersSrv

namespace Vanject

/-- `update_from_slice` with its receiver: the object after the call, and the result. -/
def updateInPlace (v : Vanject) (s : Bytes) : Option (Vanject × Except VanjectError Unit) :=
  if s.length < 12 then some (v, .error .sliceTooSmall)
  else do
    let id ← sliceLeToI32 (← slice s 0 4)
    if id ≠ v.id then some (v, .error (.missmatchId v.id id))
    else do
      let time ← sliceLeToI32 (← slice s 4 8)
      let pos ← (← Pos.fromSlice (← slice s 8 12))
      if getVanjectType id = NID.vanger then
        if s.length < 14 then some (v, .error .sliceTooSmall)
        else do
          let body ← sliceFrom s 14
          let v := { v with time }
          let v := { v with pos }
          some ({ v with body }, .ok ())
      else do
        let body ← sliceFrom s 12
        let v := { v with time }
        let v := { v with pos }
        some ({ v with body }, .ok ())

section

variable {id time : I32} {pos : Pos} {rest : Bytes}

/-- The object is written when all of the request was read. -/
theorem updateInPlace_eq (v : Vanject) (s : Bytes) :
    v.updateInPlace s = (v.updateFromSlice s).map fun parsed =>
      match parsed with
      | .error err => (v, .error err)
      | .ok w => (w, .ok ()) := by
  unfold updateInPlace updateFromSlice
  simp only [Option.bind_eq_bind, Function.comp_def, apply_ite (Option.map _),
    Option.map_bind, Option.map_some]

/-! ### What the requests agree on -/

theorem take_head : (head id time pos ++ rest).take 12 = head id time pos :=
  List.take_left' (length_head id time pos)

theorem drop_head : (head id time pos ++ rest).drop 12 = rest :=
  List.drop_left' (length_head id time pos)

/-- The relayed object: the owner stands between the id and the time. -/
theorem toVangersByte_head (v : Vanject) (rest : Bytes) :
    v.toVangersByte = toLeBytes32 v.id ++ [v.playerBindId]
      ++ ((head v.id v.time v.pos ++ rest).drop 4).take 8 ++ v.body := by
  have hrest : ((head v.id v.time v.pos ++ rest).drop 4).take 8
      = toLeBytes32 v.time ++ v.pos.toVangersByte := by
    rw [head, List.append_assoc, List.drop_left' (length_toLeBytes32 v.id)]
    exact List.take_left' (by simp [length_pos_toVangersByte])
  rw [hrest, toVangersByte, Pos.toVangersByte]
  simp only [List.append_assoc]

/-- An update succeeds when it is long enough and names the object, and else changes nothing.  It
keeps the id, the radius and the owner, and what is relayed then is what is relayed of a new object
whose request has any radius put in. -/
def UpdateExact (v : Vanject) (u : Bytes) : Prop :=
  ∃ v' result, v.updateInPlace u = some (v', result) ∧
    (result = .ok () ↔
      (if v.getType = NID.vanger then 14 else 12) ≤ u.length ∧ u.take 4 = toLeBytes32 v.id) ∧
    (result ≠ .ok () → v' = v) ∧
    (result = .ok () → v'.id = v.id ∧ v'.radius = v.radius ∧ v'.playerBindId = v.playerBindId ∧
      ∀ radius, ∃ w,
        createFromSlice (u.take 12 ++ toLeBytes16 radius ++ u.drop 12) = some (.ok w) ∧
        { w with playerBindId := v'.playerBindId }.toVangersByte = v'.toVangersByte)

/-- A create request succeeds when it is long enough, and is relayed with the owner after the id
and without the radius. -/
def CreateExact (s : Bytes) : Prop :=
  ∃ result, createFromSlice s = some result ∧
    ((∃ v, result = .ok v) ↔ ∃ id, sliceLeToI32 (s.take 4) = some id ∧
      (if getVanjectType id = NID.vanger then 16 else 14) ≤ s.length) ∧
    ∀ v, result = .ok v → ∀ owner,
      { v with playerBindId := owner }.toVangersByte = s.take 4 ++ [owner] ++ (s.drop 4).take 8
        ++ s.drop (if v.getType = NID.vanger then 16 else 14)

/-- An update that fails leaves the object as it was, so all there is to show is that it had to. -/
theorem UpdateExact.of_error {v : Vanject} {u : Bytes} {err : VanjectError}
    (h : v.updateFromSlice u = some (.error err))
    (hnot : ¬ ((if v.getType = NID.vanger then 14 else 12) ≤ u.length ∧ u.take 4 = toLeBytes32 v.id)) :
    v.UpdateExact u := by
  refine ⟨v, .error err, ?_, iff_of_false (by simp) hnot, fun _ => rfl, by simp⟩
  rw [updateInPlace_eq, h]
  rfl

theorem updateInPlace_exact (v : Vanject) (u : Bytes) : v.UpdateExact u := by
  by_cases hlen : u.length < 12
  · refine .of_error (updateFromSlice_short hlen) fun h => ?_
    have hsize := h.1
    split at hsize <;> omega
  obtain ⟨id, time, pos, hu⟩ := exists_head (Nat.le_of_not_lt hlen)
  generalize u.drop 12 = rest at hu
  subst hu
  have hparsed : v.updateFromSlice (head id time pos ++ rest) = _ := updateFromSlice_head
  by_cases hid : id ≠ v.id
  · rw [if_pos hid] at hparsed
    refine .of_error hparsed fun h => hid ?_
    rw [take_four_head] at h
    exact toLeBytes32_injective h.2
  obtain rfl : id = v.id := by simpa using hid
  rw [if_neg hid] at hparsed
  have hsize : (if v.getType = NID.vanger then 14 else 12) = 12 + screenSize v.id := updateSize_eq v.id
  cases hbody : bodyOf v.id rest with
  | none =>
      rw [hbody] at hparsed
      refine .of_error hparsed fun h => ?_
      have hrest := bodyOf_eq_none.mp hbody
      rw [hsize, List.length_append, length_head] at h
      omega
  | some body =>
      rw [hbody] at hparsed
      have hupdate : v.updateInPlace (head v.id time pos ++ rest)
          = some ({ v with time, pos, body }, .ok ()) := by
        rw [updateInPlace_eq, hparsed]
        rfl
      refine ⟨_, _, hupdate, iff_of_true rfl ⟨?_, take_four_head⟩, by simp,
        fun _ => ⟨rfl, rfl, rfl, fun radius => ?_⟩⟩
      · rw [hsize, List.length_append, length_head]
        exact Nat.add_le_add_left (bodyOf_eq_some.mp hbody).1 12
      · refine ⟨{ v with playerBindId := 0, time, pos, radius, body }, ?_, rfl⟩
        rw [take_head, drop_head, List.append_assoc, createFromSlice_head, hbody]

theorem createFromSlice_exact (s : Bytes) : CreateExact s := by
  by_cases hlen : s.length < 14
  · refine ⟨_, createFromSlice_short hlen, iff_of_false (by simp) ?_, by simp⟩
    rintro ⟨id, -, hsize⟩
    split at hsize <;> omega
  obtain ⟨id, time, pos, radius, hs⟩ := exists_head_radius (Nat.le_of_not_lt hlen)
  have hid : s.take 4 = toLeBytes32 id := by rw [hs, take_four_head]
  have hread : sliceLeToI32 (s.take 4) = some id := by rw [hid, sliceLeToI32_toLeBytes32]
  have hparsed := congrArg createFromSlice hs
  rw [createFromSlice_head] at hparsed
  cases hbody : bodyOf id (s.drop 14) with
  | none =>
      rw [hbody] at hparsed
      refine ⟨.error .sliceTooSmall, hparsed, iff_of_false (by simp) ?_, by simp⟩
      rintro ⟨id', hread', hsize⟩
      cases hread.symm.trans hread'
      have hrest := bodyOf_eq_none.mp hbody
      rw [createSize_eq] at hsize
      rw [List.length_drop] at hrest
      omega
  | some body =>
      rw [hbody] at hparsed
      obtain ⟨hrest, rfl⟩ := bodyOf_eq_some.mp hbody
      refine ⟨.ok _, hparsed, iff_of_true ⟨_, rfl⟩ ⟨id, hread, ?_⟩, ?_⟩
      · rw [createSize_eq]
        rw [List.length_drop] at hrest
        omega
      · rintro v hv owner
        cases hv
        rw [toVangersByte_head _ (toLeBytes16 radius ++ s.drop 14), ← hs, getType, createSize_eq,
          ← List.drop_drop, hid]

/-- **The two parsers agree**, for every object and all bytes. -/
theorem object_parsers_agree (v : Vanject) (u s : Bytes) : v.UpdateExact u ∧ CreateExact s :=
  ⟨updateInPlace_exact v u, createFromSlice_exact s⟩

end

end Vanject

end VangersSrv
