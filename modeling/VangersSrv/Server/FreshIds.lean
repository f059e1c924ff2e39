/-
Where a new player starts to number its objects.

The answer to an attach has an offset for each type: one more than the largest counter of the
objects that are left of the station, and zero when there is none.  A counter of zero looks like
none, and the largest one has no successor.
-/
import VangersSrv.Server.Offsets

namespace VangersSrv

/-- The offset of a type in the answer, behind the ten bytes about the game and the player. -/
def sentOffset (answer : Packet) (t : Nat) : Option U16 :=
  (slice answer.data (10 + 2 * t) (12 + 2 * t)).bind sliceLeToI16

/-- The object with the id is one of the type that is left of the station. -/
def LeftOf (vanjects : Vanjects) (b : UInt8) (t : Nat) (id : I32) : Prop :=
  id ∈ vanjects ∧ getStation id = asI32 b ∧ offsetIndex id = t

/-- No object of the type is numbered from the offset on. -/
structure OffsetFresh (vanjects : Vanjects) (b : UInt8) (t : Nat) (o : U16) : Prop where
  above : ∀ id, LeftOf vanjects b t id → idCounter id ≠ 0 → idCounter id < o
  zero : o = 0 ↔ ¬ ∃ id, LeftOf vanjects b t id ∧ idCounter id ≠ 0
  unused : ∀ id, LeftOf vanjects b t id → ¬ o ≤ idCounter id

/-- There is a number after the largest one, and zero is not the only one. -/
structure LeavesRoom (vanjects : Vanjects) (b : UInt8) (t : Nat) : Prop where
  notLast : ∀ id, LeftOf vanjects b t id → idCounter id ≠ 0xffff
  notOnlyZero : (∃ id, LeftOf vanjects b t id ∧ idCounter id = 0) →
    ∃ id, LeftOf vanjects b t id ∧ idCounter id ≠ 0

section

variable {vanjects vanjects' : Vanjects} {b : UInt8} {t : Nat} {m : U16} {offsets : List U16}

/-! ### One offset -/

/-- The offset that is sent for the largest counter. -/
def successor (m : U16) : U16 := if m ≠ 0 then m + 1 else m

theorem successor_zero : successor 0 = 0 := rfl

theorem lt_successor {n : U16} (hn : n ≤ m) (hne : m ≠ 0) (hlast : m ≠ 0xffff) :
    n < successor m := by
  rw [successor, if_pos hne]
  bv_omega

/-- The largest counter of a type, or zero. -/
theorem exists_largest (hkeyed : Vanjects.Keyed vanjects) (h : idOffsets b vanjects = some offsets)
    (ht : t < 16) :
    ∃ m, offsets[t]? = some m ∧ (∀ id, LeftOf vanjects b t id → idCounter id ≤ m) ∧
      (m = 0 ∨ ∃ id, LeftOf vanjects b t id ∧ idCounter id = m) := by
  rw [idOffsets_eq] at h
  have hzero : (List.replicate 16 (0 : U16))[t]? = some 0 := by
    rw [List.getElem?_replicate, if_pos ht]
  obtain ⟨m, hm, -, hbound, hattained⟩ := MaxTable.recordAll_isMax h hzero
  refine ⟨m, hm, ?_, hattained.imp_right fun hmem => ?_⟩
  · rintro id ⟨hid, hstation, htype⟩
    exact hbound _ ((mem_stationRecords hkeyed).mpr ⟨id, hid, hstation, htype, rfl⟩)
  · obtain ⟨id, hid, hstation, htype, hcounter⟩ := (mem_stationRecords hkeyed).mp hmem
    exact ⟨id, ⟨hid, hstation, htype⟩, hcounter⟩

/-- **The successor of the largest counter is fresh when there is one.** -/
theorem offsetFresh_iff (hbound : ∀ id, LeftOf vanjects b t id → idCounter id ≤ m)
    (hattained : m = 0 ∨ ∃ id, LeftOf vanjects b t id ∧ idCounter id = m) :
    OffsetFresh vanjects b t (successor m) ↔ LeavesRoom vanjects b t := by
  constructor
  · intro h
    constructor
    · intro id hid hlast
      refine h.unused id hid ?_
      rw [hlast]
      bv_omega
    · rintro ⟨id, hid, hcounter⟩
      by_contra hnone
      refine h.unused id hid ?_
      rw [h.zero.mpr hnone, hcounter]
      exact BitVec.le_refl _
  · intro h
    by_cases hm : m = 0
    · subst hm
      have hnone : ∀ id, LeftOf vanjects b t id → idCounter id = 0 := fun id hid =>
        BitVec.le_zero_iff.mp (hbound id hid)
      refine ⟨fun id hid hne => absurd (hnone id hid) hne, ?_, fun id hid _ => ?_⟩
      · rw [successor_zero]
        refine iff_of_true rfl ?_
        rintro ⟨id, hid, hne⟩
        exact hne (hnone id hid)
      · obtain ⟨id', hid', hne⟩ := h.notOnlyZero ⟨id, hid, hnone id hid⟩
        exact hne (hnone id' hid')
    · obtain ⟨last, hleft, hlast⟩ := hattained.resolve_left hm
      have hroom : m ≠ 0xffff := fun heq => h.notLast last hleft (hlast.trans heq)
      have hlt : ∀ id, LeftOf vanjects b t id → idCounter id < successor m := fun id hid =>
        lt_successor (hbound id hid) hm hroom
      refine ⟨fun id hid _ => hlt id hid, ?_, fun id hid hle => ?_⟩
      · refine iff_of_false (fun hzero => ?_) fun hnone => hnone ⟨last, hleft, hlast ▸ hm⟩
        have hnot := hlt last hleft
        rw [hzero] at hnot
        exact BitVec.not_lt_zero hnot
      · exact absurd (hlt id hid) (BitVec.not_lt.mpr hle)

/-! ### The table in the answer -/

theorem offsetsBytes_cons (o : U16) :
    offsetsBytes (o :: offsets) = toLeBytes16 (successor o) ++ offsetsBytes offsets := rfl

theorem length_offsetsBytes : (offsetsBytes offsets).length = 2 * offsets.length := by
  induction offsets with
  | nil => rfl
  | cons o offsets ih =>
      rw [offsetsBytes_cons, List.length_append, length_toLeBytes16, ih, List.length_cons]
      omega

theorem slice_offsetsBytes (h : offsets[t]? = some m) :
    slice (offsetsBytes offsets) (2 * t) (2 * t + 2) = some (toLeBytes16 (successor m)) := by
  induction offsets generalizing t with
  | nil => simp at h
  | cons o offsets ih =>
      rw [offsetsBytes_cons]
      cases t with
      | zero =>
          obtain rfl : o = m := by simpa using h
          refine slice_eq_some.mpr ⟨⟨by omega, by simp⟩, ?_⟩
          rw [Nat.mul_zero, List.drop_zero]
          exact List.take_left' (by simp)
      | succ t =>
          have hlen : (toLeBytes16 (successor o)).length = 2 := length_toLeBytes16 _
          have hstart : 2 * (t + 1) = (toLeBytes16 (successor o)).length + 2 * t := by omega
          rw [hstart, Nat.add_assoc]
          exact slice_of_header (ih (by simpa using h))

theorem sentOffset_eq {answer : Packet} {header : Bytes} (hheader : header.length = 10)
    (hdata : answer.data = header ++ offsetsBytes offsets) (h : offsets[t]? = some m) :
    sentOffset answer t = some (successor m) := by
  have hend : 12 + 2 * t = 10 + (2 * t + 2) := by omega
  rw [sentOffset, hdata, hend, ← hheader, slice_of_header (slice_offsetsBytes h), Option.bind_some,
    sliceLeToI16_toLeBytes16]

end

/-- The answer to an attach, and the game with the new player. -/
structure Attached (srv : Server) (c : ClientID) (r : Reply) (key : GameID) (game : Game) (b : UInt8)
    (answer : Packet) : Prop where
  joined : r.srv.games.lookup key = some game
  player : ∃ q ∈ game.players, q.clientId = c ∧ q.bindId = some b
  told : ∃ rest, packetsTo c r.sent = srv.toConnections c (answer :: rest)
  answer : answer.action = .attachToGameResponse ∧ answer.data[9]? = some b

section

variable {env : Env} {srv : Server} {packet : Packet} {c : ClientID} {r : Reply} {ok : OnUpdateOk}

theorem attachToGame_answers (haction : packet.action = .attachToGame)
    (h : srv.attachToGame env packet c = some r) (hok : r.result = .ok ok) :
    ∃ found key game b answer offsets header, Attached srv c r key game b answer ∧
      (srv.games.lookup key = some found ∨ found.vanjects = ∅) ∧ game.vanjects = found.vanjects ∧
      idOffsets b game.vanjects = some offsets ∧ header.length = 10 ∧
      answer.data = header ++ offsetsBytes offsets := by
  rcases attachToGame_cases h with ⟨-, hfail⟩ | ⟨requested, -, ⟨-, err, hfail⟩ |
    ⟨found, bind, offsets, packets, time, header, hfound, -, hoffsets, hheader, -, -, h⟩⟩
  · exact absurd hok (Server.fail_ne_ok hfail)
  · exact absurd hok (Server.fail_ne_ok hfail)
  obtain rfl := Server.complete_eq_some h
  have hten : header.length = 10 ∧ header[9]? = some bind.id := by
    rw [hheader]
    constructor
    · simp
    · rw [List.getElem?_append_right (by simp)]
      simp
  have hfits : Fits (header ++ offsetsBytes offsets) := by
    unfold Fits i16Max
    rw [List.length_append, length_offsetsBytes, length_idOffsets hoffsets, hten.1]
    decide
  have hsome : (packet.createAnswer (header ++ offsetsBytes offsets)).isSome :=
    Server.createAnswer_isSome (by rw [haction]; rfl) hfits
  obtain ⟨answer, hanswer⟩ := Option.isSome_iff_exists.mp hsome
  obtain ⟨hresponse, hdata, -⟩ := Packet.createAnswer_eq_some hanswer
  rw [haction] at hresponse
  have hanswered : answer.data[9]? = some bind.id := by
    rw [hdata, List.getElem?_append_left (by omega)]
    exact hten.2
  refine ⟨found, _, found.joined c bind, bind.id, answer, offsets, header, {
    joined := Server.lookup_setGame_self hfound
    player := ⟨_, List.mem_append_right _ List.mem_cons_self, rfl, rfl⟩
    told := ⟨[time] ++ packets, ?_⟩
    answer := ⟨(Option.some.inj hresponse).symm, hanswered⟩ }, ?_, rfl, hoffsets, hten.1, hdata⟩
  · -- the player is in a game now, so it is told
    generalize hafter : (srv.requestedGame env requested).1.setGame
      (srv.requestedGame env requested).2 (found.joined c bind) = after
    have hlookup : after.games.lookup (srv.requestedGame env requested).2
        = some (found.joined c bind) := by
      rw [← hafter]
      exact Server.lookup_setGame_self hfound
    have hconnected : after.connected = srv.connected := by
      rw [← hafter]
      exact requestedGame_connected
    have heach : ∀ p, packetsTo c (after.notifyPlayer c p) = after.toConnections c [p] := fun p =>
      packetsTo_notifyPlayer_holder hlookup (List.mem_append_right _ List.mem_cons_self) rfl
    rw [hanswer, packetsTo_flatMap heach, Server.toConnections, hconnected]
    rfl
  · rcases Server.requestedGame_cases hfound with ⟨key, n, hgame, hlookup⟩ | ⟨key, n, hgame, -, hnew⟩
    · rw [hgame]
      exact Or.inl hlookup
    · rw [hnew]
      exact Or.inr rfl

/-- **The offsets are fresh exactly where the counters leave room**, in whatever order the objects
are stored. -/
theorem attach_freshOffsets (hkeyed : ∀ k g, srv.games.lookup k = some g → Vanjects.Keyed g.vanjects)
    (haction : packet.action = .attachToGame) (h : srv.attachToGame env packet c = some r)
    (hok : r.result = .ok ok) :
    ∃ key game b answer, Attached srv c r key game b answer ∧
      (∀ vanjects : Vanjects, vanjects.entries.Perm game.vanjects.entries →
        idOffsets b vanjects = idOffsets b game.vanjects) ∧
      ∀ t < 16, ∃ o, sentOffset answer t = some o ∧
        (OffsetFresh game.vanjects b t o ↔ LeavesRoom game.vanjects b t) := by
  obtain ⟨found, key, game, b, answer, offsets, header, hattached, hfound, hvan, hoffsets, hheader,
    hdata⟩ := attachToGame_answers haction h hok
  have hgame : Vanjects.Keyed game.vanjects := by
    rw [hvan]
    rcases hfound with hfound | hempty
    · exact hkeyed key found hfound
    · rw [hempty]
      intro id v hv
      simp at hv
  refine ⟨key, game, b, answer, hattached, fun vanjects hperm => ?_, fun t ht => ?_⟩
  · rw [idOffsets_eq, idOffsets_eq]
    exact MaxTable.recordAll_perm ((hperm.filter _).map _)
  · obtain ⟨m, hm, hbound, hattained⟩ := exists_largest hgame hoffsets ht
    exact ⟨successor m, sentOffset_eq hheader hdata hm, offsetFresh_iff hbound hattained⟩

end

/-- A DEVICE with the counter 257 is left of the station of the next player. -/
theorem attach_freshOffsets_device : ∃ srv r, ServerReachable srv ∧
    srv.attachToGame (Env.atTime 0) (request .attachToGame [1, 0, 0, 0]) 8 = some r ∧
    ∃ key game b answer, Attached srv 8 r key game b answer ∧
      (∀ vanjects : Vanjects, vanjects.entries.Perm game.vanjects.entries →
        idOffsets b vanjects = idOffsets b game.vanjects) ∧
      ∀ t < 16, ∃ o, sentOffset answer t = some o ∧
        (OffsetFresh game.vanjects b t o ↔ LeavesRoom game.vanjects b t) := by
  have hplay : ((play (Server.new 0) (nextStationObject 1 1)).map Prod.fst).bind (fun srv => do
      let r ← srv.attachToGame (Env.atTime 0) (request .attachToGame [1, 0, 0, 0]) 8
      r.result.toOption) = some .complete := by
    decide +kernel
  obtain ⟨srv, tr, hrun, hfacts⟩ := play_bind hplay
  simp only [Option.bind_eq_bind, Option.bind_eq_some_iff] at hfacts
  obtain ⟨r, hr, hres⟩ := hfacts
  have hreach : ServerReachable srv := ⟨0, tr, hrun⟩
  exact ⟨srv, r, hreach, hr,
    attach_freshOffsets (fun k g hk => (hreach.registryOk.game k g hk).vanjectsKeyed) rfl hr
      (ok_of_toOption hres)⟩

/-- A DEVICE with the counter is left of the station of the player that attaches, whose offset for
it is 0. -/
def StartsAtZero (n : U16) : Prop :=
  ∃ srv r game answer, ServerReachable srv ∧
    srv.attachToGame (Env.atTime 0) (request .attachToGame [1, 0, 0, 0]) 8 = some r ∧
    r.srv.games.lookup 1 = some game ∧ answer ∈ packetsTo 8 r.sent ∧
    answer.action = .attachToGameResponse ∧ answer.data[9]? = some 2 ∧
    (∃ id, LeftOf game.vanjects 2 1 id ∧ idCounter id = n) ∧
    sentOffset answer 1 = some 0 ∧ ¬ OffsetFresh game.vanjects 2 1 0

theorem startsAtZero_of_play (counter : UInt8) {n : U16}
    (hplay : ((play (Server.new 0) (nextStationObject counter 1)).map Prod.fst).bind (fun srv => do
        let r ← srv.attachToGame (Env.atTime 0) (request .attachToGame [1, 0, 0, 0]) 8
        let game ← r.srv.games.lookup 1
        let answer ← (packetsTo 8 r.sent).head?
        let e ← game.vanjects.entries.head?
        some (decide (answer.action = .attachToGameResponse ∧ answer.data[9]? = some 2 ∧
          sentOffset answer 1 = some 0 ∧ getStation e.1 = asI32 2 ∧ offsetIndex e.1 = 1 ∧
          idCounter e.1 = n))) = some true) : StartsAtZero n := by
  obtain ⟨srv, tr, hrun, hfacts⟩ := play_bind hplay
  simp only [Option.bind_eq_bind, Option.bind_eq_some_iff, Option.some.injEq,
    decide_eq_true_eq] at hfacts
  obtain ⟨r, hr, game, hgame, answer, hanswer, e, he, haction, hplayer, hoffset, hstation, htype,
    hcounter⟩ := hfacts
  have hid : e.1 ∈ game.vanjects :=
    AList.mem_iff_lookup.mpr ⟨e.2, AList.mem_entries_iff.mp (List.mem_of_head? he)⟩
  have hleft : LeftOf game.vanjects 2 1 e.1 := ⟨hid, hstation, htype⟩
  refine ⟨srv, r, game, answer, ⟨0, tr, hrun⟩, hr, hgame, List.mem_of_head? hanswer, haction,
    hplayer, ⟨e.1, hleft, hcounter⟩, hoffset, fun h => ?_⟩
  exact h.unused e.1 hleft (by bv_omega)

/-- With the last counter and with the counter 0 the next player starts at the offset 0. -/
theorem attach_reuses_ids : StartsAtZero 0xffff ∧ StartsAtZero 0 :=
  ⟨startsAtZero_of_play 0xff (by decide +kernel), startsAtZero_of_play 0 (by decide +kernel)⟩

end VangersSrv
