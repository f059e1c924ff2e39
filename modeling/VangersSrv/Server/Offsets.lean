/-
The offsets a player gets for its object ids.

The loop over the stored objects keeps the largest counter for each type among the objects of the
new player's station.  It is a table of maxima with sixteen slots; a type has six bits, and an id
with a larger one takes the loop out of the table.
-/
import VangersSrv.Lib.MaxTable
import VangersSrv.Server.Delivered
import VangersSrv.Server.Pickups
import VangersSrv.Server.Sizes

namespace VangersSrv

open Transition

/-- The slot of an id: its type. -/
def offsetIndex (id : I32) : Nat := ((id.sshiftRight 16) &&& 63#32).toNat

def idCounter (id : I32) : U16 := (id &&& 0xffff#32).setWidth 16

/-- What is recorded of the objects of a station. -/
def stationRecords (b : UInt8) (vanjects : Vanjects) : List (Nat × U16) :=
  (vanjects.entries.filter fun e => e.2.getStation = asI32 b).map fun e =>
    (offsetIndex e.1, idCounter e.1)

/-- The loop over the objects stays inside the table for whoever attaches to the game. -/
def Game.StaysInTable (g : Game) : Prop :=
  ∀ c game b, g.attachPlayer (Player.new c) = some (some (game, b)) →
    (idOffsets b game.vanjects).isSome

/-- An id of a station that players are given, with a type that has no slot. -/
def OutsideTable (id : I32) : Prop :=
  16 ≤ offsetIndex id ∧ ∃ b, ValidBind b ∧ getStation id = asI32 b

/-- A round in which no game accepts a new object outside the table. -/
def TableStep (srv : Server) (e : Option Event) (srv' : Server) : Prop :=
  Step srv e srv' ∧ ∀ k packet g v, Accepts k srv e packet → srv.games.lookup k = some g →
    packet.action = .createObject → Vanject.createFromSlice packet.data = some (.ok v) →
    v.id ∉ g.vanjects → ¬ OutsideTable v.id

section

variable {vanjects vanjects' : Vanjects} {b : UInt8} {id : I32} {n : U16}

/-! ### The table -/

theorem recordOffset_of_station {v : Vanject} {table : List U16} (h : v.getStation = asI32 b) :
    recordOffset b table id v = MaxTable.record table (offsetIndex id) (idCounter id) := by
  unfold recordOffset MaxTable.record offsetIndex idCounter
  rw [if_pos h]
  cases table[((id.sshiftRight 16) &&& 63#32).toNat]? with
  | none => rfl
  | some y => rfl

theorem recordOffset_of_ne {v : Vanject} {table : List U16} (h : v.getStation ≠ asI32 b) :
    recordOffset b table id v = some table :=
  if_neg h

theorem idOffsets_eq :
    idOffsets b vanjects
      = MaxTable.recordAll (List.replicate 16 0) (stationRecords b vanjects) := by
  unfold idOffsets stationRecords
  generalize List.replicate 16 (0 : U16) = table
  induction vanjects.entries generalizing table with
  | nil => rfl
  | cons e entries ih =>
      by_cases hstation : e.2.getStation = asI32 b
      · rw [List.filter_cons_of_pos (by simpa using hstation), List.map_cons,
          MaxTable.recordAll_cons, List.foldlM_cons]
        rw [recordOffset_of_station hstation]
        exact congrArg _ (funext ih)
      · rw [List.filter_cons_of_neg (by simpa using hstation), List.foldlM_cons]
        rw [recordOffset_of_ne hstation]
        exact ih table

theorem length_idOffsets {offsets : List U16} (h : idOffsets b vanjects = some offsets) :
    offsets.length = 16 := by
  rw [idOffsets_eq] at h
  rw [MaxTable.length_recordAll h, List.length_replicate]

theorem mem_stationRecords (hkeyed : Vanjects.Keyed vanjects) {t : Nat} :
    (t, n) ∈ stationRecords b vanjects ↔
      ∃ id ∈ vanjects, getStation id = asI32 b ∧ offsetIndex id = t ∧ idCounter id = n := by
  simp only [stationRecords, List.mem_map, List.mem_filter, decide_eq_true_eq, Prod.mk.injEq]
  constructor
  · rintro ⟨e, ⟨he, hstation⟩, htype, hcounter⟩
    have hlookup := AList.mem_entries_iff.mp he
    refine ⟨e.1, AList.mem_iff_lookup.mpr ⟨_, hlookup⟩, ?_, htype, hcounter⟩
    rw [← hkeyed e.1 e.2 hlookup]
    exact hstation
  · rintro ⟨id, hid, hstation, htype, hcounter⟩
    obtain ⟨v, hv⟩ := AList.mem_iff_lookup.mp hid
    refine ⟨⟨id, v⟩, ⟨AList.mem_entries_iff.mpr hv, ?_⟩, htype, hcounter⟩
    unfold Vanject.getStation
    rw [hkeyed id v hv]
    exact hstation

/-- **The loop stays inside the table as long as the types of the station's objects do.** -/
theorem idOffsets_isSome (hkeyed : Vanjects.Keyed vanjects) :
    (idOffsets b vanjects).isSome ↔
      ∀ id ∈ vanjects, getStation id = asI32 b → offsetIndex id < 16 := by
  rw [idOffsets_eq, MaxTable.recordAll_isSome, List.length_replicate]
  constructor
  · intro h id hid hstation
    exact h (offsetIndex id, idCounter id)
      ((mem_stationRecords hkeyed).mpr ⟨id, hid, hstation, rfl, rfl⟩)
  · rintro h ⟨t, n⟩ he
    obtain ⟨id, hid, hstation, rfl, -⟩ := (mem_stationRecords hkeyed).mp he
    exact h id hid hstation

theorem offsetIndex_eq : offsetIndex id = (getVanjectType id >>> 16).toNat := by
  unfold offsetIndex
  rw [sshiftRight_typeBits, typeBits_eq]

end

/-! ### Attaching -/

section

variable {srv srv' : Server} {e : Option Event} {k : GameID} {g : Game} {packet : Packet} {id : I32}

theorem exists_attachPlayer {b : UInt8} (c : ClientID) (hfree : g.getUniqPlayerId = some b) :
    ∃ bind : Bind, bind.id = b ∧ g.attachPlayer (Player.new c) = some (some (g.joined c bind, b)) := by
  obtain ⟨attached, hattached⟩ := Server.attachPlayer_total g (Player.new c)
  cases attached with
  | none => exact absurd hattached (attachPlayer_free _ hfree)
  | some attached =>
      obtain ⟨game, b'⟩ := attached
      obtain ⟨bind, hfree', rfl, rfl⟩ := attachPlayer_some hattached
      obtain rfl := Option.some.inj (hfree.symm.trans hfree')
      exact ⟨bind, rfl, hattached⟩

theorem GameOk.staysInTable_iff (hok : GameOk g) :
    g.StaysInTable ↔ ∀ id ∈ g.vanjects, ∀ b, g.getUniqPlayerId = some b → getStation id = asI32 b →
      offsetIndex id < 16 := by
  constructor
  · intro h id hid b hfree hstation
    obtain ⟨bind, rfl, hattached⟩ := exists_attachPlayer 0 hfree
    have hsome := h 0 _ _ hattached
    rw [Game.joined, idOffsets_isSome hok.vanjectsKeyed] at hsome
    exact hsome id hid hstation
  · intro h c game b hattached
    obtain ⟨bind, hfree, rfl, rfl⟩ := attachPlayer_some hattached
    rw [Game.joined, idOffsets_isSome hok.vanjectsKeyed]
    exact fun id hid hstation => h id hid bind.id hfree hstation

/-- A transfer makes a DEVICE or a STUFF, and these have their slots. -/
theorem Brings.inTable (h : Brings packet g id)
    (hcreate : ∀ v, packet.action = .createObject → Vanject.createFromSlice packet.data = some (.ok v) →
      v.id ∉ g.vanjects → ¬ OutsideTable v.id) : ¬ OutsideTable id := by
  cases h with
  | created haction hparse hnew =>
      exact hcreate _ haction hparse (AList.lookup_eq_none.mp hnew)
  | transferred haction hparse hvalid =>
      rintro ⟨hindex, -⟩
      rw [offsetIndex_eq] at hindex
      rcases (ItemTransfer.validate_ok hvalid).1 with ⟨-, -, htype⟩ | ⟨-, -, htype⟩
      · rw [htype] at hindex
        exact absurd hindex (by decide)
      · rw [htype] at hindex
        exact absurd hindex (by decide)

theorem TableStep.inTable (h : TableStep srv e srv') (hok : RegistryOk srv)
    (htable : ∀ id, InStore (srv.games.lookup k) id → ¬ OutsideTable id) :
    ∀ id, InStore (srv'.games.lookup k) id → ¬ OutsideTable id := by
  intro id hin
  by_cases hbefore : InStore (srv.games.lookup k) id
  · exact htable id hbefore
  obtain ⟨packet, g, haccepts, hk, hbrings⟩ := h.1.brings hok hbefore hin
  exact hbrings.inTable fun v => h.2 k packet g v haccepts hk

/-- A request joins one of the games, or a game without objects. -/
theorem offsetsInTable {env : Env} {c : ClientID}
    (h : ∀ k g, srv.games.lookup k = some g → g.StaysInTable) : srv.OffsetsInTable env packet c := by
  intro _ game b hjoins
  unfold Server.joins at hjoins
  split at hjoins
  · cases hjoins
  simp only [Option.bind_eq_bind, Option.bind_eq_some_iff, Option.join_eq_some_iff] at hjoins
  obtain ⟨requested, -, found, hfound, hattached⟩ := hjoins
  rcases Server.requestedGame_cases hfound with ⟨key, n, -, hlookup⟩ | ⟨key, n, -, -, rfl⟩
  · exact h key found hlookup c game b hattached
  · obtain ⟨bind, -, rfl, rfl⟩ := attachPlayer_some hattached
    rfl

end

/-- **Attaching stays inside the table exactly when the station that is handed out has no object
with a type of sixteen or more**, and it does throughout a run in which no such object is made. -/
theorem attach_staysInTable {start : Instant} {tr : List (Option Event)} {srv : Server}
    (hrun : Run Step (Server.new start) tr srv) :
    (∀ k g, srv.games.lookup k = some g → (g.StaysInTable ↔ ∀ id ∈ g.vanjects, ∀ b,
      g.getUniqPlayerId = some b → getStation id = asI32 b → offsetIndex id < 16)) ∧
    (Run TableStep (Server.new start) tr srv →
      ∀ env packet c, srv.OffsetsInTable env packet c) := by
  have hgameOk := (ServerReachable.registryOk ⟨start, tr, hrun⟩).game
  refine ⟨fun k g hk => (hgameOk k g hk).staysInTable_iff, fun hguarded env packet c => ?_⟩
  have hboth : RegistryOk srv ∧ ∀ k id, InStore (srv.games.lookup k) id → ¬ OutsideTable id := by
    refine hguarded.invariant
      (P := fun s => RegistryOk s ∧ ∀ k id, InStore (s.games.lookup k) id → ¬ OutsideTable id)
      ⟨registryOk_new start, ?_⟩ ?_
    · rintro k id ⟨g, hg, -⟩
      simp [Server.new] at hg
    · rintro a e s hstep ⟨hok, htable⟩
      exact ⟨hstep.1.registryOk hok, fun k => hstep.inTable hok (htable k)⟩
  refine offsetsInTable fun k g hk => (hgameOk k g hk).staysInTable_iff.mpr ?_
  intro id hid b hfree hstation
  have hnot := hboth.2 k id ⟨g, hk, hid⟩
  exact Nat.lt_of_not_le fun hindex =>
    hnot ⟨hindex, b, ((hgameOk k g hk).free hfree).1, hstation⟩

/-- A game with one player and an object of the next player's station, with these bytes of its id. -/
def nextStationObject (counter type : UInt8) : List (Env × Input) :=
  [(Env.atTime 0, .add (Client.new 7)), (Env.atTime 0, .add (Client.new 8)),
    (Env.atTime 0, ask 7 .attachToGame [0, 0, 0, 0]),
    (Env.atTime 0, ask 7 .setWorld [0, 0, 8]),
    (Env.atTime 0, ask 7 .createObject [counter, counter, type, 8, 0, 0, 0, 0, 0, 0, 0, 0, 0, 0])]

/-- What an input asks to create has its slot. -/
def makesSlotted : Input → Bool
  | .message _ (.updated packet) =>
    match Vanject.createFromSlice packet.data with
    | some (.ok v) => decide (offsetIndex v.id < 16)
    | _ => true
  | _ => true

theorem TableStep.of_slotted {srv srv' : Server} {event : Event} (h : Step srv (some event) srv')
    (htest : makesSlotted event.input = true) : TableStep srv (some event) srv' := by
  refine ⟨h, fun k packet g v ⟨env, c, sent, _, _, _, he, _⟩ _ _ hparse _ ⟨hindex, _⟩ => ?_⟩
  rw [Option.some.inj he] at htest
  simp only [makesSlotted, hparse, decide_eq_true_eq] at htest
  omega

/-- The object is a DEVICE, which has its slot, and the next player attaches. -/
theorem attach_staysInTable_device : ∃ srv tr g, Run Step (Server.new 0) tr srv ∧
    srv.games.lookup 1 = some g ∧ 0x08010505#32 ∈ g.vanjects ∧ g.getUniqPlayerId = some 2 ∧
    (∀ k g, srv.games.lookup k = some g → (g.StaysInTable ↔ ∀ id ∈ g.vanjects, ∀ b,
      g.getUniqPlayerId = some b → getStation id = asI32 b → offsetIndex id < 16)) ∧
    Run TableStep (Server.new 0) tr srv ∧ ∀ env packet c, srv.OffsetsInTable env packet c := by
  have hplay : (playWhile (fun _ input _ => makesSlotted input) (Server.new 0)
      (nextStationObject 5 1)).bind (fun last => do
        let g ← last.1.games.lookup 1
        some (decide (0x08010505#32 ∈ g.vanjects), g.getUniqPlayerId)) = some (true, some 2) := by
    decide +kernel
  obtain ⟨⟨srv, tr⟩, hlast, hplay⟩ := Option.bind_eq_some_iff.mp hplay
  simp only [Option.bind_eq_bind, Option.bind_eq_some_iff, Option.some.injEq, Prod.mk.injEq,
    decide_eq_true_eq] at hplay
  obtain ⟨g, hk, hstored, hfree⟩ := hplay
  have hrun := playWhile_run hlast
  have hguarded : Run TableStep (Server.new 0) tr srv := by
    refine hrun.mono ?_
    rintro s e s' ⟨hstep, event, rfl, htest⟩
    exact .of_slotted hstep htest
  have hinTable := attach_staysInTable (hrun.mono fun _ _ _ hstep => hstep.1)
  exact ⟨srv, tr, g, hrun.mono fun _ _ _ hstep => hstep.1, hk, hstored, hfree, hinTable.1, hguarded,
    hinTable.2 hguarded⟩

/-- An object of the type 16 waits for the next player, and the server panics when it attaches. -/
theorem attach_leavesTable : ∃ srv g, ServerReachable srv ∧ srv.games.lookup 1 = some g ∧
    ¬ g.StaysInTable ∧
    srv.attachToGame (Env.atTime 0) (request .attachToGame [1, 0, 0, 0]) 8 = none := by
  have hplay : ((play (Server.new 0) (nextStationObject 0 16)).map Prod.fst).bind (fun srv => do
      let g ← srv.games.lookup 1
      let joined ← (g.attachPlayer (Player.new 8)).join
      some (decide ((idOffsets joined.2 joined.1.vanjects).isSome = false ∧
        (srv.attachToGame (Env.atTime 0) (request .attachToGame [1, 0, 0, 0]) 8).isSome = false)))
      = some true := by
    decide +kernel
  obtain ⟨srv, tr, hrun, hfacts⟩ := play_bind hplay
  simp only [Option.bind_eq_bind, Option.bind_eq_some_iff, Option.some.injEq, decide_eq_true_eq,
    Option.join_eq_some_iff, Option.isSome_eq_false_iff, Option.isNone_iff_eq_none] at hfacts
  obtain ⟨g, hk, ⟨game, b⟩, hattached, hoffsets, hnone⟩ := hfacts
  refine ⟨srv, g, ⟨0, tr, hrun⟩, hk, fun h => ?_, hnone⟩
  have hsome := h 8 game b hattached
  rw [hoffsets] at hsome
  cases hsome

end VangersSrv
