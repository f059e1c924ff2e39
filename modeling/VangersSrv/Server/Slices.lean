/-
What the handlers read of a request's data.

`reads` follows each handler from the top and keeps only its slices and indices, with the
branches that decide whether they are made; its `none` is a read out of range, and nothing
else.  Two handlers read without asking for the length first: `set_world` its world and
size, `delete_object` the id and, when it relays the request, what follows.  The parsers
never read out of range.
-/
import VangersSrv.Server.Registry
import Mathlib.Data.List.TakeWhile

namespace VangersSrv

/-! ### Reads in range -/

theorem slice_eq_none {v : Bytes} {a b : Nat} (h : ¬ b ≤ v.length) : slice v a b = none := by
  rw [Option.eq_none_iff_forall_ne_some]
  intro s hs
  exact h (slice_eq_some.mp hs).1.2

theorem sliceFrom_isSome {v : Bytes} {a : Nat} : (sliceFrom v a).isSome ↔ a ≤ v.length := by
  unfold sliceFrom
  split <;> simp_all

theorem exists_sliceFrom {v : Bytes} {a : Nat} (h : a ≤ v.length) : ∃ s, sliceFrom v a = some s :=
  Option.isSome_iff_exists.mp (sliceFrom_isSome.mpr h)

/-- A slice that is in range has its width. -/
theorem exists_slice {v : Bytes} {a b n : Nat} (h : b ≤ v.length) (hn : b = a + n) :
    ∃ s, slice v a b = some s ∧ s.length = n := by
  refine ⟨(v.drop a).take (b - a), ?_, ?_⟩
  · rw [slice_eq_some]
    exact ⟨⟨by omega, h⟩, rfl⟩
  · rw [List.length_take, List.length_drop]
    omega

/-- A 32-bit integer is read from four bytes. -/
theorem exists_readI32 {v : Bytes} {a b : Nat} (h : b ≤ v.length) (hn : b = a + 4) :
    ∃ s x, slice v a b = some s ∧ sliceLeToI32 s = some x := by
  obtain ⟨s, hs, hlen⟩ := exists_slice h hn
  obtain ⟨x, hx⟩ := sliceLeToI32_isSome hlen
  exact ⟨s, x, hs, hx⟩

/-- A 16-bit integer is read from two bytes. -/
theorem exists_readI16 {v : Bytes} {a b : Nat} (h : b ≤ v.length) (hn : b = a + 2) :
    ∃ s x, slice v a b = some s ∧ sliceLeToI16 s = some x := by
  obtain ⟨s, hs, hlen⟩ := exists_slice h hn
  obtain ⟨x, hx⟩ := sliceLeToI16_isSome hlen
  exact ⟨s, x, hs, hx⟩

theorem exists_getElem {v : Bytes} {i : Nat} (h : i < v.length) : ∃ b, v[i]? = some b :=
  ⟨v[i], List.getElem?_eq_getElem h⟩

/-! ### The parsers -/

theorem Body.fromSlice_total (s : Bytes) : ∃ body, Body.fromSlice s = some body := by
  unfold Body.fromSlice
  split
  · exact ⟨_, rfl⟩
  rename_i hlen
  simp only [Body.getBaseStructSize] at hlen
  have hread : ∃ body, Body.readFields s = some body := by
    obtain ⟨b0, h0⟩ := exists_getElem (v := s) (i := 0) (by omega)
    obtain ⟨b1, h1⟩ := exists_getElem (v := s) (i := 1) (by omega)
    obtain ⟨b2, h2⟩ := exists_getElem (v := s) (i := 2) (by omega)
    obtain ⟨b3, h3⟩ := exists_getElem (v := s) (i := 3) (by omega)
    obtain ⟨s4, x4, hs4, hx4⟩ := exists_readI32 (v := s) (a := 4) (b := 8) (by omega) rfl
    obtain ⟨s8, x8, hs8, hx8⟩ := exists_readI32 (v := s) (a := 8) (b := 12) (by omega) rfl
    obtain ⟨b12, h12⟩ := exists_getElem (v := s) (i := 12) (by omega)
    obtain ⟨s13, x13, hs13, hx13⟩ := exists_readI16 (v := s) (a := 13) (b := 15) (by omega) rfl
    obtain ⟨s15, x15, hs15, hx15⟩ := exists_readI16 (v := s) (a := 15) (b := 17) (by omega) rfl
    obtain ⟨s17, x17, hs17, hx17⟩ := exists_readI32 (v := s) (a := 17) (b := 21) (by omega) rfl
    obtain ⟨s21, x21, hs21, hx21⟩ := exists_readI32 (v := s) (a := 21) (b := 25) (by omega) rfl
    obtain ⟨rest, hrest⟩ := exists_sliceFrom (v := s) (a := 25) (by omega)
    unfold Body.readFields
    simp only [h0, h1, h2, h3, hs4, hx4, hs8, hx8, h12, hs13, hx13, hs15, hx15, hs17, hx17,
      hs21, hx21, hrest, sliceLeToU32, Option.bind_eq_bind, Option.bind_some]
    exact ⟨_, rfl⟩
  obtain ⟨body, hbody⟩ := hread
  exact ⟨some body, by rw [hbody]; rfl⟩

theorem Vanject.createFromSlice_total (s : Bytes) : ∃ r, Vanject.createFromSlice s = some r := by
  by_cases hlen : s.length < 14
  · exact ⟨_, Vanject.createFromSlice_short hlen⟩
  · obtain ⟨id, time, pos, radius, hs⟩ := Vanject.exists_head_radius (Nat.le_of_not_lt hlen)
    rw [hs]
    exact ⟨_, Vanject.createFromSlice_head⟩

theorem Vanject.updateFromSlice_total (v : Vanject) (s : Bytes) :
    ∃ r, v.updateFromSlice s = some r := by
  by_cases hlen : s.length < 12
  · exact ⟨_, Vanject.updateFromSlice_short hlen⟩
  · obtain ⟨id, time, pos, hs⟩ := Vanject.exists_head (Nat.le_of_not_lt hlen)
    rw [hs]
    exact ⟨_, Vanject.updateFromSlice_head⟩

theorem ItemTransfer.parse_total (packet : Packet) : ∃ r, ItemTransfer.parse packet = some r := by
  unfold ItemTransfer.parse
  split
  · exact ⟨_, rfl⟩
  rename_i hlen
  simp only [itemTransferHeaderSize] at hlen ⊢
  obtain ⟨kind, hkind⟩ := exists_getElem (v := packet.data) (i := 0) (by omega)
  simp only [hkind, Option.bind_eq_bind, Option.bind_some]
  split
  · exact ⟨_, rfl⟩
  obtain ⟨s1, oldId, hs1, holdId⟩ := exists_readI32 (v := packet.data) (a := 1) (b := 5) (by omega) rfl
  obtain ⟨marker, hmarker⟩ := exists_getElem (v := packet.data) (i := 9) (by omega)
  obtain ⟨rest, hrest⟩ := exists_sliceFrom (v := packet.data) (a := 10) (by omega)
  obtain ⟨r, hr⟩ := Vanject.createFromSlice_total rest
  simp only [hs1, holdId, hmarker, hrest, hr, Option.bind_some]
  split <;> exact ⟨_, rfl⟩

theorem VanWar.fromSlice_total {s : Bytes} (h : 20 ≤ s.length) : ∃ m, VanWar.fromSlice s = some m := by
  obtain ⟨s0, x0, hs0, hx0⟩ := exists_readI32 (v := s) (a := 0) (b := 4) (by omega) rfl
  obtain ⟨s4, x4, hs4, hx4⟩ := exists_readI32 (v := s) (a := 4) (b := 8) (by omega) rfl
  obtain ⟨s8, x8, hs8, hx8⟩ := exists_readI32 (v := s) (a := 8) (b := 12) (by omega) rfl
  obtain ⟨s12, x12, hs12, hx12⟩ := exists_readI32 (v := s) (a := 12) (b := 16) (by omega) rfl
  unfold VanWar.fromSlice
  rw [if_neg (by omega)]
  simp only [hs0, hx0, hs4, hx4, hs8, hx8, hs12, hx12, Option.bind_eq_bind, Option.bind_some]
  exact ⟨_, rfl⟩

theorem Mechosoma.fromSlice_total {s : Bytes} (h : 20 ≤ s.length) :
    ∃ m, Mechosoma.fromSlice s = some m := by
  obtain ⟨s0, x0, hs0, hx0⟩ := exists_readI32 (v := s) (a := 0) (b := 4) (by omega) rfl
  obtain ⟨s4, x4, hs4, hx4⟩ := exists_readI32 (v := s) (a := 4) (b := 8) (by omega) rfl
  obtain ⟨s8, x8, hs8, hx8⟩ := exists_readI32 (v := s) (a := 8) (b := 12) (by omega) rfl
  obtain ⟨s12, x12, hs12, hx12⟩ := exists_readI32 (v := s) (a := 12) (b := 16) (by omega) rfl
  obtain ⟨s16, x16, hs16, hx16⟩ := exists_readI32 (v := s) (a := 16) (b := 20) (by omega) rfl
  unfold Mechosoma.fromSlice
  rw [if_neg (by omega)]
  simp only [hs0, hx0, hs4, hx4, hs8, hx8, hs12, hx12, hs16, hx16, Option.bind_eq_bind,
    Option.bind_some]
  exact ⟨_, rfl⟩

theorem Passembloss.fromSlice_total {s : Bytes} (h : 8 ≤ s.length) :
    ∃ m, Passembloss.fromSlice s = some m := by
  obtain ⟨s0, x0, hs0, hx0⟩ := exists_readI32 (v := s) (a := 0) (b := 4) (by omega) rfl
  obtain ⟨s4, x4, hs4, hx4⟩ := exists_readI32 (v := s) (a := 4) (b := 8) (by omega) rfl
  unfold Passembloss.fromSlice
  rw [if_neg (by omega)]
  simp only [hs0, hx0, hs4, hx4, Option.bind_eq_bind, Option.bind_some]
  exact ⟨_, rfl⟩

theorem Mustodont.fromSlice_total {s : Bytes} (h : 8 ≤ s.length) :
    ∃ m, Mustodont.fromSlice s = some m := by
  obtain ⟨s0, x0, hs0, hx0⟩ := exists_readI32 (v := s) (a := 0) (b := 4) (by omega) rfl
  obtain ⟨s4, x4, hs4, hx4⟩ := exists_readI32 (v := s) (a := 4) (b := 8) (by omega) rfl
  unfold Mustodont.fromSlice
  rw [if_neg (by omega)]
  simp only [hs0, hx0, hs4, hx4, Option.bind_eq_bind, Option.bind_some]
  exact ⟨_, rfl⟩

/-- The parameters of every mode are read in range. -/
theorem Config.gameModeFromSlice_total (gameType : I32) (s : Bytes) :
    ∃ mode, Config.gameModeFromSlice gameType s = some mode := by
  have hmode : ∀ {M : Type} {parsed : Option M} {n : Nat} (mode : M → GameMode),
      (n ≤ s.length → ∃ m, parsed = some m) →
        ∃ r, (if n ≤ s.length then parsed.map fun m => some (mode m) else some none) = some r := by
    intro M parsed n mode hparsed
    split
    · rename_i hlen
      obtain ⟨m, rfl⟩ := hparsed hlen
      exact ⟨_, rfl⟩
    · exact ⟨_, rfl⟩
  unfold Config.gameModeFromSlice
  split
  · exact hmode _ VanWar.fromSlice_total
  · exact hmode _ Mechosoma.fromSlice_total
  · exact hmode _ Passembloss.fromSlice_total
  · exact hmode _ Mustodont.fromSlice_total
  all_goals exact ⟨_, rfl⟩

theorem Config.fromSlice_total (s : Bytes) : ∃ config, Config.fromSlice s = some config := by
  unfold Config.fromSlice
  split
  · exact ⟨_, rfl⟩
  rename_i hlen
  simp only [Config.baseCountBytes] at hlen
  obtain ⟨s0, x0, hs0, hx0⟩ := exists_readI32 (v := s) (a := 0) (b := 4) (by omega) rfl
  obtain ⟨s4, x4, hs4, hx4⟩ := exists_readI32 (v := s) (a := 4) (b := 8) (by omega) rfl
  obtain ⟨s8, x8, hs8, hx8⟩ := exists_readI32 (v := s) (a := 8) (b := 12) (by omega) rfl
  obtain ⟨s12, x12, hs12, hx12⟩ := exists_readI32 (v := s) (a := 12) (b := 16) (by omega) rfl
  obtain ⟨s16, x16, hs16, hx16⟩ := exists_readI32 (v := s) (a := 16) (b := 20) (by omega) rfl
  obtain ⟨s20, x20, hs20, hx20⟩ := exists_readI32 (v := s) (a := 20) (b := 24) (by omega) rfl
  obtain ⟨rest, hrest⟩ := exists_sliceFrom (v := s) (a := 24) (by omega)
  obtain ⟨mode, hmode⟩ := Config.gameModeFromSlice_total x4 rest
  simp only [hs0, hx0, hs4, hx4, hs8, hx8, hs12, hx12, hs16, hx16, hs20, hx20, hrest, hmode,
    Option.bind_eq_bind, Option.bind_some]
  exact ⟨_, rfl⟩

/-! ### What the handlers read -/

/-- What `extract_auth_data` reads. -/
def extractAuthDataReads (data : Bytes) : Option Unit :=
  match cstrUntilNul data with
  | none => some ()
  | some name =>
    if name = [] then some ()
    else if data.length ≤ (withNul name).length then some ()
    else do
      let _ ← sliceFrom data (withNul name).length
      some ()

/-- What a delete request is relayed with. -/
def deletePacketReads (packet : Packet) : Option Unit := do
  let _ ← slice packet.data 4 8
  let _ ← sliceFrom packet.data 8
  some ()

namespace Server

def attachToGameReads (packet : Packet) : Option Unit :=
  if packet.data.length ≠ 4 then some ()
  else do
    let _ ← sliceLeToI32 packet.data
    some ()

def restoreConnectionReads (packet : Packet) : Option Unit :=
  if packet.data.length ≠ 5 then some ()
  else do
    let _ ← sliceLeToI32 (← slice packet.data 0 4)
    let _ ← packet.data[4]?
    some ()

def registerNameReads (srv : Server) (packet : Packet) (clientId : ClientID) : Option Unit :=
  match srv.getGameByClientid clientId with
  | none => some ()
  | some (_, game) =>
    match (game.getPlayer clientId).bind Player.bindId with
    | none => some ()
    | some _ => extractAuthDataReads packet.data

def setPlayerDataReads (srv : Server) (packet : Packet) (clientId : ClientID) : Option Unit :=
  match srv.getGameByClientid clientId with
  | none => some ()
  | some _ => do
    let _ ← Body.fromSlice packet.data
    some ()

def setPositionReads (packet : Packet) : Option Unit :=
  if packet.data.length ≠ 6 then some ()
  else do
    let _ ← sliceLeToI16 (← slice packet.data 0 2)
    let _ ← sliceLeToI16 (← slice packet.data 2 4)
    let _ ← sliceLeToI16 (← slice packet.data 4 6)
    some ()

def setGameDataReads (srv : Server) (packet : Packet) (clientId : ClientID) : Option Unit :=
  match srv.getGameByClientid clientId with
  | none => some ()
  | some (_, game) =>
    if game.isConfigured then some ()
    else
      match cstrUntilNul packet.data with
      | none => some ()
      | some name =>
        if name = [] then some ()
        else do
          let _ ← Config.fromSlice (← sliceFrom packet.data (withNul name).length)
          some ()

def createObjectReads (packet : Packet) : Option Unit := do
  let _ ← Vanject.createFromSlice packet.data
  some ()

def setWorldReads (packet : Packet) : Option Unit := do
  let _ ← packet.data[0]?
  let _ ← sliceLeToI16 (← slice packet.data 1 3)
  some ()

def updateObjectReads (srv : Server) (packet : Packet) (clientId : ClientID) : Option Unit :=
  if packet.data.length < 4 then some ()
  else do
    let vanjectId ← sliceLeToI32 (← slice packet.data 0 4)
    match srv.getGameByClientid clientId with
    | none => some ()
    | some (_, game) =>
      match game.getPlayer clientId with
      | none => some ()
      | some player =>
        match player.bindId with
        | none => some ()
        | some playerBindId =>
          match game.vanjects.lookup vanjectId with
          | none => some ()
          | some vanject =>
            match updateRejection vanject vanjectId clientId playerBindId player.worldId with
            | some _ => some ()
            | none => do
              let _ ← vanject.updateFromSlice packet.data
              some ()

def deleteObjectReads (srv : Server) (packet : Packet) (clientId : ClientID) : Option Unit := do
  let vanjectId ← sliceLeToI32 (← slice packet.data 0 4)
  match srv.getGameByClientid clientId with
  | none => some ()
  | some (_, game) =>
    match (game.getPlayer clientId).bind Player.bindId with
    | none => some ()
    | some playerAuthId =>
      match game.vanjects.lookup vanjectId with
      | none => deletePacketReads packet
      | some vanject =>
        if vanject.playerBindId ≠ playerAuthId then some ()
        -- the byte behind the relayed head is looked up, not indexed
        else if isItemVanject vanject then some ()
        else deletePacketReads packet

def itemTransferReads (packet : Packet) : Option Unit := do
  let _ ← ItemTransfer.parse packet
  some ()

def directSendingReads (srv : Server) (packet : Packet) (clientId : ClientID) : Option Unit :=
  if packet.data.length < 4 + 1 + 1 then some ()
  else
    match srv.getGameByClientid clientId with
    | none => some ()
    | some (_, game) => do
      let mask ← sliceLeToU32 (← slice packet.data 0 4)
      match (directTargets game clientId mask).1 with
      | none => some ()
      | some player =>
        match player.bindId, player.auth with
        | some _, some _ => do
          let _ ← sliceFrom packet.data 4
          some ()
        | _, _ => some ()

/-- What handling a request reads of its data; the other handlers read nothing of it. -/
def reads (srv : Server) (packet : Packet) (clientId : ClientID) : Option Unit :=
  match packet.action with
  | .attachToGame => attachToGameReads packet
  | .restoreConnection => restoreConnectionReads packet
  | .registerName => srv.registerNameReads packet clientId
  | .setPlayerData => srv.setPlayerDataReads packet clientId
  | .setPosition => setPositionReads packet
  | .setGameData => srv.setGameDataReads packet clientId
  | .createObject => createObjectReads packet
  | .setWorld => setWorldReads packet
  | .updateObject => srv.updateObjectReads packet clientId
  | .deleteObject => srv.deleteObjectReads packet clientId
  | .itemTransfer => itemTransferReads packet
  | .directSending => srv.directSendingReads packet clientId
  | _ => some ()

/-! ### Which requests are long enough -/

/-- Whether a delete request for an id is relayed as it is: its sender has a number in a
game, and the object is not stored or is the sender's own and no item. -/
def RelaysDelete (srv : Server) (clientId : ClientID) (id : I32) : Prop :=
  ∃ key game player bind, Acting srv clientId key game player bind ∧
    ∀ v, game.vanjects.lookup id = some v → v.playerBindId = bind ∧ isItemVanject v = false

/-- A request that is as long as its handler takes for granted. -/
def LongEnough (srv : Server) (packet : Packet) (clientId : ClientID) : Prop :=
  match packet.action with
  | .setWorld => 3 ≤ packet.data.length
  | .deleteObject => 4 ≤ packet.data.length ∧
      ((∃ id, sliceLeToI32 (packet.data.take 4) = some id ∧ srv.RelaysDelete clientId id) →
        8 ≤ packet.data.length)
  | _ => True

end Server

/-! ### Exactly those are read in range -/

/-- The terminator of a C string is inside the data it was found in. -/
theorem length_cstrUntilNul {data name : Bytes} (h : cstrUntilNul data = some name) :
    (withNul name).length ≤ data.length := by
  unfold cstrUntilNul at h
  split at h
  · rename_i hmem
    simp only [Option.some.injEq] at h
    subst h
    have hlt : (data.takeWhile (· ≠ 0)).length < data.length := by
      refine lt_of_le_of_ne (List.takeWhile_sublist _).length_le ?_
      intro heq
      have hself := (List.takeWhile_prefix _).eq_of_length heq
      rw [← hself] at hmem
      simpa using List.mem_takeWhile_imp hmem
    simp only [withNul, List.length_append, List.length_cons, List.length_nil]
    omega
  · simp at h

namespace Server

variable {srv : Server} {packet : Packet} {c : ClientID}

theorem extractAuthDataReads_total (data : Bytes) : extractAuthDataReads data = some () := by
  unfold extractAuthDataReads
  split
  · rfl
  split
  · rfl
  split
  · rfl
  · rename_i hlen
    obtain ⟨rest, hrest⟩ := exists_sliceFrom (le_of_not_ge hlen)
    simp only [hrest, Option.bind_eq_bind, Option.bind_some]

theorem attachToGameReads_total : attachToGameReads packet = some () := by
  unfold attachToGameReads
  split
  · rfl
  · rename_i hlen
    obtain ⟨x, hx⟩ := sliceLeToI32_isSome (not_not.mp hlen)
    simp only [hx, Option.bind_eq_bind, Option.bind_some]

theorem restoreConnectionReads_total : restoreConnectionReads packet = some () := by
  unfold restoreConnectionReads
  split
  · rfl
  · obtain ⟨s, x, hs, hx⟩ := exists_readI32 (v := packet.data) (a := 0) (b := 4) (by omega) rfl
    obtain ⟨b, hb⟩ := exists_getElem (v := packet.data) (i := 4) (by omega)
    simp only [hs, hx, hb, Option.bind_eq_bind, Option.bind_some]

theorem registerNameReads_total : srv.registerNameReads packet c = some () := by
  unfold registerNameReads
  split
  · rfl
  split
  · rfl
  · exact extractAuthDataReads_total _

theorem setPlayerDataReads_total : srv.setPlayerDataReads packet c = some () := by
  unfold setPlayerDataReads
  split
  · rfl
  · obtain ⟨body, hbody⟩ := Body.fromSlice_total packet.data
    simp only [hbody, Option.bind_eq_bind, Option.bind_some]

theorem setPositionReads_total : setPositionReads packet = some () := by
  unfold setPositionReads
  split
  · rfl
  · obtain ⟨s0, x, hs0, hx⟩ := exists_readI16 (v := packet.data) (a := 0) (b := 2) (by omega) rfl
    obtain ⟨s2, y, hs2, hy⟩ := exists_readI16 (v := packet.data) (a := 2) (b := 4) (by omega) rfl
    obtain ⟨s4, z, hs4, hz⟩ := exists_readI16 (v := packet.data) (a := 4) (b := 6) (by omega) rfl
    simp only [hs0, hx, hs2, hy, hs4, hz, Option.bind_eq_bind, Option.bind_some]

theorem setGameDataReads_total : srv.setGameDataReads packet c = some () := by
  unfold setGameDataReads
  split
  · rfl
  split
  · rfl
  split
  · rfl
  rename_i name hname
  split
  · rfl
  · obtain ⟨rest, hrest⟩ := exists_sliceFrom (length_cstrUntilNul hname)
    obtain ⟨config, hconfig⟩ := Config.fromSlice_total rest
    simp only [hrest, hconfig, Option.bind_eq_bind, Option.bind_some]

theorem createObjectReads_total : createObjectReads packet = some () := by
  obtain ⟨r, hr⟩ := Vanject.createFromSlice_total packet.data
  simp only [createObjectReads, hr, Option.bind_eq_bind, Option.bind_some]

theorem updateObjectReads_total : srv.updateObjectReads packet c = some () := by
  unfold updateObjectReads
  split
  · rfl
  obtain ⟨s, id, hs, hid⟩ := exists_readI32 (v := packet.data) (a := 0) (b := 4) (by omega) rfl
  simp only [hs, hid, Option.bind_eq_bind, Option.bind_some]
  split
  · rfl
  split
  · rfl
  split
  · rfl
  split
  · rfl
  rename_i vanject _
  split
  · rfl
  · obtain ⟨r, hr⟩ := vanject.updateFromSlice_total packet.data
    simp only [hr, Option.bind_some]

theorem itemTransferReads_total : itemTransferReads packet = some () := by
  obtain ⟨r, hr⟩ := ItemTransfer.parse_total packet
  simp only [itemTransferReads, hr, Option.bind_eq_bind, Option.bind_some]

theorem directSendingReads_total : srv.directSendingReads packet c = some () := by
  unfold directSendingReads
  split
  · rfl
  split
  · rfl
  obtain ⟨s, mask, hs, hmask⟩ := exists_readI32 (v := packet.data) (a := 0) (b := 4) (by omega) rfl
  obtain ⟨rest, hrest⟩ := exists_sliceFrom (v := packet.data) (a := 4) (by omega)
  simp only [hs, sliceLeToU32, hmask, Option.bind_eq_bind, Option.bind_some]
  split
  · rfl
  split
  · simp only [hrest, Option.bind_some]
  · rfl

theorem setWorldReads_isSome : (setWorldReads packet).isSome ↔ 3 ≤ packet.data.length := by
  unfold setWorldReads
  by_cases hlen : 3 ≤ packet.data.length
  · obtain ⟨b, hb⟩ := exists_getElem (v := packet.data) (i := 0) (by omega)
    obtain ⟨s, x, hs, hx⟩ := exists_readI16 (v := packet.data) (a := 1) (b := 3) (by omega) rfl
    simp [hb, hs, hx, hlen]
  · simp [slice_eq_none hlen, hlen]

/-- The two slices of a relayed request. -/
theorem deletePacketReads_isSome : (deletePacketReads packet).isSome ↔ 8 ≤ packet.data.length := by
  unfold deletePacketReads
  by_cases hlen : 8 ≤ packet.data.length
  · obtain ⟨s, hs, -⟩ := exists_slice (v := packet.data) (a := 4) (b := 8) (n := 4) hlen rfl
    obtain ⟨rest, hrest⟩ := exists_sliceFrom (v := packet.data) (a := 8) hlen
    simp [hs, hrest, hlen]
  · simp [slice_eq_none hlen, hlen]

theorem relaysDelete_iff {key : GameID} {game : Game} {player : Player} {bind : UInt8} (id : I32)
    (hacting : Acting srv c key game player bind) :
    srv.RelaysDelete c id ↔
      ∀ v, game.vanjects.lookup id = some v → v.playerBindId = bind ∧ isItemVanject v = false := by
  constructor
  · intro ⟨key', game', player', bind', hacting', hown⟩
    obtain ⟨rfl, rfl, rfl, rfl⟩ := hacting.unique hacting'
    exact hown
  · exact fun hown => ⟨key, game, player, bind, hacting, hown⟩

theorem deleteObjectReads_isSome : (srv.deleteObjectReads packet c).isSome ↔
    4 ≤ packet.data.length ∧
      ((∃ id, sliceLeToI32 (packet.data.take 4) = some id ∧ srv.RelaysDelete c id) →
        8 ≤ packet.data.length) := by
  unfold deleteObjectReads
  by_cases hlen : 4 ≤ packet.data.length
  swap
  · simp [slice_eq_none hlen, hlen]
  obtain ⟨s, id, hs, hid⟩ := exists_readI32 (v := packet.data) (a := 0) (b := 4) hlen rfl
  have htake := slice_zero_four hs
  subst htake
  simp only [hs, hid, Option.bind_eq_bind, Option.bind_some, hlen, true_and, Option.some.injEq,
    exists_eq_left']
  -- the relay is read on the branches on which the request is relayed
  have hquiet : ¬ srv.RelaysDelete c id →
      ((some () : Option Unit).isSome ↔ (srv.RelaysDelete c id → 8 ≤ packet.data.length)) := by
    intro hnot
    simp [hnot]
  have hrelay : srv.RelaysDelete c id →
      ((deletePacketReads packet).isSome ↔ (srv.RelaysDelete c id → 8 ≤ packet.data.length)) := by
    intro hyes
    rw [deletePacketReads_isSome]
    simp [hyes]
  cases hgame : srv.getGameByClientid c with
  | none =>
      refine hquiet ?_
      rintro ⟨key, game, player, bind, hacting, -⟩
      rw [hacting.inGame] at hgame
      cases hgame
  | some found =>
      obtain ⟨key, game⟩ := found
      obtain ⟨player, hplayer⟩ := getGameByClientid_getPlayer hgame
      simp only [hplayer, Option.bind_some]
      cases hbind : player.bindId with
      | none =>
          refine hquiet ?_
          rintro ⟨key', game', player', bind, hacting, -⟩
          obtain ⟨rfl, rfl⟩ := Prod.mk.inj (Option.some.inj (hgame.symm.trans hacting.inGame))
          rw [Option.some.inj (hplayer.symm.trans hacting.found), hacting.bound] at hbind
          cases hbind
      | some bind =>
          have hiff := relaysDelete_iff id ⟨hgame, hplayer, hbind⟩
          cases hv : game.vanjects.lookup id with
          | none =>
              refine hrelay (hiff.mpr ?_)
              intro v hv'
              rw [hv] at hv'
              cases hv'
          | some v =>
              by_cases hown : v.playerBindId = bind
              · by_cases hitem : isItemVanject v = true
                · simp only [hown, ne_eq, not_true_eq_false, if_false, hitem, if_true]
                  refine hquiet fun hyes => ?_
                  have hno := ((hiff.mp hyes) v hv).2
                  rw [hitem] at hno
                  cases hno
                · simp only [hown, ne_eq, not_true_eq_false, if_false, hitem]
                  refine hrelay (hiff.mpr ?_)
                  intro w hw
                  obtain rfl := Option.some.inj (hv.symm.trans hw)
                  exact ⟨hown, by simpa using hitem⟩
              · simp only [ne_eq, hown, not_false_eq_true, if_true]
                exact hquiet fun hyes => hown ((hiff.mp hyes) v hv).1

/-- **What is read is in range exactly when the request is long enough.** -/
theorem reads_isSome : (srv.reads packet c).isSome ↔ srv.LongEnough packet c := by
  unfold reads LongEnough
  cases packet.action
  case setWorld => exact setWorldReads_isSome
  case deleteObject => exact deleteObjectReads_isSome
  case attachToGame => simp [attachToGameReads_total]
  case restoreConnection => simp [restoreConnectionReads_total]
  case registerName => simp [registerNameReads_total]
  case setPlayerData => simp [setPlayerDataReads_total]
  case setPosition => simp [setPositionReads_total]
  case setGameData => simp [setGameDataReads_total]
  case createObject => simp [createObjectReads_total]
  case updateObject => simp [updateObjectReads_total]
  case itemTransfer => simp [itemTransferReads_total]
  case directSending => simp [directSendingReads_total]
  all_goals simp

end Server

end VangersSrv
