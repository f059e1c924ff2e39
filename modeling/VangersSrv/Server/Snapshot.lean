/-
The snapshot of a world.

A player that enters a world is sent a marker that empties its replica, and then every
object of the world it is to see.  `Effect.snapshot`: whatever the replica held before, it
agrees with the store afterwards.  What a player owns itself is not in the snapshot, and
neither are the types that other clients do not follow.
-/
import VangersSrv.Server.Followed

namespace VangersSrv

open Replica

/-- The types a snapshot is about. -/
def snapshotTypes : List I32 := [NID.vanger, NID.slot, NID.device, NID.shell, NID.stuff]

/-- What the player with a number is shown: the owner is the first byte of an entry. -/
def Shown (b : UInt8) (id : I32) (entry : Bytes) : Prop :=
  getVanjectType id ∈ snapshotTypes ∧ entry.head? ≠ some b

section

variable {env : Env} {packet : Packet} {c : ClientID} {srv srv' : Server} {sent : List Sent}
  {game : Game} {vanjects : Vanjects} {v : Vanject} {id : I32} {b w : UInt8}

/-! ### What is in a snapshot -/

theorem head?_entry (v : Vanject) : v.entry.head? = some v.playerBindId := by
  rw [v.entry_eq]
  rfl

/-- The world of an id fits a byte. -/
theorem asI32_worldOf (id : I32) : asI32 (worldOf id) = getWorld id := by
  have hle : (getWorld id).toNat ≤ 15 := by
    unfold getWorld
    rw [BitVec.toNat_and]
    exact Nat.and_le_right
  apply BitVec.eq_of_toNat_eq
  simp only [asI32, worldOf, asU8, BitVec.toNat_ofNat, UInt8.toNat_ofNat']
  omega

theorem mem_worldSnapshot :
    v ∈ worldSnapshot vanjects w b ↔
      v ∈ vanjects.values ∧ shouldIncludeInWorldSnapshot v w b = true := by
  unfold worldSnapshot
  rw [List.mem_insertionSort, List.mem_filter]

/-- No snapshot leaves out what is shown and in sight. -/
theorem included_of_shown (hsight : InSight w id) (hid : v.id = id) (hshown : Shown b id v.entry) :
    shouldIncludeInWorldSnapshot v w b = true := by
  obtain ⟨htype, howner⟩ := hshown
  rw [head?_entry, ne_eq, Option.some.injEq] at howner
  have hlocal : isNonGlobalVanject id = true := by
    rw [isNonGlobalVanject_of_type rfl]
    revert htype
    generalize getVanjectType id = t
    simp only [snapshotTypes, List.mem_cons, List.not_mem_nil, or_false]
    rintro (rfl | rfl | rfl | rfl | rfl) <;> decide
  have hworld : v.getWorld = asI32 w := by
    rw [← hsight.resolve_right (by simp [hlocal]), asI32_worldOf, ← hid]
    rfl
  have htype' : v.getType ∈ snapshotTypes := by
    unfold Vanject.getType
    rw [hid]
    exact htype
  unfold shouldIncludeInWorldSnapshot
  simp only [snapshotTypes, List.mem_cons, List.not_mem_nil, or_false] at htype'
  rcases htype' with h | h | h | h | h <;> simp [hworld, h, howner]

/-- **The packets of a snapshot make any replica agree with the store.** -/
theorem agrees_of_snapshot {snapshot : List Packet} {r : View I32 Bytes}
    (hkeyed : ∀ id v, vanjects.lookup id = some v → v.id = id)
    (h : (worldSnapshot vanjects w b).mapM statePacket = some snapshot) :
    Agrees (InSight w) (Shown b) (storedView vanjects)
      ((Write.clear.andThen (Write.all (snapshot.map Packet.write))).on r) := by
  -- every packet puts an object that is stored
  have hput : ∀ write ∈ snapshot.map Packet.write, ∃ v, v ∈ worldSnapshot vanjects w b ∧
      vanjects.lookup v.id = some v ∧ write = .put v.id v.entry := by
    intro write hwrite
    obtain ⟨q, hq, rfl⟩ := List.mem_map.mp hwrite
    obtain ⟨v, hv, hstate⟩ := (mem_mapM h).mp hq
    obtain ⟨id, hid⟩ := AList.mem_values.mp (mem_worldSnapshot.mp hv).1
    exact ⟨v, hv, by rw [hkeyed id v hid]; exact hid, write_statePacket hstate⟩
  have hstored : ∀ write ∈ snapshot.map Packet.write, ∀ k y, write k = some y →
      y = storedView vanjects k := by
    intro write hwrite k y hy
    obtain ⟨v, -, hv, rfl⟩ := hput write hwrite
    simp only [Write.put] at hy
    split at hy
    · rename_i hk
      rw [← Option.some.inj hy, hk, storedView, hv]
      rfl
    · cases hy
  refine .fresh (fun k e hk he hshown => ?_) fun k _ => ?_
  · obtain ⟨v, hv, rfl⟩ := Option.map_eq_some_iff.mp he
    have hid := hkeyed k v hv
    have hmem : v ∈ worldSnapshot vanjects w b :=
      mem_worldSnapshot.mpr ⟨AList.mem_values.mpr ⟨k, hv⟩, included_of_shown hk hid hshown⟩
    obtain ⟨q, hq, hstate⟩ := exists_of_mapM h hmem
    have hall : Write.all (snapshot.map Packet.write) k = some (some v.entry) := by
      refine Write.all_eq_some (fun write hwrite => ?_)
        ⟨q.write, List.mem_map_of_mem hq, ?_⟩
      · cases hy : write k with
        | none => exact Or.inl rfl
        | some y => exact Or.inr (by rw [hstored write hwrite k y hy, he])
      · rw [write_statePacket hstate, hid]
        simp [Write.put]
    simp [Write.andThen, hall]
  · cases hy : Write.all (snapshot.map Packet.write) k with
    | none => exact ⟨none, by simp [Write.andThen, Write.clear, hy], fun _ h => by cases h⟩
    | some y =>
        obtain ⟨write, hwrite, hw⟩ := Write.exists_of_all hy
        refine ⟨y, by simp [Write.andThen, hy], fun e he => ?_⟩
        rw [← hstored write hwrite k y hw, he]

/-! ### Who is sent one -/

theorem Packet.Quiet.not_begin {q : Packet} (h : q.Quiet) : q.action ≠ .worldSnapshotBegin := by
  intro hbegin
  simp [Packet.Quiet, hbegin] at h

theorem Prelude.no_snapshot {x : ClientID} (h : Prelude env packet c srv sent srv') :
    ¬ SentSnapshot x sent := by
  cases h with
  | playerChanged _ _ _ _ _ _ hquiet => exact not_sentSnapshot fun s hs => (hquiet s hs).not_begin
  | left _ _ _ _ hdeletes hquiet =>
      refine not_sentSnapshot fun s hs => ?_
      rcases List.mem_append.mp hs with hs | hs
      · obtain ⟨e, he, hs⟩ := List.mem_flatMap.mp hs
        obtain ⟨v, -, -, hpacket⟩ := leaveDeletes_packet hdeletes ((env.drain_perm _).mem_iff.mp he)
        rw [Server.notify_packet hs, (Packet.new_eq_some hpacket).1]
        decide
      · rw [Server.notify_packet hs]
        exact hquiet.not_begin

theorem replayPackets_action {existing : Vanject} {packets : List Packet} {q : Packet}
    (h : replayPackets existing = some packets) (hq : q ∈ packets) :
    q.action ≠ .worldSnapshotBegin := by
  intro hbegin
  have hclear : q.write = .clear := by
    unfold Packet.write
    rw [hbegin]
  rcases write_replayPackets h hq with hput | hskip
  · have hsame := congrFun (hput.symm.trans hclear) existing.id
    simp [Write.put, Write.clear] at hsame
  · have hsame := congrFun (hskip.symm.trans hclear) existing.id
    simp [Write.skip, Write.clear] at hsame

/-- **After a snapshot the replica of its sender agrees with the store.** -/
theorem Effect.snapshot {k : GameID} {g : Game} {p : Player} {r : View I32 Bytes}
    (h : Effect env packet c srv sent srv') (haction : packet.action = .setWorld)
    (hok : RegistryOk srv) (hone' : OneHolder srv') (hsnap : SentSnapshot c sent)
    (hx : c ∈ srv'.connected) (hin : InWorld srv' c k g p w) (hb : p.bindId = some b) :
    Agrees (InSight w) (Shown b) (storedView g.vanjects) ((sentTo c sent).on r) := by
  cases h with
  | @entered key game player bind worlds world pre response snapshotBegin playersSnapshot
      snapshotEnd snapshot _ _ hacting _ hsnapshot hpre hresponse hbegin hplayers hend =>
      have hlookup := Server.getGameByClientid_lookup hacting.inGame
      have hfound := Game.getPlayer_modifyPlayer
        (f := fun p => { p with world := some world, status := .gaming }) hacting.found rfl
      have hplayer : (game.entered c worlds world).getPlayer c
          = some { player with world := some world, status := .gaming } := hfound
      have hgame' : (srv.setGame key (game.entered c worlds world)).getGameByClientid c
          = some (key, game.entered c worlds world) :=
        Server.getGameByClientid_setGame hacting.inGame ⟨_, hfound⟩
      -- the sender's player is the one that entered
      obtain ⟨rfl, rfl, rfl⟩ := hone'.unique hin.inGame hin.mem
        (Server.lookup_setGame_self hlookup) (Game.getPlayer_mem hplayer)
        (by rw [hin.client, Game.getPlayer_clientId hplayer])
      have hw : world.id = w := Option.some.inj hin.world
      have hbind : bind = b := Option.some.inj (hacting.bound.symm.trans hb)
      subst hw hbind
      have hsent : sentTo c (pre ++ ([response, snapshotBegin, playersSnapshot] ++ snapshot
            ++ [snapshotEnd]).flatMap
              ((srv.setGame k (game.entered c worlds world)).notifyPlayer c))
          = Write.clear.andThen (Write.all (snapshot.map Packet.write)) := by
        have hclear : snapshotBegin.write = .clear := by
          unfold Packet.write
          rw [hbegin]
        have hwrites : (fun q => sentTo c
            ((srv.setGame k (game.entered c worlds world)).notifyPlayer c q)) = Packet.write := by
          funext q
          rw [sentTo_notifyPlayer hgame' hx, if_pos rfl]
        rw [sentTo_append, sentTo_quiet hpre, Write.skip_andThen, sentTo_flatMap, hwrites]
        simp [Write.all_append, write_quiet hresponse, write_quiet hplayers, write_quiet hend, hclear]
      rw [hsent]
      exact agrees_of_snapshot
        (fun id v hv => ((hok.game _ _ hlookup).keyed id v hv).1) hsnapshot
  | prelude h => exact absurd hsnap h.no_snapshot
  | quiet hquiet => exact absurd hsnap (not_sentSnapshot fun s hs => (hquiet s hs).not_begin)
  | gameChanged _ => exact absurd hsnap (not_sentSnapshot (by simp))
  | worldMade _ _ _ _ => exact absurd hsnap (not_sentSnapshot (by simp))
  | replayed _ _ hpackets =>
      refine absurd hsnap (not_sentSnapshot fun s hs => ?_)
      obtain ⟨q, hq, hs⟩ := List.mem_flatMap.mp hs
      rw [Server.notify_packet hs]
      exact replayPackets_action hpackets hq
  | counted ha _ _ => cases ha.symm.trans haction
  | attached ha _ _ _ _ => cases ha.symm.trans haction
  | restored ha _ _ _ _ => cases ha.symm.trans haction
  | created ha _ _ _ _ _ => cases ha.symm.trans haction
  | updated ha _ _ _ _ _ _ => cases ha.symm.trans haction
  | deleted ha _ _ _ _ => cases ha.symm.trans haction
  | deleteMissed ha _ _ _ => cases ha.symm.trans haction
  | transferred ha _ _ _ _ _ _ => cases ha.symm.trans haction
  | closed ha _ _ _ => cases ha.symm.trans haction
  | closedLast ha _ _ _ => cases ha.symm.trans haction

end

end VangersSrv
