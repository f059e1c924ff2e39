/-
The free player slots of a game.

The walk of `get_uniq_player_id` is the one of `FirstGap`: the numbers that are held, sorted, are
walked beside the numbers there are.  They are all among them, so the walk finds the least free one.
-/
import VangersSrv.Game
import VangersSrv.Lib.FirstGap

namespace VangersSrv

/-- The numbers players are given. -/
def ValidBind (b : UInt8) : Prop := 1 ≤ b.toNat ∧ b.toNat ≤ 30

namespace Game

/-- The numbers that players hold, in the order of the players. -/
def heldIds (g : Game) : List UInt8 := g.players.filterMap Player.bindId

/-- The least of the numbers that no player holds. -/
structure LeastFree (g : Game) (b : UInt8) : Prop where
  valid : ValidBind b
  free : b ∉ g.heldIds
  least : ∀ a, ValidBind a → a ∉ g.heldIds → b ≤ a

/-- Every number is held. -/
def Full (g : Game) : Prop := ∀ b, ValidBind b → b ∈ g.heldIds

/-- The numbers that are held are distinct and in range. -/
structure SlotsOk (g : Game) : Prop where
  distinct : g.heldIds.Nodup
  valid : ∀ b ∈ g.heldIds, ValidBind b

/-- The numbers there are. -/
def slots : List UInt8 := (List.range' minPlayerId maxPlayerId).map UInt8.ofNat

section

variable {g g' : Game} {b : UInt8}

theorem mem_slots : b ∈ slots ↔ ValidBind b := by
  constructor
  · intro h
    obtain ⟨n, hn, rfl⟩ := List.mem_map.mp h
    rw [List.mem_range'_1] at hn
    simp only [minPlayerId, maxPlayerId] at hn
    rw [ValidBind, UInt8.toNat_ofNat']
    omega
  · intro h
    refine List.mem_map.mpr ⟨b.toNat, ?_, UInt8.ofNat_toNat⟩
    rw [List.mem_range'_1]
    have hlow := h.1
    have hhigh := h.2
    simp only [minPlayerId, maxPlayerId]
    omega

theorem slots_sorted : slots.Pairwise (· < ·) := by decide

theorem scanIds_eq (ids candidates : List UInt8) :
    scanIds ids candidates = FirstGap.firstGap ids candidates := by
  fun_induction scanIds ids candidates with
  | case1 ids => cases ids <;> rfl
  | case2 => rfl
  | case3 id ids rest ih => rw [ih, FirstGap.firstGap, if_pos rfl]
  | case4 id ids c rest hne => rw [FirstGap.firstGap, if_neg hne]

theorem getUniqPlayerId_eq (g : Game) :
    g.getUniqPlayerId = FirstGap.firstGap (g.heldIds.insertionSort (· ≤ ·)) slots :=
  scanIds_eq _ _

namespace SlotsOk

theorem sorted (h : g.SlotsOk) : (g.heldIds.insertionSort (· ≤ ·)).Pairwise (· < ·) := by
  have hle := List.pairwise_insertionSort (· ≤ ·) g.heldIds
  have hnodup := (List.perm_insertionSort (· ≤ ·) g.heldIds).nodup_iff.mpr h.distinct
  exact hle.imp₂ (fun _ _ hab hne => UInt8.lt_of_le_of_ne hab hne) (List.nodup_iff_pairwise_ne.mp hnodup)

theorem subset_slots (h : g.SlotsOk) : g.heldIds.insertionSort (· ≤ ·) ⊆ slots := by
  intro b hb
  exact mem_slots.mpr (h.valid b ((List.mem_insertionSort (· ≤ ·)).mp hb))

/-- The search finds the least free number. -/
theorem getUniqPlayerId_eq_some (h : g.SlotsOk) : g.getUniqPlayerId = some b ↔ g.LeastFree b := by
  rw [getUniqPlayerId_eq, FirstGap.firstGap_eq_some_iff h.sorted slots_sorted h.subset_slots]
  constructor
  · rintro ⟨hcandidate, hfree, hleast⟩
    rw [List.mem_insertionSort] at hfree
    refine ⟨mem_slots.mp hcandidate, hfree, fun a hvalid hnot => ?_⟩
    rcases hleast a (mem_slots.mpr hvalid) (by simpa using hnot) with rfl | hlt
    · exact UInt8.le_refl a
    · exact UInt8.le_of_lt hlt
  · rintro ⟨hvalid, hfree, hleast⟩
    refine ⟨mem_slots.mpr hvalid, by simpa using hfree, fun a hcandidate hnot => ?_⟩
    have hle := hleast a (mem_slots.mp hcandidate) (by simpa using hnot)
    by_cases heq : a = b
    · exact Or.inl heq
    · exact Or.inr (UInt8.lt_of_le_of_ne hle (Ne.symm heq))

/-- The search fails when every number is held. -/
theorem getUniqPlayerId_eq_none (h : g.SlotsOk) : g.getUniqPlayerId = none ↔ g.Full := by
  rw [getUniqPlayerId_eq, FirstGap.firstGap_eq_none_iff h.sorted slots_sorted h.subset_slots]
  simp only [mem_slots, List.mem_insertionSort, Full]

theorem append (h : g.SlotsOk) (hfree : g.LeastFree b) (hheld : g'.heldIds = g.heldIds ++ [b]) :
    g'.SlotsOk := by
  constructor
  · rw [hheld, List.nodup_append']
    exact ⟨h.distinct, List.nodup_singleton b, by simpa using hfree.free⟩
  · intro a ha
    rw [hheld, List.mem_append, List.mem_singleton] at ha
    rcases ha with ha | rfl
    · exact h.valid a ha
    · exact hfree.valid

end SlotsOk

theorem getUniqPlayerId_valid (h : g.getUniqPlayerId = some b) : ValidBind b :=
  mem_slots.mp (scanIds_mem h)

/-- Who is attached gets the number that was found. -/
theorem attachPlayer_of_some (p : Player) (h : g.getUniqPlayerId = some b) :
    ∃ g', g.attachPlayer p = some (some (g', b)) ∧ g'.heldIds = g.heldIds ++ [b] := by
  have hpos := getUniqPlayerId_pos h
  have hne : b ≠ 0 := by
    rintro rfl
    exact absurd hpos (by decide)
  have hvalid := getUniqPlayerId_valid h
  have hle : 1 ≤ b.toNat ∧ b.toNat ≤ 31 := ⟨hvalid.1, Nat.le_succ_of_le hvalid.2⟩
  have hbind : Bind.new b = some ⟨b, hle⟩ := dif_pos hle
  have hattach : g.attachPlayer p = some (some ({ g with
      removedPlayers := g.removedPlayers.filter fun removed => removed.bindId ≠ b
      players := g.players ++ [{ p with bind := some ⟨b, hle⟩ }] }, b)) := by
    unfold attachPlayer
    simp only [h, if_pos hpos, Player.setBind, if_neg hne, hbind, Option.map_some,
      Option.bind_eq_bind, Option.bind_some]
  exact ⟨_, hattach, by simp [heldIds, Player.bindId]⟩

theorem attachPlayer_of_none (p : Player) (h : g.getUniqPlayerId = none) :
    g.attachPlayer p = some none := by
  unfold attachPlayer
  rw [h]

/-- **Free slots are found exactly**: the search finds the least free number unless every number is
held, and a player is attached under it, so the numbers stay distinct. -/
theorem free_slot_exact (p : Player) (hok : g.SlotsOk) :
    (∀ b, g.getUniqPlayerId = some b ↔ g.LeastFree b) ∧ (g.getUniqPlayerId = none ↔ g.Full) ∧
      (g.attachPlayer p = some none ↔ g.Full) ∧
      (¬ g.Full → ∃ g' b, g.attachPlayer p = some (some (g', b)) ∧ g.LeastFree b ∧
        g'.heldIds = g.heldIds ++ [b] ∧ g'.SlotsOk) := by
  have hattached : ¬ g.Full → ∃ g' b, g.attachPlayer p = some (some (g', b)) ∧ g.LeastFree b ∧
      g'.heldIds = g.heldIds ++ [b] ∧ g'.SlotsOk := by
    intro hfull
    obtain ⟨b, hb⟩ := Option.ne_none_iff_exists'.mp (mt hok.getUniqPlayerId_eq_none.mp hfull)
    have hleast := hok.getUniqPlayerId_eq_some.mp hb
    obtain ⟨g', hattach, hheld⟩ := attachPlayer_of_some p hb
    exact ⟨g', b, hattach, hleast, hheld, hok.append hleast hheld⟩
  refine ⟨fun b => hok.getUniqPlayerId_eq_some, hok.getUniqPlayerId_eq_none, ⟨fun h => ?_, fun h => ?_⟩,
    hattached⟩
  · by_contra hfull
    obtain ⟨g', b, hattach, -⟩ := hattached hfull
    rw [hattach] at h
    cases h
  · exact attachPlayer_of_none p (hok.getUniqPlayerId_eq_none.mpr h)

end

/-- The numbers 1 and 3 are held, the later one by the first player. -/
def withGap : Game :=
  { Game.new 1 0 with
    players := [{ Player.new 7 with bind := some ⟨3, by decide⟩ },
      { Player.new 8 with bind := some ⟨1, by decide⟩ }] }

/-- The next player gets the number between them. -/
theorem free_slot_exact_gap : withGap.LeastFree 2 ∧ ∃ g',
    withGap.attachPlayer (Player.new 9) = some (some (g', 2)) ∧ g'.heldIds = [3, 1, 2] := by
  have hsub : withGap.heldIds ⊆ slots := by decide
  have hok : withGap.SlotsOk := ⟨by decide, fun b hb => mem_slots.mp (hsub hb)⟩
  obtain ⟨hsome, -, -, hattached⟩ := free_slot_exact (Player.new 9) hok
  have hleast : withGap.LeastFree 2 := (hsome 2).mp rfl
  have hnot : ¬ withGap.Full := fun hfull => hleast.free (hfull 2 hleast.valid)
  obtain ⟨g', b, hattach, hleast', hheld, -⟩ := hattached hnot
  have hb := ((hsome b).mpr hleast').symm.trans ((hsome 2).mpr hleast)
  cases hb
  exact ⟨hleast, g', hattach, hheld⟩

end Game

end VangersSrv
