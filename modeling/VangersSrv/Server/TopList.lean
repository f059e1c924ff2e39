/-
The top list.

A rating is four bytes from a client.  One that is NaN compares with nothing and is taken to be equal
to everything, so the comparator orders the entries only when there is none, or when the others are
all the same.
-/
import Mathlib.Data.List.ReduceOption
import VangersSrv.Lib.Ranking
import VangersSrv.Server.PlayersList

namespace VangersSrv

/-! ### What is ranked -/

namespace F32

/-- A float as a member of a linear order, unless it is NaN. -/
def value (x : BitVec 32) : Option Int := if isNaN x then none else some (key x)

/-- `x > y` of two floats. -/
def Greater (x y : BitVec 32) : Prop := ∃ m n, value x = some m ∧ value y = some n ∧ n < m

end F32

/-- What an entry is ranked by. -/
def TopEntry.value (e : TopEntry) : Option Int := F32.value e.rating

namespace Server

/-- A player of the mode has the rating: one that is present, with a name and a body, or one that was
removed, with a body that parses. -/
def Rated (srv : Server) (mode : UInt8) (x : BitVec 32) : Prop :=
  ∃ k g, srv.games.lookup k = some g ∧ g.isConfigured ∧ asU8 g.getGmtype.toI32 = mode ∧
    ((∃ p ∈ g.players, p.auth.isSome ∧ ∃ body, p.body = some body ∧ body.rating = x) ∨
      ∃ r ∈ g.removedPlayers, ∃ body, Body.fromSlice r.body = some (some body) ∧ body.rating = x)

/-- No rating is NaN, or those that are not are all the same. -/
def RatingsCompare (srv : Server) (mode : UInt8) : Prop :=
  (∀ x, srv.Rated mode x → F32.isNaN x = false) ∨
    ∀ x y, srv.Rated mode x → srv.Rated mode y → F32.isNaN x = false → F32.isNaN y = false →
      F32.key x = F32.key y

end Server

/-- The answer: the mode, the count and the entries. -/
def topListData (mode : UInt8) (listed : List TopEntry) : Bytes :=
  [mode, UInt8.ofNat listed.length] ++ listed.flatMap fun e => e.name ++ toLeBytes32 e.rating

/-- The comparator orders what is collected, and the list is the best of it: no rating is behind a
lesser one, there are ten entries if there are so many, and none left out is rated better. -/
def Server.TopListOrdered (env : Env) (srv : Server) (packet : Packet) (mode : UInt8) : Prop :=
  ∃ entries listed rest, srv.topListEntries mode = some entries ∧
    Ranking.TotalPreorderOn TopEntry.compare entries ∧
    srv.topListQuery env packet = srv.respond packet (topListData mode listed) ∧
    (listed ++ rest).Perm entries ∧
    listed.Pairwise (fun a b => ¬ F32.Greater b.rating a.rating) ∧
    listed.length = min 10 entries.length ∧
    ∀ a ∈ listed, ∀ b ∈ rest, ¬ F32.Greater b.rating a.rating

section

variable {env : Env} {srv : Server} {packet : Packet} {mode : UInt8} {entries sorted : List TopEntry}
  {x : BitVec 32}

/-! ### The comparator -/

theorem F32.value_eq_none : F32.value x = none ↔ F32.isNaN x = true := by
  unfold F32.value
  split <;> simp_all

theorem F32.value_eq_some {m : Int} : F32.value x = some m ↔ F32.isNaN x = false ∧ F32.key x = m := by
  unfold F32.value
  split <;> simp_all

theorem TopEntry.compare_eq : TopEntry.compare = Ranking.byValue TopEntry.value := by
  funext a b
  unfold TopEntry.compare F32.partialCmp
  cases ha : F32.isNaN a.rating with
  | true =>
      have hnone : a.value = none := F32.value_eq_none.mpr ha
      rw [Ranking.byValue_of_none (Or.inl hnone), Bool.or_true]
      rfl
  | false =>
      have hsome : a.value = some (F32.key a.rating) := F32.value_eq_some.mpr ⟨ha, rfl⟩
      cases hb : F32.isNaN b.rating with
      | true =>
          have hnone : b.value = none := F32.value_eq_none.mpr hb
          rw [Ranking.byValue_of_none (Or.inr hnone)]
          rfl
      | false =>
          have hsome' : b.value = some (F32.key b.rating) := F32.value_eq_some.mpr ⟨hb, rfl⟩
          rw [Ranking.byValue_of_some hsome hsome']
          rfl

theorem TopEntry.compare_ne_gt {a b : TopEntry} :
    a.compare b ≠ .gt ↔ ¬ F32.Greater b.rating a.rating := by
  rw [TopEntry.compare_eq, ne_eq, Ranking.byValue_eq_gt, F32.Greater]
  refine not_congr ⟨?_, ?_⟩
  · rintro ⟨m, n, hm, hn, hlt⟩
    exact ⟨n, m, hn, hm, hlt⟩
  · rintro ⟨n, m, hn, hm, hlt⟩
    exact ⟨m, n, hm, hn, hlt⟩

/-! ### The entries -/

/-- The entries are those of each game of the mode, one game after the other. -/
theorem topListEntries_eq_some :
    srv.topListEntries mode = some entries ↔
      ∃ perGame, (srv.games.values.filter fun game =>
          game.isConfigured && asU8 game.getGmtype.toI32 = mode).mapM topEntries = some perGame ∧
        perGame.flatten = entries := by
  simp only [Server.topListEntries, Option.bind_eq_bind, Option.bind_eq_some_iff, Option.some.injEq]

theorem topListQuery_eq (hmode : packet.data.head? = some mode)
    (hentries : srv.topListEntries mode = some entries) (hsorted : env.sortBy entries = some sorted) :
    srv.topListQuery env packet = srv.respond packet (topListData mode (sorted.take topListLimit)) := by
  unfold Server.topListQuery
  simp only [hmode, hentries, hsorted, Option.bind_eq_bind, Option.bind_some]
  rfl

/-- An entry of a game is one of a player that is present, or that was removed. -/
theorem mem_topEntries {g : Game} (h : topEntries g = some entries) {e : TopEntry} :
    e ∈ entries ↔
      (∃ p ∈ g.players, ∃ auth body, p.auth = some auth ∧ p.body = some body ∧
        e = { name := auth.name, rating := body.rating }) ∨
      ∃ r ∈ g.removedPlayers, ∃ body, Body.fromSlice r.body = some (some body) ∧
        e = { name := r.name, rating := body.rating } := by
  unfold topEntries at h
  simp only [Option.bind_eq_bind, Option.bind_eq_some_iff, Option.some.injEq] at h
  obtain ⟨removed, hremoved, rfl⟩ := h
  rw [List.mem_append]
  refine or_congr ?_ ?_
  · simp only [List.mem_filterMap, Option.bind_eq_some_iff, Option.some.injEq]
    constructor
    · rintro ⟨p, hp, auth, hauth, body, hbody, rfl⟩
      exact ⟨p, hp, auth, body, hauth, hbody, rfl⟩
    · rintro ⟨p, hp, auth, body, hauth, hbody, rfl⟩
      exact ⟨p, hp, auth, hauth, body, hbody, rfl⟩
  · rw [List.reduceOption_mem_iff, mem_mapM hremoved]
    simp only [Option.bind_eq_some_iff, Option.some.injEq, Option.map_eq_some_iff]
    constructor
    · rintro ⟨r, hr, _, hparse, body, rfl, rfl⟩
      exact ⟨r, hr, body, hparse, rfl⟩
    · rintro ⟨r, hr, body, hparse, rfl⟩
      exact ⟨r, hr, some body, hparse, body, rfl, rfl⟩

/-- An entry of the mode is one of a game of the mode. -/
theorem mem_topListEntries (hentries : srv.topListEntries mode = some entries) {e : TopEntry} :
    e ∈ entries ↔ ∃ k g, srv.games.lookup k = some g ∧ g.isConfigured ∧
      asU8 g.getGmtype.toI32 = mode ∧
        ((∃ p ∈ g.players, ∃ auth body, p.auth = some auth ∧ p.body = some body ∧
          e = { name := auth.name, rating := body.rating }) ∨
        ∃ r ∈ g.removedPlayers, ∃ body, Body.fromSlice r.body = some (some body) ∧
          e = { name := r.name, rating := body.rating }) := by
  obtain ⟨perGame, hgames, rfl⟩ := topListEntries_eq_some.mp hentries
  rw [List.mem_flatten]
  constructor
  · rintro ⟨ofGame, hofGame, he⟩
    obtain ⟨g, hg, htop⟩ := (mem_mapM hgames).mp hofGame
    obtain ⟨hmem, hcond⟩ := List.mem_filter.mp hg
    obtain ⟨k, hk⟩ := AList.mem_values.mp hmem
    simp only [Bool.and_eq_true, decide_eq_true_eq] at hcond
    exact ⟨k, g, hk, hcond.1, hcond.2, (mem_topEntries htop).mp he⟩
  · rintro ⟨k, g, hk, hconfigured, hmode, hplayer⟩
    have hg : g ∈ srv.games.values.filter fun game =>
        game.isConfigured && asU8 game.getGmtype.toI32 = mode :=
      List.mem_filter.mpr ⟨AList.mem_values.mpr ⟨k, hk⟩, by simp [hconfigured, hmode]⟩
    obtain ⟨ofGame, hofGame, htop⟩ := exists_of_mapM hgames hg
    exact ⟨ofGame, hofGame, (mem_topEntries htop).mpr hplayer⟩

/-- The ratings of the entries are those of the players. -/
theorem rated_iff (hentries : srv.topListEntries mode = some entries) :
    srv.Rated mode x ↔ ∃ e ∈ entries, e.rating = x := by
  constructor
  · rintro ⟨k, g, hk, hconfigured, hmode, ⟨p, hp, hauth, body, hbody, hrating⟩ |
      ⟨r, hr, body, hparse, hrating⟩⟩
    · obtain ⟨auth, hauth⟩ := Option.isSome_iff_exists.mp hauth
      exact ⟨_, (mem_topListEntries hentries).mpr
        ⟨k, g, hk, hconfigured, hmode, Or.inl ⟨p, hp, auth, body, hauth, hbody, rfl⟩⟩, hrating⟩
    · exact ⟨_, (mem_topListEntries hentries).mpr
        ⟨k, g, hk, hconfigured, hmode, Or.inr ⟨r, hr, body, hparse, rfl⟩⟩, hrating⟩
  · rintro ⟨e, he, rfl⟩
    obtain ⟨k, g, hk, hconfigured, hmode, ⟨p, hp, auth, body, hauth, hbody, rfl⟩ |
      ⟨r, hr, body, hparse, rfl⟩⟩ := (mem_topListEntries hentries).mp he
    · exact ⟨k, g, hk, hconfigured, hmode, Or.inl ⟨p, hp, by rw [hauth]; rfl, body, hbody, rfl⟩⟩
    · exact ⟨k, g, hk, hconfigured, hmode, Or.inr ⟨r, hr, body, hparse, rfl⟩⟩

/-- The entries compare when the ratings do. -/
theorem ratingsCompare_iff (hentries : srv.topListEntries mode = some entries) :
    srv.RatingsCompare mode ↔ Ranking.TotalPreorderOn TopEntry.compare entries := by
  have hvalue : ∀ {e : TopEntry}, e.value ≠ none ↔ F32.isNaN e.rating = false := by
    intro e
    rw [ne_eq, TopEntry.value, F32.value_eq_none, Bool.not_eq_true]
  rw [TopEntry.compare_eq, Ranking.totalPreorderOn_byValue_iff]
  simp only [Server.RatingsCompare, rated_iff hentries, hvalue]
  refine or_congr ⟨fun h a ha => h _ ⟨a, ha, rfl⟩, ?_⟩ ⟨fun h a ha b hb hna hnb => ?_, ?_⟩
  · rintro h _ ⟨a, ha, rfl⟩
    exact h a ha
  · have hkey := h _ _ ⟨a, ha, rfl⟩ ⟨b, hb, rfl⟩ hna hnb
    rw [TopEntry.value, TopEntry.value, F32.value_eq_some.mpr ⟨hna, hkey⟩,
      F32.value_eq_some.mpr ⟨hnb, rfl⟩]
  · rintro h _ _ ⟨a, ha, rfl⟩ ⟨b, hb, rfl⟩ hna hnb
    have heq := h a ha b hb hna hnb
    rw [TopEntry.value, TopEntry.value, F32.value_eq_some.mpr ⟨hna, rfl⟩,
      F32.value_eq_some.mpr ⟨hnb, rfl⟩, Option.some.injEq] at heq
    exact heq

/-- **The top list is well ordered exactly when its ratings compare**: when none is NaN, or those that
are not are all the same. -/
theorem top_list_ordered_iff (hmode : packet.data.head? = some mode) :
    srv.TopListOrdered env packet mode ↔ srv.RatingsCompare mode := by
  obtain ⟨entries, hentries⟩ := srv.topListEntries_total mode
  rw [ratingsCompare_iff hentries]
  constructor
  · rintro ⟨_, -, -, hentries', horder, -⟩
    cases hentries.symm.trans hentries'
    exact horder
  · intro horder
    obtain ⟨rest, hperm, hsorted, hlength, hrest⟩ := horder.best topListLimit
    refine ⟨entries, _, rest, hentries, horder,
      topListQuery_eq hmode hentries (env.sortBy_ordered entries horder), hperm,
      hsorted.imp TopEntry.compare_ne_gt.mp,
      hlength, fun a ha b hb => ?_⟩
    exact TopEntry.compare_ne_gt.mp (hrest a ha b hb)

/-! ### The answer -/

/-- Names are short, so the list fits in a packet. -/
theorem fits_topListData {listed : List TopEntry} (hlength : listed.length ≤ 10)
    (hnames : ∀ e ∈ listed, e.name.length ≤ 17) : Fits (topListData mode listed) := by
  have hsizes : ∀ n ∈ listed.map (fun e => (e.name ++ toLeBytes32 e.rating).length), n ≤ 21 := by
    intro n hn
    obtain ⟨e, he, rfl⟩ := List.mem_map.mp hn
    have hname := hnames e he
    rw [List.length_append, length_toLeBytes32]
    omega
  have hsum := List.sum_le_card_nsmul _ _ hsizes
  rw [List.length_map, Nat.nsmul_eq_mul] at hsum
  simp only [Fits, topListData, List.length_append, List.length_cons, List.length_nil,
    List.length_flatMap, i16Max] at hsum ⊢
  omega

/-- Where the sort ends the list is sent, in every state of the server. -/
theorem topListQuery_sent (hreach : ServerReachable srv) (haction : packet.action = .topListQuery)
    (hmode : packet.data.head? = some mode) (hentries : srv.topListEntries mode = some entries)
    (hsorted : env.sortBy entries = some sorted) :
    ∃ answer, srv.topListQuery env packet = some { srv, sent := [], result := .ok (.response answer) } ∧
      answer.data = topListData mode (sorted.take topListLimit) := by
  have hlisted : Fits (topListData mode (sorted.take topListLimit)) := by
    refine fits_topListData (List.length_take_le _ _) fun e he => ?_
    have hmem := (env.sortBy_perm entries sorted hsorted).mem_iff.mp (List.mem_of_mem_take he)
    obtain ⟨k, g, hk, -, -, ⟨p, hp, auth, body, hauth, -, rfl⟩ | ⟨r, hr, body, -, rfl⟩⟩ :=
      (mem_topListEntries hentries).mp hmem
    · exact ((hreach.listable hk).named p hp auth hauth).length_le
    · exact ((hreach.listable hk).removedNamed r hr).length_le
  obtain ⟨answer, hanswer⟩ := Option.isSome_iff_exists.mp
    (Server.createAnswer_isSome (by rw [haction]; rfl) hlisted)
  rw [topListQuery_eq hmode hentries hsorted, Server.respond, hanswer]
  exact ⟨answer, rfl, (Packet.createAnswer_eq_some hanswer).2.1⟩

/-- The sort ends when the ratings compare. -/
theorem sorts_of_ratingsCompare (h : ∀ mode, packet.data.head? = some mode → srv.RatingsCompare mode) :
    srv.Sorts env packet := by
  intro _ mode hmode entries hentries
  rw [env.sortBy_ordered entries ((ratingsCompare_iff hentries).mp (h mode hmode))]
  rfl

end

/-! ### Three players -/

/-- Three connections join a game of VanWar, name themselves and send a body with a rating each. -/
def threeRated (a b c : BitVec 32) : List (Env × Input) :=
  let body (rating : BitVec 32) := List.replicate 8 0 ++ toLeBytes32 rating ++ List.replicate 13 0
  [(Env.atTime 0, ask 7 .attachToGame [0, 0, 0, 0]),
    (Env.atTime 0, ask 7 .setGameData ([65, 0] ++ List.replicate 44 0)),
    (Env.atTime 0, ask 8 .attachToGame [1, 0, 0, 0]),
    (Env.atTime 0, ask 9 .attachToGame [1, 0, 0, 0]),
    (Env.atTime 0, ask 7 .registerName [97, 0, 0]), (Env.atTime 0, ask 7 .setPlayerData (body a)),
    (Env.atTime 0, ask 8 .registerName [98, 0, 0]), (Env.atTime 0, ask 8 .setPlayerData (body b)),
    (Env.atTime 0, ask 9 .registerName [99, 0, 0]), (Env.atTime 0, ask 9 .setPlayerData (body c))]

/-- The entries they make, in the order they joined. -/
def threeEntries (a b c : BitVec 32) : List TopEntry := [⟨[97, 0], a⟩, ⟨[98, 0], b⟩, ⟨[99, 0], c⟩]

/-- Between 1.0 and 2.0 a rating that is NaN hides that the second is the better one. -/
theorem top_list_unordered : ∃ srv r answer, ServerReachable srv ∧
    (∀ input ∈ threeRated 0x3f800000#32 0x7fc00000#32 0x40000000#32, input.2.deliverable = true) ∧
    srv.topListQuery (Env.atTime 0) (request .topListQuery [0]) = some r ∧
    r.result = .ok (.response answer) ∧
    answer.data = topListData 0 (threeEntries 0x3f800000#32 0x7fc00000#32 0x40000000#32) ∧
    F32.Greater 0x40000000#32 0x3f800000#32 ∧
    ∀ env, ¬ srv.TopListOrdered env (request .topListQuery [0]) 0 := by
  have hplay : ((play (Server.new 0) (threeRated 0x3f800000#32 0x7fc00000#32 0x40000000#32)).map
      Prod.fst).bind (fun srv => do
        let entries ← srv.topListEntries 0
        let r ← srv.topListQuery (Env.atTime 0) (request .topListQuery [0])
        some (entries, r.result.toOption))
      = some (threeEntries 0x3f800000#32 0x7fc00000#32 0x40000000#32, some (.response
          (request .topListResponse
            (topListData 0 (threeEntries 0x3f800000#32 0x7fc00000#32 0x40000000#32))))) := by
    decide +kernel
  obtain ⟨srv, tr, hrun, hfacts⟩ := play_bind hplay
  simp only [Option.bind_eq_bind, Option.bind_eq_some_iff, Option.some.injEq, Prod.mk.injEq] at hfacts
  obtain ⟨entries, hentries, r, hr, rfl, hres⟩ := hfacts
  refine ⟨srv, r, _, ⟨0, tr, hrun⟩, by decide +kernel, hr, ok_of_toOption hres, rfl,
    ⟨_, _, rfl, rfl, by decide⟩, ?_⟩
  rintro env ⟨_, -, -, hentries', horder, -⟩
  cases hentries.symm.trans hentries'
  -- the first is no worse than the second, nor the second than the third
  exact horder.trans ⟨[97, 0], 0x3f800000#32⟩ (by decide) ⟨[98, 0], 0x7fc00000#32⟩ (by decide)
    ⟨[99, 0], 0x40000000#32⟩ (by decide) (by decide) (by decide) (by decide)

/-- Three ratings that are not NaN are sorted. -/
theorem top_list_ordered_three : ∃ srv, ServerReachable srv ∧
    srv.topListEntries 0 = some (threeEntries 0x3f800000#32 0x40000000#32 0x40400000#32) ∧
    srv.TopListOrdered (Env.atTime 0) (request .topListQuery [0]) 0 := by
  have hplay : ((play (Server.new 0) (threeRated 0x3f800000#32 0x40000000#32 0x40400000#32)).map
      Prod.fst).bind (fun srv => srv.topListEntries 0)
      = some (threeEntries 0x3f800000#32 0x40000000#32 0x40400000#32) := by
    decide +kernel
  have hnan : ∀ e ∈ threeEntries 0x3f800000#32 0x40000000#32 0x40400000#32,
      F32.isNaN e.rating = false := by
    decide
  obtain ⟨srv, tr, hrun, hentries⟩ := play_bind hplay
  refine ⟨srv, ⟨0, tr, hrun⟩, hentries, (top_list_ordered_iff rfl).mpr (Or.inl fun x hx => ?_)⟩
  obtain ⟨e, he, rfl⟩ := (rated_iff hentries).mp hx
  exact hnan e he

end VangersSrv
