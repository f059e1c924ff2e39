/-
A game's configuration.

A configuration is set once and stays as long as the game.  What is read back is the name and
the bytes it was set with, but for the time limit of VanWar: the server puts its own in its place.
-/
import VangersSrv.Server.Fates
import VangersSrv.Server.Panics

namespace VangersSrv

/-! ### What a request sets -/

/-- How many bytes the parameters of a mode take. -/
def GameType.prmSize : GameType → Nat
  | .vanWar | .mechosoma => 20
  | .passembloss | .mustodont => 8
  | .mirRage | .huntage | .unconfigured => 0

/-- What follows the name. -/
def configBytes (data : Bytes) : Option Bytes := do
  let name ← cstrUntilNul data
  sliceFrom data (withNul name).length

/-- The name with its terminator, the base fields and the parameters of the mode. -/
def configuration (data : Bytes) : Option Bytes := do
  let name ← cstrUntilNul data
  let rest ← configBytes data
  let gmtype ← GameType.fromI32 (← sliceLeToI32 (← slice rest 4 8))
  some (data.take ((withNul name).length + Config.baseCountBytes + gmtype.prmSize))

/-- The time limit that the server puts in. -/
def maxTimeBytes : Bytes := toLeBytes32 0x7fffffff#32

/-- The request is not for VanWar, or it asks for the time limit that the server puts in. -/
def TimeLimitStands (data : Bytes) : Prop :=
  ∀ rest, configBytes data = some rest →
    slice rest 4 8 = some (toLeBytes32 GameType.vanWar.toI32) → slice rest 40 44 = some maxTimeBytes

/-! ### Bytes of a configuration -/

theorem GameType.toI32_of_fromI32 {x : I32} {t : GameType} (h : fromI32 x = some t) : t.toI32 = x := by
  simpa using List.find?_some h

/-- The parameters as they are sent. -/
def GameMode.prmBytes : GameMode → Bytes
  | .vanWar e => e.toVangersByte
  | .mechosoma e => e.toVangersByte
  | .passembloss e => e.toVangersByte
  | .mustodont e => e.toVangersByte
  | .huntage | .mirRage => []

/-- The parameters as they came, but for the time limit of VanWar. -/
def GameType.prmKept (t : GameType) (s : Bytes) : Bytes :=
  if t = .vanWar then s.take 16 ++ maxTimeBytes else s.take t.prmSize

theorem take_of_slice {s t : Bytes} {n : Nat} (h : slice s 0 n = some t) : s.take n = t := by
  simpa using (slice_eq_some.mp h).2

section

variable {s : Bytes}

/-- A field that is read holds the bytes it is written as. -/
theorem of_read {α : Type} {i j : Nat} {f : I32 → Option α} {r : α}
    (h : ((slice s i j).bind fun t => (sliceLeToI32 t).bind f) = some r) :
    ∃ x, slice s i j = some (toLeBytes32 x) ∧ f x = some r := by
  obtain ⟨t, ht, h⟩ := Option.bind_eq_some_iff.mp h
  obtain ⟨x, hx, h⟩ := Option.bind_eq_some_iff.mp h
  exact ⟨x, by rw [ht, toLeBytes32_of_sliceLeToI32 hx], h⟩

theorem VanWar.toVangersByte_fromSlice {e : VanWar} (h : VanWar.fromSlice s = some e) :
    e.toVangersByte = s.take 16 ++ maxTimeBytes := by
  unfold VanWar.fromSlice at h
  split at h
  · cases h
  obtain ⟨_, h₁, h⟩ := of_read h
  obtain ⟨_, h₂, h⟩ := of_read h
  obtain ⟨_, h₃, h⟩ := of_read h
  obtain ⟨_, h₄, h⟩ := of_read h
  cases h
  rw [take_of_slice (slice_append (slice_append (slice_append h₁ h₂) h₃) h₄)]
  rfl

theorem Mechosoma.toVangersByte_fromSlice {e : Mechosoma} (h : Mechosoma.fromSlice s = some e) :
    e.toVangersByte = s.take 20 := by
  unfold Mechosoma.fromSlice at h
  split at h
  · cases h
  obtain ⟨_, h₁, h⟩ := of_read h
  obtain ⟨_, h₂, h⟩ := of_read h
  obtain ⟨_, h₃, h⟩ := of_read h
  obtain ⟨_, h₄, h⟩ := of_read h
  obtain ⟨_, h₅, h⟩ := of_read h
  cases h
  rw [take_of_slice (slice_append (slice_append (slice_append (slice_append h₁ h₂) h₃) h₄) h₅)]
  rfl

theorem Passembloss.toVangersByte_fromSlice {e : Passembloss} (h : Passembloss.fromSlice s = some e) :
    e.toVangersByte = s.take 8 := by
  unfold Passembloss.fromSlice at h
  split at h
  · cases h
  obtain ⟨_, h₁, h⟩ := of_read h
  obtain ⟨_, h₂, h⟩ := of_read h
  cases h
  rw [take_of_slice (slice_append h₁ h₂)]
  rfl

theorem Mustodont.toVangersByte_fromSlice {e : Mustodont} (h : Mustodont.fromSlice s = some e) :
    e.toVangersByte = s.take 8 := by
  unfold Mustodont.fromSlice at h
  split at h
  · cases h
  obtain ⟨_, h₁, h⟩ := of_read h
  obtain ⟨_, h₂, h⟩ := of_read h
  cases h
  rw [take_of_slice (slice_append h₁ h₂)]
  rfl

theorem mode_of_parsed {α : Type} {n : Nat} {parsed : Option α} {make : α → GameMode} {mode : GameMode}
    (h : (if n ≤ s.length then parsed.map fun e => some (make e) else some none) = some (some mode)) :
    n ≤ s.length ∧ ∃ e, parsed = some e ∧ make e = mode := by
  split at h
  · rename_i hlen
    obtain ⟨e, he, hmode⟩ := Option.map_eq_some_iff.mp h
    exact ⟨hlen, e, he, Option.some.inj hmode⟩
  · cases h

/-- What is read of a mode is sent again. -/
theorem gameModeFromSlice_prmBytes {x : I32} {mode : GameMode}
    (h : Config.gameModeFromSlice x s = some (some mode)) :
    ∃ t, GameType.fromI32 x = some t ∧ t.prmSize ≤ s.length ∧ mode.prmBytes = t.prmKept s ∧
      ∀ c : Config, c.gameType = mode → c.getGametype = t := by
  unfold Config.gameModeFromSlice at h
  split at h
  case h_1 ht =>
    obtain ⟨hlen, e, he, rfl⟩ := mode_of_parsed h
    exact ⟨_, ht, hlen, VanWar.toVangersByte_fromSlice he, fun c hc => by rw [Config.getGametype, hc]⟩
  case h_2 ht =>
    obtain ⟨hlen, e, he, rfl⟩ := mode_of_parsed h
    exact ⟨_, ht, hlen, Mechosoma.toVangersByte_fromSlice he, fun c hc => by rw [Config.getGametype, hc]⟩
  case h_3 ht =>
    obtain ⟨hlen, e, he, rfl⟩ := mode_of_parsed h
    exact ⟨_, ht, hlen, Passembloss.toVangersByte_fromSlice he,
      fun c hc => by rw [Config.getGametype, hc]⟩
  case h_4 ht =>
    obtain ⟨hlen, e, he, rfl⟩ := mode_of_parsed h
    exact ⟨_, ht, hlen, Mustodont.toVangersByte_fromSlice he, fun c hc => by rw [Config.getGametype, hc]⟩
  case h_5 ht =>
    cases h
    exact ⟨_, ht, Nat.zero_le _, rfl, fun c hc => by rw [Config.getGametype, hc]⟩
  case h_6 ht =>
    cases h
    exact ⟨_, ht, Nat.zero_le _, rfl, fun c hc => by rw [Config.getGametype, hc]⟩
  case h_7 => cases h
  case h_8 => cases h

/-- **What is read of a configuration is sent again**, with the server's time limit. -/
theorem Config.toVangersByte_fromSlice {config : Config} (h : Config.fromSlice s = some (some config)) :
    ∃ t, slice s 4 8 = some (toLeBytes32 t.toI32) ∧ GameType.fromI32 t.toI32 = some t ∧
      baseCountBytes + t.prmSize ≤ s.length ∧
      config.toVangersByte = s.take baseCountBytes ++ t.prmKept (s.drop baseCountBytes) := by
  unfold Config.fromSlice at h
  split at h
  · cases h
  rename_i hlen
  obtain ⟨_, h₁, h⟩ := of_read h
  obtain ⟨x, h₂, h⟩ := of_read h
  obtain ⟨_, h₃, h⟩ := of_read h
  obtain ⟨_, h₄, h⟩ := of_read h
  obtain ⟨_, h₅, h⟩ := of_read h
  obtain ⟨_, h₆, h⟩ := of_read h
  simp only [Option.bind_eq_bind, Option.bind_eq_some_iff, Option.some.injEq,
    Option.map_eq_some_iff] at h
  obtain ⟨rest, hrest, _, hmode, mode, rfl, rfl⟩ := h
  obtain ⟨t, ht, hsize, hbytes, htype⟩ := gameModeFromSlice_prmBytes hmode
  obtain ⟨-, rfl⟩ := sliceFrom_eq_some.mp hrest
  have hx := GameType.toI32_of_fromI32 ht
  refine ⟨t, by rw [hx]; exact h₂, by rw [hx]; exact ht, ?_, ?_⟩
  · rw [List.length_drop] at hsize
    unfold baseCountBytes at hlen ⊢
    omega
  · have hbase := take_of_slice (slice_append (slice_append (slice_append (slice_append
      (slice_append h₁ h₂) h₃) h₄) h₅) h₆)
    unfold toVangersByte
    rw [htype _ rfl, hx]
    show _ ++ mode.prmBytes = _
    rw [hbytes, ← hbase]
    rfl

/-- The name and the configuration are what was asked for when the time limit stands, and take as
much room in any case. -/
theorem configured_bytes {data name rest : Bytes} {config : Config}
    (hname : cstrUntilNul data = some name)
    (hrest : sliceFrom data (withNul name).length = some rest)
    (hconfig : Config.fromSlice rest = some (some config)) :
    (some (withNul name ++ config.toVangersByte) = configuration data ↔ TimeLimitStands data) ∧
      (withNul name ++ config.toVangersByte).length ≤ data.length := by
  obtain ⟨t, hmode, ht, hlen, hbytes⟩ := Config.toVangersByte_fromSlice hconfig
  have hdata := cstrUntilNul_append hname hrest
  have hrest' : configBytes data = some rest := by simp [configBytes, hname, hrest]
  have hasked : configuration data = some (withNul name ++ (rest.take Config.baseCountBytes ++
      (rest.drop Config.baseCountBytes).take t.prmSize)) := by
    have htake : data.take ((withNul name).length + Config.baseCountBytes + t.prmSize)
        = withNul name ++ rest.take (Config.baseCountBytes + t.prmSize) := by
      rw [hdata, Nat.add_assoc, List.take_length_add_append]
    simp only [configuration, hname, hrest', hmode, sliceLeToI32_toLeBytes32, ht,
      Option.bind_eq_bind, Option.bind_some]
    rw [htake, List.take_add]
  have hkept : (t.prmKept (rest.drop Config.baseCountBytes)).length = t.prmSize := by
    unfold GameType.prmKept
    split
    · rename_i hvan
      subst hvan
      simp only [GameType.prmSize, Config.baseCountBytes] at hlen
      simp only [List.length_append, List.length_take, List.length_drop, maxTimeBytes,
        length_toLeBytes32, GameType.prmSize, Config.baseCountBytes]
      omega
    · rw [List.length_take, List.length_drop]
      omega
  refine ⟨?_, ?_⟩
  · rw [hasked, hbytes, Option.some.injEq, List.append_cancel_left_eq, List.append_cancel_left_eq]
    unfold GameType.prmKept
    split
    · rename_i hvan
      subst hvan
      have hlong : 44 ≤ rest.length := hlen
      have hlimit : slice rest 40 44 = some (((rest.drop 24).drop 16).take 4) :=
        slice_eq_some.mpr ⟨⟨by decide, hlong⟩, by rw [List.drop_drop]⟩
      show _ = (rest.drop 24).take (16 + 4) ↔ _
      rw [List.take_add]
      show (rest.drop 24).take 16 ++ _ = (rest.drop 24).take 16 ++ _ ↔ _
      rw [List.append_cancel_left_eq]
      constructor
      · intro heq rest' hr _
        cases hrest'.symm.trans hr
        rw [hlimit, heq]
      · intro hstands
        have hslice := hstands rest hrest' hmode
        rw [hlimit] at hslice
        exact (Option.some.inj hslice).symm
    · rename_i hvan
      refine ⟨fun _ rest' hr hvanWar => ?_, fun _ => rfl⟩
      -- the mode in the request is another one
      cases hrest'.symm.trans hr
      have heq : t.toI32 = GameType.vanWar.toI32 :=
        toLeBytes32_injective (Option.some.inj (hmode.symm.trans hvanWar))
      rw [heq] at ht
      exact absurd (Option.some.inj (ht.symm.trans rfl)) hvan
  · rw [hbytes, hdata, List.length_append, List.length_append, List.length_append, hkept,
      List.length_take]
    omega

end

/-! ### From the request to the answer -/

/-- A query for the game's data by the connection is answered with these bytes. -/
def Server.AnswersGameData (srv : Server) (c : ClientID) (data : Bytes) : Prop :=
  ∀ env q, q.action = .getGameData → ∃ answer, answer.action = .gameDataResponse ∧ answer.data = data ∧
    srv.onUpdate env c q =
      some { srv, sent := srv.sendClient c answer, result := .ok (.response answer) }

section

variable {env : Env} {packet : Packet} {c : ClientID} {srv srv' : Server} {key k : GameID}
  {game g g' : Game} {r : Reply}

theorem setGameData_ok {ok : OnUpdateOk} (hgame : srv.getGameByClientid c = some (key, game))
    (h : srv.setGameData packet c = some r) (hres : r.result = .ok ok) :
    ∃ name rest config, cstrUntilNul packet.data = some name ∧
      sliceFrom packet.data (withNul name).length = some rest ∧
      Config.fromSlice rest = some (some config) ∧
      r.srv = srv.setGame key { game with config := some config, name := withNul name } := by
  rcases setGameData_cases h with ⟨err, hfail⟩ | ⟨key', game', name, rest, hgame', -, hname, -, hrest,
    ⟨-, err, hfail⟩ | ⟨config, hparse, h⟩⟩
  · exact absurd hres (Server.fail_ne_ok hfail)
  · exact absurd hres (Server.fail_ne_ok hfail)
  · obtain ⟨rfl, rfl⟩ := Prod.mk.inj (Option.some.inj (hgame.symm.trans hgame'))
    exact ⟨name, rest, config, hname, hrest, hparse, by rw [Server.complete_eq_some h]⟩

theorem getGameData_answer {config : Config} (hgame : srv.getGameByClientid c = some (key, game))
    (hconfig : game.config = some config)
    (hfits : (game.name ++ config.toVangersByte).length + 1 ≤ i16Max) :
    srv.AnswersGameData c (game.name ++ config.toVangersByte) := by
  intro env q hq
  obtain ⟨answer, hanswer⟩ : ∃ answer, q.createAnswer (game.name ++ config.toVangersByte) = some answer := by
    simp only [Packet.createAnswer, hq, Action.requestToResponse, Option.bind_some, if_pos hfits]
    exact ⟨_, rfl⟩
  obtain ⟨haction, hdata, -⟩ := Packet.createAnswer_eq_some hanswer
  rw [hq] at haction
  refine ⟨answer, (Option.some.inj haction).symm, hdata, ?_⟩
  simp [Server.onUpdate, Server.handle, hq, Server.getGameData, hgame, hconfig, Server.respond,
    hanswer, Server.logged, Server.resultSends]

/-- A configuration that is set stays. -/
theorem GameStep.configured {config : Config} (h : GameStep env packet c srv k g g')
    (hconfig : g.config = some config) : g'.config = some config ∧ g'.name = g.name := by
  cases h with
  | gameChanged _ _ hunconfigured _ => cases hconfig.symm.trans hunconfigured
  | _ => exact ⟨hconfig, rfl⟩

theorem StaysStep.configured {e : Option Event} {config : Config} {name : Bytes}
    (h : StaysStep k srv e srv') (hok : RegistryOk srv)
    (hg : ∃ g, srv.games.lookup k = some g ∧ g.config = some config ∧ g.name = name) :
    ∃ g, srv'.games.lookup k = some g ∧ g.config = some config ∧ g.name = name := by
  obtain ⟨g, hk, hset⟩ := hg
  obtain ⟨g', hk'⟩ := AList.mem_iff_lookup.mp h.2
  refine ⟨g', hk', ?_⟩
  refine h.1.keepsGame hok hk hk' (P := fun g => g.config = some config ∧ g.name = name) ?_
    (fun _ _ _ hP => hP) (fun _ _ _ hP => hP) hset
  rintro env packet c mid g g' - - - hstep ⟨hconfig, hname⟩
  obtain ⟨hconfig', hname'⟩ := hstep.configured hconfig
  exact ⟨hconfig', hname'.trans hname⟩

/-- **A configuration is read back as it was written exactly when its time limit stands**: by
every player of the game, as long as there is the game. -/
theorem configuration_reads_back_iff {ok : OnUpdateOk} (hreach : ServerReachable srv)
    (haction : packet.action = .setGameData) (hdeliverable : packet.Deliverable)
    (hgame : srv.getGameByClientid c = some (key, game))
    (h : srv.onUpdate env c packet = some r) (hres : r.result = .ok ok) :
    (∀ tr srv', Transition.Run (StaysStep key) r.srv tr srv' →
      ∀ c' game', srv'.getGameByClientid c' = some (key, game') →
        ∃ data, configuration packet.data = some data ∧ srv'.AnswersGameData c' data) ↔
      TimeLimitStands packet.data := by
  obtain ⟨reply, hhandle, hresult, hsrv, -⟩ := onUpdate_result h
  have hset : srv.setGameData packet c = some reply := by
    simpa [Server.handle, haction] using hhandle
  obtain ⟨name, rest, config, hname, hrest, hconfig, hwritten⟩ :=
    setGameData_ok hgame hset (hresult.symm.trans hres)
  obtain ⟨hiff, hlen⟩ := configured_bytes hname hrest hconfig
  have hfits : (withNul name ++ config.toVangersByte).length + 1 ≤ i16Max := by
    have hshort := hdeliverable.2
    simp only [maxDataLength] at hshort
    simp only [i16Max]
    omega
  have hlookup := Server.getGameByClientid_lookup hgame
  have hok : RegistryOk r.srv := by
    obtain ⟨_, _, -, -, hhandled, -⟩ := onUpdate_handled h
    exact RegistryOk.handled hhandled hreach.registryOk
  rw [← hiff]
  constructor
  · intro hall
    have hplayer := Server.getGameByClientid_getPlayer hgame
    have hgame' : r.srv.getGameByClientid c
        = some (key, { game with config := some config, name := withNul name }) := by
      rw [hsrv, hwritten]
      exact Server.getGameByClientid_setGame hgame hplayer
    obtain ⟨data, hdata, hanswers⟩ := hall [] r.srv .nil c _ hgame'
    -- two answers to one query are the same
    obtain ⟨answer, -, hbytes, hupdate⟩ := hanswers env (request .getGameData []) rfl
    obtain ⟨answer', -, hbytes', hupdate'⟩ :=
      getGameData_answer hgame' rfl hfits env (request .getGameData []) rfl
    have hsame := hupdate.symm.trans hupdate'
    simp only [Option.some.injEq, Reply.mk.injEq, Except.ok.injEq, OnUpdateOk.response.injEq] at hsame
    rw [hdata, ← hbytes, hsame.2.2, hbytes']
  · intro hasked tr srv' hrun c' game' hgame'
    refine ⟨_, hasked.symm, ?_⟩
    have hkept : RegistryOk srv' ∧ ∃ g, srv'.games.lookup key = some g ∧
        g.config = some config ∧ g.name = withNul name := by
      refine hrun.invariant (P := fun s => RegistryOk s ∧ ∃ g, s.games.lookup key = some g ∧
        g.config = some config ∧ g.name = withNul name) ⟨hok, ?_⟩ ?_
      · rw [hsrv, hwritten]
        exact ⟨_, Server.lookup_setGame_self hlookup, rfl, rfl⟩
      · rintro a e b hstep ⟨hoka, hset⟩
        exact ⟨hstep.1.registryOk hoka, hstep.configured hoka hset⟩
    obtain ⟨-, g, hg, hgconfig, hgname⟩ := hkept
    cases hg.symm.trans (Server.getGameByClientid_lookup hgame')
    rw [← hgname]
    exact getGameData_answer hgame' hgconfig (by rw [hgname]; exact hfits)

end

/-- A game of VanWar with no parameters and a time limit. -/
def vanWarData (limit : Bytes) : Bytes := [65, 0] ++ List.replicate 40 0 ++ limit

/-- A limit of no time comes back as the longest one. -/
theorem configuration_loses_limit : ∃ srv r r' answer, ServerReachable srv ∧
    (request .setGameData (vanWarData [0, 0, 0, 0])).Deliverable ∧
    srv.onUpdate (Env.atTime 0) 7 (request .setGameData (vanWarData [0, 0, 0, 0])) = some r ∧
    r.result = .ok .complete ∧
    r.srv.onUpdate (Env.atTime 0) 7 (request .getGameData []) = some r' ∧
    r'.result = .ok (.response answer) ∧
    configuration (vanWarData [0, 0, 0, 0]) = some (vanWarData [0, 0, 0, 0]) ∧
    answer.data = vanWarData [0xFF, 0xFF, 0xFF, 0x7F] := by
  have hplay : ((play (Server.new 0) [(Env.atTime 0, ask 7 .attachToGame [0, 0, 0, 0])]).map
      Prod.fst).bind (fun srv => do
        let r ← srv.onUpdate (Env.atTime 0) 7 (request .setGameData (vanWarData [0, 0, 0, 0]))
        let r' ← r.srv.onUpdate (Env.atTime 0) 7 (request .getGameData [])
        some (r.result.toOption, r'.result.toOption))
      = some (some .complete, some (.response
        (request .gameDataResponse (vanWarData [0xFF, 0xFF, 0xFF, 0x7F])))) := by
    decide +kernel
  obtain ⟨srv, tr, hrun, hfacts⟩ := play_bind hplay
  simp only [Option.bind_eq_bind, Option.bind_eq_some_iff, Option.some.injEq, Prod.mk.injEq] at hfacts
  obtain ⟨r, hr, r', hr', hres, hres'⟩ := hfacts
  exact ⟨srv, r, r', _, ⟨0, tr, hrun⟩, by decide, hr, ok_of_toOption hres, hr',
    ok_of_toOption hres', by decide, rfl⟩

/-- The longest limit is read back. -/
theorem configuration_reads_back_longest : ∃ srv r, ServerReachable srv ∧
    srv.onUpdate (Env.atTime 0) 7 (request .setGameData (vanWarData [0xFF, 0xFF, 0xFF, 0x7F])) = some r ∧
    ∃ data, configuration (vanWarData [0xFF, 0xFF, 0xFF, 0x7F]) = some data ∧
      r.srv.AnswersGameData 7 data := by
  have hplay : ((play (Server.new 0) [(Env.atTime 0, ask 7 .attachToGame [0, 0, 0, 0])]).map
      Prod.fst).bind (fun srv => do
        let entry ← srv.getGameByClientid 7
        let r ← srv.onUpdate (Env.atTime 0) 7 (request .setGameData (vanWarData [0xFF, 0xFF, 0xFF, 0x7F]))
        let after ← r.srv.getGameByClientid 7
        some (entry.1, r.result.toOption, after.1)) = some (1, some .complete, 1) := by
    decide +kernel
  obtain ⟨srv, tr, hrun, hfacts⟩ := play_bind hplay
  simp only [Option.bind_eq_bind, Option.bind_eq_some_iff, Option.some.injEq, Prod.mk.injEq] at hfacts
  obtain ⟨⟨key, game⟩, hgame, r, hr, ⟨key', game'⟩, hgame', rfl, hres, rfl⟩ := hfacts
  have hstands : TimeLimitStands (vanWarData [0xFF, 0xFF, 0xFF, 0x7F]) := by
    intro rest hrest _
    cases hrest
    decide
  have hanswers := (configuration_reads_back_iff (c := 7) ⟨0, tr, hrun⟩ rfl (by decide) hgame hr
    (ok_of_toOption hres)).mpr hstands [] r.srv .nil 7 game' hgame'
  exact ⟨srv, r, ⟨0, tr, hrun⟩, hr, hanswers⟩

end VangersSrv
