/-
The list of games.

An entry of the list ends with the terminator of its title, and the number of entries is a byte.
No byte of a title but the last is zero, so a receiver reads the entries back as long as the byte
holds their number and the packet holds their bytes.
-/
import VangersSrv.Lib.Records
import VangersSrv.Server.Configuration

namespace VangersSrv

/-! ### What a receiver reads -/

/-- What the list tells of a game. -/
structure GameRecord where
  id : GameID
  /-- With its terminator. -/
  title : Bytes
  deriving DecidableEq, Repr

/-- An entry: an id, and a title up to its terminator. -/
def GameRecord.read (s : Bytes) : Option (GameRecord × Bytes) := do
  let (bytes, s) ← Records.takeOff 4 s
  let id ← sliceLeToI32 bytes
  let (title, s) ← Records.takeThrough 0 s
  some ({ id, title }, s)

/-- As many entries as the first byte says, and nothing after them. -/
def readGamesList : Bytes → Option (List GameRecord)
  | [] => none
  | count :: s => do
    let (records, s) ← Records.readMany GameRecord.read count.toNat s
    if s = [] then some records else none

/-! ### What there is to read -/

/-- The games that have a configuration, in iteration order. -/
def Server.configuredGames (srv : Server) : List Game := srv.games.values.filter Game.isConfigured

/-- The record has the id of the game, and the name of the game is in its title. -/
def Game.ListedAs (g : Game) (r : GameRecord) : Prop :=
  r.id = g.id ∧ ∃ name, g.name = withNul name ∧ name <:+: r.title

def gameRecord (now : Instant) (g : Game) : GameRecord :=
  { id := g.id, title := gameTitle now g }

/-- An entry as it is sent. -/
def GameRecord.encode (r : GameRecord) : Bytes := toLeBytes32 r.id ++ r.title

/-- How many bytes the entry of a game takes. -/
def gameEntrySize (now : Instant) (g : Game) : Nat :=
  20 + g.name.length + (showNat g.players.length).length + (g.birthTime.display now).length

/-- How many bytes the list takes, with the count. -/
def Server.gamesListSize (srv : Server) (now : Instant) : Nat :=
  1 + (srv.configuredGames.map (gameEntrySize now)).sum

/-- The query is answered, and the answer is read as one entry for each configured game. -/
def Server.ListsGames (srv : Server) (env : Env) (c : ClientID) (packet : Packet) : Prop :=
  ∃ answer records games,
    srv.onUpdate env c packet =
      some { srv, sent := srv.sendClient c answer, result := .ok (.response answer) } ∧
    answer.action = .gamesListResponse ∧ readGamesList answer.data = some records ∧
    games.Perm srv.configuredGames ∧ List.Forall₂ Game.ListedAs games records

/-- Both parts of the list fit: the count in its byte, and the bytes in a packet. -/
structure Server.GamesListFits (srv : Server) (now : Instant) : Prop where
  count : srv.configuredGames.length ≤ 255
  size : srv.gamesListSize now < i16Max

/-- The name of a game ends with its only zero byte. -/
def Game.Named (g : Game) : Prop := ∃ name, 0 ∉ name ∧ g.name = withNul name

section

variable {env : Env} {packet : Packet} {c : ClientID} {srv : Server} {k : GameID} {g g' : Game}
  {now : Instant}

/-! ### Titles -/

theorem zero_notMem_showNat (n : Nat) : 0 ∉ showNat n := by
  intro h
  obtain ⟨d, hd, hzero⟩ := List.mem_map.mp h
  have hdigit : d.isDigit = true := by
    rw [Nat.toString_eq_repr, Nat.toList_repr] at hd
    exact Nat.isDigit_of_mem_toDigits (by decide) (by decide) hd
  simp only [Char.isDigit, Bool.and_eq_true, decide_eq_true_eq, ge_iff_le,
    UInt32.le_iff_toNat_le] at hdigit
  have hbyte := congrArg UInt8.toNat hzero
  rw [UInt8.toNat_ofNat'] at hbyte
  change d.toNat % 2 ^ 8 = 0 at hbyte
  have hlow : 48 ≤ d.toNat := hdigit.1
  have hhigh : d.toNat ≤ 57 := hdigit.2
  omega

theorem zero_notMem_showNat02 (n : Nat) : 0 ∉ showNat02 n := by
  unfold showNat02
  split
  · rw [List.mem_append, not_or]
    exact ⟨by decide, zero_notMem_showNat n⟩
  · exact zero_notMem_showNat n

theorem zero_notMem_display (start now : Instant) : 0 ∉ start.display now := by
  unfold Instant.display
  simp only [List.mem_append, not_or]
  exact ⟨⟨⟨⟨zero_notMem_showNat _, by decide⟩, zero_notMem_showNat02 _⟩, by decide⟩,
    zero_notMem_showNat02 _⟩

/-- What a title says after the name. -/
def titleTail (now : Instant) (g : Game) : Bytes :=
  ascii ": " ++ showNat g.players.length ++ ascii " " ++ gmtypeLetter g.getGmtype ++ ascii " "
    ++ g.birthTime.display now

theorem gameTitle_eq {name : Bytes} (hname : g.name = withNul name) :
    gameTitle now g = withNul (ascii "[Rust-SRV] " ++ name ++ titleTail now g) := by
  simp [gameTitle, hname, withNul, titleTail, List.append_assoc]

theorem length_gmtypeLetter (t : GameType) : (gmtypeLetter t).length = 1 := by
  cases t <;> rfl

theorem zero_notMem_titleTail (now : Instant) (g : Game) : 0 ∉ titleTail now g := by
  have hletter : (0 : UInt8) ∉ gmtypeLetter g.getGmtype := by
    cases g.getGmtype <;> decide
  simp only [titleTail, List.mem_append, not_or]
  exact ⟨⟨⟨⟨⟨by decide, zero_notMem_showNat _⟩, by decide⟩, hletter⟩, by decide⟩,
    zero_notMem_display _ _⟩

namespace Game.Named

/-- An entry is read whatever follows it. -/
theorem reads (h : g.Named) (now : Instant) :
    Records.Reads GameRecord.read (gameRecord now g).encode (gameRecord now g) := by
  obtain ⟨name, hzero, hname⟩ := h
  intro rest
  have htitle : 0 ∉ ascii "[Rust-SRV] " ++ name ++ titleTail now g := by
    simp only [List.mem_append, not_or]
    exact ⟨⟨by decide, hzero⟩, zero_notMem_titleTail now g⟩
  have hid := Records.takeOff_append (toLeBytes32 g.id) (gameTitle now g ++ rest)
  have hread := Records.takeThrough_append htitle rest
  rw [length_toLeBytes32] at hid
  rw [← withNul, ← gameTitle_eq hname] at hread
  simp only [gameRecord, GameRecord.encode, GameRecord.read, List.append_assoc, hid, hread,
    sliceLeToI32_toLeBytes32, Option.bind_eq_bind, Option.bind_some]

theorem listedAs (h : g.Named) (now : Instant) : g.ListedAs (gameRecord now g) := by
  obtain ⟨name, -, hname⟩ := h
  refine ⟨rfl, name, hname, ?_⟩
  show name <:+: gameTitle now g
  rw [gameTitle_eq hname]
  exact ⟨ascii "[Rust-SRV] ", titleTail now g ++ [0], by simp [withNul]⟩

theorem length_encode (h : g.Named) (now : Instant) :
    (gameRecord now g).encode.length = gameEntrySize now g := by
  obtain ⟨name, -, hname⟩ := h
  have hhead : (ascii "[Rust-SRV] ").length = 11 := by decide
  have hcolon : (ascii ": ").length = 2 := by decide
  have hspace : (ascii " ").length = 1 := by decide
  simp only [gameRecord, GameRecord.encode, gameTitle_eq hname, gameEntrySize, hname, withNul,
    titleTail, List.length_append, length_toLeBytes32, List.length_singleton, hhead, hcolon, hspace,
    length_gmtypeLetter]
  omega

end Game.Named

/-! ### Names -/

/-- A configuration comes with a name, and neither changes after it. -/
theorem GameStep.named (h : GameStep env packet c srv k g g') (hnamed : g.isConfigured → g.Named) :
    g'.isConfigured → g'.Named := by
  cases h with
  | gameChanged _ _ _ hchange =>
      cases hchange with
      | configured hname _ _ _ => exact fun _ => ⟨_, (cstrUntilNul_eq_some hname).1, rfl⟩
      | refused _ _ _ => exact fun hconfigured => by simp [Game.isConfigured] at hconfigured
  | _ => exact hnamed

theorem ServerReachable.named (h : ServerReachable srv) : ∀ g ∈ srv.configuredGames, g.Named := by
  intro g hg
  obtain ⟨hmem, hconfigured⟩ := List.mem_filter.mp hg
  obtain ⟨k, hk⟩ := AList.mem_values.mp hmem
  refine h.everyGame hk (P := fun g => g.isConfigured → g.Named) ?_
    (fun env packet c mid g g' _ hstep hnamed => hstep.named hnamed) (fun _ _ _ h => h)
    (fun _ _ _ h => h) hconfigured
  intro now c bind hnew
  simp [Game.isConfigured, Game.joined, Game.new] at hnew

/-! ### The list -/

/-- The list: a count and the entries of the configured games. -/
def Server.gamesList (srv : Server) (now : Instant) : Bytes :=
  UInt8.ofNat srv.configuredGames.length ::
    (srv.configuredGames.map (gameRecord now)).flatMap GameRecord.encode

theorem gamesListQuery_eq : srv.gamesListQuery env packet = srv.respond packet (srv.gamesList env.now) := by
  unfold Server.gamesListQuery Server.gamesList
  rw [List.flatMap_map]
  rfl

theorem length_gamesList (hnamed : ∀ g ∈ srv.configuredGames, g.Named) :
    (srv.gamesList now).length = srv.gamesListSize now := by
  have hsizes : (srv.configuredGames.map (gameRecord now)).map (fun r => r.encode.length)
      = srv.configuredGames.map (gameEntrySize now) := by
    rw [List.map_map]
    exact List.map_congr_left fun g hg => (hnamed g hg).length_encode now
  rw [Server.gamesList, List.length_cons, List.length_flatMap, hsizes, Server.gamesListSize,
    Nat.add_comm]

/-- The list is read as its entries when the byte holds their number. -/
theorem readGamesList_gamesList (hnamed : ∀ g ∈ srv.configuredGames, g.Named)
    (hcount : srv.configuredGames.length ≤ 255) :
    readGamesList (srv.gamesList now) = some (srv.configuredGames.map (gameRecord now)) := by
  have hlen : (UInt8.ofNat srv.configuredGames.length).toNat
      = (srv.configuredGames.map (gameRecord now)).length := by
    rw [UInt8.toNat_ofNat', List.length_map]
    exact Nat.mod_eq_of_lt (by omega)
  have hreads : ∀ r ∈ srv.configuredGames.map (gameRecord now),
      Records.Reads GameRecord.read r.encode r := by
    intro r hr
    obtain ⟨g, hg, rfl⟩ := List.mem_map.mp hr
    exact (hnamed g hg).reads now
  have hread := Records.Reads.many hreads []
  rw [List.append_nil] at hread
  simp only [Server.gamesList, readGamesList, hlen, hread, Option.bind_eq_bind, Option.bind_some,
    if_true]

/-- No more entries are read than a byte counts. -/
theorem length_readGamesList {s : Bytes} {records : List GameRecord}
    (h : readGamesList s = some records) : records.length ≤ 255 := by
  cases s with
  | nil => cases h
  | cons count s =>
      simp only [readGamesList, Option.bind_eq_bind, Option.bind_eq_some_iff, Prod.exists] at h
      obtain ⟨rs, rest, hread, h⟩ := h
      split at h
      · cases h
        rw [Records.length_readMany hread]
        exact Nat.le_of_lt_succ count.toNat_lt
      · cases h

/-! ### The query -/

theorem Packet.createAnswer_gamesList (haction : packet.action = .gamesListQuery) (data : Bytes) :
    packet.createAnswer data = if Fits data then some (request .gamesListResponse data) else none := by
  simp only [Packet.createAnswer, haction, Action.requestToResponse, Option.bind_some, request, Fits]

/-- A list that fits in a packet is sent, and one that does not is not. -/
theorem onUpdate_gamesListQuery (srv : Server) (env : Env) (c : ClientID)
    (haction : packet.action = .gamesListQuery) :
    srv.onUpdate env c packet = some (
      if Fits (srv.gamesList env.now) then
        { srv
          sent := srv.sendClient c (request .gamesListResponse (srv.gamesList env.now))
          result := .ok (.response (request .gamesListResponse (srv.gamesList env.now))) }
      else
        { srv, sent := [], result := .error (.responsePacketTypeNotExist .gamesListQuery) }) := by
  have hhandle : srv.handle env packet c = srv.respond packet (srv.gamesList env.now) := by
    simp only [Server.handle, haction, gamesListQuery_eq]
  simp only [Server.onUpdate, hhandle, Server.respond, Packet.createAnswer_gamesList haction]
  by_cases hfits : Fits (srv.gamesList env.now)
  · simp [hfits, Server.logged, Server.resultSends]
  · simp [hfits, Server.fail, haction, Server.logged, Server.resultSends]

/-- The list is read as its games exactly when it fits. -/
theorem listsGames_iff (hnamed : ∀ g ∈ srv.configuredGames, g.Named)
    (haction : packet.action = .gamesListQuery) :
    srv.ListsGames env c packet ↔ srv.GamesListFits env.now := by
  have hsize : Fits (srv.gamesList env.now) ↔ srv.gamesListSize env.now < i16Max := by
    rw [Fits, length_gamesList hnamed, Nat.lt_iff_add_one_le]
  have hupdate := onUpdate_gamesListQuery srv env c haction
  constructor
  · rintro ⟨answer, records, games, h, -, hread, hperm, hlisted⟩
    have hfits : Fits (srv.gamesList env.now) := by
      by_contra hnot
      rw [h, if_neg hnot] at hupdate
      simp at hupdate
    refine ⟨?_, hsize.mp hfits⟩
    -- there is one record for each game, and the byte counts the records
    rw [← hperm.length_eq, hlisted.length_eq]
    exact length_readGamesList hread
  · rintro ⟨hcount, hfits⟩
    rw [if_pos (hsize.mpr hfits)] at hupdate
    refine ⟨_, _, srv.configuredGames, hupdate, rfl, readGamesList_gamesList hnamed hcount, .refl _, ?_⟩
    rw [List.forall₂_map_right_iff]
    exact List.forall₂_same.mpr fun g hg => (hnamed g hg).listedAs env.now

/-- **The games list decodes to the configured games exactly when its byte holds their number and a
packet holds its bytes.** -/
theorem games_list_decodes_iff (hreach : ServerReachable srv)
    (haction : packet.action = .gamesListQuery) :
    srv.ListsGames env c packet ↔ srv.GamesListFits env.now :=
  listsGames_iff hreach.named haction

/-- The game after its first configuration. -/
def Game.configuredAs (g : Game) (config : Config) (name : Bytes) : Game :=
  { g with config := some config, name := withNul name }

/-- A game takes its first configuration with a name of any length. -/
theorem Step.configures {key : GameID} {game : Game} {config : Config} {name rest : Bytes} (env : Env)
    (hgame : srv.getGameByClientid c = some (key, game)) (hunconfigured : game.config = none)
    (hzero : 0 ∉ name) (hne : name ≠ []) (hconfig : Config.fromSlice rest = some (some config)) :
    Step srv
      (some { env, input := ask c .setGameData (withNul name ++ rest), sent := [] })
      (srv.setGame key (game.configuredAs config name)) := by
  have hdata : (request .setGameData (withNul name ++ rest)).data = withNul name ++ rest := rfl
  have hrest : sliceFrom (withNul name ++ rest) (withNul name).length = some rest :=
    sliceFrom_eq_some.mpr ⟨by simp, List.drop_left⟩
  have hset : srv.setGameData (request .setGameData (withNul name ++ rest)) c
      = some ⟨srv.setGame key (game.configuredAs config name), [], .ok .complete⟩ := by
    simp [Game.configuredAs, Server.setGameData, hgame, Game.isConfigured, hunconfigured, hdata,
      cstrUntilNul_withNul hzero, hne, hrest, Game.setConfig, hconfig, Server.complete]
  have hhandle : srv.handle env (request .setGameData (withNul name ++ rest)) c
      = srv.setGameData (request .setGameData (withNul name ++ rest)) c := rfl
  refine Step.updated (r := ⟨_, [], .ok .complete⟩) ?_
  simp only [Server.onUpdate, hhandle, hset, Option.bind_eq_bind, Option.bind_some, Server.logged,
    if_true, Server.resultSends, List.append_nil]
  rfl

end

/-! ### A list that is not sent -/

/-- The configuration of a game of VanWar, all of it zero. -/
def vanWarConfig : Bytes := List.replicate 44 0

/-- Two connections open a game each, and give them any name. -/
theorem exists_two_named {name : Bytes} (hzero : 0 ∉ name) (hne : name ≠ []) :
    ∃ srv config g₁ g₂, ServerReachable srv ∧
      srv.configuredGames = [Game.configuredAs g₂ config name, Game.configuredAs g₁ config name] := by
  have hplay : ((play (Server.new 0) [(Env.atTime 0, ask 7 .attachToGame [0, 0, 0, 0]),
      (Env.atTime 0, ask 8 .attachToGame [0, 0, 0, 0])]).map Prod.fst).bind (fun srv =>
        some (srv.games.entries.map fun e =>
          (e.1, (e.2.getPlayer 7).isSome, (e.2.getPlayer 8).isSome, e.2.config.isSome)))
      = some [(2, false, true, false), (1, true, false, false)] := by
    decide +kernel
  obtain ⟨srv, tr, hrun, hfacts⟩ := play_bind hplay
  simp only [Option.some.injEq, List.map_eq_cons_iff, List.map_eq_nil_iff, Prod.mk.injEq] at hfacts
  obtain ⟨⟨key₂, g₂⟩, _, hentries, ⟨rfl, hnot₂, hin₂, hconfig₂⟩, ⟨key₁, g₁⟩, _, rfl,
    ⟨rfl, hin₁, hnot₁, hconfig₁⟩, rfl⟩ := hfacts
  obtain ⟨config, hconfig⟩ : ∃ config, Config.fromSlice vanWarConfig = some (some config) :=
    ⟨_, rfl⟩
  have hgame₁ : srv.getGameByClientid 7 = some (1, g₁) := by
    simp [Server.getGameByClientid, Games.getGameByClientId, hentries, hin₁, hnot₂]
  have hfirst := Step.configures (Env.atTime 0) hgame₁ (by simpa using hconfig₁) hzero hne hconfig
  -- the other connection still finds its own game
  have hmid : (srv.setGame 1 (g₁.configuredAs config name)).games.entries
      = [⟨2, g₂⟩] ++ [⟨1, g₁.configuredAs config name⟩] :=
    AList.entries_replace_of_split _ hentries
  have hgame₂ : (srv.setGame 1 (g₁.configuredAs config name)).getGameByClientid 8 = some (2, g₂) := by
    unfold Server.getGameByClientid Games.getGameByClientId
    rw [hmid]
    simp [hin₂]
  have hsecond := Step.configures (Env.atTime 0) hgame₂ (by simpa using hconfig₂) hzero hne hconfig
  have hlast : ((srv.setGame 1 (g₁.configuredAs config name)).setGame 2
      (g₂.configuredAs config name)).games.entries
      = [] ++ ⟨2, g₂.configuredAs config name⟩ :: [⟨1, g₁.configuredAs config name⟩] :=
    AList.entries_replace_of_split _ hmid
  refine ⟨_, config, g₁, g₂, ⟨0, _, (hrun.snoc hfirst).snoc hsecond⟩, ?_⟩
  unfold Server.configuredGames AList.values
  rw [hlast]
  rfl

/-- A name that takes half of a packet. -/
def longName : Bytes := List.replicate 16400 65

/-- Two games with such names are listed to no one. -/
theorem games_list_undelivered : ∃ srv, ServerReachable srv ∧
    (request .setGameData (withNul longName ++ vanWarConfig)).Deliverable ∧
    srv.configuredGames.length = 2 ∧
    ¬ srv.ListsGames (Env.atTime 0) 7 (request .gamesListQuery []) := by
  have hlong : longName.length = 16400 := List.length_replicate
  have hzero : 0 ∉ longName := fun h => absurd (List.eq_of_mem_replicate h) (by decide)
  have hne : longName ≠ [] := List.ne_nil_of_length_pos (by rw [hlong]; decide)
  obtain ⟨srv, config, g₁, g₂, hreach, hgames⟩ := exists_two_named hzero hne
  refine ⟨srv, hreach, ⟨rfl, ?_⟩, by rw [hgames]; rfl, ?_⟩
  · have hrest : vanWarConfig.length = 44 := List.length_replicate
    simp only [request, withNul, List.length_append, List.length_singleton, hlong, hrest]
    decide
  · rw [listsGames_iff hreach.named rfl]
    intro hfits
    have hsize := hfits.size
    simp only [Server.gamesListSize, hgames, List.map_cons, List.map_nil, List.sum_cons, List.sum_nil,
      gameEntrySize, Game.configuredAs, withNul, List.length_append, hlong, i16Max] at hsize
    omega

/-- Two games with short names are listed. -/
theorem games_list_decodes_two : ∃ srv, ServerReachable srv ∧ srv.configuredGames.length = 2 ∧
    srv.ListsGames (Env.atTime 0) 7 (request .gamesListQuery []) := by
  have hplay : ((play (Server.new 0) [(Env.atTime 0, ask 7 .attachToGame [0, 0, 0, 0]),
      (Env.atTime 0, ask 7 .setGameData (withNul [65] ++ vanWarConfig)),
      (Env.atTime 0, ask 8 .attachToGame [0, 0, 0, 0]),
      (Env.atTime 0, ask 8 .setGameData (withNul [66] ++ vanWarConfig))]).map Prod.fst).bind
        (fun srv => some (srv.configuredGames.length, srv.gamesListSize 0)) = some (2, 61) := by
    decide +kernel
  obtain ⟨srv, tr, hrun, hfacts⟩ := play_bind hplay
  simp only [Option.some.injEq, Prod.mk.injEq] at hfacts
  obtain ⟨hcount, hsize⟩ := hfacts
  have hfits : srv.GamesListFits 0 := ⟨by omega, by simp only [i16Max]; omega⟩
  exact ⟨srv, ⟨0, tr, hrun⟩, hcount, (games_list_decodes_iff ⟨0, tr, hrun⟩ rfl).mpr hfits⟩

end VangersSrv
