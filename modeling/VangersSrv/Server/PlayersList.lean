/-
The list of players.

An entry has a name that ends with its terminator and a body of no stated length, so a receiver
has to know how long a body is.  The mode of the game says so, and nothing holds a body to it.
-/
import Mathlib.Algebra.Order.BigOperators.Group.List
import Mathlib.Data.List.Perm.Subperm
import VangersSrv.Lib.Records
import VangersSrv.Server.Fates
import VangersSrv.Server.Panics

namespace VangersSrv

/-! ### What a receiver reads -/

/-- What the list tells of a player. -/
structure PlayerRecord where
  id : UInt8
  status : UInt8
  world : UInt8
  pos : Pos
  /-- With its terminator. -/
  name : Bytes
  body : Bytes
  deriving DecidableEq, Repr

/-- How many bytes the statistics of a mode take. -/
def GameType.statsSize : GameType → Nat
  | .vanWar | .passembloss | .mustodont => 16
  | .mechosoma => 24
  | .huntage | .mirRage | .unconfigured => 0

def GameType.bodySize (t : GameType) : Nat := Body.getBaseStructSize + t.statsSize

/-- An entry, by a receiver that knows the length of a body. -/
def PlayerRecord.read (bodySize : Nat) : Bytes → Option (PlayerRecord × Bytes)
  | id :: status :: world :: s => do
    let (xs, s) ← Records.takeOff 2 s
    let (ys, s) ← Records.takeOff 2 s
    let x ← sliceLeToI16 xs
    let y ← sliceLeToI16 ys
    let (name, s) ← Records.takeThrough 0 s
    let (body, s) ← Records.takeOff bodySize s
    some ({ id, status, world, pos := { x, y }, name, body }, s)
  | _ => none

/-- As many entries as the first byte says, and nothing after them. -/
def readPlayersList (bodySize : Nat) : Bytes → Option (List PlayerRecord)
  | [] => none
  | count :: s => do
    let (records, s) ← Records.readMany (PlayerRecord.read bodySize) count.toNat s
    if s = [] then some records else none

/-! ### What there is to read -/

/-- A present player that has a body. -/
def playerRecord (p : Player) : Option PlayerRecord := do
  let id ← p.bindId
  let body ← p.body
  some {
    id
    status := p.status.toU8
    world := p.worldId.getD 0
    pos := p.pos
    name := (p.auth.map Auth.name).getD (withNul (ascii "[UNDEFINED]"))
    body := body.toVangersByte }

def removedPlayerRecord (r : RemovedPlayer) : PlayerRecord :=
  { id := r.bindId
    status := r.status.toU8
    world := r.world
    pos := r.pos
    name := r.name
    body := r.body }

/-- The present players that have a body, then the removed ones. -/
def Game.records (g : Game) : List PlayerRecord :=
  g.players.filterMap playerRecord ++ g.removedPlayers.map removedPlayerRecord

/-- An entry as it is sent. -/
def PlayerRecord.encode (r : PlayerRecord) : Bytes :=
  [r.id] ++ [r.status] ++ [r.world] ++ r.pos.toVangersByte ++ r.name ++ r.body

/-- A name with its terminator and no other, as long as names are. -/
def Terminated (name : Bytes) : Prop := ∃ s : Bytes, 0 ∉ s ∧ s.length ≤ 16 ∧ name = withNul s

/-- The bodies of the players, the removed ones too, have the length. -/
structure BodiesFit (g : Game) (bodySize : Nat) : Prop where
  present : ∀ p ∈ g.players, ∀ body, p.body = some body → body.toVangersByte.length = bodySize
  removed : ∀ r ∈ g.removedPlayers, r.body.length = bodySize

section

variable {n : Nat} {r : PlayerRecord} {records : List PlayerRecord} {s s' : Bytes} {g : Game}

/-! ### Entries -/

theorem playerEntry_eq (p : Player) : playerEntry p = (playerRecord p).map PlayerRecord.encode := by
  unfold playerEntry playerRecord
  cases p.bindId with
  | none => rfl
  | some id =>
      cases p.body with
      | none => rfl
      | some body => rfl

/-- The list is a count and the entries of the records. -/
theorem playersList_eq (g : Game) :
    playersList g = UInt8.ofNat g.records.length :: g.records.flatMap PlayerRecord.encode := by
  have hentries : g.players.filterMap playerEntry ++ g.removedPlayers.map removedPlayerEntry
      = g.records.map PlayerRecord.encode := by
    rw [Game.records, List.map_append, List.map_filterMap, List.map_map]
    congr 2
    funext p
    exact playerEntry_eq p
  unfold playersList
  rw [hentries]
  dsimp only
  rw [List.length_map, ← List.flatMap_def]
  rfl

/-- An entry with a terminated name and a body of the length is read whatever follows it. -/
theorem PlayerRecord.reads (hname : Terminated r.name) (hbody : r.body.length = n) :
    Records.Reads (PlayerRecord.read n) r.encode r := by
  obtain ⟨name, hzero, -, hname⟩ := hname
  intro rest
  have hx := Records.takeOff_append (toLeBytes16 r.pos.x)
    (toLeBytes16 r.pos.y ++ (r.name ++ (r.body ++ rest)))
  have hy := Records.takeOff_append (toLeBytes16 r.pos.y) (r.name ++ (r.body ++ rest))
  have hn := Records.takeThrough_append hzero (r.body ++ rest)
  have hb := Records.takeOff_append r.body rest
  rw [length_toLeBytes16] at hx hy
  rw [← withNul, ← hname] at hn
  rw [hbody] at hb
  show PlayerRecord.read n (r.id :: r.status :: r.world ::
    ((toLeBytes16 r.pos.x ++ toLeBytes16 r.pos.y) ++ r.name ++ r.body ++ rest)) = _
  simp only [PlayerRecord.read, List.append_assoc, hx, hy, hn, hb, sliceLeToI16_toLeBytes16,
    Option.bind_eq_bind, Option.bind_some]

/-- A body that is read has the length. -/
theorem PlayerRecord.length_body (h : PlayerRecord.read n s = some (r, s')) : r.body.length = n := by
  unfold PlayerRecord.read at h
  split at h
  · simp only [Option.bind_eq_bind, Option.bind_eq_some_iff, Option.some.injEq, Prod.mk.injEq,
      Prod.exists] at h
    obtain ⟨_, _, -, _, _, -, _, -, _, -, _, _, -, body, _, hbody, rfl, -⟩ := h
    exact Records.length_takeOff hbody
  · cases h

/-- **A list is read as its records exactly when their bodies have the length.** -/
theorem readPlayersList_iff (hcount : records.length < 256) (hnames : ∀ r ∈ records, Terminated r.name) :
    readPlayersList n (UInt8.ofNat records.length :: records.flatMap PlayerRecord.encode)
      = some records ↔ ∀ r ∈ records, r.body.length = n := by
  have hlen : (UInt8.ofNat records.length).toNat = records.length := by
    rw [UInt8.toNat_ofNat']
    exact Nat.mod_eq_of_lt hcount
  unfold readPlayersList
  dsimp only
  rw [hlen]
  constructor
  · intro h r hr
    simp only [Option.bind_eq_bind, Option.bind_eq_some_iff, Prod.exists] at h
    obtain ⟨rs, rest, hread, h⟩ := h
    split at h
    · cases h
      exact Records.readMany_forall (P := fun r => r.body.length = n)
        (fun _ _ _ => PlayerRecord.length_body) hread r hr
    · cases h
  · intro hbodies
    have hread := Records.Reads.many (fun r hr => PlayerRecord.reads (hnames r hr) (hbodies r hr)) []
    rw [List.append_nil] at hread
    simp [hread]

end

/-! ### Names and numbers -/

/-- What the list needs of a game, apart from the bodies. -/
structure Listable (g : Game) : Prop where
  named : ∀ p ∈ g.players, ∀ auth, p.auth = some auth → Terminated auth.name
  removedNamed : ∀ r ∈ g.removedPlayers, Terminated r.name
  removedBound : ∀ r ∈ g.removedPlayers, ValidBind r.bindId

section

variable {env : Env} {packet : Packet} {c : ClientID} {srv srv' : Server} {k : GameID}
  {g g' : Game} {e : Option Event}

theorem terminated_undefined : Terminated (withNul (ascii "[UNDEFINED]")) :=
  ⟨ascii "[UNDEFINED]", by decide, by decide, rfl⟩

/-- Who was removed was removed before, or is the player that closes its socket. -/
theorem GameStep.removed {r : RemovedPlayer} (h : GameStep env packet c srv k g g')
    (hr : r ∈ g'.removedPlayers) : r ∈ g.removedPlayers ∨
      ∃ p ∈ g.players, RemovedPlayer.fromPlayer (finishPlayer p) = some r := by
  cases h with
  | joined _ _ => exact Or.inl (List.mem_filter.mp hr).1
  | @closed player _ _ hacting _ =>
      change r ∈ rememberPlayer g.removedPlayers (finishPlayer player) at hr
      unfold rememberPlayer at hr
      split at hr
      · rename_i snapshot hsnapshot
        rcases List.mem_append.mp hr with hr | hr
        · exact Or.inl (List.mem_filter.mp hr).1
        · rw [List.mem_singleton.mp hr]
          exact Or.inr ⟨player, Game.getPlayer_mem hacting.found, hsnapshot⟩
      · exact Or.inl hr
  | _ => exact Or.inl hr

theorem GameStep.listable (h : GameStep env packet c srv k g g') (hok : GameOk g) (hlist : Listable g) :
    Listable g' := by
  refine ⟨fun q hq auth hauth => ?_, fun r hr => ?_, fun r hr => ?_⟩
  · rcases h.back hq with ⟨p, hp, hstep⟩ | ⟨_, -, -, rfl⟩
    · cases hstep with
      | moved => exact hlist.named p hp auth hauth
      | changed _ _ _ _ hchange =>
          cases hchange with
          | named _ hdata =>
              cases hauth
              rw [Auth.new_withNul]
              exact ⟨_, (extractAuthData_isClean hdata).noZero, (extractAuthData_isClean hdata).short, rfl⟩
          | described _ _ => exact hlist.named p hp auth hauth
          | moved _ => exact hlist.named p hp auth hauth
          | embodied _ _ _ _ _ => exact hlist.named p hp auth hauth
    · cases hauth
  · rcases h.removed hr with hr | ⟨p, hp, hfrom⟩
    · exact hlist.removedNamed r hr
    · unfold RemovedPlayer.fromPlayer at hfrom
      simp only [Option.bind_eq_bind, Option.bind_eq_some_iff, Option.some.injEq] at hfrom
      obtain ⟨_, -, auth, hauth, _, -, rfl⟩ := hfrom
      exact hlist.named p hp auth hauth
  · rcases h.removed hr with hr | ⟨p, hp, hfrom⟩
    · exact hlist.removedBound r hr
    · obtain ⟨b, hb, hvalid⟩ := hok.bound p hp
      have hid : (finishPlayer p).bindId = some r.bindId := RemovedPlayer.fromPlayer_bindId hfrom
      cases hb.symm.trans hid
      exact hvalid

theorem ServerReachable.listable (h : ServerReachable srv) (hk : srv.games.lookup k = some g) :
    Listable g := by
  refine h.everyGame hk (P := Listable) (fun now c bind => ?_)
    (fun env packet c mid g g' hok hstep hlist => hstep.listable hok hlist) ?_ ?_
  · refine ⟨fun p hp auth hauth => ?_, fun r hr => by simp [Game.joined, Game.new] at hr,
      fun r hr => by simp [Game.joined, Game.new] at hr⟩
    rw [List.mem_singleton.mp hp] at hauth
    cases hauth
  · intro g c deadline hlist
    exact ⟨List.forall_modifyFirst hlist.named fun p hp =>
      hlist.named p (List.mem_of_find?_eq_some hp), hlist.removedNamed, hlist.removedBound⟩
  · intro g vanjects _ hlist
    exact ⟨hlist.named, hlist.removedNamed, hlist.removedBound⟩

/-! ### The list of a game -/

theorem Listable.terminated (hlist : Listable g) : ∀ r ∈ g.records, Terminated r.name := by
  intro r hr
  rcases List.mem_append.mp hr with hr | hr
  · obtain ⟨p, hp, hrecord⟩ := List.mem_filterMap.mp hr
    unfold playerRecord at hrecord
    simp only [Option.bind_eq_bind, Option.bind_eq_some_iff, Option.some.injEq] at hrecord
    obtain ⟨_, -, _, -, rfl⟩ := hrecord
    cases hauth : p.auth with
    | none => simpa [hauth] using terminated_undefined
    | some auth => simpa [hauth] using hlist.named p hp auth hauth
  · obtain ⟨q, hq, rfl⟩ := List.mem_map.mp hr
    exact hlist.removedNamed q hq

/-- Present and removed players have different numbers, of which there are few. -/
theorem Listable.length_le (hlist : Listable g) (hok : GameOk g) :
    g.players.length + g.removedPlayers.length ≤ 31 := by
  have hnodup : (g.bindIds ++ g.removedPlayers.map fun r => some r.bindId).Nodup := by
    refine List.nodup_append'.mpr ⟨hok.distinct, ?_, ?_⟩
    · have hsome := hok.removedDistinct.map (Option.some_injective UInt8)
      rwa [List.map_map] at hsome
    · intro x hx hx'
      obtain ⟨r, hr, rfl⟩ := List.mem_map.mp hx'
      exact hok.removedAbsent r hr hx
  have hsub : (g.bindIds ++ g.removedPlayers.map fun r => some r.bindId) ⊆
      (List.range 31).map fun n => some (UInt8.ofNat n) := by
    have hrange : ∀ b, ValidBind b → some b ∈ (List.range 31).map fun n => some (UInt8.ofNat n) := by
      intro b hb
      refine List.mem_map.mpr ⟨b.toNat, List.mem_range.mpr (Nat.lt_succ_of_le hb.2), ?_⟩
      rw [UInt8.ofNat_toNat]
    intro x hx
    rcases List.mem_append.mp hx with hx | hx
    · obtain ⟨p, hp, rfl⟩ := List.mem_map.mp hx
      obtain ⟨b, hb, hvalid⟩ := hok.bound p hp
      rw [hb]
      exact hrange b hvalid
    · obtain ⟨r, hr, rfl⟩ := List.mem_map.mp hx
      exact hrange r.bindId (hlist.removedBound r hr)
  simpa [Game.bindIds] using (hnodup.subperm hsub).length_le

theorem length_records_le : g.records.length ≤ g.players.length + g.removedPlayers.length := by
  rw [Game.records, List.length_append, List.length_map]
  exact Nat.add_le_add_right (List.length_filterMap_le _ _) _

theorem Terminated.length_le {name : Bytes} (h : Terminated name) : name.length ≤ 17 := by
  obtain ⟨s, -, hlen, rfl⟩ := h
  rw [withNul, List.length_append, List.length_singleton]
  exact Nat.add_le_add_right hlen 1

/-- Every player has a number, so every body is in the list. -/
theorem bodiesFit_iff {n : Nat} (hok : GameOk g) :
    BodiesFit g n ↔ ∀ r ∈ g.records, r.body.length = n := by
  constructor
  · intro h r hr
    rcases List.mem_append.mp hr with hr | hr
    · obtain ⟨p, hp, hrecord⟩ := List.mem_filterMap.mp hr
      unfold playerRecord at hrecord
      simp only [Option.bind_eq_bind, Option.bind_eq_some_iff, Option.some.injEq] at hrecord
      obtain ⟨_, -, body, hbody, rfl⟩ := hrecord
      exact h.present p hp body hbody
    · obtain ⟨q, hq, rfl⟩ := List.mem_map.mp hr
      exact h.removed q hq
  · intro h
    refine ⟨fun p hp body hbody => ?_, fun r hr => ?_⟩
    · obtain ⟨b, hb, -⟩ := hok.bound p hp
      have hmem : ∃ r ∈ g.records, r.body = body.toVangersByte := by
        simp only [Game.records, List.mem_append, List.mem_filterMap]
        exact ⟨_, Or.inl ⟨p, hp, by rw [playerRecord, hb, hbody]; rfl⟩, rfl⟩
      obtain ⟨r, hr, hbytes⟩ := hmem
      rw [← hbytes]
      exact h r hr
    · exact h (removedPlayerRecord r) (List.mem_append_right _ (List.mem_map_of_mem hr))

/-- A list of bodies of a stated length fits in a packet. -/
theorem playersListSize_lt {n : Nat} (hok : GameOk g) (hlist : Listable g) (hn : n ≤ 49)
    (hbodies : BodiesFit g n) : playersListSize g < i16Max := by
  have hpresent : ∀ x ∈ g.players.map entrySize, x ≤ 73 := by
    intro x hx
    obtain ⟨p, hp, rfl⟩ := List.mem_map.mp hx
    obtain ⟨b, hb, -⟩ := hok.bound p hp
    unfold entrySize
    rw [hb]
    cases hbody : p.body with
    | none => simp
    | some body =>
        have hlen := hbodies.present p hp body hbody
        rw [Body.length_toVangersByte] at hlen
        have hname : p.auth.elim 12 (fun auth => auth.name.length) ≤ 17 := by
          cases hauth : p.auth with
          | none => simp
          | some auth => exact (hlist.named p hp auth hauth).length_le
        dsimp only
        omega
  have hremoved : ∀ x ∈ g.removedPlayers.map removedEntrySize, x ≤ 73 := by
    intro x hx
    obtain ⟨r, hr, rfl⟩ := List.mem_map.mp hx
    have hname := (hlist.removedNamed r hr).length_le
    have hbody := hbodies.removed r hr
    unfold removedEntrySize
    omega
  have hcount := hlist.length_le hok
  have h₁ := List.sum_le_card_nsmul _ _ hpresent
  have h₂ := List.sum_le_card_nsmul _ _ hremoved
  simp only [List.length_map, Nat.nsmul_eq_mul] at h₁ h₂
  unfold playersListSize i16Max
  omega

/-- There is a list of the players, and a receiver that knows the length of a body reads it. -/
def ListDecodes (g : Game) (bodySize : Nat) : Prop :=
  ∃ packet, totalPlayersDataPacket g = some packet ∧
    readPlayersList bodySize packet.data = some g.records

theorem GameType.bodySize_le (t : GameType) : t.bodySize ≤ 49 := by
  cases t <;> decide

/-- The list of a game decodes exactly when the bodies fit. -/
theorem Listable.decodes_iff {n : Nat} (hlist : Listable g) (hok : GameOk g) (hn : n ≤ 49) :
    ListDecodes g n ↔ BodiesFit g n := by
  have hcount : g.records.length < 256 := by
    have hrecords := length_records_le (g := g)
    have hplayers := hlist.length_le hok
    omega
  have hread := readPlayersList_iff (n := n) hcount hlist.terminated
  rw [← playersList_eq, ← bodiesFit_iff hok] at hread
  constructor
  · rintro ⟨packet, hpacket, hdecodes⟩
    rw [totalPlayersDataPacket_eq] at hpacket
    rw [(Packet.new_eq_some hpacket).2.1] at hdecodes
    exact hread.mp hdecodes
  · intro hbodies
    have hfits : Fits (playersList g) := fits_playersList.mpr (playersListSize_lt hok hlist hn hbodies)
    obtain ⟨packet, hpacket⟩ := Packet.new_isSome .totalListOfPlayersData hfits
    refine ⟨packet, hpacket, ?_⟩
    rw [(Packet.new_eq_some hpacket).2.1]
    exact hread.mpr hbodies

end

/-! ### Bodies of the right length -/

/-- A body that a request gives to its player. -/
inductive GivesBody (packet : Packet) (g : Game) : Bytes → Prop
  | described (haction : packet.action = .setPlayerData) : GivesBody packet g packet.data
  | embodied {v : Vanject} (haction : packet.action = .createObject)
      (hparse : Vanject.createFromSlice packet.data = some (.ok v))
      (htype : v.getType = NID.vanger) (hnew : g.vanjects.lookup v.id = none) :
      GivesBody packet g v.body

/-- In a configured game the request gives no body of another length, as long as it gives one, and
it configures no game with such a body. -/
structure FitRequest (packet : Packet) (g : Game) : Prop where
  body : ∀ config s, g.config = some config → GivesBody packet g s →
    Body.getBaseStructSize ≤ s.length → s.length = config.getGametype.bodySize
  config : ∀ config name, packet.action = .setGameData → g.config = none →
    GameChange packet g (some config) name → BodiesFit g config.getGametype.bodySize

/-- A round in which the players of the game keep to this. -/
def FitStep (k : GameID) (srv : Server) (e : Option Event) (srv' : Server) : Prop :=
  Step srv e srv' ∧ ∀ env packet c sent g p b,
    e = some { env, input := .message c (.updated packet), sent } → Acting srv c k g p b →
      FitRequest packet g

/-- In a game with a mode the bodies have the length for it. -/
def ModeKept (g : Game) : Prop :=
  ∀ config, g.config = some config → BodiesFit g config.getGametype.bodySize

section

variable {env : Env} {packet : Packet} {c : ClientID} {srv srv' mid : Server} {k : GameID}
  {g g' : Game} {e : Option Event} {p : Player} {b : UInt8} {sent : List Sent}

/-- What is read of a body is sent again, with all that followed it. -/
theorem Body.length_fromSlice {s : Bytes} {body : Body} (h : fromSlice s = some (some body)) :
    body.toVangersByte.length = s.length ∧ getBaseStructSize ≤ s.length := by
  have hlen : getBaseStructSize ≤ s.length := by
    have hsome := fromSlice_isSome h
    simpa using hsome
  unfold fromSlice at h
  rw [if_neg (Nat.not_lt.mpr hlen)] at h
  obtain ⟨body', hread, hbody⟩ := Option.map_eq_some_iff.mp h
  cases hbody
  -- seventeen reads of the fields before the statistics
  have hnext : ∀ {α : Type} {o : Option α} {f : α → Option Body}, o.bind f = some body →
      ∃ a, f a = some body := by
    intro α o f h
    obtain ⟨a, -, h⟩ := Option.bind_eq_some_iff.mp h
    exact ⟨a, h⟩
  unfold readFields at hread
  iterate 17 obtain ⟨_, hread⟩ := hnext hread
  obtain ⟨stats, hstats, hfields⟩ := Option.bind_eq_some_iff.mp hread
  cases hfields
  obtain ⟨-, rfl⟩ := sliceFrom_eq_some.mp hstats
  refine ⟨?_, hlen⟩
  rw [length_toVangersByte, List.length_drop]
  unfold getBaseStructSize at hlen ⊢
  omega

theorem Prelude.not_setGameData (h : Prelude env packet c srv sent srv') :
    packet.action ≠ .setGameData := by
  intro ha
  cases h with
  | playerChanged _ _ _ _ _ _ _ hchange =>
      cases hchange with
      | named haction _ => cases ha.symm.trans haction
      | described haction _ => cases ha.symm.trans haction
      | moved haction => cases ha.symm.trans haction
      | embodied haction _ _ _ _ => cases ha.symm.trans haction
  | left haction _ _ _ _ _ => simp [ha] at haction

/-- A request keeps to this in the middle of a round as at its start. -/
theorem Arises.fitRequest (h : Arises srv e env packet c mid) (hok : RegistryOk srv)
    (hfit : ∀ env packet c sent g p b,
      e = some { env, input := .message c (.updated packet), sent } → Acting srv c k g p b →
        FitRequest packet g)
    (hacting : Acting mid c k g p b) : FitRequest packet g := by
  by_cases hclose : packet.action = .closeSocket
  · refine ⟨fun config s _ hgives => ?_, fun config name haction => ?_⟩
    · cases hgives with
      | described haction => cases hclose.symm.trans haction
      | embodied haction _ _ _ => cases hclose.symm.trans haction
    · cases hclose.symm.trans haction
  obtain ⟨⟨sent, he⟩, g₀, p₀, hacting₀, hconfig, hsame⟩ := h.acting_back hok hclose hacting
  cases h with
  | first horigin =>
      cases horigin with
      | message he => exact hfit _ _ _ _ _ _ _ he hacting
      | tick _ => exact absurd rfl hclose
  | second _ hprelude =>
      have hfit₀ := hfit _ _ _ _ _ _ _ he hacting₀
      refine ⟨fun config s hset hgives => ?_, fun config name haction =>
        absurd haction hprelude.not_setGameData⟩
      refine hfit₀.body config s (hconfig ▸ hset) ?_
      cases hgives with
      | described haction => exact .described haction
      | embodied haction hparse htype hnew =>
          rcases hsame with hvan | hleaves
          · exact .embodied haction hparse htype (hvan ▸ hnew)
          · simp [haction] at hleaves

/-- The configuration of a game changes by a request to set it. -/
theorem GameStep.config_cases (h : GameStep env packet c srv k g g') : g'.config = g.config ∨
    ∃ config name, packet.action = .setGameData ∧ srv.getGameByClientid c = some (k, g) ∧
      g.config = none ∧ GameChange packet g config name ∧ g' = { g with config, name } := by
  cases h with
  | gameChanged hgame haction hunconfigured hchange =>
      exact Or.inr ⟨_, _, haction, hgame, hunconfigured, hchange, rfl⟩
  | _ => exact Or.inl rfl

theorem GameStep.modeKept (h : GameStep env packet c srv k g g') (hok : RegistryOk srv)
    (hgok : GameOk g) (hfit : ∀ p b, Acting srv c k g p b → FitRequest packet g)
    (hmode : ModeKept g) : ModeKept g' := by
  rcases h.config_cases with hsame | ⟨config, name, haction, hgame, hunconfigured, hchange, rfl⟩
  · intro config hconfig
    rw [hsame] at hconfig
    have hbodies := hmode config hconfig
    refine ⟨fun q hq body hbody => ?_, fun r hr => ?_⟩
    · rcases h.back hq with ⟨p, hp, hstep⟩ | ⟨_, -, -, rfl⟩
      · cases hstep with
        | moved => exact hbodies.present p hp body hbody
        | changed hgame hplayer _ _ hchange =>
            obtain ⟨b, hb, -⟩ := hgok.bound p hp
            have hfits := (hfit p b ⟨hgame, hplayer, hb⟩).body config
            cases hchange with
            | named _ _ => exact hbodies.present p hp body hbody
            | moved _ => exact hbodies.present p hp body hbody
            | described haction hparse =>
                cases hbody
                obtain ⟨hlen, hlong⟩ := Body.length_fromSlice hparse
                rw [hlen]
                exact hfits _ hconfig (.described haction) hlong
            | embodied haction hparse htype hnew hparsed =>
                cases hbody
                obtain ⟨hlen, hlong⟩ := Body.length_fromSlice hparsed
                rw [hlen]
                exact hfits _ hconfig (.embodied haction hparse htype hnew) hlong
      · cases hbody
    · rcases h.removed hr with hr | ⟨p, hp, hfrom⟩
      · exact hbodies.removed r hr
      · unfold RemovedPlayer.fromPlayer at hfrom
        simp only [Option.bind_eq_bind, Option.bind_eq_some_iff, Option.some.injEq] at hfrom
        obtain ⟨_, -, _, -, body, hbody, rfl⟩ := hfrom
        exact hbodies.present p hp body hbody
  · intro config' hconfig
    cases hconfig
    obtain ⟨p, b, hacting⟩ := hok.exists_acting hgame
    have hbodies := (hfit p b hacting).config config' name haction hunconfigured hchange
    exact ⟨hbodies.present, hbodies.removed⟩

theorem FitStep.modeKept (h : FitStep k srv e srv') (hok : RegistryOk srv)
    (hmode : ∀ g, srv.games.lookup k = some g → ModeKept g) :
    ∀ g, srv'.games.lookup k = some g → ModeKept g := by
  refine h.1.keeps hok (P := fun o => ∀ g, o = some g → ModeKept g) ?_ ?_ ?_ hmode
  · intro env packet c mid o harises hmid hfate hbefore g' hg'
    generalize hlookup : mid.games.lookup k = before at hfate hbefore
    cases hfate with
    | missing => cases hg'
    | opened _ _ =>
        cases hg'
        intro config hconfig
        cases hconfig
    | ended _ _ _ => cases hg'
    | kept hstep =>
        cases hg'
        exact hstep.modeKept hmid (hmid.game k _ hlookup)
          (fun p b hacting => harises.fitRequest hok h.2 hacting) (hbefore _ rfl)
  · rintro g c deadline hbefore _ hg
    cases hg
    intro config hconfig
    have hbodies := hbefore g rfl config hconfig
    exact ⟨List.forall_modifyFirst hbodies.present fun p hp =>
      hbodies.present p (List.mem_of_find?_eq_some hp), hbodies.removed⟩
  · rintro g vanjects - hbefore _ hg
    cases hg
    intro config hconfig
    have hbodies := hbefore g rfl config hconfig
    exact ⟨hbodies.present, hbodies.removed⟩

/-- **The players list decodes exactly when its bodies have the length for the mode**, and it does
throughout a run whose requests keep to that length. -/
theorem playersList_decodes {config : Config} (hreach : ServerReachable srv)
    (hk : srv.games.lookup k = some g) (hconfig : g.config = some config) :
    (ListDecodes g config.getGametype.bodySize ↔ BodiesFit g config.getGametype.bodySize) ∧
      ∀ start tr, Transition.Run (FitStep k) (Server.new start) tr srv →
        ListDecodes g config.getGametype.bodySize := by
  have hiff := (hreach.listable hk).decodes_iff (hreach.registryOk.game k g hk)
    config.getGametype.bodySize_le
  refine ⟨hiff, fun start tr hrun => hiff.mpr ?_⟩
  have hboth : RegistryOk srv ∧ ∀ g, srv.games.lookup k = some g → ModeKept g := by
    refine hrun.invariant (P := fun s => RegistryOk s ∧ ∀ g, s.games.lookup k = some g → ModeKept g)
      ⟨registryOk_new start, ?_⟩ ?_
    · intro g hg
      simp [Server.new] at hg
    · rintro a e s hstep ⟨hok, hmode⟩
      exact ⟨hstep.1.registryOk hok, hstep.modeKept hok hmode⟩
  exact hboth.2 g hk config hconfig

end

/-- A game of VanWar and a player of it with a name and a body. -/
def vanWarPlayer (body : Bytes) : List (Env × Input) :=
  [(Env.atTime 0, ask 7 .attachToGame [0, 0, 0, 0]),
    (Env.atTime 0, ask 7 .setGameData ([65, 0] ++ List.replicate 44 0)),
    (Env.atTime 0, ask 7 .registerName [65, 0, 0]),
    (Env.atTime 0, ask 7 .setPlayerData body)]

/-- A body without statistics is accepted in a game of VanWar, and the list cannot be read. -/
theorem playersList_lost : ∃ srv g config, ServerReachable srv ∧ srv.games.lookup 1 = some g ∧
    g.config = some config ∧ ¬ ListDecodes g config.getGametype.bodySize := by
  have hplay : ((play (Server.new 0) (vanWarPlayer (List.replicate 25 0))).map Prod.fst).bind
      (fun srv => do
        let g ← srv.games.lookup 1
        let config ← g.config
        let packet ← totalPlayersDataPacket g
        some (decide (readPlayersList config.getGametype.bodySize packet.data = some g.records)))
      = some false := by
    decide +kernel
  obtain ⟨srv, tr, hrun, hfacts⟩ := play_bind hplay
  simp only [Option.bind_eq_bind, Option.bind_eq_some_iff, Option.some.injEq,
    decide_eq_false_iff_not] at hfacts
  obtain ⟨g, hk, config, hconfig, packet, hpacket, hlost⟩ := hfacts
  refine ⟨srv, g, config, ⟨0, tr, hrun⟩, hk, hconfig, ?_⟩
  rintro ⟨packet', hpacket', hdecodes⟩
  cases hpacket.symm.trans hpacket'
  exact hlost hdecodes

/-- With the statistics of VanWar it can. -/
theorem playersList_decodes_vanWar : ∃ srv g config, ServerReachable srv ∧
    srv.games.lookup 1 = some g ∧ g.config = some config ∧ g.records ≠ [] ∧
    ListDecodes g config.getGametype.bodySize := by
  have hplay : ((play (Server.new 0) (vanWarPlayer (List.replicate 41 0))).map Prod.fst).bind
      (fun srv => do
        let g ← srv.games.lookup 1
        let config ← g.config
        some (g.records.map fun r => decide (r.body.length = config.getGametype.bodySize)))
      = some [true] := by
    decide +kernel
  obtain ⟨srv, tr, hrun, hfacts⟩ := play_bind hplay
  simp only [Option.bind_eq_bind, Option.bind_eq_some_iff, Option.some.injEq] at hfacts
  obtain ⟨g, hk, config, hconfig, hbodies⟩ := hfacts
  have hreach : ServerReachable srv := ⟨0, tr, hrun⟩
  have hfit : ∀ r ∈ g.records, r.body.length = config.getGametype.bodySize := by
    intro r hr
    have hmem := List.mem_map_of_mem (f := fun r => decide (r.body.length = config.getGametype.bodySize)) hr
    rw [hbodies] at hmem
    simpa using hmem
  refine ⟨srv, g, config, hreach, hk, hconfig, fun hnil => by simp [hnil] at hbodies, ?_⟩
  exact (playersList_decodes hreach hk hconfig).1.mpr
    ((bodiesFit_iff (hreach.registryOk.game 1 g hk)).mpr hfit)

end VangersSrv
