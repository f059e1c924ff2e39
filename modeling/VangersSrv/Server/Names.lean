/-
Registering a name.

What is stored with the player is the cleaned name with its terminator, and the other players of
the game are told these very bytes.
-/
import VangersSrv.Callback.Names
import VangersSrv.Server.Delivered
import VangersSrv.Server.Sizes

namespace VangersSrv

/-- The name is stored with the player that acts, and told to the others of its game. -/
structure NameStored (srv : Server) (c : ClientID) (key : GameID) (game : Game) (player : Player)
    (b : UInt8) (name : Bytes) (auth : Auth) (answer : Packet) (r : Reply) : Prop where
  acting : Acting srv c key game player b
  written : r.srv = srv.setGame key (game.modifyPlayer c fun _ => { player with auth := some auth })
  stored : auth.name = withNul name
  announces : answer.action = .playersName ∧ answer.data = [b] ++ auth.name
  told : ∀ x, packetsTo x r.sent
    = if x ∈ game.clientIds ∧ x ≠ c then srv.toConnections x [answer] else []

section

variable {env : Env} {srv : Server} {packet : Packet} {c : ClientID} {r : Reply} {ok : OnUpdateOk}

theorem registerName_ok (haction : packet.action = .registerName)
    (h : srv.registerName env packet c = some r) (hok : r.result = .ok ok) :
    ∃ key game player b name pwd auth answer,
      Server.extractAuthData packet.data = .ok (name, pwd) ∧
        NameStored srv c key game player b name auth answer r := by
  rcases registerName_cases h with ⟨err, hfail⟩ |
    ⟨key, game, player, b, name, pwd, answer, hacting, hdata, hanswer, h⟩
  · exact absurd hok (Server.fail_ne_ok hfail)
  obtain rfl := Server.complete_eq_some h
  have hstored := Auth.new_withNul env.randomName name
  obtain ⟨haction', hanswered, -⟩ := Packet.createAnswer_eq_some hanswer
  rw [haction] at haction'
  have hfound : (game.modifyPlayer c fun _ => { player with
      auth := some (Auth.new env.randomName (withNul name)) }).getPlayer c
      = some { player with auth := some (Auth.new env.randomName (withNul name)) } :=
    Game.getPlayer_modifyPlayer hacting.found rfl
  refine ⟨key, game, player, b, name, pwd, _, answer, hdata, {
    acting := hacting
    written := rfl
    stored := hstored
    announces := ⟨(Option.some.inj haction').symm, by rw [hanswered, hstored]⟩
    told := fun x => ?_ }⟩
  have hids : (game.modifyPlayer c fun _ => { player with
      auth := some (Auth.new env.randomName (withNul name)) }).clientIds = game.clientIds := by
    refine Game.clientIds_modifyPlayer fun p hp => ?_
    obtain rfl := Option.some.inj (hp.symm.trans hacting.found)
    rfl
  rw [packetsTo_notifyGame (Server.getGameByClientid_setGame hacting.inGame ⟨_, hfound⟩), hids]
  rfl

/-- **A name is taken exactly of a player with a number, in a registration.** -/
theorem registerName_ok_iff (haction : packet.action = .registerName)
    (h : srv.registerName env packet c = some r) :
    (∃ ok, r.result = .ok ok) ↔ (∃ key game player b, Acting srv c key game player b) ∧
      ∃ n w, IsRegistration packet.data n w := by
  constructor
  · rintro ⟨ok, hok⟩
    obtain ⟨key, game, player, b, name, pwd, auth, answer, hdata, hstored⟩ :=
      registerName_ok haction h hok
    obtain ⟨n, hn, -⟩ := extractAuthData_ok_iff.mp hdata
    exact ⟨⟨key, game, player, b, hstored.acting⟩, n, pwd, hn⟩
  · rintro ⟨⟨key, game, player, b, hacting⟩, n, w, hn⟩
    have hdata : Server.extractAuthData packet.data = .ok (cleanName n, w) :=
      extractAuthData_ok_iff.mpr ⟨n, hn, rfl⟩
    unfold Server.registerName at h
    simp only [hacting.inGame, hacting.found, hacting.bound, hdata, Option.bind_eq_bind,
      Option.bind_some, Option.bind_eq_some_iff] at h
    obtain ⟨player', -, answer, -, h⟩ := h
    exact ⟨.complete, by rw [Server.complete_eq_some h]⟩

end

/-- **REGISTER_NAME accepts exactly its grammar, never panics, and stores a clean name** that the
others of the game are told as it is stored. -/
theorem registerName_grammar (d : Bytes) :
    (∀ name pwd, Server.extractAuthData d = .ok (name, pwd) ↔
      ∃ n, IsRegistration d n pwd ∧ name = cleanName n) ∧
    (∀ name pwd, Server.extractAuthData d = .ok (name, pwd) → IsClean name) ∧
    extractAuthDataExpecting d = some (Server.extractAuthData d) ∧
    ∀ env srv packet c, packet.action = .registerName → packet.data = d →
      ∃ r, srv.registerName env packet c = some r ∧
        ((∃ ok, r.result = .ok ok) ↔ (∃ key game player b, Acting srv c key game player b) ∧
          ∃ n w, IsRegistration d n w) ∧
        ∀ ok, r.result = .ok ok →
          ∃ key game player b name pwd auth answer, Server.extractAuthData d = .ok (name, pwd) ∧
            NameStored srv c key game player b name auth answer r := by
  refine ⟨fun _ _ => extractAuthData_ok_iff, fun _ _ => extractAuthData_isClean,
    extractAuthDataExpecting_eq, ?_⟩
  rintro env srv packet c haction rfl
  obtain ⟨r, hr⟩ := Option.isSome_iff_exists.mp (Server.registerName_total haction)
  exact ⟨r, hr, registerName_ok_iff haction hr, fun ok hok => registerName_ok haction hr hok⟩

end VangersSrv
