/-
A message to some of the players of a game.

The mask has a bit for every number a player can have.  The handler goes through the players
once, for the sender and for those whose bit is set; the text is the C string of the payload,
cut where it would not fit.
-/
import VangersSrv.Server.Delivered
import VangersSrv.Server.Vocabulary

namespace VangersSrv

/-- A string that ends in its only zero byte. -/
def IsCString (s : Bytes) : Prop := ∃ text, s = withNul text ∧ 0 ∉ text

/-- What is made of the text after the mask: it is passed on, or its first 136 bytes are and
three dots. -/
structure MessageText (payload msg : Bytes) : Prop where
  terminated : IsCString msg
  fits : msg.length ≤ 140
  cut : ∃ text rest, IsCString text ∧ payload = text ++ rest ∧
    msg = if text.length ≤ 140 then text else text.take 136 ++ ascii "..." ++ [0]

/-- The message of a player, sent to the others of the game that the mask names. -/
structure Spoken (srv : Server) (c : ClientID) (key : GameID) (game : Game) (player : Player)
    (b : UInt8) (mask : U32) (msg : Bytes) (answer : Packet) (r : Reply) : Prop where
  acting : Acting srv c key game player b
  answers : answer.action = .directReceiving ∧ answer.data = [b] ++ msg
  told : ∀ x, packetsTo x r.sent
    = if x ≠ c ∧ ∃ q ∈ game.players, q.clientId = x ∧ q.maskedBy mask then
        srv.toConnections x [answer]
      else []
  same : r.srv = srv

section

variable {s text : Bytes}

/-! ### The text -/

theorem getFirstCstr_eq_some (h : getFirstCstr s = some text) :
    IsCString text ∧ ∃ rest, s = text ++ rest := by
  unfold getFirstCstr at h
  split at h
  · cases h
  obtain ⟨name, hname, rfl⟩ := Option.map_eq_some_iff.mp h
  obtain ⟨hclean, rest, hrest⟩ := cstrUntilNul_eq_some hname
  exact ⟨⟨name, rfl, hclean⟩, rest, hrest⟩

/-- The cut takes the dots and the terminator off the limit. -/
theorem limitMsg_long (h : 140 < text.length) :
    Server.limitMsg text = text.take 136 ++ ascii "..." ++ [0] := by
  unfold Server.limitMsg
  exact if_pos h

theorem limitMsg_short (h : text.length ≤ 140) : Server.limitMsg text = text := by
  unfold Server.limitMsg
  exact if_neg (Nat.not_lt.mpr h)

theorem limitMsg_isCString (h : IsCString text) : IsCString (Server.limitMsg text) := by
  by_cases hlong : 140 < text.length
  · obtain ⟨name, rfl, hclean⟩ := h
    rw [limitMsg_long hlong]
    have hname : 136 ≤ name.length := by
      rw [withNul, List.length_append, List.length_singleton] at hlong
      omega
    refine ⟨name.take 136 ++ ascii "...", ?_, ?_⟩
    · rw [withNul, List.take_append_of_le_length hname]
      rfl
    · intro hzero
      rcases List.mem_append.mp hzero with hzero | hzero
      · exact hclean (List.mem_of_mem_take hzero)
      · revert hzero
        decide
  · rw [limitMsg_short (by omega)]
    exact h

theorem limitMsg_length : (Server.limitMsg text).length ≤ 140 := by
  by_cases hlong : 140 < text.length
  · have hdots : (ascii "...").length = 3 := by decide
    rw [limitMsg_long hlong]
    simp only [List.length_append, List.length_take, hdots, List.length_singleton]
    omega
  · rw [limitMsg_short (by omega)]
    omega

theorem limitMsg_text (h : getFirstCstr s = some text) : MessageText s (Server.limitMsg text) := by
  obtain ⟨htext, rest, hrest⟩ := getFirstCstr_eq_some h
  refine {
    terminated := limitMsg_isCString htext
    fits := limitMsg_length
    cut := ⟨text, rest, htext, hrest, ?_⟩ }
  split
  · rename_i hshort
    exact limitMsg_short hshort
  · rename_i hlong
    exact limitMsg_long (by omega)

end

/-- **A direct message goes to exactly the players that its mask names**, once to each of their
connections, and says who sent it and a well-formed text. -/
theorem directSending_reaches {srv : Server} {packet : Packet} {c : ClientID} {r : Reply}
    {ok : OnUpdateOk} (hone : OneHolder srv) (haction : packet.action = .directSending)
    (h : srv.directSending packet c = some r) (hok : r.result = .ok ok) :
    ∃ key game player b mask msg answer, sliceLeToU32 (packet.data.take 4) = some mask ∧
      MessageText (packet.data.drop 4) msg ∧
      Spoken srv c key game player b mask msg answer r := by
  rcases directSending_cases h with ⟨err, hfail, -⟩ |
    ⟨key, game, mask, player, b, text, answer, hgame, hmask, hsender, hbound, htext, hanswer, rfl⟩
  · exact absurd hok (Server.fail_ne_ok hfail)
  obtain ⟨haction', hanswered, -⟩ := Packet.createAnswer_eq_some hanswer
  rw [haction] at haction'
  -- the sender found is the player that acts, as no other has its client id
  have hfound : game.getPlayer c = some player := by
    obtain ⟨hmem, rfl⟩ := Server.directTargets_sender hsender
    exact (hone.actsOnHolder key game player (Server.getGameByClientid_lookup hgame) hmem).2
  refine ⟨key, game, player, b, mask, Server.limitMsg text, answer, hmask, limitMsg_text htext, {
    acting := ⟨hgame, hfound, hbound⟩
    answers := ⟨(Option.some.inj haction').symm, hanswered⟩
    told := fun x => ?_
    same := rfl }⟩
  rw [packetsTo_sendTo]
  exact if_congr Server.mem_directTargets rfl rfl

/-- The first player of a game greets the second. -/
theorem directSending_reaches_second : ∃ srv r, ServerReachable srv ∧
    srv.directSending (request .directSending [2, 0, 0, 0, 72, 105, 0]) 7 = some r ∧
    ∃ key game player b mask msg answer,
      sliceLeToU32 ((request .directSending [2, 0, 0, 0, 72, 105, 0]).data.take 4) = some mask ∧
      MessageText ((request .directSending [2, 0, 0, 0, 72, 105, 0]).data.drop 4) msg ∧
      Spoken srv 7 key game player b mask msg answer r := by
  have hplay : ((play (Server.new 0) (twoInWorld
        ++ [(Env.atTime 0, ask 7 .registerName [65, 0, 0])])).map Prod.fst).bind (fun srv => do
      let r ← srv.directSending (request .directSending [2, 0, 0, 0, 72, 105, 0]) 7
      some (decide srv.holders.Nodup, r.result.toOption)) = some (true, some .complete) := by
    decide +kernel
  obtain ⟨srv, tr, hrun, hfacts⟩ := play_bind hplay
  simp only [Option.bind_eq_bind, Option.bind_eq_some_iff, Option.some.injEq, Prod.mk.injEq,
    decide_eq_true_eq] at hfacts
  obtain ⟨r, hr, hnodup, hres⟩ := hfacts
  exact ⟨srv, r, ⟨0, tr, hrun⟩, hr,
    directSending_reaches (OneHolder.of_nodup hnodup) rfl hr (ok_of_toOption hres)⟩

end VangersSrv
