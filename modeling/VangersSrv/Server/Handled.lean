/-
Every handler does one of the listed effects.

The lemmas about the handlers are in the order of the callback files; `onUpdate_handled` puts
them together.
-/
import VangersSrv.Server.Handled.Session
import VangersSrv.Server.Handled.Worlds

namespace VangersSrv

variable {env : Env} {packet : Packet} {c : ClientID} {srv srv' : Server} {r : Reply}

/-! ### on_update -/

theorem handle_sound (h : srv.handle env packet c = some r) : Sound env packet c srv r := by
  unfold Server.handle at h
  split at h
  case h_1 haction => exact attachToGame_sound haction h
  case h_2 haction => exact restoreConnection_sound haction h
  case h_3 => exact Sound.respond h
  case h_4 => exact Sound.respond h
  case h_5 => exact topListQuery_sound h
  case h_6 => exact totalPlayersDataQuery_sound h
  case h_7 haction => exact registerName_sound haction h
  case h_8 haction => exact setPlayerData_sound haction h
  case h_9 haction => exact setPosition_sound haction h
  case h_10 haction => exact setGameData_sound haction h
  case h_11 => exact getGameData_sound h
  case h_12 haction => exact createObject_sound haction h
  case h_13 haction => exact setWorld_sound haction h
  case h_14 haction => exact leaveWorld_sound haction h
  case h_15 haction => exact updateObject_sound haction h
  case h_16 haction => exact deleteObject_sound haction h
  case h_17 haction => exact itemTransfer_sound haction h
  case h_18 => exact directSending_sound h
  case h_19 haction => exact closeSocket_sound haction h
  case h_20 => exact Sound.fail h

theorem resultSends_quiet {result : Except OnUpdateError OnUpdateOk} (h : QuietResult result) :
    ∀ s ∈ srv.resultSends c result, s.packet.Quiet := by
  match result, h with
  | .ok (.response p), hp =>
    intro s hs
    simp only [Server.resultSends, Server.sendClient] at hs
    split at hs
    · rw [List.mem_singleton.mp hs]
      exact hp
    · simp at hs
  | .ok .complete, _ => simp [Server.resultSends]
  | .error _, _ => simp [Server.resultSends]

/-- `on_update` adds nothing to its handler but the answer. -/
theorem onUpdate_result (h : srv.onUpdate env c packet = some r) :
    ∃ reply, srv.handle env packet c = some reply ∧ r.result = reply.result ∧
      r.srv = reply.srv ∧ r.sent = reply.sent ++ reply.srv.resultSends c reply.result := by
  unfold Server.onUpdate at h
  simp only [Option.bind_eq_bind, Option.bind_eq_some_iff] at h
  obtain ⟨reply, hreply, h⟩ := h
  split at h
  · cases h
    exact ⟨reply, hreply, rfl, rfl, rfl⟩
  · cases h

/-- **What `on_update` does**: the effects listed for its packet, and a quiet answer. -/
theorem onUpdate_handled (h : srv.onUpdate env c packet = some r) :
    ∃ sent answer, r.sent = sent ++ answer ∧ (∀ s ∈ answer, s.packet.Quiet) ∧
      Handled env packet c srv sent r.srv ∧
      (∀ err, r.result = .error err → packet.action ∈ objectActions → r.srv = srv) := by
  obtain ⟨reply, hreply, hresult, hsrv, hsent⟩ := onUpdate_result h
  have hsound := handle_sound hreply
  rw [hresult, hsrv]
  exact ⟨reply.sent, _, hsent, resultSends_quiet hsound.result, hsound.handled,
    fun err herr ha => (hsound.failed err herr ha).1⟩

/-! ### Rounds of the loop -/

/-- The request the cleanup timer makes for a player. -/
def closePacket : Packet := { eventSize := 1, action := .closeSocket, realAction := 0x86, data := [] }

/-- Where a packet that is handled during a round comes from: a connection, before
anything else happened in the round, or the cleanup timer. -/
inductive Origin (srv : Server) (e : Option Event) : Env → Packet → ClientID → Server → Prop
  | message {env : Env} {packet : Packet} {c : ClientID} {sent : List Sent}
      (h : e = some { env, input := .message c (.updated packet), sent }) :
      Origin srv e env packet c srv
  | tick {env : Env} {c : ClientID} {mid : Server} {sent : List Sent}
      (h : e = some { env, input := .tick, sent }) : Origin srv e env closePacket c mid

theorem closeAll_preserves {P : Server → Prop} {ids : List ClientID} {sent : List Sent}
    (h : srv.closeAll env ids = some (srv', sent))
    (hclose : ∀ c mid mid' s, Handled env closePacket c mid s mid' → P mid → P mid')
    (hsrv : P srv) : P srv' := by
  induction ids generalizing srv sent with
  | nil =>
      simp only [Server.closeAll, Option.some.injEq, Prod.mk.injEq] at h
      rw [← h.1]
      exact hsrv
  | cons c rest ih =>
      simp only [Server.closeAll, Option.bind_eq_bind, Option.bind_eq_some_iff, Option.some.injEq,
        Prod.mk.injEq] at h
      obtain ⟨closed, hclosed, ⟨mid, s⟩, hrest, rfl, -⟩ := h
      have hsound : Sound env closePacket c srv closed := closeSocket_sound rfl hclosed
      exact ih hrest (hclose _ _ _ _ hsound.handled hsrv)

/-- **The step rule.**  What every effect, every deadline, every change of the client list
and every reordering preserve, a round of the loop preserves. -/
theorem Step.preserves {P : Server → Prop} {e : Option Event} (h : Step srv e srv')
    (hhandled : ∀ env packet c mid mid' sent, Origin srv e env packet c mid →
      Handled env packet c mid sent mid' → P mid → P mid')
    (hmark : ∀ env c mid, P mid → P (mid.markPlayerDisconnected env c))
    (hclients : ∀ mid clients, P mid → P { mid with clients })
    (hrehash : ∀ mid mid', Rehash mid mid' → P mid → P mid') (hsrv : P srv) : P srv' := by
  cases h.round with
  | rehash hr => exact hrehash _ _ hr hsrv
  | tick hall =>
      exact closeAll_preserves hall
        (fun _ _ _ s hc => hhandled _ closePacket _ _ _ s (.tick rfl) hc) hsrv
  | added => exact hclients _ _ hsrv
  | status => exact hclients _ _ hsrv
  | disconnected => exact hclients _ _ (hmark _ _ _ hsrv)
  | updated hr =>
      obtain ⟨s, answer, -, -, hh, -⟩ := onUpdate_handled hr
      exact hhandled _ _ _ srv _ s (.message rfl) hh hsrv

end VangersSrv
