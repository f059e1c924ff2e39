/-
What is shown of every handler.

A reply is `Sound` when its effect is one of the listed ones, its answer tells nothing about an
object, and a rejected request about an object has left no trace.
-/
import VangersSrv.Server.Effect

namespace VangersSrv

/-- A result whose response, if any, tells nothing about an object. -/
def QuietResult : Except OnUpdateError OnUpdateOk → Prop
  | .ok (.response p) => p.Quiet
  | .ok (.broadcast _) => False
  | .ok .complete => True
  | .error _ => True

/-- The requests about a single object. -/
def objectActions : List Action := [.createObject, .updateObject, .deleteObject, .itemTransfer]

/-- What is shown of every handler's reply. -/
structure Sound (env : Env) (packet : Packet) (c : ClientID) (srv : Server) (r : Reply) : Prop where
  handled : Handled env packet c srv r.sent r.srv
  result : QuietResult r.result
  /-- A rejected request about an object leaves no trace. -/
  failed : ∀ err, r.result = .error err → packet.action ∈ objectActions → r.srv = srv ∧ r.sent = []

variable {env : Env} {packet : Packet} {c : ClientID} {srv srv' : Server} {r : Reply}

namespace Sound

theorem fail {err : OnUpdateError} (h : srv.fail err = some r) : Sound env packet c srv r := by
  obtain rfl := Server.fail_eq_some h
  exact ⟨.one (.quiet (by simp)), trivial, fun _ _ _ => ⟨rfl, rfl⟩⟩

theorem failAfter {err : OnUpdateError} (h : srv'.fail err = some r)
    (haction : packet.action ∉ objectActions) (he : Effect env packet c srv [] srv') :
    Sound env packet c srv r := by
  obtain rfl := Server.fail_eq_some h
  exact ⟨.one he, trivial, fun _ _ ha => absurd ha haction⟩

theorem ofOk {ok : OnUpdateOk} (hok : r.result = .ok ok) (hq : QuietResult r.result)
    (he : Handled env packet c srv r.sent r.srv) : Sound env packet c srv r :=
  ⟨he, hq, fun _ herr _ => by simp [hok] at herr⟩

theorem complete {sent : List Sent} (h : srv'.complete sent = some r)
    (he : Handled env packet c srv sent srv') : Sound env packet c srv r := by
  obtain rfl := Server.complete_eq_some h
  exact ofOk rfl trivial he

/-- No response action tells about an object. -/
theorem quiet_createAnswer {p : Packet} {data : Bytes} (h : packet.createAnswer data = some p) :
    p.Quiet := by
  have haction := (Packet.createAnswer_eq_some h).1
  unfold Packet.Quiet
  revert haction
  cases packet.action <;> simp only [Action.requestToResponse, Option.some.injEq, reduceCtorEq,
    false_implies] <;> intro hp <;> rw [← hp] <;> decide

theorem respond {data : Bytes} (h : srv.respond packet data = some r) :
    Sound env packet c srv r := by
  unfold Server.respond at h
  split at h
  · rename_i answer hanswer
    simp only [Option.some.injEq] at h
    subst h
    exact ofOk rfl (quiet_createAnswer hanswer) (.one (.quiet (by simp)))
  · exact fail h

end Sound

theorem quiet_new {action : Action} {data : Bytes} {p : Packet} (h : Packet.new action data = some p)
    (haction : action ∉ [Action.updateObject, .deleteObject, .hideObject, .itemState, .itemRemoved,
      .worldSnapshotBegin]) : p.Quiet := by
  unfold Packet.Quiet
  rw [(Packet.new_eq_some h).1]
  exact haction

theorem quiet_notify {p : Packet} (hp : p.Quiet) {filter : ClientID → Bool} {realtime : Bool} :
    ∀ s ∈ srv.notify c p filter realtime, s.packet.Quiet := by
  intro s hs
  rw [Server.notify_packet hs]
  exact hp

end VangersSrv
