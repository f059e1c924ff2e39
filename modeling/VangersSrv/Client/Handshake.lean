/-
The handshake: `auth` and `send_handshake_response` in `client.rs`.

The client speaks first: a greeting, a zero byte and its protocol version.  The server reads
into a buffer of 64 bytes until it has all of that, and answers.  The loop over the packets
then starts with an empty buffer of its own, so it sees what `auth` has not read.
-/
import VangersSrv.Client.Inbound

namespace VangersSrv

/-- `HS_IN` -/
def hsIn : Bytes := ascii "Vivat Sicher, Rock'n'Roll forever!!!"

/-- `HS_OUT` -/
def hsOut : Bytes := ascii "Enter, my son, please..."

def protocolVersion : UInt8 := 6

/-- The greeting, the zero byte and the version. -/
def hsTotalLen : Nat := hsIn.length + 2

/-- How much `auth` reads at once. -/
def hsBuffLen : Nat := 64

inductive AuthError
  | closedByClient
  | hsUnexpectedRequestHeader
  | hsUnexpectedProtocolVersion (expected : Bytes) (given : UInt8)
  | hsResponse
  | hsZeroTerminated
  | connection
  deriving DecidableEq, Repr

/-- What `auth` returns, and what it has done to the socket: the bytes it has taken, those it
has written, and what the reads after it will return. -/
structure Authenticated where
  result : Except AuthError UInt8
  taken : Bytes
  written : Bytes
  rest : List (Option Bytes)

/-- What the loop makes of the bytes received so far. -/
inductive Examined
  | incomplete
  | refused (error : AuthError)
  | version (protocolVersion : UInt8)
  deriving DecidableEq, Repr

def examine (received : Bytes) : Examined :=
  let prefixLen := min received.length hsIn.length
  if received.take prefixLen ≠ hsIn.take prefixLen then .refused .hsUnexpectedRequestHeader
  else if received.length < hsIn.length then .incomplete
  else if hsIn.length < received.length ∧ received[hsIn.length]? ≠ some 0 then
    .refused .hsZeroTerminated
  else
    match received[hsIn.length + 1]? with
    | none => .incomplete
    | some protocolVersion => .version protocolVersion

/-- `send_handshake_response` -/
def handshakeResponse (protocolVersion : UInt8) : Bytes := hsOut ++ [0, protocolVersion]

/-- `auth`.  A read returns bytes or fails; it returns none when the client has closed the
connection, as it has after the last of them.  `writes` says whether the answer gets through. -/
def authFrom (writes : Bool) (received : Bytes) : List (Option Bytes) → Authenticated
  | [] => { result := .error .closedByClient, taken := received, written := [], rest := [] }
  | none :: reads =>
    { result := .error .connection, taken := received, written := [], rest := reads }
  | some [] :: reads =>
    { result := .error .closedByClient, taken := received, written := [], rest := reads }
  | some chunk :: reads =>
    let received := received ++ chunk
    match examine received with
    | .incomplete => authFrom writes received reads
    | .refused error => { result := .error error, taken := received, written := [], rest := reads }
    | .version version =>
      if writes = false then
        { result := .error .hsResponse, taken := received, written := [], rest := reads }
      else if version ≠ protocolVersion then
        { result := .error (.hsUnexpectedProtocolVersion [protocolVersion] version)
          taken := received
          written := handshakeResponse protocolVersion
          rest := reads }
      else
        { result := .ok version, taken := received, written := handshakeResponse version,
          rest := reads }

def auth (writes : Bool) (reads : List (Option Bytes)) : Authenticated := authFrom writes [] reads

/-- What a client with the server's version sends first. -/
def greeting : Bytes := hsIn ++ [0, protocolVersion]

section

variable {received further s : Bytes} {chunk : Bytes} {chunks : List Bytes} {writes : Bool}
  {version : UInt8}

theorem greeting_length : greeting.length = hsTotalLen := by
  simp [greeting, hsTotalLen]

/-- On the way through a greeting the loop goes on until it has all of it. -/
theorem examine_of_prefix (h : received ++ s = greeting ++ further) :
    examine received
      = if received.length < hsTotalLen then .incomplete else .version protocolVersion := by
  have hget : ∀ i, i < received.length → received[i]? = (greeting ++ further)[i]? := by
    intro i hi
    rw [← h, List.getElem?_append_left hi]
  have htake : received.take (min received.length hsIn.length)
      = hsIn.take (min received.length hsIn.length) := by
    have hprefix : (received ++ s).take (min received.length hsIn.length)
        = (greeting ++ further).take (min received.length hsIn.length) := by rw [h]
    rwa [List.take_append_of_le_length (Nat.min_le_left _ _), greeting, List.append_assoc,
      List.take_append_of_le_length (Nat.min_le_right _ _)] at hprefix
  have hlen : hsTotalLen = hsIn.length + 2 := rfl
  unfold examine
  rw [if_neg (fun hne => hne htake)]
  split
  · rw [if_pos (by omega)]
  · have hzero : hsIn.length < received.length → received[hsIn.length]? = some 0 := by
      intro hlt
      rw [hget _ hlt]
      simp [greeting]
    rw [if_neg (fun hbad => hbad.2 (hzero hbad.1))]
    split
    · rename_i hnone
      rw [if_pos (by have := List.getElem?_eq_none_iff.mp hnone; omega)]
    · rename_i v hsome
      have hlt := (List.getElem?_eq_some_iff.mp hsome).1
      rw [hget _ hlt] at hsome
      have hv : some v = some protocolVersion := hsome.symm.trans (by simp [greeting])
      rw [if_neg (by omega), Option.some.inj hv]

theorem authFrom_incomplete {reads : List (Option Bytes)} (hne : chunk ≠ [])
    (h : examine (received ++ chunk) = .incomplete) :
    authFrom writes received (some chunk :: reads) = authFrom writes (received ++ chunk) reads := by
  cases chunk with
  | nil => exact absurd rfl hne
  | cons b bs => simp only [authFrom, h]

theorem authFrom_version {reads : List (Option Bytes)} (hne : chunk ≠ [])
    (h : examine (received ++ chunk) = .version protocolVersion) :
    authFrom true received (some chunk :: reads) =
      { result := .ok protocolVersion, taken := received ++ chunk
        written := handshakeResponse protocolVersion, rest := reads } := by
  cases chunk with
  | nil => exact absurd rfl hne
  | cons b bs => simp [authFrom, h]

/-- Without an answer there is no success. -/
theorem writes_of_ok {reads : List (Option Bytes)}
    (h : (authFrom writes received reads).result = .ok version) : writes = true := by
  fun_induction authFrom writes received reads with
  | case4 _ _ _ _ _ _ ih => exact ih h
  | case8 => simp_all
  | _ => cases h

/-- **`auth` takes whole reads, up to the first that completes the greeting.** -/
theorem authFrom_ok (hstream : received ++ chunks.flatten = greeting ++ further)
    (hshort : received.length < hsTotalLen)
    (hok : (authFrom writes received (chunks.map some)).result = .ok version) :
    ∃ done later, chunks = done ++ later ∧
      (authFrom writes received (chunks.map some)).taken = received ++ done.flatten ∧
      (authFrom writes received (chunks.map some)).rest = later.map some ∧
      hsTotalLen ≤ (received ++ done.flatten).length ∧
      ∀ n, n < done.length → (received ++ (chunks.take n).flatten).length < hsTotalLen := by
  induction chunks generalizing received with
  | nil => cases hok
  | cons chunk chunks ih =>
      match chunk with
      | [] => cases hok
      | b :: bs =>
          rw [List.flatten_cons, ← List.append_assoc] at hstream
          have hexamine := examine_of_prefix hstream
          have hne : b :: bs ≠ [] := List.cons_ne_nil _ _
          obtain rfl : writes = true := writes_of_ok hok
          rw [List.map_cons] at hok ⊢
          rcases Nat.lt_or_ge (received ++ b :: bs).length hsTotalLen with hlt | hge
          · rw [if_pos hlt] at hexamine
            rw [authFrom_incomplete hne hexamine] at hok ⊢
            obtain ⟨done, later, rfl, htaken, hrest, hlong, hshort'⟩ := ih hstream hlt hok
            refine ⟨(b :: bs) :: done, later, rfl, ?_, hrest, ?_, fun n hn => ?_⟩
            · rw [htaken, List.flatten_cons, List.append_assoc]
            · rwa [List.flatten_cons, ← List.append_assoc]
            · cases n with
              | zero => simpa using hshort
              | succ n =>
                  rw [List.take_succ_cons, List.flatten_cons, ← List.append_assoc]
                  exact hshort' n (Nat.lt_of_succ_lt_succ hn)
          · rw [if_neg (Nat.not_lt.mpr hge)] at hexamine
            rw [authFrom_version hne hexamine]
            refine ⟨[b :: bs], chunks, rfl, by simp, rfl, by simpa using hge, fun n hn => ?_⟩
            obtain rfl : n = 0 := by simpa using hn
            simpa using hshort

/-- **`auth` leaves everything after the greeting to the loop when a read ends with it**, and
only then. -/
theorem auth_takes_greeting_iff (hstream : chunks.flatten = greeting ++ further)
    (hok : (auth writes (chunks.map some)).result = .ok version) :
    ((auth writes (chunks.map some)).taken = greeting ∧
        ∃ later : List Bytes, (auth writes (chunks.map some)).rest = later.map some ∧
          later.flatten = further) ↔
      ∃ n, (chunks.take n).flatten.length = hsTotalLen := by
  obtain ⟨done, later, rfl, htaken, hrest, hlong, hshort⟩ :=
    authFrom_ok (show [] ++ chunks.flatten = greeting ++ further from hstream) (by decide) hok
  rw [List.nil_append] at htaken hlong
  rw [List.flatten_append] at hstream
  constructor
  · rintro ⟨hgreeting, -⟩
    refine ⟨done.length, ?_⟩
    rw [List.take_left, ← htaken]
    exact (congrArg List.length hgreeting).trans greeting_length
  · rintro ⟨n, hn⟩
    have hle : done.length ≤ n := by
      by_contra hlt
      have hlt' := hshort n (Nat.lt_of_not_le hlt)
      rw [List.nil_append] at hlt'
      omega
    have hdone : done.flatten.length ≤ hsTotalLen := by
      rw [List.take_append, List.take_of_length_le hle, List.flatten_append,
        List.length_append] at hn
      omega
    have hgreeting : done.flatten = greeting :=
      (List.append_inj hstream (by rw [greeting_length]; omega)).1
    have hfurther : later.flatten = further :=
      (List.append_inj hstream (by rw [greeting_length]; omega)).2
    exact ⟨htaken.trans hgreeting, later, hrest, hfurther⟩

end

/-- The greeting and a query for the list of games, sent without waiting for the answer. -/
def eager : Bytes := greeting ++ [1, 0, Action.gamesListQuery.toU8]

/-- `auth` takes the query with the greeting, and the loop never sees it. -/
theorem auth_takes_query :
    eager.length ≤ hsBuffLen ∧
      auth true [some eager] =
        { result := .ok protocolVersion, taken := eager, written := handshakeResponse protocolVersion,
          rest := [] } ∧
      eager ≠ greeting :=
  ⟨by decide, rfl, by decide⟩

/-- With the query in a read of its own it is left. -/
theorem auth_leaves_query :
    (auth true ([greeting, [1, 0, Action.gamesListQuery.toU8]].map some)).taken = greeting :=
  ((auth_takes_greeting_iff
      (by decide : [greeting, [1, 0, Action.gamesListQuery.toU8]].flatten
        = greeting ++ [1, 0, Action.gamesListQuery.toU8])
      (by decide +kernel : (auth true ([greeting, [1, 0, Action.gamesListQuery.toU8]].map some)).result
        = .ok protocolVersion)).mpr
    ⟨1, by decide⟩).1

end VangersSrv
