import TrustedPlatform.Proofs.Engine.Exchange

/-!
# The sessions of the authorization entries

After a command was carried out, its authorization entries are gone through once more: each session
gets the nonces and the attributes of its entry, or is dropped. A session may be named by several
entries, and nothing keeps a client from that; the last one then decides on the nonces, and any one
of them may drop the session.
-/

namespace TrustedPlatform.Engine

/-! ## The use of sessions -/

section

variable {table : SessionTable} {handle : UInt32}

/-- The session of an entry is used or dropped, and the others stay as they are. -/
theorem get?_useSession (entry : AuthCommand) (answer : AuthResponse) :
    (useSession table entry answer).get? handle =
      if handle = entry.sessionHandle then
        if entry.attributes.continues then
          (table.get? handle).map fun session => { session with
            nonceCaller := entry.nonce.bytes
            nonceTpm := answer.nonce.bytes
            attributes := entry.attributes
            lastUsed := table.useClock + 1 }
        else none
      else table.get? handle := by
  unfold useSession
  cases hlive : table.get? entry.sessionHandle with
  | none =>
    rw [SessionTable.touch_eq_error_iff.mpr ⟨hlive, rfl, rfl⟩]
    show table.get? handle = _
    split
    · rename_i hhandle
      rw [hhandle, hlive]
      exact (ite_self none).symm
    · rfl
  | some session =>
    rw [touch_of_live hlive]
    dsimp only
    by_cases hhandle : handle = entry.sessionHandle
    · rw [if_pos hhandle, hhandle, hlive]
      split
      · rw [SessionTable.get?_insert_self]
        rfl
      · rw [SessionTable.get?_erase, if_pos rfl]
    · rw [if_neg hhandle]
      split
      · rw [SessionTable.get?_insert, if_neg hhandle, SessionTable.get?_insert, if_neg hhandle]
        rfl
      · rw [SessionTable.get?_erase, if_neg hhandle, SessionTable.get?_insert, if_neg hhandle]
        rfl

theorem contains_useSession (entry : AuthCommand) (answer : AuthResponse) :
    (useSession table entry answer).contains handle = true ↔
      table.contains handle = true ∧
        (entry.sessionHandle = handle → entry.attributes.continues = true) := by
  unfold SessionTable.contains
  rw [get?_useSession]
  by_cases hhandle : handle = entry.sessionHandle
  · rw [if_pos hhandle]
    split
    · rename_i hcontinues
      simp [hcontinues]
    · rename_i hcontinues
      simp [hcontinues, hhandle]
  · rw [if_neg hhandle]
    simp [Ne.symm hhandle]

variable {uses : List (AuthCommand × AuthResponse)}

/-- A session that no entry names stays as it is. -/
theorem get?_uses_of_unnamed (huses : ∀ use ∈ uses, use.1.sessionHandle ≠ handle) :
    (uses.foldl (fun table use => useSession table use.1 use.2) table).get? handle
      = table.get? handle := by
  induction uses generalizing table with
  | nil => rfl
  | cons use uses ih =>
    obtain ⟨hfirst, hothers⟩ := List.forall_mem_cons.mp huses
    rw [List.foldl_cons, ih hothers, get?_useSession, if_neg hfirst.symm]

/-- A session outlives the command exactly if every entry that names it continues it. -/
theorem contains_uses :
    (uses.foldl (fun table use => useSession table use.1 use.2) table).contains handle = true ↔
      table.contains handle = true ∧
        ∀ use ∈ uses, use.1.sessionHandle = handle → use.1.attributes.continues = true := by
  induction uses generalizing table with
  | nil => simp
  | cons use uses ih =>
    rw [List.foldl_cons, ih, contains_useSession, List.forall_mem_cons, and_assoc]

/-- The last entry that names a session decides on its nonces and attributes. -/
theorem of_last_use {before later : List (AuthCommand × AuthResponse)} {entry : AuthCommand}
    {answer : AuthResponse} {session : Session}
    (hlater : ∀ use ∈ later, use.1.sessionHandle ≠ entry.sessionHandle)
    (hlive : ((before ++ (entry, answer) :: later).foldl
      (fun table use => useSession table use.1 use.2) table).get? entry.sessionHandle
      = some session) :
    session.nonceTpm = answer.nonce.bytes ∧ session.nonceCaller = entry.nonce.bytes ∧
      session.attributes = entry.attributes := by
  rw [List.foldl_append, List.foldl_cons, get?_uses_of_unnamed hlater, get?_useSession, if_pos rfl]
    at hlive
  split at hlive
  · obtain ⟨_, _, rfl⟩ := Option.map_eq_some_iff.mp hlive
    exact ⟨rfl, rfl, rfl⟩
  · cases hlive

end

/-! ## After a command -/

namespace Execution

variable {engine : Engine} {envelope : Bytes} (e : Execution engine envelope)

/-- Each entry, with its answer. -/
def uses : List (AuthCommand × AuthResponse) := e.request.sessions.zip e.answers

/-- Between the handler and the use of the sessions only nonces are drawn. -/
theorem sessions_next :
    e.next.state.sessions
      = e.uses.foldl (fun table use => useSession table use.1 use.2) e.performed.sessions := by
  have hkept := (answerEntries_keepsSessions engine.env e.request.sessions).ok e.answers_eq
  show useSessions e.answered.sessions _ _ = _
  rw [hkept.1]
  rfl

/-- The entries of the uses are all entries. -/
theorem map_fst_uses : e.uses.map Prod.fst = e.request.sessions :=
  List.map_fst_zip (Nat.le_of_eq (EStateM.length_of_mapM_eq_ok e.answers_eq).symm)

theorem forall_uses_iff {p : AuthCommand → Prop} :
    (∀ use ∈ e.uses, p use.1) ↔ ∀ entry ∈ e.request.sessions, p entry := by
  rw [← e.map_fst_uses, List.forall_mem_map]

end Execution

/-- After a command was carried out, a live session has the nonces and the attributes of the last
entry that names it, with the nonce that answers this entry; and a session of an entry that the
handler left alive is alive exactly if every entry that names it continues it. -/
theorem sessions_follow_entries {engine next : Engine} {envelope response : Bytes}
    (h : executeCommand envelope engine = .ok response next) :
    ∃ e : Execution engine envelope, response = e.response ∧
      e.answers.length = e.request.sessions.length ∧
      (∀ (i : Nat) (entry : AuthCommand) (answer : AuthResponse),
        e.request.sessions[i]? = some entry → e.answers[i]? = some answer →
        (∀ later ∈ e.request.sessions.drop (i + 1),
          later.sessionHandle ≠ entry.sessionHandle) →
        ∀ session, next.state.sessions.get? entry.sessionHandle = some session →
          session.nonceTpm = answer.nonce.bytes ∧ session.nonceCaller = entry.nonce.bytes ∧
            session.attributes = entry.attributes) ∧
      ∀ entry ∈ e.request.sessions,
        e.performed.sessions.contains entry.sessionHandle = true →
        (next.state.sessions.contains entry.sessionHandle = true ↔
          ∀ other ∈ e.request.sessions, other.sessionHandle = entry.sessionHandle →
            other.attributes.continues = true) := by
  obtain ⟨e, hresponse, rfl, _⟩ := Execution.exists_of_executeCommand h
  have hlength := EStateM.length_of_mapM_eq_ok e.answers_eq
  refine ⟨e, hresponse, hlength, ?_, ?_⟩
  · intro i entry answer hentry hanswer hlast session hlive
    have huse : e.uses[i]? = some (entry, answer) :=
      List.getElem?_zip_eq_some.mpr ⟨hentry, hanswer⟩
    obtain ⟨hi, hget⟩ := List.getElem?_eq_some_iff.mp huse
    have hcut : e.uses = e.uses.take i ++ (entry, answer) :: e.uses.drop (i + 1) := by
      rw [← hget, ← List.drop_eq_getElem_cons hi, List.take_append_drop]
    have hlater : ∀ use ∈ e.uses.drop (i + 1), use.1.sessionHandle ≠ entry.sessionHandle := by
      intro use hmem
      rw [Execution.uses, List.zip_eq_zipWith, List.drop_zipWith, ← List.zip_eq_zipWith] at hmem
      exact hlast use.1 (List.of_mem_zip hmem).1
    rw [e.sessions_next, hcut] at hlive
    exact of_last_use hlater hlive
  · intro entry _ hkept
    have hall := e.forall_uses_iff
      (p := fun other => other.sessionHandle = entry.sessionHandle →
        other.attributes.continues = true)
    rw [e.sessions_next, contains_uses, hall]
    exact and_iff_right hkept

/-- An engine with one policy session, whose draws show their numbers. -/
def numberedEngine : Engine :=
  reached (.standard fun draw size => List.replicate size (UInt8.ofNat draw)) crowdedConfig
    [.command (startRequest [])]

/-- An assertion on the session, which two entries name as well. -/
def repeatedEnvelope : Bytes :=
  RequestBuilder.request .policyAuthValue (⟨0x03000000⟩ : PolicyAuthValueRequest)
    [.policy 0x03000000, .policy 0x03000000]

/-- The nonces that a client reads in the response, and the nonce that the session then has. -/
def repeatedNonces? : Option (List Bytes × Bytes) :=
  match executeCommand repeatedEnvelope numberedEngine with
  | .ok response next =>
    (Reply.parse response).toOption.bind fun reply =>
      (reply.authEntries 0).toOption.bind fun entries =>
        (next.state.sessions.get? 0x03000000).map fun session =>
          (entries.map (·.nonce.bytes), session.nonceTpm)
  | .error _ _ => none

theorem repeatedNonces?_eq : repeatedNonces?
    = some ([List.replicate 32 4, List.replicate 32 5], List.replicate 32 5) := by
  decide +kernel

/-- The nonce that answers the first of two entries for a session is not the session's, although the
session is live. -/
theorem repeated_entry_disagrees :
    ∃ response next reply entries first session,
      executeCommand repeatedEnvelope numberedEngine = .ok response next ∧
      Reply.parse response = .ok reply ∧ reply.authEntries 0 = .ok entries ∧
      entries[0]? = some first ∧ next.state.sessions.get? 0x03000000 = some session ∧
      session.nonceTpm ≠ first.nonce.bytes := by
  have hread := repeatedNonces?_eq
  unfold repeatedNonces? at hread
  cases hexecute : executeCommand repeatedEnvelope numberedEngine with
  | error stop stopped =>
    rw [hexecute] at hread
    cases hread
  | ok response next =>
    rw [hexecute] at hread
    obtain ⟨reply, hreply, hentry⟩ := Option.bind_eq_some_iff.mp hread
    obtain ⟨entries, hentries, hsession⟩ := Option.bind_eq_some_iff.mp hentry
    obtain ⟨session, hlive, hpair⟩ := Option.map_eq_some_iff.mp hsession
    obtain ⟨hnonces, hnonce⟩ := Prod.mk.inj hpair
    obtain ⟨first, _, rfl, hfirst, _⟩ := List.map_eq_cons_iff.mp hnonces
    refine ⟨response, next, reply, _, first, session, rfl, toOption_eq_some_iff.mp hreply,
      toOption_eq_some_iff.mp hentries, rfl, hlive, ?_⟩
    rw [hnonce, hfirst]
    decide

/-- The second of the entries, which is the last one, is the one that the session follows. -/
theorem sessions_follow_entries_repeated :
    ∃ response next, executeCommand repeatedEnvelope numberedEngine = .ok response next ∧
      ∃ e : Execution numberedEngine repeatedEnvelope, response = e.response ∧
        ∀ answer, e.answers[1]? = some answer →
          ∀ session, next.state.sessions.get? 0x03000000 = some session →
            session.nonceTpm = answer.nonce.bytes := by
  obtain ⟨response, next, hexecute⟩ : ∃ response next,
      executeCommand repeatedEnvelope numberedEngine = .ok response next :=
    completed?_isSome_iff.mp (by decide +kernel)
  obtain ⟨e, hresponse, _, hlast, _⟩ := sessions_follow_entries hexecute
  have hentries : e.request.sessions = [.policy 0x03000000, .policy 0x03000000] := by
    have haccept : ((RequestHeader.parse repeatedEnvelope).toOption.bind fun header =>
        (accept numberedEngine.env numberedEngine.state.sessions header
          repeatedEnvelope).toOption.map (·.2.sessions))
        = some [.policy 0x03000000, .policy 0x03000000] := by decide +kernel
    rw [e.parse_eq] at haccept
    change (accept _ _ _ _).toOption.map _ = _ at haccept
    rw [e.accept_eq] at haccept
    exact Option.some.inj haccept
  refine ⟨response, next, hexecute, e, hresponse, fun answer hanswer session hlive => ?_⟩
  refine (hlast 1 (.policy 0x03000000) answer ?_ hanswer ?_ session hlive).1
  · rw [hentries]
    rfl
  · rw [hentries]
    simp

end TrustedPlatform.Engine
