import TrustedPlatform.Proofs.Engine.AuthTicket
import TrustedPlatform.Proofs.Engine.LiveSessions
import TrustedPlatform.Proofs.SessionTable.FreeHandle

/-!
# Requests that are not answered

An engine counts with two numbers that have an end: the reading of the clock at which an
authorization expires has 64 bits, and a range has `2 ^ 24` handles. An authorization that would
expire beyond the last reading is not answered. Neither is a request for a session for which there
is room but no handle: the search for a free one goes on forever. Sessions that are started one
after the other lead to a table where this is so, if it has room for them.
-/

namespace TrustedPlatform

namespace SessionTable

variable {table : SessionTable} {kind : HandleKind}

/-! ## A range without a free handle -/

/-- Every handle of the range is in use. -/
def Filled (table : SessionTable) (kind : HandleKind) : Prop :=
  ∀ index, table.contains (kind.handle index) = true

/-- The search for a free handle does not end. -/
theorem Filled.not_searches (h : table.Filled kind) {index : UInt32} {turns : Nat}
    {handle nextIndex : UInt32} : ¬table.Searches kind index turns handle nextIndex := by
  intro hsearch
  induction hsearch with
  | free hfree => cases (h _).symm.trans hfree
  | inUse _ _ ih => exact ih

theorem Filled.freeHandle?_eq_none (h : table.Filled kind) (tries : Nat) (index : UInt32) :
    table.freeHandle? kind tries index = none := by
  cases hfound : table.freeHandle? kind tries index with
  | none => rfl
  | some found =>
    obtain ⟨_, _, hsearch⟩ := freeHandle?_eq_some_iff.mp hfound
    exact (h.not_searches hsearch).elim

theorem Filled.start {parameters : SessionParameters} {roomy : SessionTable}
    (hroom : table.makeRoom = .ok roomy) (h : roomy.Filled (handleKind parameters.kind)) :
    start parameters table = .error (.breach .handlesExhausted) roomy := by
  unfold SessionTable.start
  simp only [hroom, h.freeHandle?_eq_none]

/-! ## Sessions that are started one after the other -/

variable {n : Nat}

/-- Exactly the first `n` handles of a kind are in use, and the next index is the one after them. -/
structure HoldsFirst (kind : HandleKind) (n : Nat) (table : SessionTable) : Prop where
  handles_eq : table.handles = (List.range n).map fun i => kind.handle (UInt32.ofNat i)
  nextIndex_eq : table.nextIndex = UInt32.ofNat n

namespace HoldsFirst

theorem empty (kind : HandleKind) (capacity : Nat) (evicts : Bool) :
    HoldsFirst kind 0 (.empty capacity evicts) := ⟨rfl, rfl⟩

theorem size_eq (h : HoldsFirst kind n table) : table.size = n := by
  rw [← length_handles, h.handles_eq, List.length_map, List.length_range]

theorem contains_next (h : HoldsFirst kind n table) (hn : n < 2 ^ 24) :
    table.contains (kind.handle (UInt32.ofNat n)) = false := by
  have habsent : kind.handle (UInt32.ofNat n) ∉ table.handles := by
    rw [h.handles_eq, List.mem_map]
    rintro ⟨i, hi, heq⟩
    rw [List.mem_range] at hi
    -- handles are different as long as the range has not been gone through
    have hsame : i = n := kind.eq_of_handle_add_eq 0 (by omega) hn (by simpa using heq)
    omega
  rw [contains, get?_eq_none_iff.mpr habsent]
  rfl

/-- A session that is started gets the handle of the next index. -/
theorem start {parameters : SessionParameters} (h : HoldsFirst (handleKind parameters.kind) n table)
    (hn : n < 2 ^ 24) (hroom : n < table.capacity) :
    ∃ next, start parameters table
        = .ok ((handleKind parameters.kind).handle (UInt32.ofNat n)) next ∧
      HoldsFirst (handleKind parameters.kind) (n + 1) next := by
  have hmakeRoom : table.makeRoom = .ok table :=
    makeRoom_eq_ok_iff.mpr (.inl ⟨by rw [h.size_eq]; exact hroom, rfl⟩)
  have hfree := h.contains_next hn
  have hfound : table.freeHandle? (handleKind parameters.kind) (table.size + 1) table.nextIndex
      = some ((handleKind parameters.kind).handle (UInt32.ofNat n), UInt32.ofNat n + 1) := by
    rw [h.nextIndex_eq, freeHandle?, hfree]
    rfl
  refine ⟨_, start_eq_ok_iff.mpr ⟨table, _, hmakeRoom, hfound, rfl⟩, ⟨?_, ?_⟩⟩
  · -- the index and the use clock have no part in what is live
    have hunused : { table with nextIndex := UInt32.ofNat n + 1, useClock := table.useClock + 1
        }.contains ((handleKind parameters.kind).handle (UInt32.ofNat n)) = false := hfree
    rw [handles_insert_of_free hunused, List.range_succ, List.map_append, ← h.handles_eq]
    rfl
  · rw [nextIndex_insert, UInt32.ofNat_add]
    rfl

/-- After `2 ^ 24` sessions no handle is left. -/
theorem filled (h : HoldsFirst kind n table) (hn : n = 2 ^ 24) : table.Filled kind := by
  intro index
  have hsame : kind.handle (UInt32.ofNat (index.toNat % 2 ^ 24)) = kind.handle index := by
    rw [← UInt32.toNat_inj, HandleKind.toNat_handle, HandleKind.toNat_handle, UInt32.toNat_ofNat']
    omega
  have hmem : kind.handle index ∈ table.handles := by
    rw [h.handles_eq, List.mem_map]
    exact ⟨_, List.mem_range.mpr (by omega), hsame⟩
  by_contra hfree
  exact get?_eq_none_iff.mp (Option.not_isSome_iff_eq_none.mp hfree) hmem

end HoldsFirst

end SessionTable

namespace Engine

variable {engine : Engine} {envelope : Bytes} {env : Environment} {state : State}

theorem execute_of_perform_breach {command : Command} {r : command.Request} {breach : Breach}
    {stopped : State} (hrequested : requested? engine envelope = some ⟨command, r⟩)
    (hperform : perform engine.env command r engine.state = .error (.breach breach) stopped) :
    ∃ halted, execute envelope engine = .error breach halted := by
  have hcommand := executeCommand_of_perform_error hrequested hperform
  unfold execute
  rw [hcommand]
  exact ⟨_, rfl⟩

/-- A request without entries asks for its command. -/
theorem PlainCall.requested?_eq {command : Command} (call : PlainCall command)
    (hcommand : commandFor engine.env.commands command.code.code
      = .ok (command, command.handleCount)) :
    requested? engine call.envelope = some ⟨command, call.arguments⟩ :=
  requested?_eq_some_iff.mpr ⟨_, _, call.parse_eq, call.accept_eq _ hcommand, call.ofAreas_eq⟩

/-! ## Authorizations beyond the end of the clock -/

/-- An authorization with which nothing is wrong, but that it would expire beyond the end of the
clock, is not answered. -/
theorem execute_of_overflow {r : PolicySignedRequest} {key : Entity} {session : Session}
    {change : PolicyChange} (hrequested : requested? engine envelope = some ⟨.policySigned, r⟩)
    (hkey : engine.env.objects.resolve r.authObject = some key)
    (hlive : engine.state.sessions.get? r.policySession = some session)
    (hkind : session.kind = .policy)
    (hchange : Policy.signedChange engine.env
      { session with lastUsed := engine.state.sessions.useClock + 1 } key r.nonceTpm r.cpHashA
      r.policyRef r.expiration r.auth = .ok change)
    (hnegative : r.expiration < 0) (hnonce : r.nonceTpm.isEmpty = false)
    (hbeyond : UInt64.size ≤ session.startTime.toNat + Policy.lifetime r.expiration) :
    ∃ halted, execute envelope engine = .error .expirationOverflow halted := by
  have hreal : session.isTrial = false := by rw [Session.isTrial, hkind]; rfl
  have hpolicy : session.isPolicy = true := by rw [Session.isPolicy, hkind]; rfl
  have hsigned : Policy.apply engine.env
      { session with lastUsed := engine.state.sessions.useClock + 1 } (r.assertion key)
        = .error (.breach .expirationOverflow) :=
    Policy.apply_eq_error_of_outcomeFor hpolicy hchange
      (Policy.signedOutcome_of_overflow hreal hnegative hnonce hbeyond)
  have hmake : makeAssertion engine.env r.policySession 2 (r.assertion key) engine.state
      = .error (.breach .expirationOverflow) _ :=
    makeAssertion_of_apply_error (touch_of_live hlive) hsigned
  apply execute_of_perform_breach hrequested
  show policySigned engine.env r engine.state = _
  unfold policySigned
  rw [hkey]
  exact EStateM.bind_of_error hmake

/-- The clock has reached its last reading when the session is started. -/
def lastEvents : List Event :=
  [.loadKey sampleKey Handle.owner] ++ [.setClock 0xFFFFFFFFFFFFFFFF, .command (startRequest [])]

def lastEngine : Engine :=
  sampleEngine 0xFFFFFFFFFFFFFFFF
    ⟨⟨[(0x03000000, sampleSession 0x03000000 0 0xFFFFFFFFFFFFFFFF 1)], 64, false, 1, 1⟩, 1⟩

theorem reached_lastEvents : reached sampleCrypto sampleConfig lastEvents = lastEngine := by
  have hstate : ((sampleEngine 0xFFFFFFFFFFFFFFFF ⟨.empty 64 false, 0⟩).after
      (.command (startRequest []))).state = lastEngine.state := by decide +kernel
  rw [lastEvents, reached_append, reached_loadKey_sample]
  show (sampleEngine 0xFFFFFFFFFFFFFFFF ⟨.empty 64 false, 0⟩).after (.command (startRequest []))
    = _
  rw [after_command_eq, hstate]
  rfl

/-- The key allows a second, which the clock does not have any more. -/
theorem execute_sampleSigning_last :
    ∃ halted, execute sampleSigning.envelope (reached sampleCrypto sampleConfig lastEvents)
      = .error .expirationOverflow halted := by
  rw [reached_lastEvents]
  have hfresh : Policy.checkFreshness lastEngine.env.clock
      (sampleSession 0x03000000 0 0xFFFFFFFFFFFFFFFF 2) sampleSigned.nonceTpm
      sampleSigned.expiration = .ok () := by decide +kernel
  have hoctets : Policy.authorizationOctets sampleSigned.nonceTpm sampleSigned.expiration
      sampleSigned.cpHashA .empty = sampleOctets := by decide +kernel
  have hchange : Policy.signedChange lastEngine.env
      (sampleSession 0x03000000 0 0xFFFFFFFFFFFFFFFF 2) sampleEntity sampleSigned.nonceTpm
      sampleSigned.cpHashA .empty sampleSigned.expiration sampleSignature = .ok _ :=
    signedChange_sample rfl rfl rfl hfresh hoctets
  exact execute_of_overflow (sampleSigning.requested?_eq rfl) rfl rfl rfl hchange (by decide) rfl
    (by decide)

/-! ## Sessions without a handle -/

/-- What keeps a session from being started in the table is the answer to a request with which
nothing else is wrong. -/
theorem startAuthSession_of_start_error {r : StartAuthSessionRequest} {hash : HashId} {stop : Stop}
    {table : SessionTable} (hkey : r.tpmKey = Handle.null)
    (hsalt : r.encryptedSalt.isEmpty = true)
    (hbind : r.bind = Handle.null ∨ (env.objects.resolve r.bind).isSome)
    (hhash : r.authHash.alg = hash.alg) (hmin : minNonceSize ≤ r.nonceCaller.length)
    (hmax : r.nonceCaller.length ≤ hash.digestSize)
    (hstart : ∀ parameters : SessionParameters, parameters.kind = r.kind →
      SessionTable.start parameters state.sessions = .error stop table) :
    ∃ stopped, startAuthSession env r state = .error stop stopped := by
  have hentity : boundEntity env r.bind state = .ok (if r.bind = Handle.null then none
      else (env.objects.resolve r.bind).map (·.name)) state :=
    boundEntity_eq_ok_iff.mpr ⟨rfl, hbind, rfl⟩
  have hinside : ¬(r.nonceCaller.length < minNonceSize ∨
      hash.digestSize < r.nonceCaller.length) := by omega
  have hdraw : Action.draw env.crypto hash.digestSize state
      = .ok (env.crypto.random state.draws hash.digestSize)
        { state with draws := state.draws + 1 } :=
    Action.draw_eq_ok_iff.mpr ⟨rfl, rfl⟩
  -- no guard rejects, and the nonce is drawn before the table is looked at
  refine ⟨⟨table, state.draws + 1⟩, ?_⟩
  unfold startAuthSession
  rw [if_neg (by simpa using hkey), if_neg (by simpa using hsalt)]
  refine (EStateM.bind_of_ok hentity).trans ?_
  rw [AlgId.hash?_eq_some_iff.mpr hhash]
  dsimp only
  rw [if_neg hinside]
  refine (EStateM.bind_of_ok hdraw).trans (EStateM.bind_of_error ?_)
  unfold Action.onSessions
  dsimp only
  rw [hstart _ rfl]

/-- A policy session with SHA-256 is asked for. -/
def startCall : PlainCall .startAuthSession where
  arguments := .unbound .policy .sha256 (Bytes.zeros 16)

/-- If there is room for a session but every handle for it is in use, then a request for one is not
answered. -/
theorem execute_of_filled {roomy : SessionTable}
    (hcommand : commandFor engine.env.commands CommandCode.startAuthSession.code
      = .ok (.startAuthSession, Command.startAuthSession.handleCount))
    (hroom : engine.state.sessions.makeRoom = .ok roomy) (hfilled : roomy.Filled .policySession) :
    ∃ halted, execute (startRequest []) engine = .error .handlesExhausted halted := by
  have hstart : ∀ parameters : SessionParameters, parameters.kind = .policy →
      SessionTable.start parameters engine.state.sessions
        = .error (.breach .handlesExhausted) roomy := by
    intro parameters hkind
    exact SessionTable.Filled.start hroom (by rw [hkind]; exact hfilled)
  have hsha256 : startCall.arguments.authHash.alg = HashId.sha256.alg := rfl
  obtain ⟨_, hperform⟩ : ∃ stopped, startAuthSession engine.env startCall.arguments engine.state
      = .error (.breach .handlesExhausted) stopped :=
    startAuthSession_of_start_error rfl rfl (.inl rfl) hsha256 (by decide) (by decide) hstart
  exact execute_of_perform_breach (startCall.requested?_eq hcommand) hperform

open SessionTable (HoldsFirst)

variable {n : Nat}

/-- As long as there are room and handles, a session that is asked for is the next one. -/
theorem holdsFirst_after_start
    (hrandom : ∀ draw size, (engine.env.crypto.random draw size).length = size)
    (hcommand : commandFor engine.env.commands CommandCode.startAuthSession.code
      = .ok (.startAuthSession, Command.startAuthSession.handleCount))
    (hfits : 48 ≤ engine.config.maxResponseSize)
    (h : HoldsFirst .policySession n engine.state.sessions) (hn : n < 2 ^ 24)
    (hroom : n < engine.state.sessions.capacity) :
    HoldsFirst .policySession (n + 1)
      (engine.after (.command (startRequest []))).state.sessions := by
  let nonceTpm : Bytes := engine.env.crypto.random engine.state.draws 32
  let parameters : SessionParameters :=
    ⟨.policy, .sha256, none, Bytes.zeros 16, nonceTpm, engine.env.clock.now⟩
  obtain ⟨next, hstart, hnext⟩ : ∃ next, SessionTable.start parameters engine.state.sessions
      = .ok (HandleKind.policySession.handle (UInt32.ofNat n)) next ∧
        HoldsFirst .policySession (n + 1) next := HoldsFirst.start h hn hroom
  let answer : StartAuthSessionResponse :=
    ⟨HandleKind.policySession.handle (UInt32.ofNat n), ⟨nonceTpm⟩⟩
  have hperform : startAuthSession engine.env startCall.arguments engine.state
      = .ok answer ⟨next, engine.state.draws + 1⟩ :=
    startAuthSession_eq_ok_iff.mpr
      ⟨rfl, rfl, .inl rfl, .sha256, rfl, by decide, by decide, rfl, hstart, rfl⟩
  have hlength : headerSize + (Layout.handleArea answer).length
      + (Layout.parameterArea answer).length ≤ engine.config.maxResponseSize := by
    have hhandles : (Layout.handleArea answer).length = 4 := Layout.length_handleArea answer
    have hparameters : (Layout.parameterArea answer).length = 34 := by
      show (sizedBytes nonceTpm ++ []).length = _
      rw [List.append_nil, length_sizedBytes, hrandom]
    rw [hhandles, hparameters]
    exact hfits
  obtain ⟨_, hafter⟩ := startCall.completed?_of_perform engine hcommand hperform hlength
  have hsame : startCall.envelope = startRequest [] := rfl
  rw [← hsame, hafter]
  exact hnext

/-- Policy sessions are asked for, one after the other. -/
def startEvents (n : Nat) : List Event := List.replicate n (.command (startRequest []))

theorem startEvents_succ (n : Nat) :
    startEvents (n + 1) = startEvents n ++ [.command (startRequest [])] :=
  List.replicate_succ'

section

variable {crypto : Crypto} {config : Config}
  (hrandom : ∀ draw size, (crypto.random draw size).length = size)
  (hcommand : commandFor (.standard config.disabledCommands) CommandCode.startAuthSession.code
    = .ok (.startAuthSession, Command.startAuthSession.handleCount))
  (hfits : 48 ≤ config.maxResponseSize)

include hrandom hcommand hfits

/-- As many sessions as are asked for are live, as long as there are room and handles. -/
theorem holdsFirst_reached (hn : n ≤ 2 ^ 24) (hroom : n ≤ config.maxSessions) :
    HoldsFirst .policySession n (reached crypto config (startEvents n)).state.sessions := by
  induction n with
  | zero => exact .empty _ _ _
  | succ n ih =>
    have hcapacity := (coherent_reached crypto config (startEvents n)).2
    rw [startEvents_succ, reached_concat]
    refine holdsFirst_after_start ?_ ?_ ?_ (ih (by omega) (by omega)) hn ?_
    · rw [crypto_reached]
      exact hrandom
    · rw [commands_reached]
      exact hcommand
    · rw [config_reached]
      exact hfits
    · rw [hcapacity]
      exact hroom

/-- Once every handle of the range was given to a session, another session is not answered if there
is room for it. -/
theorem execute_after_starts (hn : n = 2 ^ 24) (hroom : n < config.maxSessions) :
    (reached crypto config (startEvents n)).state.sessions.Filled .policySession ∧
      ∃ halted, execute (startRequest []) (reached crypto config (startEvents n))
        = .error .handlesExhausted halted := by
  have hfirst := holdsFirst_reached hrandom hcommand hfits (Nat.le_of_eq hn) (Nat.le_of_lt hroom)
  have hcapacity := (coherent_reached crypto config (startEvents n)).2
  have hmakeRoom := SessionTable.makeRoom_eq_ok_iff.mpr
    (.inl ⟨by rw [hfirst.size_eq, hcapacity]; exact hroom, rfl⟩)
  have hstandard : commandFor (reached crypto config (startEvents n)).env.commands
      CommandCode.startAuthSession.code
        = .ok (.startAuthSession, Command.startAuthSession.handleCount) := by
    rw [commands_reached]
    exact hcommand
  exact ⟨hfirst.filled hn, execute_of_filled hstandard hmakeRoom (hfirst.filled hn)⟩

end

/-- An engine with room for one session more than a range has handles. -/
def wideConfig : Config := { sampleConfig with maxSessions := 2 ^ 24 + 1 }

theorem execute_startRequest_wide (hn : n = 2 ^ 24) :
    (reached sampleCrypto wideConfig (startEvents n)).state.sessions.Filled .policySession ∧
      ∃ halted, execute (startRequest []) (reached sampleCrypto wideConfig (startEvents n))
        = .error .handlesExhausted halted :=
  execute_after_starts length_sampleRandom rfl (by decide) hn
    (by rw [hn]; exact Nat.lt_succ_self _)

end Engine

end TrustedPlatform
