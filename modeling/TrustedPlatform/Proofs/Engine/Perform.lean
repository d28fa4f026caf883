import Mathlib.Logic.Unique
import TrustedPlatform.Engine.Perform
import TrustedPlatform.Proofs.Computation
import TrustedPlatform.Proofs.Policy.Evaluate
import TrustedPlatform.Proofs.SessionTable

/-!
# When a command succeeds, and what it then did

For each step of an action and for each handler, exactly when it gives a value, which value that is,
and which state it leaves.
-/

namespace TrustedPlatform.Engine

/-! ## Steps -/

namespace Action

variable {α : Type} {state next : State} {value : α}

theorem reject_eq_ok_iff {fault : Fault} :
    (reject fault : Action α) state = .ok value next ↔ False :=
  EStateM.throw_eq_ok_iff

/-- A check that does not reject. -/
theorem rejectIf_eq_ok_iff {check : Prop} [Decidable check] {fault : Fault} {rest : Action α} :
    (if check then do (reject fault : Action PUnit); rest else rest) state = .ok value next ↔
      ¬check ∧ rest state = .ok value next :=
  EStateM.ite_throw_bind_eq_ok_iff

theorem ofExcept_eq_ok_iff {result : Except Stop α} :
    ofExcept result state = .ok value next ↔ result = .ok value ∧ next = state := by
  cases result with
  | ok a =>
    rw [ofExcept, EStateM.pure_eq_ok_iff, Except.ok.injEq, eq_comm (a := state)]
  | error stop =>
    rw [ofExcept, EStateM.throw_eq_ok_iff]
    simp

theorem ofFault_eq_ok_iff {result : Except Fault α} :
    ofFault result state = .ok value next ↔ result = .ok value ∧ next = state := by
  cases result with
  | ok a =>
    rw [ofFault, EStateM.pure_eq_ok_iff, Except.ok.injEq, eq_comm (a := state)]
  | error fault =>
    rw [ofFault, reject_eq_ok_iff]
    simp

theorem session?_eq_ok_iff {handle : UInt32} {found : Option Session} :
    session? handle state = .ok found next ↔
      state.sessions.get? handle = found ∧ next = state := by
  rw [session?, EStateM.Result.ok.injEq, eq_comm (a := state)]

theorem draw_eq_ok_iff {crypto : Crypto} {size : Nat} {drawn : Bytes} :
    draw crypto size state = .ok drawn next ↔
      drawn = crypto.random state.draws size ∧
        next = { state with draws := state.draws + 1 } := by
  rw [draw, EStateM.Result.ok.injEq, eq_comm, eq_comm (a := next)]

theorem onSessions_eq_ok_iff {step : EStateM Stop SessionTable α} :
    onSessions step state = .ok value next ↔
      step state.sessions = .ok value next.sessions ∧ next.draws = state.draws := by
  unfold onSessions
  cases hstep : step state.sessions with
  | error stop sessions => simp
  | ok a sessions =>
    constructor
    · intro h
      cases h
      exact ⟨rfl, rfl⟩
    · intro hconds
      obtain ⟨h, hdraws⟩ := hconds
      cases h
      rw [← hdraws]

theorem onSessionsAt_eq_ok_iff {site : Cause → Fault} {step : EStateM Cause SessionTable α} :
    onSessionsAt site step state = .ok value next ↔
      step state.sessions = .ok value next.sessions ∧ next.draws = state.draws := by
  unfold onSessionsAt
  cases hstep : step state.sessions with
  | error stop sessions => simp
  | ok a sessions =>
    constructor
    · intro h
      cases h
      exact ⟨rfl, rfl⟩
    · intro hconds
      obtain ⟨h, hdraws⟩ := hconds
      cases h
      rw [← hdraws]

end Action

/-! ## Handlers -/

open TrustedPlatform.Engine.Action

variable {env : Environment} {state next : State}

theorem boundEntity_eq_ok_iff {bind : UInt32} {bound : Option Name} :
    boundEntity env bind state = .ok bound next ↔
      bound = (if bind = Handle.null then none else (env.objects.resolve bind).map (·.name)) ∧
        (bind = Handle.null ∨ (env.objects.resolve bind).isSome) ∧ next = state := by
  unfold boundEntity
  by_cases hnull : bind = Handle.null
  · rw [if_pos hnull, if_pos hnull, EStateM.pure_eq_ok_iff]
    simp only [hnull, true_or, true_and, eq_comm]
  · rw [if_neg hnull, if_neg hnull]
    cases env.objects.resolve bind with
    | none => simp [hnull, reject_eq_ok_iff]
    | some entity =>
      rw [EStateM.pure_eq_ok_iff]
      simp [hnull, eq_comm]

/-- A session is started with a nonce drawn for it, and only the table and the number of draws
change. -/
theorem startAuthSession_eq_ok_iff {r : StartAuthSessionRequest}
    {answer : StartAuthSessionResponse} :
    startAuthSession env r state = .ok answer next ↔
      r.tpmKey = Handle.null ∧ r.encryptedSalt.isEmpty = true ∧
        (r.bind = Handle.null ∨ (env.objects.resolve r.bind).isSome) ∧
        ∃ hash : HashId, r.authHash.alg = hash.alg ∧
          minNonceSize ≤ r.nonceCaller.length ∧ r.nonceCaller.length ≤ hash.digestSize ∧
          answer.nonceTpm = ⟨env.crypto.random state.draws hash.digestSize⟩ ∧
          SessionTable.start {
              kind := r.kind
              hashAlg := r.authHash.alg
              boundEntity :=
                if r.bind = Handle.null then none else (env.objects.resolve r.bind).map (·.name)
              nonceCaller := r.nonceCaller.bytes
              nonceTpm := answer.nonceTpm.bytes
              startTime := env.clock.now } state.sessions
            = .ok answer.sessionHandle next.sessions ∧
          next.draws = state.draws + 1 := by
  unfold startAuthSession
  rw [rejectIf_eq_ok_iff, rejectIf_eq_ok_iff, EStateM.bind_eq_ok_iff]
  constructor
  · intro hchain
    obtain ⟨hkey, hsalt, bound, _, hbound, hrest⟩ := hchain
    obtain ⟨rfl, hresolves, rfl⟩ := boundEntity_eq_ok_iff.mp hbound
    -- the hash is looked up before the caller's nonce is measured against its size
    cases hhash : r.authHash.alg.hash? with
    | none =>
      rw [hhash] at hrest
      exact (reject_eq_ok_iff.mp hrest).elim
    | some hash =>
      rw [hhash] at hrest
      obtain ⟨hsize, hdrawn⟩ := rejectIf_eq_ok_iff.mp hrest
      obtain ⟨nonceTpm, drawn, hdraw, hstarted⟩ := EStateM.bind_eq_ok_iff.mp hdrawn
      obtain ⟨rfl, rfl⟩ := draw_eq_ok_iff.mp hdraw
      obtain ⟨handle, started, hstart, hanswer⟩ := EStateM.bind_eq_ok_iff.mp hstarted
      obtain ⟨rfl, rfl⟩ := EStateM.pure_eq_ok_iff.mp hanswer
      obtain ⟨htable, hdraws⟩ := onSessions_eq_ok_iff.mp hstart
      exact ⟨by simpa using hkey, by simpa using hsalt, hresolves, hash,
        AlgId.hash?_eq_some_iff.mp hhash, by omega, by omega, rfl, htable, hdraws⟩
  · intro hconds
    obtain ⟨hkey, hsalt, hresolves, hash, hhash, hmin, hmax, hnonce, htable, hdraws⟩ := hconds
    refine ⟨by simpa using hkey, by simpa using hsalt, _, _,
      boundEntity_eq_ok_iff.mpr ⟨rfl, hresolves, rfl⟩, ?_⟩
    -- no guard rejects, so that the nonce is drawn and the session started
    rw [AlgId.hash?_eq_some_iff.mpr hhash]
    dsimp only
    rw [rejectIf_eq_ok_iff]
    refine ⟨by omega, ?_⟩
    refine EStateM.bind_eq_ok_iff.mpr ⟨_, _, draw_eq_ok_iff.mpr ⟨rfl, rfl⟩, ?_⟩
    rw [hnonce] at htable
    refine EStateM.bind_eq_ok_iff.mpr ⟨_, _, onSessions_eq_ok_iff.mpr ⟨htable, hdraws⟩, ?_⟩
    rw [EStateM.pure_eq_ok_iff, ← hnonce]
    exact ⟨rfl, rfl⟩

theorem flushContext_eq_ok_iff {r : FlushContextRequest} {answer : EmptyResponse} :
    flushContext r state = .ok answer next ↔
      (HandleKind.of? r.flushHandle = some .hmacSession ∨
          HandleKind.of? r.flushHandle = some .policySession) ∧
        ∃ session, SessionTable.flush r.flushHandle state.sessions = .ok session next.sessions ∧
          next.draws = state.draws := by
  have hflush : (do
      let _ ← onSessionsAt (·.atParameter 1) (SessionTable.flush r.flushHandle)
      return {} : Action EmptyResponse) state = .ok answer next ↔
        ∃ session, SessionTable.flush r.flushHandle state.sessions = .ok session next.sessions ∧
          next.draws = state.draws := by
    simp only [EStateM.bind_eq_ok_iff, onSessionsAt_eq_ok_iff, EStateM.pure_eq_ok_iff]
    constructor
    · intro hchain
      obtain ⟨session, _, hsession, _, rfl⟩ := hchain
      exact ⟨session, hsession⟩
    · intro hconds
      obtain ⟨session, hsession⟩ := hconds
      exact ⟨session, next, hsession, trivial, rfl⟩
  unfold flushContext
  cases hkind : HandleKind.of? r.flushHandle with
  | none =>
    dsimp only
    rw [reject_eq_ok_iff]
    simp
  | some kind =>
    cases kind with
    | hmacSession =>
      dsimp only
      rw [hflush]
      simp
    | policySession =>
      dsimp only
      rw [hflush]
      simp
    | _ =>
      dsimp only
      rw [reject_eq_ok_iff]
      simp

/-- An assertion is made by touching the session, applying the assertion to it, and putting the
session that comes of it back. -/
theorem makeAssertion_eq_ok_iff {handle : UInt32} {index : UInt8} {assertion : Assertion}
    {outcome : PolicyOutcome} :
    makeAssertion env handle index assertion state = .ok outcome next ↔
      ∃ session touched applied,
        SessionTable.touch handle state.sessions = .ok session touched ∧
          Policy.apply env session assertion = .ok (applied, outcome) ∧
          next = { state with sessions := touched.insert handle applied } := by
  unfold makeAssertion
  rw [EStateM.bind_eq_ok_iff]
  constructor
  · intro hchain
    obtain ⟨session, middle, htouched, happlied⟩ := hchain
    obtain ⟨htouch, hdraws⟩ := onSessionsAt_eq_ok_iff.mp htouched
    obtain ⟨⟨applied, given⟩, _, hresult, hmodified⟩ := EStateM.bind_eq_ok_iff.mp happlied
    obtain ⟨happly, rfl⟩ := ofExcept_eq_ok_iff.mp hresult
    obtain ⟨_, final, hmodify, hpure⟩ := EStateM.bind_eq_ok_iff.mp hmodified
    obtain ⟨rfl, rfl⟩ := EStateM.pure_eq_ok_iff.mp hpure
    cases hmodify
    exact ⟨session, _, applied, htouch, happly, by simp only [hdraws]⟩
  · intro hconds
    obtain ⟨session, touched, applied, htouch, happly, rfl⟩ := hconds
    refine ⟨session, { state with sessions := touched }, ?_, ?_⟩
    · exact onSessionsAt_eq_ok_iff.mpr ⟨htouch, rfl⟩
    · exact EStateM.bind_eq_ok_iff.mpr
        ⟨(applied, outcome), _, ofExcept_eq_ok_iff.mpr ⟨happly, rfl⟩, rfl⟩

theorem makePlainAssertion_eq_ok_iff {handle : UInt32} {assertion : Assertion}
    {answer : EmptyResponse} :
    makePlainAssertion env handle assertion state = .ok answer next ↔
      ∃ outcome, makeAssertion env handle 1 assertion state = .ok outcome next := by
  unfold makePlainAssertion
  rw [EStateM.bind_eq_ok_iff]
  constructor
  · intro hchain
    obtain ⟨outcome, _, hmake, hpure⟩ := hchain
    obtain ⟨_, rfl⟩ := EStateM.pure_eq_ok_iff.mp hpure
    exact ⟨outcome, hmake⟩
  · intro hconds
    obtain ⟨outcome, hmake⟩ := hconds
    exact ⟨outcome, next, hmake, rfl⟩

/-- A signed assertion answers with the timeout and the ticket that come of it. -/
theorem policySigned_eq_ok_iff {r : PolicySignedRequest} {answer : PolicySignedResponse} :
    policySigned env r state = .ok answer next ↔
      ∃ authObject, env.objects.resolve r.authObject = some authObject ∧
        makeAssertion env r.policySession 2 (r.assertion authObject) state
          = .ok (.signed answer.timeout answer.policyTicket) next := by
  unfold policySigned
  cases hobject : env.objects.resolve r.authObject with
  | none =>
    dsimp only
    rw [reject_eq_ok_iff]
    simp
  | some authObject =>
    dsimp only
    rw [EStateM.bind_eq_ok_iff]
    constructor
    · intro hchain
      obtain ⟨outcome, middle, hmake, hrest⟩ := hchain
      cases outcome with
      | done => exact (reject_eq_ok_iff.mp hrest).elim
      | signed timeout ticket =>
        obtain ⟨rfl, rfl⟩ := EStateM.pure_eq_ok_iff.mp hrest
        exact ⟨authObject, rfl, hmake⟩
    · intro hconds
      obtain ⟨object, hsame, hmake⟩ := hconds
      cases hsame
      exact ⟨_, next, hmake, rfl⟩

/-- The digest is that of a policy session, and the state stays as it is. -/
theorem policyGetDigest_eq_ok_iff {r : PolicyGetDigestRequest}
    {answer : PolicyGetDigestResponse} :
    policyGetDigest r state = .ok answer next ↔
      ∃ session, state.sessions.get? r.policySession = some session ∧ session.isPolicy = true ∧
        answer = ⟨⟨session.policy.digest⟩⟩ ∧ next = state := by
  unfold policyGetDigest
  rw [EStateM.bind_eq_ok_iff]
  constructor
  · intro hchain
    obtain ⟨found, _, hfound, hrest⟩ := hchain
    obtain ⟨hsession, rfl⟩ := session?_eq_ok_iff.mp hfound
    cases found with
    | none => exact (reject_eq_ok_iff.mp hrest).elim
    | some session =>
      obtain ⟨hpolicy, hanswer⟩ := rejectIf_eq_ok_iff.mp hrest
      obtain ⟨rfl, rfl⟩ := EStateM.pure_eq_ok_iff.mp hanswer
      exact ⟨session, hsession, by simpa using hpolicy, rfl, rfl⟩
  · intro hconds
    obtain ⟨session, hsession, hpolicy, rfl, rfl⟩ := hconds
    refine ⟨some session, next, session?_eq_ok_iff.mpr ⟨hsession, rfl⟩, ?_⟩
    dsimp only
    rw [rejectIf_eq_ok_iff]
    exact ⟨by simp [hpolicy], rfl⟩

/-- A ticket is issued over a digest that a loaded key signed, and the state stays as it is. -/
theorem verifySignature_eq_ok_iff {r : VerifySignatureRequest}
    {answer : VerifySignatureResponse} :
    verifySignature env r state = .ok answer next ↔
      ∃ key publicKey, env.objects.resolve r.keyHandle = some key ∧
        key.publicKey = some publicKey ∧ r.signature.hash?.isSome = true ∧
        env.crypto.verify publicKey r.digest.bytes r.signature = .ok true ∧
        env.tickets.issueVerified env.crypto key.hierarchy r.digest.bytes key.name.bytes
          = .ok answer.validation ∧ next = state := by
  unfold verifySignature
  cases hresolve : env.objects.resolve r.keyHandle with
  | none => simp [reject_eq_ok_iff]
  | some key =>
    cases hkey : key.publicKey with
    | none => simp [hkey, reject_eq_ok_iff]
    | some publicKey =>
      simp only [hkey]
      rw [rejectIf_eq_ok_iff, EStateM.bind_eq_ok_iff]
      constructor
      · intro hchain
        obtain ⟨hhash, valid, _, hverify, hchecked⟩ := hchain
        obtain ⟨hvalid, rfl⟩ := ofExcept_eq_ok_iff.mp hverify
        obtain ⟨hgood, hissued⟩ := rejectIf_eq_ok_iff.mp hchecked
        obtain ⟨ticket, _, hissue, hanswer⟩ := EStateM.bind_eq_ok_iff.mp hissued
        obtain ⟨hticket, rfl⟩ := ofExcept_eq_ok_iff.mp hissue
        obtain ⟨rfl, rfl⟩ := EStateM.pure_eq_ok_iff.mp hanswer
        obtain rfl : valid = true := by simpa using hgood
        exact ⟨key, publicKey, rfl, hkey, by simpa [Option.isSome_iff_ne_none] using hhash,
          Policy.liftAt_eq_ok_iff.mp hvalid, Policy.lift_eq_ok_iff.mp hticket, rfl⟩
      · intro hconds
        obtain ⟨_, _, hsame, hsameKey, hhash, hvalid, hticket, rfl⟩ := hconds
        cases hsame
        cases hkey.symm.trans hsameKey
        refine ⟨by simpa [Option.isSome_iff_ne_none] using hhash, true, next,
          ofExcept_eq_ok_iff.mpr ⟨Policy.liftAt_eq_ok_iff.mpr hvalid, rfl⟩, ?_⟩
        refine rejectIf_eq_ok_iff.mpr ⟨by decide, ?_⟩
        exact EStateM.bind_eq_ok_iff.mpr
          ⟨_, next, ofExcept_eq_ok_iff.mpr ⟨Policy.lift_eq_ok_iff.mpr hticket, rfl⟩, rfl⟩

end TrustedPlatform.Engine
