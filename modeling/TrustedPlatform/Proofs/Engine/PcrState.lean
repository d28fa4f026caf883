import TrustedPlatform.Proofs.Engine.HandleAllotment
import TrustedPlatform.Proofs.PcrBanks

/-!
# The PCRs that a session looks at

The first PCR assertion on a session takes a snapshot of the update counter, which stays in the
session as long as it lives. Every later one is refused unless the counter is still the same. The
counter wraps around, but not before a PCR was extended `2 ^ 32` times; until then the assertions on
a session that is not a trial session all look at the same PCRs.
-/

namespace TrustedPlatform

namespace Policy

variable {env : Environment} {session applied : Session} {pcrDigest : Digest}
  {pcrs : PcrSelections} {outcome : PolicyOutcome}

/-- A PCR assertion on a session that is not a trial session finds the counter of the snapshot, if
there is one, and leaves a snapshot with this counter. What goes into the digest is the hash of the
selected registers, whether another digest was supplied or not. -/
theorem pcr_of_apply (h : apply env session (.pcr pcrDigest pcrs) = .ok (applied, outcome))
    (hreal : session.isTrial = false) :
    (∀ snapshot ∈ session.policy.pcrSnapshot,
        snapshot.updateCounter = env.pcrs.updateCounter) ∧
      applied.policy.pcrSnapshot.map (·.updateCounter) = some env.pcrs.updateCounter ∧
      ∃ (hash : HashId) (values : List Bytes), session.hashAlg = hash.alg ∧
        env.pcrs.readAll pcrs.banks = values.map some ∧
        (pcrDigest.isEmpty ∨ pcrDigest.bytes = hash.digest values.flatten) ∧
        applied.policy.digest = env.crypto.hash hash (session.policy.digest ++ be32 0x17F
          ++ (Wire.write pcrs ++ hash.digest values.flatten)) := by
  obtain ⟨_, change, hchange, _, _, rfl⟩ := apply_eq_ok_iff.mp h
  obtain ⟨hcounter, value, hvalue, digest, hdigest, rfl⟩ := pcrChange_eq_ok_iff.mp hchange
  have hfound := hcounter hreal
  rw [pcrValue_eq_ok_iff, if_neg (by simp [hreal])] at hvalue
  obtain ⟨hcurrent, hsupplied⟩ := hvalue
  obtain ⟨hash, values, halg, hread, rfl⟩ := PcrBanks.of_digest hcurrent
  obtain ⟨other, hother, rfl⟩ := extend_eq_ok_iff.mp hdigest
  obtain rfl := HashId.alg_injective (halg.symm.trans hother)
  refine ⟨hfound, ?_, hash, values, halg, hread, hsupplied, rfl⟩
  -- a snapshot that is there already stays
  show (session.policy.pcrSnapshot.or _).map _ = _
  cases hsnapshot : session.policy.pcrSnapshot with
  | none => rfl
  | some snapshot => exact congrArg some (hfound snapshot hsnapshot)

end Policy

namespace Engine

variable {crypto : Crypto} {engine : Engine} {envelope : Bytes} {handle : UInt32}

/-! ## Extends -/

/-- The event extends a PCR. -/
def Event.extendsPcr : Event → Bool
  | .extendPcr index _ => index < pcrCount
  | _ => false

/-- An extend of a register that does not exist changes nothing. -/
theorem extendPcr_of_le {index : Nat} (h : pcrCount ≤ index) (data : Bytes) :
    engine.extendPcr index data = .error .value ∧
      engine.after (.extendPcr index data) = engine := by
  have hrefused : engine.extendPcr index data = .error .value := by
    unfold extendPcr
    rw [PcrBanks.extend_of_le h]
    rfl
  exact ⟨hrefused, by rw [Engine.after, hrefused]⟩

/-- Every event that extends a PCR is counted, and the others leave the PCRs as they are. -/
theorem pcrs_after_cases (engine : Engine) (event : Event) :
    (event.extendsPcr = false ∧ (engine.after event).env.pcrs = engine.env.pcrs) ∨
      (event.extendsPcr = true ∧ (engine.after event).env.pcrs.updateCounter
        = engine.env.pcrs.updateCounter + 1) := by
  cases event with
  | command envelope =>
    rw [after_command_eq]
    exact .inl ⟨rfl, rfl⟩
  | extendPcr index data =>
    by_cases hindex : index < pcrCount
    · obtain ⟨next, hextend, hcounter⟩ := engine.env.pcrs.extend_of_lt hindex data
      have hnext : engine.extendPcr index data
          = .ok (engine.withEnv ({ · with pcrs := next })) := by
        unfold extendPcr
        rw [hextend]
        rfl
      refine .inr ⟨decide_eq_true hindex, ?_⟩
      rw [Engine.after, hnext]
      exact hcounter
    · refine .inl ⟨decide_eq_false hindex, ?_⟩
      rw [(extendPcr_of_le (Nat.le_of_not_lt hindex) data).2]
  | _ => exact .inl ⟨rfl, rfl⟩

theorem updateCounter_afterAll (engine : Engine) (events : List Event) :
    (engine.afterAll events).env.pcrs.updateCounter
      = engine.env.pcrs.updateCounter + UInt32.ofNat (events.countP (·.extendsPcr)) := by
  refine counter_afterAll (·.env.pcrs.updateCounter) _ (fun engine event => ?_) engine events
  rcases pcrs_after_cases engine event with ⟨hnone, hpcrs⟩ | ⟨hextends, hcounter⟩
  · rw [hnone, if_neg Bool.false_ne_true, hpcrs]
  · rw [hextends, if_pos rfl, hcounter]

theorem pcrs_afterAll_of_none {events : List Event}
    (h : ∀ event ∈ events, event.extendsPcr = false) :
    (engine.afterAll events).env.pcrs = engine.env.pcrs := by
  induction events generalizing engine with
  | nil => rfl
  | cons event events ih =>
    obtain ⟨hfirst, hothers⟩ := List.forall_mem_cons.mp h
    rcases pcrs_after_cases engine event with ⟨_, hpcrs⟩ | ⟨hextends, _⟩
    · exact (ih hothers).trans hpcrs
    · cases hfirst.symm.trans hextends

/-- As long as the counter has not wrapped around, it tells whether a PCR was extended. -/
theorem pcrs_eq_of_updateCounter {events : List Event}
    (hcount : events.countP (·.extendsPcr) < 2 ^ 32)
    (h : (engine.afterAll events).env.pcrs.updateCounter = engine.env.pcrs.updateCounter) :
    (engine.afterAll events).env.pcrs = engine.env.pcrs := by
  rw [updateCounter_afterAll] at h
  have hzero : UInt32.ofNat (events.countP (·.extendsPcr)) = 0 := by
    have hsum := h.trans (UInt32.add_zero _).symm
    exact UInt32.add_right_inj _ |>.mp hsum
  have hnone : events.countP (·.extendsPcr) = 0 := by
    have hnat := congrArg UInt32.toNat hzero
    rw [UInt32.toNat_ofNat_of_lt' hcount] at hnat
    exact hnat
  apply pcrs_afterAll_of_none
  intro event hmem
  simpa using List.countP_eq_zero.mp hnone event hmem

/-! ## Snapshots -/

/-- The session of the handle, unless it is a trial session, has a snapshot with the counter. -/
def Snapshotted (handle : UInt32) (counter : UInt32) (other : UInt32) (session : Session) : Prop :=
  other = handle → session.isTrial = false →
    session.policy.pcrSnapshot.map (·.updateCounter) = some counter

/-- A snapshot that was taken stays. -/
theorem snapshotted_stable (crypto : Crypto) (handle counter : UInt32) :
    SessionStable crypto (Snapshotted handle counter) where
  apply {env other session next assertion outcome} _ h happly hother hreal := by
    obtain ⟨_, change, _, _, _, rfl⟩ := Policy.apply_eq_ok_iff.mp happly
    obtain ⟨snapshot, hsnapshot, hcounter⟩ := Option.map_eq_some_iff.mp (h hother hreal)
    show (session.policy.pcrSnapshot.or _).map _ = _
    rw [hsnapshot]
    exact congrArg some hcounter
  touch _ h := h
  use _ _ h := h

/-- After a PCR assertion was made, its session has a snapshot with the counter that it found. -/
theorem snapshotted_after {r : PolicyPcrRequest} {answer : EmptyResponse}
    (h : completed? engine envelope = some ⟨.policyPcr, r, answer⟩) :
    Holds (Snapshotted r.policySession engine.env.pcrs.updateCounter)
      (engine.after (.command envelope)).state.sessions := by
  obtain ⟨response, next, hexecute⟩ := completed?_isSome_iff.mp (Option.isSome_of_eq_some h)
  have hafter : executeCommand envelope engine
      = .ok response (engine.after (.command envelope)) := by
    rw [Engine.after, hexecute]
  obtain ⟨done, performed, hdone, hperform, hkept⟩ :=
    (snapshotted_stable _ r.policySession engine.env.pcrs.updateCounter).after_command rfl hafter
  obtain rfl := Option.some.inj (hdone.symm.trans h)
  apply hkept
  rintro _ found hfound rfl hreal
  obtain ⟨outcome, hmake⟩ := makePlainAssertion_eq_ok_iff.mp hperform
  obtain ⟨session, applied, _, happly, hput⟩ := makeAssertion_of_ok hmake
  cases hput.symm.trans hfound
  exact (Policy.pcr_of_apply happly ((Policy.isTrial_of_apply happly).symm.trans hreal)).2.1

/-! ## The theorem -/

/-- All PCR assertions that are made on a session that is not a trial session, as long as it is not
started again, look at the same PCRs, if fewer than `2 ^ 32` extends were made. The session has the
update counter of these PCRs in its snapshot then. What goes into the policy digest is the hash of
the registers that the assertion selects, whether a digest was supplied with it or not. An extend of
a register that does not exist leaves the PCRs and their counter, in every engine. -/
theorem session_looks_at_same_pcrs {config : Config} {events : List Event}
    {r : PolicyPcrRequest} {answer : EmptyResponse} {session : Session}
    (hcount : events.countP (·.extendsPcr) < 2 ^ 32)
    (h : completed? (reached crypto config events) envelope = some ⟨.policyPcr, r, answer⟩)
    (hlive : (reached crypto config events).state.sessions.get? r.policySession = some session)
    (hreal : session.isTrial = false) :
    let engine := reached crypto config events
    (∀ earlier first later r' answer', events = earlier ++ .command first :: later →
      completed? (reached crypto config earlier) first = some ⟨.policyPcr, r', answer'⟩ →
      PolicyPcrRequest.policySession r' = r.policySession →
      r.policySession ∉ startedIn (reached crypto config (earlier ++ [.command first])) later →
      (reached crypto config earlier).env.pcrs = engine.env.pcrs) ∧
    (∃ (applied : Session) (hash : HashId) (values : List Bytes),
      Policy.apply engine.env
          { session with lastUsed := engine.state.sessions.useClock + 1 } r.assertion
        = .ok (applied, .done) ∧
      applied.policy.pcrSnapshot.map (·.updateCounter) = some engine.env.pcrs.updateCounter ∧
      session.hashAlg = hash.alg ∧
      engine.env.pcrs.readAll r.pcrs.banks = values.map some ∧
      (r.pcrDigest.isEmpty ∨ r.pcrDigest.bytes = hash.digest values.flatten) ∧
      applied.policy.digest = crypto.hash hash (session.policy.digest ++ be32 0x17F
        ++ (Wire.write r.pcrs ++ hash.digest values.flatten)) ∧
      ∀ left, (engine.after (.command envelope)).state.sessions.get? r.policySession = some left →
        left.policy = applied.policy) ∧
    ∀ (other : Engine) (index : Nat) (data : Bytes), 24 ≤ index →
      other.extendPcr index data = .error .value ∧
        other.after (.extendPcr index data) = other := by
  intro engine
  have hasserted : Completed.asserted? engine.env ⟨.policyPcr, r, answer⟩
      = some (r.policySession, r.assertion) := rfl
  obtain ⟨found, applied, hfound, happly, _, hleft⟩ := apply_of_completed? h hasserted
  obtain rfl := Option.some.inj (hfound.symm.trans hlive)
  obtain ⟨hsame, hsnapshot, hash, values, halg, hread, hsupplied, hdigest⟩ :=
    Policy.pcr_of_apply happly hreal
  rw [crypto_reached] at hdigest
  refine ⟨?_, ⟨applied, hash, values, happly, hsnapshot, halg, hread, hsupplied, hdigest, hleft⟩,
    fun _ _ data hindex => extendPcr_of_le hindex data⟩
  rintro earlier first later r' answer' rfl hfirst hsession hlife
  -- the snapshot that the first assertion left or found is still there
  have hkept : Holds
      (Snapshotted r.policySession (reached crypto config earlier).env.pcrs.updateCounter)
      (reached crypto config (earlier ++ .command first :: later)).state.sessions := by
    have hafter := snapshotted_after hfirst
    rw [hsession, ← reached_concat] at hafter
    have hlater := (snapshotted_stable crypto _ _).afterAll (crypto_reached crypto config _) hafter
      later fun handle hstarted _ hhandle => absurd (hhandle ▸ hstarted) hlife
    rw [← reached_append, List.append_assoc] at hlater
    exact hlater
  obtain ⟨snapshot, hpresent, hcounter⟩ :=
    Option.map_eq_some_iff.mp (hkept _ found hlive rfl hreal)
  have hnow : (reached crypto config (earlier ++ .command first :: later)).env.pcrs.updateCounter
      = (reached crypto config earlier).env.pcrs.updateCounter :=
    (hsame snapshot hpresent).symm.trans hcounter
  rw [List.countP_append] at hcount
  show _ = (reached crypto config (earlier ++ .command first :: later)).env.pcrs
  rw [reached_append] at hnow ⊢
  exact (pcrs_eq_of_updateCounter (by omega) hnow).symm

/-- The session looks at some PCRs of a bank. -/
def pcrEnvelope (pcrs : List UInt32) : Bytes :=
  RequestBuilder.request .policyPcr
    (⟨0x03000000, .empty, .single .sha256 pcrs⟩ : PolicyPcrRequest) []

/-- A session is started and a PCR is extended. -/
def extendedEvents : List Event := [.command (startRequest []), .extendPcr 7 [1]]

/-- The session looks at the PCR, and an extend is refused. -/
def lookedEvents : List Event :=
  extendedEvents ++ [.command (pcrEnvelope [7]), .extendPcr 24 [2]]

theorem completed?_pcrEnvelope {engine : Engine} {pcrs : List UInt32}
    (hcommand : (completed? engine (pcrEnvelope pcrs)).map (·.command) = some .policyPcr) :
    ∃ r answer, completed? engine (pcrEnvelope pcrs) = some ⟨.policyPcr, r, answer⟩ ∧
      requested? engine (pcrEnvelope pcrs) = some ⟨.policyPcr, r⟩ := by
  obtain ⟨⟨command, r, answer⟩, hdone, hcommand⟩ := Option.map_eq_some_iff.mp hcommand
  subst hcommand
  exact ⟨r, answer, hdone, (of_completed? hdone).1⟩

/-- The second look of the session is at another register of the same PCRs. -/
theorem session_looks_at_same_pcrs_sample :
    let crypto : Crypto := .standard fun _ size => Bytes.zeros size
    lookedEvents.countP (·.extendsPcr) = 1 ∧
      ∃ r answer session applied,
        completed? (reached crypto .standard lookedEvents) (pcrEnvelope [8])
          = some ⟨.policyPcr, r, answer⟩ ∧
        (reached crypto .standard lookedEvents).state.sessions.get?
          (PolicyPcrRequest.policySession r) = some session ∧ session.isTrial = false ∧
        (reached crypto .standard extendedEvents).env.pcrs
          = (reached crypto .standard lookedEvents).env.pcrs ∧
        Policy.apply (reached crypto .standard lookedEvents).env
          { session with
            lastUsed := (reached crypto .standard lookedEvents).state.sessions.useClock + 1 }
          (PolicyPcrRequest.assertion r) = .ok (applied, .done) := by
  intro crypto
  have hcount : lookedEvents.countP (·.extendsPcr) = 1 := by decide +kernel
  obtain ⟨r', answer', hfirst, hrequested'⟩ : ∃ r answer,
      completed? (reached crypto .standard extendedEvents) (pcrEnvelope [7])
        = some ⟨.policyPcr, r, answer⟩ ∧
      requested? (reached crypto .standard extendedEvents) (pcrEnvelope [7])
        = some ⟨.policyPcr, r⟩ := completed?_pcrEnvelope (by decide +kernel)
  obtain ⟨r, answer, hsecond, hrequested⟩ : ∃ r answer,
      completed? (reached crypto .standard lookedEvents) (pcrEnvelope [8])
        = some ⟨.policyPcr, r, answer⟩ ∧
      requested? (reached crypto .standard lookedEvents) (pcrEnvelope [8])
        = some ⟨.policyPcr, r⟩ := completed?_pcrEnvelope (by decide +kernel)
  have hname' : requested? (reached crypto .standard extendedEvents) (pcrEnvelope [7])
      = some ⟨.policyPcr, (⟨0x03000000, .empty, .single .sha256 [7]⟩ : PolicyPcrRequest)⟩ := by
    decide +kernel
  have hname : requested? (reached crypto .standard lookedEvents) (pcrEnvelope [8])
      = some ⟨.policyPcr, (⟨0x03000000, .empty, .single .sha256 [8]⟩ : PolicyPcrRequest)⟩ := by
    decide +kernel
  cases hname'.symm.trans hrequested'
  cases hname.symm.trans hrequested
  have hreal : ((reached crypto .standard lookedEvents).state.sessions.get? 0x03000000).map
      (·.isTrial) = some false := by decide +kernel
  obtain ⟨session, hlive, hreal⟩ := Option.map_eq_some_iff.mp hreal
  have hlife : 0x03000000 ∉ startedIn
      (reached crypto .standard (extendedEvents ++ [.command (pcrEnvelope [7])]))
      [.extendPcr 24 [2]] := by decide +kernel
  obtain ⟨hsame, ⟨applied, _, _, happly, _⟩, _⟩ :=
    session_looks_at_same_pcrs (by rw [hcount]; decide) hsecond hlive hreal
  exact ⟨hcount, _, answer, session, applied, hsecond, hlive, hreal,
    hsame extendedEvents _ _ _ answer' rfl hfirst rfl hlife, happly⟩

end Engine

end TrustedPlatform
