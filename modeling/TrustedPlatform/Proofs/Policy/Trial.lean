import TrustedPlatform.Proofs.Policy.Effect

/-!
# Trial sessions

A trial session is there to find out the digest of a policy before the policy can be satisfied. Of
each assertion it skips the proofs, and a supplied PCR digest it takes unseen. It is of use only if
a real session, once the proofs are at hand, comes to the same policy: `apply_of_real` shows this
of one assertion, from which it follows of any number of them.
-/

namespace TrustedPlatform.Policy

/-! ## The checks, with the proofs left out -/

variable {env : Environment} {real trial : Session}

/-- What goes into the digest of a real session is the current PCR digest. A digest that was
supplied was found equal to it, so that a trial session takes the same one. -/
theorem pcrValue_of_real {pcrDigest : Digest} {pcrs : PcrSelections} {value : Bytes}
    (hreal : real.isTrial = false) (htrial : trial.isTrial = true)
    (halg : real.hashAlg = trial.hashAlg) (h : pcrValue env real pcrDigest pcrs = .ok value) :
    pcrValue env trial pcrDigest pcrs = .ok value := by
  rw [pcrValue_eq_ok_iff, hreal, halg] at h
  rw [pcrValue_eq_ok_iff, htrial]
  obtain ⟨hcurrent, hsupplied⟩ : env.pcrs.digest pcrs trial.hashAlg = .ok value ∧
      (pcrDigest.isEmpty ∨ pcrDigest.bytes = value) := by simpa using h
  by_cases hempty : pcrDigest.isEmpty
  · simpa [hempty] using hcurrent
  · have hvalue := hsupplied.resolve_left hempty
    simp [hempty, hvalue]

theorem boundCpHash_of_policy_eq {cpHash : Bytes} {index : UInt8}
    (hpolicy : real.policy = trial.policy) :
    boundCpHash real cpHash index = boundCpHash trial cpHash index := by
  unfold boundCpHash
  rw [hpolicy]

/-- Whatever an assertion changes in a real session, it changes in a trial session. -/
theorem changeFor_of_real {assertion : Assertion} {change : PolicyChange}
    (hreal : real.isTrial = false) (htrial : trial.isTrial = true)
    (halg : real.hashAlg = trial.hashAlg) (hpolicy : real.policy = trial.policy)
    (h : changeFor env real assertion = .ok change) :
    changeFor env trial assertion = .ok change := by
  -- a check that stands behind "not a trial" is not made on the trial session
  have skipped : ∀ {proof : Prop}, trial.isTrial = false → proof := by
    intro proof hnot
    rw [htrial] at hnot
    cases hnot
  cases assertion with
  | authValue =>
    rw [changeFor, authValueChange_eq_ok_iff, halg, hpolicy] at h
    exact authValueChange_eq_ok_iff.mpr h
  | password =>
    rw [changeFor, authValueChange_eq_ok_iff, halg, hpolicy] at h
    exact authValueChange_eq_ok_iff.mpr h
  | commandCode code =>
    rw [changeFor, commandCodeChange_eq_ok_iff, halg, hpolicy] at h
    exact commandCodeChange_eq_ok_iff.mpr h
  | pcr pcrDigest pcrs =>
    obtain ⟨_, value, hvalue, digest, hdigest, hchange⟩ := pcrChange_eq_ok_iff.mp h
    rw [halg, hpolicy] at hdigest
    have hvalue' := pcrValue_of_real hreal htrial halg hvalue
    exact pcrChange_eq_ok_iff.mpr ⟨skipped, value, hvalue', digest, hdigest, hchange⟩
  | authorize approvedPolicy policyRef keySign checkTicket =>
    obtain ⟨happroved, nameAlg, hname, _, digest, hdigest, hchange⟩ :=
      authorizeChange_eq_ok_iff.mp h
    rw [hpolicy] at happroved
    rw [halg] at hdigest
    exact authorizeChange_eq_ok_iff.mpr
      ⟨happroved, nameAlg, hname, skipped, digest, hdigest, hchange⟩
  | ticket timeout cpHashA policyRef authName ticket =>
    obtain ⟨marker, hmarker, cpHash, hcpHash, _, digest, hdigest, hchange⟩ :=
      ticketChange_eq_ok_iff.mp h
    rw [boundCpHash_of_policy_eq hpolicy] at hcpHash
    rw [halg, hpolicy] at hdigest
    exact ticketChange_eq_ok_iff.mpr
      ⟨marker, hmarker, cpHash, hcpHash, skipped, digest, hdigest, hchange⟩
  | signed authObject nonceTpm cpHashA policyRef expiration auth =>
    obtain ⟨_, cpHash, hcpHash, _, digest, hdigest, hchange⟩ := signedChange_eq_ok_iff.mp h
    rw [boundCpHash_of_policy_eq hpolicy] at hcpHash
    rw [halg, hpolicy] at hdigest
    exact signedChange_eq_ok_iff.mpr
      ⟨skipped, cpHash, hcpHash, skipped, digest, hdigest, hchange⟩

/-- A trial session has something to give back after every assertion: it issues no ticket. -/
theorem outcomeFor_of_trial (env : Environment) (htrial : trial.isTrial = true)
    (assertion : Assertion) : ∃ outcome, outcomeFor env trial assertion = .ok outcome := by
  cases assertion with
  | signed authObject nonceTpm cpHashA policyRef expiration auth =>
    refine ⟨.signed .empty (.null .authSigned), ?_⟩
    rw [outcomeFor, signedOutcome, htrial]
    rfl
  | _ => exact ⟨.done, rfl⟩

/-! ## Assertions in a row -/

/-- An assertion writes nothing of a session but its policy. -/
theorem apply_frame {session next : Session} {assertion : Assertion} {outcome : PolicyOutcome}
    (h : apply env session assertion = .ok (next, outcome)) :
    next = { session with policy := next.policy } := by
  obtain ⟨_, _, _, _, _, rfl⟩ := apply_eq_ok_iff.mp h
  rfl

theorem isTrial_of_apply {session next : Session} {assertion : Assertion} {outcome : PolicyOutcome}
    (h : apply env session assertion = .ok (next, outcome)) : next.isTrial = session.isTrial := by
  rw [apply_frame h]
  rfl

/-- An assertion that holds on a real session holds on a trial session with the same policy, and
leaves both with the same policy again. -/
theorem apply_of_real {assertion : Assertion} {next : Session} {outcome : PolicyOutcome}
    (hreal : real.kind = .policy) (htrial : trial.kind = .trial)
    (halg : real.hashAlg = trial.hashAlg) (hpolicy : real.policy = trial.policy)
    (h : apply env real assertion = .ok (next, outcome)) :
    ∃ trialOutcome,
      apply env trial assertion = .ok ({ trial with policy := next.policy }, trialOutcome) := by
  obtain ⟨_, change, hchange, _, hlength, rfl⟩ := apply_eq_ok_iff.mp h
  have hrealFlag : real.isTrial = false := by simp [Session.isTrial, hreal]
  have htrialFlag : trial.isTrial = true := by simp [Session.isTrial, htrial]
  have htrialPolicy : trial.isPolicy = true := by rw [Session.isPolicy, htrial]; rfl
  have hchange' := changeFor_of_real hrealFlag htrialFlag halg hpolicy hchange
  obtain ⟨trialOutcome, houtcome⟩ := outcomeFor_of_trial env htrialFlag assertion
  rw [halg] at hlength
  refine ⟨trialOutcome, apply_eq_ok_iff.mpr ?_⟩
  exact ⟨htrialPolicy, change, hchange', houtcome, hlength, by rw [hpolicy]⟩

/-- The session after each of the steps, provided that every one of them holds. -/
def applyAll (session : Session) : List PolicyStep → Except Stop (List Session)
  | [] => .ok []
  | step :: steps => do
    let (next, _) ← apply step.env session step.assertion
    return next :: (← applyAll next steps)

theorem applyAll_cons_eq_ok_iff {session : Session} {step : PolicyStep} {steps : List PolicyStep}
    {sessions : List Session} :
    applyAll session (step :: steps) = .ok sessions ↔
      ∃ next outcome rest, apply step.env session step.assertion = .ok (next, outcome) ∧
        applyAll next steps = .ok rest ∧ sessions = next :: rest := by
  rw [applyAll, Except.bind_eq_ok_iff]
  constructor
  · intro hchain
    obtain ⟨⟨next, outcome⟩, happly, hrest⟩ := hchain
    obtain ⟨rest, hall, hsessions⟩ := Except.bind_eq_ok_iff.mp hrest
    exact ⟨next, outcome, rest, happly, hall, (Except.pure_eq_ok_iff.mp hsessions).symm⟩
  · intro hconds
    obtain ⟨next, outcome, rest, happly, hall, rfl⟩ := hconds
    exact ⟨(next, outcome), happly, Except.bind_eq_ok_iff.mpr ⟨rest, hall, rfl⟩⟩

/-- If every step holds on a real session, then every step holds on a trial session that has the
same hash and the same policy, and after each step the two have the same policy. -/
theorem applyAll_of_real {steps : List PolicyStep} {reals : List Session}
    (hreal : real.kind = .policy) (htrial : trial.kind = .trial)
    (halg : real.hashAlg = trial.hashAlg) (hpolicy : real.policy = trial.policy)
    (h : applyAll real steps = .ok reals) :
    ∃ trials, applyAll trial steps = .ok trials ∧
      trials.map Session.policy = reals.map Session.policy := by
  induction steps generalizing real trial reals with
  | nil =>
    cases h
    exact ⟨[], rfl, rfl⟩
  | cons step steps ih =>
    obtain ⟨next, outcome, rest, happly, hrest, rfl⟩ := applyAll_cons_eq_ok_iff.mp h
    obtain ⟨trialOutcome, htrialApply⟩ := apply_of_real hreal htrial halg hpolicy happly
    -- the assertion leaves the kind and the hash of the real session alone
    have hnextKind : next.kind = .policy := by rw [apply_frame happly, hreal]
    have hnextAlg : next.hashAlg = trial.hashAlg := by rw [apply_frame happly, halg]
    obtain ⟨trials, hall, hsame⟩ : ∃ trials,
        applyAll { trial with policy := next.policy } steps = .ok trials ∧
          trials.map Session.policy = rest.map Session.policy :=
      ih hnextKind htrial hnextAlg rfl hrest
    refine ⟨{ trial with policy := next.policy } :: trials, ?_, ?_⟩
    · exact applyAll_cons_eq_ok_iff.mpr ⟨_, _, _, htrialApply, hall, rfl⟩
    · rw [List.map_cons, List.map_cons, hsame]

/-- An environment in which nothing has happened yet. -/
def freshEnvironment : Environment where
  crypto := .standard fun _ size => Bytes.zeros size
  commands := .standard []
  tickets := ⟨[]⟩
  objects := .empty
  pcrs := .initial
  clock := .initial

/-- PCR 7 is zero; a second later, only the command that closes sessions is authorized. -/
def freshSteps : List PolicyStep := [
  ⟨freshEnvironment, .pcr ⟨HashId.sha256.digest (Bytes.zeros 32)⟩ (.single .sha256 [7])⟩,
  ⟨{ freshEnvironment with clock := ⟨1000, 0⟩ }, .commandCode CommandCode.flushContext.code⟩]

/-- A session of a kind, with nothing done with it yet. -/
def freshSession (kind : SessionKind) : Session :=
  .start 0x03000000 ⟨kind, .sha256, none, [], [], 0⟩ 1

/-- The digest that the real session must show, the trial session takes unseen. -/
theorem applyAll_of_real_fresh :
    ∃ reals trials, applyAll (freshSession .policy) freshSteps = .ok reals ∧
      applyAll (freshSession .trial) freshSteps = .ok trials ∧
      trials.map Session.policy = reals.map Session.policy := by
  have hlength (message : Bytes) : (freshEnvironment.crypto.hash .sha256 message).length = 32 :=
    HashId.length_digest .sha256 message
  have hvalue : pcrValue freshEnvironment (freshSession .policy)
      ⟨HashId.sha256.digest (Bytes.zeros 32)⟩ (.single .sha256 [7])
        = .ok (HashId.sha256.digest (Bytes.zeros 32)) := by
    rw [pcrValue_eq_ok_iff, if_neg (by decide)]
    exact ⟨rfl, .inr rfl⟩
  have hpcr : changeFor freshEnvironment (freshSession .policy) (.pcr _ _) = .ok _ :=
    pcrChange_eq_ok_iff.mpr
      ⟨by decide, _, hvalue, _, extend_eq_ok_iff.mpr ⟨.sha256, rfl, rfl⟩, rfl⟩
  obtain ⟨next, hfirst, hpolicy, halg, hnone⟩ : ∃ next,
      apply freshEnvironment (freshSession .policy) (.pcr _ _) = .ok (next, .done) ∧
        next.isPolicy = true ∧ next.hashAlg = .sha256 ∧ next.policy.commandCode = none :=
    ⟨_, apply_eq_ok_iff.mpr ⟨rfl, _, hpcr, rfl, hlength _, rfl⟩, rfl, rfl, rfl⟩
  have himplemented :
      freshEnvironment.commands.isImplemented CommandCode.flushContext.code = true := by decide
  have hcode : changeFor { freshEnvironment with clock := ⟨1000, 0⟩ } next (.commandCode _)
      = .ok _ :=
    commandCodeChange_eq_ok_iff.mpr
      ⟨himplemented, by rw [hnone]; simp, _, extend_eq_ok_iff.mpr ⟨.sha256, halg, rfl⟩, rfl⟩
  have hsecond := apply_eq_ok_iff.mpr ⟨hpolicy, _, hcode, rfl, by rw [halg]; exact hlength _, rfl⟩
  have hreals : applyAll (freshSession .policy) freshSteps = .ok _ :=
    applyAll_cons_eq_ok_iff.mpr
      ⟨_, _, _, hfirst, applyAll_cons_eq_ok_iff.mpr ⟨_, _, _, hsecond, rfl, rfl⟩, rfl⟩
  obtain ⟨trials, htrials, hsame⟩ :=
    applyAll_of_real (show (freshSession .policy).kind = .policy from rfl)
      (show (freshSession .trial).kind = .trial from rfl) rfl rfl hreals
  exact ⟨_, trials, hreals, htrials, hsame⟩

end TrustedPlatform.Policy
