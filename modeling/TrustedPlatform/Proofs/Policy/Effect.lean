import TrustedPlatform.Proofs.Hash
import TrustedPlatform.Proofs.Policy.Evaluate

/-!
# What assertions do to a session

An assertion changes the policy digest in one of five ways, its `PolicyEffect`. Several assertions
share an effect, and the effect no longer shows what was checked: it holds exactly the octets that
go into the digest. `PolicyEffect.apply` computes a digest as the assertions do,
`PolicyEffect.extend` says outright which octets are hashed, and the two agree.

`PolicyState.Records` says of the policy of a session that it is what a list of assertions makes of
a new session, field by field. It is kept by every further assertion.
-/

namespace TrustedPlatform

/-! ## Effects on the digest -/

/-- How an authorization was given. -/
inductive AuthorizationKind
  /-- By the signature of a key. -/
  | signed
  /-- By knowledge of a secret. -/
  | secret
  deriving DecidableEq, Repr

namespace AuthorizationKind

/-- The marker of the assertion that the authorization was first given to. -/
def marker : AuthorizationKind → CommandCode
  | signed => .policySigned
  | secret => .policySecret

/-- The kind of authorization that a ticket repeats. -/
def ofTag? : StructureTag → Option AuthorizationKind
  | .authSigned => some signed
  | .authSecret => some secret
  | _ => none

theorem marker_of_ofTag? (tag : StructureTag) :
    Policy.ticketMarker? tag = (ofTag? tag).map marker := by
  cases tag <;> rfl

end AuthorizationKind

/-- What an assertion adds to a policy digest. -/
inductive PolicyEffect
  /-- The object's authorization value is needed. -/
  | authValue
  /-- Only this command is authorized. -/
  | commandCode (code : UInt32)
  /-- The selected PCRs hash to `value`. -/
  | pcr (pcrs : PcrSelections) (value : Bytes)
  /-- The entity named `name` gave an authorization. -/
  | authorization (kind : AuthorizationKind) (name policyRef : Bytes)
  /-- The key named `keySign` approved the policy so far, which the digest then forgets. -/
  | approval (keySign policyRef : Bytes)
  deriving DecidableEq, Repr

namespace PolicyEffect

/-- The digest after an effect, computed as the assertions compute it. -/
def apply (crypto : Crypto) (alg : AlgId) (digest : Bytes) : PolicyEffect → Except Cause Bytes
  | authValue => Policy.extend crypto alg digest .policyAuthValue []
  | commandCode code => Policy.extend crypto alg digest .policyCommandCode (be32 code)
  | pcr pcrs value => Policy.extend crypto alg digest .policyPcr (Wire.write pcrs ++ value)
  | authorization kind name policyRef =>
    Policy.update crypto alg digest kind.marker name policyRef
  | approval keySign policyRef =>
    Policy.update crypto alg (Bytes.zeros alg.digestSize) .policyAuthorize keySign policyRef

/-- The digest after an effect, for a hash function whose digests have `size` octets. -/
def extend (hash : Bytes → Bytes) (size : Nat) (digest : Bytes) : PolicyEffect → Bytes
  | authValue => hash (digest ++ be32 0x16B)
  | commandCode code => hash (digest ++ be32 0x16C ++ be32 code)
  | pcr pcrs value => hash (digest ++ be32 0x17F ++ (Wire.write pcrs ++ value))
  | authorization .signed name policyRef => hash (hash (digest ++ be32 0x160 ++ name) ++ policyRef)
  | authorization .secret name policyRef => hash (hash (digest ++ be32 0x151 ++ name) ++ policyRef)
  | approval keySign policyRef =>
    hash (hash (Bytes.zeros size ++ be32 0x16A ++ keySign) ++ policyRef)

/-- Computed as the assertions do, the digest is the hash of the octets that `extend` names. -/
theorem apply_eq_ok_iff {crypto : Crypto} {alg : AlgId} {digest result : Bytes}
    {effect : PolicyEffect} :
    effect.apply crypto alg digest = .ok result ↔
      ∃ hash, alg = hash.alg ∧
        result = effect.extend (crypto.hash hash) hash.digestSize digest := by
  cases effect with
  | authValue =>
    rw [apply, Policy.extend_eq_ok_iff]
    simp only [List.append_nil]
    rfl
  | commandCode code => exact Policy.extend_eq_ok_iff
  | pcr pcrs value => exact Policy.extend_eq_ok_iff
  | authorization kind name policyRef => cases kind <;> exact Policy.update_eq_ok_iff
  | approval keySign policyRef =>
    rw [apply, Policy.update_eq_ok_iff]
    constructor
    · intro hchain
      obtain ⟨hash, rfl, rfl⟩ := hchain
      exact ⟨hash, rfl, by rw [HashId.digestSize_alg]; rfl⟩
    · intro hconds
      obtain ⟨hash, rfl, rfl⟩ := hconds
      exact ⟨hash, rfl, by rw [HashId.digestSize_alg]; rfl⟩

end PolicyEffect

/-! ## What an assertion leaves in a session -/

namespace Assertion

/-- The effect of an assertion that holds on a session whose hash is `alg`. -/
def effect? (pcrBanks : PcrBanks) (trial : Bool) (alg : AlgId) : Assertion → Option PolicyEffect
  | authValue | password => some .authValue
  | commandCode code => some (.commandCode code)
  | pcr pcrDigest pcrs =>
    if trial ∧ ¬pcrDigest.isEmpty then some (.pcr pcrs pcrDigest.bytes)
    else (pcrBanks.digest pcrs alg).toOption.map (.pcr pcrs)
  | authorize _ policyRef keySign _ => some (.approval keySign.bytes policyRef.bytes)
  | ticket _ _ policyRef authName repeated =>
    (AuthorizationKind.ofTag? repeated.tag).map (.authorization · authName.bytes policyRef.bytes)
  | signed authObject _ _ policyRef _ _ =>
    some (.authorization .signed authObject.name.bytes policyRef.bytes)

/-- The command that the assertion restricts the session to. -/
def commandCode? : Assertion → Option UInt32
  | commandCode code => some code
  | _ => none

/-- The PCRs that the assertion looks at, and the update counter it finds. -/
def pcrSnapshot? (pcrBanks : PcrBanks) : Assertion → Option PcrSnapshot
  | pcr _ pcrs => some ⟨pcrs, pcrBanks.updateCounter⟩
  | _ => none

/-- Whether the assertion wants the authorization value as a password. -/
def wantsPassword? : Assertion → Option Bool
  | authValue => some false
  | password => some true
  | _ => none

/-- The command parameters that the assertion binds the session to. -/
def cpHash? : Assertion → Option Bytes
  | ticket _ cpHashA _ _ _ | signed _ _ cpHashA _ _ _ =>
    if cpHashA.bytes.isEmpty then none else some cpHashA.bytes
  | _ => none

end Assertion

namespace Policy

variable {env : Environment} {session : Session} {assertion : Assertion} {change : PolicyChange}

/-- The change of an assertion that holds: its digest comes from its effect, and the rest is what
the assertion itself says. -/
theorem changeFor_eq (h : changeFor env session assertion = .ok change) :
    ∃ effect digest,
      assertion.effect? env.pcrs session.isTrial session.hashAlg = some effect ∧
      effect.apply env.crypto session.hashAlg session.policy.digest = .ok digest ∧
      change = {
        digest := digest
        commandCode := assertion.commandCode?
        pcrSnapshot := assertion.pcrSnapshot? env.pcrs
        authValueNeeded := assertion.wantsPassword?.map (!·)
        passwordNeeded := assertion.wantsPassword?
        cpHash := assertion.cpHash? } := by
  cases assertion with
  | authValue =>
    obtain ⟨digest, hdigest, rfl⟩ := authValueChange_eq_ok_iff.mp h
    exact ⟨.authValue, digest, rfl, hdigest, rfl⟩
  | password =>
    obtain ⟨digest, hdigest, rfl⟩ := authValueChange_eq_ok_iff.mp h
    exact ⟨.authValue, digest, rfl, hdigest, rfl⟩
  | commandCode code =>
    obtain ⟨_, _, digest, hdigest, rfl⟩ := commandCodeChange_eq_ok_iff.mp h
    exact ⟨.commandCode code, digest, rfl, hdigest, rfl⟩
  | pcr pcrDigest pcrs =>
    obtain ⟨_, value, hvalue, digest, hdigest, rfl⟩ := pcrChange_eq_ok_iff.mp h
    refine ⟨.pcr pcrs value, digest, ?_, hdigest, rfl⟩
    rw [pcrValue_eq_ok_iff] at hvalue
    simp only [Assertion.effect?]
    split at hvalue
    · rw [if_pos ‹_›, hvalue]
    · rw [if_neg ‹_›, hvalue.1]
      rfl
  | authorize approvedPolicy policyRef keySign checkTicket =>
    obtain ⟨_, _, _, _, digest, hdigest, rfl⟩ := authorizeChange_eq_ok_iff.mp h
    exact ⟨.approval keySign.bytes policyRef.bytes, digest, rfl, hdigest, rfl⟩
  | ticket timeout cpHashA policyRef authName ticket =>
    obtain ⟨marker, hmarker, cpHash, hcpHash, _, digest, hdigest, rfl⟩ :=
      ticketChange_eq_ok_iff.mp h
    rw [AuthorizationKind.marker_of_ofTag?, Option.map_eq_some_iff] at hmarker
    obtain ⟨kind, hkind, rfl⟩ := hmarker
    refine ⟨.authorization kind authName.bytes policyRef.bytes, digest, ?_, hdigest, ?_⟩
    · rw [Assertion.effect?, hkind]
      rfl
    · rw [(boundCpHash_eq_ok_iff.mp hcpHash).1]
      rfl
  | signed authObject nonceTpm cpHashA policyRef expiration auth =>
    obtain ⟨_, cpHash, hcpHash, _, digest, hdigest, rfl⟩ := signedChange_eq_ok_iff.mp h
    refine ⟨.authorization .signed authObject.name.bytes policyRef.bytes, digest, rfl, hdigest, ?_⟩
    rw [(boundCpHash_eq_ok_iff.mp hcpHash).1]
    rfl

/-- An assertion that restricts the session to a command finds no other restriction there. -/
theorem commandCode_eq_of_changeFor (h : changeFor env session assertion = .ok change) :
    ∀ own ∈ session.policy.commandCode, ∀ code ∈ assertion.commandCode?, own = code := by
  intro own hown code hcode
  cases assertion with
  | commandCode restriction =>
    obtain ⟨_, hsame, _⟩ := commandCodeChange_eq_ok_iff.mp h
    rw [hsame own hown]
    exact Option.some.inj hcode
  | _ => cases hcode

/-- An assertion that binds the session to command parameters finds no other binding there. -/
theorem cpHash_eq_of_changeFor (h : changeFor env session assertion = .ok change) :
    ∀ own ∈ session.policy.cpHash, ∀ bound ∈ assertion.cpHash?, own = bound := by
  intro own hown bound hbound
  -- an empty cpHash binds to nothing, so the one in hand is the one that was compared
  have compared : ∀ {cpHashA : Bytes} {index : UInt8} {result : Option Bytes},
      boundCpHash session cpHashA index = .ok result →
      (if cpHashA.isEmpty then none else some cpHashA) = some bound → own = bound := by
    intro cpHashA index result hbind hsome
    have hown' := (boundCpHash_eq_ok_iff.mp hbind).2 own hown
    split at hsome
    · cases hsome
    · cases hsome
      exact hown'.resolve_left ‹_›
  cases assertion with
  | ticket timeout cpHashA policyRef authName ticket =>
    obtain ⟨_, _, _, hcpHash, _⟩ := ticketChange_eq_ok_iff.mp h
    exact compared hcpHash hbound
  | signed authObject nonceTpm cpHashA policyRef expiration auth =>
    obtain ⟨_, _, hcpHash, _⟩ := signedChange_eq_ok_iff.mp h
    exact compared hcpHash hbound
  | _ => cases hbound

end Policy

/-! ## What a list of assertions leaves in a session -/

/-- An assertion and the environment it is made in. -/
structure PolicyStep where
  env : Environment
  assertion : Assertion

namespace PolicyStep

/-- The digest after a step that holds on a session whose hash is `hash`. -/
def extend? (trial : Bool) (hash : HashId) (digest : Bytes) (step : PolicyStep) : Option Bytes :=
  (step.assertion.effect? step.env.pcrs trial hash.alg).map
    (·.extend (step.env.crypto.hash hash) hash.digestSize digest)

/-- Whether the last of the steps that ask for the authorization value asks for a password. -/
def wantsPassword? (steps : List PolicyStep) : Option Bool :=
  (steps.filterMap (·.assertion.wantsPassword?)).getLast?

end PolicyStep

/-- The policy of a session is what `steps`, all of which held, make of a new session. -/
structure PolicyState.Records (state : PolicyState) (trial : Bool) (hash : HashId)
    (steps : List PolicyStep) : Prop where
  /-- The digest is made from zeros by the steps in their order. -/
  digest :
    steps.foldlM (PolicyStep.extend? trial hash) (Bytes.zeros hash.digestSize) = some state.digest
  /-- The command code is that of the first step that has one, -/
  commandCode : state.commandCode = steps.findSome? (·.assertion.commandCode?)
  /-- and of all others that have one. -/
  commandCode_unique :
    ∀ step ∈ steps, ∀ code ∈ step.assertion.commandCode?, state.commandCode = some code
  /-- The snapshot is that of the first step that looks at PCRs. -/
  pcrSnapshot :
    state.pcrSnapshot = steps.findSome? fun step => step.assertion.pcrSnapshot? step.env.pcrs
  /-- The last step that asks for the authorization value says in which form it is needed. -/
  authValueNeeded :
    state.authValueNeeded = ((PolicyStep.wantsPassword? steps).map (!·)).getD false
  passwordNeeded : state.passwordNeeded = (PolicyStep.wantsPassword? steps).getD false
  /-- The cpHash is that of the first step that has one, -/
  cpHash : state.cpHash = steps.findSome? (·.assertion.cpHash?)
  /-- and of all others that have one. -/
  cpHash_unique :
    ∀ step ∈ steps, ∀ cpHash ∈ step.assertion.cpHash?, state.cpHash = some cpHash

namespace PolicyState.Records

theorem initial (trial : Bool) (hash : HashId) :
    (PolicyState.initial hash.digestSize).Records trial hash [] where
  digest := rfl
  commandCode := rfl
  commandCode_unique := by simp
  pcrSnapshot := rfl
  authValueNeeded := rfl
  passwordNeeded := rfl
  cpHash := rfl
  cpHash_unique := by simp

/-- A field that is set once and never to another value holds the value of every step. -/
theorem unique_append {α : Type} {own : Option α} {value? : PolicyStep → Option α}
    {steps : List PolicyStep} {step : PolicyStep}
    (hold : ∀ earlier ∈ steps, ∀ value ∈ value? earlier, own = some value)
    (hagree : ∀ value ∈ own, ∀ new ∈ value? step, value = new) :
    ∀ any ∈ steps ++ [step], ∀ value ∈ value? any, own.or (value? step) = some value := by
  intro any hany value hvalue
  rcases List.mem_append.mp hany with hearlier | hstep
  · rw [hold any hearlier value hvalue]
    rfl
  · rw [List.mem_singleton.mp hstep] at hvalue
    cases hown : own with
    | none => exact hvalue
    | some set =>
      rw [hagree set hown value hvalue]
      rfl

/-- An assertion that holds adds itself to the steps that the policy records. -/
theorem after {env : Environment} {session : Session} {hash : HashId} {steps : List PolicyStep}
    {assertion : Assertion} {change : PolicyChange}
    (h : session.policy.Records session.isTrial hash steps) (halg : session.hashAlg = hash.alg)
    (hchange : Policy.changeFor env session assertion = .ok change) :
    (session.policy.after change).Records session.isTrial hash (steps ++ [⟨env, assertion⟩]) := by
  have hcode := Policy.commandCode_eq_of_changeFor hchange
  have hbound := Policy.cpHash_eq_of_changeFor hchange
  obtain ⟨effect, digest, heffect, hdigest, rfl⟩ := Policy.changeFor_eq hchange
  -- the session's identifier names one hash only
  rw [halg] at heffect hdigest
  obtain ⟨other, hother, rfl⟩ := PolicyEffect.apply_eq_ok_iff.mp hdigest
  rw [← HashId.alg_injective hother]
  -- both flags follow the last step that asks for the authorization value
  have hflag : PolicyStep.wantsPassword? (steps ++ [⟨env, assertion⟩]) =
      assertion.wantsPassword?.or (PolicyStep.wantsPassword? steps) := by
    unfold PolicyStep.wantsPassword?
    rw [List.filterMap_append, List.getLast?_append]
    cases hlast : assertion.wantsPassword? <;> simp [hlast]
  constructor
  case digest =>
    rw [List.foldlM_append, h.digest]
    simp [PolicyStep.extend?, heffect, PolicyState.after]
  case commandCode =>
    simp [PolicyState.after, h.commandCode, List.findSome?_append]
  case commandCode_unique =>
    exact unique_append h.commandCode_unique hcode
  case pcrSnapshot =>
    simp [PolicyState.after, h.pcrSnapshot, List.findSome?_append]
  case authValueNeeded =>
    rw [hflag]
    cases assertion.wantsPassword? <;> simp [PolicyState.after, h.authValueNeeded]
  case passwordNeeded =>
    rw [hflag]
    cases assertion.wantsPassword? <;> simp [PolicyState.after, h.passwordNeeded]
  case cpHash =>
    simp [PolicyState.after, h.cpHash, List.findSome?_append]
  case cpHash_unique =>
    exact unique_append h.cpHash_unique hbound

end PolicyState.Records

end TrustedPlatform
