import Mathlib.Logic.Unique
import TrustedPlatform.Policy.Evaluate
import TrustedPlatform.Proofs.Computation

/-!
# When a policy assertion holds

For each check and each assertion, exactly when it goes through and what it then gives. The
statements list the conditions in the order in which the assertion looks at them; a condition that a
trial session skips stands behind `session.isTrial = false`.
-/

namespace TrustedPlatform

theorem HashId.alg_injective : Function.Injective HashId.alg := by
  intro a b h
  have h' := AlgId.hash?_eq_some_iff.mpr h
  rw [AlgId.hash?_eq_some_iff.mpr rfl] at h'
  exact Option.some.inj h'

/-- A hash can be taken exactly with the identifiers of the implemented ones. -/
theorem Crypto.hashWith_eq_ok_iff {crypto : Crypto} {alg : AlgId} {message result : Bytes} :
    crypto.hashWith alg message = .ok result ↔
      ∃ hash, alg = hash.alg ∧ result = crypto.hash hash message := by
  unfold Crypto.hashWith
  cases h : alg.hash? with
  | none =>
    constructor
    · intro hr
      cases hr
    · intro hconds
      obtain ⟨hash, heq, _⟩ := hconds
      rw [AlgId.hash?_eq_some_iff.mpr heq] at h
      cases h
  | some hash =>
    have heq := AlgId.hash?_eq_some_iff.mp h
    constructor
    · intro hr
      exact ⟨hash, heq, (Except.ok.inj hr).symm⟩
    · intro hconds
      obtain ⟨other, hother, rfl⟩ := hconds
      rw [HashId.alg_injective (heq.symm.trans hother)]

namespace Policy

variable {env : Environment} {session : Session} {change : PolicyChange}

@[simp] theorem lift_eq_ok_iff {α : Type} {x : Except Cause α} {a : α} :
    lift x = .ok a ↔ x = .ok a := by
  cases x <;> simp [lift]

@[simp] theorem liftAt_eq_ok_iff {α : Type} {index : UInt8} {x : Except Cause α} {a : α} :
    liftAt index x = .ok a ↔ x = .ok a := by
  cases x <;> simp [liftAt]

/-! ## Digests -/

/-- A step extends the digest exactly if the session's hash is implemented. -/
theorem extend_eq_ok_iff {crypto : Crypto} {alg : AlgId} {digest : Bytes} {marker : CommandCode}
    {addition result : Bytes} :
    extend crypto alg digest marker addition = .ok result ↔
      ∃ hash, alg = hash.alg ∧
        result = crypto.hash hash (digest ++ be32 marker.code ++ addition) :=
  Crypto.hashWith_eq_ok_iff

theorem update_eq_ok_iff {crypto : Crypto} {alg : AlgId} {digest : Bytes} {marker : CommandCode}
    {name policyRef result : Bytes} :
    update crypto alg digest marker name policyRef = .ok result ↔
      ∃ hash, alg = hash.alg ∧
        result = crypto.hash hash
          (crypto.hash hash (digest ++ be32 marker.code ++ name) ++ policyRef) := by
  unfold update
  rw [Except.bind_eq_ok_iff]
  constructor
  · intro hchain
    obtain ⟨named, hnamed, hresult⟩ := hchain
    obtain ⟨hash, rfl, rfl⟩ := extend_eq_ok_iff.mp hnamed
    obtain ⟨other, hother, rfl⟩ := Crypto.hashWith_eq_ok_iff.mp hresult
    rw [← HashId.alg_injective hother]
    exact ⟨hash, rfl, rfl⟩
  · intro hconds
    obtain ⟨hash, rfl, rfl⟩ := hconds
    exact ⟨_, extend_eq_ok_iff.mpr ⟨hash, rfl, rfl⟩, Crypto.hashWith_eq_ok_iff.mpr ⟨hash, rfl, rfl⟩⟩

/-! ## The assertions one by one -/

/-- A cpHash is bound unless the session is bound to another; an empty one binds nothing. -/
theorem boundCpHash_eq_ok_iff {cpHash : Bytes} {index : UInt8} {bound : Option Bytes} :
    boundCpHash session cpHash index = .ok bound ↔
      bound = (if cpHash.isEmpty then none else some cpHash) ∧
        ∀ own ∈ session.policy.cpHash, cpHash.isEmpty ∨ own = cpHash := by
  unfold boundCpHash
  by_cases hempty : cpHash.isEmpty
  · simp [hempty, eq_comm]
  · cases hown : session.policy.cpHash with
    | none => simp [hempty, eq_comm]
    | some own =>
      by_cases heq : own = cpHash
      · simp [hempty, heq, eq_comm]
      · simp [hempty, heq]

theorem authValueChange_eq_ok_iff {password : Bool} :
    authValueChange env session password = .ok change ↔
      ∃ digest,
        extend env.crypto session.hashAlg session.policy.digest .policyAuthValue [] = .ok digest ∧
        change = ⟨digest, none, none, some !password, some password, none⟩ := by
  simp only [authValueChange, PolicyChange.ofDigest, Except.bind_eq_ok_iff, lift_eq_ok_iff,
    Except.pure_eq_ok_iff, eq_comm (b := change)]

theorem commandCodeChange_eq_ok_iff {code : UInt32} :
    commandCodeChange env session code = .ok change ↔
      env.commands.isImplemented code = true ∧
        (∀ own ∈ session.policy.commandCode, own = code) ∧
        ∃ digest,
          extend env.crypto session.hashAlg session.policy.digest .policyCommandCode (be32 code)
            = .ok digest ∧
          change = ⟨digest, some code, none, none, none, none⟩ := by
  simp only [commandCodeChange, PolicyChange.ofDigest, ite_eq_iff, Except.bind_eq_ok_iff,
    Except.throw_eq_ok_iff, lift_eq_ok_iff, Except.pure_eq_ok_iff, eq_comm (b := change), false_and,
    exists_false, and_false, false_or]
  cases session.policy.commandCode <;> simp

/-- A trial session takes a digest that is supplied; any other digest is the current one, which a
supplied one must equal. -/
theorem pcrValue_eq_ok_iff {pcrDigest : Digest} {pcrs : PcrSelections} {value : Bytes} :
    pcrValue env session pcrDigest pcrs = .ok value ↔
      if session.isTrial ∧ ¬pcrDigest.isEmpty then value = pcrDigest.bytes
      else
        env.pcrs.digest pcrs session.hashAlg = .ok value ∧
          (pcrDigest.isEmpty ∨ pcrDigest.bytes = value) := by
  unfold pcrValue
  by_cases hempty : pcrDigest.isEmpty
  · -- nothing is supplied, so that every session takes the current digest
    cases env.pcrs.digest pcrs session.hashAlg with
    | ok current => simp [hempty]
    | error stop => cases stop <;> simp [hempty]
  · by_cases htrial : session.isTrial
    · simp [htrial, hempty, eq_comm]
    · cases env.pcrs.digest pcrs session.hashAlg with
      | ok current =>
        by_cases heq : pcrDigest.bytes = current
        · simp [htrial, hempty, heq]
        · have hne : current = value → pcrDigest.bytes ≠ value := fun h => h ▸ heq
          simpa [htrial, hempty, heq] using hne
      | error stop => cases stop <;> simp [htrial, hempty]

theorem pcrChange_eq_ok_iff {pcrDigest : Digest} {pcrs : PcrSelections} :
    pcrChange env session pcrDigest pcrs = .ok change ↔
      (session.isTrial = false →
        ∀ snapshot ∈ session.policy.pcrSnapshot,
          snapshot.updateCounter = env.pcrs.updateCounter) ∧
        ∃ value, pcrValue env session pcrDigest pcrs = .ok value ∧
          ∃ digest,
            extend env.crypto session.hashAlg session.policy.digest .policyPcr
              (Wire.write pcrs ++ value) = .ok digest ∧
            change = ⟨digest, none, some ⟨pcrs, env.pcrs.updateCounter⟩, none, none, none⟩ := by
  simp only [pcrChange, PolicyChange.ofDigest, ite_eq_iff, Except.bind_eq_ok_iff,
    Except.throw_eq_ok_iff, lift_eq_ok_iff, Except.pure_eq_ok_iff, eq_comm (b := change), false_and,
    exists_false, and_false, false_or]
  cases session.policy.pcrSnapshot <;> simp

/-- The approved policy is compared in every session; only a trial session skips the ticket. -/
theorem authorizeChange_eq_ok_iff {approvedPolicy : Digest} {policyRef : Nonce} {keySign : Name}
    {checkTicket : Ticket} :
    authorizeChange env session approvedPolicy policyRef keySign checkTicket = .ok change ↔
      approvedPolicy.bytes = session.policy.digest ∧
        ∃ nameAlg, nameHash? keySign = some nameAlg ∧
          (session.isTrial = false →
            ∃ approval,
              env.crypto.hashWith nameAlg (approvedPolicy.bytes ++ policyRef.bytes)
                = .ok approval ∧
              env.tickets.verifyVerified env.crypto checkTicket approval keySign.bytes
                = .ok ()) ∧
          ∃ digest,
            update env.crypto session.hashAlg (Bytes.zeros session.hashAlg.digestSize)
              .policyAuthorize keySign.bytes policyRef.bytes = .ok digest ∧
            change = .ofDigest digest := by
  unfold authorizeChange
  by_cases hpolicy : approvedPolicy.bytes = session.policy.digest
  · cases halg : nameHash? keySign with
    | none => simp [hpolicy, Except.throw_eq_ok_iff]
    | some nameAlg =>
      cases htrial : session.isTrial with
      | true =>
        simp [hpolicy, Except.map_eq_ok_iff, eq_comm (b := change)]
      | false =>
        simp [hpolicy, Except.bind_eq_ok_iff, Except.map_eq_ok_iff, Unique.exists_iff,
          eq_comm (b := change), ← and_assoc]
  · simp [hpolicy, Except.bind_eq_ok_iff, Except.throw_eq_ok_iff]

theorem ticketChange_eq_ok_iff {timeout : Timeout} {cpHashA : Digest} {policyRef : Nonce}
    {authName : Name} {ticket : Ticket} :
    ticketChange env session timeout cpHashA policyRef authName ticket = .ok change ↔
      ∃ marker, ticketMarker? ticket.tag = some marker ∧
        ∃ cpHash, boundCpHash session cpHashA.bytes 2 = .ok cpHash ∧
          (session.isTrial = false →
            env.tickets.verifyAuth env.crypto env.clock ticket
              ⟨timeout, cpHashA.bytes, policyRef.bytes, authName.bytes⟩ = .ok ()) ∧
          ∃ digest,
            update env.crypto session.hashAlg session.policy.digest marker authName.bytes
              policyRef.bytes = .ok digest ∧
            change = ⟨digest, none, none, none, none, cpHash⟩ := by
  unfold ticketChange PolicyChange.ofDigest
  cases hmarker : ticketMarker? ticket.tag with
  | none => simp [Except.throw_eq_ok_iff]
  | some marker =>
    cases htrial : session.isTrial with
    | true => simp [Except.bind_eq_ok_iff, Except.map_eq_ok_iff, eq_comm (b := change)]
    | false =>
      cases hverify : env.tickets.verifyAuth env.crypto env.clock ticket
          ⟨timeout, cpHashA.bytes, policyRef.bytes, authName.bytes⟩ with
      | ok _ => simp [hverify, Except.bind_eq_ok_iff, Except.map_eq_ok_iff, eq_comm (b := change)]
      | error cause => simp [hverify, Except.bind_eq_ok_iff, Except.throw_eq_ok_iff]

theorem signedChange_eq_ok_iff {authObject : Entity} {nonceTpm : Nonce} {cpHashA : Digest}
    {policyRef : Nonce} {expiration : Int32} {auth : Signature} :
    signedChange env session authObject nonceTpm cpHashA policyRef expiration auth = .ok change ↔
      (session.isTrial = false → checkFreshness env.clock session nonceTpm expiration = .ok ()) ∧
        ∃ cpHash, boundCpHash session cpHashA.bytes 2 = .ok cpHash ∧
          (session.isTrial = false →
            checkAuthorization env.crypto authObject
              (authorizationOctets nonceTpm expiration cpHashA policyRef) auth = .ok ()) ∧
          ∃ digest,
            update env.crypto session.hashAlg session.policy.digest .policySigned
              authObject.name.bytes policyRef.bytes = .ok digest ∧
            change = ⟨digest, none, none, none, none, cpHash⟩ := by
  unfold signedChange PolicyChange.ofDigest
  cases htrial : session.isTrial <;>
    simp [Except.bind_eq_ok_iff, Except.map_eq_ok_iff, Unique.exists_iff, eq_comm (b := change)]

/-! ## All assertions -/

/-- The change an assertion makes, whatever it gives back. -/
def changeFor (env : Environment) (session : Session) : Assertion → Except Stop PolicyChange
  | .authValue => authValueChange env session false
  | .password => authValueChange env session true
  | .commandCode code => commandCodeChange env session code
  | .pcr pcrDigest pcrs => pcrChange env session pcrDigest pcrs
  | .authorize approvedPolicy policyRef keySign checkTicket =>
    authorizeChange env session approvedPolicy policyRef keySign checkTicket
  | .ticket timeout cpHashA policyRef authName ticket =>
    ticketChange env session timeout cpHashA policyRef authName ticket
  | .signed authObject nonceTpm cpHashA policyRef expiration auth =>
    signedChange env session authObject nonceTpm cpHashA policyRef expiration auth

/-- What an assertion gives back, whatever it changes. -/
def outcomeFor (env : Environment) (session : Session) : Assertion → Except Stop PolicyOutcome
  | .signed authObject nonceTpm cpHashA policyRef expiration _ =>
    signedOutcome env session authObject nonceTpm cpHashA policyRef expiration
  | _ => .ok .done

theorem evaluate_eq_ok_iff {assertion : Assertion} {outcome : PolicyOutcome} :
    evaluate env session assertion = .ok (change, outcome) ↔
      session.isPolicy = true ∧ changeFor env session assertion = .ok change ∧
        outcomeFor env session assertion = .ok outcome := by
  unfold evaluate
  cases hpolicy : session.isPolicy with
  | false => simp [Except.bind_eq_ok_iff, Except.throw_eq_ok_iff]
  | true =>
    cases assertion <;>
      simp [changeFor, outcomeFor, Except.bind_eq_ok_iff, Except.map_eq_ok_iff,
        Prod.ext_iff, and_left_comm (b := _ = change), eq_comm (b := outcome)]

theorem commit_eq_ok_iff {next : Session} :
    session.commit change = .ok next ↔
      change.digest.length = session.hashAlg.digestSize ∧
        next = { session with policy := session.policy.after change } := by
  simp only [Session.commit, ite_eq_iff, Except.ok.injEq, reduceCtorEq, and_false, or_false,
    eq_comm (b := next)]

/-- An assertion is applied by committing its change; nothing else of the session is touched. -/
theorem apply_eq_ok_iff {assertion : Assertion} {next : Session} {outcome : PolicyOutcome} :
    apply env session assertion = .ok (next, outcome) ↔
      session.isPolicy = true ∧
        ∃ change, changeFor env session assertion = .ok change ∧
          outcomeFor env session assertion = .ok outcome ∧
          change.digest.length = session.hashAlg.digestSize ∧
          next = { session with policy := session.policy.after change } := by
  unfold apply
  constructor
  · intro h
    obtain ⟨⟨change, given⟩, hevaluate, hrest⟩ := Except.bind_eq_ok_iff.mp h
    obtain ⟨committed, hcommit, hpair⟩ := Except.bind_eq_ok_iff.mp hrest
    cases Except.pure_eq_ok_iff.mp hpair
    obtain ⟨hpolicy, hchange, houtcome⟩ := evaluate_eq_ok_iff.mp hevaluate
    obtain ⟨hlength, hnext⟩ := commit_eq_ok_iff.mp hcommit
    exact ⟨hpolicy, change, hchange, houtcome, hlength, hnext⟩
  · intro hconds
    obtain ⟨hpolicy, change, hchange, houtcome, hlength, hnext⟩ := hconds
    have hevaluate := evaluate_eq_ok_iff.mpr ⟨hpolicy, hchange, houtcome⟩
    have hcommit := commit_eq_ok_iff.mpr ⟨hlength, hnext⟩
    exact Except.bind_eq_ok_iff.mpr ⟨(change, outcome), hevaluate,
      Except.bind_eq_ok_iff.mpr ⟨next, hcommit, rfl⟩⟩

/-- What stops the change of an assertion stops the assertion. -/
theorem apply_eq_error_of_changeFor {assertion : Assertion} {stop : Stop}
    (hpolicy : session.isPolicy = true) (h : changeFor env session assertion = .error stop) :
    apply env session assertion = .error stop := by
  have hevaluate : evaluate env session assertion = .error stop := by
    unfold evaluate
    rw [hpolicy]
    cases assertion <;>
    · rw [changeFor] at h
      simp only [h]
      rfl
  unfold apply
  rw [hevaluate]
  rfl

/-- What stops the outcome of an assertion whose change is good stops the assertion. -/
theorem apply_eq_error_of_outcomeFor {assertion : Assertion} {stop : Stop}
    (hpolicy : session.isPolicy = true) (hchange : changeFor env session assertion = .ok change)
    (h : outcomeFor env session assertion = .error stop) :
    apply env session assertion = .error stop := by
  have hevaluate : evaluate env session assertion = .error stop := by
    unfold evaluate
    rw [hpolicy]
    cases assertion with
    | signed =>
      rw [changeFor] at hchange
      rw [outcomeFor] at h
      simp only [hchange, h]
      rfl
    | _ => cases h
  unfold apply
  rw [hevaluate]
  rfl

end Policy

end TrustedPlatform
