import TrustedPlatform.Proofs.PcrSelection
import TrustedPlatform.Proofs.Policy.Effect
import TrustedPlatform.Proofs.Wire.Domain

/-!
# Assertions keep the engine's promises

Two things that an assertion computes with rest on promises made elsewhere: that every selected PCR
is one of the bank, and that a new digest has the length of the session's hash. A third one, that an
expiration instant fits the clock, is kept unless the clock is near its end. If these hold, an
assertion is applied or refused, but does not end in a breach.
-/

/-! ## Results that are no breach -/

namespace Except

open TrustedPlatform (Breach Cause Fault Stop)

variable {α β : Type}

/-- The result is not a breach. -/
def KeepsPromises (x : Except Stop α) : Prop := ∀ breach, x ≠ .error (.breach breach)

namespace KeepsPromises

theorem pure (a : α) : (Pure.pure a : Except Stop α).KeepsPromises := by
  intro breach h
  cases h

theorem throw (fault : Fault) :
    (MonadExcept.throw (.fault fault) : Except Stop α).KeepsPromises := by
  intro breach h
  cases h

theorem bind {x : Except Stop α} {f : α → Except Stop β} (h : x.KeepsPromises)
    (hf : ∀ a, x = .ok a → (f a).KeepsPromises) : (x >>= f).KeepsPromises := by
  cases hx : x with
  | ok a => exact hf a hx
  | error stop =>
    intro breach heq
    cases heq
    exact h breach hx

/-- A check that throws a fault, or goes on. -/
theorem throwIf {check : Prop} [Decidable check] {fault : Fault} {rest : Except Stop α}
    (h : rest.KeepsPromises) :
    (if check then do (MonadExcept.throw (Stop.fault fault) : Except Stop PUnit); rest
      else rest).KeepsPromises := by
  split
  · exact bind (throw fault) fun _ _ => h
  · exact h

/-- A check that is not always made. -/
theorem checkIf {check : Prop} [Decidable check] {x : Except Stop Unit} {rest : Except Stop α}
    (hx : x.KeepsPromises) (h : rest.KeepsPromises) :
    (if check then do x; rest else rest).KeepsPromises := by
  split
  · exact bind hx fun _ _ => h
  · exact h

end KeepsPromises

end Except

namespace TrustedPlatform

/-! ## PCRs -/

namespace PcrBanks

/-- Each bank has a value for every PCR. -/
def Full (banks : PcrBanks) : Prop := ∀ hash, (banks.values hash).length = pcrCount

theorem full_initial : initial.Full := by
  intro hash
  exact List.length_replicate

theorem Full.extend {banks next : PcrBanks} {index : Nat} {data : Bytes} (hfull : banks.Full)
    (h : banks.extend index data = .ok next) : next.Full := by
  unfold PcrBanks.extend at h
  split at h
  · cases h
  · cases h
    intro hash
    cases hash <;> exact (List.length_modify ..).trans (hfull _)

theorem valuesAt_keepsPromises {registers : List Bytes} {indices : List Nat}
    (h : ∀ index ∈ indices, index < registers.length) :
    (valuesAt registers indices).KeepsPromises := by
  induction indices with
  | nil => exact .pure []
  | cons index indices ih =>
    obtain ⟨hfirst, hothers⟩ := List.forall_mem_cons.mp h
    unfold valuesAt
    rw [List.getElem?_eq_getElem hfirst]
    exact .bind (ih hothers) fun values _ => .pure _

theorem selectedValues_keepsPromises {banks : PcrBanks} {selections : List PcrSelection}
    (hbanks : banks.Full) (h : ∀ selection ∈ selections, selection.Valid) :
    (banks.selectedValues selections).KeepsPromises := by
  induction selections with
  | nil => exact .pure []
  | cons selection selections ih =>
    obtain ⟨hfirst, hothers⟩ := List.forall_mem_cons.mp h
    unfold selectedValues
    cases selection.hash.hash? with
    | none => exact .throw _
    | some hash =>
      have hvalues : (valuesAt (banks.values hash) selection.selected).KeepsPromises :=
        valuesAt_keepsPromises fun index hmem => by
          rw [hbanks hash]
          exact PcrSelection.lt_of_mem_selected hfirst.bitmap hmem
      exact .bind hvalues fun _ _ => .bind (ih hothers) fun _ _ => .pure _

theorem digest_keepsPromises {banks : PcrBanks} {selections : PcrSelections} (alg : AlgId)
    (hbanks : banks.Full) (h : selections.Valid) :
    (banks.digest selections alg).KeepsPromises := by
  refine .bind (selectedValues_keepsPromises hbanks h.each) fun values _ => ?_
  cases alg.hash? with
  | none => exact .throw _
  | some hash => exact .pure _

end PcrBanks

namespace Policy

variable {env : Environment} {session : Session}

/-! ## The assertions one by one -/

theorem lift_keepsPromises {α : Type} (x : Except Cause α) : (lift x).KeepsPromises := by
  cases x with
  | ok a => exact .pure a
  | error cause => exact .throw _

/-- A change that only its digest may stop. -/
theorem lift_map_keepsPromises {α β : Type} (x : Except Cause α) (f : α → β) :
    (lift x >>= fun a => pure (f a)).KeepsPromises :=
  .bind (lift_keepsPromises x) fun _ _ => .pure _

theorem liftAt_keepsPromises {α : Type} (index : UInt8) (x : Except Cause α) :
    (liftAt index x).KeepsPromises := by
  cases x with
  | ok a => exact .pure a
  | error cause => exact .throw _

theorem boundCpHash_keepsPromises (cpHash : Bytes) (index : UInt8) :
    (boundCpHash session cpHash index).KeepsPromises := by
  unfold boundCpHash
  split
  · exact .pure none
  · split
    · split
      · exact .pure _
      · exact .throw _
    · exact .pure _

theorem authValueChange_keepsPromises (password : Bool) :
    (authValueChange env session password).KeepsPromises :=
  lift_map_keepsPromises _ _

theorem commandCodeChange_keepsPromises (code : UInt32) :
    (commandCodeChange env session code).KeepsPromises := by
  unfold commandCodeChange
  exact .throwIf (.throwIf (lift_map_keepsPromises _ _))

theorem pcrValue_keepsPromises {pcrDigest : Digest} {pcrs : PcrSelections}
    (hbanks : env.pcrs.Full) (hpcrs : pcrs.Valid) :
    (pcrValue env session pcrDigest pcrs).KeepsPromises := by
  have hdigest := PcrBanks.digest_keepsPromises session.hashAlg hbanks hpcrs
  unfold pcrValue
  split
  · exact .pure _
  · split
    · split
      · exact .throw _
      · exact .pure _
    · exact .throw _
    · rename_i breach hbreach
      exact absurd hbreach (hdigest breach)

theorem pcrChange_keepsPromises {pcrDigest : Digest} {pcrs : PcrSelections}
    (hbanks : env.pcrs.Full) (hpcrs : pcrs.Valid) :
    (pcrChange env session pcrDigest pcrs).KeepsPromises := by
  unfold pcrChange
  refine .throwIf (.bind (pcrValue_keepsPromises hbanks hpcrs) fun value _ => ?_)
  exact lift_map_keepsPromises _ _

theorem authorizeChange_keepsPromises (approvedPolicy : Digest) (policyRef : Nonce)
    (keySign : Name) (checkTicket : Ticket) :
    (authorizeChange env session approvedPolicy policyRef keySign checkTicket).KeepsPromises := by
  unfold authorizeChange
  refine .throwIf ?_
  split
  · exact .throw _
  · dsimp only
    split
    · refine .bind (liftAt_keepsPromises 3 _) fun approval _ => ?_
      exact .bind (liftAt_keepsPromises 4 _) fun _ _ => lift_map_keepsPromises _ _
    · exact lift_map_keepsPromises _ _

theorem ticketChange_keepsPromises (timeout : Timeout) (cpHashA : Digest) (policyRef : Nonce)
    (authName : Name) (ticket : Ticket) :
    (ticketChange env session timeout cpHashA policyRef authName ticket).KeepsPromises := by
  unfold ticketChange
  split
  · exact .throw _
  · refine .bind (boundCpHash_keepsPromises _ 2) fun cpHash _ => ?_
    dsimp only
    split
    · split
      · exact lift_map_keepsPromises _ _
      · exact .bind (.throw _) fun _ _ => lift_map_keepsPromises _ _
    · exact lift_map_keepsPromises _ _

theorem checkFreshness_keepsPromises (clock : Clock) (nonceTpm : Nonce) (expiration : Int32) :
    (checkFreshness clock session nonceTpm expiration).KeepsPromises := by
  unfold checkFreshness
  refine .throwIf ?_
  split
  · exact .throw _
  · exact .pure _

theorem checkAuthorization_keepsPromises (crypto : Crypto) (authObject : Entity) (octets : Bytes)
    (auth : Signature) :
    (checkAuthorization crypto authObject octets auth).KeepsPromises := by
  unfold checkAuthorization
  split
  · exact .throw _
  · split
    · exact .throw _
    · refine .bind (lift_keepsPromises _) fun digest _ => ?_
      refine .bind (lift_keepsPromises _) fun valid _ => ?_
      split
      · exact .throw _
      · exact .pure _

theorem signedChange_keepsPromises (authObject : Entity) (nonceTpm : Nonce) (cpHashA : Digest)
    (policyRef : Nonce) (expiration : Int32) (auth : Signature) :
    (signedChange env session authObject nonceTpm cpHashA policyRef expiration
      auth).KeepsPromises := by
  unfold signedChange
  refine .checkIf (checkFreshness_keepsPromises _ _ _) ?_
  refine .bind (boundCpHash_keepsPromises _ 2) fun cpHash _ => ?_
  refine .checkIf (checkAuthorization_keepsPromises _ _ _ _) ?_
  exact lift_map_keepsPromises _ _

/-- If the authorization is given a ticket, the instant at which this expires fits the clock. -/
def FitsClock (session : Session) (nonceTpm : Nonce) (expiration : Int32) : Prop :=
  session.isTrial = false → expiration < 0 → nonceTpm.isEmpty = false →
    session.startTime.toNat + lifetime expiration < UInt64.size

theorem signedOutcome_keepsPromises {authObject : Entity} {nonceTpm : Nonce} {cpHashA : Digest}
    {policyRef : Nonce} {expiration : Int32} (hfits : FitsClock session nonceTpm expiration) :
    (signedOutcome env session authObject nonceTpm cpHashA policyRef
      expiration).KeepsPromises := by
  unfold signedOutcome
  split
  · rename_i hgiven
    obtain ⟨⟨hreal, hnegative⟩, hnonce⟩ :
        (session.isTrial = false ∧ expiration < 0) ∧ nonceTpm.isEmpty = false := by
      simpa using hgiven
    rw [if_neg (Nat.not_le.mpr (hfits hreal hnegative hnonce))]
    exact lift_map_keepsPromises _ _
  · exact .pure _

/-! ## All assertions -/

/-- The PCRs that the assertion selects exist, and the instant at which it expires fits the
clock. -/
def InRange (session : Session) : Assertion → Prop
  | .pcr _ pcrs => pcrs.Valid
  | .signed _ nonceTpm _ _ expiration _ => FitsClock session nonceTpm expiration
  | _ => True

theorem evaluate_keepsPromises {assertion : Assertion} (hbanks : env.pcrs.Full)
    (hrange : InRange session assertion) :
    (evaluate env session assertion).KeepsPromises := by
  unfold evaluate
  refine .throwIf ?_
  cases assertion with
  | authValue => exact .bind (authValueChange_keepsPromises _) fun _ _ => .pure _
  | password => exact .bind (authValueChange_keepsPromises _) fun _ _ => .pure _
  | commandCode code => exact .bind (commandCodeChange_keepsPromises _) fun _ _ => .pure _
  | pcr pcrDigest pcrs =>
    exact .bind (pcrChange_keepsPromises hbanks hrange) fun _ _ => .pure _
  | authorize approvedPolicy policyRef keySign checkTicket =>
    exact .bind (authorizeChange_keepsPromises _ _ _ _) fun _ _ => .pure _
  | ticket timeout cpHashA policyRef authName ticket =>
    exact .bind (ticketChange_keepsPromises _ _ _ _ _) fun _ _ => .pure _
  | signed authObject nonceTpm cpHashA policyRef expiration auth =>
    refine .bind (signedChange_keepsPromises _ _ _ _ _ _) fun _ _ => ?_
    exact .bind (signedOutcome_keepsPromises hrange) fun _ _ => .pure _

/-- The digest of an effect is one that was hashed last. -/
theorem length_extend {crypto : Crypto} (hsized : crypto.FixedLength) (hash : HashId)
    (digest : Bytes) (effect : PolicyEffect) :
    (effect.extend (crypto.hash hash) hash.digestSize digest).length = hash.digestSize := by
  cases effect with
  | authorization kind name policyRef => cases kind <;> exact hsized.length_hash hash _
  | _ => exact hsized.length_hash hash _

/-- The digest that an assertion leaves is as long as those of the session's hash. -/
theorem length_digest_of_changeFor {assertion : Assertion} {change : PolicyChange}
    (hsized : env.crypto.FixedLength) (h : changeFor env session assertion = .ok change) :
    change.digest.length = session.hashAlg.digestSize := by
  obtain ⟨effect, digest, _, hdigest, rfl⟩ := changeFor_eq h
  obtain ⟨hash, halg, rfl⟩ := PolicyEffect.apply_eq_ok_iff.mp hdigest
  rw [halg, HashId.digestSize_alg]
  exact length_extend hsized hash _ effect

/-- An assertion whose PCRs exist and whose expiration fits the clock is applied or refused. -/
theorem apply_keepsPromises {assertion : Assertion} (hsized : env.crypto.FixedLength)
    (hbanks : env.pcrs.Full) (hrange : InRange session assertion) :
    (apply env session assertion).KeepsPromises := by
  refine .bind (evaluate_keepsPromises hbanks hrange) fun result hresult => ?_
  obtain ⟨change, outcome⟩ := result
  obtain ⟨_, hchange, _⟩ := evaluate_eq_ok_iff.mp hresult
  have hcommit := commit_eq_ok_iff.mpr ⟨length_digest_of_changeFor hsized hchange, rfl⟩
  dsimp only
  rw [hcommit]
  exact .pure _

end Policy

end TrustedPlatform
