import Mathlib.Data.List.Nodup
import Mathlib.Logic.Unique
import TrustedPlatform.TicketAuthority
import TrustedPlatform.Proofs.Computation
import TrustedPlatform.Proofs.Hash
import TrustedPlatform.Proofs.Wire.Domain

/-!
# What a ticket attests

For each operation of the ticket authority, exactly when it goes through. A ticket that was issued
and is accepted later was issued over the octets that it is accepted for, unless HMAC-SHA-256 was
broken: `statement_eq_or_confused`. The octets are all there is to it: a statement is put together
out of parts without a mark where one ends, so that other parts may make up the same statement.

`TicketAuthority.proofs` is what never changes of an authority: hierarchies are switched on and off,
their proof values stay.
-/

namespace TrustedPlatform

/-! ## Timeouts -/

namespace Timeout

/-- A timeout that expires shows when. -/
theorem expiration?_ofExpiration (expiresAt : UInt64) (resetCount : UInt32) :
    (ofExpiration expiresAt resetCount).expiration? = some (expiresAt, resetCount) := by
  have htake : (be64 expiresAt ++ be32 resetCount).take 8 = be64 expiresAt :=
    List.take_left' (length_be64 expiresAt)
  have hdrop : (be64 expiresAt ++ be32 resetCount).drop 8 = be32 resetCount :=
    List.drop_left' (length_be64 expiresAt)
  rw [expiration?, ofExpiration, if_pos (by simp [timeoutSize]), htake, hdrop, toNat_be64, toNat_be32,
    UInt64.ofNat_toNat, UInt32.ofNat_toNat]

/-- The clock has not passed the instant, nor was it reset. -/
theorem check_eq_ok_iff {timeout : Timeout} {clock : Clock} :
    timeout.check clock = .ok () ↔
      ∀ expiresAt resetCount, timeout.expiration? = some (expiresAt, resetCount) →
        clock.resetCount = resetCount ∧ clock.now ≤ expiresAt := by
  unfold check
  cases timeout.expiration? with
  | none => simp
  | some expiration =>
    obtain ⟨expiresAt, resetCount⟩ := expiration
    simp [eq_comm]

/-- The only reason to refuse a timeout is that it has passed. -/
theorem check_eq_error_iff {timeout : Timeout} {clock : Clock} {cause : Cause} :
    timeout.check clock = .error cause ↔
      timeout.check clock ≠ .ok () ∧ cause = .policy .ticketExpired := by
  unfold check
  cases timeout.expiration? with
  | none => simp
  | some expiration =>
    dsimp only
    split <;> simp [eq_comm]

end Timeout

/-- Two different messages have the same HMAC-SHA-256 under `key`. -/
def Crypto.Confuses (crypto : Crypto) (key x y : Bytes) : Prop :=
  x ≠ y ∧ crypto.hmac .sha256 key x = crypto.hmac .sha256 key y

namespace TicketAuthority

variable {authority : TicketAuthority} {crypto : Crypto} {hierarchy : UInt32}
  {tag : StructureTag} {statement : Bytes} {ticket : Ticket}

/-! ## Proof values -/

/-- The hierarchies with their proof values, whether they are enabled or not. -/
def proofs (authority : TicketAuthority) : List (UInt32 × Bytes) :=
  authority.hierarchies.map fun h => (h.handle, h.proof)

/-- No two hierarchies have the same handle. -/
def Separate (authority : TicketAuthority) : Prop :=
  (authority.proofs.map Prod.fst).Nodup

theorem separate_ofConfig (crypto : Crypto) (config : Config) :
    (ofConfig crypto config).Separate := by
  show [Handle.owner, Handle.endorsement, Handle.platform].Nodup
  decide

theorem Separate.of_proofs_eq {other : TicketAuthority} (h : authority.Separate)
    (heq : other.proofs = authority.proofs) : other.Separate := by
  rw [Separate, heq]
  exact h

@[simp] theorem proofs_setEnabled (authority : TicketAuthority) (hierarchy : UInt32)
    (enabled : Bool) : (authority.setEnabled hierarchy enabled).proofs = authority.proofs := by
  unfold proofs setEnabled
  rw [List.map_map]
  refine List.map_congr_left fun h _ => ?_
  dsimp only [Function.comp]
  split <;> rfl

/-- The proof value of a hierarchy is at hand exactly while the hierarchy is enabled. -/
theorem proofFor_eq_ok_iff (hseparate : authority.Separate) {proof : Bytes} :
    authority.proofFor hierarchy = .ok proof ↔
      (hierarchy, proof) ∈ authority.proofs ∧ authority.isEnabled hierarchy = true := by
  obtain ⟨hierarchies⟩ := authority
  unfold Separate at hseparate
  unfold proofFor proofs isEnabled at *
  dsimp only at *
  -- the first hierarchy of the handle is the only one
  induction hierarchies with
  | nil => simp
  | cons first others ih =>
    obtain ⟨hfresh, hothers⟩ := List.nodup_cons.mp hseparate
    rw [List.map_cons, List.mem_cons, List.any_cons]
    by_cases hhandle : first.handle = hierarchy
    · subst hhandle
      have hnone : ∀ h ∈ others, h.handle ≠ first.handle := by
        intro h hmem heq
        exact hfresh
          (List.mem_map.mpr ⟨(h.handle, h.proof), List.mem_map.mpr ⟨h, hmem, rfl⟩, heq⟩)
      have hmem : (first.handle, proof) ∉ others.map fun h => (h.handle, h.proof) := by
        intro hmem
        obtain ⟨h, hin, heq⟩ := List.mem_map.mp hmem
        exact hnone h hin (congrArg Prod.fst heq)
      have hany : (others.any fun h => h.handle = first.handle && h.enabled) = false := by
        rw [List.any_eq_false]
        intro h hin
        simp [hnone h hin]
      rw [List.find?_cons_of_pos (by simp), hany]
      cases henabled : first.enabled <;> simp [henabled, hmem, eq_comm (a := proof)]
    · rw [List.find?_cons_of_neg (by simpa using hhandle), ih hothers]
      simp [hhandle, Ne.symm hhandle]

/-! ## Tickets -/

theorem sign_eq_ok_iff {digest : Bytes} :
    authority.sign crypto hierarchy tag statement = .ok digest ↔
      ∃ proof, authority.proofFor hierarchy = .ok proof ∧
        digest = crypto.hmac .sha256 proof (be16 tag.code ++ statement) := by
  unfold sign
  simp only [Except.bind_eq_ok_iff, Except.pure_eq_ok_iff, eq_comm (b := digest)]
  rfl

theorem issue_eq_ok_iff :
    authority.issue crypto tag hierarchy statement = .ok ticket ↔
      (hierarchy = Handle.null ∧ ticket = .null tag) ∨
        (hierarchy ≠ Handle.null ∧ ∃ digest,
          authority.sign crypto hierarchy tag statement = .ok digest ∧
            ticket = ⟨tag, hierarchy, ⟨digest⟩⟩) := by
  unfold issue
  by_cases hnull : hierarchy = Handle.null
  · rw [if_pos hnull, Except.pure_eq_ok_iff]
    simp [hnull, eq_comm]
  · rw [if_neg hnull, Except.bind_eq_ok_iff]
    simp [hnull, Except.pure_eq_ok_iff, eq_comm (b := ticket)]

/-- A ticket that attests anything is one of a hierarchy. -/
theorem issue_eq_ok_iff_of_not_null (hnull : ticket.isNull = false) :
    authority.issue crypto tag hierarchy statement = .ok ticket ↔
      ticket.tag = tag ∧ ticket.hierarchy = hierarchy ∧
        authority.sign crypto hierarchy tag statement = .ok ticket.digest.bytes := by
  have hhierarchy : ticket.hierarchy ≠ Handle.null := by
    simpa [Ticket.isNull] using hnull
  rw [issue_eq_ok_iff]
  constructor
  · rintro (⟨_, rfl⟩ | ⟨_, digest, hsign, rfl⟩)
    · exact absurd rfl hhierarchy
    · exact ⟨rfl, rfl, hsign⟩
  · rintro ⟨rfl, rfl, hsign⟩
    exact .inr ⟨hhierarchy, _, hsign, rfl⟩

/-- A ticket that was issued has a form on the wire: a null ticket has no digest, any other that of
HMAC-SHA-256. -/
theorem valid_of_issue (hsized : crypto.FixedLength)
    (h : authority.issue crypto tag hierarchy statement = .ok ticket) : ticket.Valid := by
  have hlength : ticket.digest.bytes.length ≤ 32 := by
    obtain ⟨_, hnull⟩ | ⟨_, _, hsign, hticket⟩ := issue_eq_ok_iff.mp h
    · rw [hnull]
      exact Nat.zero_le 32
    · obtain ⟨_, _, rfl⟩ := sign_eq_ok_iff.mp hsign
      rw [hticket]
      exact Nat.le_of_eq (hsized.length_hmac .sha256 _ _)
  exact ⟨Nat.le_trans hlength (by decide), Nat.lt_of_le_of_lt hlength (by decide)⟩

theorem check_eq_ok_iff :
    authority.check crypto ticket statement = .ok () ↔
      ticket.isNull = false ∧
        authority.sign crypto ticket.hierarchy ticket.tag statement
          = .ok ticket.digest.bytes := by
  unfold check
  cases hnull : ticket.isNull with
  | true => simp [Except.bind_eq_ok_iff, Except.throw_eq_ok_iff]
  | false =>
    rw [if_neg (by decide), Except.bind_eq_ok_iff]
    constructor
    · rintro ⟨expected, hsign, hcompare⟩
      by_cases heq : expected = ticket.digest.bytes
      · exact ⟨rfl, heq ▸ hsign⟩
      · rw [if_pos heq] at hcompare
        exact (Except.throw_eq_ok_iff.mp hcompare).elim
    · rintro ⟨_, hsign⟩
      exact ⟨_, hsign, by rw [if_neg (by simp)]; rfl⟩

theorem verifyVerified_eq_ok_iff {digest keyName : Bytes} :
    authority.verifyVerified crypto ticket digest keyName = .ok () ↔
      ticket.tag = .verified ∧ authority.check crypto ticket (digest ++ keyName) = .ok () := by
  unfold verifyVerified
  by_cases htag : ticket.tag = .verified
  · rw [if_neg (by simpa using htag)]
    simp [htag]
  · rw [if_pos htag, Except.bind_eq_ok_iff]
    simp [htag, Except.throw_eq_ok_iff]

/-- The tickets of authorizations are looked at for their timeout first. -/
theorem verifyAuth_eq_ok_iff {clock : Clock} {claim : AuthClaim} :
    authority.verifyAuth crypto clock ticket claim = .ok () ↔
      (ticket.tag = .authSigned ∨ ticket.tag = .authSecret) ∧
        claim.timeout.check clock = .ok () ∧
          authority.check crypto ticket claim.octets = .ok () := by
  unfold verifyAuth
  by_cases htag : ticket.tag = .authSigned ∨ ticket.tag = .authSecret
  · have hneither : ¬(ticket.tag ≠ .authSigned ∧ ticket.tag ≠ .authSecret) := by
      rwa [not_and_or, not_not, not_not]
    rw [if_neg hneither, Except.bind_eq_ok_iff]
    simp [htag, Unique.exists_iff]
  · rw [if_pos (not_or.mp htag), Except.bind_eq_ok_iff]
    simp [htag, Except.throw_eq_ok_iff]

/-- What a ticket is accepted for, it was issued over, unless two different messages have the same
keyed hash. -/
theorem statement_eq_or_confused {issuing : TicketAuthority} {accepted : Bytes}
    (hseparate : issuing.Separate) (hproofs : authority.proofs = issuing.proofs)
    (hissue : issuing.issue crypto tag hierarchy statement = .ok ticket)
    (hcheck : authority.check crypto ticket accepted = .ok ()) :
    accepted = statement ∨
      ∃ proof, (hierarchy, proof) ∈ issuing.proofs ∧
        crypto.Confuses proof (be16 tag.code ++ accepted) (be16 tag.code ++ statement) := by
  obtain ⟨hnull, haccept⟩ := check_eq_ok_iff.mp hcheck
  obtain ⟨rfl, rfl, hsign⟩ := (issue_eq_ok_iff_of_not_null hnull).mp hissue
  obtain ⟨proof, hproof, hdigest⟩ := sign_eq_ok_iff.mp hsign
  obtain ⟨proof', hproof', hdigest'⟩ := sign_eq_ok_iff.mp haccept
  have hmem := ((proofFor_eq_ok_iff hseparate).mp hproof).1
  have hmem' := ((proofFor_eq_ok_iff (hseparate.of_proofs_eq hproofs)).mp hproof').1
  rw [hproofs] at hmem'
  -- the hierarchy has one proof value
  obtain rfl : proof' = proof := by
    have := List.inj_on_of_nodup_map hseparate hmem' hmem rfl
    exact congrArg Prod.snd this
  by_cases heq : accepted = statement
  · exact .inl heq
  · refine .inr ⟨proof', hmem, ?_, hdigest'.symm.trans hdigest⟩
    intro hsame
    exact heq (List.append_cancel_left hsame)

/-- What a ticket was issued over, it is accepted for while its hierarchy is enabled. -/
theorem check_of_issue {issuing : TicketAuthority} (hseparate : issuing.Separate)
    (hproofs : authority.proofs = issuing.proofs)
    (hissue : issuing.issue crypto tag hierarchy statement = .ok ticket)
    (hnull : ticket.isNull = false) (henabled : authority.isEnabled hierarchy = true) :
    authority.check crypto ticket statement = .ok () := by
  obtain ⟨rfl, rfl, hsign⟩ := (issue_eq_ok_iff_of_not_null hnull).mp hissue
  obtain ⟨proof, hproof, hdigest⟩ := sign_eq_ok_iff.mp hsign
  have hmem := ((proofFor_eq_ok_iff hseparate).mp hproof).1
  rw [← hproofs] at hmem
  have hproof' := (proofFor_eq_ok_iff (hseparate.of_proofs_eq hproofs)).mpr ⟨hmem, henabled⟩
  exact check_eq_ok_iff.mpr ⟨hnull, sign_eq_ok_iff.mpr ⟨proof, hproof', hdigest⟩⟩

/-- A ticket whose timeout has passed is refused for that, whatever else there is to say of it. -/
theorem verifyAuth_eq_error_of_expired {clock : Clock} {claim : AuthClaim}
    (htag : ticket.tag = .authSigned ∨ ticket.tag = .authSecret)
    (hexpired : claim.timeout.check clock ≠ .ok ()) :
    authority.verifyAuth crypto clock ticket claim = .error (.policy .ticketExpired) := by
  have hneither : ¬(ticket.tag ≠ .authSigned ∧ ticket.tag ≠ .authSecret) := by
    rwa [not_and_or, not_not, not_not]
  unfold verifyAuth
  rw [if_neg hneither]
  cases hcheck : claim.timeout.check clock with
  | ok _ => exact absurd hcheck hexpired
  | error cause =>
    obtain ⟨_, rfl⟩ := Timeout.check_eq_error_iff.mp hcheck
    rfl

end TicketAuthority

end TrustedPlatform
