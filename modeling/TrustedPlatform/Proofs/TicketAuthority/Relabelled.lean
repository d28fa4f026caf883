import TrustedPlatform.Proofs.TicketAuthority

/-!
# Tickets under another tag or another hierarchy

The digest of a ticket is keyed with the proof value of its hierarchy, and what is hashed starts
with its tag. A ticket is therefore good for one tag and one hierarchy: with another label it is
refused for whatever it is shown, by either verifier, unless HMAC-SHA-256 was broken. The label is
all that tells tickets apart here, as nothing is assumed of what they are shown for. A proof value is
itself the keyed hash of a handle, so that two hierarchies with one proof value are a collision too.
-/

namespace TrustedPlatform

/-- What a ticket is shown for: that a key signed a digest, or an authorization at a reading of the
clock. -/
inductive TicketUse
  | verified (digest keyName : Bytes)
  | authorization (clock : Clock) (claim : AuthClaim)

/-- The octets that the ticket has to attest. -/
def TicketUse.statement : TicketUse → Bytes
  | verified digest keyName => digest ++ keyName
  | authorization _ claim => claim.octets

/-- Two different pairs of a key and a message, both among `computed`, have the same
HMAC-SHA-256. -/
def Crypto.HmacCollides (crypto : Crypto) (computed : List (Bytes × Bytes)) : Prop :=
  ∃ x ∈ computed, ∃ y ∈ computed, x ≠ y ∧
    crypto.hmac .sha256 x.1 x.2 = crypto.hmac .sha256 y.1 y.2

theorem Crypto.hmacCollides_pair {crypto : Crypto} {x y : Bytes × Bytes} (hne : x ≠ y)
    (heq : crypto.hmac .sha256 x.1 x.2 = crypto.hmac .sha256 y.1 y.2) :
    crypto.HmacCollides [x, y] :=
  ⟨x, List.mem_cons_self, y, by simp, hne, heq⟩

namespace TicketAuthority

variable {authority : TicketAuthority} {crypto : Crypto} {config : Config} {ticket : Ticket}
  {shown : TicketUse}

/-- Fails unless the ticket is good for what it is shown for. -/
def verify (authority : TicketAuthority) (crypto : Crypto) (ticket : Ticket) :
    TicketUse → Except Cause Unit
  | .verified digest keyName => authority.verifyVerified crypto ticket digest keyName
  | .authorization clock claim => authority.verifyAuth crypto clock ticket claim

/-- Whatever a ticket is accepted for, its digest was compared with the one it ought to have. -/
theorem check_of_verify (h : authority.verify crypto ticket shown = .ok ()) :
    authority.check crypto ticket shown.statement = .ok () := by
  cases shown with
  | verified digest keyName => exact (verifyVerified_eq_ok_iff.mp h).2
  | authorization clock claim => exact (verifyAuth_eq_ok_iff.mp h).2.2

/-! ## Hierarchies that are switched on and off -/

/-- The authority after hierarchies were switched on and off, one after the other. -/
def switched (authority : TicketAuthority) (switches : List (UInt32 × Bool)) : TicketAuthority :=
  switches.foldl (fun authority switch => authority.setEnabled switch.1 switch.2) authority

@[simp] theorem proofs_switched (authority : TicketAuthority) (switches : List (UInt32 × Bool)) :
    (authority.switched switches).proofs = authority.proofs := by
  unfold switched
  induction switches generalizing authority with
  | nil => rfl
  | cons switch switches ih => rw [List.foldl_cons, ih, proofs_setEnabled]

/-- Whether a hierarchy is on: as it was last switched, or as it was at first. -/
def lastSwitch (switches : List (UInt32 × Bool)) (hierarchy : UInt32) (first : Bool) : Bool :=
  switches.foldl (fun on switch => if switch.1 = hierarchy then switch.2 else on) first

/-- A hierarchy that accepts tickets was switched on, and every other one is as it was. -/
theorem lastSwitch_of_setEnabled {handle hierarchy : UInt32} {enabled : Bool}
    (h : (authority.setEnabled handle enabled).isEnabled hierarchy = true) :
    (if handle = hierarchy then enabled else authority.isEnabled hierarchy) = true := by
  obtain ⟨entry, hentry, hon⟩ := List.any_eq_true.mp h
  obtain ⟨before, hbefore, rfl⟩ := List.mem_map.mp hentry
  by_cases hsame : handle = hierarchy
  · rw [if_pos hsame]
    by_cases hhandle : before.handle = handle
    · simpa [hhandle, hsame] using hon
    · simp [hhandle, ← hsame] at hon
  · rw [if_neg hsame]
    by_cases hhandle : before.handle = handle
    · simp [hhandle, hsame] at hon
    · rw [if_neg hhandle] at hon
      exact List.any_eq_true.mpr ⟨before, hbefore, hon⟩

/-- A hierarchy that accepts tickets has not been switched off since it was last switched on. -/
theorem lastSwitch_of_isEnabled {hierarchy : UInt32} {switches : List (UInt32 × Bool)}
    (h : (authority.switched switches).isEnabled hierarchy = true) :
    lastSwitch switches hierarchy (authority.isEnabled hierarchy) = true := by
  -- on the switches from the last one back
  induction switches using List.reverseRecOn with
  | nil => exact h
  | append_singleton switches switch ih =>
    rw [switched, List.foldl_append] at h
    have hlast := lastSwitch_of_setEnabled h
    rw [lastSwitch, List.foldl_append]
    show (if switch.1 = hierarchy then switch.2 else _) = true
    by_cases hsame : switch.1 = hierarchy
    · rw [if_pos hsame] at hlast ⊢
      exact hlast
    · rw [if_neg hsame] at hlast ⊢
      exact ih hlast

/-! ## Proof values of a seed -/

/-- The keys and messages that the proof values are the keyed hashes of. -/
def proofInputs (seed : Bytes) : List (Bytes × Bytes) :=
  [Handle.owner, Handle.endorsement, Handle.platform].map fun handle =>
    (seed, proofLabel ++ be32 handle)

/-- With a seed, the proof value of a hierarchy is the keyed hash of its handle. -/
theorem of_mem_proofs_ofConfig (hseed : config.proofSeed ≠ []) {hierarchy : UInt32} {proof : Bytes}
    (h : (hierarchy, proof) ∈ (ofConfig crypto config).proofs) :
    hierarchy ∈ [Handle.owner, Handle.endorsement, Handle.platform] ∧
      proof = crypto.hmac .sha256 config.proofSeed (proofLabel ++ be32 hierarchy) := by
  have hderived : ∀ draw handle, TicketAuthority.proof crypto config.proofSeed draw handle
      = crypto.hmac .sha256 config.proofSeed (proofLabel ++ be32 handle) := by
    intro draw handle
    rw [TicketAuthority.proof, if_neg (by simpa using hseed)]
    rfl
  have hproofs : (ofConfig crypto config).proofs
      = [Handle.owner, Handle.endorsement, Handle.platform].map fun handle =>
          (handle, crypto.hmac .sha256 config.proofSeed (proofLabel ++ be32 handle)) := by
    simp only [proofs, ofConfig, List.map_cons, List.map_nil, hderived]
  rw [hproofs] at h
  obtain ⟨handle, hmem, heq⟩ := List.mem_map.mp h
  cases heq
  exact ⟨hmem, rfl⟩

/-- What it takes for a ticket to be accepted: its hierarchy is one of the three and is enabled, and
its digest is the keyed hash of its tag and of what it is shown for. -/
theorem of_verify_switched (hseed : config.proofSeed ≠ []) {switches : List (UInt32 × Bool)}
    (h : ((ofConfig crypto config).switched switches).verify crypto ticket shown = .ok ()) :
    ticket.hierarchy ∈ [Handle.owner, Handle.endorsement, Handle.platform] ∧
      ((ofConfig crypto config).switched switches).isEnabled ticket.hierarchy = true ∧
      ∃ proof, ((ofConfig crypto config).switched switches).proofFor ticket.hierarchy = .ok proof ∧
        proof = crypto.hmac .sha256 config.proofSeed (proofLabel ++ be32 ticket.hierarchy) ∧
        ticket.digest.bytes
          = crypto.hmac .sha256 proof (be16 ticket.tag.code ++ shown.statement) := by
  obtain ⟨_, hsign⟩ := check_eq_ok_iff.mp (check_of_verify h)
  obtain ⟨proof, hproof, hdigest⟩ := sign_eq_ok_iff.mp hsign
  have hseparate := (separate_ofConfig crypto config).of_proofs_eq (proofs_switched _ switches)
  obtain ⟨hmem, henabled⟩ := (proofFor_eq_ok_iff hseparate).mp hproof
  rw [proofs_switched] at hmem
  obtain ⟨hhandle, hderived⟩ := of_mem_proofs_ofConfig hseed hmem
  exact ⟨hhandle, henabled, proof, hproof, hderived, hdigest⟩

/-! ## Labels -/

/-- Messages that start with different tags are different. -/
theorem tag_eq_of_append {tag tag' : StructureTag} {statement statement' : Bytes}
    (h : be16 tag.code ++ statement = be16 tag'.code ++ statement') : tag = tag' :=
  ((StructureTag.reads tag).unique (StructureTag.reads tag') h).1

/-- If one digest is accepted under two labels, two of the keyed hashes that were computed are the
same. -/
theorem collides_of_relabelled {relabelled : Ticket} {shown' : TicketUse}
    {switches switches' : List (UInt32 × Bool)} (hseed : config.proofSeed ≠ [])
    (haccept : ((ofConfig crypto config).switched switches).verify crypto ticket shown = .ok ())
    (haccept' : ((ofConfig crypto config).switched switches').verify crypto relabelled shown'
      = .ok ())
    (hdigest : relabelled.digest = ticket.digest)
    (hlabel : relabelled.tag ≠ ticket.tag ∨ relabelled.hierarchy ≠ ticket.hierarchy) :
    crypto.HmacCollides (proofInputs config.proofSeed) ∨
      ∃ proof proof',
        ((ofConfig crypto config).switched switches).proofFor ticket.hierarchy = .ok proof ∧
        ((ofConfig crypto config).switched switches').proofFor relabelled.hierarchy = .ok proof' ∧
        crypto.HmacCollides [(proof, be16 ticket.tag.code ++ shown.statement),
          (proof', be16 relabelled.tag.code ++ shown'.statement)] := by
  obtain ⟨hmem, _, proof, hproof, hderived, hhash⟩ := of_verify_switched hseed haccept
  obtain ⟨hmem', _, proof', hproof', hderived', hhash'⟩ := of_verify_switched hseed haccept'
  rw [hdigest] at hhash'
  by_cases hpair : (proof, be16 ticket.tag.code ++ shown.statement)
      = (proof', be16 relabelled.tag.code ++ shown'.statement)
  swap
  · exact .inr ⟨proof, proof', hproof, hproof',
      Crypto.hmacCollides_pair hpair (hhash.symm.trans hhash')⟩
  -- the messages are the same, so the tags are, and it is two hierarchies that have one proof value
  obtain ⟨hkey, hmessage⟩ := Prod.mk.inj hpair
  have htag := tag_eq_of_append hmessage
  have hhierarchy : relabelled.hierarchy ≠ ticket.hierarchy :=
    hlabel.resolve_left (not_not.mpr htag.symm)
  refine .inl ⟨_, List.mem_map_of_mem hmem, _, List.mem_map_of_mem hmem', ?_, ?_⟩
  · intro hsame
    have hhandle := List.append_cancel_left (congrArg Prod.snd hsame)
    exact hhierarchy (be32_injective hhandle).symm
  · exact hderived.symm.trans (hkey.trans hderived')

/-- A ticket that is accepted is refused, then and later, under another tag or in another hierarchy,
unless two of the keyed hashes that were computed are the same; and none is accepted in a hierarchy
that is null, unknown or switched off. -/
theorem relabelled_ticket_is_refused (crypto : Crypto) {config : Config}
    (hseed : config.proofSeed ≠ []) (switches : List (UInt32 × Bool)) :
    let authority := (ofConfig crypto config).switched switches
    (∀ (ticket relabelled : Ticket) (shown shown' : TicketUse) (later : List (UInt32 × Bool)),
      authority.verify crypto ticket shown = .ok () → relabelled.digest = ticket.digest →
      relabelled.tag ≠ ticket.tag ∨ relabelled.hierarchy ≠ ticket.hierarchy →
      (∃ cause, (authority.switched later).verify crypto relabelled shown' = .error cause) ∨
        crypto.HmacCollides (proofInputs config.proofSeed) ∨
        ∃ proof proof', authority.proofFor ticket.hierarchy = .ok proof ∧
          (authority.switched later).proofFor relabelled.hierarchy = .ok proof' ∧
          crypto.HmacCollides [(proof, be16 ticket.tag.code ++ shown.statement),
            (proof', be16 relabelled.tag.code ++ shown'.statement)]) ∧
    ∀ (ticket : Ticket) (shown : TicketUse),
      ticket.hierarchy = Handle.null ∨
        ticket.hierarchy ∉ [Handle.owner, Handle.endorsement, Handle.platform] ∨
        lastSwitch switches ticket.hierarchy
          ((ofConfig crypto config).isEnabled ticket.hierarchy) = false →
      ∃ cause, authority.verify crypto ticket shown = .error cause := by
  intro authority
  constructor
  · intro ticket relabelled shown shown' later haccept hdigest hlabel
    cases hverify : (authority.switched later).verify crypto relabelled shown' with
    | error cause => exact .inl ⟨cause, rfl⟩
    | ok _ =>
      have hswitches : authority.switched later
          = (ofConfig crypto config).switched (switches ++ later) := List.foldl_append.symm
      rw [hswitches] at hverify ⊢
      exact .inr (collides_of_relabelled hseed haccept hverify hdigest hlabel)
  · intro ticket shown hrefused
    cases hverify : authority.verify crypto ticket shown with
    | error cause => exact ⟨cause, rfl⟩
    | ok _ =>
      obtain ⟨hmem, henabled, _⟩ := of_verify_switched hseed hverify
      exfalso
      rcases hrefused with hnull | hunknown | hoff
      · rw [hnull] at hmem
        exact absurd hmem (by decide)
      · exact hunknown hmem
      · rw [lastSwitch_of_isEnabled henabled] at hoff
        exact absurd hoff (by decide)

/-- A configuration with a seed. -/
def seededConfig : Config := { Config.standard with proofSeed := [0x2A] }

/-- The cryptography the engine runs with; nothing is drawn. -/
def seededCrypto : Crypto := .standard fun _ _ => []

/-- A digest that was verified for the owner hierarchy. -/
def ownerTicket : Ticket where
  tag := .verified
  hierarchy := Handle.owner
  digest := ⟨seededCrypto.hmac .sha256 (proof seededCrypto seededConfig.proofSeed 0 Handle.owner)
    (be16 StructureTag.verified.code ++ ([0xD1, 0x6E] ++ [0x00, 0x0B]))⟩

/-- The ticket is accepted; shown for the endorsement hierarchy, or after the owner hierarchy was
switched off, it is not. -/
theorem relabelled_ticket_is_refused_endorsement :
    let authority := (ofConfig seededCrypto seededConfig).switched [(Handle.platform, false)]
    let endorsed := { ownerTicket with hierarchy := Handle.endorsement }
    let shown := TicketUse.verified [0xD1, 0x6E] [0x00, 0x0B]
    authority.verify seededCrypto ownerTicket shown = .ok () ∧
      ((∃ cause, authority.verify seededCrypto endorsed shown = .error cause) ∨
        seededCrypto.HmacCollides (proofInputs seededConfig.proofSeed) ∨
        ∃ proof proof', authority.proofFor Handle.owner = .ok proof ∧
          authority.proofFor Handle.endorsement = .ok proof' ∧
          seededCrypto.HmacCollides [(proof, be16 StructureTag.verified.code ++ shown.statement),
            (proof', be16 StructureTag.verified.code ++ shown.statement)]) ∧
      ∃ cause, ((ofConfig seededCrypto seededConfig).switched
        [(Handle.platform, false), (Handle.owner, false)]).verify seededCrypto ownerTicket shown
          = .error cause := by
  intro authority endorsed shown
  have hseed : seededConfig.proofSeed ≠ [] := List.cons_ne_nil _ _
  have hproof : authority.proofFor Handle.owner
      = .ok (proof seededCrypto seededConfig.proofSeed 0 Handle.owner) := rfl
  have hsign : authority.sign seededCrypto Handle.owner .verified shown.statement
      = .ok ownerTicket.digest.bytes := by
    rw [sign, hproof]
    rfl
  have hcheck : authority.check seededCrypto ownerTicket shown.statement = .ok () :=
    check_eq_ok_iff.mpr ⟨rfl, hsign⟩
  have haccept : authority.verify seededCrypto ownerTicket shown = .ok () := by
    show authority.verifyVerified seededCrypto ownerTicket [0xD1, 0x6E] [0x00, 0x0B] = .ok ()
    exact verifyVerified_eq_ok_iff.mpr ⟨rfl, hcheck⟩
  have hother : endorsed.hierarchy ≠ ownerTicket.hierarchy := by decide
  have hoff : lastSwitch [(Handle.platform, false), (Handle.owner, false)] ownerTicket.hierarchy
      ((ofConfig seededCrypto seededConfig).isEnabled ownerTicket.hierarchy) = false := by decide
  exact ⟨haccept,
    (relabelled_ticket_is_refused seededCrypto hseed [(Handle.platform, false)]).1 ownerTicket
      endorsed shown shown [] haccept rfl (.inr hother),
    (relabelled_ticket_is_refused seededCrypto hseed _).2 ownerTicket shown (.inr (.inr hoff))⟩

end TicketAuthority

end TrustedPlatform
