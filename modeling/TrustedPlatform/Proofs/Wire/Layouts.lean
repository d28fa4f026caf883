import TrustedPlatform.CommandSet
import TrustedPlatform.Proofs.Wire.Canonical

/-!
# Layouts as codecs

Reading and writing the areas of a request or a response are inverse to each other on the values
whose parameters are all in the domain of their type. A value with a parameter outside it is never
read back as another one, except that fields which are not written come back as readers put them.
-/

namespace TrustedPlatform

/-! ## Lists of fields -/

namespace FieldList

theorem readParameter_eq_ok_iff {α : Type} {index : UInt8} {reader : Reader α}
    {input rest : Bytes} {v : α} :
    readParameter index reader input = .ok v rest ↔ reader input = .ok v rest := by
  unfold readParameter
  cases hread : reader input <;> simp

/-- A list of fields that is read and written as its fields are. -/
class Shows (α : Type) [FieldList α] where
  /-- Every field is in the domain of its type. -/
  Valid : α → Prop
  /-- The fields, each in its canonical form. -/
  canonical : α → α
  /-- Octets of the longest form of fields in their domains. -/
  maxLength : Nat
  /-- Octets of the shortest form in which a length may have been cut. -/
  horizon : Nat
  read_eq_ok_iff : ∀ {index : UInt8} {input rest : Bytes} {v : α},
    FieldList.read index input = .ok v rest ↔ Valid v ∧ input = FieldList.write v ++ rest
  canonical_of_valid : ∀ {v : α}, Valid v → canonical v = v
  write_canonical : ∀ v : α, FieldList.write (canonical v) = FieldList.write v
  length_write_le : ∀ {v : α}, Valid v → (FieldList.write v).length ≤ maxLength
  eq_canonical : ∀ {v w : α}, (FieldList.write v).length < horizon → Valid w →
    FieldList.write v = FieldList.write w → w = canonical v

instance : Shows Unit where
  Valid _ := True
  canonical _ := ()
  maxLength := 0
  horizon := 2 ^ 16
  read_eq_ok_iff {_ _ _ _} := by
    refine EStateM.pure_eq_ok_iff.trans ?_
    simp [FieldList.write]
  canonical_of_valid _ := rfl
  write_canonical _ := rfl
  length_write_le _ := Nat.le_refl 0
  eq_canonical _ _ _ := rfl

variable {α β : Type} [Wire α] [Wire.Shows α] [FieldList β] [Shows β]

theorem read_pair_eq_ok_iff {index : UInt8} {input rest : Bytes} {v : α × β} :
    FieldList.read index input = .ok v rest ↔
      (Wire.Valid v.1 ∧ Shows.Valid v.2) ∧ input = FieldList.write v ++ rest := by
  constructor
  · intro h
    obtain ⟨first, _, hfirst, h⟩ := EStateM.bind_eq_ok_iff.mp h
    obtain ⟨others, _, hothers, h⟩ := EStateM.bind_eq_ok_iff.mp h
    obtain ⟨rfl, rfl⟩ := EStateM.pure_eq_ok_iff.mp h
    obtain ⟨hvalid, rfl⟩ := Wire.read_eq_ok_iff.mp (readParameter_eq_ok_iff.mp hfirst)
    obtain ⟨hvalids, rfl⟩ := Shows.read_eq_ok_iff.mp hothers
    exact ⟨⟨hvalid, hvalids⟩, (List.append_assoc ..).symm⟩
  · rintro ⟨⟨hvalid, hvalids⟩, rfl⟩
    have hfirst : readParameter index Wire.read (FieldList.write v ++ rest) =
        .ok v.1 (FieldList.write v.2 ++ rest) :=
      readParameter_eq_ok_iff.mpr (Wire.read_eq_ok_iff.mpr ⟨hvalid, List.append_assoc ..⟩)
    have hothers : FieldList.read (index + 1) (FieldList.write v.2 ++ rest) = .ok v.2 rest :=
      Shows.read_eq_ok_iff.mpr ⟨hvalids, rfl⟩
    refine EStateM.bind_eq_ok_iff.mpr ⟨_, _, hfirst, ?_⟩
    exact EStateM.bind_eq_ok_iff.mpr ⟨_, _, hothers, rfl⟩

instance : Shows (α × β) where
  Valid v := Wire.Valid v.1 ∧ Shows.Valid v.2
  canonical v := (Wire.canonical v.1, Shows.canonical v.2)
  maxLength := Wire.Shows.maxLength α + Shows.maxLength β
  horizon := min (Wire.Shows.horizon α) (Shows.horizon β)
  read_eq_ok_iff := read_pair_eq_ok_iff
  canonical_of_valid h :=
    Prod.ext (Wire.Shows.canonical_of_valid h.1) (Shows.canonical_of_valid h.2)
  write_canonical v :=
    congrArg₂ (· ++ ·) (Wire.Shows.write_canonical v.1) (Shows.write_canonical v.2)
  length_write_le {v} h := by
    have hfirst := Wire.Shows.length_write_le h.1
    have hothers := Shows.length_write_le h.2
    show (Wire.write v.1 ++ FieldList.write v.2).length ≤ _
    rw [List.length_append]
    omega
  eq_canonical {v w} hlt hw h := by
    have hlength : (Wire.write v.1).length + (FieldList.write v.2).length <
        min (Wire.Shows.horizon α) (Shows.horizon β) := by
      rw [← List.length_append]
      exact hlt
    have hhorizon := Nat.lt_min.mp hlength
    obtain ⟨hfirst, hrest⟩ := Wire.eq_canonical_and_rest (by omega) hw.1 h
    exact Prod.ext hfirst (Shows.eq_canonical (by omega) hw.2 hrest)

end FieldList

/-! ## Layouts -/

/-- A layout that is put together out of as many handles as it has, and out of fields that are
read and written as such. -/
class Layout.Shows (α : Type) [Layout α] where
  fields : @FieldList.Shows (Layout.Fields α) Layout.fieldList
  /-- The value, with each parameter in its canonical form. -/
  canonical : α → α := fun v => v
  handles_canonical : ∀ v : α, Layout.handles (canonical v) = Layout.handles v := by
    exact fun _ => rfl
  fields_canonical : ∀ v : α, Layout.fields (canonical v) = fields.canonical (Layout.fields v) := by
    exact fun _ => rfl
  length_handles : ∀ v : α, (Layout.handles v).length = Layout.handleCount α := by
    exact fun _ => rfl
  ofParts?_handles_fields : ∀ v : α,
    Layout.ofParts? (Layout.handles v) (Layout.fields v) = some v := by exact fun _ => rfl
  of_ofParts? : ∀ {handles : List UInt32} {parameters : Layout.Fields α} {v : α},
    Layout.ofParts? handles parameters = some v →
      handles = Layout.handles v ∧ parameters = Layout.fields v
  /-- No form of a value of the domain is long enough that a length in it may have been cut. -/
  maxLength_lt_horizon : fields.maxLength < fields.horizon := by decide

namespace Layout

/-- The laws of the fields of a layout. -/
abbrev fieldLaws (α : Type) [Layout α] [Shows α] : @FieldList.Shows (Fields α) fieldList :=
  Shows.fields

variable {α : Type} [Layout α] [Shows α]

/-- Every parameter of the value is in the domain of its type. -/
def Valid (v : α) : Prop := (fieldLaws α).Valid (fields v)

theorem length_handleArea (v : α) : (handleArea v).length = 4 * handleCount α := by
  have hsum : (handleArea v).length = 4 * (handles v).length := by
    simp only [handleArea, List.length_flatMap, length_be32, List.map_const',
      List.sum_replicate_nat, Nat.mul_comm]
  rw [hsum, Shows.length_handles]

/-- The parameters that are read are those of a value of the domain, with its handles. -/
theorem read_eq_ok_iff {hs : List UInt32} {input rest : Bytes} {v : α} :
    read α hs input = .ok v rest ↔ Valid v ∧ hs = handles v ∧ input = parameterArea v ++ rest := by
  unfold read
  constructor
  · intro h
    obtain ⟨hcount, h⟩ := EStateM.ite_throw_bind_eq_ok_iff.mp h
    obtain ⟨parameters, _, hparameters, h⟩ := EStateM.bind_eq_ok_iff.mp h
    cases hparts : ofParts? hs parameters with
    | none =>
      rw [hparts] at h
      exact (EStateM.throw_eq_ok_iff.mp h).elim
    | some _ =>
      rw [hparts] at h
      obtain ⟨rfl, rfl⟩ := EStateM.pure_eq_ok_iff.mp h
      obtain ⟨rfl, rfl⟩ := Shows.of_ofParts? hparts
      obtain ⟨hvalid, hinput⟩ := Shows.fields.read_eq_ok_iff.mp hparameters
      exact ⟨hvalid, rfl, hinput⟩
  · rintro ⟨hvalid, rfl, rfl⟩
    have hcount : ¬(handles v).length ≠ handleCount α := not_not.mpr (Shows.length_handles v)
    have hparameters : fieldList.read 1 (parameterArea v ++ rest) = .ok (fields v) rest :=
      Shows.fields.read_eq_ok_iff.mpr ⟨hvalid, rfl⟩
    refine EStateM.ite_throw_bind_eq_ok_iff.mpr ⟨hcount, ?_⟩
    refine EStateM.bind_eq_ok_iff.mpr ⟨_, _, hparameters, ?_⟩
    rw [Shows.ofParts?_handles_fields]
    rfl

/-- Areas are accepted exactly if they are those of a value of the domain. -/
theorem ofAreas_eq_ok_iff {hs : List UInt32} {area : Bytes} {v : α} :
    ofAreas α hs area = .ok v ↔ Valid v ∧ hs = handles v ∧ area = parameterArea v := by
  have hread : ofAreas α hs area = .ok v ↔ read α hs area = .ok v [] := by
    unfold ofAreas
    cases read α hs area with
    | ok _ rest => cases rest <;> simp
    | error _ _ => simp
  rw [hread, read_eq_ok_iff, List.append_nil]

theorem ext {v w : α} (hhandles : handles v = handles w) (hfields : fields v = fields w) : v = w := by
  have hparts : ofParts? (handles v) (fields v) = ofParts? (handles w) (fields w) := by
    rw [hhandles, hfields]
  rw [Shows.ofParts?_handles_fields, Shows.ofParts?_handles_fields] at hparts
  exact Option.some.inj hparts

theorem canonical_of_valid {v : α} (h : Valid v) : Shows.canonical v = v :=
  ext (Shows.handles_canonical v)
    ((Shows.fields_canonical v).trans (Shows.fields.canonical_of_valid h))

/-- What is set to its canonical form is not written. -/
theorem parameterArea_canonical (v : α) : parameterArea (Shows.canonical v) = parameterArea v := by
  unfold parameterArea
  rw [Shows.fields_canonical]
  exact Shows.fields.write_canonical (fields v)

/-- Reading the areas of any value gives its canonical form, if that is in the domain, and nothing
otherwise. -/
theorem ofAreas_written_eq_ok_iff {v w : α} :
    ofAreas α (handles v) (parameterArea v) = .ok w ↔ w = Shows.canonical v ∧ Valid w := by
  rw [ofAreas_eq_ok_iff]
  constructor
  · rintro ⟨hvalid, hhandles, harea⟩
    have hlt : (parameterArea v).length < (fieldLaws α).horizon := by
      have hle := Shows.fields.length_write_le hvalid
      have hhorizon := (Shows.maxLength_lt_horizon : (fieldLaws α).maxLength < (fieldLaws α).horizon)
      rw [harea]
      exact Nat.lt_of_le_of_lt hle hhorizon
    refine ⟨ext ?_ ?_, hvalid⟩
    · rw [Shows.handles_canonical, hhandles]
    · rw [Shows.fields_canonical]
      exact Shows.fields.eq_canonical hlt hvalid harea
  · rintro ⟨rfl, hvalid⟩
    exact ⟨hvalid, (Shows.handles_canonical v).symm, (parameterArea_canonical v).symm⟩

/-- The two directions of a layout are inverse to each other, up to `canonical`. -/
structure Faithful (α : Type) [Layout α] [Shows α] (canonical : α → α) : Prop where
  /-- What is written for a value of the domain is read as that value. -/
  of_valid : ∀ v : α, Valid v → ofAreas α (handles v) (parameterArea v) = .ok v
  /-- What is written for any value is read as its canonical form, if that is in the domain, and
  as nothing else. -/
  of_written : ∀ v w : α,
    ofAreas α (handles v) (parameterArea v) = .ok w ↔ w = canonical v ∧ Valid w
  /-- What is read is what is written for the value that is read. -/
  of_read : ∀ (hs : List UInt32) (area : Bytes) (v : α), ofAreas α hs area = .ok v →
    handles v = hs ∧ parameterArea v = area

theorem faithful : Faithful α Shows.canonical where
  of_valid _ hvalid := ofAreas_eq_ok_iff.mpr ⟨hvalid, rfl, rfl⟩
  of_written _ _ := ofAreas_written_eq_ok_iff
  of_read _ _ _ h := by
    obtain ⟨_, rfl, rfl⟩ := ofAreas_eq_ok_iff.mp h
    exact ⟨rfl, rfl⟩

end Layout

/-! ## The layouts of the commands -/

instance : Layout.Shows EmptyResponse where
  fields := inferInstanceAs (FieldList.Shows (Unit))
  of_ofParts? {handles _ _} h :=
    match handles, h with
    | [], rfl => ⟨rfl, rfl⟩

/-- The request, with the fields of its symmetric definition that are not written as in the null
definition. -/
def StartAuthSessionRequest.canonical (r : StartAuthSessionRequest) : StartAuthSessionRequest :=
  { r with symmetric := r.symmetric.canonical }

instance : Layout.Shows StartAuthSessionRequest where
  fields := inferInstanceAs
    (FieldList.Shows
      (Nonce × EncryptedSecret × SessionKind × SymmetricDefinition × HashName × Unit))
  canonical := StartAuthSessionRequest.canonical
  of_ofParts? {handles _ _} h :=
    match handles, h with
    | [_, _], rfl => ⟨rfl, rfl⟩

instance : Layout.Shows StartAuthSessionResponse where
  fields := inferInstanceAs (FieldList.Shows (Nonce × Unit))
  of_ofParts? {handles _ _} h :=
    match handles, h with
    | [_], rfl => ⟨rfl, rfl⟩

instance : Layout.Shows FlushContextRequest where
  fields := inferInstanceAs (FieldList.Shows (UInt32 × Unit))
  of_ofParts? {handles _ _} h :=
    match handles, h with
    | [], rfl => ⟨rfl, rfl⟩

instance : Layout.Shows PolicyAuthValueRequest where
  fields := inferInstanceAs (FieldList.Shows (Unit))
  of_ofParts? {handles _ _} h :=
    match handles, h with
    | [_], rfl => ⟨rfl, rfl⟩

instance : Layout.Shows PolicyPasswordRequest where
  fields := inferInstanceAs (FieldList.Shows (Unit))
  of_ofParts? {handles _ _} h :=
    match handles, h with
    | [_], rfl => ⟨rfl, rfl⟩

instance : Layout.Shows PolicyCommandCodeRequest where
  fields := inferInstanceAs (FieldList.Shows (UInt32 × Unit))
  of_ofParts? {handles _ _} h :=
    match handles, h with
    | [_], rfl => ⟨rfl, rfl⟩

instance : Layout.Shows PolicyPcrRequest where
  fields := inferInstanceAs (FieldList.Shows (Digest × PcrSelections × Unit))
  of_ofParts? {handles _ _} h :=
    match handles, h with
    | [_], rfl => ⟨rfl, rfl⟩

instance : Layout.Shows PolicyAuthorizeRequest where
  fields := inferInstanceAs (FieldList.Shows (Digest × Nonce × Name × Ticket × Unit))
  of_ofParts? {handles _ _} h :=
    match handles, h with
    | [_], rfl => ⟨rfl, rfl⟩

instance : Layout.Shows PolicyTicketRequest where
  fields := inferInstanceAs (FieldList.Shows (Timeout × Digest × Nonce × Name × Ticket × Unit))
  of_ofParts? {handles _ _} h :=
    match handles, h with
    | [_], rfl => ⟨rfl, rfl⟩

instance : Layout.Shows PolicySignedRequest where
  fields := inferInstanceAs (FieldList.Shows (Nonce × Digest × Nonce × Int32 × Signature × Unit))
  of_ofParts? {handles _ _} h :=
    match handles, h with
    | [_, _], rfl => ⟨rfl, rfl⟩

instance : Layout.Shows PolicySignedResponse where
  fields := inferInstanceAs (FieldList.Shows (Timeout × Ticket × Unit))
  of_ofParts? {handles _ _} h :=
    match handles, h with
    | [], rfl => ⟨rfl, rfl⟩

instance : Layout.Shows PolicyGetDigestRequest where
  fields := inferInstanceAs (FieldList.Shows (Unit))
  of_ofParts? {handles _ _} h :=
    match handles, h with
    | [_], rfl => ⟨rfl, rfl⟩

instance : Layout.Shows PolicyGetDigestResponse where
  fields := inferInstanceAs (FieldList.Shows (Digest × Unit))
  of_ofParts? {handles _ _} h :=
    match handles, h with
    | [], rfl => ⟨rfl, rfl⟩

instance : Layout.Shows VerifySignatureRequest where
  fields := inferInstanceAs (FieldList.Shows (Digest × Signature × Unit))
  of_ofParts? {handles _ _} h :=
    match handles, h with
    | [_], rfl => ⟨rfl, rfl⟩

instance : Layout.Shows VerifySignatureResponse where
  fields := inferInstanceAs (FieldList.Shows (Ticket × Unit))
  of_ofParts? {handles _ _} h :=
    match handles, h with
    | [], rfl => ⟨rfl, rfl⟩

/-- A timeout that was read is empty or shows when it expires. -/
theorem PolicyTicketRequest.timeout_of_ofAreas {handles : List UInt32} {area : Bytes}
    {r : PolicyTicketRequest} (h : Layout.ofAreas PolicyTicketRequest handles area = .ok r) :
    r.timeout = .empty ∨ r.timeout.bytes.length = timeoutSize := by
  obtain ⟨⟨htimeout, _⟩, _⟩ := Layout.ofAreas_eq_ok_iff.mp h
  exact htimeout

namespace Command

instance requestShows : (command : Command) → Layout.Shows command.Request
  | startAuthSession => inferInstanceAs (Layout.Shows StartAuthSessionRequest)
  | flushContext => inferInstanceAs (Layout.Shows FlushContextRequest)
  | policyAuthValue => inferInstanceAs (Layout.Shows PolicyAuthValueRequest)
  | policyPassword => inferInstanceAs (Layout.Shows PolicyPasswordRequest)
  | policyCommandCode => inferInstanceAs (Layout.Shows PolicyCommandCodeRequest)
  | policyPcr => inferInstanceAs (Layout.Shows PolicyPcrRequest)
  | policyAuthorize => inferInstanceAs (Layout.Shows PolicyAuthorizeRequest)
  | policyTicket => inferInstanceAs (Layout.Shows PolicyTicketRequest)
  | policySigned => inferInstanceAs (Layout.Shows PolicySignedRequest)
  | policyGetDigest => inferInstanceAs (Layout.Shows PolicyGetDigestRequest)
  | verifySignature => inferInstanceAs (Layout.Shows VerifySignatureRequest)

instance responseShows : (command : Command) → Layout.Shows command.Response
  | startAuthSession => inferInstanceAs (Layout.Shows StartAuthSessionResponse)
  | policySigned => inferInstanceAs (Layout.Shows PolicySignedResponse)
  | policyGetDigest => inferInstanceAs (Layout.Shows PolicyGetDigestResponse)
  | verifySignature => inferInstanceAs (Layout.Shows VerifySignatureResponse)
  | flushContext => inferInstanceAs (Layout.Shows EmptyResponse)
  | policyAuthValue => inferInstanceAs (Layout.Shows EmptyResponse)
  | policyPassword => inferInstanceAs (Layout.Shows EmptyResponse)
  | policyCommandCode => inferInstanceAs (Layout.Shows EmptyResponse)
  | policyPcr => inferInstanceAs (Layout.Shows EmptyResponse)
  | policyAuthorize => inferInstanceAs (Layout.Shows EmptyResponse)
  | policyTicket => inferInstanceAs (Layout.Shows EmptyResponse)

/-- The request of a command as readers give it: only a request to open a session has fields that
are not written. -/
def canonicalRequest : (command : Command) → command.Request → command.Request
  | startAuthSession, r => StartAuthSessionRequest.canonical r
  | _, r => r

/-- Every request and every response is read back from its areas; one with a field outside its
domain is refused, and not taken for another one. -/
theorem layouts_faithful (command : Command) :
    Layout.Faithful command.Request command.canonicalRequest ∧
      Layout.Faithful command.Response id := by
  constructor
  · have hcanonical : command.canonicalRequest = Layout.Shows.canonical := by
      cases command <;> rfl
    rw [hcanonical]
    exact Layout.faithful
  · have hcanonical : id = (Layout.Shows.canonical : command.Response → command.Response) := by
      cases command <;> rfl
    rw [hcanonical]
    exact Layout.faithful

-- the domain of a layout is that of its parameters; any number is one of the domain
example (r : PolicySignedRequest) :
    Layout.Valid r = (r.nonceTpm.Valid ∧ r.cpHashA.Valid ∧ r.policyRef.Valid ∧ True ∧
      r.auth.Valid ∧ True) := rfl

end Command

end TrustedPlatform
