import TrustedPlatform.Proofs.Wire.Layouts
import TrustedPlatform.Proofs.Wire.Piecewise

/-!
# Areas that end too early or too late

A parameter area that was cut is refused for its size and for nothing else, wherever it was cut:
between two parameters, inside a list, or between a length and its octets. The refusal names the
parameter in which the first missing octet lies. An area with octets behind its last parameter is
refused for its size too, and no parameter is to blame.
-/

namespace TrustedPlatform

/-- The piece in which octet `offset` of all the pieces lies; both are counted from 0. -/
def pieceAt : (pieces : List Bytes) → (offset : Nat) → Nat
  | [], _ => 0
  | piece :: pieces, offset =>
    if offset < piece.length then 0 else pieceAt pieces (offset - piece.length) + 1

/-- The piece begins at or before the octet, and ends behind it. -/
theorem lies_in_pieceAt {pieces : List Bytes} {offset : Nat} (h : offset < pieces.flatten.length) :
    (pieces.take (pieceAt pieces offset)).flatten.length ≤ offset ∧
      offset < (pieces.take (pieceAt pieces offset + 1)).flatten.length := by
  induction pieces generalizing offset with
  | nil => exact absurd h (Nat.not_lt_zero offset)
  | cons piece pieces ih =>
    rw [List.flatten_cons, List.length_append] at h
    unfold pieceAt
    split
    · rename_i hfirst
      refine ⟨Nat.zero_le offset, ?_⟩
      rw [List.take_succ_cons, List.take_zero, List.flatten_cons, List.flatten_nil, List.append_nil]
      exact hfirst
    · have hrest := @ih (offset - piece.length) (by omega)
      simp only [List.take_succ_cons, List.flatten_cons, List.length_append]
      omega

theorem pieceAt_lt {pieces : List Bytes} {offset : Nat} (h : offset < pieces.flatten.length) :
    pieceAt pieces offset < pieces.length := by
  -- past the last piece there is nothing the octet could lie in
  obtain ⟨hbegin, _⟩ := lies_in_pieceAt h
  by_contra hpast
  rw [List.take_of_length_le (Nat.not_lt.mp hpast)] at hbegin
  omega

/-! ## One value -/

namespace Wire

variable {α : Type} [Wire α] [Lawful α] [Wire.Piecewise α]

/-- A form that was cut is refused for its size. -/
theorem read_take {v : α} {n : Nat} (hv : Valid v) (hn : n < (Wire.write v).length) :
    ∃ rest, (Wire.read : Reader α) ((Wire.write v).take n) = .error .size rest := by
  have hsplit : (Wire.write v).take n ++ (Wire.write v).drop n = Wire.write v :=
    List.take_append_drop n _
  have hwhole : (Wire.read : Reader α) (Wire.write v) = .ok v [] :=
    read_eq_ok_iff.mpr ⟨hv, (List.append_nil _).symm⟩
  cases hread : (Wire.read : Reader α) ((Wire.write v).take n) with
  | ok w rest =>
    -- the octets that were cut off would be left unread of the whole form
    have hmore : (Wire.read : Reader α) ((Wire.write v).take n ++ (Wire.write v).drop n) =
        .ok w (rest ++ (Wire.write v).drop n) := Piecewise.read.append_of_ok hread
    rw [hsplit, hwhole] at hmore
    injection hmore with _ hrest
    have hlength := congrArg List.length hrest
    rw [List.length_append, List.length_drop, List.length_nil] at hlength
    omega
  | error cause rest =>
    by_cases hcause : cause = .size
    · rw [hcause]
      exact ⟨rest, rfl⟩
    · have hmore : (Wire.read : Reader α) ((Wire.write v).take n ++ (Wire.write v).drop n) =
          .error cause (rest ++ (Wire.write v).drop n) :=
        Piecewise.read.append_of_error hread hcause
      rw [hsplit, hwhole] at hmore
      cases hmore

end Wire

/-! ## Lists of fields -/

/-- A list of fields that shows which field is incomplete. -/
class FieldList.Pieces (α : Type) [FieldList α] [FieldList.Shows α] where
  /-- What is written for each field. -/
  pieces : α → List Bytes
  /-- How many fields there are. -/
  count : Nat
  length_pieces : ∀ v : α, (pieces v).length = count
  flatten_pieces : ∀ v : α, (pieces v).flatten = FieldList.write v
  /-- A cut shows as a size that is wrong, at the field the first missing octet is of. -/
  read_take : ∀ {v : α} {n : Nat} (index : UInt8), FieldList.Shows.Valid v →
    n < (FieldList.write v).length → ∃ rest,
      (FieldList.read index : EStateM Fault Bytes α) ((FieldList.write v).take n) =
        .error (Cause.size.atParameter (index + UInt8.ofNat (pieceAt (pieces v) n))) rest

namespace FieldList.Pieces

instance : FieldList.Pieces Unit where
  pieces _ := []
  count := 0
  length_pieces _ := rfl
  flatten_pieces _ := rfl
  read_take _ _ hn := absurd hn (Nat.not_lt_zero _)

variable {α β : Type} [Wire α] [Wire.Shows α] [Wire.Piecewise α] [FieldList β] [FieldList.Shows β]
  [FieldList.Pieces β]

/-- A cut within the first field shows there; behind it, the other fields show it. -/
theorem read_take_pair {v : α × β} {n : Nat} (index : UInt8) (hv : FieldList.Shows.Valid v)
    (hn : n < (FieldList.write v).length) :
    ∃ rest, (FieldList.read index : EStateM Fault Bytes (α × β)) ((FieldList.write v).take n) =
      .error (Cause.size.atParameter
        (index + UInt8.ofNat (pieceAt (Wire.write v.1 :: pieces v.2) n))) rest := by
  obtain ⟨hfirst, hothers⟩ : Wire.Valid v.1 ∧ FieldList.Shows.Valid v.2 := hv
  have hwrite : FieldList.write v = Wire.write v.1 ++ FieldList.write v.2 := rfl
  unfold pieceAt
  split
  · rename_i hinside
    rw [hwrite, List.take_append_of_le_length (Nat.le_of_lt hinside)]
    obtain ⟨rest, hread⟩ := Wire.read_take hfirst hinside
    have hparameter : readParameter index (Wire.read : Reader α) ((Wire.write v.1).take n) =
        .error (Cause.size.atParameter index) rest := by
      rw [readParameter, hread]
    refine ⟨rest, (EStateM.bind_of_error hparameter).trans ?_⟩
    rw [show UInt8.ofNat 0 = 0 from rfl, UInt8.add_zero]
  · rename_i hbehind
    have hparameter : readParameter index Wire.read
        (Wire.write v.1 ++ (FieldList.write v.2).take (n - (Wire.write v.1).length)) =
          .ok v.1 ((FieldList.write v.2).take (n - (Wire.write v.1).length)) :=
      readParameter_eq_ok_iff.mpr (Wire.read_eq_ok_iff.mpr ⟨hfirst, rfl⟩)
    have hn' : n - (Wire.write v.1).length < (FieldList.write v.2).length := by
      rw [hwrite, List.length_append] at hn
      omega
    obtain ⟨rest, hread⟩ := read_take (index + 1) hothers hn'
    rw [hwrite, List.take_append, List.take_of_length_le (Nat.not_lt.mp hbehind)]
    refine ⟨rest, (EStateM.bind_of_ok hparameter).trans ((EStateM.bind_of_error hread).trans ?_)⟩
    rw [UInt8.add_assoc, UInt8.add_comm 1, UInt8.ofNat_add]
    rfl

instance : FieldList.Pieces (α × β) where
  pieces v := Wire.write v.1 :: pieces v.2
  count := count β + 1
  length_pieces v := congrArg (· + 1) (length_pieces v.2)
  flatten_pieces v := congrArg (Wire.write v.1 ++ ·) (flatten_pieces v.2)
  read_take := read_take_pair

end FieldList.Pieces

/-! ## Layouts -/

/-- A layout whose parameters show which of them is incomplete. -/
class Layout.Pieces (α : Type) [Layout α] [Layout.Shows α] where
  fields : @FieldList.Pieces (Layout.Fields α) Layout.fieldList (Layout.fieldLaws α)
  /-- The number of every parameter fits its octet. -/
  count_lt : fields.count < 2 ^ 8 := by decide

namespace Layout

variable {α : Type} [Layout α] [Shows α]

/-- An area with octets behind its last parameter is refused for its size, at no parameter. -/
theorem ofAreas_append {hs : List UInt32} {area more : Bytes} {v : α}
    (h : ofAreas α hs area = .ok v) (hmore : more ≠ []) :
    ofAreas α hs (area ++ more) = .error Cause.size.unattributed := by
  obtain ⟨hv, rfl, rfl⟩ := ofAreas_eq_ok_iff.mp h
  have hread : read α (handles v) (parameterArea v ++ more) = .ok v more :=
    read_eq_ok_iff.mpr ⟨hv, rfl, rfl⟩
  obtain ⟨first, others, rfl⟩ := List.exists_cons_of_ne_nil hmore
  rw [ofAreas, hread]

variable [Pieces α]

/-- What is written for each parameter of the value. -/
def pieces (v : α) : List Bytes := Pieces.fields.pieces (fields v)

theorem flatten_pieces (v : α) : (pieces v).flatten = parameterArea v :=
  Pieces.fields.flatten_pieces (fields v)

theorem length_pieces_lt (v : α) : (pieces v).length < 2 ^ 8 := by
  rw [pieces, Pieces.fields.length_pieces]
  exact Pieces.count_lt

/-- The parameters of an area that was cut are read up to the first one that is incomplete. -/
theorem read_take {v : α} {n : Nat} (hv : Valid v) (hn : n < (parameterArea v).length) :
    ∃ rest, read α (handles v) ((parameterArea v).take n) =
      .error (Cause.size.atParameter (1 + UInt8.ofNat (pieceAt (pieces v) n))) rest := by
  have hcount : ¬(handles v).length ≠ handleCount α := not_not.mpr (Shows.length_handles v)
  obtain ⟨rest, hread⟩ := Pieces.fields.read_take 1 hv hn
  refine ⟨rest, ?_⟩
  unfold read
  rw [if_neg hcount]
  exact EStateM.bind_of_error hread

/-- No two parameters have one number. -/
theorem toNat_parameter {v : α} {n : Nat} (hn : n < (parameterArea v).length) :
    (1 + UInt8.ofNat (pieceAt (pieces v) n)).toNat = pieceAt (pieces v) n + 1 := by
  rw [← flatten_pieces] at hn
  have hpiece := pieceAt_lt hn
  have hcount := length_pieces_lt v
  rw [UInt8.toNat_add, UInt8.toNat_ofNat', UInt8.toNat_one]
  omega

/-- An area that was cut is refused for its size, at the parameter of the first missing octet. -/
theorem ofAreas_of_prefix {hs : List UInt32} {area cut : Bytes} {v : α}
    (h : ofAreas α hs area = .ok v) (hcut : cut <+: area) (hne : cut ≠ area) :
    ∃ index : UInt8, index.toNat = pieceAt (pieces v) cut.length + 1 ∧
      ofAreas α hs cut = .error (Cause.size.atParameter index) := by
  obtain ⟨hv, rfl, rfl⟩ := ofAreas_eq_ok_iff.mp h
  have hlength : cut.length < (parameterArea v).length :=
    Nat.lt_of_le_of_ne hcut.length_le fun heq => hne (hcut.eq_of_length heq)
  obtain ⟨rest, hread⟩ := read_take hv hlength
  rw [← List.prefix_iff_eq_take.mp hcut] at hread
  refine ⟨_, toNat_parameter hlength, ?_⟩
  rw [ofAreas, hread]

end Layout

/-! ## Requests -/

namespace Command

/-- What is written for each parameter of a request. -/
instance requestPieces : (command : Command) → Layout.Pieces command.Request
  | startAuthSession => { fields := inferInstanceAs (FieldList.Pieces
      (Nonce × EncryptedSecret × SessionKind × SymmetricDefinition × HashName × Unit)) }
  | flushContext => { fields := inferInstanceAs (FieldList.Pieces (UInt32 × Unit)) }
  | policyAuthValue => { fields := inferInstanceAs (FieldList.Pieces Unit) }
  | policyPassword => { fields := inferInstanceAs (FieldList.Pieces Unit) }
  | policyCommandCode => { fields := inferInstanceAs (FieldList.Pieces (UInt32 × Unit)) }
  | policyPcr => { fields := inferInstanceAs (FieldList.Pieces (Digest × PcrSelections × Unit)) }
  | policyAuthorize => { fields := inferInstanceAs (FieldList.Pieces
      (Digest × Nonce × Name × Ticket × Unit)) }
  | policyTicket => { fields := inferInstanceAs (FieldList.Pieces
      (Timeout × Digest × Nonce × Name × Ticket × Unit)) }
  | policySigned => { fields := inferInstanceAs (FieldList.Pieces
      (Nonce × Digest × Nonce × Int32 × Signature × Unit)) }
  | policyGetDigest => { fields := inferInstanceAs (FieldList.Pieces Unit) }
  | verifySignature => { fields := inferInstanceAs (FieldList.Pieces (Digest × Signature × Unit)) }

/-- The parameter area of a request is the forms of its parameters. Cut anywhere, it is refused for
its size at the parameter of the first missing octet; with more octets behind it, it is refused for
its size at no parameter. -/
theorem ofAreas_cut_or_extended {command : Command} {handles : List UInt32} {area : Bytes}
    {r : command.Request} (h : Layout.ofAreas command.Request handles area = .ok r) :
    area = (Layout.pieces r).flatten ∧
      (∀ cut : Bytes, cut <+: area → cut ≠ area → ∃ index : UInt8,
        index.toNat = pieceAt (Layout.pieces r) cut.length + 1 ∧
          Layout.ofAreas command.Request handles cut =
            .error (Cause.size.atParameter index)) ∧
      ∀ more : Bytes, more ≠ [] →
        Layout.ofAreas command.Request handles (area ++ more) =
          .error Cause.size.unattributed := by
  obtain ⟨_, _, harea⟩ := Layout.ofAreas_eq_ok_iff.mp h
  refine ⟨harea.trans (Layout.flatten_pieces r).symm, ?_, ?_⟩
  · intro cut hcut hne
    exact Layout.ofAreas_of_prefix h hcut hne
  · intro more hmore
    exact Layout.ofAreas_append h hmore

/-- PCR 7 of one bank, with a digest of two octets. -/
def bankRequest : PolicyPcrRequest :=
  ⟨0x03000000, ⟨[0xaa, 0xbb]⟩, ⟨[⟨.sha256, [0x80, 0, 0]⟩]⟩⟩

/-- A list of PCRs that ends within the bitmap of its bank is refused at the second parameter; one
with an octet behind it, at none. -/
theorem ofAreas_cut_or_extended_bank :
    Layout.ofAreas policyPcr.Request [0x03000000]
        [0, 2, 0xaa, 0xbb, 0, 0, 0, 1, 0, 0x0b, 3, 0x80, 0, 0] = .ok bankRequest ∧
      Layout.ofAreas policyPcr.Request [0x03000000]
        [0, 2, 0xaa, 0xbb, 0, 0, 0, 1, 0, 0x0b, 3, 0x80] =
          .error (Cause.size.atParameter 2) ∧
      Layout.ofAreas policyPcr.Request [0x03000000]
        [0, 2, 0xaa, 0xbb, 0, 0, 0, 1, 0, 0x0b, 3, 0x80, 0, 0, 0xff] =
          .error Cause.size.unattributed := by
  have hread : Layout.ofAreas policyPcr.Request [0x03000000]
      [0, 2, 0xaa, 0xbb, 0, 0, 0, 1, 0, 0x0b, 3, 0x80, 0, 0] = .ok bankRequest := rfl
  obtain ⟨_, hcut, hextended⟩ := ofAreas_cut_or_extended hread
  refine ⟨hread, ?_, hextended [0xff] (by decide)⟩
  obtain ⟨index, hindex, hrefused⟩ :=
    hcut [0, 2, 0xaa, 0xbb, 0, 0, 0, 1, 0, 0x0b, 3, 0x80] ⟨[0, 0], rfl⟩ (by decide)
  have hsecond : index = 2 := UInt8.toNat_inj.mp hindex
  rw [hrefused, hsecond]

-- the pieces of a request are what is written for its parameters, one after the other
example (r : policyPcr.Request) : Layout.pieces r =
    [Wire.write (PolicyPcrRequest.pcrDigest r), Wire.write (PolicyPcrRequest.pcrs r)] := rfl

end Command

end TrustedPlatform
