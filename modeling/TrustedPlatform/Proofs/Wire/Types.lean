import TrustedPlatform.Proofs.Wire.Domain

/-!
# The types of the wire

Whatever travels on the wire is of one of a few types, each with a domain: the values that fit the
limits of the type. A form shows where it ends, so that readers need not be told, and there is one
form for each value and one value for each form. `WireType.reads_exactly_forms` says so for all
the types at once.
-/

namespace TrustedPlatform

/-- The types with a form on the wire. -/
inductive WireType
  | octet
  | word16
  | word32
  | word64
  | int32
  | digest
  | nonce
  | authValue
  | eccParameter
  | name
  | encryptedSecret
  | rsaValue
  | timeout
  | algorithm
  | hashName
  | sessionKind
  | sessionAttributes
  | structureTag
  | pcrSelection
  | pcrSelections
  | symmetricDefinition
  | ticket
  | signature
  | authCommand
  | authResponse
  deriving DecidableEq, Repr

namespace WireType

/-- The values of a type, inside its limits and outside. -/
abbrev Value : WireType → Type
  | octet => UInt8
  | word16 => UInt16
  | word32 => UInt32
  | word64 => UInt64
  | int32 => Int32
  | digest => Digest
  | nonce => Nonce
  | authValue => AuthValue
  | eccParameter => EccParameter
  | name => Name
  | encryptedSecret => EncryptedSecret
  | rsaValue => RsaValue
  | timeout => Timeout
  | algorithm => AlgId
  | hashName => HashName
  | sessionKind => SessionKind
  | sessionAttributes => SessionAttributes
  | structureTag => StructureTag
  | pcrSelection => PcrSelection
  | pcrSelections => PcrSelections
  | symmetricDefinition => SymmetricDefinition
  | ticket => Ticket
  | signature => Signature
  | authCommand => AuthCommand
  | authResponse => AuthResponse

instance wire : (type : WireType) → Wire type.Value
  | octet => inferInstanceAs (Wire UInt8)
  | word16 => inferInstanceAs (Wire UInt16)
  | word32 => inferInstanceAs (Wire UInt32)
  | word64 => inferInstanceAs (Wire UInt64)
  | int32 => inferInstanceAs (Wire Int32)
  | digest => inferInstanceAs (Wire Digest)
  | nonce => inferInstanceAs (Wire Nonce)
  | authValue => inferInstanceAs (Wire AuthValue)
  | eccParameter => inferInstanceAs (Wire EccParameter)
  | name => inferInstanceAs (Wire Name)
  | encryptedSecret => inferInstanceAs (Wire EncryptedSecret)
  | rsaValue => inferInstanceAs (Wire RsaValue)
  | timeout => inferInstanceAs (Wire Timeout)
  | algorithm => inferInstanceAs (Wire AlgId)
  | hashName => inferInstanceAs (Wire HashName)
  | sessionKind => inferInstanceAs (Wire SessionKind)
  | sessionAttributes => inferInstanceAs (Wire SessionAttributes)
  | structureTag => inferInstanceAs (Wire StructureTag)
  | pcrSelection => inferInstanceAs (Wire PcrSelection)
  | pcrSelections => inferInstanceAs (Wire PcrSelections)
  | symmetricDefinition => inferInstanceAs (Wire SymmetricDefinition)
  | ticket => inferInstanceAs (Wire Ticket)
  | signature => inferInstanceAs (Wire Signature)
  | authCommand => inferInstanceAs (Wire AuthCommand)
  | authResponse => inferInstanceAs (Wire AuthResponse)

/-- The values of a type that are inside its limits. -/
def Domain : (type : WireType) → type.Value → Prop
  | octet | word16 | word32 | word64 | int32 => fun _ => True
  | algorithm | sessionKind | sessionAttributes | structureTag => fun _ => True
  | digest | nonce | authValue | eccParameter | name | encryptedSecret | rsaValue => Sized.Valid
  | timeout => Timeout.Valid
  | hashName => HashName.Valid
  | pcrSelection => PcrSelection.Valid
  | pcrSelections => PcrSelections.Valid
  | symmetricDefinition => SymmetricDefinition.Valid
  | ticket => Ticket.Valid
  | signature => Signature.Valid
  | authCommand => AuthCommand.Valid
  | authResponse => AuthResponse.Valid

/-- A value is read and the rest left unread exactly if the value is in the domain of its type and
the input is its form, followed by the rest. -/
theorem reads_exactly_forms (type : WireType) (input rest : Bytes) (v : type.Value) :
    (Wire.read : Reader type.Value) input = .ok v rest ↔
      type.Domain v ∧ input = Wire.write v ++ rest := by
  cases type <;> exact Wire.read_eq_ok_iff

end WireType

end TrustedPlatform
