import TrustedPlatform.Wire

/-!
# Layouts

A layout is the form of one command's request or response: a fixed number of handles and an
ordered list of parameters. The parameters are given as nested pairs of wire types ending in
`Unit`, so the readers and writers of all layouts are the two functions of `FieldList`, and a
parameter that cannot be read is reported with its position.
-/

namespace TrustedPlatform

/-- A list of wire fields, as nested pairs ending in `Unit`. -/
class FieldList (α : Type) where
  /-- The fields, one after the other. -/
  write : α → Bytes
  /-- Reads the fields, of which the first is parameter `index`. -/
  read : (index : UInt8) → EStateM Fault Bytes α

namespace FieldList

/-- Reads one value; a failure is attributed to parameter `index`. -/
def readParameter {α : Type} (index : UInt8) (reader : Reader α) : EStateM Fault Bytes α :=
  fun unread =>
    match reader unread with
    | .ok value rest => .ok value rest
    | .error cause rest => .error (cause.atParameter index) rest

instance : FieldList Unit where
  write _ := []
  read _ := return ()

instance {α β : Type} [Wire α] [FieldList β] : FieldList (α × β) where
  write fields := Wire.write fields.1 ++ write fields.2
  read index := do
    let first ← readParameter index Wire.read
    let others ← read (index + 1)
    return (first, others)

end FieldList

/-- The form of a request or a response. -/
class Layout (α : Type) where
  /-- The parameters, as a list of fields. -/
  Fields : Type
  fieldList : FieldList Fields
  /-- The number of handles. -/
  handleCount : Nat
  /-- The handles of a value. -/
  handles : α → List UInt32
  /-- The parameters of a value. -/
  fields : α → Fields
  /-- The value with these handles and parameters; none if the number of handles is wrong. -/
  ofParts? : List UInt32 → Fields → Option α

namespace Layout

variable {α : Type} [Layout α]

/-- The handle area of a value. -/
def handleArea (value : α) : Bytes :=
  (handles value).flatMap be32

/-- The parameter area of a value. -/
def parameterArea (value : α) : Bytes :=
  fieldList.write (fields value)

/-- Reads the parameters that go with `handles`; what follows them is left unread. -/
def read (α : Type) [Layout α] (handles : List UInt32) : EStateM Fault Bytes α := do
  if handles.length ≠ handleCount α then throw Cause.failure.unattributed
  let fields ← (fieldList : FieldList (Fields α)).read 1
  match ofParts? handles fields with
  | some value => return value
  | none => throw Cause.failure.unattributed

/-- The value whose handles are `handles` and whose parameters make up all of `area`. -/
def ofAreas (α : Type) [Layout α] (handles : List UInt32) (area : Bytes) : Except Fault α :=
  match read α handles area with
  | .ok value [] => .ok value
  | .ok _ _ => .error Cause.size.unattributed
  | .error fault _ => .error fault

end Layout

end TrustedPlatform
