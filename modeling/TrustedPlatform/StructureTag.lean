import TrustedPlatform.Wire

/-!
# Structure tags

The tags of command envelopes and of tickets.
-/

namespace TrustedPlatform

/-- What kind of structure follows. -/
inductive StructureTag
  | null
  | noSessions
  | sessions
  | verified
  | authSecret
  | authSigned
  | rspCommand
  deriving DecidableEq, Repr

namespace StructureTag

/-- Every tag. -/
def all : List StructureTag :=
  [null, noSessions, sessions, verified, authSecret, authSigned, rspCommand]

/-- The number of a tag. -/
def code : StructureTag → UInt16
  | null => 0x8000
  | noSessions => 0x8001
  | sessions => 0x8002
  | verified => 0x8022
  | authSecret => 0x8023
  | authSigned => 0x8025
  | rspCommand => 0x00C4

/-- The name of a tag. -/
def name : StructureTag → String
  | null => "Null"
  | noSessions => "NoSessions"
  | sessions => "Sessions"
  | verified => "Verified"
  | authSecret => "AuthSecret"
  | authSigned => "AuthSigned"
  | rspCommand => "RspCommand"

/-- The tag a number stands for. -/
def ofCode? (code : UInt16) : Option StructureTag :=
  all.find? (·.code = code)

theorem ofCode?_code (tag : StructureTag) : ofCode? tag.code = some tag := by
  cases tag <;> decide

theorem code_of_ofCode? {c : UInt16} {tag : StructureTag} (h : ofCode? c = some tag) :
    tag.code = c := by
  simpa using List.find?_some h

instance : Wire StructureTag where
  write tag := be16 tag.code
  read := do
    match ofCode? (← Reader.word16) with
    | some tag => return tag
    | none => throw .value

end StructureTag

end TrustedPlatform
