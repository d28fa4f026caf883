import TrustedPlatform.Envelope.Builder
import TrustedPlatform.Proofs.Wire.Domain

/-!
# The grammar of request envelopes

Which octets a request with a number of handles is made up of: `Request.Makes`. An envelope is
cut into the areas it is made up of, and into no others; an envelope that no request makes up is
refused.
-/

namespace TrustedPlatform

/-! ## Headers -/

theorem StructureTag.ofRequestCode?_eq_some_iff {code : UInt16} {tag : StructureTag} :
    ofRequestCode? code = some tag ↔ code = tag.code ∧ (tag = .noSessions ∨ tag = .sessions) := by
  constructor
  · intro h
    unfold ofRequestCode? at h
    split at h
    · rename_i hcode
      cases h
      exact ⟨(code_of_ofCode? hcode).symm, .inl rfl⟩
    · rename_i hcode
      cases h
      exact ⟨(code_of_ofCode? hcode).symm, .inr rfl⟩
    · cases h
  · rintro ⟨rfl, rfl | rfl⟩
    · decide
    · decide

namespace RequestHeader

/-- The octets of a header. -/
def write (header : RequestHeader) : Bytes :=
  be16 header.tag.code ++ be32 header.size ++ be32 header.commandCode

@[simp] theorem length_write (header : RequestHeader) : header.write.length = headerSize := by
  simp [write, headerSize]

theorem write_injective : Function.Injective write := by
  intro header other h
  obtain ⟨hfront, hcode⟩ := List.append_inj' h (by rw [length_be32, length_be32])
  obtain ⟨htag, hsize⟩ := List.append_inj' hfront (by rw [length_be32, length_be32])
  have hword : header.tag.code = other.tag.code := by
    have hnat := congrArg Bytes.toNat htag
    rw [toNat_be16, toNat_be16] at hnat
    exact UInt16.toNat_inj.mp hnat
  have hkind : header.tag = other.tag := by
    have hsame := StructureTag.ofCode?_code header.tag
    rw [hword, StructureTag.ofCode?_code] at hsame
    exact (Option.some.inj hsame).symm
  cases header
  cases other
  exact (RequestHeader.mk.injEq ..).mpr ⟨hkind, be32_injective hsize, be32_injective hcode⟩

/-- A header tells the length of the envelope, and whether there is an authorization area. -/
theorem reader_eq_ok_iff {total : Nat} {input rest : Bytes} {header : RequestHeader} :
    reader total input = .ok header rest ↔
      (header.tag = .noSessions ∨ header.tag = .sessions) ∧ header.size.toNat = total ∧
        input = header.write ++ rest := by
  constructor
  · intro h
    obtain ⟨code, _, hcode, h⟩ := EStateM.bind_eq_ok_iff.mp h
    cases htag : StructureTag.ofRequestCode? code with
    | none =>
      rw [htag] at h
      exact (EStateM.throw_eq_ok_iff.mp h).elim
    | some tag =>
      rw [htag] at h
      obtain ⟨size, _, hsize, h⟩ := EStateM.bind_eq_ok_iff.mp h
      obtain ⟨htotal, h⟩ := EStateM.ite_throw_bind_eq_ok_iff.mp h
      obtain ⟨commandCode, _, hcommand, h⟩ := EStateM.bind_eq_ok_iff.mp h
      obtain ⟨rfl, rfl⟩ := EStateM.pure_eq_ok_iff.mp h
      obtain ⟨rfl, hkind⟩ := StructureTag.ofRequestCode?_eq_some_iff.mp htag
      obtain rfl := Reader.word16_eq_ok_iff.mp hcode
      obtain rfl := Reader.word32_eq_ok_iff.mp hsize
      obtain rfl := Reader.word32_eq_ok_iff.mp hcommand
      refine ⟨hkind, not_not.mp htotal, ?_⟩
      simp only [write, List.append_assoc]
  · rintro ⟨hkind, rfl, rfl⟩
    have htag := StructureTag.ofRequestCode?_eq_some_iff.mpr ⟨rfl, hkind⟩
    have hsize := Reader.Reads.word32 header.size
    have hcommand := Reader.Reads.word32 header.commandCode
    have hwrite : header.write =
        be16 header.tag.code ++ (be32 header.size ++ be32 header.commandCode) :=
      List.append_assoc ..
    rw [hwrite]
    refine (Reader.Reads.word16 header.tag.code).bind ?_ rest
    rw [htag]
    refine hsize.bind ?_
    rw [if_neg (not_not.mpr rfl)]
    exact hcommand.bind_pure

/-- A header is accepted exactly if it is the header of the whole envelope. -/
theorem parse_eq_ok_iff {envelope : Bytes} {header : RequestHeader} :
    parse envelope = .ok header ↔
      (header.tag = .noSessions ∨ header.tag = .sessions) ∧
        header.size.toNat = envelope.length ∧ ∃ body, envelope = header.write ++ body := by
  unfold parse
  constructor
  · intro h
    split at h
    · cases h
    · split at h
      · rename_i rest hread
        cases h
        obtain ⟨hkind, hsize, henvelope⟩ := reader_eq_ok_iff.mp hread
        exact ⟨hkind, hsize, rest, henvelope⟩
      · cases h
  · rintro ⟨hkind, hsize, body, henvelope⟩
    have hlong : ¬envelope.length < headerSize := by
      rw [henvelope, List.length_append, length_write]
      omega
    rw [if_neg hlong, reader_eq_ok_iff.mpr ⟨hkind, hsize, henvelope⟩]

/-- The command code of a header is the one that its envelope claims. -/
theorem claimedCommandCode_of_parse {envelope : Bytes} {header : RequestHeader}
    (h : parse envelope = .ok header) : claimedCommandCode envelope = header.commandCode := by
  obtain ⟨_, _, body, rfl⟩ := parse_eq_ok_iff.mp h
  have hlong : ¬(header.write ++ body).length < headerSize := by
    rw [List.length_append, length_write]
    omega
  have hcode : ((header.write ++ body).drop 6).take 4 = be32 header.commandCode := by
    have hfront : (be16 header.tag.code ++ be32 header.size).length = 6 := by simp
    rw [write, List.append_assoc, List.drop_left' hfront, List.take_left' (length_be32 _)]
  rw [claimedCommandCode, if_neg hlong, hcode, toNat_be32, UInt32.ofNat_toNat]

end RequestHeader

namespace Request

/-! ## Handles and authorization entries -/

theorem readHandles_eq_ok_iff {index : UInt8} {count : Nat} {input rest : Bytes}
    {handles : List UInt32} :
    readHandles index count input = .ok handles rest ↔
      handles.length = count ∧ input = handles.flatMap be32 ++ rest := by
  induction count generalizing index input handles with
  | zero =>
    refine EStateM.pure_eq_ok_iff.trans ?_
    constructor
    · rintro ⟨rfl, rfl⟩
      exact ⟨rfl, rfl⟩
    · rintro ⟨hlength, rfl⟩
      obtain rfl := List.length_eq_zero_iff.mp hlength
      exact ⟨rfl, rfl⟩
  | succ count ih =>
    unfold readHandles
    constructor
    · intro h
      split at h
      · cases h
      · rename_i handle _ hword
        obtain ⟨others, _, hothers, h⟩ := EStateM.bind_eq_ok_iff.mp h
        obtain ⟨rfl, rfl⟩ := EStateM.pure_eq_ok_iff.mp h
        obtain rfl := Reader.word32_eq_ok_iff.mp hword
        obtain ⟨rfl, rfl⟩ := ih.mp hothers
        refine ⟨rfl, ?_⟩
        rw [List.flatMap_cons, List.append_assoc]
    · rintro ⟨hlength, rfl⟩
      match handles, hlength with
      | handle :: handles, hlength =>
        have hothers : readHandles (index + 1) count (handles.flatMap be32 ++ rest) =
            .ok handles rest := ih.mpr ⟨Nat.succ.inj hlength, rfl⟩
        rw [List.flatMap_cons, List.append_assoc, Reader.Reads.word32]
        exact EStateM.bind_eq_ok_iff.mpr ⟨_, _, hothers, rfl⟩

theorem parseSessions_nil (index : UInt8) (room : Nat) : parseSessions index room [] = .ok [] := by
  cases room <;> rfl

/-- The form of an entry starts with its handle. -/
theorem write_auth_ne_nil (entry : AuthCommand) : Wire.write entry ≠ [] := by
  intro h
  have hlength := congrArg List.length h
  simp only [Wire.write, List.length_append, length_be32, List.length_nil] at hlength
  omega

/-- What is left to cut after an entry. -/
theorem parseSessions_of_read {index : UInt8} {room : Nat} {area rest : Bytes}
    {entry : AuthCommand} (h : (Wire.read : Reader AuthCommand) area = .ok entry rest) :
    parseSessions index (room + 1) area =
      do return entry :: (← parseSessions (index + 1) room rest) := by
  match area, h with
  | [], h =>
    obtain ⟨_, hnil⟩ := Wire.read_eq_ok_iff.mp h
    exact (write_auth_ne_nil entry (List.append_eq_nil_iff.mp hnil.symm).1).elim
  | _ :: _, h =>
    rw [parseSessions, h]
    exact List.cons_ne_nil _ _

/-- An area is cut into the entries whose forms fill it, if there are not too many of them. -/
theorem parseSessions_eq_ok_iff {index : UInt8} {room : Nat} {area : Bytes}
    {entries : List AuthCommand} :
    parseSessions index room area = .ok entries ↔
      entries.length ≤ room ∧ (∀ entry ∈ entries, entry.Valid) ∧
        area = entries.flatMap Wire.write := by
  induction room generalizing index area entries with
  | zero =>
    constructor
    · intro h
      match area, h with
      | [], h =>
        cases h
        exact ⟨Nat.le_refl 0, List.forall_mem_nil _, rfl⟩
    · rintro ⟨hlength, _, rfl⟩
      obtain rfl := List.length_eq_zero_iff.mp (Nat.le_zero.mp hlength)
      rfl
  | succ room ih =>
    constructor
    · intro h
      match area, h with
      | [], h =>
        rw [parseSessions_nil] at h
        cases h
        exact ⟨Nat.zero_le _, List.forall_mem_nil _, rfl⟩
      | octet :: area, h =>
        unfold parseSessions at h
        split at h
        · cases h
        · rename_i entry rest hread
          obtain ⟨others, hothers, h⟩ := Except.bind_eq_ok_iff.mp h
          obtain rfl := Except.pure_eq_ok_iff.mp h
          obtain ⟨hvalid, harea⟩ := Wire.read_eq_ok_iff.mp hread
          obtain ⟨hlength, hall, rfl⟩ := ih.mp hothers
          exact ⟨Nat.succ_le_succ hlength, List.forall_mem_cons.mpr ⟨hvalid, hall⟩, harea⟩
    · rintro ⟨hlength, hall, rfl⟩
      match entries, hlength, hall with
      | [], _, _ => exact parseSessions_nil index (room + 1)
      | entry :: entries, hlength, hall =>
        obtain ⟨hvalid, hothers⟩ := List.forall_mem_cons.mp hall
        have hrest : parseSessions (index + 1) room (entries.flatMap Wire.write) = .ok entries :=
          ih.mpr ⟨Nat.le_of_succ_le_succ hlength, hothers, rfl⟩
        have hread : (Wire.read : Reader AuthCommand) (Wire.write entry ++ entries.flatMap Wire.write)
            = .ok entry (entries.flatMap Wire.write) :=
          Wire.read_eq_ok_iff.mpr ⟨hvalid, rfl⟩
        rw [List.flatMap_cons, parseSessions_of_read hread, hrest]
        rfl

/-- An authorization area is its length and one to three entries. -/
theorem readSessions_eq_ok_iff {input rest : Bytes} {sessions : List AuthCommand} :
    readSessions input = .ok sessions rest ↔
      1 ≤ sessions.length ∧ sessions.length ≤ maxSessions ∧ (∀ entry ∈ sessions, entry.Valid) ∧
        ∃ size : UInt32, size.toNat = (sessions.flatMap Wire.write).length ∧
          input = be32 size ++ sessions.flatMap Wire.write ++ rest := by
  unfold readSessions
  constructor
  · intro h
    split at h
    · cases h
    · rename_i area _ harea
      obtain ⟨size, _, hsize, htake⟩ := EStateM.bind_eq_ok_iff.mp harea
      split at h
      · cases h
      · cases h
      · rename_i hne hparse
        cases h
        obtain ⟨hlength, hall, rfl⟩ := parseSessions_eq_ok_iff.mp hparse
        obtain ⟨htotal, rfl⟩ := Reader.take_eq_ok_iff.mp htake
        have hpos : 1 ≤ sessions.length := List.length_pos_iff.mpr hne
        refine ⟨hpos, hlength, hall, size, htotal.symm, ?_⟩
        rw [List.append_assoc]
        exact Reader.word32_eq_ok_iff.mp hsize
  · rintro ⟨hpos, hlength, hall, size, hsize, rfl⟩
    have harea : (do Reader.take (← Reader.word32).toNat : Reader Bytes)
        (be32 size ++ sessions.flatMap Wire.write ++ rest) =
          .ok (sessions.flatMap Wire.write) rest := by
      have htake := Reader.Reads.take (sessions.flatMap Wire.write)
      rw [← hsize] at htake
      exact (Reader.Reads.word32 size).bind htake rest
    have hparse : parseSessions 1 maxSessions (sessions.flatMap Wire.write) = .ok sessions :=
      parseSessions_eq_ok_iff.mpr ⟨hlength, hall, rfl⟩
    rw [harea]
    match sessions, hpos, hparse with
    | entry :: entries, _, hparse => simp only [hparse]

/-! ## Envelopes -/

/-- The octets that a request with `handleCount` handles is made up of: a header that tells their
number, the handles, an authorization area if the tag says so, and the parameters. -/
inductive Makes (handleCount : Nat) : Request → Bytes → Prop
  | noSessions {size commandCode : UInt32} {handles : List UInt32} {parameters envelope : Bytes}
      (hsize : size.toNat = envelope.length) (hhandles : handles.length = handleCount)
      (henvelope : envelope = be16 0x8001 ++ be32 size ++ be32 commandCode ++
        handles.flatMap be32 ++ parameters) :
      Makes handleCount ⟨⟨.noSessions, size, commandCode⟩, handles, [], parameters⟩ envelope
  | sessions {size commandCode authSize : UInt32} {handles : List UInt32}
      {sessions : List AuthCommand} {parameters envelope : Bytes}
      (hsize : size.toNat = envelope.length) (hhandles : handles.length = handleCount)
      (hpos : 1 ≤ sessions.length) (hmax : sessions.length ≤ 3)
      (heach : ∀ entry ∈ sessions, entry.nonce.length ≤ 64 ∧ entry.hmac.length ≤ 64)
      (hauthSize : authSize.toNat = (sessions.flatMap Wire.write).length)
      (henvelope : envelope = be16 0x8002 ++ be32 size ++ be32 commandCode ++
        handles.flatMap be32 ++ (be32 authSize ++ sessions.flatMap Wire.write) ++ parameters) :
      Makes handleCount ⟨⟨.sessions, size, commandCode⟩, handles, sessions, parameters⟩ envelope

/-- The builder of the request, up to its handles. -/
def addressed (request : Request) : RequestBuilder :=
  request.handles.foldl RequestBuilder.addHandle
    (.start request.header.tag request.header.commandCode)

/-- The envelope that the builder makes of the request's areas. -/
def rebuilt (request : Request) : Bytes :=
  if request.header.tag = .sessions then
    (request.addressed.addSessions request.sessions |>.add request.parameters).envelope
  else (request.addressed.add request.parameters).envelope

theorem valid_auth_iff {entry : AuthCommand} :
    entry.Valid ↔ entry.nonce.length ≤ 64 ∧ entry.hmac.length ≤ 64 := by
  constructor
  · intro h
    exact ⟨h.nonce.le_max, h.hmac.le_max⟩
  · rintro ⟨hnonce, hhmac⟩
    exact ⟨⟨hnonce, Nat.lt_of_le_of_lt hnonce (by decide)⟩,
      ⟨hhmac, Nat.lt_of_le_of_lt hhmac (by decide)⟩⟩

/-- What follows the header is cut into the handles, the entries, and the rest. -/
theorem reader_eq_ok_iff {header : RequestHeader} {handleCount : Nat} {body rest : Bytes}
    {request : Request} :
    reader header handleCount body = .ok request rest ↔
      request.header = header ∧ rest = [] ∧ request.handles.length = handleCount ∧
        ∃ areas, body = request.handles.flatMap be32 ++ areas ∧
          (if header.tag = .sessions then readSessions else pure []) areas =
            .ok request.sessions request.parameters := by
  constructor
  · intro h
    obtain ⟨handles, areas, hhandles, h⟩ := EStateM.bind_eq_ok_iff.mp h
    obtain ⟨sessions, parameters, hsessions, h⟩ := EStateM.ite_bind_eq_ok_iff.mp h
    cases h
    obtain ⟨hlength, hbody⟩ := readHandles_eq_ok_iff.mp hhandles
    exact ⟨rfl, rfl, hlength, areas, hbody, hsessions⟩
  · rintro ⟨rfl, rfl, hlength, areas, rfl, hsessions⟩
    have hhandles : readHandles 1 handleCount (request.handles.flatMap be32 ++ areas) =
        .ok request.handles areas := readHandles_eq_ok_iff.mpr ⟨hlength, rfl⟩
    refine EStateM.bind_eq_ok_iff.mpr ⟨_, _, hhandles, ?_⟩
    exact EStateM.ite_bind_eq_ok_iff.mpr ⟨_, _, hsessions, rfl⟩

theorem split_eq_ok_iff {header : RequestHeader} {handleCount : Nat} {envelope : Bytes}
    {request : Request} :
    split header envelope handleCount = .ok request ↔
      reader header handleCount (envelope.drop headerSize) = .ok request [] := by
  unfold split
  constructor
  · intro h
    split at h
    · rename_i hread
      cases h
      obtain rfl := (reader_eq_ok_iff.mp hread).2.1
      exact hread
    · cases h
  · intro h
    rw [h]

/-- The areas that follow the header and the handles of an envelope are cut as they are read. -/
theorem cut_of_areas {request : Request} {handleCount : Nat} {envelope areas : Bytes}
    (hkind : request.header.tag = .noSessions ∨ request.header.tag = .sessions)
    (hsize : request.header.size.toNat = envelope.length)
    (hhandles : request.handles.length = handleCount)
    (henvelope : envelope = request.header.write ++ (request.handles.flatMap be32 ++ areas))
    (hsessions : (if request.header.tag = .sessions then readSessions else pure []) areas =
      .ok request.sessions request.parameters) :
    ∃ header, RequestHeader.parse envelope = .ok header ∧
      split header envelope handleCount = .ok request := by
  have hparse := RequestHeader.parse_eq_ok_iff.mpr ⟨hkind, hsize, _, henvelope⟩
  refine ⟨request.header, hparse, split_eq_ok_iff.mpr ?_⟩
  rw [henvelope, List.drop_left' (RequestHeader.length_write _)]
  exact reader_eq_ok_iff.mpr ⟨rfl, rfl, hhandles, areas, rfl, hsessions⟩

/-- A request is cut out of an envelope exactly if it makes the envelope up. -/
theorem parse_split_iff_makes {envelope : Bytes} {handleCount : Nat} {request : Request} :
    (∃ header, RequestHeader.parse envelope = .ok header ∧
        split header envelope handleCount = .ok request) ↔
      Makes handleCount request envelope := by
  constructor
  · rintro ⟨header, hparse, hsplit⟩
    obtain ⟨hkind, hsize, body, henvelope⟩ := RequestHeader.parse_eq_ok_iff.mp hparse
    obtain ⟨rfl, _, hlength, areas, hbody, hsessions⟩ :=
      reader_eq_ok_iff.mp (split_eq_ok_iff.mp hsplit)
    rw [henvelope, List.drop_left' (RequestHeader.length_write _)] at hbody
    obtain ⟨⟨tag, size, commandCode⟩, handles, sessions, parameters⟩ := request
    rcases hkind with htag | htag
    · obtain rfl : tag = .noSessions := htag
      obtain ⟨rfl, rfl⟩ := EStateM.pure_eq_ok_iff.mp hsessions
      refine .noSessions hsize hlength ?_
      rw [henvelope, hbody, List.append_assoc _ _ areas]
      rfl
    · obtain rfl : tag = .sessions := htag
      obtain ⟨hpos, hmax, hvalid, authSize, hauthSize, rfl⟩ := readSessions_eq_ok_iff.mp hsessions
      refine .sessions hsize hlength hpos hmax (fun entry h => valid_auth_iff.mp (hvalid entry h))
        hauthSize ?_
      rw [henvelope, hbody]
      simp only [RequestHeader.write, List.append_assoc]
      rfl
  · intro h
    cases h with
    | @noSessions size commandCode handles parameters _ hsize hhandles henvelope =>
      have hwritten : envelope = RequestHeader.write ⟨.noSessions, size, commandCode⟩ ++
          (handles.flatMap be32 ++ parameters) := by
        rw [henvelope, List.append_assoc]
        rfl
      exact cut_of_areas (.inl rfl) hsize hhandles hwritten rfl
    | @sessions size commandCode authSize handles sessions parameters _ hsize hhandles hpos hmax
        heach hauthSize henvelope =>
      have hwritten : envelope = RequestHeader.write ⟨.sessions, size, commandCode⟩ ++
          (handles.flatMap be32 ++
            (be32 authSize ++ sessions.flatMap Wire.write ++ parameters)) := by
        rw [henvelope, List.append_assoc, List.append_assoc]
        rfl
      have hsessions : readSessions (be32 authSize ++ sessions.flatMap Wire.write ++ parameters) =
          .ok sessions parameters :=
        readSessions_eq_ok_iff.mpr
          ⟨hpos, hmax, fun entry h => valid_auth_iff.mpr (heach entry h), authSize, hauthSize, rfl⟩
      exact cut_of_areas (.inr rfl) hsize hhandles hwritten hsessions

/-! ## Putting the areas together again -/

theorem foldl_addHandle (builder : RequestBuilder) (handles : List UInt32) :
    handles.foldl RequestBuilder.addHandle builder = builder.add (handles.flatMap be32) := by
  induction handles generalizing builder with
  | nil => simp [RequestBuilder.add]
  | cons handle handles ih =>
    rw [List.foldl_cons, ih]
    simp [RequestBuilder.add, RequestBuilder.addHandle]

theorem addressed_eq (request : Request) :
    request.addressed =
      ⟨request.header.tag, request.header.commandCode, request.handles.flatMap be32⟩ :=
  foldl_addHandle ..

/-- The header that a builder puts in front is the one that tells the length. -/
theorem envelope_eq {builder : RequestBuilder} {size : UInt32} {envelope : Bytes}
    (hsize : size.toNat = envelope.length)
    (henvelope : envelope =
      RequestHeader.write ⟨builder.tag, size, builder.commandCode⟩ ++ builder.body) :
    builder.envelope = envelope := by
  rw [henvelope, List.length_append, RequestHeader.length_write] at hsize
  rw [henvelope, RequestBuilder.envelope, ← hsize, UInt32.ofNat_toNat]
  rfl

theorem rebuilt_of_makes {request : Request} {handleCount : Nat} {envelope : Bytes}
    (h : Makes handleCount request envelope) : request.rebuilt = envelope := by
  unfold rebuilt
  rw [addressed_eq]
  cases h with
  | noSessions hsize _ henvelope =>
    refine envelope_eq hsize (henvelope.trans ?_)
    rw [List.append_assoc]
    rfl
  | sessions hsize _ _ _ _ hauthSize henvelope =>
    refine envelope_eq hsize (henvelope.trans ?_)
    simp only [RequestBuilder.add, RequestBuilder.addSessions, ← hauthSize, UInt32.ofNat_toNat]
    rw [List.append_assoc, List.append_assoc, ← List.append_assoc (List.flatMap be32 _)]
    rfl

/-- An envelope is cut into the areas of the one request that makes it up, if there is one; put
together again, they are the envelope. -/
theorem split_exact (envelope : Bytes) (handleCount : Nat) :
    (∀ request, (∃ header, RequestHeader.parse envelope = .ok header ∧
        split header envelope handleCount = .ok request) ↔
      Makes handleCount request envelope) ∧
    (∀ request request', Makes handleCount request envelope →
      Makes handleCount request' envelope → request = request') ∧
    ∀ request, Makes handleCount request envelope → request.rebuilt = envelope := by
  refine ⟨fun request => parse_split_iff_makes, ?_, fun request => rebuilt_of_makes⟩
  intro request request' h h'
  obtain ⟨header, hparse, hsplit⟩ := parse_split_iff_makes.mpr h
  obtain ⟨header', hparse', hsplit'⟩ := parse_split_iff_makes.mpr h'
  obtain rfl : header = header' := Except.ok.inj (hparse.symm.trans hparse')
  exact Except.ok.inj (hsplit.symm.trans hsplit')

end Request

end TrustedPlatform
