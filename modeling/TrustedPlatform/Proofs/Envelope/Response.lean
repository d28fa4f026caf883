import TrustedPlatform.Envelope.Reply
import TrustedPlatform.Proofs.Wire.Layouts

/-!
# Response envelopes, written and read back

The octets of a response are a function of its tag, its answer and its authorization entries:
`Response.envelope`. The writers give these octets, or stop because there is no room for them, and a
client reads the answer and the entries back from them.
-/

namespace TrustedPlatform

/-! ## Patches -/

namespace Writer

variable {front old back : Bytes}

/-- A patch takes the place of as many octets as it has. -/
theorem patch_eq {word : Bytes} (h : old.length = word.length) :
    patch front.length word (front ++ old ++ back) = .ok () (front ++ word ++ back) := by
  have hin : front.length + word.length ≤ (front ++ old ++ back).length := by
    rw [List.length_append, List.length_append]
    omega
  have htake : (front ++ old ++ back).take front.length = front := by
    rw [List.append_assoc, List.take_left]
  have hdrop : (front ++ old ++ back).drop (front.length + word.length) = back := by
    rw [← h, ← List.length_append, List.drop_left]
  rw [patch, if_pos hin, htake, hdrop]

theorem patch16_eq (front back : Bytes) (v : UInt16) (h : old.length = 2) :
    patch16 front.length v (front ++ old ++ back) = .ok () (front ++ be16 v ++ back) :=
  patch_eq (h.trans (length_be16 v).symm)

theorem patch32_eq (front back : Bytes) (v : UInt32) (h : old.length = 4) :
    patch32 front.length v (front ++ old ++ back) = .ok () (front ++ be32 v ++ back) :=
  patch_eq (h.trans (length_be32 v).symm)

end Writer

namespace Response

/-! ## What is written -/

section

variable {α : Type} [Layout α]

/-- The handles and the parameters of an answer; if the tag is sessions, the size of the parameters
stands in between. -/
def areas (tag : StructureTag) (answer : α) : Bytes :=
  Layout.handleArea answer
    ++ (if tag = .sessions then be32 (UInt32.ofNat (Layout.parameterArea answer).length) else [])
    ++ Layout.parameterArea answer

/-- The authorization entries, if the tag is sessions. -/
def entryArea (tag : StructureTag) (entries : List AuthResponse) : Bytes :=
  if tag = .sessions then entries.flatMap Wire.write else []

/-- What follows the header. -/
def body (tag : StructureTag) (answer : α) (entries : List AuthResponse) : Bytes :=
  areas tag answer ++ entryArea tag entries

/-- The header of a response of which `length` octets follow the header. -/
def header (tag : StructureTag) (length : Nat) (responseCode : UInt32) : Bytes :=
  be16 tag.code ++ be32 (UInt32.ofNat (headerSize + length)) ++ be32 responseCode

/-- The response to a command that was carried out. -/
def envelope (tag : StructureTag) (answer : α) (entries : List AuthResponse) : Bytes :=
  header tag (body tag answer entries).length ResponseCode.success ++ body tag answer entries

@[simp] theorem length_header (tag : StructureTag) (length : Nat) (responseCode : UInt32) :
    (header tag length responseCode).length = headerSize := by
  simp [header, headerSize]

theorem length_envelope (tag : StructureTag) (answer : α) (entries : List AuthResponse) :
    (envelope tag answer entries).length
      = headerSize + (areas tag answer).length + (entryArea tag entries).length := by
  simp only [envelope, body, List.length_append, length_header]
  omega

/-- Without entries there is no size of the parameters either. -/
theorem length_envelope_noSessions (answer : α) (entries : List AuthResponse) :
    (envelope .noSessions answer entries).length
      = headerSize + (Layout.handleArea answer).length + (Layout.parameterArea answer).length := by
  have hsize : (if StructureTag.noSessions = .sessions then
      be32 (UInt32.ofNat (Layout.parameterArea answer).length) else []) = [] := rfl
  have hentries : entryArea .noSessions entries = [] := rfl
  rw [length_envelope, areas, hsize, hentries, List.append_nil, List.length_append,
    List.length_nil]
  omega

/-- Areas that were appended stay if there is room for them; otherwise they are taken back. -/
theorem checkRoom_eq (out added : Bytes) (limit : Nat) :
    (do
      let written ← Writer.length
      if written > limit then
        Writer.truncate out.length
        throw tooLong
      return written - out.length : Writer Nat) (out ++ added)
      = if (out ++ added).length ≤ limit then .ok added.length (out ++ added)
        else .error tooLong out := by
  refine (EStateM.bind_of_ok (show Writer.length (out ++ added) = .ok _ _ from rfl)).trans ?_
  have hadded : (out ++ added).length - out.length = added.length := by
    rw [List.length_append]
    omega
  by_cases hroom : (out ++ added).length ≤ limit
  · rw [if_neg (Nat.not_lt.mpr hroom), if_pos hroom]
    show EStateM.Result.ok ((out ++ added).length - out.length) (out ++ added) = _
    rw [hadded]
  · rw [if_pos (Nat.lt_of_not_le hroom), if_neg hroom]
    show EStateM.Result.error tooLong ((out ++ added).take out.length) = _
    rw [List.take_left]

/-- Appending an answer adds its areas to whatever was there, or leaves it alone. -/
theorem append_eq (tag : StructureTag) (answer : α) (limit : Nat) (out : Bytes) :
    append tag answer limit out
      = if (out ++ areas tag answer).length ≤ limit then
          .ok (areas tag answer).length (out ++ areas tag answer)
        else .error tooLong out := by
  unfold append
  refine (EStateM.bind_of_ok (show Writer.length out = .ok _ _ from rfl)).trans ?_
  let addressed := out ++ Layout.handleArea answer
  let parameters := Layout.parameterArea answer
  refine (EStateM.bind_of_ok (show Writer.put _ out = .ok () addressed from rfl)).trans ?_
  by_cases htag : tag = .sessions
  · -- the size is reserved first, and filled in when the parameters have been written
    let reserved := addressed ++ be32 0
    let full := addressed ++ be32 0 ++ parameters
    have hsize : full.length - addressed.length - 4 = parameters.length := by
      simp only [full, List.length_append, length_be32]
      omega
    have hpatch : Writer.patch32 addressed.length (UInt32.ofNat parameters.length) full
        = .ok () (addressed ++ be32 (UInt32.ofNat parameters.length) ++ parameters) :=
      Writer.patch32_eq addressed parameters _ (length_be32 0)
    have hareas : addressed ++ be32 (UInt32.ofNat parameters.length) ++ parameters
        = out ++ areas tag answer := by
      simp only [areas, if_pos htag, addressed, parameters, List.append_assoc]
    rw [hareas] at hpatch
    rw [if_pos htag]
    refine (EStateM.bind_of_ok
      (show Writer.reserve32 addressed = .ok addressed.length reserved from rfl)).trans ?_
    refine (EStateM.bind_of_ok (show Writer.put _ reserved = .ok () full from rfl)).trans ?_
    refine (EStateM.bind_of_ok (show Writer.length full = .ok _ _ from rfl)).trans ?_
    rw [hsize]
    exact (EStateM.bind_of_ok hpatch).trans (checkRoom_eq out (areas tag answer) limit)
  · have hareas : addressed ++ parameters = out ++ areas tag answer := by
      simp only [areas, if_neg htag, addressed, parameters, List.append_assoc, List.nil_append]
    have hput : Writer.put parameters addressed = .ok () (out ++ areas tag answer) := by
      rw [← hareas]
      rfl
    rw [if_neg htag]
    exact (EStateM.bind_of_ok hput).trans (checkRoom_eq out (areas tag answer) limit)

/-- An answer is written after whatever was there: its handles, for the tag sessions the number of
octets of its parameters alone, and its parameters. Where this does not fit, what was there is
left. -/
theorem append_frames (tag : StructureTag) (answer : α) (limit : Nat) (out : Bytes)
    (hlength : (Layout.parameterArea answer).length < 2 ^ 32) :
    let handles := (Layout.handles answer).flatMap be32
    let parameters := Layout.parameterArea answer
    let size := if tag = .sessions then be32 (UInt32.ofNat parameters.length) else []
    let body := handles ++ size ++ parameters
    (tag = .sessions → size.length = 4 ∧ size.toNat = parameters.length) ∧
      (out.length + body.length ≤ limit →
        append tag answer limit out = .ok body.length (out ++ body)) ∧
      (limit < out.length + body.length →
        append tag answer limit out
          = .error (.fault ⟨.exhausted .responseBuffer, none⟩) out) := by
  intro handles parameters size body
  have happend : append tag answer limit out
      = if (out ++ body).length ≤ limit then .ok body.length (out ++ body)
        else .error tooLong out := append_eq tag answer limit out
  rw [List.length_append] at happend
  refine ⟨fun htag => ?_, fun hfits => ?_, fun hfull => ?_⟩
  · have hsize : size = be32 (UInt32.ofNat parameters.length) := if_pos htag
    rw [hsize, toNat_be32]
    exact ⟨length_be32 _, UInt32.toNat_ofNat_of_lt' hlength⟩
  · rw [happend, if_pos hfits]
  · rw [happend, if_neg (Nat.not_le.mpr hfull)]
    rfl

/-- The session that was opened is written after the room for the header, up to the last octet of
the limit; with one octet less there is only the room left. -/
theorem append_frames_at_limit :
    let answer : StartAuthSessionResponse := ⟨0x03000001, ⟨List.replicate 16 0xEE⟩⟩
    let room := Bytes.zeros headerSize
    append .sessions answer 36 room
        = .ok 26 (room ++ ([0x03, 0x00, 0x00, 0x01, 0x00, 0x00, 0x00, 0x12, 0x00, 0x10]
          ++ List.replicate 16 0xEE)) ∧
      append .sessions answer 35 room
        = .error (.fault ⟨.exhausted .responseBuffer, none⟩) room := by
  intro answer room
  have hlength : (Layout.parameterArea answer).length < 2 ^ 32 := by decide
  have hbody : (Layout.handles answer).flatMap be32
      ++ (if StructureTag.sessions = .sessions then
        be32 (UInt32.ofNat (Layout.parameterArea answer).length) else [])
      ++ Layout.parameterArea answer
      = [0x03, 0x00, 0x00, 0x01, 0x00, 0x00, 0x00, 0x12, 0x00, 0x10]
        ++ List.replicate 16 0xEE := by decide
  have hfits := (append_frames .sessions answer 36 room hlength).2.1
  have hfull := (append_frames .sessions answer 35 room hlength).2.2
  rw [hbody] at hfits hfull
  exact ⟨hfits (by decide), hfull (by decide)⟩

/-- The header is written over the room that was left for it. -/
theorem patchHeader_eq (tag : StructureTag) {room : Bytes} (hroom : room.length = headerSize)
    (body : Bytes) :
    (do
      Writer.patch16 0 tag.code
      Writer.patch32 2 (UInt32.ofNat (headerSize + body.length))
      Writer.patch32 6 ResponseCode.success : Writer Unit) (room ++ body)
      = .ok () (header tag body.length ResponseCode.success ++ body) := by
  unfold headerSize at hroom
  -- the room is cut into the places of tag, size and response code
  obtain ⟨first, second, third, rfl, hfirst, hsecond, hthird⟩ : ∃ first second third,
      room = first ++ second ++ third ∧ first.length = 2 ∧ second.length = 4 ∧
        third.length = 4 := by
    refine ⟨room.take 2, (room.drop 2).take 4, room.drop 6, ?_, ?_, ?_, ?_⟩
    · rw [List.append_assoc, ← List.drop_drop (i := 4) (j := 2), List.take_append_drop,
        List.take_append_drop]
    · rw [List.length_take]
      omega
    · rw [List.length_take, List.length_drop]
      omega
    · rw [List.length_drop]
      omega
  let size := be32 (UInt32.ofNat (headerSize + body.length))
  have htag : Writer.patch16 0 tag.code (first ++ second ++ third ++ body)
      = .ok () (be16 tag.code ++ second ++ (third ++ body)) := by
    have h := Writer.patch16_eq [] (second ++ (third ++ body)) tag.code hfirst
    simp only [List.append_assoc, List.nil_append] at h ⊢
    exact h
  have hsize : Writer.patch32 2 (UInt32.ofNat (headerSize + body.length))
      (be16 tag.code ++ second ++ (third ++ body))
      = .ok () (be16 tag.code ++ size ++ third ++ body) := by
    have h := Writer.patch32_eq (be16 tag.code) (third ++ body)
      (UInt32.ofNat (headerSize + body.length)) hsecond
    rw [length_be16] at h
    rw [h, ← List.append_assoc]
  have hcode : Writer.patch32 6 ResponseCode.success (be16 tag.code ++ size ++ third ++ body)
      = .ok () (header tag body.length ResponseCode.success ++ body) := by
    have h := Writer.patch32_eq (be16 tag.code ++ size) body ResponseCode.success hthird
    rw [List.length_append, length_be16, length_be32] at h
    exact h
  exact (EStateM.bind_of_ok htag).trans ((EStateM.bind_of_ok hsize).trans hcode)

/-- The entries are added to what was written after the header, and then the header is written, if
there is room for the whole. -/
theorem finish_eq (tag : StructureTag) (entries : List AuthResponse) (limit : Nat)
    {room : Bytes} (hroom : room.length = headerSize) (body : Bytes) :
    finish tag entries limit (room ++ body)
      = if headerSize + (body ++ entryArea tag entries).length ≤ limit then
          .ok () (header tag (body ++ entryArea tag entries).length ResponseCode.success
            ++ (body ++ entryArea tag entries))
        else .error tooLong (room ++ (body ++ entryArea tag entries)) := by
  let full := body ++ entryArea tag entries
  have hlength : (room ++ full).length = headerSize + full.length := by
    rw [List.length_append, hroom]
  have hchecked : (do
      let written ← Writer.length
      if written > limit then throw tooLong
      if written < headerSize then throw (.ofCause .failure)
      Writer.patch16 0 tag.code
      Writer.patch32 2 (UInt32.ofNat written)
      Writer.patch32 6 ResponseCode.success : Writer Unit) (room ++ full)
      = if headerSize + full.length ≤ limit then
          .ok () (header tag full.length ResponseCode.success ++ full)
        else .error tooLong (room ++ full) := by
    refine (EStateM.bind_of_ok (show Writer.length (room ++ full) = .ok _ _ from rfl)).trans ?_
    rw [hlength]
    by_cases hfits : headerSize + full.length ≤ limit
    · rw [if_neg (Nat.not_lt.mpr hfits), if_pos hfits, if_neg (by omega)]
      exact patchHeader_eq tag hroom full
    · rw [if_pos (Nat.lt_of_not_le hfits), if_neg hfits]
      rfl
  unfold finish
  by_cases htag : tag = .sessions
  · have hput : Writer.put (entries.flatMap Wire.write) (room ++ body) = .ok () (room ++ full) := by
      show EStateM.Result.ok () (room ++ body ++ entries.flatMap Wire.write) = _
      simp only [full, entryArea, if_pos htag, List.append_assoc]
    rw [if_pos htag]
    exact (EStateM.bind_of_ok hput).trans hchecked
  · have hbody : room ++ body = room ++ full := by
      simp only [full, entryArea, if_neg htag, List.append_nil]
    rw [if_neg htag, hbody]
    exact hchecked

end

end Response

/-! ## What is read back -/

namespace Reader

/-- Items that are read back one by one are read back up to the end of the input. -/
theorem untilEnd_eq {α : Type} {item : Reader α} {write : α → Bytes} {items : List α}
    {limit : Nat} (hitem : ∀ v ∈ items, item.Reads (write v) v)
    (hne : ∀ v ∈ items, write v ≠ []) (hlimit : items.length ≤ limit) :
    untilEnd item limit (items.flatMap write) = .ok items [] := by
  induction limit generalizing items with
  | zero =>
    obtain rfl := List.length_eq_zero_iff.mp (Nat.le_zero.mp hlimit)
    rfl
  | succ limit ih =>
    match items, hitem, hne, hlimit with
    | [], _, _, _ => rfl
    | first :: others, hitem, hne, hlimit =>
      obtain ⟨hfirst, hothers⟩ := List.forall_mem_cons.mp hitem
      obtain ⟨hsome, hsomes⟩ := List.forall_mem_cons.mp hne
      have hrest := ih hothers hsomes (Nat.le_of_succ_le_succ hlimit)
      have hleft : ¬(write first ++ others.flatMap write).isEmpty = true := by
        simp [hsome]
      rw [List.flatMap_cons]
      unfold untilEnd
      refine (EStateM.bind_of_ok (show (get : Reader Bytes) _ = .ok _ _ from rfl)).trans ?_
      rw [if_neg hleft]
      exact (EStateM.bind_of_ok (hfirst _)).trans (EStateM.bind_of_ok hrest)

end Reader

theorem AuthResponse.length_write_pos (entry : AuthResponse) : 0 < (Wire.write entry).length := by
  simp only [Wire.write, List.length_append, length_sizedBytes, List.length_singleton]
  omega

namespace Reply

open Response (header entryArea)

/-- A client finds the tag, the response code and what follows the header. -/
theorem parse_eq (tag : StructureTag) (responseCode : UInt32) (rest : Bytes)
    (hlength : headerSize + rest.length < 2 ^ 32) :
    parse (header tag rest.length responseCode ++ rest) = .ok ⟨tag, responseCode, rest⟩ := by
  let size := be32 (UInt32.ofNat (headerSize + rest.length))
  have hsize : size.toNat = headerSize + rest.length := by
    rw [toNat_be32]
    exact UInt32.toNat_ofNat_of_lt' hlength
  have hcut : header tag rest.length responseCode ++ rest
      = be16 tag.code ++ (size ++ (be32 responseCode ++ rest)) := by
    simp only [header, size, List.append_assoc]
  have htotal : (header tag rest.length responseCode ++ rest).length
      = headerSize + rest.length := by
    rw [List.length_append, Response.length_header]
  have htag : (header tag rest.length responseCode ++ rest).take 2 = be16 tag.code := by
    rw [hcut, List.take_left' (length_be16 _)]
  have hsizeField : ((header tag rest.length responseCode ++ rest).drop 2).take 4 = size := by
    rw [hcut, List.drop_left' (length_be16 _), List.take_left' (length_be32 _)]
  have hcode : ((header tag rest.length responseCode ++ rest).drop 6).take 4
      = be32 responseCode := by
    have hfront : (be16 tag.code ++ size).length = 6 := by
      rw [List.length_append, length_be16, length_be32]
    rw [hcut, ← List.append_assoc, List.drop_left' hfront, List.take_left' (length_be32 _)]
  unfold parse
  rw [if_neg (by omega)]
  dsimp only
  rw [htag, toNat_be16, UInt16.ofNat_toNat, StructureTag.ofCode?_code]
  dsimp only
  rw [hsizeField, hsize, if_neg (by omega), hcode, toNat_be32, UInt32.ofNat_toNat,
    List.drop_left' (Response.length_header ..)]

section

variable {α : Type} [Layout α] [Layout.Shows α] {tag : StructureTag} {answer : α}
  {entries : List AuthResponse}

/-- A client cuts what follows the header where the engine put it together. -/
theorem areas_eq (responseCode : UInt32) (hlength : (Layout.parameterArea answer).length < 2 ^ 32) :
    areas ⟨tag, responseCode, Response.body tag answer entries⟩ (Layout.handleCount α)
      = .ok (Layout.handles answer, Layout.parameterArea answer, entryArea tag entries) := by
  have hhandles : (Reader.repeated Reader.word32 (Layout.handleCount α)).Reads
      (Layout.handleArea answer) (Layout.handles answer) := by
    have hread : (Reader.repeated Reader.word32 (Layout.handles answer).length).Reads
        (Layout.handleArea answer) (Layout.handles answer) :=
      .repeated fun handle _ => .word32 handle
    rw [Layout.Shows.length_handles] at hread
    exact hread
  have hreader : areasReader tag (Layout.handleCount α) (Response.body tag answer entries)
      = .ok (Layout.handles answer, Layout.parameterArea answer) (entryArea tag entries) := by
    unfold Response.body Response.areas
    by_cases htag : tag = .sessions
    · let size := UInt32.ofNat (Layout.parameterArea answer).length
      have hsize : size.toNat = (Layout.parameterArea answer).length :=
        UInt32.toNat_ofNat_of_lt' hlength
      have htake := Reader.Reads.take (Layout.parameterArea answer)
      rw [← hsize] at htake
      have hreads : (areasReader tag (Layout.handleCount α)).Reads
          (Layout.handleArea answer ++ (be32 size ++ Layout.parameterArea answer))
          (Layout.handles answer, Layout.parameterArea answer) := by
        refine hhandles.bind ?_
        rw [if_pos htag]
        exact (Reader.Reads.word32 size).bind htake.bind_pure
      rw [if_pos htag, List.append_assoc (Layout.handleArea answer)]
      exact hreads _
    · rw [if_neg htag, entryArea, if_neg htag, List.append_nil, List.append_nil]
      refine (EStateM.bind_of_ok (hhandles _)).trans ?_
      rw [if_neg htag]
      rfl
  unfold areas
  rw [hreader]

theorem parameters_eq (responseCode : UInt32) (hvalid : Layout.Valid answer)
    (hlength : (Layout.parameterArea answer).length < 2 ^ 32) :
    parameters α ⟨tag, responseCode, Response.body tag answer entries⟩ = .ok answer := by
  unfold parameters
  rw [areas_eq responseCode hlength]
  exact Layout.ofAreas_eq_ok_iff.mpr ⟨hvalid, rfl, rfl⟩

theorem authEntries_eq (responseCode : UInt32)
    (hlength : (Layout.parameterArea answer).length < 2 ^ 32)
    (hentries : tag = .sessions ∨ entries = []) (hvalid : ∀ entry ∈ entries, entry.Valid) :
    authEntries ⟨tag, responseCode, Response.body tag answer entries⟩ (Layout.handleCount α)
      = .ok entries := by
  have harea : entryArea tag entries = entries.flatMap Wire.write := by
    unfold entryArea
    rcases hentries with htag | rfl
    · rw [if_pos htag]
    · rw [List.flatMap_nil, ite_self]
  have hne : ∀ entry ∈ entries, Wire.write entry ≠ [] := fun entry _ =>
    List.ne_nil_of_length_pos entry.length_write_pos
  have hcount : entries.length ≤ (entries.flatMap Wire.write).length := by
    clear hvalid hentries harea hne
    induction entries with
    | nil => exact Nat.zero_le _
    | cons entry entries ih =>
      have hpos := entry.length_write_pos
      rw [List.flatMap_cons, List.length_append, List.length_cons]
      omega
  have hread : ∀ entry ∈ entries,
      (Wire.read : Reader AuthResponse).Reads (Wire.write entry) entry := fun entry hmem =>
    Wire.Lawful.reads (hvalid entry hmem)
  unfold authEntries
  rw [areas_eq responseCode hlength]
  dsimp only
  rw [harea, Reader.untilEnd_eq hread hne hcount]

end

end Reply

end TrustedPlatform
