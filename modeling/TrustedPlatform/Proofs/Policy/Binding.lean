import Mathlib.Data.List.Induction
import TrustedPlatform.Proofs.Policy.Effect
import TrustedPlatform.Proofs.Wire.Reads

/-!
# What a policy digest says of the policy

Two policies with one digest are the same from their last approval on, unless the hash function was
broken along the way: two different messages among those hashed in the two computations have the
same hash, or one has the hash zero.

An effect hashes its statement: the digest so far (zeros for an approval), a marker, and what the
effect adds. That is all if it has no policy reference; otherwise the hash of the statement and the
reference are hashed in turn, and this second message has no marker. A reference can be chosen
freely, so that the second message can look like any statement whose digest is the hash of a
statement. What rules this out is that the hash of a statement with a reference is never itself the
digest of a policy, `hash_statement_ne_digest`.
-/

namespace TrustedPlatform.PolicyEffect

/-! ## The messages of an effect -/

/-- Whether the effect is an approval. -/
def isApproval : PolicyEffect → Bool
  | approval .. => true
  | _ => false

/-- The digest that the effect starts from. -/
def base (size : Nat) (digest : Bytes) (effect : PolicyEffect) : Bytes :=
  if effect.isApproval then Bytes.zeros size else digest

/-- What tells the kinds of effects apart. -/
def marker : PolicyEffect → UInt32
  | authValue => 0x16B
  | commandCode _ => 0x16C
  | pcr .. => 0x17F
  | authorization .signed .. => 0x160
  | authorization .secret .. => 0x151
  | approval .. => 0x16A

/-- What the effect adds to digest and marker. -/
def addition : PolicyEffect → Bytes
  | authValue => []
  | commandCode code => be32 code
  | pcr pcrs value => Wire.write pcrs ++ value
  | authorization _ name _ => name
  | approval keySign _ => keySign

/-- The policy reference, which is hashed apart. -/
def policyRef? : PolicyEffect → Option Bytes
  | authorization _ _ policyRef | approval _ policyRef => some policyRef
  | _ => none

/-- The octets that the effect hashes first. -/
def statement (size : Nat) (digest : Bytes) (effect : PolicyEffect) : Bytes :=
  effect.base size digest ++ (be32 effect.marker ++ effect.addition)

/-- The octets whose hash is the digest after the effect. -/
def lastMessage (hash : Bytes → Bytes) (size : Nat) (digest : Bytes) (effect : PolicyEffect) :
    Bytes :=
  match effect.policyRef? with
  | none => effect.statement size digest
  | some policyRef => hash (effect.statement size digest) ++ policyRef

/-- All that is hashed for the effect. -/
def messages (hash : Bytes → Bytes) (size : Nat) (digest : Bytes) (effect : PolicyEffect) :
    List Bytes :=
  match effect.policyRef? with
  | none => [effect.statement size digest]
  | some _ => [effect.statement size digest, effect.lastMessage hash size digest]

theorem extend_eq (hash : Bytes → Bytes) (size : Nat) (digest : Bytes) (effect : PolicyEffect) :
    effect.extend hash size digest = hash (effect.lastMessage hash size digest) := by
  cases effect with
  | authValue => exact congrArg (fun m => hash (digest ++ m)) (List.append_nil _).symm
  | commandCode code => exact congrArg hash (List.append_assoc _ _ _)
  | pcr pcrs value => exact congrArg hash (List.append_assoc _ _ _)
  | authorization kind name policyRef =>
    cases kind <;> exact congrArg (fun m => hash (hash m ++ policyRef)) (List.append_assoc _ _ _)
  | approval keySign policyRef =>
    exact congrArg (fun m => hash (hash m ++ policyRef)) (List.append_assoc _ _ _)

/-- An effect whose selection, if it has one, has a form on the wire. -/
def Valid : PolicyEffect → Prop
  | pcr pcrs _ => pcrs.Valid
  | _ => True

/-- Effects of one kind are told apart by what they add and by their reference. -/
theorem eq_of_parts {a b : PolicyEffect} (ha : a.Valid) (hb : b.Valid)
    (hmarker : a.marker = b.marker) (haddition : a.addition = b.addition)
    (href : a.policyRef? = b.policyRef?) : a = b := by
  cases a with
  | authValue =>
    cases b with
    | authValue => rfl
    | authorization kind => cases kind <;> cases hmarker
    | _ => cases hmarker
  | commandCode code =>
    cases b with
    | commandCode code' => rw [be32_injective haddition]
    | authorization kind => cases kind <;> cases hmarker
    | _ => cases hmarker
  | pcr pcrs value =>
    cases b with
    | pcr pcrs' value' =>
      -- the selection shows where it ends, so that the value cannot run into it
      obtain ⟨rfl, rfl⟩ := (PcrSelections.reads ha).unique (PcrSelections.reads hb) haddition
      rfl
    | authorization kind => cases kind <;> cases hmarker
    | _ => cases hmarker
  | authorization kind name policyRef =>
    cases b with
    | authorization kind' name' policyRef' =>
      cases haddition
      cases href
      cases kind <;> cases kind' <;> first | rfl | cases hmarker
    | _ => cases kind <;> cases hmarker
  | approval keySign policyRef =>
    cases b with
    | approval keySign' policyRef' =>
      cases haddition
      cases href
      rfl
    | authorization kind => cases kind <;> cases hmarker
    | _ => cases hmarker

/-- A marker shows whether there is a reference. -/
theorem marker_ne {a b : PolicyEffect} {policyRef : Bytes} (ha : a.policyRef? = none)
    (hb : b.policyRef? = some policyRef) : a.marker ≠ b.marker := by
  intro hmarker
  cases b with
  | authorization kind name ref =>
    cases a with
    | authorization => cases ha
    | approval => cases ha
    | _ => cases kind <;> cases hmarker
  | approval keySign ref =>
    cases a with
    | authorization => cases ha
    | approval => cases ha
    | _ => cases hmarker
  | _ => cases hb

theorem base_of_policyRef?_eq_none {effect : PolicyEffect} {size : Nat} {digest : Bytes}
    (h : effect.policyRef? = none) : effect.base size digest = digest := by
  cases effect with
  | approval => cases h
  | _ => rfl

/-! ## The digest of a policy -/

section

variable {hash : Bytes → Bytes} {size : Nat} {digest : Bytes}

theorem statement_mem_messages (effect : PolicyEffect) :
    effect.statement size digest ∈ effect.messages hash size digest := by
  unfold messages
  split <;> exact List.mem_cons_self

theorem lastMessage_mem_messages (effect : PolicyEffect) :
    effect.lastMessage hash size digest ∈ effect.messages hash size digest := by
  unfold messages
  split
  · rename_i href
    rw [lastMessage, href]
    exact List.mem_cons_self
  · exact List.mem_cons_of_mem _ List.mem_cons_self

/-- The digest of a policy, from zeros on. -/
def digestOf (hash : Bytes → Bytes) (size : Nat) (effects : List PolicyEffect) : Bytes :=
  effects.foldl (extend hash size) (Bytes.zeros size)

/-- All that is hashed for `effects`, if the digest before them is `digest`. -/
def inputsFrom (hash : Bytes → Bytes) (size : Nat) (digest : Bytes) :
    List PolicyEffect → List Bytes
  | [] => []
  | effect :: effects =>
    effect.messages hash size digest ++
      inputsFrom hash size (effect.extend hash size digest) effects

/-- All that is hashed for the digest of a policy. -/
def inputs (hash : Bytes → Bytes) (size : Nat) (effects : List PolicyEffect) : List Bytes :=
  inputsFrom hash size (Bytes.zeros size) effects

/-- The policy from its last approval on, all of it if there is none. -/
def sinceApproval : List PolicyEffect → List PolicyEffect
  | [] => []
  | effect :: effects =>
    if effects.any isApproval then sinceApproval effects else effect :: effects

theorem digestOf_concat (effects : List PolicyEffect) (effect : PolicyEffect) :
    digestOf hash size (effects ++ [effect]) =
      hash (effect.lastMessage hash size (digestOf hash size effects)) := by
  rw [digestOf, List.foldl_append, List.foldl_cons, List.foldl_nil, extend_eq]
  rfl

theorem inputsFrom_concat (effects : List PolicyEffect) (effect : PolicyEffect) :
    inputsFrom hash size digest (effects ++ [effect]) =
      inputsFrom hash size digest effects ++
        effect.messages hash size (effects.foldl (extend hash size) digest) := by
  induction effects generalizing digest with
  | nil => exact List.append_nil _
  | cons first others ih =>
    rw [List.cons_append, inputsFrom, inputsFrom, ih, List.append_assoc, List.foldl_cons]

theorem inputs_concat (effects : List PolicyEffect) (effect : PolicyEffect) :
    inputs hash size (effects ++ [effect]) =
      inputs hash size effects ++ effect.messages hash size (digestOf hash size effects) :=
  inputsFrom_concat effects effect

theorem sinceApproval_concat (effects : List PolicyEffect) (effect : PolicyEffect) :
    sinceApproval (effects ++ [effect]) =
      if effect.isApproval then [effect] else sinceApproval effects ++ [effect] := by
  induction effects with
  | nil => cases effect.isApproval <;> rfl
  | cons first others ih =>
    rw [List.cons_append, sinceApproval, sinceApproval, ih, List.any_append]
    by_cases happroval : effect.isApproval
    · simp [happroval]
    · by_cases hothers : others.any isApproval <;> simp [happroval, hothers]

/-! ## Policies with one digest -/

/-- Of two different messages the hash is different, and of none it is zero. -/
structure Sound (hash : Bytes → Bytes) (size : Nat) (hashed : List Bytes) : Prop where
  injective : ∀ a ∈ hashed, ∀ b ∈ hashed, hash a = hash b → a = b
  nonzero : ∀ a ∈ hashed, hash a ≠ Bytes.zeros size

variable {hashed : List Bytes} {p q : List PolicyEffect} {e f : PolicyEffect}

/-- Two equal statements are of one digest, marker and addition. -/
theorem statement_inj {d d' : Bytes} (hbase : (e.base size d).length = (f.base size d').length)
    (heq : e.statement size d = f.statement size d') :
    e.base size d = f.base size d' ∧ e.marker = f.marker ∧ e.addition = f.addition := by
  obtain ⟨hdigest, hrest⟩ := List.append_inj heq hbase
  obtain ⟨hmarker, haddition⟩ := List.append_inj hrest (by rw [length_be32, length_be32])
  exact ⟨hdigest, be32_injective hmarker, haddition⟩

/-- What is hashed on the way to a longer policy. -/
theorem inputs_of_concat (h : inputs hash size (p ++ [e]) ⊆ hashed) :
    inputs hash size p ⊆ hashed ∧ e.messages hash size (digestOf hash size p) ⊆ hashed := by
  rw [inputs_concat] at h
  exact List.append_subset.mp h

section

variable (hlength : ∀ message, (hash message).length = size)

include hlength

theorem length_digestOf (effects : List PolicyEffect) :
    (digestOf hash size effects).length = size := by
  rcases List.eq_nil_or_concat effects with rfl | ⟨earlier, last, rfl⟩
  · exact Bytes.length_zeros size
  · rw [List.concat_eq_append, digestOf_concat]
    exact hlength _

theorem length_base (effects : List PolicyEffect) (effect : PolicyEffect) :
    (effect.base size (digestOf hash size effects)).length = size := by
  unfold base
  split
  · exact Bytes.length_zeros size
  · exact length_digestOf hlength effects

/-- The hash of a statement that has a reference is not the digest of a policy: its marker is not
that of an effect without one, and if it is the second message of an effect with one, then the
digest it starts from is such a hash too, of a shorter policy. -/
theorem hash_statement_ne_digest {p q : List PolicyEffect} {e : PolicyEffect} {policyRef : Bytes}
    (hsound : Sound hash size hashed) (href : e.policyRef? = some policyRef)
    (hp : inputs hash size (p ++ [e]) ⊆ hashed) (hq : inputs hash size q ⊆ hashed) :
    hash (e.statement size (digestOf hash size p)) ≠ digestOf hash size q := by
  intro heq
  obtain ⟨hearlier, hmessages⟩ := inputs_of_concat hp
  have hstatement := hmessages (statement_mem_messages e)
  rcases List.eq_nil_or_concat q with hnil | ⟨q', f, hconcat⟩
  · rw [hnil] at heq
    exact hsound.nonzero _ hstatement heq
  · rw [List.concat_eq_append] at hconcat
    have hshorter : q'.length < q.length := by rw [hconcat, List.length_append]; simp
    rw [hconcat] at heq hq
    obtain ⟨hearlier', hmessages'⟩ := inputs_of_concat hq
    rw [digestOf_concat] at heq
    have hsame := hsound.injective _ hstatement _ (hmessages' (lastMessage_mem_messages f)) heq
    cases href' : f.policyRef? with
    | none =>
      -- two statements: their markers differ
      rw [lastMessage, href'] at hsame
      obtain ⟨_, hmarker, _⟩ :=
        statement_inj (by rw [length_base hlength, length_base hlength]) hsame
      exact marker_ne href' href hmarker.symm
    | some ref' =>
      -- the statement starts with the hash of another, which is its digest and no zeros
      rw [lastMessage, href'] at hsame
      have hbase : e.base size (digestOf hash size p) =
          hash (f.statement size (digestOf hash size q')) :=
        List.append_inj_left hsame (by rw [length_base hlength, hlength])
      unfold base at hbase
      split at hbase
      · exact hsound.nonzero _ (hmessages' (statement_mem_messages f)) hbase.symm
      · exact hash_statement_ne_digest hsound href' hq hearlier hbase.symm
termination_by p.length + q.length
decreasing_by omega

/-- Policies with one digest end in one effect, and were of one digest before it unless it is an
approval. -/
theorem last_eq_of_digestOf_eq (hsound : Sound hash size hashed)
    (hp : inputs hash size (p ++ [e]) ⊆ hashed) (hq : inputs hash size (q ++ [f]) ⊆ hashed)
    (he : e.Valid) (hf : f.Valid)
    (heq : digestOf hash size (p ++ [e]) = digestOf hash size (q ++ [f])) :
    e = f ∧ (e.isApproval = false → digestOf hash size p = digestOf hash size q) := by
  obtain ⟨hearlier, hmessages⟩ := inputs_of_concat hp
  obtain ⟨hearlier', hmessages'⟩ := inputs_of_concat hq
  rw [digestOf_concat, digestOf_concat] at heq
  have hsame := hsound.injective _ (hmessages (lastMessage_mem_messages e)) _
    (hmessages' (lastMessage_mem_messages f)) heq
  have hbases : (e.base size (digestOf hash size p)).length =
      (f.base size (digestOf hash size q)).length := by
    rw [length_base hlength, length_base hlength]
  -- once the statements are known to be equal, so are the effects
  have finish : e.policyRef? = f.policyRef? →
      e.statement size (digestOf hash size p) = f.statement size (digestOf hash size q) →
      e = f ∧ (e.isApproval = false → digestOf hash size p = digestOf hash size q) := by
    intro href hstatement
    obtain ⟨hbase, hmarker, haddition⟩ := statement_inj hbases hstatement
    have hef := eq_of_parts he hf hmarker haddition href
    refine ⟨hef, ?_⟩
    intro happroval
    rw [base, base, ← hef, happroval] at hbase
    exact hbase
  unfold lastMessage at hsame
  cases href : e.policyRef? with
  | none =>
    cases href' : f.policyRef? with
    | none =>
      rw [href, href'] at hsame
      exact finish (href.trans href'.symm) hsame
    | some ref' =>
      -- the digest before `e` would be the hash of a statement with a reference
      rw [href, href'] at hsame
      have hbase := List.append_inj_left hsame (by rw [length_base hlength, hlength])
      rw [base_of_policyRef?_eq_none href] at hbase
      exact absurd hbase.symm (hash_statement_ne_digest hlength hsound href' hq hearlier)
  | some ref =>
    cases href' : f.policyRef? with
    | none =>
      rw [href, href'] at hsame
      have hbase := List.append_inj_left hsame (by rw [length_base hlength, hlength])
      rw [base_of_policyRef?_eq_none href'] at hbase
      exact absurd hbase (hash_statement_ne_digest hlength hsound href hp hearlier')
    | some ref' =>
      -- two second messages: first the references are the same, then the statements
      rw [href, href'] at hsame
      obtain ⟨hhash, rfl⟩ := List.append_inj hsame (by rw [hlength, hlength])
      have hstatement := hsound.injective _ (hmessages (statement_mem_messages e)) _
        (hmessages' (statement_mem_messages f)) hhash
      exact finish (href.trans href'.symm) hstatement

/-- Policies with one digest are the same from their last approval on. -/
theorem sinceApproval_eq_of_digestOf_eq (hsound : Sound hash size hashed)
    (hp : inputs hash size p ⊆ hashed) (hq : inputs hash size q ⊆ hashed)
    (hvalid : ∀ e ∈ p, e.Valid) (hvalid' : ∀ f ∈ q, f.Valid)
    (heq : digestOf hash size p = digestOf hash size q) : sinceApproval p = sinceApproval q := by
  -- the digest of a policy that has an effect is the hash of one of its messages
  have nonzero : ∀ {earlier : List PolicyEffect} {last : PolicyEffect},
      inputs hash size (earlier ++ [last]) ⊆ hashed →
      digestOf hash size (earlier ++ [last]) ≠ Bytes.zeros size := by
    intro earlier last h
    rw [digestOf_concat]
    exact hsound.nonzero _ ((inputs_of_concat h).2 (lastMessage_mem_messages last))
  induction p using List.reverseRecOn generalizing q with
  | nil =>
    rcases List.eq_nil_or_concat q with rfl | ⟨q', f, rfl⟩
    · rfl
    · rw [List.concat_eq_append] at heq hq
      exact absurd heq.symm (nonzero hq)
  | append_singleton p' e ih =>
    rcases List.eq_nil_or_concat q with rfl | ⟨q', f, rfl⟩
    · exact absurd heq (nonzero hp)
    · rw [List.concat_eq_append] at heq hq hvalid' ⊢
      have he := hvalid e List.mem_concat_self
      have hf := hvalid' f List.mem_concat_self
      obtain ⟨rfl, hdigest⟩ := last_eq_of_digestOf_eq hlength hsound hp hq he hf heq
      rw [sinceApproval_concat, sinceApproval_concat]
      cases happroval : e.isApproval with
      | true =>
        -- what came before the approval is cut off on both sides
        rfl
      | false =>
        rw [ih (inputs_of_concat hp).1 (inputs_of_concat hq).1
          (fun x hx => hvalid x (List.mem_append_left _ hx))
          (fun x hx => hvalid' x (List.mem_append_left _ hx)) (hdigest happroval)]

end

end

/-! ## The digests that assertions compute -/

theorem foldlM_apply_eq_ok_iff {crypto : Crypto} {hash : HashId} {effects : List PolicyEffect}
    {digest result : Bytes} :
    effects.foldlM (apply crypto hash.alg) digest = .ok result ↔
      result = effects.foldl (extend (crypto.hash hash) hash.digestSize) digest := by
  induction effects generalizing digest with
  | nil =>
    rw [List.foldlM_nil, Except.pure_eq_ok_iff]
    exact eq_comm
  | cons effect effects ih =>
    rw [List.foldlM_cons, Except.bind_eq_ok_iff, List.foldl_cons]
    constructor
    · intro hchain
      obtain ⟨next, happly, hrest⟩ := hchain
      obtain ⟨other, hother, rfl⟩ := apply_eq_ok_iff.mp happly
      obtain rfl := HashId.alg_injective hother
      exact ih.mp hrest
    · intro hresult
      exact ⟨_, apply_eq_ok_iff.mpr ⟨hash, rfl, rfl⟩, ih.mpr hresult⟩

/-- Two policies that come to the same digest are the same from their last approval on, or two
different messages hashed for them have the same hash, or the hash of one is zero. -/
theorem sinceApproval_eq_or_broken_hash {random : Nat → Nat → Bytes} {hash : HashId}
    {xs ys : List PolicyEffect} {digest : Bytes} (hxs : ∀ x ∈ xs, x.Valid) (hys : ∀ y ∈ ys, y.Valid)
    (hx : xs.foldlM (apply (.standard random) hash.alg) (Bytes.zeros hash.digestSize) = .ok digest)
    (hy : ys.foldlM (apply (.standard random) hash.alg) (Bytes.zeros hash.digestSize)
      = .ok digest) :
    let hashed := inputs hash.digest hash.digestSize xs ++ inputs hash.digest hash.digestSize ys
    sinceApproval xs = sinceApproval ys ∨
      (∃ a ∈ hashed, ∃ b ∈ hashed, a ≠ b ∧ hash.digest a = hash.digest b) ∨
      ∃ a ∈ hashed, hash.digest a = Bytes.zeros hash.digestSize := by
  intro hashed
  by_cases hcollision : ∃ a ∈ hashed, ∃ b ∈ hashed, a ≠ b ∧ hash.digest a = hash.digest b
  · exact .inr (.inl hcollision)
  by_cases hzero : ∃ a ∈ hashed, hash.digest a = Bytes.zeros hash.digestSize
  · exact .inr (.inr hzero)
  left
  have hsound : Sound hash.digest hash.digestSize hashed := by
    constructor
    · intro a ha b hb heq
      by_contra hne
      exact hcollision ⟨a, ha, b, hb, hne, heq⟩
    · intro a ha heq
      exact hzero ⟨a, ha, heq⟩
  have heq : digestOf hash.digest hash.digestSize xs = digestOf hash.digest hash.digestSize ys :=
    (foldlM_apply_eq_ok_iff.mp hx).symm.trans (foldlM_apply_eq_ok_iff.mp hy)
  exact sinceApproval_eq_of_digestOf_eq hash.length_digest hsound (List.subset_append_left _ _)
    (List.subset_append_right _ _) hxs hys heq

/-- An approval forgets what was before it: the two policies differ there only. -/
theorem sinceApproval_eq_or_broken_hash_of_approval :
    let tail : List PolicyEffect := [.approval [1] [2], .pcr (.single .sha256 [7]) [3]]
    let hashed :=
      inputs HashId.sha256.digest HashId.sha256.digestSize (.authValue :: tail) ++
        inputs HashId.sha256.digest HashId.sha256.digestSize tail
    sinceApproval (.authValue :: tail) = sinceApproval tail ∨
      (∃ a ∈ hashed, ∃ b ∈ hashed,
        a ≠ b ∧ HashId.sha256.digest a = HashId.sha256.digest b) ∨
      ∃ a ∈ hashed, HashId.sha256.digest a = Bytes.zeros HashId.sha256.digestSize := by
  intro tail
  have hvalid : ∀ e ∈ tail, e.Valid := by
    intro e he
    rcases List.mem_cons.mp he with rfl | he
    · exact trivial
    · rw [List.mem_singleton.mp he]
      exact (by decide : (PcrSelections.single .sha256 [7]).Valid)
  have hvalid' : ∀ e ∈ .authValue :: tail, e.Valid := by
    intro e he
    rcases List.mem_cons.mp he with rfl | he
    · exact trivial
    · exact hvalid e he
  have hfold (effects : List PolicyEffect) :
      effects.foldlM (apply (.standard fun _ _ => []) HashId.sha256.alg)
          (Bytes.zeros HashId.sha256.digestSize)
        = .ok (digestOf HashId.sha256.digest HashId.sha256.digestSize effects) :=
    foldlM_apply_eq_ok_iff.mpr rfl
  have hsame : digestOf HashId.sha256.digest HashId.sha256.digestSize (.authValue :: tail) =
      digestOf HashId.sha256.digest HashId.sha256.digestSize tail := by
    simp only [tail, digestOf, List.foldl_cons, extend]
  have hx := hfold (.authValue :: tail)
  rw [hsame] at hx
  exact sinceApproval_eq_or_broken_hash hvalid' hvalid hx (hfold tail)

end TrustedPlatform.PolicyEffect
