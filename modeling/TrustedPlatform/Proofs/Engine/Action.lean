import TrustedPlatform.Engine.Process
import TrustedPlatform.Proofs.Computation

/-!
# How far an action can go

`action.Within R` says that `R` relates the state that the action starts from to the state that it
ends in, whether it gives a value or stops. If `R` composes, then an action is within `R` as soon as
each of its steps is. Two such relations are of use: no draw is taken back (`Advances`), and no
session is touched either (`KeepsSessions`).
-/

namespace TrustedPlatform.Engine

/-- Draws are made, not taken back. -/
def State.Advances (state next : State) : Prop := state.draws ≤ next.draws

/-- Draws are made, and the session table stays as it is. -/
def State.KeepsSessions (state next : State) : Prop :=
  next.sessions = state.sessions ∧ state.draws ≤ next.draws

namespace Action

/-- The action ends in a state that `R` relates its first state to. -/
def Within {α : Type} (R : State → State → Prop) (action : Action α) : Prop :=
  ∀ state, match action state with
    | .ok _ next | .error _ next => R state next

/-- `R` holds of a chain of steps if it holds of each step. -/
structure Composes (R : State → State → Prop) : Prop where
  refl : ∀ state, R state state
  trans : ∀ {a b c}, R a b → R b c → R a c

theorem composes_advances : Composes State.Advances where
  refl _ := Nat.le_refl _
  trans := Nat.le_trans

theorem composes_keepsSessions : Composes State.KeepsSessions where
  refl _ := ⟨rfl, Nat.le_refl _⟩
  trans h h' := ⟨h'.1.trans h.1, Nat.le_trans h.2 h'.2⟩

namespace Within

variable {R : State → State → Prop} {α β : Type}

/-- What an action within a relation does if it gives a value. -/
theorem ok {action : Action α} {state next : State} {value : α} (h : action.Within R)
    (heq : action state = .ok value next) : R state next := by
  have hstate := h state
  rw [heq] at hstate
  exact hstate

theorem error {action : Action α} {state next : State} {stop : Stop} (h : action.Within R)
    (heq : action state = .error stop next) : R state next := by
  have hstate := h state
  rw [heq] at hstate
  exact hstate

/-! ## Steps -/

section

variable (hR : Composes R)

include hR

theorem pure (value : α) : Within R (Pure.pure value : Action α) := hR.refl

theorem throw (stop : Stop) : Within R (MonadExcept.throw stop : Action α) := hR.refl

theorem reject (fault : Fault) : Within R (Action.reject fault : Action α) := hR.refl

theorem ofExcept (result : Except Stop α) : Within R (Action.ofExcept result) := by
  cases result with
  | ok value => exact pure hR value
  | error stop => exact throw hR stop

theorem ofFault (result : Except Fault α) : Within R (Action.ofFault result) := by
  cases result with
  | ok value => exact pure hR value
  | error fault => exact reject hR fault

theorem session? (handle : UInt32) : Within R (Action.session? handle) := hR.refl

theorem written (writer : Writer α) (out : Bytes) : Within R (Engine.written writer out) := by
  unfold Engine.written
  cases writer out with
  | ok _ out => exact pure hR out
  | error stop _ => exact throw hR stop

theorem bind {action : Action α} {next : α → Action β} (h : action.Within R)
    (hnext : ∀ value, (next value).Within R) : Within R (action >>= next) := by
  intro state
  show match EStateM.bind action next state with
    | .ok _ final | .error _ final => R state final
  unfold EStateM.bind
  cases haction : action state with
  | error stop stopped => exact h.error haction
  | ok value middle =>
    have hfirst := h.ok haction
    have hsecond := hnext value middle
    show match next value middle with
      | .ok _ final | .error _ final => R state final
    cases hresult : next value middle with
    | ok result final =>
      rw [hresult] at hsecond
      exact hR.trans hfirst hsecond
    | error stop stopped =>
      rw [hresult] at hsecond
      exact hR.trans hfirst hsecond

/-- A check that rejects, or goes on. -/
theorem rejectIf {check : Prop} [Decidable check] {fault : Fault} {rest : Action α}
    (h : rest.Within R) :
    Within R (if check then do (Action.reject fault : Action PUnit); rest else rest) := by
  split
  · exact bind hR (reject hR fault) fun _ => h
  · exact h

theorem mapM {f : α → Action β} (h : ∀ item, (f item).Within R) (items : List α) :
    Within R (items.mapM f) := by
  induction items with
  | nil => exact pure hR []
  | cons item items ih =>
    rw [List.mapM_cons]
    exact bind hR (h item) fun first => bind hR ih fun others => pure hR (first :: others)

end

/-! ## Draws and changes of the table -/

theorem draw_keepsSessions (crypto : Crypto) (size : Nat) :
    Within State.KeepsSessions (draw crypto size) := by
  intro state
  exact ⟨rfl, Nat.le_succ _⟩

theorem draw_advances (crypto : Crypto) (size : Nat) :
    Within State.Advances (draw crypto size) := by
  intro state
  exact Nat.le_succ _

theorem onSessions_advances (step : EStateM Stop SessionTable α) :
    Within State.Advances (onSessions step) := by
  intro state
  unfold onSessions
  cases step state.sessions <;> exact Nat.le_refl _

theorem onSessionsAt_advances (site : Cause → Fault) (step : EStateM Cause SessionTable α) :
    Within State.Advances (onSessionsAt site step) := by
  intro state
  unfold onSessionsAt
  cases step state.sessions <;> exact Nat.le_refl _

theorem modifySessions_advances (change : State → SessionTable) :
    Within State.Advances
      (modify fun state => { state with sessions := change state } : Action PUnit) := by
  intro state
  exact Nat.le_refl _

end Within

end Action

/-! ## Handlers -/

open TrustedPlatform.Engine.Action

theorem boundEntity_within {R : State → State → Prop} (hR : Composes R) (env : Environment)
    (bind : UInt32) : Within R (boundEntity env bind) := by
  unfold boundEntity
  split
  · exact .pure hR none
  · split
    · exact .pure hR _
    · exact .reject hR _

theorem startAuthSession_advances (env : Environment) (r : StartAuthSessionRequest) :
    Within State.Advances (startAuthSession env r) := by
  have hR := composes_advances
  unfold startAuthSession
  refine .rejectIf hR (.rejectIf hR (.bind hR (boundEntity_within hR env r.bind) fun bound => ?_))
  split
  · exact .reject hR _
  · refine .rejectIf hR (.bind hR (.draw_advances _ _) fun nonceTpm => ?_)
    exact .bind hR (.onSessions_advances _) fun handle => .pure hR _

theorem flushContext_advances (r : FlushContextRequest) :
    Within State.Advances (flushContext r) := by
  have hR := composes_advances
  unfold flushContext
  split
  · exact .bind hR (.onSessionsAt_advances _ _) fun _ => .pure hR _
  · exact .bind hR (.onSessionsAt_advances _ _) fun _ => .pure hR _
  · exact .reject hR _

theorem makeAssertion_advances (env : Environment) (handle : UInt32) (index : UInt8)
    (assertion : Assertion) : Within State.Advances (makeAssertion env handle index assertion) := by
  have hR := composes_advances
  refine .bind hR (.onSessionsAt_advances _ _) fun session => ?_
  refine .bind hR (.ofExcept hR _) fun applied => ?_
  exact .bind hR (.modifySessions_advances _) fun _ => .pure hR applied.2

theorem makePlainAssertion_advances (env : Environment) (handle : UInt32) (assertion : Assertion) :
    Within State.Advances (makePlainAssertion env handle assertion) :=
  .bind composes_advances (makeAssertion_advances env handle 1 assertion) fun _ =>
    .pure composes_advances _

theorem policySigned_advances (env : Environment) (r : PolicySignedRequest) :
    Within State.Advances (policySigned env r) := by
  have hR := composes_advances
  unfold policySigned
  split
  · exact .reject hR _
  · refine .bind hR (makeAssertion_advances env _ _ _) fun outcome => ?_
    cases outcome with
    | done => exact .reject hR _
    | signed timeout ticket => exact .pure hR _

theorem policyGetDigest_within {R : State → State → Prop} (hR : Composes R)
    (r : PolicyGetDigestRequest) : Within R (policyGetDigest r) := by
  unfold policyGetDigest
  refine .bind hR (.session? hR _) fun session => ?_
  cases session with
  | none => exact .reject hR _
  | some session =>
    exact .rejectIf hR (.pure hR _)

theorem verifySignature_within {R : State → State → Prop} (hR : Composes R) (env : Environment)
    (r : VerifySignatureRequest) : Within R (verifySignature env r) := by
  unfold verifySignature
  split
  · exact .reject hR _
  · split
    · exact .reject hR _
    · refine .rejectIf hR (.bind hR (.ofExcept hR _) fun valid => ?_)
      exact .rejectIf hR (.bind hR (.ofExcept hR _) fun ticket => .pure hR _)

/-- No command takes draws back. -/
theorem perform_advances (env : Environment) (command : Command) (r : command.Request) :
    Within State.Advances (perform env command r) := by
  cases command with
  | startAuthSession => exact startAuthSession_advances env r
  | flushContext => exact flushContext_advances r
  | policySigned => exact policySigned_advances env r
  | policyGetDigest => exact policyGetDigest_within composes_advances r
  | verifySignature => exact verifySignature_within composes_advances env r
  | _ => exact makePlainAssertion_advances env _ _

/-! ## Responses -/

/-- The entries of a response are made up without touching a session. -/
theorem answerEntries_keepsSessions (env : Environment) (entries : List AuthCommand) :
    Within State.KeepsSessions (entries.mapM (answerEntry env)) := by
  have hR := composes_keepsSessions
  refine .mapM hR (fun entry => ?_) entries
  unfold answerEntry
  refine .bind hR (.session? hR _) fun session => ?_
  cases session with
  | none => exact .pure hR _
  | some session => exact .bind hR (.draw_keepsSessions _ _) fun nonce => .pure hR _

theorem answerEntries_advances (env : Environment) (entries : List AuthCommand) :
    Within State.Advances (entries.mapM (answerEntry env)) := by
  intro state
  have h := answerEntries_keepsSessions env entries state
  split at h <;> exact h.2

theorem respond_advances (env : Environment) (limit : Nat) (command : Command)
    (request : Request) : Within State.Advances (respond env limit command request) := by
  have hR := composes_advances
  refine .bind hR (.ofFault hR _) fun arguments => ?_
  refine .bind hR (perform_advances env command arguments) fun answer => ?_
  refine .bind hR (.written hR _ _) fun out => ?_
  refine .bind hR (answerEntries_advances env request.sessions) fun answers => ?_
  refine .bind hR (.written hR _ _) fun out => ?_
  exact .bind hR (.modifySessions_advances _) fun _ => .pure hR out

end TrustedPlatform.Engine
