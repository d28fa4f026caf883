import TrustedPlatform.Proofs.Engine.Atomicity
import TrustedPlatform.Proofs.Engine.Process
import TrustedPlatform.Proofs.Envelope.Request

/-!
# The limit of responses

The limit of responses has no part in what a command does. `outcome_under_limit` compares the runs
of one envelope under all limits, from one state of the engine: either it stops under all of them in
the same way, or there is one response with one state, which is the outcome under every limit that
is no shorter than the response. Under the others the command is refused for the length of its
response, and its sessions are put back.
-/

namespace TrustedPlatform.Engine

/-! ## Runs that differ in their limits -/

/-- The runs under the limits are those of a run without a limit, except that a response does not
get past a limit below its length: the run ends in `tooLong` then. -/
inductive Filters {ε σ : Type} (tooLong : ε) (run : Nat → EStateM.Result ε σ Bytes) :
    EStateM.Result ε σ Bytes → Prop
  | stopped {stop : ε} {stopped : σ} (hstop : ∀ limit, run limit = .error stop stopped) :
    Filters tooLong run (.error stop stopped)
  | answered {response : Bytes} {next : σ}
      (hfits : ∀ limit, response.length ≤ limit → run limit = .ok response next)
      (hlong : ∀ limit, limit < response.length → ∃ stopped, run limit = .error tooLong stopped) :
    Filters tooLong run (.ok response next)

namespace Filters

variable {ε σ : Type} {tooLong : ε} {run : Nat → EStateM.Result ε σ Bytes}
  {unlimited : EStateM.Result ε σ Bytes}

/-- The run without a limit is the one under every limit that is high enough. -/
theorem eq_iff (h : Filters tooLong run unlimited) (result : EStateM.Result ε σ Bytes) :
    (∃ enough, ∀ limit, enough ≤ limit → run limit = result) ↔ result = unlimited := by
  obtain ⟨enough, henough⟩ : ∃ enough, ∀ limit, enough ≤ limit → run limit = unlimited := by
    cases h with
    | stopped hstop => exact ⟨0, fun limit _ => hstop limit⟩
    | @answered response _ hfits => exact ⟨response.length, hfits⟩
  constructor
  · rintro ⟨other, hother⟩
    have hboth := hother (max enough other) (Nat.le_max_right ..)
    rw [← hboth]
    exact henough _ (Nat.le_max_left ..)
  · rintro rfl
    exact ⟨enough, henough⟩

/-- A response gets past every higher limit too. -/
theorem mono (h : Filters tooLong run unlimited) {limit higher : Nat} {response : Bytes} {next : σ}
    (hle : limit ≤ higher) (hok : run limit = .ok response next) :
    run higher = .ok response next := by
  cases h with
  | stopped hstop => cases (hstop limit).symm.trans hok
  | @answered other _ hfits hlong =>
    by_cases hroom : other.length ≤ limit
    · rw [hfits higher (Nat.le_trans hroom hle), ← hfits limit hroom]
      exact hok
    · obtain ⟨_, hstop⟩ := hlong limit (Nat.lt_of_not_le hroom)
      cases hstop.symm.trans hok

end Filters

/-! ## Accepted requests and envelopes -/

/-- Whether the response fits is all that the limit decides about an accepted request. -/
theorem respond_filters (env : Environment) (command : Command) (request : Request)
    (state : State) :
    ∃ unlimited,
      Filters Response.tooLong (respond env · command request state) unlimited := by
  cases course env command request state with
  | malformed hareas => exact ⟨_, .stopped (respond_of_malformed hareas)⟩
  | stopped hareas hperform => exact ⟨_, .stopped (respond_of_stopped hareas hperform)⟩
  | @performed _ answer _ answered answers hareas hperform hanswers =>
    have hrespond := respond_of_performed hareas hperform hanswers
    refine ⟨.ok (Response.envelope request.header.tag answer answers) { answered with
      sessions := useSessions answered.sessions request.sessions answers }, .answered ?_ ?_⟩
    · intro limit hfits
      exact (hrespond limit).trans (if_pos hfits)
    · intro limit hlong
      exact ⟨_, (hrespond limit).trans (if_neg (Nat.not_le.mpr hlong))⟩

theorem process_filters (env : Environment) (envelope : Bytes) (state : State) :
    ∃ unlimited,
      Filters (Response.tooLong.inCommand (claimedCommandCode envelope))
        (process env · envelope state) unlimited := by
  unfold process
  cases hparse : RequestHeader.parse envelope with
  | error cause => exact ⟨_, .stopped fun _ => rfl⟩
  | ok header =>
    dsimp only
    cases accept env state.sessions header envelope with
    | error fault => exact ⟨_, .stopped fun _ => rfl⟩
    | ok accepted =>
      obtain ⟨command, request⟩ := accepted
      obtain ⟨unlimited, hfilters⟩ := respond_filters env command request state
      rw [RequestHeader.claimedCommandCode_of_parse hparse]
      cases hfilters with
      | @stopped stop stopped hstop =>
        refine ⟨.error (stop.inCommand header.commandCode)
          { stopped with sessions := state.sessions }, .stopped fun limit => ?_⟩
        dsimp only
        rw [hstop limit]
      | @answered response next hfits hlong =>
        refine ⟨.ok response next, .answered ?_ ?_⟩
        · intro limit hroom
          dsimp only
          rw [hfits limit hroom]
        · intro limit hshort
          obtain ⟨stopped, hstop⟩ := hlong limit hshort
          dsimp only
          rw [hstop]
          exact ⟨_, rfl⟩

/-! ## The theorem -/

/-- The engine, with responses of up to `limit` octets. -/
def withLimit (engine : Engine) (limit : Nat) : Engine :=
  { engine with config := { engine.config with maxResponseSize := limit } }

/-- What comes of the command of an envelope: the response, or why there is none, and the state that
it leaves. -/
def outcome (engine : Engine) (envelope : Bytes) : EStateM.Result CommandStop State Bytes :=
  match executeCommand envelope engine with
  | .ok response next => .ok response next.state
  | .error stop stopped => .error stop stopped.state

/-- What comes of the command if responses are as long as they like: what comes of it under every
limit that is high enough. -/
def UnlimitedOutcome (engine : Engine) (envelope : Bytes)
    (result : EStateM.Result CommandStop State Bytes) : Prop :=
  ∃ enough, ∀ limit, enough ≤ limit → (engine.withLimit limit).outcome envelope = result

theorem outcome_withLimit (engine : Engine) (envelope : Bytes) (limit : Nat) :
    (engine.withLimit limit).outcome envelope
      = process engine.env limit envelope engine.state := by
  unfold outcome executeCommand withLimit
  cases process engine.env limit envelope engine.state <;> rfl

/-- A limit is a filter of responses, whatever the state of the engine and whatever octets it gets.
There is exactly one thing that comes of a command without a limit. If it stops, then it stops in
the same way under every limit. If it is answered, then so it is, with the same state, under every
limit that leaves room for the response; under every other one it is refused because the response
has no room, and the sessions are those from before. So a limit that lets a response pass can be
raised. -/
theorem outcome_under_limit (engine : Engine) (envelope : Bytes) :
    ∃ unlimited : EStateM.Result CommandStop State Bytes,
      (∀ result, UnlimitedOutcome engine envelope result ↔ result = unlimited) ∧
      (∀ stop stopped, unlimited = .error stop stopped →
        stopped.sessions = engine.state.sessions ∧
        ∀ limit, (engine.withLimit limit).outcome envelope = .error stop stopped) ∧
      (∀ response next, unlimited = .ok response next → ∀ limit,
        (response.length ≤ limit →
          (engine.withLimit limit).outcome envelope = .ok response next) ∧
        (limit < response.length → ∃ stopped,
          (engine.withLimit limit).outcome envelope
            = .error (.refused ⟨claimedCommandCode envelope,
              (Cause.exhausted .responseBuffer).unattributed⟩) stopped ∧
          stopped.sessions = engine.state.sessions)) ∧
      ∀ limit higher response next, limit ≤ higher →
        (engine.withLimit limit).outcome envelope = .ok response next →
        (engine.withLimit higher).outcome envelope = .ok response next := by
  obtain ⟨unlimited, hfilters⟩ := process_filters engine.env envelope engine.state
  unfold UnlimitedOutcome
  simp only [outcome_withLimit]
  refine ⟨unlimited, hfilters.eq_iff, ?_, ?_, fun _ _ _ _ hle => hfilters.mono hle⟩
  · rintro stop stopped rfl
    cases hfilters with
    | stopped hstop => exact ⟨(process_error (hstop 0)).1, hstop⟩
  · rintro response next rfl limit
    cases hfilters with
    | answered hfits hlong =>
      refine ⟨hfits limit, fun hshort => ?_⟩
      obtain ⟨stopped, hstop⟩ := hlong limit hshort
      exact ⟨stopped, hstop, (process_error hstop).1⟩

end TrustedPlatform.Engine
