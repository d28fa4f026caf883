import TrustedPlatform.Proofs.Engine.PolicyHistory
import TrustedPlatform.Proofs.ObjectTable

/-!
# How long a handle names the key that was loaded

A key handle that is not unloaded names its key while fewer than `2 ^ 24` keys are loaded after it,
whatever else happens to the engine. The key that is loaded as the `2 ^ 24`-th after it gets the
same handle, and takes its place there, whether it is still in use or not.
-/

namespace TrustedPlatform.Engine

variable {engine : Engine} {entity : Entity} {loads : Nat} {event : Event} {events : List Event}

/-- The event loads a key. -/
def Event.loadsKey : Event → Bool
  | .loadKey _ _ => true
  | _ => false

/-- Nothing but loading and unloading changes what is loaded. -/
theorem objects_after (engine : Engine) (event : Event) :
    (engine.after event).env.objects =
      match event with
      | .loadKey key hierarchy => (engine.env.objects.load key hierarchy).2
      | .unloadKey handle => (engine.env.objects.unload handle).2
      | _ => engine.env.objects := by
  cases event with
  | command envelope => rw [after_command_eq]
  | extendPcr index data =>
    rw [after_extendPcr_eq]
    rfl
  | _ => rfl

/-! ## What a run does to one key -/

/-- A key stays under its handle if it is not unloaded; another key that is loaded takes one of the
loads until the handle comes round. -/
theorem keeps_after (hkept : event ≠ .unloadKey entity.handle)
    (h : engine.env.objects.Keeps entity (loads + if event.loadsKey then 1 else 0)) :
    (engine.after event).env.objects.Keeps entity loads := by
  rw [objects_after]
  cases event with
  | loadKey key hierarchy => exact h.load key hierarchy
  | unloadKey handle =>
    refine ObjectTable.Keeps.unload h ?_
    rintro rfl
    exact hkept rfl
  | _ => exact h

theorem keeps_afterAll (hkept : .unloadKey entity.handle ∉ events)
    (h : engine.env.objects.Keeps entity (loads + events.countP (·.loadsKey))) :
    (engine.afterAll events).env.objects.Keeps entity loads := by
  induction events generalizing engine with
  | nil => exact h
  | cons event events ih =>
    obtain ⟨hfirst, hothers⟩ := not_or.mp (List.mem_cons.not.mp hkept)
    rw [List.countP_cons, ← Nat.add_assoc] at h
    exact ih hothers (keeps_after (Ne.symm hfirst) h)

/-- The index of handles counts the loads. -/
theorem nextIndex_afterAll (engine : Engine) (events : List Event) :
    (engine.afterAll events).env.objects.nextIndex
      = engine.env.objects.nextIndex + UInt32.ofNat (events.countP (·.loadsKey)) := by
  refine counter_afterAll (·.env.objects.nextIndex) _ (fun engine event => ?_) engine events
  rw [objects_after]
  cases event <;> rfl

/-! ## The theorems -/

variable {key key' : PublicKey} {hierarchy hierarchy' : UInt32}

/-- A key that was loaded is found under its handle as long as the handle is not unloaded and fewer
than `2 ^ 24` keys are loaded after it. -/
theorem loaded_key_stays (hloads : events.countP (·.loadsKey) < 2 ^ 24)
    (hkept : .unloadKey (engine.loadKey key hierarchy).1.handle ∉ events) :
    let (entity, loaded) := engine.loadKey key hierarchy
    (loaded.afterAll events).env.objects.resolve entity.handle = some entity := by
  have hround : (engine.loadKey key hierarchy).2.env.objects.Keeps
      (engine.loadKey key hierarchy).1
      (2 ^ 24 - 1 - events.countP (·.loadsKey) + events.countP (·.loadsKey)) := by
    rw [Nat.sub_add_cancel (Nat.le_sub_one_of_lt hloads)]
    exact .of_load engine.env.objects key hierarchy
  exact (keeps_afterAll hkept hround).resolve_eq

/-- A key that is loaded later gets the same handle exactly if the handles have come round in the
meantime. -/
theorem handle_loadKey_eq_iff (engine : Engine) (events : List Event) :
    let (entity, loaded) := engine.loadKey key hierarchy
    ((loaded.afterAll events).loadKey key' hierarchy').1.handle = entity.handle
      ↔ 2 ^ 24 ∣ events.countP (·.loadsKey) + 1 := by
  show HandleKind.transient.handle (afterAll _ events).env.objects.nextIndex
      = HandleKind.transient.handle engine.env.objects.nextIndex ↔ _
  rw [nextIndex_afterAll]
  show HandleKind.transient.handle (engine.env.objects.nextIndex + 1 + _) = _ ↔ _
  rw [add_one_add_ofNat, HandleKind.handle_add_eq_iff]

/-- The key that is loaded a round after another one takes its place, unloaded or not. -/
theorem loaded_key_is_displaced (hloads : events.countP (·.loadsKey) + 1 = 2 ^ 24) :
    let (entity, loaded) := engine.loadKey key hierarchy
    let (entity', later) := (loaded.afterAll events).loadKey key' hierarchy'
    later.env.objects.resolve entity.handle = some entity' := by
  have hround :
      (((engine.loadKey key hierarchy).2.afterAll events).loadKey key' hierarchy').1.handle
      = (engine.loadKey key hierarchy).1.handle :=
    (handle_loadKey_eq_iff engine events).mpr (by omega)
  exact (ObjectTable.resolve_load ..).trans (if_pos hround.symm)

end TrustedPlatform.Engine
