import TrustedPlatform.ObjectTable
import TrustedPlatform.Proofs.Handle

/-!
# Keys under their handles

A key is found under its handle until the handle is unloaded or the handles of all indices have
been gone through: the table does not look whether the next handle is free. `Keeps` counts the loads
until then.
-/

namespace TrustedPlatform.ObjectTable

open Handle (lookup_cons lookup_filter_ne)

variable {table : ObjectTable} {entity : Entity} {handle : UInt32} {loads : Nat}

/-- The handle of a key is not that of a hierarchy. -/
theorem isHierarchy_handle (index : UInt32) :
    isHierarchy (HandleKind.transient.handle index) = false := by
  have hne : ∀ other : UInt32, (other >>> 24).toUInt8 = 0x40 →
      HandleKind.transient.handle index ≠ other := by
    rintro _ hoctet rfl
    rw [HandleKind.octet_handle] at hoctet
    exact absurd hoctet (by decide)
  unfold isHierarchy
  rw [decide_eq_false_iff_not]
  rintro (h | h | h | h)
  · exact hne _ (by decide) h
  · exact hne _ (by decide) h
  · exact hne _ (by decide) h
  · exact hne _ (by decide) h

@[simp] theorem nextIndex_load (table : ObjectTable) (key : PublicKey) (hierarchy : UInt32) :
    (table.load key hierarchy).2.nextIndex = table.nextIndex + 1 := rfl

@[simp] theorem handle_load (table : ObjectTable) (key : PublicKey) (hierarchy : UInt32) :
    (table.load key hierarchy).1.handle = HandleKind.transient.handle table.nextIndex := rfl

theorem entries_load (table : ObjectTable) (key : PublicKey) (hierarchy : UInt32) :
    (table.load key hierarchy).2.entries =
      ((table.load key hierarchy).1.handle, (table.load key hierarchy).1) ::
        table.entries.filter (·.1 ≠ (table.load key hierarchy).1.handle) := rfl

/-- A key that was loaded is found under its handle, and everything else is as it was. -/
theorem resolve_load (table : ObjectTable) (key : PublicKey) (hierarchy other : UInt32) :
    (table.load key hierarchy).2.resolve other =
      if other = (table.load key hierarchy).1.handle then some (table.load key hierarchy).1
      else table.resolve other := by
  unfold resolve
  rw [entries_load, lookup_cons]
  by_cases hother : other = (table.load key hierarchy).1.handle
  · rw [if_pos hother, if_pos hother, hother, handle_load, isHierarchy_handle]
    rfl
  · rw [if_neg hother, if_neg hother, lookup_filter_ne, if_neg hother]

/-- What was unloaded is not found any more, and everything else is as it was. -/
theorem resolve_unload_of_ne {other : UInt32} (h : other ≠ handle) :
    (table.unload handle).2.resolve other = table.resolve other := by
  unfold resolve unload
  rw [lookup_filter_ne, if_neg h]

/-- The entity is found under its handle, and none of the next keys that are loaded, as many as
`loads`, gets this handle. -/
structure Keeps (table : ObjectTable) (entity : Entity) (loads : Nat) : Prop where
  resolve_eq : table.resolve entity.handle = some entity
  handle_ne : ∀ i < loads,
    HandleKind.transient.handle (table.nextIndex + UInt32.ofNat i) ≠ entity.handle

namespace Keeps

/-- A key that was loaded has its handle for a round. -/
theorem of_load (table : ObjectTable) (key : PublicKey) (hierarchy : UInt32) :
    (table.load key hierarchy).2.Keeps (table.load key hierarchy).1 (2 ^ 24 - 1) where
  resolve_eq := by rw [resolve_load, if_pos rfl]
  handle_ne i hi := by
    rw [nextIndex_load, handle_load, add_one_add_ofNat, ne_eq, HandleKind.handle_add_eq_iff]
    omega

theorem handle_load_ne (h : table.Keeps entity (loads + 1)) (key : PublicKey)
    (hierarchy : UInt32) : (table.load key hierarchy).1.handle ≠ entity.handle := by
  have hnext := h.handle_ne 0 (Nat.succ_pos loads)
  rw [show UInt32.ofNat 0 = 0 from rfl, UInt32.add_zero] at hnext
  exact hnext

/-- Another key that is loaded takes one of the loads. -/
theorem load (h : table.Keeps entity (loads + 1)) (key : PublicKey) (hierarchy : UInt32) :
    (table.load key hierarchy).2.Keeps entity loads where
  resolve_eq := by
    rw [resolve_load, if_neg (h.handle_load_ne key hierarchy).symm]
    exact h.resolve_eq
  handle_ne i hi := by
    have hnext := h.handle_ne (i + 1) (Nat.succ_lt_succ hi)
    rw [← add_one_add_ofNat] at hnext
    exact hnext

theorem unload (h : table.Keeps entity loads) (hne : handle ≠ entity.handle) :
    (table.unload handle).2.Keeps entity loads where
  resolve_eq := by
    rw [resolve_unload_of_ne hne.symm]
    exact h.resolve_eq
  handle_ne := h.handle_ne

end Keeps

end TrustedPlatform.ObjectTable
