import SccpConfig.Reload
import SccpConfig.FindOrCreate
import SccpConfig.SetValueReport

/-!
# Reload flags

What `sccp_config_readDevicesLines` does to `pendingUpdate`. The device branch
clears `pendingDelete` on a device it finds before `sccp_config_buildDevice` tests
it together with the result of the pass, and a new device starts unmarked, so
building a device never sets `pendingUpdate`: on a reload a device is marked for
update only by a global change. The line branch leaves the mark to
`sccp_config_buildLine`, which sets `pendingUpdate` on a reset-class change.
-/

namespace SccpConfig

set_option autoImplicit false

variable (env : Env)

/-! ## One device -/

theorem sccpConfigBuildDevice_pendingUpdate (cfg : Config) (d : Device) (pairs : List (String × String))
    (h : d.pendingDelete = false) : (sccpConfigBuildDevice env cfg d pairs).pendingUpdate = d.pendingUpdate := by
  simp [sccpConfigBuildDevice, sccpConfigApplyDeviceConfiguration, h]

@[simp] theorem sccpConfigRestoreDeviceFeatureStatus_pendingUpdate (d : Device) :
    (sccpConfigRestoreDeviceFeatureStatus env d).pendingUpdate = d.pendingUpdate := rfl

theorem readCategory_cases (cfg : Config) (reg : Registry) (k : Category) :
    readCategory env cfg reg k = readDevice env cfg reg k ∨
      ((readCategory env cfg reg k).devices = reg.devices ∧
        (readCategory env cfg reg k).pendingUpdate = reg.pendingUpdate) := by
  unfold readCategory
  repeat' split
  all_goals first
    | exact Or.inl rfl
    | exact Or.inr ⟨rfl, rfl⟩
    | (right; unfold readLine; split <;> exact ⟨rfl, rfl⟩)

/-! ## The pass -/

/-- Neither the registry nor any device is marked for update. -/
def NoPendingUpdate (reg : Registry) : Prop :=
  reg.pendingUpdate = false ∧ ∀ d ∈ reg.devices, d.pendingUpdate = false

theorem readDevice_noPendingUpdate {reg : Registry} (h : NoPendingUpdate reg) (cfg : Config) (k : Category) :
    NoPendingUpdate (readDevice env cfg reg k) := by
  unfold readDevice
  cases sccpDeviceFindById reg.devices k.name with
  | none =>
    refine ⟨h.1, List.forall_mem_cons.mpr ⟨?_, h.2⟩⟩
    rw [sccpConfigRestoreDeviceFeatureStatus_pendingUpdate, sccpConfigBuildDevice_pendingUpdate _ _ _ _ rfl]
    rfl
  | some i =>
    refine ⟨h.1, forall_mem_modify _ (fun d hd => ?_) i _ h.2⟩
    rw [sccpConfigRestoreDeviceFeatureStatus_pendingUpdate, sccpConfigBuildDevice_pendingUpdate _ _ _ _ rfl]
    exact hd

theorem foldl_readCategory_noPendingUpdate (cfg : Config) (cats : List Category) :
    ∀ reg : Registry, NoPendingUpdate reg → NoPendingUpdate (cats.foldl (readCategory env cfg) reg) := by
  induction cats with
  | nil => intro reg h; exact h
  | cons k rest ih =>
    intro reg h
    refine ih _ ?_
    rcases readCategory_cases env cfg reg k with hr | ⟨hd, hp⟩
    · rw [hr]; exact readDevice_noPendingUpdate env h cfg k
    · exact ⟨hp.trans h.1, hd ▸ h.2⟩

theorem propagateGlobalUpdate_of_false (reg : Registry) (h : reg.pendingUpdate = false) :
    propagateGlobalUpdate reg = reg := by
  simp [propagateGlobalUpdate, h]

/-- When the `[general]` pass asked for no reset and no device was marked before,
no device is marked for update after reading the devices and lines, whatever the
sections change: the device-level result of `sccp_config_buildDevice` is never
recorded. -/
theorem readDevicesLines_device_update_never_set (cfg : Config) (readingtype : ReadingType) (reg : Registry)
    (hglobal : reg.pendingUpdate = false) (hdevices : ∀ d ∈ reg.devices, d.pendingUpdate = false) :
    ∀ d ∈ (sccpConfigReadDevicesLines env cfg readingtype reg).devices, d.pendingUpdate = false := by
  have hpre : NoPendingUpdate (if readingtype = .readReload then
      { reg with
        devices := reg.devices.map sccpDevicePreReload
        lines := reg.lines.map sccpLinePreReload
        softKeySets := reg.softKeySets.map sccpSoftkeyPreReload }
    else reg) := by
    split
    · exact ⟨hglobal, by simpa [sccpDevicePreReload] using hdevices⟩
    · exact ⟨hglobal, hdevices⟩
  have hfold := foldl_readCategory_noPendingUpdate env cfg cfg _ hpre
  unfold sccpConfigReadDevicesLines
  rw [propagateGlobalUpdate_of_false _ hfold.1]
  exact hfold.2

def keepaliveDevice : Device :=
  ⟨"SEP0001", false, false,
    Function.update (Function.update (fun m => m.kind.zero) .keepalive (.int 30)) .configType (.string "7960")⟩

def keepaliveReloadSection : Category :=
  ⟨"SEP0001", [("type", "device"), ("devicetype", "7960"), ("keepalive", "60")]⟩

def keepaliveReloadConfig : Config := [keepaliveReloadSection]

/-- The reload's section, applied to the device as the reload finds it, reports a
reset, and still the device ends unmarked. -/
theorem readDevicesLines_keepalive_reload_unmarked :
    (⟨[keepaliveDevice], [], [], false⟩ : Registry).pendingUpdate = false ∧
      (∀ d ∈ (⟨[keepaliveDevice], [], [], false⟩ : Registry).devices, d.pendingUpdate = false) ∧
      (sccpConfigApplyDeviceConfiguration sampleEnv keepaliveReloadConfig
          { sccpDevicePreReload keepaliveDevice with pendingDelete := false } keepaliveReloadSection.vars).2 =
        sampleEnv.codes.needDeviceReset ∧
      ∀ d ∈ (sccpConfigReadDevicesLines sampleEnv keepaliveReloadConfig .readReload
          ⟨[keepaliveDevice], [], [], false⟩).devices,
        d.pendingUpdate = false :=
  ⟨rfl, by simp [keepaliveDevice], by decide,
    readDevicesLines_device_update_never_set sampleEnv keepaliveReloadConfig .readReload _ rfl
      (by simp [keepaliveDevice])⟩

end SccpConfig
