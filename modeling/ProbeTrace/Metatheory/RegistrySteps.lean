import ProbeTrace.Metatheory.ErrorSafety
import ProbeTrace.Metatheory.Registration

/-!
What one action does to the registry, stated once. Every invariant of the registry
is proved by cases on `RegistryMove`.
-/
namespace ProbeTrace

/-- The registry after the action `op` in the state `s`. -/
inductive RegistryMove (cfg : Config) (s : State) (op : Op) (t : State) : Prop
  | same (registry : t.registry = s.registry)
  | excluded (pcName : CString) (registry : t.registry = s.registry.exclude cfg pcName)
      (room : t.errors = s.errors → 0 ∈ s.excludedTaskProbeIds)
  | ioCreated (env : External) (new : NewTask) (isOp : op = .enable env (some new))
      (registry : t.registry =
        (s.registry.exclude cfg cfg.ioTaskName).addTask cfg new cfg.ioTaskName)
      (room : t.errors = s.errors → 0 ∈ s.excludedTaskProbeIds)
  | deleted (task : TaskHandle) (isOp : op = .delete task)
      (registry : t.registry = s.registry.deleteTask task)
  | filtered (task : TaskHandle) (filter : BitVec 16) (isOp : op = .setFilter task filter)
      (registry : t.registry = s.registry.setFilter task filter)
  | created (env : External) (new : NewTask) (name : CString) (uxPriority : BitVec 32)
      (isOp : op = .create env new name uxPriority) (off : s.isEnabled = false)
      (registry : t.registry = s.registry.addTask cfg new name)
  | registersIn (env : External) (new : NewTask) (name : CString) (uxPriority : BitVec 32)
      (i : Nat) (isOp : op = .create env new name uxPriority) (on : s.isEnabled = true)
      (outcome : RegistersIn cfg env new.handle uxPriority i (s.addTask cfg new name) t)
  | registersNowhere (env : External) (new : NewTask) (name : CString) (uxPriority : BitVec 32)
      (isOp : op = .create env new name uxPriority) (on : s.isEnabled = true)
      (outcome : RegistersNowhere cfg env new.handle (s.addTask cfg new name) t)
  | registersNothing (env : External) (new : NewTask) (name : CString)
      (uxPriority : BitVec 32)
      (isOp : op = .create env new name uxPriority) (on : s.isEnabled = true)
      (outcome : RegistersNothing cfg env new.handle (s.addTask cfg new name) t)

theorem addTask_registry (cfg : Config) (new : NewTask) (name : CString) (s : State) :
    (s.addTask cfg new name).registry = s.registry.addTask cfg new name := rfl

theorem createIo_registry (cfg : Config) (env : External) (io : Option NewTask) {s : State}
    (off : s.isEnabled = false) : (createIo cfg env io s).registry =
      match io with
      | some new => s.registry.addTask cfg new cfg.ioTaskName
      | none => s.registry := by
  cases io with
  | none => rfl
  | some new =>
      have skipped := prvTraceRegisterTaskProbe_disabled cfg env new.handle cfg.ioTaskPriority
        (s := s.addTask cfg new cfg.ioTaskName) off
      change (xTaskCreate cfg env new cfg.ioTaskName cfg.ioTaskPriority s).registry = _
      rw [xTaskCreate, skipped]
      rfl

theorem createIoTask_registry (cfg : Config) (env : External) (io : Option NewTask)
    {s : State} (off : s.isEnabled = false) : (createIoTask cfg env io s).registry =
      match io with
      | some new => (s.registry.exclude cfg cfg.ioTaskName).addTask cfg new cfg.ioTaskName
      | none => s.registry.exclude cfg cfg.ioTaskName := by
  have off' := (vTraceExcludeTask_latched cfg cfg.ioTaskName s).keepsOff.off off
  have created := createIo_registry cfg env io off'
  rw [vTraceExcludeTask_registry] at created
  unfold createIoTask
  dsimp only
  split
  · rw [prvTraceError_registry, created]
  · exact created

theorem vTraceEnable_outcome (cfg : Config) (env : External) (io : Option NewTask)
    (s : State) : (vTraceEnable cfg env io s).registry = s.registry ∨
      ((vTraceEnable cfg env io s).errors = s.errors → 0 ∈ s.excludedTaskProbeIds) ∧
      ((vTraceEnable cfg env io s).registry = s.registry.exclude cfg cfg.ioTaskName ∨
      ∃ new, io = some new ∧ (vTraceEnable cfg env io s).registry =
        (s.registry.exclude cfg cfg.ioTaskName).addTask cfg new cfg.ioTaskName) := by
  rcases vTraceEnable_cases cfg env io s with ⟨-, h⟩ | ⟨-, -, msg, h⟩ | ⟨off, -, h⟩
  · exact .inl (by rw [h])
  · exact .inl (by rw [h, prvTraceError_registry])
  · have included : (vTraceEnable cfg env io s).registry =
        (includeIoTask cfg env io s.enterCriticalSection).registry := by
      rw [h]
      rfl
    by_cases runs : (cfg.includeIoTask && s.ioTaskHandle == none) = true
    · have block : includeIoTask cfg env io s.enterCriticalSection =
          createIoTask cfg env io s.enterCriticalSection := if_pos runs
      rw [block, createIoTask_registry cfg env io (s := s.enterCriticalSection) off] at included
      refine .inr ⟨fun same => ?_, ?_⟩
      · have errors : (includeIoTask cfg env io s.enterCriticalSection).errors =
            s.enterCriticalSection.errors := by
          rw [h] at same
          exact same
        have succeeds := (includeIoTask_errors cfg env io (s := s.enterCriticalSection) off).mp
          errors
        rw [Bool.and_eq_true, beq_iff_eq] at runs
        by_contra full
        exact succeeds ⟨runs.1, runs.2, .inr (.inr full)⟩
      · cases io with
        | none => exact .inl included
        | some new => exact .inr ⟨new, rfl, included⟩
    · have block : includeIoTask cfg env io s.enterCriticalSection = s.enterCriticalSection :=
        if_neg runs
      rw [block] at included
      exact .inl included

theorem xTaskCreate_registry (cfg : Config) (env : External) (new : NewTask) (name : CString)
    (uxPriority : BitVec 32) (s : State) : RegistryMove cfg s (.create env new name uxPriority)
      (xTaskCreate cfg env new name uxPriority s) := by
  unfold xTaskCreate
  cases on : s.isEnabled with
  | false =>
      refine .created env new name uxPriority rfl on ?_
      rw [prvTraceRegisterTaskProbe_disabled (s := s.addTask cfg new name) _ _ _ _ on]
      rfl
  | true =>
      rcases prvTraceRegisterTaskProbe_cases cfg env new.handle uxPriority
        (s := s.addTask cfg new name) on with ⟨i, h⟩ | h | h
      · exact .registersIn env new name uxPriority i rfl on h
      · exact .registersNowhere env new name uxPriority rfl on h
      · exact .registersNothing env new name uxPriority rfl on h

theorem step_registry (cfg : Config) (s : State) (op : Op) :
    RegistryMove cfg s op (step cfg s op) := by
  cases op with
  | enable env io =>
      rcases vTraceEnable_outcome cfg env io s with h | ⟨room, h | ⟨new, rfl, h⟩⟩
      · exact .same h
      · exact .excluded cfg.ioTaskName h room
      · exact .ioCreated env new rfl h room
  | disable => exact .same rfl
  | exclude pcName =>
      exact .excluded pcName (vTraceExcludeTask_registry cfg pcName s)
        fun same => ((vTraceExcludeTask_errors cfg pcName s).mp same).2
  | create env new name uxPriority => exact xTaskCreate_registry cfg env new name uxPriority s
  | delete task => exact .deleted task rfl rfl
  | start env next uxPriority =>
      exact .same (registry_hookEffect.startScheduler cfg env next uxPriority rfl)
  | switch out in' next uxPriority =>
      exact .same (registry_hookEffect.contextSwitch cfg out in' next uxPriority s fun _ => rfl)
  | hook env h => exact .same (registry_hookEffect.run cfg env h s)
  | setFilter task filter => exact .filtered task filter rfl rfl
  | ioRead r =>
      refine .same ?_
      unfold step
      dsimp only
      split
      · exact registry_controlEffect.ioRead cfg r s
      · rfl
      · rfl
  | ioSend => exact .same (registry_controlEffect.ioSend cfg s)
  | ioReport reports announcements =>
      exact .same (registry_controlEffect.ioReport cfg reports announcements s)
  | process env =>
      exact .same (registry_controlEffect.vTraceProcessControlPlaneMessages cfg env s)
  | getBuffer => exact .same (registry_controlEffect.pvTraceGetControlPlaneBuffer s)

end ProbeTrace
