import ProbeTrace.Foundation.Additions
import ProbeTrace.Metatheory.Announcements
import ProbeTrace.Metatheory.ControlMoves
import ProbeTrace.Metatheory.ScheduleRefinement

/-!
Which calls of the probe library an action can make. A registration initializes a probe,
produces its first snapshot and records its creation; the hooks record, produce and merge; the
tasks' control messages and the IO task's passes have calls of their own; nothing else makes any.
-/
namespace ProbeTrace

def Call.ofRegistration : Call → Bool
  | .initializeProbe _ _ _ | .produceSnapshot _ _ _ | .recordEvent _ _ _ => true
  | .mergeSnapshot _ _ _ | .processControlMessage _ _ | .report _ | .announceMutators _ => false

def Call.ofHook : Call → Bool
  | .produceSnapshot _ _ _ | .mergeSnapshot _ _ _ | .recordEvent _ _ _ => true
  | .initializeProbe _ _ _ | .processControlMessage _ _ | .report _ | .announceMutators _ => false

def Call.ofPass : Call → Bool
  | .report _ | .announceMutators _ => true
  | .initializeProbe _ _ _ | .produceSnapshot _ _ _ | .mergeSnapshot _ _ _
  | .recordEvent _ _ _ | .processControlMessage _ _ => false

/-- The calls an action can make. -/
def Op.Makes : Op → Call → Bool
  | .create _ _ _ _ => Call.ofRegistration
  | .start _ _ _ | .switch _ _ _ _ | .hook _ _ => Call.ofHook
  | .process _ => Call.isProcess
  | .ioReport _ _ => Call.ofPass
  | .enable _ _ | .disable | .exclude _ | .delete _ | .setFilter _ _ | .ioRead _ | .ioSend
  | .getBuffer => fun _ => false

/-- From `s` to `t` only such calls are made. -/
abbrev AddsCalls (P : Call → Bool) : State → State → Prop :=
  Additions.Adds State.calls fun c => P c = true

theorem error_calls {P : Call → Bool} (msg : String) (s : State) :
    AddsCalls P s (s.prvTraceError msg) := .none (State.prvTraceError_calls msg s)

theorem calls_hooks : HookEffect (AddsCalls Call.ofHook) where
  refl _ := .none rfl
  trans := .trans
  enter _ := .none rfl
  exit _ := .none rfl
  error := error_calls
  record _ _ _ _ := .one rfl rfl
  produce env probe i s := .one (modalityProbeProduceSnapshot_calls env probe i s) rfl
  merge _ _ _ := .one rfl rfl
  switched new s := by
    unfold prvTraceSwitchedTcb
    split
    · exact .none rfl
    · exact .none rfl
  fault _ := .none rfl

theorem calls_attach : AttachEffect (AddsCalls Call.ofRegistration) where
  refl _ := .none rfl
  trans := .trans
  exit _ := .none rfl
  error := error_calls
  produce _ _ _ _ := .one rfl rfl
  record _ _ _ _ := .one rfl rfl
  tcb _ _ _ := .none rfl
  slot _ _ _ := .none rfl
  messageBuffer cfg env s := by
    unfold allocMessageBuffer
    split
    · exact .none rfl
    · exact .none rfl
  taskBuffer env s := by
    unfold allocTaskLocalBuffer
    split
    · exact .none rfl
    · exact .none rfl

theorem calls_enable : EnableEffect (AddsCalls fun _ => false) where
  refl _ := .none rfl
  trans := .trans
  enter _ := .none rfl
  exit _ := .none rfl
  error := error_calls
  exclude _ _ _ := .none rfl
  addTask _ _ _ _ := .none rfl
  ioTask _ _ := .none rfl
  enabled _ := .none rfl

/-- Allocating initializes a probe or makes no call. -/
theorem nameAndAlloc_calls (cfg : Config) (env : External) (task : TaskHandle) (s : State) :
    AddsCalls Call.ofRegistration s (nameAndAlloc cfg env task s).2 := by
  have named := nameTask_calls cfg task s
  simp only [nameAndAlloc]
  split
  · exact .none named
  · have called := (allocProbe_eq cfg env (nameTask cfg task s).1 (nameTask cfg task s).2).2.2
    rw [named] at called
    refine ⟨_, called, fun c mem => ?_⟩
    split at mem
    · rw [List.mem_singleton.mp mem]
      rfl
    · exact absurd mem List.not_mem_nil

theorem register_calls (cfg : Config) (env : External) (task : TaskHandle)
    (uxPriority : BitVec 32) (s : State) :
    AddsCalls Call.ofRegistration s (prvTraceRegisterTaskProbe cfg env task uxPriority s) := by
  have allocated : AddsCalls Call.ofRegistration s
      (nameAndAlloc cfg env task s.enterCriticalSection).2 :=
    nameAndAlloc_calls cfg env task s.enterCriticalSection
  simp only [prvTraceRegisterTaskProbe]
  split
  · cases outcome : nameAndAlloc cfg env task s.enterCriticalSection with
    | mk probe r =>
        rw [outcome] at allocated
        cases probe with
        | none => exact allocated
        | some probe => exact allocated.trans (calls_attach.attachProbe ..)
  · exact .none rfl

theorem ioRead_calls (cfg : Config) (r : IoRead) (s : State) :
    (ioRead cfg r s).calls = s.calls := by
  have noted : (if r.status ≠ 0 then
      State.prvTraceError "TRACE_IO_READ returned an error" { s with ioBuffer := r.data }
      else { s with ioBuffer := r.data }).calls = s.calls := by
    split
    · rw [State.prvTraceError_calls]
    · rfl
  simp only [ioRead]
  split
  · split
    · split
      · exact noted
      · exact noted
    · exact noted
  · exact noted

theorem ioSend_calls (cfg : Config) (s : State) : (ioSend cfg s).calls = s.calls := by
  have sent : ∀ target numBytes i, (sendToSlot cfg target numBytes i s).calls = s.calls := by
    intro target numBytes i
    simp only [sendToSlot]
    split
    · split <;> rfl
    · rfl
  simp only [ioSend]
  split
  · exact sent _ _ _
  · rfl
  · rfl

theorem ioReport_calls (cfg : Config) (reports announcements : Probe → IoWrite) (s : State) :
    AddsCalls Call.ofPass s (ioReport cfg reports announcements s) := by
  by_cases point : s.ioPoint = .report
  · have calls := (ioReport_end cfg reports announcements point).1
    rw [List.append_assoc] at calls
    refine ⟨_, calls, fun c mem => ?_⟩
    cases List.mem_append.mp mem with
    | inl reported =>
        obtain ⟨probe, -, same⟩ := List.mem_map.mp reported
        rw [← same]
        rfl
    | inr announced =>
        split at announced
        · obtain ⟨probe, -, same⟩ := List.mem_map.mp announced
          rw [← same]
          rfl
        · exact absurd announced List.not_mem_nil
  · have idle : ioReport cfg reports announcements s = s := by
      unfold ioReport
      split
      · exact absurd ‹_› point
      · rfl
      · rfl
    rw [idle]
    exact .none rfl

/-- An action makes no other calls than its own. -/
theorem step_calls (cfg : Config) (s : State) (op : Op) :
    AddsCalls op.Makes s (step cfg s op) := by
  cases op with
  | enable env io => exact calls_enable.vTraceEnable cfg env io s
  | exclude pcName => exact calls_enable.vTraceExcludeTask cfg pcName s
  | disable | delete _ | setFilter _ _ | getBuffer => exact .none rfl
  | create env new name uxPriority =>
      exact register_calls cfg env new.handle uxPriority (s.addTask cfg new name)
  | start env next uxPriority =>
      exact calls_hooks.startScheduler cfg env next uxPriority (.none rfl)
  | switch out in' next uxPriority =>
      exact calls_hooks.contextSwitch cfg out in' next uxPriority s fun _ => .none rfl
  | hook env h => exact calls_hooks.run cfg env h s
  | ioRead r =>
      unfold step
      dsimp only
      split
      · exact .none (ioRead_calls cfg r s)
      · exact .none rfl
      · exact .none rfl
  | ioSend => exact .none (ioSend_calls cfg s)
  | ioReport reports announcements => exact ioReport_calls cfg reports announcements s
  | process env =>
      cases process_calls cfg env s with
      | inl same => exact .none same
      | inr handed =>
          obtain ⟨i, msg, -, calls⟩ := handed
          exact .one calls rfl

end ProbeTrace
