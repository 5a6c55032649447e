import ProbeTrace.Metatheory.Effects

/-!
How the error state moves. Every function of the library other than vTraceEnable
is latched: it records nothing and leaves the three error fields alone, or it
records at least one message, keeps the first one ever recorded and leaves
tracing disabled.
-/
namespace ProbeTrace

structure SameErrors (s s' : State) : Prop where
  errors : s'.errors = s.errors
  errorMsg : s'.errorMsg = s.errorMsg
  isEnabled : s'.isEnabled = s.isEnabled

/-- Messages were recorded and tracing is off. -/
structure Failed (s s' : State) : Prop where
  errors : ∃ msg rest, s'.errors = s.errors ++ msg :: rest ∧
    s'.errorMsg = s.errorMsg.or (some msg)
  isEnabled : s'.isEnabled = false

def Latched (s s' : State) : Prop := SameErrors s s' ∨ Failed s s'

theorem SameErrors.refl (s : State) : SameErrors s s := ⟨rfl, rfl, rfl⟩

theorem SameErrors.trans {s r t : State} (h : SameErrors s r) (k : SameErrors r t) :
    SameErrors s t :=
  ⟨k.errors.trans h.errors, k.errorMsg.trans h.errorMsg, k.isEnabled.trans h.isEnabled⟩

namespace Latched
variable {s r t : State}

theorem same (errors : t.errors = s.errors) (errorMsg : t.errorMsg = s.errorMsg)
    (isEnabled : t.isEnabled = s.isEnabled) : Latched s t :=
  .inl ⟨errors, errorMsg, isEnabled⟩

theorem refl (s : State) : Latched s s := same rfl rfl rfl

theorem trans (h : Latched s r) (k : Latched r t) : Latched s t := by
  cases h with
  | inl h =>
      cases k with
      | inl k => exact .inl (h.trans k)
      | inr k =>
          obtain ⟨⟨msg, rest, hErrors, hMsg⟩, hOff⟩ := k
          exact .inr ⟨⟨msg, rest, by rw [hErrors, h.errors], by rw [hMsg, h.errorMsg]⟩, hOff⟩
  | inr h =>
      obtain ⟨⟨msg, rest, hErrors, hMsg⟩, hOff⟩ := h
      cases k with
      | inl k =>
          exact .inr ⟨⟨msg, rest, k.errors.trans hErrors, k.errorMsg.trans hMsg⟩,
            k.isEnabled.trans hOff⟩
      | inr k =>
          obtain ⟨⟨msg', rest', kErrors, kMsg⟩, kOff⟩ := k
          refine .inr ⟨⟨msg, rest ++ msg' :: rest', ?_, ?_⟩, kOff⟩
          · rw [kErrors, hErrors, List.append_assoc, List.cons_append]
          · rw [kMsg, hMsg]
            cases s.errorMsg <;> rfl

theorem error (msg : String) (s : State) : Latched s (s.prvTraceError msg) :=
  .inr ⟨⟨msg, [], by simp, by simp⟩, by simp⟩

end Latched

theorem modalityProbeProduceSnapshot_same (env : External) (probe : Option Probe) (i : Nat)
    (s : State) : SameErrors s (s.modalityProbeProduceSnapshot env probe i) := by
  unfold State.modalityProbeProduceSnapshot
  cases env.produceSnapshot <;> exact ⟨rfl, rfl, rfl⟩

theorem latched_hookEffect : HookEffect Latched where
  refl := Latched.refl
  trans := Latched.trans
  enter _ := .same rfl rfl rfl
  exit _ := .same rfl rfl rfl
  error := Latched.error
  record _ _ _ _ := .same rfl rfl rfl
  produce env probe i s := .inl (modalityProbeProduceSnapshot_same env probe i s)
  merge _ _ _ := .same rfl rfl rfl
  switched new s := by
    unfold prvTraceSwitchedTcb
    split <;> exact .same rfl rfl rfl
  fault _ := .same rfl rfl rfl

theorem latched_controlEffect : ControlEffect Latched where
  refl := Latched.refl
  trans := Latched.trans
  enter _ := .same rfl rfl rfl
  exit _ := .same rfl rfl rfl
  error := Latched.error
  receive _ _ _ := .same rfl rfl rfl
  send _ _ _ _ _ := .same rfl rfl rfl
  process _ _ _ := .same rfl rfl rfl
  report _ _ := .same rfl rfl rfl
  announce _ _ := .same rfl rfl rfl
  buffer _ _ := .same rfl rfl rfl
  iters _ _ := .same rfl rfl rfl
  point _ _ _ := .same rfl rfl rfl

theorem latched_registerEffect : RegisterEffect Latched where
  refl := Latched.refl
  trans := Latched.trans
  enter _ := .same rfl rfl rfl
  exit _ := .same rfl rfl rfl
  error := Latched.error
  log _ _ _ := .same rfl rfl rfl
  tcb _ _ _ := .same rfl rfl rfl
  slot _ _ _ := .same rfl rfl rfl
  storage cfg env n s := by
    unfold allocStorage
    split <;> split <;> exact .same rfl rfl rfl
  probeIds _ _ := .same rfl rfl rfl
  messageBuffer cfg env s := by
    unfold allocMessageBuffer
    split <;> exact .same rfl rfl rfl
  taskBuffer env s := by
    unfold allocTaskLocalBuffer
    split <;> exact .same rfl rfl rfl
  exclude _ _ _ := .same rfl rfl rfl

/-! The block of vTraceEnable. -/

theorem xTaskCreate_latched (cfg : Config) (env : External) (new : NewTask) (name : CString)
    (uxPriority : BitVec 32) (s : State) :
    Latched s (xTaskCreate cfg env new name uxPriority s) := by
  have added : Latched s (s.addTask cfg new name) := .same rfl rfl rfl
  exact added.trans (latched_registerEffect.prvTraceRegisterTaskProbe ..)

theorem vTraceExcludeTask_latched (cfg : Config) (pcName : CString) (s : State) :
    Latched s (vTraceExcludeTask cfg pcName s) :=
  latched_registerEffect.vTraceExcludeTask cfg pcName s

theorem createIo_latched (cfg : Config) (env : External) (io : Option NewTask) (s : State) :
    Latched s (createIo cfg env io s) := by
  cases io with
  | some new => exact (xTaskCreate_latched cfg env new _ _ s).trans (.same rfl rfl rfl)
  | none => exact .refl s

theorem createIoTask_latched (cfg : Config) (env : External) (io : Option NewTask)
    (s : State) : Latched s (createIoTask cfg env io s) := by
  have excluded := vTraceExcludeTask_latched cfg cfg.ioTaskName s
  have created := createIo_latched cfg env io (vTraceExcludeTask cfg cfg.ioTaskName s)
  unfold createIoTask
  dsimp only
  refine (excluded.trans created).trans ?_
  split
  · exact .error _ _
  · exact .refl _

theorem includeIoTask_latched (cfg : Config) (env : External) (io : Option NewTask)
    (s : State) : Latched s (includeIoTask cfg env io s) := by
  unfold includeIoTask
  split
  · exact createIoTask_latched cfg env io s
  · exact .refl s

end ProbeTrace
