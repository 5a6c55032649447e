import ProbeTrace.Metatheory.Exclusion
import ProbeTrace.Metatheory.NameHash
import ProbeTrace.Metatheory.TaskProbes

/-!
One id for a task name: in the manifest, in the exclusion table and in the task's probe.
-/
namespace ProbeTrace

/-! The manifest. -/

/-- The bytes are UTF-8. -/
def Encodes (name : CString) : Prop := (argumentBytes name).IsValidUTF8

instance (name : CString) : Decidable (Encodes name) :=
  inferInstanceAs (Decidable (ByteArray.IsValidUTF8 _))

theorem manifestProbeId_eq (name : CString) :
    manifestProbeId name = if Encodes name then some (crc16Ibm3740 name) else none := by
  unfold manifestProbeId String.fromUTF8?
  by_cases valid : (argumentBytes name).IsValidUTF8
  · have encodes : Encodes name := valid
    have bytes : strEncode (String.fromUTF8 (argumentBytes name) valid) = name :=
      List.toList_data_toByteArray
    rw [dif_pos valid, if_pos encodes, Option.map_some, hashTaskNameToProbeId, bytes]
  · have refused : ¬ Encodes name := valid
    rw [dif_neg valid, if_neg refused]
    rfl

private theorem utf8EncodeChar_ascii (c : BitVec 8) (ascii : c < 128) :
    String.utf8EncodeChar (Char.ofNat c.toNat) = [UInt8.ofBitVec c] := by
  revert c
  decide +kernel

/-- One-byte characters. -/
theorem encodes_ascii {name : CString} (ascii : ∀ c ∈ name, c < 128) : Encodes name := by
  induction name with
  | nil => exact ByteArray.isValidUTF8_empty
  | cons c rest ih =>
      have first : Encodes [c] := by
        rw [← show String.utf8EncodeChar (Char.ofNat c.toBitVec.toNat) = [c] from
          utf8EncodeChar_ascii c.toBitVec (ascii c (List.mem_cons_self ..))]
        exact Char.isValidUTF8_toByteArray_utf8EncodeChar
      have valid := first.append (ih fun d mem => ascii d (List.mem_cons_of_mem _ mem))
      rwa [argumentBytes, argumentBytes, ← List.toByteArray_append] at valid

/-- No character starts with the byte 255. -/
theorem not_encodes (rest : CString) : ¬ Encodes (255 :: rest) := by
  intro valid
  have pos : 0 < (argumentBytes (255 :: rest)).size := by simp [argumentBytes]
  have first := valid.isUTF8FirstByte_getElem_zero pos
  have byte : (argumentBytes (255 :: rest))[0] = 255 := by
    simp [argumentBytes, ByteArray.getElem_eq_getElem_data]
  rw [byte] at first
  revert first
  decide

/-! The id a task is created under. -/

/-- The task has the id, and so has its probe. -/
structure RegisteredAs (t : State) (task : TaskHandle) (id : BitVec 16) : Prop where
  word : t.prvTraceGetTaskProbeId (some task) = id
  probe : ∀ own, (t.tcbs task).registered = some own → t.probeIds own = some (id.setWidth 32)

/-- A task that was given a probe. -/
theorem registeredAs_of_tcbs {cfg : Config} {new : NewTask} {name : CString} {s t : State}
    {r : Registry}
    (registry : t.registry = r.markTask cfg new.handle ((s.addTask cfg new name).registry.storage cfg))
    (tcbs : r.tcbs = ((s.addTask cfg new name).registry.nameTask cfg new.handle).tcbs)
    (probeIds : r.probeIds =
      ((s.addTask cfg new name).registry.allocate cfg new.handle).probeIds) :
    RegisteredAs t new.handle (createdHash cfg name) := by
  have self := (registered_tcbs cfg new.handle
    ((s.addTask cfg new name).registry.storage cfg) tcbs).1
  rw [addTask_registry, idOf_addTask] at self
  have tcb : t.tcbs new.handle = _ :=
    (congrArg (fun r : Registry => r.tcbs new.handle) registry).trans self
  constructor
  · refine (congrArg (fun tcb : Tcb => traceReadLower16 tcb.uxTaskNumber) tcb).trans ?_
    simp
  · intro own registered
    rw [tcb, Option.some.injEq] at registered
    have ids : t.registry.probeIds = r.probeIds :=
      (congrArg Registry.probeIds registry).trans rfl
    change t.registry.probeIds own = _
    rw [ids, probeIds, Sound.allocate_probeIds, addTask_registry, idOf_addTask, ← registered]
    exact Function.update_self ..

theorem created_registeredAs {cfg : Config} (env : External) (new : NewTask) (name : CString)
    (uxPriority : BitVec 32) {s : State} (on : s.isEnabled = true) :
    RegisteredAs (step cfg s (.create env new name uxPriority)) new.handle
      (createdHash cfg name) := by
  rcases prvTraceRegisterTaskProbe_cases cfg env new.handle uxPriority
    (s := s.addTask cfg new name) on with ⟨i, outcome⟩ | outcome | outcome
  · have frame := fillSlot_frame cfg env i new.handle
      ((s.addTask cfg new name).registry.storage cfg)
      ((s.addTask cfg new name).registry.allocate cfg new.handle)
    exact registeredAs_of_tcbs outcome.registry (fillSlot_tcbs ..) frame.probeIds
  · exact registeredAs_of_tcbs outcome.registry (Sound.allocate_tcbs ..) rfl
  · have tcb := registersNothing_tcb outcome
    constructor
    · refine (congrArg (fun tcb : Tcb => traceReadLower16 tcb.uxTaskNumber) tcb).trans ?_
      simp
    · intro own registered
      have none := (congrArg Tcb.registered tcb).symm.trans registered
      cases none

/-- A task without a probe whose filter is closed. -/
structure Untraced (t : State) (task : TaskHandle) : Prop where
  registered : (t.tcbs task).registered = none
  filter : t.prvTraceGetTaskFilter (some task) = 0

/-- A task whose hash is in the table, or zero, gets no probe. -/
theorem created_untraced {cfg : Config} (env : External) (new : NewTask) {name : CString}
    (uxPriority : BitVec 32) {s : State} (on : s.isEnabled = true)
    (excluded : createdHash cfg name ≠ 0 → createdHash cfg name ∈ s.excludedTaskProbeIds) :
    Untraced (step cfg s (.create env new name uxPriority)) new.handle := by
  have none : ¬ GetsProbe cfg env new.handle (s.addTask cfg new name).registry := by
    rintro ⟨⟨absent, -⟩, nonzero, -⟩
    rw [addTask_registry, idOf_addTask] at absent nonzero
    exact absent (excluded nonzero)
  rcases prvTraceRegisterTaskProbe_cases cfg env new.handle uxPriority
    (s := s.addTask cfg new name) on with ⟨i, outcome⟩ | outcome | outcome
  · exact absurd outcome.gets none
  · exact absurd outcome.gets none
  · have tcb := registersNothing_tcb outcome
    refine ⟨congrArg Tcb.registered tcb, ?_⟩
    refine (congrArg (fun tcb : Tcb => traceReadUpper16 tcb.uxTaskNumber) tcb).trans ?_
    exact readUpper_writeUpper ..

/-! The three paths. -/

/-- The id is the one of the name everywhere: in the manifest, in the entry
vTraceExcludeTask writes, and in a task created by the name. So excluding by that name
keeps the task untraced, and its hooks use probes with that id. -/
structure SharedId (cfg : Config) (name : CString) (id : BitVec 16) : Prop where
  manifest : manifestProbeId name = some id
  stored : ∀ (ops : List Op) (s : State) (i : Nat), Reaches cfg (fun _ _ => True) ops s →
    s.excludedTaskProbeIds.findIdx? (fun id => id == 0) = some i →
    (step cfg s (.exclude name)).excludedTaskProbeIds = s.excludedTaskProbeIds.set i id
  created : ∀ (ops : List Op) (s : State) (env : External) (new : NewTask)
    (uxPriority : BitVec 32), Reaches cfg (fun _ _ => True) ops s → s.isEnabled = true →
    new.Fresh s → RegisteredAs (step cfg s (.create env new name uxPriority)) new.handle id
  untraced : ∀ (before after : List Op) (s u : State) (env : External) (new : NewTask)
    (uxPriority : BitVec 32), Reaches cfg (fun _ _ => True) before s →
    0 ∈ s.excludedTaskProbeIds →
    Transition.Run (step cfg) (fun s op => op.Legal cfg s) (step cfg s (.exclude name)) after u →
    u.isEnabled = true → new.Fresh u →
    Untraced (step cfg u (.create env new name uxPriority)) new.handle
  decodes : ∀ (ops : List Op) (s v : State) (op : Op) (env : External) (k : KernelHook)
    (task : TaskHandle), Reaches cfg (fun s op => Undisturbed s op) ops s →
    HookTaken cfg s op v env k → v.pxCurrentTcb = some task →
    v.pcTaskGetName task = name.take (cfg.maxTaskNameLen - 1) →
    ∃ new, (k.run cfg env v).calls = v.calls ++ new ∧ ∀ c ∈ new, ∃ own, c.probe = some own ∧
      v.probeIds own = some (id.setWidth 32)

/-- The three paths agree on the id of the name. -/
def OneId (cfg : Config) (name : CString) : Prop := ∃ id, SharedId cfg name id

/-- A probe used for the running task has the hash of the name the kernel keeps. -/
theorem hooks_decode {cfg : Config} {ops : List Op} {s v : State} {op : Op} {env : External}
    {k : KernelHook} {task : TaskHandle} (h : Reaches cfg (fun s op => Undisturbed s op) ops s)
    (taken : HookTaken cfg s op v env k) (current : v.pxCurrentTcb = some task) :
    ∃ new, (k.run cfg env v).calls = v.calls ++ new ∧ ∀ c ∈ new, ∃ own, c.probe = some own ∧
      v.probeIds own = some ((nameHash cfg (v.pcTaskGetName task)).setWidth 32) := by
  obtain ⟨sound, -⟩ := registry_of_run (fun _ _ permitted => permitted.1) h
  have focused := focused_of_run (fun _ _ permitted => permitted.2) h
  obtain ⟨registry, -⟩ := hook_onlyFor focused taken
  obtain ⟨new, calls, only⟩ := own_probes h op v env k taken
  refine ⟨new, calls, fun c mem => ?_⟩
  obtain ⟨task', own, current', registered, probe, -⟩ := only c mem
  obtain rfl : task = task' := Option.some.inj (current.symm.trans current')
  have owners : Owners cfg v.registry := registry ▸ sound.owners
  obtain ⟨id, named⟩ := owners.probeId task own registered
  refine ⟨own, probe, ?_⟩
  rw [named] at id
  exact id

/-- A name the kernel does not cut and whose length is not narrowed. -/
theorem sharedId_short {cfg : Config} {name : CString} (pos : 0 < name.length)
    (encodes : Encodes name) (fits : name.length < cfg.maxTaskNameLen)
    (short : name.length ≤ 255) : SharedId cfg name (crc16Ibm3740 name) := by
  have whole : name.take (cfg.maxTaskNameLen - 1) = name :=
    List.take_of_length_le (by omega)
  have hash := nameHash_short cfg pos short
  have created : createdHash cfg name = crc16Ibm3740 name := by
    rw [createdHash, whole, hash]
  constructor
  · rw [manifestProbeId_eq, if_pos encodes]
  · intro ops s i _ first
    have registry := vTraceExcludeTask_registry cfg name s
    have ids := congrArg Registry.excludedTaskProbeIds registry
    rw [s.registry.exclude_ids cfg name first, hash] at ids
    exact ids
  · intro ops s env new uxPriority _ on _
    rw [← created]
    exact created_registeredAs env new name uxPriority on
  · intro before after s u env new uxPriority _ room run on _
    refine created_untraced env new uxPriority on fun nonzero => ?_
    rw [created] at nonzero ⊢
    refine run.invariant (P := fun u => crc16Ibm3740 name ∈ u.excludedTaskProbeIds)
      (fun _ _ mem _ => excludedId_step mem nonzero) ?_
    rw [← hash]
    have registry := vTraceExcludeTask_registry cfg name s
    have ids := congrArg Registry.excludedTaskProbeIds registry
    change nameHash cfg name ∈ (vTraceExcludeTask cfg name s).registry.excludedTaskProbeIds
    rw [ids]
    exact s.registry.exclude_stores cfg name room
  · intro ops s v op env k task reached taken current named
    have decoded := hooks_decode reached taken current
    rwa [named, whole, hash] at decoded

/-- Tracing can be enabled, and then a task be created. -/
theorem enabled_reachable (cfg : Config) : ∃ s, Reaches cfg (fun _ _ => True)
    [.enable {} none] s ∧ s.isEnabled = true ∧
    NewTask.Fresh s { handle := 0, taskNumber := 0, becomesCurrent := false } := by
  refine ⟨step cfg (State.init cfg) (.enable {} none), ?_, ?_, ?_, ?_, ?_⟩
  · exact .cons ⟨fun new mem => (by cases mem), trivial⟩ (.nil _)
  · rcases vTraceEnable_cases cfg {} none (State.init cfg) with
      ⟨on, -⟩ | ⟨-, guard, -⟩ | ⟨-, -, enabled⟩
    · cases on
    · exact absurd (by simp [GuardPasses, State.init]) guard
    · rw [step, enabled]
      rfl
  · have tasks : (vTraceEnable cfg {} none (State.init cfg)).registry.tasks = [] := by
      rcases vTraceEnable_outcome cfg {} none (State.init cfg) with same | ⟨-, excluded | created⟩
      · exact congrArg Registry.tasks same
      · exact congrArg Registry.tasks excluded
      · obtain ⟨new, none, -⟩ := created
        cases none
    change 0 ∉ (vTraceEnable cfg {} none (State.init cfg)).registry.tasks
    rw [tasks]
    exact List.not_mem_nil
  · rcases vTraceEnable_scheduler cfg {} none (State.init cfg) with view | ⟨new, none, -⟩
    · have px : (step cfg (State.init cfg) (.enable {} none)).pxCurrentTcb = none :=
        congrArg SchedulerView.pxCurrentTcb view
      rw [px]
      exact fun same => (by cases same)
    · cases none
  · intro becomes
    cases becomes

/-- Of the names of one length, UTF-8 or not, all have one id on the three paths exactly
when they are UTF-8, the kernel does not cut them, and their length fits in eight bits. -/
theorem one_id_iff (cfg : Config) {length : Nat} (pos : 0 < length) (utf8 : Bool) :
    (∀ name : CString, name.length = length → 0 ∉ name → (Encodes name ↔ utf8 = true) →
      OneId cfg name) ↔
    utf8 = true ∧ length < cfg.maxTaskNameLen ∧ length ≤ 255 := by
  obtain ⟨n, rfl⟩ : ∃ n, length = n + 1 := ⟨length - 1, by omega⟩
  constructor
  · intro all
    cases utf8 with
    | false =>
        obtain ⟨id, shared⟩ := all (255 :: List.replicate n 255) (by simp) (by simp)
          (iff_of_false (not_encodes _) Bool.false_ne_true)
        have manifest := shared.manifest
        rw [manifestProbeId_eq, if_neg (not_encodes _)] at manifest
        cases manifest
    | true =>
        refine ⟨rfl, ?_⟩
        by_contra long
        -- two names that differ in the byte that is not read
        have ids : ∀ c : UInt8, c ≠ 0 → c < 128 →
            createdHash cfg (List.replicate n 65 ++ [c]) =
              crc16Ibm3740 (List.replicate n 65 ++ [c]) := by
          intro c nonzero ascii
          have encodes : Encodes (List.replicate n 65 ++ [c]) := by
            refine encodes_ascii fun d mem => ?_
            rcases List.mem_append.mp mem with front | last
            · rw [List.eq_of_mem_replicate front]
              decide
            · rwa [List.mem_singleton.mp last]
          obtain ⟨id, shared⟩ := all (List.replicate n 65 ++ [c]) (by simp)
            (by simp [Ne.symm nonzero]) (iff_of_true encodes rfl)
          obtain ⟨s, reached, on, fresh⟩ := enabled_reachable cfg
          have manifest := shared.manifest
          rw [manifestProbeId_eq, if_pos encodes, Option.some.injEq] at manifest
          exact (created_registeredAs {} _ _ 1 on).word.symm.trans
            ((shared.created _ s {} _ 1 reached on fresh).word.trans manifest.symm)
        have same := createdHash_last cfg (List.replicate n 65) 65 66 (by simpa using long)
        rw [ids 65 (by decide) (by decide), ids 66 (by decide) (by decide)] at same
        exact absurd (Crc.check_last (by decide) (by decide) same) (by decide)
  · rintro ⟨rfl, fits, short⟩ name length nonzero encodes
    exact ⟨_, sharedId_short (by omega) (encodes.mpr rfl) (by omega) (by omega)⟩

theorem one_id_iff_one_letter : OneId Config.tests [88] := by
  have pos : 0 < 1 := Nat.one_pos
  exact (one_id_iff Config.tests pos true).mpr ⟨rfl, by decide, by decide⟩ [88] rfl (by decide)
    (iff_of_true (encodes_ascii (by decide +kernel)) rfl)

/-- SensorManager is traced though it was excluded: the kernel keeps eleven bytes. -/
theorem long_name_traced :
    ¬ ∀ (cfg : Config) (name : CString), name ≠ [] → 0 ∉ name → OneId cfg name := by
  intro always
  obtain ⟨id, shared⟩ := always Config.tests
    [83, 101, 110, 115, 111, 114, 77, 97, 110, 97, 103, 101, 114] (by decide) (by decide)
  have untraced := shared.untraced
    [.enable {} (some { handle := 0, taskNumber := 0, becomesCurrent := false })] []
    _ _ {} { handle := 1, taskNumber := 0, becomesCurrent := true } 1
    (Transition.Run.of_check (by decide +kernel)) (by decide +kernel) (.nil _)
    (by decide +kernel) (by decide +kernel)
  have filter := untraced.filter
  revert filter
  decide +kernel

end ProbeTrace
