import ProbeTrace.Foundation.BlockPool
import ProbeTrace.Metatheory.RegistrySteps

/-!
The static probe storage. Every request that a run makes of alloc_storage is answered as
by a pool of blocks of MPT_CFG_TASK_PROBE_SIZE bytes, whose size is MPT_CFG_STORAGE_SIZE.
-/
namespace ProbeTrace

/-- The region a call gives to a probe: where it starts, and its length. -/
def Call.region? : Call → Option (Storage × Nat)
  | .initializeProbe storage size _ => some (storage, size)
  | .produceSnapshot _ _ _ | .mergeSnapshot _ _ _ | .recordEvent _ _ _
  | .processControlMessage _ _ | .report _ | .announceMutators _ => none

/-- The regions passed to modality_probe_initialize, in order. -/
def State.regions (s : State) : List (Storage × Nat) := s.calls.filterMap Call.region?

/-- What alloc_storage answers in an action, where the action requests storage. -/
def storageRequests (cfg : Config) (s : State) : Op → List (Option Storage)
  | .create env new name _ =>
      let (probeId, t) := nameTask cfg new.handle (s.addTask cfg new name).enterCriticalSection
      if s.isEnabled && !isTaskExcluded t probeId then
        [(allocStorage cfg env cfg.taskProbeSize t).1]
      else []
  | _ => []

/-- Nothing is allocated and no probe is initialized. -/
structure SameStorage (s t : State) : Prop where
  nextStorageIndex : t.nextStorageIndex = s.nextStorageIndex
  regions : t.regions = s.regions

namespace SameStorage
variable {s r t : State}

theorem refl (s : State) : SameStorage s s := ⟨rfl, rfl⟩

theorem trans (h : SameStorage s r) (k : SameStorage r t) : SameStorage s t :=
  ⟨k.nextStorageIndex.trans h.nextStorageIndex, k.regions.trans h.regions⟩

theorem error (msg : String) (s : State) : SameStorage s (s.prvTraceError msg) := by
  rw [State.prvTraceError_eq]
  exact ⟨rfl, rfl⟩

/-- A call that initializes nothing. -/
theorem log {c : Call} (other : c.region? = none) (s : State) : SameStorage s (s.logCall c) := by
  refine ⟨rfl, ?_⟩
  simp only [State.regions, State.logCall, List.filterMap_append, List.filterMap_cons, other,
    List.filterMap_nil, List.append_nil]

end SameStorage

theorem storage_hookEffect : HookEffect SameStorage where
  refl := .refl
  trans := .trans
  enter _ := ⟨rfl, rfl⟩
  exit _ := ⟨rfl, rfl⟩
  error := .error
  record _ _ _ s := .log rfl s
  produce env probe i s := by
    have logged := SameStorage.log (c := .produceSnapshot probe i env.produceSnapshot) rfl s
    simp only [State.modalityProbeProduceSnapshot]
    split
    · exact logged.trans ⟨rfl, rfl⟩
    · exact logged
  merge _ _ s := .log rfl s
  switched new s := by
    simp only [prvTraceSwitchedTcb]
    split <;> exact ⟨rfl, rfl⟩
  fault _ := ⟨rfl, rfl⟩

theorem storage_controlEffect : ControlEffect SameStorage where
  refl := .refl
  trans := .trans
  enter _ := ⟨rfl, rfl⟩
  exit _ := ⟨rfl, rfl⟩
  error := .error
  receive _ _ _ := ⟨rfl, rfl⟩
  send _ _ _ _ _ := ⟨rfl, rfl⟩
  process _ _ s := .log rfl s
  report _ s := .log rfl s
  announce _ s := .log rfl s
  buffer _ _ := ⟨rfl, rfl⟩
  iters _ _ := ⟨rfl, rfl⟩
  point _ _ _ := ⟨rfl, rfl⟩

theorem storage_attachEffect : AttachEffect SameStorage where
  refl := .refl
  trans := .trans
  exit _ := ⟨rfl, rfl⟩
  error := .error
  produce _ _ _ s := .log rfl s
  record _ _ _ s := .log rfl s
  tcb _ _ _ := ⟨rfl, rfl⟩
  slot _ _ _ := ⟨rfl, rfl⟩
  messageBuffer cfg env s := by
    simp only [allocMessageBuffer]
    split <;> exact ⟨rfl, rfl⟩
  taskBuffer env s := by
    simp only [allocTaskLocalBuffer]
    split <;> exact ⟨rfl, rfl⟩

theorem storage_enableEffect : EnableEffect SameStorage where
  refl := .refl
  trans := .trans
  enter _ := ⟨rfl, rfl⟩
  exit _ := ⟨rfl, rfl⟩
  error := .error
  exclude _ _ _ := ⟨rfl, rfl⟩
  addTask _ _ _ _ := ⟨rfl, rfl⟩
  ioTask _ _ := ⟨rfl, rfl⟩
  enabled _ := ⟨rfl, rfl⟩

/-! A creation. -/

theorem nameTask_storage (cfg : Config) (task : TaskHandle) (s : State) :
    SameStorage s (nameTask cfg task s).2 := by
  refine ⟨?_, ?_⟩
  · have registry := (nameTask_eq cfg task s).2
    exact congrArg Registry.nextStorageIndex registry
  · rw [State.regions, nameTask_calls]
    rfl

/-- With static allocation the storage is a pool of blocks. -/
theorem allocStorage_static {cfg : Config} (static : cfg.staticAllocation = true)
    (env : External) (n : Nat) (s : State) :
    (allocStorage cfg env n s).1 =
      (BlockPool.take cfg.sizeWidth cfg.storageSize n s.nextStorageIndex).1.map
        Storage.probeStorage ∧
    (allocStorage cfg env n s).2.nextStorageIndex =
      (BlockPool.take cfg.sizeWidth cfg.storageSize n s.nextStorageIndex).2 ∧
    (allocStorage cfg env n s).2.regions = s.regions := by
  simp only [allocStorage, static, if_true, BlockPool.take]
  split
  · exact ⟨rfl, rfl, rfl⟩
  · exact ⟨rfl, rfl, rfl⟩

/-- The regions a request may add. -/
theorem allocProbe_storage (cfg : Config) (env : External) (n : Nat) (probeId : BitVec 32)
    (s : State) :
    (allocProbe cfg env n probeId s).2.nextStorageIndex =
      (allocStorage cfg env n s).2.nextStorageIndex ∧
    ((allocProbe cfg env n probeId s).2.regions = (allocStorage cfg env n s).2.regions ∨
      ∃ storage, (allocStorage cfg env n s).1 = some storage ∧
        (allocProbe cfg env n probeId s).2.regions =
          (allocStorage cfg env n s).2.regions ++ [(storage, n)]) := by
  simp only [allocProbe]
  cases allocStorage cfg env n s with
  | mk storage r =>
      cases storage with
      | none =>
          have failed := SameStorage.error
            "Failed to allocate probe storage, increase MPT_CFG_STORAGE_SIZE" r
          exact ⟨failed.nextStorageIndex, .inl failed.regions⟩
      | some storage =>
          have initialized : (r.modalityProbeInitialize env storage n probeId).2.nextStorageIndex =
              r.nextStorageIndex ∧ (r.modalityProbeInitialize env storage n probeId).2.regions =
              r.regions ++ [(storage, n)] := by
            simp only [State.modalityProbeInitialize, State.regions, State.logCall]
            split
            · exact ⟨rfl, List.filterMap_append⟩
            · exact ⟨rfl, List.filterMap_append⟩
          dsimp only
          split
          · generalize r.modalityProbeInitialize env storage n probeId = done at initialized
            refine traceAssert_induction (P := fun p : Option Probe × State =>
              p.2.nextStorageIndex = r.nextStorageIndex ∧ (p.2.regions = r.regions ∨
                ∃ storage', some storage = some storage' ∧
                  p.2.regions = r.regions ++ [(storage', n)])) (fun _ _ => ?_) (fun _ => ?_)
            · have failed := SameStorage.error
                ("TRACE_ASSERT: " ++ "Failed to initialize Modality probe") done.2
              exact ⟨failed.nextStorageIndex.trans initialized.1,
                .inr ⟨storage, rfl, failed.regions.trans initialized.2⟩⟩
            · exact ⟨initialized.1, .inr ⟨storage, rfl, initialized.2⟩⟩
          · exact ⟨rfl, .inl rfl⟩

/-- The part of a registration after the allocation. -/
theorem register_storage (cfg : Config) (env : External) (task : TaskHandle)
    (uxPriority : BitVec 32) {s : State} (on : s.isEnabled = true) :
    SameStorage (nameAndAlloc cfg env task s.enterCriticalSection).2
      (prvTraceRegisterTaskProbe cfg env task uxPriority s) := by
  simp only [prvTraceRegisterTaskProbe, State.enter_isEnabled, on, if_true]
  cases nameAndAlloc cfg env task s.enterCriticalSection with
  | mk probe r =>
      cases probe with
      | none => exact ⟨rfl, rfl⟩
      | some probe => exact storage_attachEffect.attachProbe cfg env task uxPriority probe r

theorem Failed.after {s r t : State} (h : Latched s r) (k : Failed r t) : Failed s t := by
  cases h with
  | inl same =>
      obtain ⟨⟨msg, rest, errors, errorMsg⟩, off⟩ := k
      exact ⟨⟨msg, rest, by rw [errors, same.errors], by rw [errorMsg, same.errorMsg]⟩, off⟩
  | inr failed =>
      obtain ⟨⟨msg, rest, errors, errorMsg⟩, -⟩ := failed
      obtain ⟨⟨msg', rest', errors', errorMsg'⟩, off⟩ := k
      refine ⟨⟨msg, rest ++ msg' :: rest', ?_, ?_⟩, off⟩
      · rw [errors', errors, List.append_assoc, List.cons_append]
      · rw [errorMsg', errorMsg]
        cases s.errorMsg <;> rfl

/-- A registration whose request is refused records an error. -/
theorem register_refused (cfg : Config) (env : External) (task : TaskHandle)
    (uxPriority : BitVec 32) {s : State} (on : s.isEnabled = true)
    (asked : isTaskExcluded (nameTask cfg task s.enterCriticalSection).2
      (nameTask cfg task s.enterCriticalSection).1 = false)
    (refused : (allocStorage cfg env cfg.taskProbeSize
      (nameTask cfg task s.enterCriticalSection).2).1 = none) :
    Failed s (prvTraceRegisterTaskProbe cfg env task uxPriority s) := by
  have entered : Latched s s.enterCriticalSection := .same rfl rfl rfl
  have named := latched_registerEffect.nameTask cfg task s.enterCriticalSection
  simp only [prvTraceRegisterTaskProbe, State.enter_isEnabled, on, if_true, nameAndAlloc]
  generalize nameTask cfg task s.enterCriticalSection = p at asked refused named ⊢
  have stored := latched_registerEffect.storage cfg env cfg.taskProbeSize p.2
  simp only [asked, allocProbe]
  generalize allocStorage cfg env cfg.taskProbeSize p.2 = q at refused stored ⊢
  obtain ⟨storage, r⟩ := q
  cases refused
  refine Failed.after ((entered.trans named).trans stored) ?_
  refine ⟨⟨"Failed to allocate probe storage, increase MPT_CFG_STORAGE_SIZE", [], ?_, ?_⟩, ?_⟩
  · exact State.prvTraceError_errors _ r
  · exact State.prvTraceError_errorMsg _ r
  · exact State.prvTraceError_isEnabled _ r

/-- An action whose request is refused. -/
theorem request_refused (cfg : Config) {s : State} (op : Op)
    (refused : none ∈ storageRequests cfg s op) : Failed s (step cfg s op) := by
  cases op with
  | create env new name uxPriority =>
      simp only [storageRequests, Bool.and_eq_true, Bool.not_eq_true'] at refused
      split at refused
      · rename_i asked
        have failed := register_refused cfg env new.handle uxPriority
          (s := s.addTask cfg new name) asked.1 asked.2 (List.mem_singleton.mp refused).symm
        exact ⟨failed.errors, failed.isEnabled⟩
      · cases refused
  | _ => cases refused

/-! Runs. -/

/-- Only a creation takes storage. -/
theorem step_storage (cfg : Config) (s : State) (op : Op)
    (other : ∀ env new name uxPriority, op ≠ .create env new name uxPriority) :
    SameStorage s (step cfg s op) := by
  cases op with
  | enable env io => exact storage_enableEffect.vTraceEnable cfg env io s
  | disable => exact ⟨rfl, rfl⟩
  | exclude pcName => exact storage_enableEffect.vTraceExcludeTask cfg pcName s
  | create env new name uxPriority => exact absurd rfl (other env new name uxPriority)
  | delete task => exact ⟨rfl, rfl⟩
  | start env next uxPriority =>
      exact storage_hookEffect.startScheduler cfg env next uxPriority ⟨rfl, rfl⟩
  | switch out in' next uxPriority =>
      exact storage_hookEffect.contextSwitch cfg out in' next uxPriority s fun _ => ⟨rfl, rfl⟩
  | hook env h => exact storage_hookEffect.run cfg env h s
  | setFilter task filter => exact ⟨rfl, rfl⟩
  | ioRead r =>
      simp only [step]
      split
      · exact storage_controlEffect.ioRead cfg r s
      · exact .refl s
      · exact .refl s
  | ioSend => exact storage_controlEffect.ioSend cfg s
  | ioReport reports announcements =>
      exact storage_controlEffect.ioReport cfg reports announcements s
  | process env => exact storage_controlEffect.vTraceProcessControlPlaneMessages cfg env s
  | getBuffer => exact storage_controlEffect.pvTraceGetControlPlaneBuffer s

/-- The pool after `n` requests, of which some got a probe. -/
structure StorageTaken (cfg : Config) (n : Nat) (s : State) : Prop where
  index : s.nextStorageIndex = BlockPool.index cfg.storageSize cfg.taskProbeSize n
  regions : s.regions.Sublist ((BlockPool.blocks cfg.storageSize cfg.taskProbeSize n).map
    fun offset => (Storage.probeStorage offset, cfg.taskProbeSize))

theorem StorageTaken.same {cfg : Config} {n : Nat} {s t : State} (h : StorageTaken cfg n s)
    (same : SameStorage s t) : StorageTaken cfg n t where
  index := same.nextStorageIndex.trans h.index
  regions := same.regions ▸ h.regions

/-- The answer to the next request, as a region. -/
def storageAnswer (cfg : Config) (n : Nat) : Option Storage :=
  (BlockPool.answer cfg.storageSize cfg.taskProbeSize n).map Storage.probeStorage

/-- A request is answered by the pool. -/
theorem allocProbe_taken {cfg : Config} (static : cfg.staticAllocation = true)
    (env : External) (probeId : BitVec 32) {n : Nat} {s : State} (h : StorageTaken cfg n s) :
    (allocStorage cfg env cfg.taskProbeSize s).1 = storageAnswer cfg n ∧
    StorageTaken cfg (n + 1) (allocProbe cfg env cfg.taskProbeSize probeId s).2 := by
  obtain ⟨answered, advanced, kept⟩ := allocStorage_static static env cfg.taskProbeSize s
  have taken := BlockPool.take_index cfg.taskProbeSize_pos cfg.storageSize_lt
    cfg.taskProbeSize_lt n
  rw [h.index, taken] at answered advanced
  obtain ⟨index, regions⟩ := allocProbe_storage cfg env cfg.taskProbeSize probeId s
  rw [kept] at regions
  refine ⟨answered, index.trans advanced, ?_⟩
  rw [BlockPool.blocks_succ, List.map_append]
  cases regions with
  | inl same =>
      rw [same]
      exact h.regions.trans (List.sublist_append_left _ _)
  | inr more =>
      obtain ⟨storage, served, added⟩ := more
      rw [answered, Option.map_eq_some_iff] at served
      obtain ⟨offset, here, rfl⟩ := served
      dsimp only at here
      rw [added, here]
      exact h.regions.append_right _

theorem create_taken {cfg : Config} (static : cfg.staticAllocation = true) (env : External)
    (new : NewTask) (name : CString) (uxPriority : BitVec 32) {n : Nat} {s : State}
    (h : StorageTaken cfg n s) :
    storageRequests cfg s (.create env new name uxPriority) = [] ∧
      StorageTaken cfg n (xTaskCreate cfg env new name uxPriority s) ∨
    storageRequests cfg s (.create env new name uxPriority) = [storageAnswer cfg n] ∧
      StorageTaken cfg (n + 1) (xTaskCreate cfg env new name uxPriority s) := by
  have added : SameStorage s (s.addTask cfg new name) := ⟨rfl, rfl⟩
  cases on : s.isEnabled with
  | false =>
      refine .inl ⟨?_, ?_⟩
      · simp only [storageRequests, on, Bool.false_and, Bool.false_eq_true, if_false]
      · rw [xTaskCreate, prvTraceRegisterTaskProbe_disabled cfg env new.handle uxPriority
          (s := s.addTask cfg new name) on]
        exact h.same added
  | true =>
      have registered := register_storage cfg env new.handle uxPriority
        (s := s.addTask cfg new name) on
      have named := nameTask_storage cfg new.handle (s.addTask cfg new name).enterCriticalSection
      have entered : SameStorage s (s.addTask cfg new name).enterCriticalSection := ⟨rfl, rfl⟩
      have before := h.same (entered.trans named)
      simp only [nameAndAlloc] at registered
      simp only [storageRequests, on, Bool.true_and, xTaskCreate]
      generalize nameTask cfg new.handle (s.addTask cfg new name).enterCriticalSection = p
        at registered before ⊢
      cases excluded : isTaskExcluded p.2 p.1 with
      | true =>
          rw [excluded] at registered
          exact .inl ⟨rfl, before.same registered⟩
      | false =>
          rw [excluded] at registered
          obtain ⟨answered, after⟩ := allocProbe_taken static env (p.1.setWidth 32) before
          exact .inr ⟨congrArg (fun storage => [storage]) answered, after.same registered⟩

theorem step_taken {cfg : Config} (static : cfg.staticAllocation = true) {n : Nat} {s : State}
    (h : StorageTaken cfg n s) (op : Op) :
    storageRequests cfg s op = [] ∧ StorageTaken cfg n (step cfg s op) ∨
    storageRequests cfg s op = [storageAnswer cfg n] ∧
      StorageTaken cfg (n + 1) (step cfg s op) := by
  by_cases create : ∃ env new name uxPriority, op = .create env new name uxPriority
  · obtain ⟨env, new, name, uxPriority, rfl⟩ := create
    exact create_taken static env new name uxPriority h
  · have other : ∀ env new name uxPriority, op ≠ .create env new name uxPriority :=
      fun env new name uxPriority eq => create ⟨env, new, name, uxPriority, eq⟩
    refine .inl ⟨?_, h.same (step_storage cfg s op other)⟩
    cases op with
    | create env new name uxPriority => exact absurd rfl (other env new name uxPriority)
    | _ => rfl

/-- What a run leaves of the static storage. -/
structure StaticStorage (cfg : Config) (ops : List Op) (s : State) : Prop where
  noWrap : s.nextStorageIndex + cfg.taskProbeSize < 2 ^ cfg.sizeWidth
  index_le : s.nextStorageIndex ≤ cfg.storageSize
  within : ∀ region ∈ s.regions, ∃ offset, region = (.probeStorage offset, cfg.taskProbeSize) ∧
    offset + cfg.taskProbeSize ≤ cfg.storageSize
  disjoint : s.regions.Pairwise fun a b => ∀ i j, a.1 = .probeStorage i → b.1 = .probeStorage j →
    i + a.2 ≤ j ∨ j + b.2 ≤ i
  served : (Transition.outputs (step cfg) (storageRequests cfg) (State.init cfg) ops).countP
      Option.isSome =
    min (Transition.outputs (step cfg) (storageRequests cfg) (State.init cfg) ops).length
      (cfg.storageSize / cfg.taskProbeSize)
  refusals_last : (Transition.outputs (step cfg) (storageRequests cfg) (State.init cfg)
    ops).Pairwise fun earlier later => earlier = none → later = none
  refused : ∀ op, none ∈ storageRequests cfg s op →
    (step cfg s op).nextStorageIndex = s.nextStorageIndex ∧ Failed s (step cfg s op)

theorem static_storage {cfg : Config} (static : cfg.staticAllocation = true) {ops : List Op}
    {s : State} (reached : Reaches cfg (fun _ _ => True) ops s) : StaticStorage cfg ops s := by
  have start : StorageTaken cfg 0 (State.init cfg) :=
    ⟨by rw [BlockPool.index, Nat.zero_min, Nat.zero_mul]; rfl, List.nil_sublist _⟩
  have keep : ∀ (n : Nat) (s : State) (op : Op), StorageTaken cfg n s → op.Legal cfg s ∧ True →
      storageRequests cfg s op = [] ∧ StorageTaken cfg n (step cfg s op) ∨
      storageRequests cfg s op = [storageAnswer cfg n] ∧
        StorageTaken cfg (n + 1) (step cfg s op) := fun _ _ op h _ => step_taken static h op
  obtain ⟨n, requests, taken⟩ := reached.counted keep start
  constructor
  case noWrap =>
    rw [taken.index]
    exact BlockPool.index_add_lt cfg.storageSize_lt cfg.taskProbeSize_lt n
  case index_le =>
    rw [taken.index]
    exact BlockPool.index_le _ _ n
  case within =>
    intro region member
    obtain ⟨offset, block, rfl⟩ := List.mem_map.mp (taken.regions.subset member)
    exact ⟨offset, rfl, BlockPool.block_le cfg.taskProbeSize_pos block⟩
  case disjoint =>
    refine List.Pairwise.sublist taken.regions (List.pairwise_map.mpr ?_)
    refine (BlockPool.blocks_disjoint cfg.storageSize cfg.taskProbeSize n).imp ?_
    intro a b apart i j hi hj
    cases hi
    cases hj
    exact .inl apart
  case served =>
    have count := BlockPool.served cfg.storageSize cfg.taskProbeSize n
    rw [requests, List.length_map, List.length_range, ← count, List.countP_map, List.countP_map]
    refine List.countP_congr fun k _ => ?_
    simp only [Function.comp_apply, storageAnswer, Option.isSome_map]
  case refusals_last =>
    have last := BlockPool.refusals_last cfg.storageSize cfg.taskProbeSize n
    rw [requests]
    refine List.pairwise_map.mpr ((List.pairwise_map.mp last).imp ?_)
    intro a b refused none
    rw [storageAnswer, Option.map_eq_none_iff] at none ⊢
    exact refused none
  case refused =>
    intro op none
    cases step_taken static taken op with
    | inl nothing =>
        rw [nothing.1] at none
        cases none
    | inr request =>
        obtain ⟨answered, after⟩ := request
        rw [answered, List.mem_singleton, eq_comm, storageAnswer, Option.map_eq_none_iff] at none
        refine ⟨?_, request_refused cfg op ?_⟩
        · rw [after.index, taken.index, BlockPool.index_refused none]
        · rw [answered, storageAnswer, none]
          exact List.mem_singleton_self _

/-- The tests' configuration with static storage for two probes. -/
def Config.staticTests : Config :=
  { Config.tests with
    staticAllocation := true
    storageSize := 8192
    storageSize_pos := by decide
    storageSize_lt := by decide }

theorem static_storage_third : StaticStorage Config.staticTests
    [.enable {} (some ⟨9, 0, true⟩), .create {} ⟨1, 0, true⟩ [65] 1,
      .create {} ⟨2, 0, true⟩ [66] 1, .create {} ⟨3, 0, true⟩ [67] 1]
    ([Op.enable {} (some ⟨9, 0, true⟩), .create {} ⟨1, 0, true⟩ [65] 1,
      .create {} ⟨2, 0, true⟩ [66] 1, .create {} ⟨3, 0, true⟩ [67] 1].foldl
      (step Config.staticTests) (State.init Config.staticTests)) := by
  have reached : Reaches Config.staticTests (fun _ _ => True)
      [.enable {} (some ⟨9, 0, true⟩), .create {} ⟨1, 0, true⟩ [65] 1,
        .create {} ⟨2, 0, true⟩ [66] 1, .create {} ⟨3, 0, true⟩ [67] 1] _ :=
    Transition.Run.of_check (by decide +kernel)
  exact static_storage rfl reached

end ProbeTrace
