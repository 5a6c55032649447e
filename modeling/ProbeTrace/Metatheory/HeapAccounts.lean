import ProbeTrace.Foundation.Ledger
import ProbeTrace.Metatheory.Slots

/-!
The accounts of TRACE_MALLOC and xMessageBufferCreate. The library frees nothing: whatever it
got is owned by one slot of g_tcb_probes, once, or was lost in a registration that could not
use it. With no such registration nothing is ever lost.
-/
namespace ProbeTrace

def Storage.blocks : Storage → List Nat
  | .heap block => [block]
  | .probeStorage _ => []

/-- The heap blocks a slot owns. -/
def TcbProbe.blocks (e : TcbProbe) : List Nat :=
  e.probe.toList.flatMap Storage.blocks ++ e.taskLocalBuffer.toList

/-- The message buffer a slot owns. -/
def TcbProbe.buffers (e : TcbProbe) : List Nat := e.controlMsgBuffer.toList

def State.ownedBlocks (s : State) : List Nat := s.tcbProbes.flatMap TcbProbe.blocks

def State.ownedBuffers (s : State) : List Nat := s.tcbProbes.flatMap TcbProbe.buffers

/-- The heap block that is taken for a probe. -/
def probeBlocks (cfg : Config) (r : Registry) : List Nat :=
  if cfg.staticAllocation then [] else [r.nextBlock]

/-- The registry in which a creation is registered. -/
def State.creating (cfg : Config) (new : NewTask) (name : CString) (s : State) : Registry :=
  s.registry.addTask cfg new name

/-- The registration fills a slot. -/
def FillsOne (cfg : Config) (env : External) (task : TaskHandle) (r : Registry) : Prop :=
  GetsProbe cfg env task r ∧ FindsSlot cfg env r

instance (cfg : Config) (env : External) (task : TaskHandle) (r : Registry) :
    Decidable (FillsOne cfg env task r) := inferInstanceAs (Decidable (_ ∧ _))

/-- The blocks an action takes and loses: a probe's storage when the probe gets no slot, and a
task local buffer without a message buffer. -/
def lostBlocks (cfg : Config) (s : State) : Op → List Nat
  | .create env new name _ =>
      if s.isEnabled then
        if FillsOne cfg env new.handle (s.creating cfg new name) then
          if cfg.includeControlPlaneBuffer && env.mallocTaskBuffer && !env.messageBufferCreate then
            [s.nextBlock + (probeBlocks cfg s.registry).length]
          else []
        else if TakesStorage cfg env new.handle (s.creating cfg new name) then
          probeBlocks cfg s.registry
        else []
      else []
  | _ => []

/-- A message buffer without a task local buffer. -/
def lostBuffers (cfg : Config) (s : State) : Op → List Nat
  | .create env new name _ =>
      if s.isEnabled && decide (FillsOne cfg env new.handle (s.creating cfg new name)) &&
          cfg.includeControlPlaneBuffer && env.messageBufferCreate && !env.mallocTaskBuffer then
        [s.nextBuffer]
      else []
  | _ => []

/-- The accounts at the end of a run. -/
structure HeapAccounts (cfg : Config) (ops : List Op) (s : State) : Prop where
  blocks : (s.ownedBlocks ++ Transition.outputs (step cfg) (lostBlocks cfg) (State.init cfg)
    ops).Perm (List.range s.nextBlock)
  buffers : (s.ownedBuffers ++ Transition.outputs (step cfg) (lostBuffers cfg) (State.init cfg)
    ops).Perm (List.range s.nextBuffer)
  few : s.ownedBlocks.length ≤ 2 * cfg.maxProbes ∧ s.ownedBuffers.length ≤ cfg.maxProbes

section
variable {cfg : Config} {s t : State} {op : Op}

/-- What is owned is seen in the registry. -/
theorem ownedBlocks_registry (s : State) :
    s.ownedBlocks = s.registry.slots.flatMap TcbProbe.blocks := by
  rw [State.ownedBlocks, State.registry, List.flatMap_map]
  rfl

theorem ownedBuffers_registry (s : State) :
    s.ownedBuffers = s.registry.slots.flatMap TcbProbe.buffers := by
  rw [State.ownedBuffers, State.registry, List.flatMap_map]
  rfl

/-- The accounts as an invariant, over what was lost so far. -/
structure Accounted (cfg : Config) (lost lost' : List Nat) (r : Registry) : Prop where
  table : Slots cfg r
  blocks : Ledger.Balanced (r.slots.flatMap TcbProbe.blocks) lost r.nextBlock
  buffers : Ledger.Balanced (r.slots.flatMap TcbProbe.buffers) lost' r.nextBuffer

theorem accounted_init (cfg : Config) : Accounted cfg [] [] (State.init cfg).registry := by
  have none : ∀ (f : TcbProbe → List Nat), f {} = [] →
      (State.init cfg).registry.slots.flatMap f = [] := by
    intro f empty
    rw [List.flatMap_eq_nil_iff]
    intro e mem
    obtain ⟨e', mem', isMasked⟩ := List.mem_map.mp mem
    rw [← isMasked, List.eq_of_mem_replicate mem']
    exact empty
  refine ⟨.init cfg, ?_, ?_⟩
  · rw [none _ rfl]
    exact Ledger.balanced_init
  · rw [none _ rfl]
    exact Ledger.balanced_init

/-- An action that takes and loses nothing. -/
theorem Accounted.same {r r' : Registry} {lost lost' : List Nat} (h : Accounted cfg lost lost' r)
    (table : Slots cfg r') (slots : r'.slots = r.slots) (nextBlock : r'.nextBlock = r.nextBlock)
    (nextBuffer : r'.nextBuffer = r.nextBuffer) :
    Accounted cfg (lost ++ []) (lost' ++ []) r' := by
  rw [List.append_nil, List.append_nil]
  refine ⟨table, ?_, ?_⟩
  · rw [slots, nextBlock]
    exact h.blocks
  · rw [slots, nextBuffer]
    exact h.buffers

/-! What a registration takes. -/

theorem probeBlocks_range (cfg : Config) (r : Registry) :
    probeBlocks cfg r = List.range' r.nextBlock (probeBlocks cfg r).length := by
  rw [probeBlocks]
  split
  · rfl
  · rfl

theorem takeStorage_nextBlock (cfg : Config) (r : Registry) :
    (r.takeStorage cfg).nextBlock = r.nextBlock + (probeBlocks cfg r).length := by
  rw [Registry.takeStorage, probeBlocks]
  split
  · rfl
  · rfl

/-- The blocks a new slot owns are its storage and its task local buffer. -/
theorem newSlot_blocks (cfg : Config) (env : External) (task : TaskHandle) (r r₁ : Registry) :
    (r₁.newSlot cfg env task (r.storage cfg)).blocks = probeBlocks cfg r ++
      if cfg.includeControlPlaneBuffer && (env.messageBufferCreate && env.mallocTaskBuffer) then
        [r₁.nextBlock] else [] := by
  have probe : (some (r.storage cfg)).toList.flatMap Storage.blocks = probeBlocks cfg r := by
    rw [Registry.storage, probeBlocks]
    cases cfg.staticAllocation with
    | false | true => rfl
  rw [Registry.newSlot]
  split
  · exact congrArg (· ++ _) probe
  · exact congrArg (· ++ _) probe

theorem newSlot_buffers (cfg : Config) (env : External) (task : TaskHandle) (probe : Probe)
    (r₁ : Registry) : (r₁.newSlot cfg env task probe).buffers =
      if cfg.includeControlPlaneBuffer && (env.messageBufferCreate && env.mallocTaskBuffer) then
        [r₁.nextBuffer] else [] := by
  rw [Registry.newSlot]
  split
  · rfl
  · rfl

/-- Both buffers are asked for, whatever becomes of them. -/
theorem fillSlot_counters (cfg : Config) (env : External) (i : Nat) (task : TaskHandle)
    (probe : Probe) (r : Registry) :
    (r.fillSlot cfg env i task probe).nextBlock = r.nextBlock +
        (if cfg.includeControlPlaneBuffer && env.mallocTaskBuffer then 1 else 0) ∧
      (r.fillSlot cfg env i task probe).nextBuffer = r.nextBuffer +
        (if cfg.includeControlPlaneBuffer && env.messageBufferCreate then 1 else 0) := by
  unfold Registry.fillSlot Registry.addBuffers Registry.putTask Registry.modifySlot
  cases cfg.includeControlPlaneBuffer with
  | false => exact ⟨rfl, rfl⟩
  | true =>
      cases env.messageBufferCreate with
      | false | true =>
          cases env.mallocTaskBuffer with
          | false | true => exact ⟨rfl, rfl⟩

theorem registersIn_accounted {env : External} {task : TaskHandle} {uxPriority : BitVec 32}
    {i : Nat} {lost lost' : List Nat} (h : Accounted cfg lost lost' s.registry)
    (outcome : RegistersIn cfg env task uxPriority i s t) (table : Slots cfg t.registry) :
    Accounted cfg
      (lost ++ if cfg.includeControlPlaneBuffer && env.mallocTaskBuffer &&
        !env.messageBufferCreate then [s.nextBlock + (probeBlocks cfg s.registry).length] else [])
      (lost' ++ if cfg.includeControlPlaneBuffer && env.messageBufferCreate &&
        !env.mallocTaskBuffer then [s.nextBuffer] else []) t.registry := by
  obtain ⟨first, slots, -⟩ := h.table.registered outcome
  obtain ⟨⟨e₀, slot, unused⟩, -⟩ := SlotTable.find_eq_some_iff.mp first
  have free : s.registry.slots[i]? = some {} := h.table.free slot unused ▸ slot
  have nextBlock : (s.registry.allocate cfg task).nextBlock =
      s.nextBlock + (probeBlocks cfg s.registry).length :=
    takeStorage_nextBlock cfg (s.registry.nameTask cfg task)
  have nextBuffer : (s.registry.allocate cfg task).nextBuffer = s.nextBuffer :=
    Registry.takeStorage_nextBuffer cfg (s.registry.nameTask cfg task)
  obtain ⟨blocks, buffers⟩ := fillSlot_counters cfg env i task (s.registry.storage cfg)
    (s.registry.allocate cfg task)
  have isBlocks : t.registry.nextBlock = s.nextBlock + ((probeBlocks cfg s.registry).length +
      if cfg.includeControlPlaneBuffer && env.mallocTaskBuffer then 1 else 0) := by
    rw [outcome.registry, ← Nat.add_assoc, ← nextBlock]
    exact blocks
  have isBuffers : t.registry.nextBuffer = s.nextBuffer +
      if cfg.includeControlPlaneBuffer && env.messageBufferCreate then 1 else 0 := by
    rw [outcome.registry, ← nextBuffer]
    exact buffers
  refine ⟨table, ?_, ?_⟩
  · rw [isBlocks]
    refine h.blocks.take _ (slots ▸ Ledger.flatMap_set free rfl _) ?_
    have split := List.range'_append_1 (s := s.nextBlock) (m := (probeBlocks cfg s.registry).length)
      (n := if cfg.includeControlPlaneBuffer && env.mallocTaskBuffer then 1 else 0)
    rw [newSlot_blocks, nextBlock, List.append_assoc]
    refine .of_eq (Eq.trans ?_ split)
    refine congrArg₂ (· ++ ·) (probeBlocks_range cfg s.registry) ?_
    cases cfg.includeControlPlaneBuffer with
    | false => rfl
    | true =>
        cases env.messageBufferCreate with
        | false | true =>
            cases env.mallocTaskBuffer with
            | false | true => rfl
  · rw [isBuffers]
    refine h.buffers.take _ (slots ▸ Ledger.flatMap_set free rfl _) ?_
    rw [newSlot_buffers, nextBuffer]
    cases cfg.includeControlPlaneBuffer with
    | false => exact .refl _
    | true =>
        cases env.messageBufferCreate with
        | false => exact .refl _
        | true =>
            cases env.mallocTaskBuffer with
            | false | true => exact .refl _

/-- A registration that takes storage for a probe and fills no slot. -/
theorem Accounted.lose {r r' : Registry} {lost lost' : List Nat} (h : Accounted cfg lost lost' r)
    (table : Slots cfg r') (slots : r'.slots = r.slots)
    (nextBlock : r'.nextBlock = r.nextBlock + (probeBlocks cfg r).length)
    (nextBuffer : r'.nextBuffer = r.nextBuffer) :
    Accounted cfg (lost ++ probeBlocks cfg r) (lost' ++ []) r' := by
  refine ⟨table, ?_, ?_⟩
  · rw [slots, nextBlock]
    exact h.blocks.take _ (.of_eq (List.append_nil _).symm) (.of_eq (probeBlocks_range cfg r))
  · rw [slots, nextBuffer, List.append_nil]
    exact h.buffers

theorem create_accounted {env : External} {new : NewTask} {name : CString}
    {uxPriority : BitVec 32} {lost lost' : List Nat} (h : Accounted cfg lost lost' s.registry) :
    Accounted cfg (lost ++ lostBlocks cfg s (.create env new name uxPriority))
      (lost' ++ lostBuffers cfg s (.create env new name uxPriority))
      (step cfg s (.create env new name uxPriority)).registry := by
  have table := slots_step h.table (.create env new name uxPriority)
  have added : Accounted cfg lost lost' (s.addTask cfg new name).registry :=
    ⟨h.table.frame rfl rfl rfl rfl, h.blocks, h.buffers⟩
  simp only [lostBlocks, lostBuffers]
  cases on : s.isEnabled with
  | false =>
      have skipped : (step cfg s (.create env new name uxPriority)).registry =
          (s.addTask cfg new name).registry :=
        congrArg State.registry
          (prvTraceRegisterTaskProbe_disabled (s := s.addTask cfg new name) _ _ _ _ on)
      exact added.same table (congrArg Registry.slots skipped)
        (congrArg Registry.nextBlock skipped) (congrArg Registry.nextBuffer skipped)
  | true =>
      rcases prvTraceRegisterTaskProbe_cases cfg env new.handle uxPriority
        (s := s.addTask cfg new name) on with ⟨i, outcome⟩ | outcome | outcome
      · have fills : FillsOne cfg env new.handle (s.creating cfg new name) :=
          ⟨outcome.gets, outcome.finds⟩
        rw [if_pos rfl, if_pos fills, decide_eq_true fills]
        exact registersIn_accounted (s := s.addTask cfg new name) added outcome table
      · have fills : ¬ FillsOne cfg env new.handle (s.creating cfg new name) :=
          fun both => outcome.finds both.2
        have takes : TakesStorage cfg env new.handle (s.creating cfg new name) := outcome.gets.1
        have registry := outcome.registry
        rw [if_pos rfl, if_neg fills, if_pos takes, decide_eq_false fills]
        refine added.lose table ?_ ?_ ?_
        · exact (congrArg Registry.slots registry).trans (Registry.takeStorage_slots ..)
        · exact (congrArg Registry.nextBlock registry).trans (takeStorage_nextBlock cfg _)
        · exact (congrArg Registry.nextBuffer registry).trans (Registry.takeStorage_nextBuffer ..)
      · have fills : ¬ FillsOne cfg env new.handle (s.creating cfg new name) :=
          fun both => outcome.gets both.1
        have registry := outcome.registry
        rw [if_pos rfl, if_neg fills, decide_eq_false fills]
        by_cases takes : TakesStorage cfg env new.handle (s.creating cfg new name)
        · rw [if_pos (show TakesStorage cfg env new.handle (s.addTask cfg new name).registry from
            takes)] at registry
          rw [if_pos takes]
          refine added.lose table ?_ ?_ ?_
          · exact (congrArg Registry.slots registry).trans (Registry.takeStorage_slots ..)
          · exact (congrArg Registry.nextBlock registry).trans (takeStorage_nextBlock cfg _)
          · exact (congrArg Registry.nextBuffer registry).trans
              (Registry.takeStorage_nextBuffer ..)
        · rw [if_neg (show ¬ TakesStorage cfg env new.handle (s.addTask cfg new name).registry from
            takes)] at registry
          rw [if_neg takes]
          refine added.same table ?_ ?_ ?_
          · exact (congrArg Registry.slots registry).trans rfl
          · exact (congrArg Registry.nextBlock registry).trans rfl
          · exact (congrArg Registry.nextBuffer registry).trans rfl

/-- The accounts balance after every action. -/
theorem accounted_step {lost lost' : List Nat} (h : Accounted cfg lost lost' s.registry)
    (op : Op) :
    Accounted cfg (lost ++ lostBlocks cfg s op) (lost' ++ lostBuffers cfg s op)
      (step cfg s op).registry := by
  have table := slots_step h.table op
  cases op with
  | create env new name uxPriority => exact create_accounted h
  | enable _ _ | disable | exclude _ | delete _ | start _ _ _ | switch _ _ _ _ | hook _ _
  | setFilter _ _ | ioRead _ | ioSend | ioReport _ _ | process _ | getBuffer =>
      cases step_registry cfg s _ with
      | same registry | excluded _ registry | ioCreated _ _ _ registry | deleted _ _ registry
      | filtered _ _ _ registry | created _ _ _ _ _ _ registry =>
          exact h.same table ((congrArg Registry.slots registry).trans rfl)
            ((congrArg Registry.nextBlock registry).trans rfl)
            ((congrArg Registry.nextBuffer registry).trans rfl)
      | registersIn _ _ _ _ _ isOp | registersNowhere _ _ _ _ isOp
      | registersNothing _ _ _ _ isOp => exact nomatch isOp

theorem accounted_run (ops : List Op) {lost lost' : List Nat}
    (h : Accounted cfg lost lost' s.registry) :
    Accounted cfg (lost ++ Transition.outputs (step cfg) (lostBlocks cfg) s ops)
      (lost' ++ Transition.outputs (step cfg) (lostBuffers cfg) s ops)
      (ops.foldl (step cfg) s).registry := by
  induction ops generalizing s lost lost' with
  | nil =>
      rw [Transition.outputs, Transition.outputs, List.append_nil, List.append_nil]
      exact h
  | cons op ops ih =>
      rw [Transition.outputs, Transition.outputs, ← List.append_assoc, ← List.append_assoc]
      exact ih (accounted_step h op)

theorem few_blocks (e : TcbProbe) : e.blocks.length ≤ 2 := by
  have storage : (e.probe.toList.flatMap Storage.blocks).length ≤ 1 := by
    cases e.probe with
    | none => exact Nat.zero_le 1
    | some probe =>
        cases probe with
        | heap _ => exact Nat.le_refl 1
        | probeStorage _ => exact Nat.zero_le 1
  rw [TcbProbe.blocks, List.length_append]
  cases e.taskLocalBuffer with
  | none => exact Nat.le_succ_of_le storage
  | some _ => exact Nat.succ_le_succ storage

theorem few_buffers (e : TcbProbe) : e.buffers.length ≤ 1 := by
  rw [TcbProbe.buffers]
  cases e.controlMsgBuffer with
  | none => exact Nat.zero_le 1
  | some _ => exact Nat.le_refl 1

/-- What the library took from the heap is owned by a slot or was lost in a registration. -/
theorem heap_accounted (cfg : Config) (ops : List Op) :
    HeapAccounts cfg ops (ops.foldl (step cfg) (State.init cfg)) := by
  have accounts := accounted_run ops (accounted_init cfg)
  rw [List.nil_append, List.nil_append] at accounts
  generalize ops.foldl (step cfg) (State.init cfg) = s at accounts
  have length : s.registry.slots.length = cfg.maxProbes := accounts.table.length
  refine ⟨?_, ?_, ?_, ?_⟩
  · rw [ownedBlocks_registry]
    exact accounts.blocks
  · rw [ownedBuffers_registry]
    exact accounts.buffers
  · rw [ownedBlocks_registry, ← length]
    exact Ledger.length_flatMap_le few_blocks
  · rw [ownedBuffers_registry, ← length, ← Nat.one_mul s.registry.slots.length]
    exact Ledger.length_flatMap_le few_buffers

end

end ProbeTrace
