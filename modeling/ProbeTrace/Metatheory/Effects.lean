import ProbeTrace.Metatheory.HookRecords

/-!
The effects of the recording functions, of registration and of the control plane,
each given once as a list of the primitive changes they are made of. A relation
between states that is reflexive, transitive and contains the primitives contains
every function built from them.
-/
namespace ProbeTrace

/-- Recording and producing. -/
structure LogEffect (R : State → State → Prop) : Prop where
  refl : ∀ s, R s s
  trans : ∀ {s r t}, R s r → R r t → R s t
  enter : ∀ s, R s s.enterCriticalSection
  exit : ∀ s, R s s.exitCriticalSection
  error : ∀ msg s, R s (s.prvTraceError msg)
  record : ∀ probe id payload s, R s (s.modalityProbeRecordEvent probe id payload)
  produce : ∀ env probe i s, R s (s.modalityProbeProduceSnapshot env probe i)

/-- Besides, merging. -/
structure RecordEffect (R : State → State → Prop) : Prop extends LogEffect R where
  merge : ∀ probe i s, R s (s.modalityProbeMergeSnapshot probe i)
  fault : ∀ s : State, R s { s with fault := true }

/-- The kernel hooks: besides, the switch of the traced task. -/
structure HookEffect (R : State → State → Prop) : Prop extends RecordEffect R where
  switched : ∀ new s, R s (prvTraceSwitchedTcb new s).2

namespace LogEffect
variable {R : State → State → Prop}

/-- An assert whose failure leaves the function at once. -/
theorem assert (h : LogEffect R) {cfg : Config} {eval : Bool} {msg : String}
    {s r : State} {k : State → State} (before : R s r) (passed : R s (k r)) :
    R s (traceAssert cfg eval msg r id k) :=
  traceAssert_induction (fun _ _ => h.trans before (h.error _ r)) (fun _ => passed)

theorem logEvent (h : LogEffect R) (cfg : Config) (env : External) (noSlot failed : String)
    (id' : BitVec 32) (payload : Option (BitVec 32)) (s : State) :
    R s (logEvent cfg env noSlot failed id' payload s) := by
  have entered := h.enter s
  have left := h.trans entered (h.exit s.enterCriticalSection)
  unfold ProbeTrace.logEvent
  dsimp only
  split
  · refine h.assert entered ?_
    split
    · rename_i i _
      have recorded := h.trans entered
        (h.record (s.enterCriticalSection.tcbProbe i).probe id' payload _)
      exact h.assert recorded (h.trans recorded (h.exit _))
    · exact left
  · exact left

theorem prvTraceProduceSnapshot (h : LogEffect R) (cfg : Config) (env : External)
    (s : State) : R s (prvTraceProduceSnapshot cfg env s) := by
  have entered := h.enter s
  have left := h.trans entered (h.exit s.enterCriticalSection)
  unfold ProbeTrace.prvTraceProduceSnapshot
  dsimp only
  split
  · refine h.assert entered ?_
    split
    · rename_i i _
      have produced := h.trans entered
        (h.produce env (s.enterCriticalSection.tcbProbe i).probe i _)
      exact h.assert produced (h.trans produced (h.exit _))
    · exact left
  · exact left

theorem traceTaskSwitchedOut (h : LogEffect R) (cfg : Config) (env : External)
    (s : State) : R s (traceTaskSwitchedOut cfg env s) := by
  unfold ProbeTrace.traceTaskSwitchedOut
  split
  · exact h.trans (h.logEvent ..) (h.prvTraceProduceSnapshot cfg env _)
  · exact h.refl s

theorem run (h : LogEffect R) (cfg : Config) (env : External) (k : Hook) (s : State) :
    R s (k.run cfg env s) :=
  k.run_induction cfg env (h.refl s) fun _ _ _ _ => h.logEvent ..

end LogEffect

namespace RecordEffect
variable {R : State → State → Prop}

theorem prvTraceMergeSnapshot (h : RecordEffect R) (cfg : Config) (env : External)
    (s : State) : R s (prvTraceMergeSnapshot cfg env s) := by
  have entered := h.enter s
  unfold ProbeTrace.prvTraceMergeSnapshot
  dsimp only
  split
  · refine h.assert entered (h.assert entered ?_)
    split
    · rename_i i j _ _
      have merged := h.trans entered
        (h.merge (s.enterCriticalSection.tcbProbe i).probe j _)
      exact h.assert merged (h.trans merged (h.exit _))
    · exact h.trans entered (h.fault _)
  · exact h.trans entered (h.exit _)

end RecordEffect

namespace HookEffect
variable {R : State → State → Prop}

theorem traceTaskSwitchedIn (h : HookEffect R) (cfg : Config) (env : External)
    (uxPriority : BitVec 32) (s : State) : R s (traceTaskSwitchedIn cfg env uxPriority s) := by
  unfold ProbeTrace.traceTaskSwitchedIn
  split
  · dsimp only
    refine h.trans (h.switched s.pxCurrentTcb s) ?_
    split
    · exact h.trans (h.prvTraceMergeSnapshot cfg env _) (h.logEvent ..)
    · exact h.logEvent ..
  · exact h.refl s

theorem startScheduler (h : HookEffect R) (cfg : Config) (env : External)
    (next : TaskHandle) (uxPriority : BitVec 32) {s : State}
    (select : R s { s.select next with started := true }) :
    R s (startScheduler cfg env next uxPriority s) :=
  h.trans select (h.traceTaskSwitchedIn ..)

theorem contextSwitch (h : HookEffect R) (cfg : Config) (out in' : External)
    (next : TaskHandle) (uxPriority : BitVec 32) (s : State)
    (select : ∀ r : State, R r (r.select next)) :
    R s (contextSwitch cfg out in' next uxPriority s) :=
  h.trans (h.traceTaskSwitchedOut cfg out s) (h.trans (select _) (h.traceTaskSwitchedIn ..))

end HookEffect

/-- The call hands a control message to a probe. -/
def Call.isProcess : Call → Bool
  | .processControlMessage _ _ => true
  | .initializeProbe _ _ _ | .produceSnapshot _ _ _ | .mergeSnapshot _ _ _
  | .recordEvent _ _ _ | .report _ | .announceMutators _ => false

/-- Giving a task the probe that was allocated for it. -/
structure AttachEffect (R : State → State → Prop) : Prop where
  refl : ∀ s, R s s
  trans : ∀ {s r t}, R s r → R r t → R s t
  exit : ∀ s, R s s.exitCriticalSection
  error : ∀ msg s, R s (s.prvTraceError msg)
  produce : ∀ probe i result s, R s (s.logCall (.produceSnapshot probe i result))
  record : ∀ probe id payload s, R s (s.logCall (.recordEvent probe id payload))
  tcb : ∀ task f s, R s (State.modifyTcb s task f)
  slot : ∀ i f s, R s (State.modifyTcbProbe s i f)
  messageBuffer : ∀ cfg env s, R s (allocMessageBuffer cfg env s).2
  taskBuffer : ∀ env s, R s (allocTaskLocalBuffer env s).2

/-- Naming a task and allocating its probe. -/
structure AllocEffect (R : State → State → Prop) : Prop where
  refl : ∀ s, R s s
  trans : ∀ {s r t}, R s r → R r t → R s t
  enter : ∀ s, R s s.enterCriticalSection
  exit : ∀ s, R s s.exitCriticalSection
  error : ∀ msg s, R s (s.prvTraceError msg)
  log : ∀ c s, c.isProcess = false → R s (s.logCall c)
  tcb : ∀ task f s, R s (State.modifyTcb s task f)
  storage : ∀ cfg env n s, R s (allocStorage cfg env n s).2
  probeIds : ∀ (s : State) probeIds, R s { s with probeIds := probeIds }

/-- Registration and exclusion. -/
structure RegisterEffect (R : State → State → Prop) : Prop extends AllocEffect R where
  slot : ∀ i f s, R s (State.modifyTcbProbe s i f)
  messageBuffer : ∀ cfg env s, R s (allocMessageBuffer cfg env s).2
  taskBuffer : ∀ env s, R s (allocTaskLocalBuffer env s).2
  exclude : ∀ (s : State) ids names, R s { s with
    excludedTaskProbeIds := ids, excludedNames := names }

namespace AllocEffect
variable {R : State → State → Prop}

theorem hashTaskName (h : AllocEffect R) (cfg : Config) (name : CString) (s : State) :
    R s (hashTaskName cfg name s).2 := by
  rw [hashTaskName_eq]
  dsimp only
  split
  · exact h.error _ s
  · exact h.refl s

theorem prvTraceSetTaskProbeId (h : AllocEffect R) (task : TaskHandle)
    (probeId : BitVec 16) (s : State) : R s (s.prvTraceSetTaskProbeId task probeId) := by
  unfold State.prvTraceSetTaskProbeId State.vTaskSetTaskNumber
  exact h.tcb task _ s

theorem prvTraceSetTaskFilter (h : AllocEffect R) (task : TaskHandle)
    (filter : BitVec 16) (s : State) : R s (s.prvTraceSetTaskFilter task filter) := by
  unfold State.prvTraceSetTaskFilter State.vTaskSetTaskNumber
  exact h.tcb task _ s

theorem nameTask (h : AllocEffect R) (cfg : Config) (task : TaskHandle) (s : State) :
    R s (nameTask cfg task s).2 :=
  h.trans (h.hashTaskName cfg _ s)
    (h.trans (h.prvTraceSetTaskProbeId task _ _) (h.prvTraceSetTaskFilter task 0 _))

theorem modalityProbeInitialize (h : AllocEffect R) (env : External) (storage : Storage)
    (size : Nat) (probeId : BitVec 32) (s : State) :
    R s (s.modalityProbeInitialize env storage size probeId).2 := by
  have logged := h.log (.initializeProbe storage size probeId) s rfl
  unfold State.modalityProbeInitialize
  dsimp only
  split
  · exact h.trans logged (h.probeIds _ _)
  · exact logged

theorem allocProbe (h : AllocEffect R) (cfg : Config) (env : External) (n : Nat)
    (probeId : BitVec 32) (s : State) : R s (allocProbe cfg env n probeId s).2 := by
  have stored := h.storage cfg env n s
  unfold ProbeTrace.allocProbe
  cases hs : allocStorage cfg env n s with
  | mk storage r =>
      rw [hs] at stored
      cases storage with
      | none => exact h.trans stored (h.error _ r)
      | some storage =>
          dsimp only
          split
          · have done := h.trans stored (h.modalityProbeInitialize env storage n probeId r)
            exact traceAssert_induction (P := fun p : Option Probe × State => R s p.2)
              (fun _ _ => h.trans done (h.error _ _)) (fun _ => done)
          · exact stored

theorem nameAndAlloc (h : AllocEffect R) (cfg : Config) (env : External)
    (task : TaskHandle) (s : State) : R s (nameAndAlloc cfg env task s).2 := by
  have named := h.nameTask cfg task s
  unfold ProbeTrace.nameAndAlloc
  dsimp only
  split
  · exact named
  · exact h.trans named (h.allocProbe ..)

end AllocEffect

namespace AttachEffect
variable {R : State → State → Prop}

theorem assert (h : AttachEffect R) {cfg : Config} {eval : Bool} {msg : String}
    {s r : State} {k : State → State} (before : R s r) (passed : R s (k r)) :
    R s (traceAssert cfg eval msg r id k) :=
  traceAssert_induction (fun _ _ => h.trans before (h.error _ r)) (fun _ => passed)

theorem errorIfNull (h : AttachEffect R) (pointer : Option Nat) (msg : String) (s : State) :
    R s (errorIfNull pointer msg s) := by
  unfold ProbeTrace.errorIfNull
  split
  · exact h.error msg s
  · exact h.refl s

theorem addControlPlaneBuffers (h : AttachEffect R) (cfg : Config) (env : External)
    (i : Nat) (s : State) : R s (addControlPlaneBuffers cfg env i s) := by
  have allocated := h.trans (h.messageBuffer cfg env s)
    (h.taskBuffer env (allocMessageBuffer cfg env s).2)
  have first := h.trans allocated (h.errorIfNull (allocMessageBuffer cfg env s).1
    "Failed to allocate probe control plane message buffer" _)
  have second := h.trans first (h.errorIfNull
    (allocTaskLocalBuffer env (allocMessageBuffer cfg env s).2).1
    "Failed to allocate probe task local control plane buffer" _)
  unfold ProbeTrace.addControlPlaneBuffers
  refine h.trans second ?_
  dsimp only
  split
  · exact h.slot i _ _
  · exact h.refl _

theorem modalityProbeProduceSnapshot (h : AttachEffect R) (env : External)
    (probe : Option Probe) (i : Nat) (s : State) :
    R s (s.modalityProbeProduceSnapshot env probe i) := by
  have logged := h.produce probe i env.produceSnapshot s
  unfold State.modalityProbeProduceSnapshot
  dsimp only
  split
  · exact h.trans logged (h.slot i _ _)
  · exact logged

theorem addTcbProbe (h : AttachEffect R) (cfg : Config) (env : External)
    (task : TaskHandle) (probe : Probe) (s : State) :
    R s (addTcbProbe cfg env task probe s) := by
  unfold ProbeTrace.addTcbProbe
  split
  · rename_i i _
    have produced := h.modalityProbeProduceSnapshot env (some probe) i s
    have filled := h.trans produced
      (h.slot i (fun e => { e with tcb := some task, probe := some probe }) _)
    refine h.assert produced ?_
    split
    · exact h.trans filled (h.addControlPlaneBuffers cfg env i _)
    · exact filled
  · exact h.error _ s

theorem attachProbe (h : AttachEffect R) (cfg : Config) (env : External)
    (task : TaskHandle) (uxPriority : BitVec 32) (probe : Probe) (s : State) :
    R s (attachProbe cfg env task uxPriority probe s) := by
  have added := h.trans (h.tcb task _ s)
    (h.addTcbProbe cfg env task probe (State.noteRegistered task probe s))
  have tagged : ∀ t, R t (placeProbeInTag cfg task probe t) := by
    intro t
    unfold placeProbeInTag
    split
    · exact h.tcb task _ t
    · exact h.refl t
  have marked := h.trans (h.trans added (tagged _)) (h.tcb task (fun tcb => { tcb with
    uxTaskNumber := traceWriteUpper16 tcb.uxTaskNumber 0xFFFF }) _)
  have recorded := h.trans marked
    (h.record (some probe) TraceEvent.taskCreate (some uxPriority) _)
  exact h.assert recorded (h.trans recorded (h.exit _))

end AttachEffect

namespace RegisterEffect
variable {R : State → State → Prop}

theorem attach (h : RegisterEffect R) : AttachEffect R where
  refl := h.refl
  trans := h.trans
  exit := h.exit
  error := h.error
  produce _ _ _ s := h.log _ s rfl
  record _ _ _ s := h.log _ s rfl
  tcb := h.tcb
  slot := h.slot
  messageBuffer := h.messageBuffer
  taskBuffer := h.taskBuffer

theorem prvTraceRegisterTaskProbe (h : RegisterEffect R) (cfg : Config) (env : External)
    (task : TaskHandle) (uxPriority : BitVec 32) (s : State) :
    R s (prvTraceRegisterTaskProbe cfg env task uxPriority s) := by
  have entered := h.enter s
  have named := h.trans entered (h.nameAndAlloc cfg env task s.enterCriticalSection)
  unfold ProbeTrace.prvTraceRegisterTaskProbe
  dsimp only
  split
  · cases hn : ProbeTrace.nameAndAlloc cfg env task s.enterCriticalSection with
    | mk probe r =>
        rw [hn] at named
        cases probe with
        | some probe => exact h.trans named (h.attach.attachProbe ..)
        | none => exact h.trans named (h.exit r)
  · exact h.trans entered (h.exit _)

theorem storeExcludedId (h : RegisterEffect R) (probeId : BitVec 16) (s : State) :
    R s (storeExcludedId probeId s) := by
  unfold ProbeTrace.storeExcludedId
  split
  · exact h.exclude s _ s.excludedNames
  · exact h.error _ s

theorem vTraceExcludeTask (h : RegisterEffect R) (cfg : Config) (pcName : CString)
    (s : State) : R s (vTraceExcludeTask cfg pcName s) := by
  have hashed := h.trans (h.enter s) (h.hashTaskName cfg pcName _)
  have stored := h.trans hashed (h.storeExcludedId
    (ProbeTrace.hashTaskName cfg pcName s.enterCriticalSection).1 _)
  unfold ProbeTrace.vTraceExcludeTask
  refine h.trans stored (h.trans ?_ (h.exit _))
  exact h.exclude _ (ProbeTrace.storeExcludedId _ _).excludedTaskProbeIds _

end RegisterEffect

/-- The reports and announcements of the IO task. -/
structure ReportEffect (R : State → State → Prop) : Prop where
  refl : ∀ s, R s s
  trans : ∀ {s r t}, R s r → R r t → R s t
  enter : ∀ s, R s s.enterCriticalSection
  exit : ∀ s, R s s.exitCriticalSection
  error : ∀ msg s, R s (s.prvTraceError msg)
  report : ∀ probe s, R s (s.logCall (.report probe))
  announce : ∀ probe s, R s (s.logCall (.announceMutators probe))
  buffer : ∀ (s : State) ioBuffer, R s { s with ioBuffer := ioBuffer }
  iters : ∀ (s : State) iters, R s { s with iters := iters }

/-- The control plane: besides, the IO task's position and the message buffers. -/
structure ControlEffect (R : State → State → Prop) : Prop extends ReportEffect R where
  receive : ∀ cfg buffer s, R s (xMessageBufferReceive cfg buffer s).2
  send : ∀ cfg i buffer msg s, R s (xMessageBufferSend cfg i buffer msg s)
  process : ∀ probe msg s, R s (s.logCall (.processControlMessage probe msg))
  point : ∀ (s : State) ioPoint reads, R s { s with ioPoint := ioPoint, reads := reads }

namespace ReportEffect
variable {R : State → State → Prop}

theorem assert (h : ReportEffect R) {cfg : Config} {eval : Bool} {msg : String}
    {s r : State} {k : State → State} (before : R s r) (passed : R s (k r)) :
    R s (traceAssert cfg eval msg r id k) :=
  traceAssert_induction (fun _ _ => h.trans before (h.error _ r)) (fun _ => passed)

theorem ioTaskProbeIter (h : ReportEffect R) (cfg : Config) {call : Probe → Call}
    (log : ∀ probe s, R s (s.logCall (call probe))) (failed writeFailed : String)
    (w : IoWrite) (probe : Probe) (s : State) :
    R s (ioTaskProbeIter cfg call failed writeFailed w probe s) := by
  have logged := h.trans (h.enter s) (log probe _)
  have left := h.trans logged (h.trans (h.buffer _ w.data) (h.exit _))
  unfold ProbeTrace.ioTaskProbeIter
  dsimp only
  refine h.assert left ?_
  split
  · exact h.trans left (h.error ..)
  · exact left

/-- An iteration over the probes, when its function has the effect. -/
theorem vTraceProbeIterator (h : ReportEffect R) (cfg : Config) {f : Probe → State → State}
    (hf : ∀ probe s, R s (f probe s)) (s : State) : R s (vTraceProbeIterator cfg f s) := by
  unfold ProbeTrace.vTraceProbeIterator
  induction List.range cfg.maxProbes generalizing s with
  | nil => exact h.refl s
  | cons i is ih =>
      rw [List.foldl_cons]
      refine h.trans ?_ (ih _)
      split
      · exact hf _ s
      · exact h.refl s

theorem sendReports (h : ReportEffect R) (cfg : Config) (reports : Probe → IoWrite)
    (s : State) : R s (sendReports cfg reports s) :=
  h.vTraceProbeIterator cfg (fun _ _ => h.ioTaskProbeIter cfg h.report ..) s

theorem sendAnnouncements (h : ReportEffect R) (cfg : Config)
    (announcements : Probe → IoWrite) (s : State) :
    R s (sendAnnouncements cfg announcements s) := by
  unfold ProbeTrace.sendAnnouncements
  split
  · exact h.trans (h.iters s 0)
      (h.vTraceProbeIterator cfg (fun _ _ => h.ioTaskProbeIter cfg h.announce ..) _)
  · exact h.refl s

end ReportEffect

/-- An iteration over the probes, or a part of one: it makes the given calls. -/
structure Reported (calls : List Call) (s t : State) : Prop where
  calls : t.calls = s.calls ++ calls
  tcbProbes : t.tcbProbes = s.tcbProbes
  iters : t.iters = s.iters

theorem Reported.trans {cs ds : List Call} {s r t : State} (h : Reported cs s r)
    (k : Reported ds r t) : Reported (cs ++ ds) s t where
  calls := by rw [k.calls, h.calls, List.append_assoc]
  tcbProbes := k.tcbProbes.trans h.tcbProbes
  iters := k.iters.trans h.iters

theorem Reported.none (s : State) : Reported [] s s where
  calls := (List.append_nil _).symm
  tcbProbes := rfl
  iters := rfl

theorem Reported.error {cs : List Call} {s t : State} (h : Reported cs s t) (msg : String) :
    Reported cs s (t.prvTraceError msg) := by
  rw [State.prvTraceError_eq]
  exact ⟨h.calls, h.tcbProbes, h.iters⟩

theorem ioTaskProbeIter_reported (cfg : Config) (call : Probe → Call)
    (failed writeFailed : String) (w : IoWrite) (probe : Probe) (s : State) :
    Reported [call probe] s (ioTaskProbeIter cfg call failed writeFailed w probe s) := by
  have written : Reported [call probe] s { s with
      calls := s.calls ++ [call probe]
      ioBuffer := w.data
      criticalNesting := s.criticalNesting + 1 - 1 } := ⟨rfl, rfl, rfl⟩
  simp only [ioTaskProbeIter]
  refine traceAssert_induction (fun _ _ => written.error _) (fun _ => ?_)
  split
  · exact written.error _
  · exact written

/-- The probes of the slots, in order. -/
def registeredProbes (cfg : Config) (s : State) : List Probe :=
  (List.range cfg.maxProbes).filterMap fun i => (s.tcbProbe i).probe

/-- An iteration whose function makes one call makes it for the probe of every slot. -/
theorem vTraceProbeIterator_reported (cfg : Config) {call : Probe → Call}
    {f : Probe → State → State} (one : ∀ probe s, Reported [call probe] s (f probe s))
    (s : State) :
    Reported ((registeredProbes cfg s).map call) s (vTraceProbeIterator cfg f s) := by
  unfold vTraceProbeIterator registeredProbes
  induction List.range cfg.maxProbes generalizing s with
  | nil => exact .none s
  | cons i is ih =>
      rw [List.foldl_cons, List.filterMap_cons]
      cases hp : (s.tcbProbe i).probe with
      | none => exact ih s
      | some probe =>
          have first := one probe s
          have rest := ih (f probe s)
          simp only [State.tcbProbe, first.tcbProbes] at rest
          exact first.trans rest

namespace ControlEffect
variable {R : State → State → Prop}

theorem pvTraceGetControlPlaneBuffer (h : ControlEffect R) (s : State) :
    R s (pvTraceGetControlPlaneBuffer s).2 :=
  h.trans (h.enter s) (h.exit _)

theorem receiveMessage (h : ControlEffect R) (cfg : Config) (e : TcbProbe) (s : State) :
    R s (receiveMessage cfg e s).2 := by
  unfold ProbeTrace.receiveMessage
  split
  · exact h.receive cfg _ s
  · exact h.refl s

theorem handOver (h : ControlEffect R) (cfg : Config) (env : External)
    (probe : Option Probe) (received : Option Message) (s : State) :
    R s (handOver cfg env probe received s) := by
  unfold ProbeTrace.handOver
  split
  · rename_i msg
    split
    · have processed := h.trans (h.enter s) (h.process probe msg _)
      have left := h.trans processed (h.exit _)
      exact h.assert left left
    · exact h.refl s
  · exact h.refl s

theorem vTraceProcessControlPlaneMessages (h : ControlEffect R) (cfg : Config)
    (env : External) (s : State) : R s (vTraceProcessControlPlaneMessages cfg env s) := by
  have looked := h.trans (h.enter s) (h.exit s.enterCriticalSection)
  exact h.trans looked (h.trans (h.receiveMessage cfg _ _) (h.handOver ..))

theorem errorIf (h : ControlEffect R) (p : Prop) [Decidable p] (msg : String) (s : State) :
    R s (if p then s.prvTraceError msg else s) := by
  split
  · exact h.error msg s
  · exact h.refl s

theorem ioRead (h : ControlEffect R) (cfg : Config) (r : IoRead) (s : State) :
    R s (ioRead cfg r s) := by
  unfold ProbeTrace.ioRead
  dsimp only
  refine h.trans (h.trans (h.buffer s r.data)
    (h.errorIf (r.status ≠ 0) "TRACE_IO_READ returned an error" _)) ?_
  generalize (if r.status ≠ 0 then _ else _ : State) = t
  split
  · split
    · split
      · exact h.point t _ (t.reads + 1)
      · exact h.point t _ (t.reads + 1)
    · exact h.point t _ t.reads
  · exact h.point t _ t.reads

theorem sendToSlot (h : ControlEffect R) (cfg : Config) (target : BitVec 32)
    (numBytes i : Nat) (s : State) : R s (sendToSlot cfg target numBytes i s) := by
  unfold ProbeTrace.sendToSlot
  split
  · dsimp only
    split
    · exact h.send ..
    · exact h.refl s
  · exact h.refl s

theorem ioSend (h : ControlEffect R) (cfg : Config) (s : State) : R s (ioSend cfg s) := by
  unfold ProbeTrace.ioSend
  split
  · rename_i target numBytes i _
    have sent := h.sendToSlot cfg target numBytes i s
    generalize ProbeTrace.sendToSlot cfg target numBytes i s = t at sent ⊢
    exact h.trans sent (h.point t _ t.reads)
  · exact h.refl s
  · exact h.refl s

theorem ioReport (h : ControlEffect R) (cfg : Config) (reports announcements : Probe → IoWrite)
    (s : State) : R s (ioReport cfg reports announcements s) := by
  have passes := h.trans (h.sendReports cfg reports s) (h.sendAnnouncements cfg announcements _)
  unfold ProbeTrace.ioReport
  split
  · dsimp only
    generalize sendAnnouncements cfg announcements (sendReports cfg reports s) = t at passes ⊢
    exact h.trans passes (h.trans (h.iters t (t.iters + 1)) (h.point _ .read t.reads))
  · exact h.refl s
  · exact h.refl s

end ControlEffect

end ProbeTrace
