import ProbeTrace.Metatheory.ErrorSafety
import ProbeTrace.Model.Operations

/-!
Critical sections that are not left. Only the asserts that stand inside of a section leave
its function with the section open, and each of them turns tracing off, after which no
operation but vTraceEnable reaches such an assert.
-/
namespace ProbeTrace
open Sections

/-! What leaves the depth alone. -/

theorem nesting_error (msg : String) (s : State) :
    (s.prvTraceError msg).criticalNesting = s.criticalNesting := by
  rw [State.prvTraceError_eq]

theorem hashTaskName_nesting (cfg : Config) (name : CString) (s : State) :
    (hashTaskName cfg name s).2.criticalNesting = s.criticalNesting := by
  rw [hashTaskName_eq]
  dsimp only
  split
  · exact nesting_error _ s
  · rfl

theorem nameTask_nesting (cfg : Config) (task : TaskHandle) (s : State) :
    (nameTask cfg task s).2.criticalNesting = s.criticalNesting :=
  hashTaskName_nesting cfg (s.pcTaskGetName task) s

theorem allocStorage_nesting (cfg : Config) (env : External) (n : Nat) (s : State) :
    (allocStorage cfg env n s).2.criticalNesting = s.criticalNesting := by
  simp only [allocStorage]
  split <;> split <;> rfl

theorem modalityProbeInitialize_nesting (env : External) (storage : Storage) (size : Nat)
    (probeId : BitVec 32) (s : State) :
    (s.modalityProbeInitialize env storage size probeId).2.criticalNesting =
      s.criticalNesting := by
  simp only [State.modalityProbeInitialize]
  split <;> rfl

theorem modalityProbeProduceSnapshot_nesting (env : External) (probe : Option Probe) (i : Nat)
    (s : State) : (s.modalityProbeProduceSnapshot env probe i).criticalNesting =
      s.criticalNesting := by
  simp only [State.modalityProbeProduceSnapshot]
  split <;> rfl

theorem allocProbe_nesting (cfg : Config) (env : External) (n : Nat) (probeId : BitVec 32)
    (s : State) : (allocProbe cfg env n probeId s).2.criticalNesting = s.criticalNesting := by
  have stored := allocStorage_nesting cfg env n s
  simp only [allocProbe]
  cases hs : allocStorage cfg env n s with
  | mk storage r =>
      rw [hs] at stored
      cases storage with
      | none => exact (nesting_error _ r).trans stored
      | some storage =>
          dsimp only
          split
          · have made := (modalityProbeInitialize_nesting env storage n probeId r).trans stored
            refine traceAssert_induction
              (P := fun p : Option Probe × State => p.2.criticalNesting = s.criticalNesting)
              (fun _ _ => ?_) fun _ => made
            exact (nesting_error _ _).trans made
          · exact stored

theorem nameAndAlloc_nesting (cfg : Config) (env : External) (task : TaskHandle) (s : State) :
    (nameAndAlloc cfg env task s).2.criticalNesting = s.criticalNesting := by
  have named := nameTask_nesting cfg task s
  simp only [nameAndAlloc]
  split
  · exact named
  · exact (allocProbe_nesting ..).trans named

theorem errorIfNull_nesting (pointer : Option Nat) (msg : String) (s : State) :
    (errorIfNull pointer msg s).criticalNesting = s.criticalNesting := by
  simp only [errorIfNull]
  split
  · exact nesting_error msg s
  · rfl

theorem addControlPlaneBuffers_nesting (cfg : Config) (env : External) (i : Nat) (s : State) :
    (addControlPlaneBuffers cfg env i s).criticalNesting = s.criticalNesting := by
  have allocated : (allocTaskLocalBuffer env (allocMessageBuffer cfg env s).2).2.criticalNesting =
      s.criticalNesting := by
    simp only [allocTaskLocalBuffer, allocMessageBuffer]
    split <;> split <;> rfl
  have reported : ∀ buffer localBuffer msg msg',
      (errorIfNull localBuffer msg' (errorIfNull buffer msg
        (allocTaskLocalBuffer env (allocMessageBuffer cfg env s).2).2)).criticalNesting =
        s.criticalNesting := by
    intro buffer localBuffer msg msg'
    rw [errorIfNull_nesting, errorIfNull_nesting, allocated]
  simp only [addControlPlaneBuffers]
  split
  · exact reported ..
  · exact reported ..

theorem addTcbProbe_nesting (cfg : Config) (env : External) (task : TaskHandle) (probe : Probe)
    (s : State) : (addTcbProbe cfg env task probe s).criticalNesting = s.criticalNesting := by
  simp only [addTcbProbe]
  cases s.getTcbProbe none with
  | none => exact nesting_error _ s
  | some i =>
      have produced := modalityProbeProduceSnapshot_nesting env (some probe) i s
      refine traceAssert_induction (P := fun r : State => r.criticalNesting = s.criticalNesting)
        (fun _ _ => (nesting_error _ _).trans produced) (fun _ => ?_)
      split
      · exact (addControlPlaneBuffers_nesting cfg env i _).trans produced
      · exact produced

theorem placeProbeInTag_nesting (cfg : Config) (task : TaskHandle) (probe : Probe) (s : State) :
    (placeProbeInTag cfg task probe s).criticalNesting = s.criticalNesting := by
  simp only [placeProbeInTag]
  split <;> rfl

theorem storeExcludedId_nesting (probeId : BitVec 16) (s : State) :
    (storeExcludedId probeId s).criticalNesting = s.criticalNesting := by
  simp only [storeExcludedId]
  split
  · rfl
  · exact nesting_error _ s

/-! The end of a function that has entered its section. -/

/-- From `s`, inside of its section, a function performs the given entries and exits and
ends in `t`: it leaves the section, or fails an assert there, or dereferences NULL. -/
inductive Leaves (cfg : Config) (s : State) : List Section → State → Prop
  | exit (r : State) : r.criticalNesting = s.criticalNesting →
      Leaves cfg s [.exit] r.exitCriticalSection
  | failed (r : State) (msg : String) : cfg.useTraceAssert = true →
      r.criticalNesting = s.criticalNesting →
      Leaves cfg s [] (r.prvTraceError ("TRACE_ASSERT: " ++ msg))
  | fault (r : State) : r.criticalNesting = s.criticalNesting →
      Leaves cfg s [] { r with fault := true }

theorem Leaves.assert {cfg : Config} {s r : State} {eval : Bool} {msg : String}
    {sections : State → List Section} {k : State → State}
    (same : r.criticalNesting = s.criticalNesting) (passed : Leaves cfg s (sections r) (k r)) :
    Leaves cfg s (traceAssert cfg eval msg r (fun _ => []) sections)
      (traceAssert cfg eval msg r id k) := by
  simp only [traceAssert]
  split
  · rename_i failed
    exact .failed r msg (Bool.and_eq_true_iff.mp failed).1 same
  · exact passed

/-- The operation enters a section first. -/
def Opens (cfg : Config) (s : State) (o : Operation) : Prop :=
  ∃ body, o.sections cfg s = .enter :: body ∧
    Leaves cfg s.enterCriticalSection body (o.run cfg s)

theorem register_opens (cfg : Config) (env : External) (task : TaskHandle)
    (uxPriority : BitVec 32) (s : State) : Opens cfg s (.register env task uxPriority) := by
  have named := nameAndAlloc_nesting cfg env task s.enterCriticalSection
  refine ⟨_, rfl, ?_⟩
  simp only [Operation.run, prvTraceRegisterTaskProbe]
  split
  · cases hn : nameAndAlloc cfg env task s.enterCriticalSection with
    | mk probe r =>
        rw [hn] at named
        cases probe with
        | none => exact .exit r named
        | some probe =>
            have tagged := (placeProbeInTag_nesting cfg task probe _).trans
              ((addTcbProbe_nesting cfg env task probe (State.noteRegistered task probe r)).trans
                named)
            simp only [attachProbe, traceAssert]
            split
            · rename_i failed
              exact .failed _ _ (Bool.and_eq_true_iff.mp failed).1 tagged
            · exact .exit _ tagged
  · exact .exit _ rfl

theorem produce_opens (cfg : Config) (env : External) (s : State) :
    Opens cfg s (.produce env) := by
  refine ⟨_, rfl, ?_⟩
  simp only [Operation.run, prvTraceProduceSnapshot]
  split
  · refine .assert rfl ?_
    cases s.enterCriticalSection.getTcbProbe s.enterCriticalSection.currentTcb with
    | none => exact .exit _ rfl
    | some i =>
        have produced := modalityProbeProduceSnapshot_nesting env
          (s.enterCriticalSection.tcbProbe i).probe i s.enterCriticalSection
        simp only [traceAssert]
        split
        · rename_i failed
          exact .failed _ _ (Bool.and_eq_true_iff.mp failed).1 produced
        · exact .exit _ produced
  · exact .exit _ rfl

theorem merge_opens (cfg : Config) (env : External) (s : State) :
    Opens cfg s (.merge env) := by
  refine ⟨_, rfl, ?_⟩
  simp only [Operation.run, prvTraceMergeSnapshot]
  split
  · refine .assert rfl (.assert rfl ?_)
    cases s.enterCriticalSection.getTcbProbe s.enterCriticalSection.currentTcb with
    | none => exact .fault _ rfl
    | some i =>
        cases s.enterCriticalSection.getTcbProbe s.enterCriticalSection.prevTcb with
        | none => exact .fault _ rfl
        | some j =>
            simp only [traceAssert]
            split
            · rename_i failed
              exact .failed _ _ (Bool.and_eq_true_iff.mp failed).1 rfl
            · exact .exit _ rfl
  · exact .exit _ rfl

theorem logEvent_opens (cfg : Config) (env : External) (noSlot failed : String)
    (id' : BitVec 32) (payload : Option (BitVec 32)) (s : State) :
    ∃ body, logEventSections cfg env noSlot failed s = .enter :: body ∧
      Leaves cfg s.enterCriticalSection body (logEvent cfg env noSlot failed id' payload s) := by
  refine ⟨_, rfl, ?_⟩
  simp only [logEvent]
  split
  · refine .assert rfl ?_
    cases s.enterCriticalSection.getTcbProbe s.enterCriticalSection.currentTcb with
    | none => exact .exit _ rfl
    | some i =>
        simp only [traceAssert]
        split
        · rename_i failed
          exact .failed _ _ (Bool.and_eq_true_iff.mp failed).1 rfl
        · exact .exit _ rfl
  · exact .exit _ rfl

/-- An assert of the operation's own fails that stands inside of its section; the asserts
of the helpers it calls are not among them. -/
def Operation.AssertFails (cfg : Config) (s : State) : Operation → Prop
  | .register env task _ => s.isEnabled = true ∧
      (nameAndAlloc cfg env task s.enterCriticalSection).1.isSome = true ∧
        env.recordEvent = false
  | .produce env => s.isEnabled = true ∧ s.currentTcb.isSome = true ∧
      ((s.getTcbProbe s.currentTcb).isSome = true → env.produceSnapshot.isSome = false)
  | .merge env => (s.isEnabled = true ∧ s.currentTcb.isSome = true ∧ s.prevTcb.isSome = true) ∧
      ((s.getTcbProbe s.currentTcb).isSome = true → (s.getTcbProbe s.prevTcb).isSome = true →
        env.mergeSnapshot = false)
  | .log env _ | .logWithPayload env _ _ => s.isEnabled = true ∧ s.currentTcb.isSome = true ∧
      ((s.getTcbProbe s.currentTcb).isSome = true → env.recordEvent = false)
  | .enable _ _ | .disable | .exclude _ | .getBuffer | .process _ | .report _ _
  | .announce _ _ | .record _ _ => False

theorem not_open (e e' : Section) (rest : List Section) : e :: e' :: rest ≠ [e] :=
  fun same => List.cons_ne_nil e' rest (List.cons.inj same).2

/-- The tests before a body: without them the section is left at once. -/
theorem body_open (test : Bool) (body : List Section) :
    (if test then body else [.exit]) = [] ↔ test = true ∧ body = [] := by
  cases test with
  | false =>
      exact iff_of_false (List.cons_ne_nil _ _) fun both => Bool.false_ne_true both.1
  | true => exact ⟨fun nothing => ⟨rfl, nothing⟩, And.right⟩

theorem assert_open {cfg : Config} (asserts : cfg.useTraceAssert = true) (eval : Bool)
    (msg : String) (s : State) (k : State → List Section) :
    traceAssert cfg eval msg s (fun _ => []) k = [] ↔ (eval = true → k s = []) := by
  simp only [traceAssert, asserts, Bool.true_and]
  cases eval with
  | false => exact iff_of_true rfl fun no => absurd no Bool.false_ne_true
  | true => exact ⟨fun nothing _ => nothing, fun nothing => nothing rfl⟩

theorem exit_open {cfg : Config} (asserts : cfg.useTraceAssert = true) (eval : Bool)
    (msg : String) (s : State) :
    traceAssert cfg eval msg s (fun _ => []) (fun _ => [Section.exit]) = [] ↔ eval = false := by
  rw [assert_open asserts]
  cases eval with
  | false => exact iff_of_true (fun no => absurd no Bool.false_ne_true) rfl
  | true =>
      exact iff_of_false (fun nothing => List.cons_ne_nil _ _ (nothing rfl)) fun no =>
        Bool.false_ne_true no.symm

theorem enter_open (body : List Section) :
    Section.enter :: body = [Section.enter] ↔ body = [] :=
  ⟨fun same => (List.cons.inj same).2, fun nothing => by rw [nothing]⟩

theorem logEventSections_open {cfg : Config} (asserts : cfg.useTraceAssert = true)
    (env : External) (noSlot failed : String) (s : State) :
    logEventSections cfg env noSlot failed s = [.enter] ↔
      s.isEnabled = true ∧ s.currentTcb.isSome = true ∧
        ((s.getTcbProbe s.currentTcb).isSome = true → env.recordEvent = false) := by
  rw [logEventSections, enter_open, body_open, assert_open asserts, Bool.and_eq_true, and_assoc]
  refine and_congr_right fun _ => and_congr_right fun _ => forall_congr' fun found => ?_
  obtain ⟨i, at_i⟩ := Option.isSome_iff_exists.mp found
  simp only [at_i]
  exact exit_open asserts _ _ _

/-- With asserts compiled in, a section stays open exactly when one of these fails. -/
theorem sections_open {cfg : Config} (asserts : cfg.useTraceAssert = true) (s : State)
    (o : Operation) : o.sections cfg s = [.enter] ↔ o.AssertFails cfg s := by
  cases o with
  | enable env io =>
      refine iff_of_false ?_ id
      simp only [Operation.sections, vTraceEnableSections, traceAssert]
      split
      · exact fun same => List.cons_ne_nil _ _ same.symm
      · split
        · exact fun same => List.cons_ne_nil _ _ same.symm
        · intro same
          exact List.append_ne_nil_of_right_ne_nil _ (List.cons_ne_nil _ _) (List.cons.inj same).2
  | register env task uxPriority =>
      rw [Operation.sections, prvTraceRegisterTaskProbeSections, enter_open, body_open]
      refine and_congr_right fun _ => ?_
      cases nameAndAlloc cfg env task s.enterCriticalSection with
      | mk probe r =>
          cases probe with
          | none =>
              exact iff_of_false (List.cons_ne_nil _ _) fun both => Bool.false_ne_true both.1
          | some probe => exact (exit_open asserts _ _ _).trans ⟨fun fails => ⟨rfl, fails⟩, And.right⟩
  | produce env =>
      rw [Operation.sections, prvTraceProduceSnapshotSections, enter_open, body_open,
        assert_open asserts, Bool.and_eq_true, and_assoc]
      refine and_congr_right fun _ => and_congr_right fun _ => forall_congr' fun found => ?_
      obtain ⟨i, at_i⟩ := Option.isSome_iff_exists.mp found
      simp only [at_i]
      exact exit_open asserts _ _ _
  | merge env =>
      rw [Operation.sections, prvTraceMergeSnapshotSections, enter_open, body_open,
        assert_open asserts]
      refine and_congr (by rw [Bool.and_eq_true, Bool.and_eq_true, and_assoc]; rfl) ?_
      refine forall_congr' fun found => ?_
      rw [assert_open asserts]
      refine forall_congr' fun found' => ?_
      obtain ⟨i, at_i⟩ := Option.isSome_iff_exists.mp found
      obtain ⟨j, at_j⟩ := Option.isSome_iff_exists.mp found'
      simp only [at_i, at_j]
      exact exit_open asserts _ _ _
  | log env id => exact logEventSections_open asserts env _ _ s
  | logWithPayload env id payload => exact logEventSections_open asserts env _ _ s
  | process env => exact iff_of_false (not_open _ _ _) id
  | disable => exact iff_of_false (fun same => List.cons_ne_nil _ _ same.symm) id
  | exclude _ | getBuffer | report _ _ | announce _ _ | record _ _ =>
      exact iff_of_false (not_open _ _ _) id

/-! Operations that leave every section. -/

/-- The operation leaves every section it enters. -/
structure Closes (cfg : Config) (s : State) (o : Operation) : Prop where
  balanced : Balanced (o.sections cfg s)
  nesting : (o.run cfg s).criticalNesting = s.criticalNesting

theorem oneSection : Balanced [.enter, .exit] := Balanced.nil.around

theorem exclude_nesting (cfg : Config) (pcName : CString) (s : State) :
    (vTraceExcludeTask cfg pcName s).criticalNesting = s.criticalNesting := by
  have stored := (storeExcludedId_nesting (hashTaskName cfg pcName s.enterCriticalSection).1
    (hashTaskName cfg pcName s.enterCriticalSection).2).trans
      (hashTaskName_nesting cfg pcName s.enterCriticalSection)
  simp only [vTraceExcludeTask, State.exitCriticalSection, State.noteExcluded, stored]
  exact Int.add_sub_cancel _ 1

theorem createIoTask_closes (cfg : Config) (env : External) (io : Option NewTask) {s : State}
    (off : s.isEnabled = false) : Balanced (createIoTaskSections cfg env io s) ∧
      (createIoTask cfg env io s).criticalNesting = s.criticalNesting := by
  have off' := (vTraceExcludeTask_latched cfg cfg.ioTaskName s).keepsOff.off off
  have same := exclude_nesting cfg cfg.ioTaskName s
  simp only [createIoTaskSections, createIoTask]
  generalize vTraceExcludeTask cfg cfg.ioTaskName s = r at off' same ⊢
  have created : (createIo cfg env io r).criticalNesting = s.criticalNesting := by
    cases io with
    | none => exact same
    | some new =>
        have skipped := prvTraceRegisterTaskProbe_disabled cfg env new.handle cfg.ioTaskPriority
          (s := r.addTask cfg new cfg.ioTaskName) off'
        simp only [createIo, xTaskCreate, skipped]
        exact same
  constructor
  · refine oneSection.append ?_
    cases io with
    | none => exact .nil
    | some new =>
        have off'' : (r.addTask cfg new cfg.ioTaskName).isEnabled = false := off'
        simp only [prvTraceRegisterTaskProbeSections, State.enter_isEnabled, off'']
        exact oneSection
  · split
    · exact (nesting_error _ _).trans created
    · exact created

theorem includeIoTask_closes (cfg : Config) (env : External) (io : Option NewTask) {s : State}
    (off : s.isEnabled = false) : Balanced (includeIoTaskSections cfg env io s) ∧
      (includeIoTask cfg env io s).criticalNesting = s.criticalNesting := by
  simp only [includeIoTaskSections, includeIoTask]
  split
  · exact createIoTask_closes cfg env io off
  · exact ⟨.nil, rfl⟩

theorem enable_closes (cfg : Config) (env : External) (io : Option NewTask) (s : State) :
    Closes cfg s (.enable env io) := by
  cases on : s.isEnabled with
  | true =>
      refine ⟨?_, ?_⟩
      · simp only [Operation.sections, vTraceEnableSections, on, if_true]
        exact .nil
      · simp only [Operation.run, vTraceEnable, on, if_true]
  | false =>
      have included := includeIoTask_closes cfg env io (s := s.enterCriticalSection) on
      refine ⟨?_, ?_⟩
      · simp only [Operation.sections, vTraceEnableSections, on, Bool.false_eq_true, if_false,
          traceAssert]
        split
        · exact .nil
        · exact included.1.around
      · have entered : (includeIoTask cfg env io s.enterCriticalSection).criticalNesting - 1 =
            s.criticalNesting := by
          rw [included.2]
          exact Int.add_sub_cancel _ 1
        simp only [Operation.run, vTraceEnable, on, Bool.false_eq_true, if_false, traceAssert]
        split
        · exact nesting_error _ s
        · exact entered

theorem receiveMessage_nesting (cfg : Config) (e : TcbProbe) (s : State) :
    (receiveMessage cfg e s).2.criticalNesting = s.criticalNesting := by
  simp only [receiveMessage]
  split <;> rfl

theorem process_closes (cfg : Config) (env : External) (s : State) :
    Closes cfg s (.process env) := by
  have received := receiveMessage_nesting cfg (currentTcbProbe s) s
  refine ⟨?_, ?_⟩
  · refine oneSection.append ?_
    split
    · split
      · exact oneSection
      · exact .nil
    · exact .nil
  · simp only [Operation.run, vTraceProcessControlPlaneMessages, State.exit_enterCriticalSection]
    refine Eq.trans ?_ received
    simp only [handOver]
    split
    · split
      · refine traceAssert_induction
          (P := fun r : State => r.criticalNesting = _) (fun _ _ => ?_) fun _ => ?_
        · exact (nesting_error _ _).trans (Int.add_sub_cancel _ 1)
        · exact Int.add_sub_cancel _ 1
      · rfl
    · rfl

theorem ioTaskProbeIter_nesting (cfg : Config) (call : Probe → Call)
    (failed writeFailed : String) (w : IoWrite) (probe : Probe) (s : State) :
    (ioTaskProbeIter cfg call failed writeFailed w probe s).criticalNesting =
      s.criticalNesting := by
  simp only [ioTaskProbeIter]
  refine traceAssert_induction (P := fun r : State => r.criticalNesting = s.criticalNesting)
    (fun _ _ => ?_) fun _ => ?_
  · exact (nesting_error _ _).trans (Int.add_sub_cancel _ 1)
  · split
    · exact (nesting_error _ _).trans (Int.add_sub_cancel _ 1)
    · exact Int.add_sub_cancel _ 1

theorem operation_cases (cfg : Config) (s : State) (o : Operation) :
    Opens cfg s o ∨ Closes cfg s o := by
  cases o with
  | enable env io => exact .inr (enable_closes cfg env io s)
  | disable => exact .inr ⟨.nil, rfl⟩
  | exclude pcName => exact .inr ⟨oneSection, exclude_nesting cfg pcName s⟩
  | getBuffer => exact .inr ⟨oneSection, Int.add_sub_cancel _ 1⟩
  | process env => exact .inr (process_closes cfg env s)
  | register env task uxPriority => exact .inl (register_opens cfg env task uxPriority s)
  | produce env => exact .inl (produce_opens cfg env s)
  | merge env => exact .inl (merge_opens cfg env s)
  | log env id => exact .inl (logEvent_opens ..)
  | logWithPayload env id payload => exact .inl (logEvent_opens ..)
  | report w probe | announce w probe =>
      exact .inr ⟨oneSection, ioTaskProbeIter_nesting ..⟩
  | record function err => exact .inr ⟨oneSection, Int.add_sub_cancel _ 1⟩

/-! What is left open. -/

/-- An operation that returns deeper than it was called: one section deeper, with tracing
off and an error noted, by one of its asserts. -/
structure Leak (cfg : Config) (s : State) (o : Operation) : Prop where
  deeper : (o.run cfg s).criticalNesting = s.criticalNesting + 1
  off : xTraceIsEnabled (o.run cfg s) = false
  error : (pcTraceGetError (o.run cfg s)).isSome = true
  asserts : cfg.useTraceAssert = true ∧ o.AssertFails cfg s
  last : ∃ msg, (o.run cfg s).errors.getLast? = some ("TRACE_ASSERT: " ++ msg)

/-- How an operation goes through critical sections; one that faults does not return. -/
structure SectionsSound (cfg : Config) (s : State) (o : Operation) : Prop where
  nested : Nested (o.sections cfg s)
  depth : (o.run cfg s).criticalNesting = s.criticalNesting + Sections.depth (o.sections cfg s)
  leak : (o.run cfg s).fault = false →
    (o.run cfg s).criticalNesting ≠ s.criticalNesting → Leak cfg s o
  unchanged : (o.run cfg s).fault = false →
    cfg.useTraceAssert = false ∨ ¬ o.AssertFails cfg s →
    (o.run cfg s).criticalNesting = s.criticalNesting

theorem SectionsSound.of_leak {cfg : Config} {s : State} {o : Operation}
    (nested : Nested (o.sections cfg s))
    (depth : (o.run cfg s).criticalNesting =
      s.criticalNesting + Sections.depth (o.sections cfg s))
    (leak : (o.run cfg s).fault = false →
      (o.run cfg s).criticalNesting ≠ s.criticalNesting → Leak cfg s o) :
    SectionsSound cfg s o where
  nested := nested
  depth := depth
  leak := leak
  unchanged returns passes := by
    by_contra deeper
    have cause := (leak returns deeper).asserts
    cases passes with
    | inl compiledOut =>
        rw [cause.1] at compiledOut
        cases compiledOut
    | inr passes => exact passes cause.2

theorem sections_sound (cfg : Config) (s : State) (o : Operation) : SectionsSound cfg s o := by
  cases operation_cases cfg s o with
  | inr closes =>
      refine .of_leak closes.balanced.nested ?_ fun _ deeper => absurd closes.nesting deeper
      rw [closes.nesting, closes.balanced.depth, Int.add_zero]
  | inl opens =>
      obtain ⟨body, eq, leaves⟩ := opens
      have fails : cfg.useTraceAssert = true →
          (o.sections cfg s = [.enter] ↔ o.AssertFails cfg s) :=
        fun asserts => sections_open asserts s o
      generalize hs : o.sections cfg s = sections at eq fails
      generalize ht : o.run cfg s = t at leaves
      subst eq
      cases leaves with
      | exit r same =>
          have closed : r.exitCriticalSection.criticalNesting = s.criticalNesting := by
            simp only [State.exitCriticalSection, same]
            exact Int.add_sub_cancel _ 1
          refine .of_leak ?_ ?_ fun _ deeper => absurd ?_ deeper
          · rw [hs]
            exact oneSection.nested
          · rw [hs, ht, closed]
            exact (Int.add_zero _).symm
          · rw [ht, closed]
      | failed r msg asserts same =>
          have deeper : (r.prvTraceError ("TRACE_ASSERT: " ++ msg)).criticalNesting =
              s.criticalNesting + 1 := (nesting_error _ r).trans same
          refine .of_leak ?_ ?_ fun _ _ => ⟨?_, ?_, ?_, ⟨asserts, ?_⟩, msg, ?_⟩
          · rw [hs]
            exact Nested.nil.enter
          · rw [hs, ht, deeper]
            rfl
          · rw [ht, deeper]
          · rw [ht, xTraceIsEnabled, State.prvTraceError_isEnabled]
          · rw [ht, pcTraceGetError, State.prvTraceError_errorMsg, Option.isSome_or]
            exact Bool.or_true _
          · exact (fails asserts).mp rfl
          · rw [ht, State.prvTraceError_errors, List.getLast?_concat]
      | fault r same =>
          have deeper : { r with fault := true }.criticalNesting = s.criticalNesting + 1 := same
          refine .of_leak ?_ ?_ fun returns => ?_
          · rw [hs]
            exact Nested.nil.enter
          · rw [hs, ht, deeper]
            rfl
          · rw [ht] at returns
            cases returns

/-! Runs. -/

/-- A call of the library, or what happens in between. -/
inductive Action
  | call (o : Operation)
  | outside (t : State)

def Action.run (cfg : Config) (s : State) : Action → State
  | .call o => o.run cfg s
  | .outside t => t

/-- Nothing outside of the operations enables tracing, and the library's sections are
entered and left in none but them. -/
def Action.Allowed (s : State) : Action → Prop
  | .call _ => True
  | .outside t => (t.isEnabled = true → s.isEnabled = true) ∧
      t.criticalNesting = s.criticalNesting

instance (s : State) (a : Action) : Decidable (a.Allowed s) :=
  match a with
  | .call _ => isTrue trivial
  | .outside t => inferInstanceAs (Decidable ((t.isEnabled = true → s.isEnabled = true) ∧
      t.criticalNesting = s.criticalNesting))

def Operation.IsEnable : Operation → Prop
  | .enable _ _ => True
  | .disable | .exclude _ | .getBuffer | .process _ | .register _ _ _ | .produce _ | .merge _
  | .log _ _ | .logWithPayload _ _ _ | .report _ _ | .announce _ _ | .record _ _ => False

/-- The operations that return with the depth changed. -/
def leaking (cfg : Config) (s : State) : Action → List Operation
  | .call o =>
      if (o.run cfg s).fault = false ∧ (o.run cfg s).criticalNesting ≠ s.criticalNesting then [o]
      else []
  | .outside _ => []

/-- Every operation of a run is sound, and between two calls of vTraceEnable one at most
leaves a section open. -/
structure LeaksAtMostOnce (cfg : Config) (s : State) (acts : List Action) : Prop where
  sound : ∀ before o after, acts = before ++ .call o :: after →
    SectionsSound cfg (before.foldl (Action.run cfg) s) o
  once : ∀ before between after, acts = before ++ between ++ after →
    (∀ o, .call o ∈ between → ¬ o.IsEnable) →
    (Transition.outputs (Action.run cfg) (leaking cfg)
      (before.foldl (Action.run cfg) s) between).length ≤ 1

theorem operation_off {cfg : Config} {s : State} {o : Operation} (off : s.isEnabled = false)
    (noEnable : ¬ o.IsEnable) : (o.run cfg s).isEnabled = false := by
  cases o with
  | enable env io => exact absurd trivial noEnable
  | disable => rfl
  | exclude pcName => exact (vTraceExcludeTask_latched cfg pcName s).keepsOff.off off
  | getBuffer => exact off
  | process env =>
      exact (latched_controlEffect.vTraceProcessControlPlaneMessages cfg env s).keepsOff.off off
  | register env task uxPriority =>
      exact (latched_registerEffect.prvTraceRegisterTaskProbe cfg env task uxPriority
        s).keepsOff.off off
  | produce env =>
      exact (latched_hookEffect.prvTraceProduceSnapshot cfg env s).keepsOff.off off
  | merge env => exact (latched_hookEffect.prvTraceMergeSnapshot cfg env s).keepsOff.off off
  | log env id => exact (latched_hookEffect.logEvent cfg env _ _ id none s).keepsOff.off off
  | logWithPayload env id payload =>
      exact (latched_hookEffect.logEvent cfg env _ _ id (some payload) s).keepsOff.off off
  | report w probe =>
      exact (latched_controlEffect.ioTaskProbeIter cfg latched_controlEffect.report _ _ w probe
        s).keepsOff.off off
  | announce w probe =>
      exact (latched_controlEffect.ioTaskProbeIter cfg latched_controlEffect.announce _ _ w probe
        s).keepsOff.off off
  | record function err => exact off

theorem assertFails_on {cfg : Config} {s : State} {o : Operation} (fails : o.AssertFails cfg s) :
    s.isEnabled = true := by
  cases o with
  | register _ _ _ | produce _ | log _ _ | logWithPayload _ _ _ => exact fails.1
  | merge _ => exact fails.1.1
  | enable _ _ | disable | exclude _ | getBuffer | process _ | report _ _ | announce _ _
  | record _ _ => exact fails.elim

/-- Once tracing is off, sections are left. -/
theorem leaking_off {cfg : Config} {s : State} {a : Action} (off : s.isEnabled = false)
    (allowed : a.Allowed s) (noEnable : ∀ o, a = .call o → ¬ o.IsEnable) :
    leaking cfg s a = [] ∧ (a.run cfg s).isEnabled = false := by
  cases a with
  | call o =>
      refine ⟨if_neg fun leaks => ?_, operation_off off (noEnable o rfl)⟩
      refine leaks.2 ((sections_sound cfg s o).unchanged leaks.1 (.inr fun fails => ?_))
      rw [assertFails_on fails] at off
      cases off
  | outside t =>
      refine ⟨rfl, Bool.eq_false_iff.mpr fun on => ?_⟩
      rw [allowed.1 on] at off
      cases off

theorem leaking_turns_off (cfg : Config) (s : State) (a : Action) :
    leaking cfg s a = [] ∨
      (leaking cfg s a).length = 1 ∧ (a.run cfg s).isEnabled = false := by
  cases a with
  | call o =>
      simp only [leaking]
      split
      · rename_i leaks
        exact .inr ⟨rfl, ((sections_sound cfg s o).leak leaks.1 leaks.2).off⟩
      · exact .inl rfl
  | outside t => exact .inl rfl

/-- Between two calls of vTraceEnable one operation at most leaves a section open. -/
theorem once_of_run {cfg : Config} {s t : State} {acts before between after : List Action}
    (run : Transition.Run (Action.run cfg) (fun s a => a.Allowed s) s acts t)
    (split : acts = before ++ between ++ after)
    (noEnable : ∀ o, .call o ∈ between → ¬ o.IsEnable) :
    (Transition.outputs (Action.run cfg) (leaking cfg)
      (before.foldl (Action.run cfg) s) between).length ≤ 1 := by
  subst split
  obtain ⟨r, front, -⟩ := run.split
  obtain ⟨q, first, second⟩ := front.split
  rw [← first.final_eq]
  have marked : Transition.Run (Action.run cfg)
      (fun s a => a.Allowed s ∧ ∀ o, a = .call o → ¬ o.IsEnable) q between r :=
    second.restrict fun a mem o eq => noEnable o (eq ▸ mem)
  refine marked.emits_once (D := fun s => s.isEnabled = false) ?_ ?_
  · intro s a off allowed
    exact leaking_off off allowed.1 allowed.2
  · intro s a _
    exact leaking_turns_off cfg s a

theorem leaks_at_most_once {cfg : Config} {s t : State} {acts : List Action}
    (run : Transition.Run (Action.run cfg) (fun s a => a.Allowed s) s acts t) :
    LeaksAtMostOnce cfg s acts where
  sound _ o _ _ := sections_sound cfg _ o
  once _ _ _ split noEnable := once_of_run run split noEnable

/-- A log call that fails its assert, and those after it. -/
theorem leaks_at_most_once_log : LeaksAtMostOnce Config.tests
    { State.init Config.tests with isEnabled := true, currentTcb := some 1 }
    [.call (.log {} TraceEvent.taskSwitchedOut), .call (.produce {}), .call .disable] := by
  have run : Transition.Run (Action.run Config.tests) (fun s a => a.Allowed s)
      { State.init Config.tests with isEnabled := true, currentTcb := some 1 }
      [.call (.log {} TraceEvent.taskSwitchedOut), .call (.produce {}), .call .disable] _ :=
    Transition.Run.of_check (by decide +kernel)
  exact leaks_at_most_once run

/-! The actions of the system are made of operations. -/

/-- From `s` to `t` by operations and by what happens in between. -/
def Performs (cfg : Config) (s t : State) : Prop :=
  ∃ acts, Transition.Run (Action.run cfg) (fun s a => a.Allowed s) s acts t

namespace Performs
variable {cfg : Config} {s r t : State}

theorem refl (s : State) : Performs cfg s s := ⟨[], .nil s⟩

theorem trans (h : Performs cfg s r) (k : Performs cfg r t) : Performs cfg s t := by
  obtain ⟨acts, run⟩ := h
  obtain ⟨acts', run'⟩ := k
  exact ⟨acts ++ acts', run.append run'⟩

theorem call (o : Operation) (s : State) : Performs cfg s (o.run cfg s) :=
  ⟨[.call o], .cons trivial (.nil _)⟩

theorem outside (latched : Latched s t) (nesting : t.criticalNesting = s.criticalNesting) :
    Performs cfg s t := by
  refine ⟨[.outside t], .cons ⟨fun on => ?_, nesting⟩ (.nil _)⟩
  by_contra off
  rw [latched.keepsOff.off (Bool.eq_false_iff.mpr off)] at on
  cases on

theorem same (errors : t.errors = s.errors) (errorMsg : t.errorMsg = s.errorMsg)
    (isEnabled : t.isEnabled = s.isEnabled) (nesting : t.criticalNesting = s.criticalNesting) :
    Performs cfg s t := outside (.same errors errorMsg isEnabled) nesting

end Performs

theorem traceTaskSwitchedOut_performs (cfg : Config) (env : External) (s : State) :
    Performs cfg s (traceTaskSwitchedOut cfg env s) := by
  simp only [traceTaskSwitchedOut]
  split
  · exact (Performs.call (.log env TraceEvent.taskSwitchedOut) s).trans (.call (.produce env) _)
  · exact .refl s

theorem traceTaskSwitchedIn_performs (cfg : Config) (env : External) (uxPriority : BitVec 32)
    (s : State) : Performs cfg s (traceTaskSwitchedIn cfg env uxPriority s) := by
  have switched : Performs cfg s (prvTraceSwitchedTcb s.pxCurrentTcb s).2 := by
    simp only [prvTraceSwitchedTcb]
    split
    · exact .same rfl rfl rfl rfl
    · exact .refl s
  simp only [traceTaskSwitchedIn]
  split
  · refine switched.trans ?_
    split
    · exact (Performs.call (.merge env) _).trans
        (.call (.logWithPayload env TraceEvent.taskSwitchedIn uxPriority) _)
    · exact .call (.logWithPayload env TraceEvent.taskSwitchedIn uxPriority) _
  · exact .refl s

theorem hook_performs (cfg : Config) (env : External) (h : Hook) (s : State) :
    Performs cfg s (h.run cfg env s) := by
  rw [Hook.run_eq]
  split
  · cases hookRecord s.taskId h with
    | none => exact .refl s
    | some record =>
        obtain ⟨id, payload⟩ := record
        cases payload with
        | none => exact .call (.log env id) s
        | some payload => exact .call (.logWithPayload env id payload) s
  · exact .refl s

theorem vTraceProbeIterator_performs (cfg : Config) {f : Probe → State → State}
    (each : ∀ probe s, Performs cfg s (f probe s)) (s : State) :
    Performs cfg s (vTraceProbeIterator cfg f s) := by
  simp only [vTraceProbeIterator]
  induction List.range cfg.maxProbes generalizing s with
  | nil => exact .refl s
  | cons i is ih =>
      rw [List.foldl_cons]
      refine Performs.trans ?_ (ih _)
      split
      · exact each _ s
      · exact .refl s

theorem ioReport_performs (cfg : Config) (reports announcements : Probe → IoWrite) (s : State) :
    Performs cfg s (ioReport cfg reports announcements s) := by
  have reported : Performs cfg s (sendReports cfg reports s) :=
    vTraceProbeIterator_performs cfg (fun probe s => .call (.report (reports probe) probe) s) s
  have announced : ∀ s, Performs cfg s (sendAnnouncements cfg announcements s) := by
    intro s
    have each : ∀ probe s, Performs cfg s
        (ioTaskProbeMutatorAnnouncementIterFn cfg (announcements probe) probe s) :=
      fun probe s => .call (.announce (announcements probe) probe) s
    have reset : Performs cfg s { s with iters := 0 } := .same rfl rfl rfl rfl
    simp only [sendAnnouncements]
    split
    · exact reset.trans (vTraceProbeIterator_performs cfg each _)
    · exact .refl s
  simp only [ioReport]
  split
  · exact reported.trans ((announced _).trans (.same rfl rfl rfl rfl))
  · exact .refl s
  · exact .refl s

theorem ioRead_nesting (cfg : Config) (r : IoRead) (s : State) :
    (ioRead cfg r s).criticalNesting = s.criticalNesting := by
  have noted : (if r.status ≠ 0 then
      State.prvTraceError "TRACE_IO_READ returned an error" { s with ioBuffer := r.data }
      else { s with ioBuffer := r.data }).criticalNesting = s.criticalNesting := by
    split
    · exact nesting_error _ _
    · rfl
  simp only [ioRead]
  split
  · split
    · split
      · exact noted
      · exact noted
    · exact noted
  · exact noted

theorem ioSend_nesting (cfg : Config) (s : State) :
    (ioSend cfg s).criticalNesting = s.criticalNesting := by
  have sent : ∀ target numBytes i,
      (sendToSlot cfg target numBytes i s).criticalNesting = s.criticalNesting := by
    intro target numBytes i
    simp only [sendToSlot]
    split
    · split <;> rfl
    · rfl
  simp only [ioSend]
  split
  · exact sent _ _ _
  · rfl
  · rfl

/-- Every action of the system is performed by operations. -/
theorem step_performs (cfg : Config) (s : State) (op : Op) : Performs cfg s (step cfg s op) := by
  cases op with
  | enable env io => exact .call (.enable env io) s
  | disable => exact .call .disable s
  | exclude pcName => exact .call (.exclude pcName) s
  | create env new name uxPriority =>
      have added : Performs cfg s (s.addTask cfg new name) := .same rfl rfl rfl rfl
      exact added.trans (.call (.register env new.handle uxPriority) _)
  | delete _ | setFilter _ _ => exact .same rfl rfl rfl rfl
  | start env next uxPriority =>
      have selected : Performs cfg s { s.select next with started := true } :=
        .same rfl rfl rfl rfl
      exact selected.trans (traceTaskSwitchedIn_performs cfg env uxPriority _)
  | switch out in' next uxPriority =>
      have selected : Performs cfg (traceTaskSwitchedOut cfg out s)
          ((traceTaskSwitchedOut cfg out s).select next) := .same rfl rfl rfl rfl
      exact (traceTaskSwitchedOut_performs cfg out s).trans
        (selected.trans (traceTaskSwitchedIn_performs cfg in' uxPriority _))
  | hook env h => exact hook_performs cfg env h s
  | ioRead r =>
      simp only [step]
      split
      · exact .outside (latched_controlEffect.ioRead cfg r s) (ioRead_nesting cfg r s)
      · exact .refl s
      · exact .refl s
  | ioSend => exact .outside (latched_controlEffect.ioSend cfg s) (ioSend_nesting cfg s)
  | ioReport reports announcements => exact ioReport_performs cfg reports announcements s
  | process env => exact .call (.process env) s
  | getBuffer => exact .call .getBuffer s

theorem reached_performs {cfg : Config} {ok : State → Op → Prop} {ops : List Op} {s : State}
    (reached : Reaches cfg ok ops s) : Performs cfg (State.init cfg) s :=
  reached.relates Performs.refl Performs.trans fun s op _ => step_performs cfg s op

/-- So in every run of the system one operation at most leaves a section open between two calls
of vTraceEnable. -/
theorem reached_leaks {cfg : Config} {ok : State → Op → Prop} {ops : List Op} {s : State}
    (reached : Reaches cfg ok ops s) : ∃ acts,
      Transition.Run (Action.run cfg) (fun s a => a.Allowed s) (State.init cfg) acts s ∧
      LeaksAtMostOnce cfg (State.init cfg) acts := by
  obtain ⟨acts, run⟩ := reached_performs reached
  exact ⟨acts, run, fun _ o _ _ => sections_sound cfg _ o,
    fun _ _ _ split noEnable => once_of_run run split noEnable⟩

end ProbeTrace
