import ProbeTrace.Foundation.MaskPort
import ProbeTrace.Metatheory.SectionLeaks

/-!
The two kinds of critical section a port may define. The library counts on sections that nest;
the port of the example saves PRIMASK in a variable of the function (TRACE_ALLOC_CRITICAL_SECTION)
and restores it. In every run the two agree, also where a failed assert leaves a section open:
interrupts are masked exactly while the count is positive.
-/
namespace ProbeTrace
open Sections

/-! The functions that are called inside of a section are those of vTraceEnable. -/

def createIoTaskCode (cfg : Config) (env : External) (io : Option NewTask) (s : State)
    (k : Code) : Code :=
  let s' := vTraceExcludeTask cfg cfg.ioTaskName s
  .call (.ofSections vTraceExcludeTaskSections) (match io with
    | some new => .call (.ofSections (prvTraceRegisterTaskProbeSections cfg env new.handle
        (s'.addTask cfg new cfg.ioTaskName))) k
    | none => k)

def includeIoTaskCode (cfg : Config) (env : External) (io : Option NewTask) (s : State)
    (k : Code) : Code :=
  if cfg.includeIoTask && s.ioTaskHandle == none then createIoTaskCode cfg env io s k else k

def vTraceEnableCode (cfg : Config) (env : External) (io : Option NewTask) (s : State) : Code :=
  if s.isEnabled then .done
  else
    traceAssert cfg (s.prvTraceGetCurrentTaskHandle == none)
      "vTraceEnable should be called before vTaskStartScheduler()" s (fun _ => .done) fun s =>
    .enter (includeIoTaskCode cfg env io s.enterCriticalSection (.exit .done))

/-- The sections of an operation, function by function. -/
def Operation.code (cfg : Config) (s : State) : Operation → Code
  | .enable env io => vTraceEnableCode cfg env io s
  | .disable => .done
  | .exclude _ => .ofSections vTraceExcludeTaskSections
  | .getBuffer => .ofSections pvTraceGetControlPlaneBufferSections
  | .process _ => .ofSections (vTraceProcessControlPlaneMessagesSections cfg s)
  | .register env task _ => .ofSections (prvTraceRegisterTaskProbeSections cfg env task s)
  | .produce env => .ofSections (prvTraceProduceSnapshotSections cfg env s)
  | .merge env => .ofSections (prvTraceMergeSnapshotSections cfg env s)
  | .log env _ => .ofSections (prvTraceLogEventSections cfg env s)
  | .logWithPayload env _ _ => .ofSections (prvTraceLogEventWithPayloadSections cfg env s)
  | .report _ _ => .ofSections ioTaskProbeReportIterFnSections
  | .announce _ _ => .ofSections ioTaskProbeMutatorAnnouncementIterFnSections
  | .record _ _ => .ofSections mptApiWrapperSections

/-- The library and PRIMASK, which code outside of the library leaves as it finds it. -/
structure Masked where
  state : State
  primask : Bool

def Masked.step (cfg : Config) (p : Masked) (a : Action) : Masked where
  state := a.run cfg p.state
  primask := match a with
    | .call o => (o.code cfg p.state).mask false p.primask
    | .outside _ => p.primask

/-- The saved mask against the count. -/
structure PortsAgree (cfg : Config) (p : Masked) : Prop where
  nesting : 0 ≤ p.state.criticalNesting
  primask : p.primask = decide (0 < p.state.criticalNesting)
  throughout : ∀ o : Operation, (o.code cfg p.state).masks false p.primask =
    (depths p.state.criticalNesting (o.sections cfg p.state)).map fun d => decide (0 < d)

section
variable {cfg : Config}

theorem createIoTaskCode_sections (env : External) (io : Option NewTask) (s : State) (k : Code) :
    (createIoTaskCode cfg env io s k).sections =
      createIoTaskSections cfg env io s ++ k.sections := by
  cases io with
  | none => rfl
  | some new =>
      rw [createIoTaskCode, createIoTaskSections, Code.sections, Code.sections,
        Code.sections_ofSections, Code.sections_ofSections, List.append_assoc]

theorem includeIoTaskCode_sections (env : External) (io : Option NewTask) (s : State) (k : Code) :
    (includeIoTaskCode cfg env io s k).sections =
      includeIoTaskSections cfg env io s ++ k.sections := by
  rw [includeIoTaskCode, includeIoTaskSections]
  split
  · exact createIoTaskCode_sections env io s k
  · rfl

theorem code_sections (s : State) (o : Operation) :
    (o.code cfg s).sections = o.sections cfg s := by
  cases o with
  | enable env io =>
      simp only [Operation.code, Operation.sections, vTraceEnableCode, vTraceEnableSections,
        traceAssert]
      split
      · rfl
      · split
        · rfl
        · exact congrArg (List.cons Section.enter) (includeIoTaskCode_sections ..)
  | disable => rfl
  | exclude _ | getBuffer | process _ | register _ _ _ | produce _ | merge _ | log _ _
  | logWithPayload _ _ _ | report _ _ | announce _ _ | record _ _ =>
      exact Code.sections_ofSections _

/-! Every function alternates. -/

/-- A function that enters its section and leaves it, or is left by an assert. -/
theorem alternates_of_leaves {s t : State} {body : List Section} (h : Leaves cfg s body t) :
    (Code.ofSections (.enter :: body)).Alternates false := by
  cases h with
  | exit r same => exact ⟨rfl, rfl, trivial⟩
  | failed r msg asserts same => exact ⟨rfl, trivial⟩
  | fault r same => exact ⟨rfl, trivial⟩

theorem alternates_of_opens {s : State} {o : Operation} (h : Opens cfg s o) :
    (Code.ofSections (o.sections cfg s)).Alternates false := by
  obtain ⟨body, sections, leaves⟩ := h
  rw [sections]
  exact alternates_of_leaves leaves

theorem oneSection_alternates : (Code.ofSections [.enter, .exit]).Alternates false ∧
    (Code.ofSections [.enter, .exit]).endsInside false = false := ⟨⟨rfl, rfl, trivial⟩, rfl⟩

/-- The IO task is registered while tracing is off. -/
theorem includeIoTaskCode_alternates (env : External) (io : Option NewTask) {s : State}
    (off : s.isEnabled = false) {k : Code} {inside : Bool} (h : k.Alternates inside) :
    (includeIoTaskCode cfg env io s k).Alternates inside := by
  rw [includeIoTaskCode]
  split
  · have off' := (vTraceExcludeTask_latched cfg cfg.ioTaskName s).keepsOff.off off
    refine ⟨oneSection_alternates, ?_⟩
    cases io with
    | none => exact h
    | some new =>
        have skipped : prvTraceRegisterTaskProbeSections cfg env new.handle
            ((vTraceExcludeTask cfg cfg.ioTaskName s).addTask cfg new cfg.ioTaskName) =
              [.enter, .exit] := by
          have off'' : ((vTraceExcludeTask cfg cfg.ioTaskName s).addTask cfg new
              cfg.ioTaskName).isEnabled = false := off'
          simp only [prvTraceRegisterTaskProbeSections, State.enter_isEnabled, off'']
          rfl
        refine ⟨?_, h⟩
        rw [skipped]
        exact oneSection_alternates
  · exact h

theorem code_alternates (s : State) (o : Operation) : (o.code cfg s).Alternates false := by
  cases o with
  | enable env io =>
      simp only [Operation.code, vTraceEnableCode, traceAssert]
      split
      · trivial
      · rename_i off
        split
        · trivial
        · have exits : (Code.exit .done).Alternates true := ⟨rfl, trivial⟩
          have off' : s.enterCriticalSection.isEnabled = false := Bool.eq_false_iff.mpr off
          exact ⟨rfl, includeIoTaskCode_alternates env io off' exits⟩
  | disable => trivial
  | exclude _ | getBuffer | report _ _ | announce _ _ | record _ _ =>
      exact oneSection_alternates.1
  | process env =>
      refine ⟨rfl, rfl, ?_⟩
      split
      · split
        · exact oneSection_alternates.1
        · trivial
      · trivial
  | register env task uxPriority =>
      exact alternates_of_opens (register_opens cfg env task uxPriority s)
  | produce env => exact alternates_of_opens (produce_opens cfg env s)
  | merge env => exact alternates_of_opens (merge_opens cfg env s)
  | log env id =>
      have opens : Opens cfg s (.log env id) := logEvent_opens ..
      exact alternates_of_opens opens
  | logWithPayload env id payload =>
      have opens : Opens cfg s (.logWithPayload env id payload) := logEvent_opens ..
      exact alternates_of_opens opens

theorem maskedAt_false (d : Int) : Code.maskedAt false d = decide (0 < d) := Bool.false_or _

/-- What an operation does to PRIMASK, and the count it does it to. -/
theorem code_mask (s : State) (o : Operation) (nonneg : 0 ≤ s.criticalNesting) :
    (o.code cfg s).mask false (decide (0 < s.criticalNesting)) =
        decide (0 < (o.run cfg s).criticalNesting) ∧
      (o.code cfg s).masks false (decide (0 < s.criticalNesting)) =
        (depths s.criticalNesting (o.sections cfg s)).map fun d => decide (0 < d) := by
  have alternates : (o.code cfg s).Alternates false := code_alternates s o
  have same := Code.mask_eq alternates false false (d := s.criticalNesting) nonneg
    fun no => absurd no Bool.false_ne_true
  rw [code_sections, ← (sections_sound cfg s o).depth] at same
  simp only [maskedAt_false] at same
  exact ⟨same.1, same.2.trans (List.map_congr_left fun d _ => maskedAt_false d)⟩

theorem portsAgree_of {p : Masked} (nonneg : 0 ≤ p.state.criticalNesting)
    (same : p.primask = decide (0 < p.state.criticalNesting)) : PortsAgree cfg p where
  nesting := nonneg
  primask := same
  throughout o := by
    rw [same]
    exact (code_mask p.state o nonneg).2

/-- Saving PRIMASK masks interrupts exactly where counting does. -/
theorem saved_mask_counts {acts : List Action} {p : Masked}
    (run : Transition.Run (Masked.step cfg) (fun p a => a.Allowed p.state)
      ⟨State.init cfg, false⟩ acts p) : PortsAgree cfg p := by
  refine run.invariant (P := PortsAgree cfg) ?_ (portsAgree_of (Int.le_refl 0) rfl)
  intro p a h allowed
  cases a with
  | call o =>
      have sound := sections_sound cfg p.state o
      refine portsAgree_of ?_ ?_
      · have nonneg := h.nesting
        have more := sound.nested.depth_nonneg
        show 0 ≤ (o.run cfg p.state).criticalNesting
        rw [sound.depth]
        omega
      · show (o.code cfg p.state).mask false p.primask = _
        rw [h.primask]
        exact (code_mask p.state o h.nesting).1
  | outside t =>
      refine portsAgree_of ?_ ?_
      · exact allowed.2 ▸ h.nesting
      · show p.primask = decide (0 < t.criticalNesting)
        rw [allowed.2]
        exact h.primask

end

/-- Tracing is enabled with an IO task, an event finds no slot, and a control message section
follows. -/
def leakingActions : List Action :=
  [.call (.enable {} (some ⟨0, 0, false⟩)),
    .outside { State.init Config.tests with isEnabled := true, currentTcb := some 1 },
    .call (.log {} TraceEvent.taskSwitchedOut), .call (.process {})]

theorem saved_mask_counts_leak : PortsAgree Config.tests
    (leakingActions.foldl (Masked.step Config.tests) ⟨State.init Config.tests, false⟩) :=
  saved_mask_counts (Transition.Run.of_check (by decide +kernel))

end ProbeTrace
