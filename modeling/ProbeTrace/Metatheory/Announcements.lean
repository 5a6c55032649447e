import ProbeTrace.Foundation.Periodic
import ProbeTrace.Metatheory.ErrorSafety

/-!
When the IO task announces mutators. Its counter is stepped once an iteration, so
the passes are the firings of a periodic counter as long as the limit fits below
the greatest value of the 16-bit counter; from there on there are none.
-/
namespace ProbeTrace

/-- For an action that ends an iteration of the IO task's loop, whether this one
performs the announcement pass. -/
def iterationPasses (cfg : Config) (s : State) : Op → List Bool
  | .ioReport reports _ =>
      if s.ioPoint = .report then [announcementDue cfg (sendReports cfg reports s)] else []
  | _ => []

/-! The counter is the IO task's own. -/

theorem iters_hookEffect : HookEffect fun s t => t.iters = s.iters where
  refl _ := rfl
  trans h k := k.trans h
  enter _ := rfl
  exit _ := rfl
  error msg s := by rw [State.prvTraceError_eq]
  record _ _ _ _ := rfl
  produce env probe i s := by
    simp only [State.modalityProbeProduceSnapshot]
    cases env.produceSnapshot <;> rfl
  merge _ _ _ := rfl
  switched new s := by
    simp only [prvTraceSwitchedTcb]
    split <;> rfl
  fault _ := rfl

theorem iters_registerEffect : RegisterEffect fun s t => t.iters = s.iters where
  refl _ := rfl
  trans h k := k.trans h
  enter _ := rfl
  exit _ := rfl
  error msg s := by rw [State.prvTraceError_eq]
  log _ _ _ := rfl
  tcb _ _ _ := rfl
  storage cfg env n s := by
    simp only [allocStorage]
    split <;> split <;> rfl
  probeIds _ _ := rfl
  slot _ _ _ := rfl
  messageBuffer cfg env s := by
    simp only [allocMessageBuffer]
    split <;> rfl
  taskBuffer env s := by
    simp only [allocTaskLocalBuffer]
    split <;> rfl
  exclude _ _ _ := rfl

theorem iters_enableEffect : EnableEffect fun s t => t.iters = s.iters where
  refl _ := rfl
  trans h k := k.trans h
  enter _ := rfl
  exit _ := rfl
  error msg s := by rw [State.prvTraceError_eq]
  exclude _ _ _ := rfl
  addTask _ _ _ _ := rfl
  ioTask _ _ := rfl
  enabled _ := rfl

theorem vTraceProcessControlPlaneMessages_iters (cfg : Config) (env : External) (s : State) :
    (vTraceProcessControlPlaneMessages cfg env s).iters = s.iters := by
  have received : ∀ e : TcbProbe, (receiveMessage cfg e s).2.iters = s.iters := by
    intro e
    simp only [receiveMessage]
    split <;> rfl
  have handed : ∀ probe msg t, (handOver cfg env probe msg t).iters = t.iters := by
    intro probe msg t
    simp only [handOver]
    split
    · split
      · refine traceAssert_induction (P := fun r : State => r.iters = t.iters) (fun _ _ => ?_)
          (fun _ => rfl)
        rw [id_eq, State.prvTraceError_eq]
        rfl
      · rfl
    · rfl
  simp only [vTraceProcessControlPlaneMessages, State.exit_enterCriticalSection]
  exact (handed _ _ _).trans (received _)

theorem ioRead_iters (cfg : Config) (r : IoRead) (s : State) :
    (ioRead cfg r s).iters = s.iters := by
  have noted : (if r.status ≠ 0 then
      State.prvTraceError "TRACE_IO_READ returned an error" { s with ioBuffer := r.data }
      else { s with ioBuffer := r.data }).iters = s.iters := by
    split
    · rw [State.prvTraceError_eq]
    · rfl
  simp only [ioRead]
  split
  · split
    · split
      · exact noted
      · exact noted
    · exact noted
  · exact noted

theorem ioSend_iters (cfg : Config) (s : State) : (ioSend cfg s).iters = s.iters := by
  have sent : ∀ target numBytes i, (sendToSlot cfg target numBytes i s).iters = s.iters := by
    intro target numBytes i
    simp only [sendToSlot]
    split
    · split <;> rfl
    · rfl
  simp only [ioSend]
  split
  · exact sent _ _ _
  · rfl
  · rfl

/-- Every action that is no end of an iteration leaves the counter alone. -/
theorem step_iters (cfg : Config) (s : State) (op : Op)
    (noEnd : ∀ reports announcements, op ≠ .ioReport reports announcements) :
    (step cfg s op).iters = s.iters := by
  cases op with
  | enable env io => exact iters_enableEffect.vTraceEnable cfg env io s
  | disable => rfl
  | exclude pcName => exact iters_enableEffect.vTraceExcludeTask cfg pcName s
  | create env new name uxPriority =>
      exact iters_registerEffect.prvTraceRegisterTaskProbe cfg env new.handle uxPriority _
  | delete task => rfl
  | start env next uxPriority => exact iters_hookEffect.startScheduler cfg env next uxPriority rfl
  | switch out in' next uxPriority =>
      exact iters_hookEffect.contextSwitch cfg out in' next uxPriority s fun _ => rfl
  | hook env h => exact iters_hookEffect.run cfg env h s
  | setFilter task filter => rfl
  | ioRead r =>
      simp only [step]
      split
      · exact ioRead_iters cfg r s
      · rfl
      · rfl
  | ioSend => exact ioSend_iters cfg s
  | ioReport reports announcements => exact absurd rfl (noEnd reports announcements)
  | process env => exact vTraceProcessControlPlaneMessages_iters cfg env s
  | getBuffer => rfl

/-! The end of an iteration. -/

theorem sendReports_reported (cfg : Config) (reports : Probe → IoWrite) (s : State) :
    Reported ((registeredProbes cfg s).map .report) s (sendReports cfg reports s) :=
  vTraceProbeIterator_reported cfg (fun _ _ => ioTaskProbeIter_reported cfg .report ..) s

/-- The announcements are made when they are due, for every probe there is. -/
theorem sendAnnouncements_eq (cfg : Config) (announcements : Probe → IoWrite) (s : State) :
    (sendAnnouncements cfg announcements s).calls = s.calls ++
      (if announcementDue cfg s then (registeredProbes cfg s).map .announceMutators else []) ∧
    (sendAnnouncements cfg announcements s).iters = if announcementDue cfg s then 0 else s.iters := by
  simp only [sendAnnouncements]
  split
  · have announced := vTraceProbeIterator_reported cfg
      (fun probe s => ioTaskProbeIter_reported cfg .announceMutators
        "Failed to generate Modality mutator announcement"
        "TRACE_IO_WRITE returned an error (2)" (announcements probe) probe s) { s with iters := 0 }
    exact ⟨announced.calls, announced.iters⟩
  · exact ⟨(List.append_nil _).symm, rfl⟩

theorem announcementDue_sendReports (cfg : Config) (reports : Probe → IoWrite) (s : State) :
    announcementDue cfg (sendReports cfg reports s) = announcementDue cfg s := by
  simp only [announcementDue, (sendReports_reported cfg reports s).iters]

/-- What an iteration that is not cut short does at its end. -/
theorem ioReport_end (cfg : Config) (reports announcements : Probe → IoWrite) {s : State}
    (point : s.ioPoint = .report) :
    (ioReport cfg reports announcements s).calls = s.calls ++
      (registeredProbes cfg s).map .report ++
      (if announcementDue cfg s then (registeredProbes cfg s).map .announceMutators else []) ∧
    (ioReport cfg reports announcements s).iters =
      (if announcementDue cfg s then 0 else s.iters) + 1 := by
  have reported := sendReports_reported cfg reports s
  have due := announcementDue_sendReports cfg reports s
  obtain ⟨calls, iters⟩ := sendAnnouncements_eq cfg announcements (sendReports cfg reports s)
  have same : registeredProbes cfg (sendReports cfg reports s) = registeredProbes cfg s := by
    simp only [registeredProbes, State.tcbProbe, reported.tcbProbes]
  rw [due, same, reported.calls] at calls
  rw [due, reported.iters] at iters
  simp only [ioReport, point]
  exact ⟨calls, congrArg (· + 1) iters⟩

theorem announcementDue_eq {cfg : Config} {limit : Nat}
    (config : cfg.ioTaskItersPerMutatorAnnouncement = limit) (s : State) :
    announcementDue cfg s = decide (limit < s.iters.toNat) := by
  simp only [announcementDue, config, gt_iff_lt, Int.ofNat_lt]

/-- A step of the counter, or an action that does not concern it. -/
theorem step_iteration {cfg : Config} {limit : Nat}
    (config : cfg.ioTaskItersPerMutatorAnnouncement = limit) (fits : limit < 65535)
    {s : State} {n : Nat} (counted : s.iters.toNat = Periodic.counter limit n) (op : Op) :
    iterationPasses cfg s op = [] ∧ (step cfg s op).iters.toNat = Periodic.counter limit n ∨
    iterationPasses cfg s op = [Periodic.fires limit n] ∧
      (step cfg s op).iters.toNat = Periodic.counter limit (n + 1) := by
  by_cases isEnd : ∃ reports announcements, op = .ioReport reports announcements
  · obtain ⟨reports, announcements, rfl⟩ := isEnd
    by_cases point : s.ioPoint = .report
    · refine .inr ⟨?_, ?_⟩
      · simp only [iterationPasses, if_pos point, announcementDue_sendReports]
        rw [announcementDue_eq config, counted, List.cons.injEq]
        exact ⟨Bool.eq_iff_iff.mpr (by rw [decide_eq_true_eq, Periodic.fires_iff]), rfl⟩
      · have below := Periodic.counter_le limit n
        rw [Periodic.counter_succ, ← counted]
        rw [← counted] at below
        simp only [step, (ioReport_end cfg reports announcements point).2,
          announcementDue_eq config, decide_eq_true_eq]
        split
        · rfl
        · rw [BitVec.toNat_add]
          exact Nat.mod_eq_of_lt (by simp; omega)
    · refine .inl ⟨if_neg point, ?_⟩
      simp only [step, ioReport]
      split
      · contradiction
      · exact counted
      · exact counted
  · have noEnd : ∀ reports announcements, op ≠ .ioReport reports announcements :=
      fun reports announcements eq => isEnd ⟨reports, announcements, eq⟩
    refine .inl ⟨?_, by rw [step_iters cfg s op noEnd, counted]⟩
    cases op with
    | ioReport reports announcements => exact absurd rfl (noEnd reports announcements)
    | _ => rfl

/-- The passes of a whole run are the firings of the counter. -/
theorem run_iterations {cfg : Config} {limit : Nat}
    (config : cfg.ioTaskItersPerMutatorAnnouncement = limit) (fits : limit < 65535)
    {ok : State → Op → Prop} {ops : List Op} {s : State}
    (run : Transition.Run (step cfg) ok (State.init cfg) ops s) :
    ∃ n, Transition.outputs (step cfg) (iterationPasses cfg) (State.init cfg) ops =
      Periodic.firings limit n := by
  have keep : ∀ (n : Nat) (s : State) (op : Op), s.iters.toNat = Periodic.counter limit n →
      ok s op → iterationPasses cfg s op = [] ∧
        (step cfg s op).iters.toNat = Periodic.counter limit n ∨
      iterationPasses cfg s op = [Periodic.fires limit n] ∧
        (step cfg s op).iters.toNat = Periodic.counter limit (n + 1) :=
    fun _ _ op counted _ => step_iteration config fits counted op
  obtain ⟨n, passes, -⟩ := run.counted keep rfl
  exact ⟨n, passes⟩

/-- The passes recur: `limit` is the configured number of iterations between them. -/
structure MutatorAnnouncements (cfg : Config) (ops : List Op) (s : State) : Prop where
  /-- Reports and, when the iteration announces, announcements of all registered probes. -/
  pass : s.ioPoint = .report → ∀ reports announcements,
    iterationPasses cfg s (.ioReport reports announcements) = [announcementDue cfg s] ∧
    (step cfg s (.ioReport reports announcements)).calls = s.calls ++
      (registeredProbes cfg s).map .report ++
      (if announcementDue cfg s then (registeredProbes cfg s).map .announceMutators else [])
  recur : ∀ before window after : List Bool,
    Transition.outputs (step cfg) (iterationPasses cfg) (State.init cfg) ops =
      before ++ window ++ after →
    window.length = cfg.ioTaskItersPerMutatorAnnouncement + 2 → true ∈ window
  period : ∀ before between after : List Bool,
    Transition.outputs (step cfg) (iterationPasses cfg) (State.init cfg) ops =
      before ++ true :: between ++ true :: after →
    true ∉ between → between.length = cfg.ioTaskItersPerMutatorAnnouncement

/-- No limit from 65535 on is ever passed. -/
theorem never_announces {cfg : Config} (large : 65535 ≤ cfg.ioTaskItersPerMutatorAnnouncement)
    (s : State) : announcementDue cfg s = false := by
  have below : s.iters.toNat < 65536 := s.iters.isLt
  simp only [announcementDue, decide_eq_false_iff_not]
  omega

theorem outputs_never {cfg : Config} (large : 65535 ≤ cfg.ioTaskItersPerMutatorAnnouncement)
    (s : State) (ops : List Op) :
    true ∉ Transition.outputs (step cfg) (iterationPasses cfg) s ops := by
  induction ops generalizing s with
  | nil => exact List.not_mem_nil
  | cons op ops ih =>
      rw [Transition.outputs, List.mem_append]
      intro announced
      cases announced with
      | inl here =>
          cases op with
          | ioReport reports announcements =>
              simp only [iterationPasses, never_announces large] at here
              split at here
              · cases List.mem_singleton.mp here
              · cases here
          | _ => cases here
      | inr later => exact ih _ later

/-! An iteration in which nothing is read. -/

def idleRead : Op := .ioRead { status := 0, numBytes := 0, data := [], destination := none }

def idleReport : Op := .ioReport (fun _ => {}) (fun _ => {})

/-- The loop may turn any number of times. -/
theorem idle_iterations (cfg : Config) (n : Nat) {s : State} (point : s.ioPoint = .read) :
    ∃ ops t, Transition.Run (step cfg) (fun s op => op.Legal cfg s ∧ True) s ops t ∧
      (Transition.outputs (step cfg) (iterationPasses cfg) s ops).length = n := by
  induction n generalizing s with
  | zero => exact ⟨[], s, .nil s, rfl⟩
  | succ n ih =>
      have atReport : (step cfg s idleRead).ioPoint = .report := by
        simp only [idleRead, step, point, ioRead]
        rfl
      have atRead : (step cfg (step cfg s idleRead) idleReport).ioPoint = .read := by
        generalize step cfg s idleRead = r at atReport
        simp only [idleReport, step, ioReport, atReport]
      obtain ⟨ops, t, run, length⟩ := ih atRead
      have legal : idleRead.Legal cfg s := ⟨Nat.le_refl 0, Nat.zero_le _⟩
      have turn : iterationPasses cfg (step cfg s idleRead) idleReport =
          [announcementDue cfg (sendReports cfg (fun _ => {}) (step cfg s idleRead))] :=
        if_pos atReport
      refine ⟨idleRead :: idleReport :: ops, t,
        .cons ⟨legal, trivial⟩ (.cons ⟨trivial, trivial⟩ run), ?_⟩
      rw [Transition.outputs, Transition.outputs, turn, List.length_append,
        List.length_append, length]
      simp only [idleRead, iterationPasses, List.length_nil, List.length_singleton]
      omega

theorem recurrence_lost {cfg : Config} (large : 65535 ≤ cfg.ioTaskItersPerMutatorAnnouncement)
    {ops : List Op} {s : State} (reached : Reaches cfg (fun _ _ => True) ops s)
    (point : s.ioPoint = .read) :
    ∃ ops t, Reaches cfg (fun _ _ => True) ops t ∧ ¬ MutatorAnnouncements cfg ops t := by
  obtain ⟨more, t, run, length⟩ := idle_iterations cfg
    (cfg.ioTaskItersPerMutatorAnnouncement.toNat + 2) point
  refine ⟨ops ++ more, t, reached.append run, fun announced => ?_⟩
  refine outputs_never large s more (announced.recur
    (Transition.outputs (step cfg) (iterationPasses cfg) (State.init cfg) ops) _ [] ?_ ?_)
  · rw [Transition.outputs_append, ← reached.final_eq, List.append_nil]
  · rw [length]
    omega

/-- The announcements recur with the configured period in every run exactly when the
configured number is less than 65535. -/
theorem mutator_announcements_iff {cfg : Config}
    (configured : 0 ≤ cfg.ioTaskItersPerMutatorAnnouncement) :
    (∀ ops s, Reaches cfg (fun _ _ => True) ops s → MutatorAnnouncements cfg ops s) ↔
      cfg.ioTaskItersPerMutatorAnnouncement < 65535 := by
  constructor
  · intro always
    by_contra large
    obtain ⟨ops, t, reached, lost⟩ := recurrence_lost (Int.not_lt.mp large)
      (.nil (State.init cfg)) rfl
    exact lost (always ops t reached)
  · intro small ops s reached
    obtain ⟨limit, config⟩ := Int.eq_ofNat_of_zero_le configured
    have fits : limit < 65535 := by omega
    obtain ⟨n, firings⟩ := run_iterations config fits reached
    constructor
    case pass =>
      intro point reports announcements
      refine ⟨?_, (ioReport_end cfg reports announcements point).1⟩
      simp only [iterationPasses, if_pos point, announcementDue_sendReports]
    case recur =>
      intro before window after split length
      exact Periodic.firings_recur (firings ▸ split) (by omega)
    case period =>
      intro before between after split none
      rw [config, Periodic.firings_period (firings ▸ split) none]

/-- Every second iteration announces. -/
def Config.announcing : Config := { Config.tests with ioTaskItersPerMutatorAnnouncement := 1 }

/-- `n` iterations of the IO task's loop, and the next read. -/
def loopRun (n : Nat) : List Op :=
  enabledRun ++ (List.replicate n [idleRead, idleReport]).flatten ++ [idleRead]

theorem mutator_announcements_iff_tests : MutatorAnnouncements Config.announcing (loopRun 5)
    ((loopRun 5).foldl (step Config.announcing) (State.init Config.announcing)) := by
  have reached : Reaches Config.announcing (fun _ _ => True) (loopRun 5) _ :=
    Transition.Run.of_check (by decide +kernel)
  exact (mutator_announcements_iff (by decide)).mpr (by decide) _ _ reached

/-- The third and the fifth iteration announce. -/
example : Transition.outputs (step Config.announcing) (iterationPasses Config.announcing)
    (State.init Config.announcing) (loopRun 5) = [false, false, true, false, true] := by
  decide +kernel

/-- With the limit 65535 the 16-bit counter never exceeds it. -/
theorem announcements_never_made :
    ¬ ∀ ops s, Reaches { Config.tests with ioTaskItersPerMutatorAnnouncement := 65535 }
        (fun _ _ => True) ops s →
      MutatorAnnouncements { Config.tests with ioTaskItersPerMutatorAnnouncement := 65535 }
        ops s := by
  intro always
  have reached : Reaches { Config.tests with ioTaskItersPerMutatorAnnouncement := 65535 }
      (fun _ _ => True) [.enable {} (some ⟨1, 0, true⟩), .start {} 1 1] _ :=
    Transition.Run.of_check (by decide +kernel)
  obtain ⟨ops, t, run, lost⟩ := recurrence_lost (Int.le_refl 65535) reached (by decide +kernel)
  exact lost (always ops t run)

end ProbeTrace
