import ProbeTrace.Metatheory.HookRecords

/-!
What tracing is for: the calls that a scheduler asks for which knows the task that runs and
the task traced before. It knows nothing of g_current_tcb and g_prev_tcb, nor of the slots'
snapshots.
-/
namespace ProbeTrace

/-- What the scheduler is told about the tasks. -/
structure Roster where
  traced : TaskHandle → Bool
  taskId : TaskHandle → BitVec 16
  probe : TaskHandle → Option Probe
  slot : TaskHandle → Nat

/-- The task that runs, once the scheduler has started, and the traced task that was switched
out last, with the snapshot it produced then. -/
structure Schedule where
  running : Option TaskHandle := none
  baton : Option (TaskHandle × Snapshot) := none

namespace Roster

def record (tasks : Roster) (task : TaskHandle) (record : EventRecord) : Call :=
  .recordEvent (tasks.probe task) record.1 record.2

def produce (tasks : Roster) (task : TaskHandle) (result : Option Snapshot) : Call :=
  .produceSnapshot (tasks.probe task) (tasks.slot task) result

def merge (tasks : Roster) (task source : TaskHandle) (snapshot : Snapshot) : Call :=
  .mergeSnapshot (tasks.probe task) (tasks.slot source) snapshot

end Roster

namespace Schedule

/-- The task that runs, if it is traced. -/
def tracedTask (tasks : Roster) (m : Schedule) : Option TaskHandle :=
  m.running.filter tasks.traced

def hook (tasks : Roster) (h : Hook) (m : Schedule) : List Call :=
  match m.tracedTask tasks, hookRecord tasks.taskId h with
  | some task, some record => [tasks.record task record]
  | _, _ => []

def switchedOut (tasks : Roster) (out : External) (m : Schedule) : List Call :=
  match m.tracedTask tasks with
  | some task => [tasks.record task (TraceEvent.taskSwitchedOut, none),
      tasks.produce task out.produceSnapshot]
  | none => []

/-- A traced task that is switched out leaves its snapshot behind. -/
def handOver (tasks : Roster) (out : External) (m : Schedule) : Schedule :=
  match m.tracedTask tasks, out.produceSnapshot with
  | some task, some snapshot => { m with baton := some (task, snapshot) }
  | _, _ => m

/-- A task merges the snapshot of another one, not its own. -/
def received (tasks : Roster) (next : TaskHandle) (m : Schedule) : List Call :=
  match m.baton with
  | some (source, snapshot) =>
      if source = next then [] else [tasks.merge next source snapshot]
  | none => []

def switchedIn (tasks : Roster) (next : TaskHandle) (uxPriority : BitVec 32) (m : Schedule) :
    List Call :=
  if tasks.traced next then
    m.received tasks next ++ [tasks.record next (TraceEvent.taskSwitchedIn, some uxPriority)]
  else []

def select (next : TaskHandle) (m : Schedule) : Schedule := { m with running := some next }

def step (tasks : Roster) (m : Schedule) : Op → Schedule
  | .start _ next _ => m.select next
  | .switch out _ next _ => (m.handOver tasks out).select next
  | _ => m

def calls (tasks : Roster) (m : Schedule) : Op → List Call
  | .start _ next uxPriority => m.switchedIn tasks next uxPriority
  | .switch out _ next uxPriority =>
      m.switchedOut tasks out ++ (m.handOver tasks out).switchedIn tasks next uxPriority
  | .hook _ h => m.hook tasks h
  | _ => []

end Schedule

end ProbeTrace
