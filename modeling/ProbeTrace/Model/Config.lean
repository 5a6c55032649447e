import Mathlib.Data.BitVec

/-!
The parameters of modality_probe_config.h and FreeRTOSConfig.h that the tracing
code depends on, the port's integer conventions and the constants of
modality_probe_freertos.h.

A field of `Config` is the macro of the same name without its MPT_CFG_ or config
prefix. `sizeWidth` is the width of size_t in bits, `messageLengthBytes` what a
FreeRTOS message buffer adds to a message for its length, and `probeIdBroadcast`
is MODALITY_PROBE_ID_BROADCAST. A configuration carries what a C compiler already
demands of it: arrays are not empty and objects are smaller than half of the
address space.
-/
namespace ProbeTrace

/-- The bytes of a C string, without the terminating NUL. -/
abbrev CString := List UInt8

structure Config where
  maxProbes : Nat
  maxExcludedTasks : Nat
  staticAllocation : Bool
  storageSize : Nat
  taskProbeSize : Nat
  sizeWidth : Nat
  useTraceAssert : Bool
  placeProbeInTcbAppTag : Bool
  includeIoTask : Bool
  ioTaskName : CString
  ioTaskPriority : BitVec 32
  ioTaskBufferSize : Nat
  ioTaskItersPerMutatorAnnouncement : Int
  includeControlPlaneBuffer : Bool
  controlPlaneBufferSize : Nat
  controlPlaneTaskBufferSize : Nat
  messageLengthBytes : Nat
  maxTaskNameLen : Nat
  charIsSigned : Bool
  probeIdBroadcast : BitVec 32
  maxProbes_pos : 0 < maxProbes
  maxExcludedTasks_pos : 0 < maxExcludedTasks
  storageSize_pos : 0 < storageSize
  storageSize_lt : storageSize < 2 ^ (sizeWidth - 1)
  taskProbeSize_pos : 0 < taskProbeSize
  taskProbeSize_lt : taskProbeSize < 2 ^ sizeWidth

/-- The configuration the tests of the repository share. -/
def Config.tests : Config where
  maxProbes := 4
  maxExcludedTasks := 4
  staticAllocation := false
  storageSize := 4096 * 4
  taskProbeSize := 4096
  sizeWidth := 64
  useTraceAssert := true
  placeProbeInTcbAppTag := true
  includeIoTask := true
  ioTaskName := [77, 111, 100, 97, 108, 105, 116, 121, 80, 114, 111, 98, 101, 73, 111]
  ioTaskPriority := 1
  ioTaskBufferSize := 256
  ioTaskItersPerMutatorAnnouncement := 200
  includeControlPlaneBuffer := true
  controlPlaneBufferSize := 512
  controlPlaneTaskBufferSize := 128
  messageLengthBytes := 8
  maxTaskNameLen := 12
  charIsSigned := true
  probeIdBroadcast := 0xFFFFFFFF
  maxProbes_pos := by decide
  maxExcludedTasks_pos := by decide
  storageSize_pos := by decide
  storageSize_lt := by decide
  taskProbeSize_pos := by decide
  taskProbeSize_lt := by decide

/-! The halves of a task number word, TRACE_READ_LOWER16 and its companions. -/

def traceReadLower16 (input : BitVec 32) : BitVec 16 :=
  (input &&& 0x0000FFFF#32).setWidth 16

def traceReadUpper16 (input : BitVec 32) : BitVec 16 :=
  ((input >>> 16) &&& 0x0000FFFF#32).setWidth 16

def traceWriteLower16 (output : BitVec 32) (input : BitVec 16) : BitVec 32 :=
  (output &&& 0xFFFF0000#32) ||| input.setWidth 32

def traceWriteUpper16 (output : BitVec 32) (input : BitVec 16) : BitVec 32 :=
  (output &&& 0x0000FFFF#32) ||| (input.setWidth 32 <<< 16)

private theorem lowMask_getLsbD (j : Nat) (h : j < 32) :
    (0x0000FFFF#32).getLsbD j = decide (j < 16) := by
  decide +revert

private theorem highMask_getLsbD (j : Nat) (h : j < 32) :
    (0xFFFF0000#32).getLsbD j = decide (16 ≤ j) := by
  decide +revert

private theorem readLower_getLsbD (w : BitVec 32) (j : Nat) (h : j < 16) :
    (traceReadLower16 w).getLsbD j = w.getLsbD j := by
  rw [traceReadLower16, BitVec.getLsbD_setWidth, BitVec.getLsbD_and,
    lowMask_getLsbD j (by omega)]
  simp [h]

private theorem readUpper_getLsbD (w : BitVec 32) (j : Nat) (h : j < 16) :
    (traceReadUpper16 w).getLsbD j = w.getLsbD (16 + j) := by
  rw [traceReadUpper16, BitVec.getLsbD_setWidth, BitVec.getLsbD_and,
    lowMask_getLsbD j (by omega), BitVec.getLsbD_ushiftRight]
  simp [h]

private theorem writeLower_getLsbD (w : BitVec 32) (v : BitVec 16) (j : Nat) (h : j < 32) :
    (traceWriteLower16 w v).getLsbD j = if j < 16 then v.getLsbD j else w.getLsbD j := by
  rw [traceWriteLower16, BitVec.getLsbD_or, BitVec.getLsbD_and, highMask_getLsbD j h,
    BitVec.getLsbD_setWidth]
  by_cases hj : j < 16
  · simp [hj, h, show ¬ 16 ≤ j by omega]
  · simp [hj, show 16 ≤ j by omega]

private theorem writeUpper_getLsbD (w : BitVec 32) (v : BitVec 16) (j : Nat) (h : j < 32) :
    (traceWriteUpper16 w v).getLsbD j =
      if j < 16 then w.getLsbD j else v.getLsbD (j - 16) := by
  rw [traceWriteUpper16, BitVec.getLsbD_or, BitVec.getLsbD_and, lowMask_getLsbD j h,
    BitVec.getLsbD_shiftLeft, BitVec.getLsbD_setWidth]
  by_cases hj : j < 16
  · simp [hj]
  · simp [hj, h, show j - 16 < 32 by omega]

@[simp] theorem readLower_writeLower (w : BitVec 32) (v : BitVec 16) :
    traceReadLower16 (traceWriteLower16 w v) = v := by
  apply BitVec.eq_of_getLsbD_eq
  intro j hj
  rw [readLower_getLsbD _ j hj, writeLower_getLsbD _ _ j (by omega), if_pos hj]

@[simp] theorem readUpper_writeLower (w : BitVec 32) (v : BitVec 16) :
    traceReadUpper16 (traceWriteLower16 w v) = traceReadUpper16 w := by
  apply BitVec.eq_of_getLsbD_eq
  intro j hj
  rw [readUpper_getLsbD _ j hj, writeLower_getLsbD _ _ _ (by omega), if_neg (by omega),
    readUpper_getLsbD w j hj]

@[simp] theorem readLower_writeUpper (w : BitVec 32) (v : BitVec 16) :
    traceReadLower16 (traceWriteUpper16 w v) = traceReadLower16 w := by
  apply BitVec.eq_of_getLsbD_eq
  intro j hj
  rw [readLower_getLsbD _ j hj, writeUpper_getLsbD _ _ j (by omega), if_pos hj,
    readLower_getLsbD w j hj]

@[simp] theorem readUpper_writeUpper (w : BitVec 32) (v : BitVec 16) :
    traceReadUpper16 (traceWriteUpper16 w v) = v := by
  apply BitVec.eq_of_getLsbD_eq
  intro j hj
  rw [readUpper_getLsbD _ j hj, writeUpper_getLsbD _ _ _ (by omega), if_neg (by omega)]
  simp

@[simp] theorem readUpper_zero : traceReadUpper16 0 = 0 := by decide

/-! The event ids of modality_probe_freertos.h. -/

namespace TraceEvent

def idTop : BitVec 32 := 0xFFFF

def taskCreate : BitVec 32 := idTop - 1
def taskSwitchedIn : BitVec 32 := idTop - 2
def taskSwitchedOut : BitVec 32 := idTop - 3
def taskSuspend : BitVec 32 := idTop - 4
def taskDelay : BitVec 32 := idTop - 5
def taskDelayUntil : BitVec 32 := idTop - 6

def queueSend : BitVec 32 := idTop - 100
def queueSendBlocked : BitVec 32 := idTop - 101
def queueSendFailed : BitVec 32 := idTop - 102
def queueSendFront : BitVec 32 := idTop - 103
def queueSendFrontBlocked : BitVec 32 := idTop - 104
def queueSendFrontFailed : BitVec 32 := idTop - 105
def queueSendFromIsr : BitVec 32 := idTop - 106
def queueSendFromIsrFailed : BitVec 32 := idTop - 107
def queueSendFrontFromIsr : BitVec 32 := idTop - 108
def queueSendFrontFromIsrFailed : BitVec 32 := idTop - 109

def queueReceive : BitVec 32 := idTop - 200
def queueReceiveBlocked : BitVec 32 := idTop - 201
def queueReceiveFailed : BitVec 32 := idTop - 202
def queueReceiveFromIsr : BitVec 32 := idTop - 203
def queueReceiveFromIsrFailed : BitVec 32 := idTop - 204

def semaphoreGive : BitVec 32 := idTop - 300
def semaphoreGiveBlocked : BitVec 32 := idTop - 301
def semaphoreGiveFailed : BitVec 32 := idTop - 302
def semaphoreGiveFromIsr : BitVec 32 := idTop - 303
def semaphoreGiveFromIsrFailed : BitVec 32 := idTop - 304

def semaphoreTake : BitVec 32 := idTop - 400
def semaphoreTakeBlocked : BitVec 32 := idTop - 401
def semaphoreTakeFailed : BitVec 32 := idTop - 402
def semaphoreTakeFromIsr : BitVec 32 := idTop - 403
def semaphoreTakeFromIsrFailed : BitVec 32 := idTop - 404

def mutexGive : BitVec 32 := idTop - 500
def mutexGiveBlocked : BitVec 32 := idTop - 501
def mutexGiveFailed : BitVec 32 := idTop - 502

def mutexTake : BitVec 32 := idTop - 600
def mutexTakeBlocked : BitVec 32 := idTop - 601
def mutexTakeFailed : BitVec 32 := idTop - 602

end TraceEvent

end ProbeTrace
