import ProbeTrace.Foundation.Crc
import ProbeTrace.Model.State

/-!
What tools/update-manifest.py puts into the manifest: the events of the header and the ids
of the task probes. A name given to --task-names is decoded before the program sees it,
and a byte that is not part of UTF-8 becomes a lone surrogate, which str.encode refuses.
-/
namespace ProbeTrace

/-! The task probes. -/

/-- crccheck's Crc16Ibm3740: no reflection, and nothing is added at the end. -/
def crc16Ibm3740 (data : List UInt8) : BitVec 16 := Crc.check 0x1021 0xFFFF data

def strEncode (s : String) : List UInt8 := s.toByteArray.data.toList

def hashTaskNameToProbeId (taskName : String) : BitVec 16 := crc16Ibm3740 (strEncode taskName)

/-- The bytes of an argument. -/
def argumentBytes (name : CString) : ByteArray := name.toByteArray

/-- The id of the entry for a name, `none` when the program fails on it. -/
def manifestProbeId (name : CString) : Option (BitVec 16) :=
  (String.fromUTF8? (argumentBytes name)).map hashTaskNameToProbeId

/-! The events. -/

/-- A text of Python, by its characters. -/
abbrev Text := List Char

/-- A literal of the program, all of which are in ASCII. -/
def ascii (s : String) : Text := (strEncode s).map Char.ofUInt8

/-- Most of the events have u32 payloads, these do not. -/
def eventsWithoutPayloads : List Text :=
  [ascii "TASK_SWITCHED_OUT",
    ascii "TRACE_EVENT_MUTEX_GIVE",
    ascii "TRACE_EVENT_MUTEX_GIVE_BLOCKED",
    ascii "TRACE_EVENT_MUTEX_GIVE_FAILED",
    ascii "TRACE_EVENT_MUTEX_TAKE",
    ascii "TRACE_EVENT_MUTEX_TAKE_BLOCKED",
    ascii "TRACE_EVENT_MUTEX_TAKE_FAILED"]

def removePrefix (text start : Text) : Text :=
  if start.isPrefixOf text then text.drop start.length else text

/-- upper and lower are those of ASCII, which the identifiers of C are in. -/
def upper (text : Text) : Text := text.map Char.toUpper

def lower (text : Text) : Text := text.map Char.toLower

/-- text.split('_')[0] -/
def firstWord (text : Text) : Text := text.takeWhile (· ≠ '_')

/-- text.replace('_', ' ') -/
def spaced (text : Text) : Text := text.map fun c => if c = '_' then ' ' else c

/-- The id is kept as str(event_id) and read back by int. -/
structure ManifestEvent where
  name : Text
  eventClass : Text
  desc : Text
  hasPayload : Bool
  isFailure : Bool
  id : Nat
  deriving DecidableEq, Repr

/-- The entry for a definition of the header. -/
def manifestEvent (name : Text) (eventId : Nat) : ManifestEvent :=
  let canonicalName := upper (removePrefix name (ascii "TRACE_EVENT_"))
  { name := canonicalName
    eventClass := lower (firstWord canonicalName)
    desc := ascii "FreeRTOS " ++ lower (spaced canonicalName)
    hasPayload := !eventsWithoutPayloads.contains canonicalName
    isFailure := decide (ascii "FAILED" <:+: canonicalName)
    id := eventId }

/-- The test for a definition that is an event. -/
def definesEvent (name : Text) : Bool :=
  name != ascii "TRACE_EVENT_ID_TOP" && (ascii "TRACE_EVENT_").isPrefixOf name

/-- One turn of the loop, over the ids seen and the events so far. -/
def parseDefinition (seen : List Nat × List ManifestEvent) (item : Text × Nat) :
    Except String (List Nat × List ManifestEvent) :=
  if definesEvent item.1 then
    if item.2 ∈ seen.1 then
      .error ("Found duplicate event ID " ++ toString item.2 ++ " for event " ++
        String.ofList item.1)
    else .ok (item.2 :: seen.1, seen.2 ++ [manifestEvent item.1 item.2])
  else .ok seen

/-- `values` are the constants that pyclibrary finds in the header, in order. -/
def parseFreertosTraceEventDefinitions (values : List (Text × Nat)) :
    Except String (List ManifestEvent) :=
  (values.foldlM parseDefinition ([], [])).map Prod.snd

/-- What the event is passed to the generator as. -/
structure ExternalEvent where
  id : Nat
  name : Text
  description : Text
  tags : Text
  typeHint : Text
  deriving DecidableEq, Repr

def ManifestEvent.external (event : ManifestEvent) : ExternalEvent where
  id := event.id
  name := event.name
  description := event.desc
  tags := (if event.isFailure then ascii "FAILURE;" else []) ++ ascii "FreeRTOS;" ++
    event.eventClass ++ if ascii "ISR" <:+: event.name then ascii ";ISR" else []
  typeHint := if event.hasPayload then ascii "U32" else []

open TraceEvent in
/-- The event ids that modality_probe_freertos.h defines, under their names there. -/
def traceEventDefinitions : List (Text × BitVec 32) :=
  [(ascii "TRACE_EVENT_ID_TOP", idTop),
    (ascii "TRACE_EVENT_TASK_CREATE", taskCreate),
    (ascii "TRACE_EVENT_TASK_SWITCHED_IN", taskSwitchedIn),
    (ascii "TRACE_EVENT_TASK_SWITCHED_OUT", taskSwitchedOut),
    (ascii "TRACE_EVENT_TASK_SUSPEND", taskSuspend),
    (ascii "TRACE_EVENT_TASK_DELAY", taskDelay),
    (ascii "TRACE_EVENT_TASK_DELAY_UNTIL", taskDelayUntil),
    (ascii "TRACE_EVENT_QUEUE_SEND", queueSend),
    (ascii "TRACE_EVENT_QUEUE_SEND_BLOCKED", queueSendBlocked),
    (ascii "TRACE_EVENT_QUEUE_SEND_FAILED", queueSendFailed),
    (ascii "TRACE_EVENT_QUEUE_SEND_FRONT", queueSendFront),
    (ascii "TRACE_EVENT_QUEUE_SEND_FRONT_BLOCKED", queueSendFrontBlocked),
    (ascii "TRACE_EVENT_QUEUE_SEND_FRONT_FAILED", queueSendFrontFailed),
    (ascii "TRACE_EVENT_QUEUE_SEND_FROMISR", queueSendFromIsr),
    (ascii "TRACE_EVENT_QUEUE_SEND_FROMISR_FAILED", queueSendFromIsrFailed),
    (ascii "TRACE_EVENT_QUEUE_SEND_FRONT_FROMISR", queueSendFrontFromIsr),
    (ascii "TRACE_EVENT_QUEUE_SEND_FRONT_FROMISR_FAILED", queueSendFrontFromIsrFailed),
    (ascii "TRACE_EVENT_QUEUE_RECEIVE", queueReceive),
    (ascii "TRACE_EVENT_QUEUE_RECEIVE_BLOCKED", queueReceiveBlocked),
    (ascii "TRACE_EVENT_QUEUE_RECEIVE_FAILED", queueReceiveFailed),
    (ascii "TRACE_EVENT_QUEUE_RECEIVE_FROMISR", queueReceiveFromIsr),
    (ascii "TRACE_EVENT_QUEUE_RECEIVE_FROMISR_FAILED", queueReceiveFromIsrFailed),
    (ascii "TRACE_EVENT_SEMAPHORE_GIVE", semaphoreGive),
    (ascii "TRACE_EVENT_SEMAPHORE_GIVE_BLOCKED", semaphoreGiveBlocked),
    (ascii "TRACE_EVENT_SEMAPHORE_GIVE_FAILED", semaphoreGiveFailed),
    (ascii "TRACE_EVENT_SEMAPHORE_GIVE_FROMISR", semaphoreGiveFromIsr),
    (ascii "TRACE_EVENT_SEMAPHORE_GIVE_FROMISR_FAILED", semaphoreGiveFromIsrFailed),
    (ascii "TRACE_EVENT_SEMAPHORE_TAKE", semaphoreTake),
    (ascii "TRACE_EVENT_SEMAPHORE_TAKE_BLOCKED", semaphoreTakeBlocked),
    (ascii "TRACE_EVENT_SEMAPHORE_TAKE_FAILED", semaphoreTakeFailed),
    (ascii "TRACE_EVENT_SEMAPHORE_TAKE_FROMISR", semaphoreTakeFromIsr),
    (ascii "TRACE_EVENT_SEMAPHORE_TAKE_FROMISR_FAILED", semaphoreTakeFromIsrFailed),
    (ascii "TRACE_EVENT_MUTEX_GIVE", mutexGive),
    (ascii "TRACE_EVENT_MUTEX_GIVE_BLOCKED", mutexGiveBlocked),
    (ascii "TRACE_EVENT_MUTEX_GIVE_FAILED", mutexGiveFailed),
    (ascii "TRACE_EVENT_MUTEX_TAKE", mutexTake),
    (ascii "TRACE_EVENT_MUTEX_TAKE_BLOCKED", mutexTakeBlocked),
    (ascii "TRACE_EVENT_MUTEX_TAKE_FAILED", mutexTakeFailed)]

/-- Each #define of the header with its integer value. -/
def headerValues : List (Text × Nat) :=
  traceEventDefinitions.map fun item => (item.1, item.2.toNat)

end ProbeTrace
