import ProbeTrace.Foundation.DistinctFold
import ProbeTrace.Model.Manifest

/-!
What the manifest program makes of any header: an entry for each event definition, in order, or
an exit that names the first definition whose id was defined before.
-/
namespace ProbeTrace
open DistinctFold

/-- The definitions of a header that are events. -/
def eventDefinitions (values : List (Text × Nat)) : List (Text × Nat) :=
  values.filter fun item => definesEvent item.1

/-- The text of sys.exit. -/
def duplicateText (item : Text × Nat) : String :=
  "Found duplicate event ID " ++ toString item.2 ++ " for event " ++ String.ofList item.1

def definitionEntry (item : Text × Nat) : ManifestEvent := manifestEvent item.1 item.2

section
variable {values : List (Text × Nat)}

/-- The other definitions are skipped. -/
theorem foldlM_definitions (values : List (Text × Nat)) (seen : List Nat × List ManifestEvent) :
    values.foldlM parseDefinition seen =
      (eventDefinitions values).foldlM
        (DistinctFold.step Prod.snd definitionEntry duplicateText) seen := by
  induction values generalizing seen with
  | nil => rfl
  | cons item values ih =>
      cases defines : definesEvent item.1 with
      | false =>
          have skips : parseDefinition seen item = .ok seen := if_neg (by rw [defines]; decide)
          have filtered : eventDefinitions (item :: values) = eventDefinitions values :=
            List.filter_cons_of_neg (by rw [defines]; decide)
          rw [List.foldlM_cons, skips, filtered]
          exact ih seen
      | true =>
          have takes : parseDefinition seen item =
              DistinctFold.step Prod.snd definitionEntry duplicateText seen item := if_pos defines
          have filtered : eventDefinitions (item :: values) = item :: eventDefinitions values :=
            List.filter_cons_of_pos defines
          rw [List.foldlM_cons, filtered, List.foldlM_cons, takes]
          exact congrArg (bind _) (funext ih)

theorem parse_fold (values : List (Text × Nat)) : parseFreertosTraceEventDefinitions values =
    ((eventDefinitions values).foldlM (DistinctFold.step Prod.snd definitionEntry duplicateText)
      ([], [])).map Prod.snd := by
  rw [parseFreertosTraceEventDefinitions, foldlM_definitions]

theorem parse_of_nodup (distinct : ((eventDefinitions values).map Prod.snd).Nodup) :
    parseFreertosTraceEventDefinitions values =
      .ok ((eventDefinitions values).map definitionEntry) := by
  rw [parse_fold, fold_distinct _ distinct fun _ _ => List.not_mem_nil]
  rfl

theorem parse_of_repeat {item : Text × Nat}
    (repeats : FirstRepeat Prod.snd (eventDefinitions values) item) :
    parseFreertosTraceEventDefinitions values = .error (duplicateText item) := by
  rw [parse_fold, fold_repeat repeats]
  rfl

/-- The program goes on exactly when the events' ids are distinct, then with one entry for each
event in the header's order and under its id; else it exits over the first id seen twice. -/
structure HeaderParsed (values : List (Text × Nat)) : Prop where
  accepted : ∀ events, parseFreertosTraceEventDefinitions values = .ok events ↔
    ((eventDefinitions values).map Prod.snd).Nodup ∧
      events = (eventDefinitions values).map definitionEntry
  rejected : ∀ msg, parseFreertosTraceEventDefinitions values = .error msg ↔
    ∃ item, FirstRepeat Prod.snd (eventDefinitions values) item ∧ msg = duplicateText item
  emitted : ∀ events, parseFreertosTraceEventDefinitions values = .ok events →
    (events.map fun event => event.external.id).Nodup

theorem header_parsed (values : List (Text × Nat)) : HeaderParsed values := by
  have accepted : ∀ events, parseFreertosTraceEventDefinitions values = .ok events ↔
      ((eventDefinitions values).map Prod.snd).Nodup ∧
        events = (eventDefinitions values).map definitionEntry := by
    intro events
    cases nodup_or_repeat Prod.snd (eventDefinitions values) with
    | inl distinct =>
        rw [parse_of_nodup distinct, Except.ok.injEq]
        exact ⟨fun same => ⟨distinct, same.symm⟩, fun both => both.2.symm⟩
    | inr repeats =>
        obtain ⟨item, repeats⟩ := repeats
        rw [parse_of_repeat repeats]
        exact ⟨fun no => (nomatch no), fun both => absurd both.1 repeats.not_nodup⟩
  refine ⟨accepted, fun msg => ?_, fun events parsed => ?_⟩
  · cases nodup_or_repeat Prod.snd (eventDefinitions values) with
    | inl distinct =>
        rw [parse_of_nodup distinct]
        refine ⟨fun no => (nomatch no), fun repeats => ?_⟩
        obtain ⟨item, repeats, -⟩ := repeats
        exact absurd distinct repeats.not_nodup
    | inr repeats =>
        obtain ⟨item, repeats⟩ := repeats
        rw [parse_of_repeat repeats, Except.error.injEq]
        constructor
        · exact fun same => ⟨item, repeats, same.symm⟩
        · intro other
          obtain ⟨item', repeats', same⟩ := other
          rw [same, repeats.unique repeats']
  · obtain ⟨distinct, isEvents⟩ := (accepted events).mp parsed
    rw [isEvents, List.map_map]
    exact distinct

end

/-- A header that defines an id twice. -/
example : parseFreertosTraceEventDefinitions [(ascii "TRACE_EVENT_A", 1), (ascii "OTHER", 1),
    (ascii "TRACE_EVENT_B", 2), (ascii "TRACE_EVENT_C", 1)] =
    .error "Found duplicate event ID 1 for event TRACE_EVENT_C" := by
  decide +kernel

end ProbeTrace
