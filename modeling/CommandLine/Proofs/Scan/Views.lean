import CommandLine.Proofs.Scan.Trace
import CommandLine.Session

namespace CommandLine

namespace Record

def match? : Record → Option (String × Value)
  | matched label value => some (label, value)
  | _ => none

def kept? : Record → Option String
  | positional arg => some arg
  | _ => none

end Record

def Event.record : Event → Record
  | sentinel => .sentinel
  | kept arg => .positional arg
  | matched m => .matched m.slot.switch.label m.value

lemma filterMap_match?_record (events : List Event) :
    (events.map Event.record).filterMap Record.match? =
      (events.filterMap Event.match?).map fun m => (m.slot.switch.label, m.value) := by
  rw [List.filterMap_map, List.map_filterMap]
  congr 1
  funext e
  cases e <;> rfl

lemma filterMap_kept?_record (events : List Event) :
    (events.map Event.record).filterMap Record.kept? = events.filterMap Event.kept? := by
  rw [List.filterMap_map]
  congr 1
  funext e
  cases e <;> rfl

namespace Store

def insertAll (store : Store) (found : List Match) : Store :=
  found.foldl (fun store m => store.insert m.slot.switch.key m.value) store

lemma getElem?_insertAll (store : Store) (found : List Match) {key : String}
    (h : ∀ m ∈ found, m.slot.switch.key ≠ key) : (insertAll store found)[key]? = store[key]? := by
  induction found generalizing store with
  | nil => rfl
  | cons m found ih =>
    have hm : m.slot.switch.key ≠ key := h m List.mem_cons_self
    have htail := ih (store.insert m.slot.switch.key m.value) fun n hn =>
      h n (List.mem_cons_of_mem m hn)
    simpa only [insertAll, List.foldl_cons, Std.TreeMap.getElem?_insert,
      Std.LawfulEqCmp.compare_eq_iff_eq, hm, if_false] using htail

lemma getElem?_insertAll_last (store : Store) (before : List Match) {m : Match} {behind : List Match}
    (h : ∀ n ∈ behind, n.slot.switch.key ≠ m.slot.switch.key) :
    (insertAll store (before ++ m :: behind))[m.slot.switch.key]? = some m.value := by
  rw [insertAll, List.foldl_append, List.foldl_cons]
  exact (getElem?_insertAll _ behind h).trans Std.TreeMap.getElem?_insert_self

end Store

lemma Effects.foldl_report (events : List Event) (fx : Effects) :
    events.foldl Effects.report fx =
      { store := fx.store.map (Store.insertAll · (events.filterMap Event.match?))
        calls := fx.calls ++ (events.filterMap Event.match?).flatMap called
        log := fx.log ++ events.map Event.record } := by
  induction events generalizing fx with
  | nil => rcases fx with ⟨_ | store, calls, log⟩ <;> simp [Store.insertAll]
  | cons e events ih =>
    rw [List.foldl_cons, ih]
    cases e with
    | sentinel => simp [report, Event.record, List.filterMap_cons]
    | kept arg => simp [report, Event.record, List.filterMap_cons]
    | matched m =>
      rcases fx with ⟨_ | store, calls, log⟩ <;>
        simp [report, Event.record, Store.insertAll]

lemma Registry.run_eq (R : Registry) (mode : Mode) (store : Option Store) (args : List String) :
    R.run mode store args =
      let t := R.trace mode ⟨args, false⟩
      ⟨{ store := store.map (Store.insertAll · t.found), calls := t.found.flatMap Effects.called,
         log := t.events.map Event.record }, t.outcome⟩ := by
  simp [run, scan_eq_trace, Effects.foldl_report, Trace.found]

namespace Session

variable (s : Session) (mode : Mode) (stored : Bool) (args : List String)

lemma execute_scan :
    s.execute (.scan mode stored args) =
      let t := s.registry.trace mode ⟨args, false⟩
      ({ s with store := if stored then s.store.insertAll t.found else s.store },
       { result := t.outcome, calls := t.found.flatMap Effects.called,
         log := t.events.map Event.record }) := by
  cases stored <;> simp [execute, Registry.run_eq]

/-- However a scan ends, the log, the store and the calls all tell its matches, and neither they nor
the outcome depend on the store. Arguments that are refused stay with the caller; of those that are
not, a permuting scan leaves the ones it noted as positionals. -/
theorem scan_views :
    let found := (s.registry.trace mode ⟨args, false⟩).found
    let (s', reply) := s.execute (.scan mode stored args)
    reply.log.filterMap Record.match? = found.map (fun m => (m.slot.switch.label, m.value)) ∧
    s'.store = (if stored then
      found.foldl (fun store m => store.insert m.slot.switch.key m.value) s.store else s.store) ∧
    (∀ key, (∀ m ∈ found, m.slot.switch.key ≠ key) → s'.store[key]? = s.store[key]?) ∧
    reply.calls = found.filterMap (fun m => m.slot.switch.handler.map (⟨·, m.value⟩)) ∧
    (∀ (s₂ : Session) (stored₂ : Bool), s₂.registry = s.registry →
      (s₂.execute (.scan mode stored₂ args)).2 = reply) ∧
    (∀ e, reply.result = .error e → reply.left args = args) ∧
    (∀ rest, mode = .permuting → reply.result = .ok rest →
      reply.left args = rest ∧ reply.log.filterMap Record.kept? = rest) := by
  simp only [execute_scan]
  refine ⟨filterMap_match?_record _, rfl, ?_, ?_, ?_, ?_, ?_⟩
  · intro key hkey
    cases stored with
    | false => rfl
    | true => exact Store.getElem?_insertAll _ _ hkey
  · rw [List.filterMap_eq_flatMap_toList]
    rfl
  · intro s₂ stored₂ hs
    rw [hs]
  · intro e he
    simp only [Reply.left, he]
  · rintro rest rfl hrest
    obtain ⟨d, ha, _⟩ := Registry.advances_of_ok (.inl rfl) hrest
    exact ⟨by simp only [Reply.left, hrest], by rw [filterMap_kept?_record, ha.left_eq]⟩

end Session

end CommandLine
