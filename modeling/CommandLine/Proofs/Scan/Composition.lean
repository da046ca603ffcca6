import CommandLine.Proofs.Scan.Sentinel
import CommandLine.Proofs.Scan.Views
import CommandLine.Proofs.Session.Reachable

namespace CommandLine

lemma Registry.trace_append {R : Registry} {mode : Mode} {pre left : List String} (post : List String)
    (hm : mode = .permuting ∨ left = []) (h : (R.trace mode ⟨pre, false⟩).outcome = .ok left)
    (hs : .sentinel ∉ (R.trace mode ⟨pre, false⟩).events)
    (hv : ∀ m ∈ (R.trace mode ⟨pre, false⟩).found, m.value ≠ .absent) :
    R.trace mode ⟨pre ++ post, false⟩ =
      (R.trace mode ⟨post, false⟩).after (R.trace mode ⟨pre, false⟩).events left := by
  obtain ⟨⟨rest, literal⟩, ha, rfl : rest = []⟩ := advances_of_ok hm h
  obtain rfl : literal = false := by simpa [hs] using ha.literal_eq rfl
  have happend : R.Advances mode ⟨pre ++ post, false⟩ (R.trace mode ⟨pre, false⟩).events left
      ⟨post, false⟩ := ha.append fun _ => .inr fun m hmem => hv m (Trace.mem_found.mpr hmem)
  exact happend.trace

def Trace.reply (t : Trace) : Reply where
  result := t.outcome
  calls := t.found.flatMap Effects.called
  log := t.events.map Event.record

def Reply.after (events : List Event) (left : List String) (reply : Reply) : Reply where
  result := reply.result.map (left ++ ·)
  calls := (events.filterMap Event.match?).flatMap Effects.called ++ reply.calls
  log := events.map Event.record ++ reply.log

lemma Trace.sentinel_mem_log {t : Trace} : .sentinel ∈ t.reply.log ↔ .sentinel ∈ t.events := by
  simp only [reply, List.mem_map]
  constructor
  · rintro ⟨e, he, hr⟩
    cases e with
    | sentinel => exact he
    | matched m => cases hr
    | kept arg => cases hr
  · intro h
    exact ⟨_, h, rfl⟩

lemma Trace.reply_after (events : List Event) (left : List String) (t : Trace) :
    (t.after events left).reply = t.reply.after events left := by
  simp only [reply, Reply.after, found_after, List.flatMap_append]
  simp only [after, List.map_append]

namespace Session

variable (s : Session) (stored : Bool)

def storing (found : List Match) : Session :=
  { s with store := if stored then s.store.insertAll found else s.store }

lemma storing_append (found found' : List Match) :
    s.storing stored (found ++ found') = (s.storing stored found).storing stored found' := by
  cases stored with
  | false => rfl
  | true => simp [storing, Store.insertAll, List.foldl_append]

lemma execute_scan_eq (mode : Mode) (args : List String) :
    s.execute (.scan mode stored args) =
      (s.storing stored (s.registry.trace mode ⟨args, false⟩).found,
        (s.registry.trace mode ⟨args, false⟩).reply) :=
  s.execute_scan mode stored args

lemma execute_scan_unrolled (mode : Mode) (args : List String) :
    s.execute (.scan mode stored args) =
      (s.storing stored (s.registry.unrolled mode args.length ⟨args, false⟩).found,
        (s.registry.unrolled mode args.length ⟨args, false⟩).reply) := by
  rw [execute_scan_eq, Registry.trace_unrolled]

lemma execute_scan_after {mode mode' : Mode} {args args' left : List String} {events : List Event}
    (ht : s.registry.trace mode ⟨args, false⟩ =
      (s.registry.trace mode' ⟨args', false⟩).after events left) :
    s.execute (.scan mode stored args) =
      ((s.storing stored (events.filterMap Event.match?)).execute (.scan mode' stored args')).map id
        (Reply.after events left) := by
  simp only [execute_scan_eq, ht, Trace.found_after, Trace.reply_after, storing_append]
  rfl

/-- Scanning two command lines at once is scanning the one and then, with what it stored, the other. -/
theorem execute_scan_append {pre left : List String} (post : List String)
    (h : (s.execute (.scan .permuting stored pre)).2.result = .ok left)
    (hs : .sentinel ∉ (s.execute (.scan .permuting stored pre)).2.log)
    (hv : ∀ m ∈ (s.registry.trace .permuting ⟨pre, false⟩).found, m.value ≠ .absent) :
    let first := s.execute (.scan .permuting stored pre)
    let second := first.1.execute (.scan .permuting stored post)
    s.execute (.scan .permuting stored (pre ++ post)) =
      (second.1, { result := second.2.result.map (left ++ ·)
                   calls := first.2.calls ++ second.2.calls
                   log := first.2.log ++ second.2.log }) ∧
    (s.registry.trace .permuting ⟨pre ++ post, false⟩).found =
      (s.registry.trace .permuting ⟨pre, false⟩).found ++
        (s.registry.trace .permuting ⟨post, false⟩).found := by
  have hfirst := s.execute_scan_eq stored .permuting pre
  rw [hfirst] at h hs
  have ht := Registry.trace_append post (.inl rfl) h (mt Trace.sentinel_mem_log.mpr hs) hv
  constructor
  -- what the first scan stored is what the events of its trace store
  · rw [hfirst, s.execute_scan_after stored ht]
    rfl
  · rw [ht, Trace.found_after]
    rfl

theorem execute_scan_append_values :
    let R := Registry.ofDeclarations [["-o", "--output FILE"], ["-d", "--debug [LEVEL]"]]
    let s : Session := { registry := R }
    let pre := ["a", "-d", "-o", "-o", "--"]
    let post := ["--", "-d"]
    let first := s.execute (.scan .permuting true pre)
    let second := first.1.execute (.scan .permuting true post)
    first.2.result = .ok ["a"] ∧ second.2.result = .ok ["-d"] ∧ .sentinel ∉ first.2.log ∧
    (∀ m ∈ (R.trace .permuting ⟨pre, false⟩).found, m.value ≠ .absent) ∧
    s.execute (.scan .permuting true (pre ++ post)) =
      (second.1, { result := .ok ["a", "-d"]
                   calls := first.2.calls ++ second.2.calls
                   log := first.2.log ++ second.2.log }) := by
  intro R s pre post first second
  have hresult : first.2.result = .ok ["a"] := by
    simp only [first, execute_scan_unrolled]
    rfl
  have hlog : .sentinel ∉ first.2.log := by
    simp only [first, execute_scan_unrolled]
    decide
  have hvalues : ∀ m ∈ (R.trace .permuting ⟨pre, false⟩).found, m.value ≠ .absent := by
    rw [R.trace_unrolled]
    decide
  have hsecond : second.2.result = .ok ["-d"] := by
    simp only [second, execute_scan_unrolled]
    rfl
  have happend := (s.execute_scan_append true post hresult hlog hvalues).1
  exact ⟨hresult, hsecond, hlog, hvalues, happend.trans (by rw [hsecond]; rfl)⟩

end Session

end CommandLine
