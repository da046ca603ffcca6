import CommandLine.Proofs.Scan.Ordering

namespace CommandLine

namespace Registry

variable {R : Registry} {c : Cursor} {t : Trace} {args left pre suf : List String} {p : String}

lemma ends_positional (R : Registry) {literal : Bool} (h : literal = true ∨ IsPositional p)
    (rest : List String) : R.Ends .ordering ⟨p :: rest, literal⟩ ⟨[], .ok (p :: rest)⟩ := by
  have hnext : (⟨p :: rest, literal⟩ : Cursor).next? = some (.positional p, ⟨rest, literal⟩) :=
    Cursor.next?_eq_positional.mpr ⟨rfl, h⟩
  exact .stopped hnext rfl

lemma Ends.ordering (h : R.Ends .ordering c t) (ht : t.outcome = .ok left) :
    t = ⟨[], .ok c.rest⟩ ∧ ∀ p ∈ c.rest.head?, c.literal = true ∨ IsPositional p := by
  cases h with
  | exhausted hc =>
    rw [Cursor.next?_eq_none.mp hc]
    exact ⟨rfl, by simp⟩
  | @stopped d _ events left hc hs =>
    have hn : (R.step .ordering d _).next = .ok none := congrArg Step.next hs
    obtain ⟨_, p, rfl⟩ := step_stopped hn
    obtain ⟨rfl, hp⟩ := Cursor.next?_eq_positional.mp hc
    cases hs
    refine ⟨rfl, fun q hq => ?_⟩
    obtain rfl : p = q := Option.some.inj hq
    exact hp
  | refused => cases ht

lemma advances_ordering (h : (R.trace .ordering ⟨args, false⟩).outcome = .ok left) :
    let t := R.trace .ordering ⟨args, false⟩
    R.Advances .ordering ⟨args, false⟩ t.events [] ⟨left, decide (.sentinel ∈ t.events)⟩ ∧
      ∀ p ∈ left.head?, .sentinel ∈ t.events ∨ IsPositional p := by
  obtain ⟨events, _, d, u, ha, he⟩ := exists_advances_ends R .ordering ⟨args, false⟩
  obtain ⟨rfl, _⟩ := ha.permuting
  have hlit := ha.literal_eq rfl
  have ht := ha.trace
  rw [he.trace] at ht
  rw [ht] at h ⊢
  obtain ⟨left', hu⟩ : ∃ left', u.outcome = .ok left' := by
    cases ho : u.outcome with
    | error e => simp [Trace.after, ho, Except.map] at h
    | ok left' => exact ⟨left', rfl⟩
  obtain ⟨rfl, hp⟩ := he.ordering hu
  obtain rfl : d.rest = left := by simpa [Trace.after, Except.map] using h
  intro t
  have hevents : t.events = events := List.append_nil events
  rw [hevents, ← hlit]
  refine ⟨ha, fun p hmem => (hp p hmem).imp_left fun hd => ?_⟩
  rwa [hlit, decide_eq_true_iff] at hd

lemma exists_sentinel_of_ordering (h : (R.trace .ordering ⟨args, false⟩).outcome = .ok left)
    (hs : .sentinel ∈ (R.trace .ordering ⟨args, false⟩).events) : ∃ events, .sentinel ∉ events ∧
      R.Advances .ordering ⟨args, false⟩ events [] ⟨"--" :: left, false⟩ := by
  obtain ⟨events, left', rest, hne, ha⟩ := (advances_ordering h).1.exists_sentinel rfl hs
  obtain ⟨rfl, _⟩ := ha.permuting
  have ht := ha.trace
  rw [(R.reads_sentinel _ rest).trace, trace_ordering_literal] at ht
  rw [ht] at h
  obtain rfl : rest = left := by simpa [Trace.after, Except.map] using h
  exact ⟨events, hne, ha⟩

lemma trace_ordering_of_stopped
    (h : (R.trace .ordering ⟨pre ++ p :: suf, false⟩).outcome = .ok (p :: suf)) (suf' : List String) :
    R.trace .ordering ⟨pre ++ p :: suf', false⟩ =
      ⟨(R.trace .ordering ⟨pre ++ p :: suf, false⟩).events, .ok (p :: suf')⟩ := by
  obtain ⟨ha, hp⟩ := advances_ordering h
  obtain ⟨pre', hpre, hframe⟩ := ha.frame
  obtain rfl : pre = pre' := List.append_cancel_right hpre
  rw [(hframe (p :: suf') rfl).trace,
    (R.ends_positional ((hp p rfl).imp_left decide_eq_true) suf').trace]
  simp [Trace.after, Except.map]

end Registry

namespace Session

/-- A scan in order takes arguments from the front and leaves the rest: all that is behind the sentinel,
if there was one, or else all from the first positional on. What stands behind the argument at which it
stopped may be anything. -/
theorem execute_ordering_stop (s : Session) (stored : Bool) {args left : List String}
    (h : (s.execute (.scan .ordering stored args)).2.result = .ok left) :
    let R := s.registry
    let ordered := s.execute (.scan .ordering stored args)
    left <:+ args ∧
    (∃ literal, R.Advances .ordering ⟨args, false⟩ (R.trace .ordering ⟨args, false⟩).events []
      ⟨left, literal⟩) ∧
    (.sentinel ∉ ordered.2.log → ∀ p ∈ left.head?, p = "-" ∨ p.toList.head? ≠ some '-') ∧
    (.sentinel ∈ ordered.2.log → "--" :: left <:+ args ∧ ∃ events, .sentinel ∉ events ∧
      R.Advances .ordering ⟨args, false⟩ events [] ⟨"--" :: left, false⟩) ∧
    ∀ pre p suf, args = pre ++ [p] ++ suf → left = p :: suf → ∀ suf',
      let other := s.execute (.scan .ordering stored (pre ++ [p] ++ suf'))
      other.2.result = .ok (p :: suf') ∧ other.1 = ordered.1 ∧ other.2.calls = ordered.2.calls ∧
        other.2.log = ordered.2.log ∧
        (R.trace .ordering ⟨pre ++ [p] ++ suf', false⟩).found =
          (R.trace .ordering ⟨args, false⟩).found := by
  intro R ordered
  have hordered : ordered = (s.storing stored (R.trace .ordering ⟨args, false⟩).found,
      (R.trace .ordering ⟨args, false⟩).reply) := s.execute_scan_eq stored .ordering args
  have ht : (R.trace .ordering ⟨args, false⟩).outcome = .ok left := by
    rw [execute_scan_eq] at h
    exact h
  have hlog : .sentinel ∈ ordered.2.log ↔ .sentinel ∈ (R.trace .ordering ⟨args, false⟩).events := by
    rw [hordered]
    exact Trace.sentinel_mem_log
  have hsuffix {events : List Event} {d : Cursor}
      (ha : R.Advances .ordering ⟨args, false⟩ events [] d) : d.rest <:+ args := by
    obtain ⟨pre, hpre, _⟩ := ha.frame
    exact ⟨pre, hpre.symm⟩
  obtain ⟨ha, hp⟩ := Registry.advances_ordering ht
  refine ⟨hsuffix ha, ⟨_, ha⟩, ?_, ?_, ?_⟩
  · intro hs p hmem
    exact (hp p hmem).resolve_left (mt hlog.mpr hs)
  · intro hs
    obtain ⟨events, hne, ha'⟩ := Registry.exists_sentinel_of_ordering ht (hlog.mp hs)
    exact ⟨hsuffix ha', events, hne, ha'⟩
  · rintro pre p suf rfl rfl suf'
    simp only [List.append_assoc, List.singleton_append] at ht hordered ⊢
    have hother := Registry.trace_ordering_of_stopped ht suf'
    rw [hordered, execute_scan_eq, hother]
    exact ⟨rfl, rfl, rfl, rfl, rfl⟩

theorem execute_ordering_stop_literal :
    let R := Registry.ofDeclarations [["-d", "--debug [LEVEL]"], ["-q"]]
    let s : Session := { registry := R }
    let ordered := s.execute (.scan .ordering true ["-qd", "--", "-q", "x"])
    ordered.2.result = .ok ["-q", "x"] ∧ ["--", "-q", "x"] <:+ ["-qd", "--", "-q", "x"] ∧
    ∀ suf, (s.execute (.scan .ordering true (["-qd", "--"] ++ ["-q"] ++ suf))).2.result =
        .ok ("-q" :: suf) ∧
      (s.execute (.scan .ordering true (["-qd", "--"] ++ ["-q"] ++ suf))).1 = ordered.1 := by
  intro R s ordered
  have hresult : ordered.2.result = .ok ["-q", "x"] := by
    simp only [ordered, execute_scan_unrolled]
    rfl
  have hs : .sentinel ∈ ordered.2.log := by
    simp only [ordered, execute_scan_unrolled]
    decide
  obtain ⟨_, _, _, hliteral, hstop⟩ := s.execute_ordering_stop true hresult
  refine ⟨hresult, (hliteral hs).1, fun suf => ?_⟩
  obtain ⟨hsuf, hsame, _⟩ := hstop ["-qd", "--"] "-q" ["x"] rfl rfl suf
  exact ⟨hsuf, hsame⟩

end Session

end CommandLine
