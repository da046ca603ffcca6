import CommandLine.Proofs.Scan.Composition

namespace CommandLine

namespace Registry

variable {R : Registry} {c d : Cursor} {events : List Event} {left : List String} {t : Trace}

lemma step_permuting {t : Token} (h : (R.step .ordering c t).next ≠ .ok none) :
    R.step .permuting c t = R.step .ordering c t ∧ (R.step .ordering c t).left = [] := by
  cases t with
  | sentinel => exact ⟨rfl, rfl⟩
  | long name inline => exact ⟨rfl, rfl⟩
  | cluster letters => exact ⟨rfl, rfl⟩
  | positional arg => exact (h rfl).elim

lemma Reads.permuting (h : R.Reads .ordering c events left d) :
    left = [] ∧ R.Reads .permuting c events left d := by
  obtain ⟨t, e, ht, hs⟩ := h
  obtain ⟨hstep, hleft⟩ := step_permuting (R := R) (c := e) (t := t) (by simp [hs])
  rw [hs] at hstep hleft
  exact ⟨hleft, t, e, ht, hstep⟩

lemma Advances.permuting (h : R.Advances .ordering c events left d) :
    left = [] ∧ R.Advances .permuting c events left d := by
  induction h with
  | refl c => exact ⟨rfl, .refl c⟩
  | head hr _ ih =>
    obtain ⟨rfl, hp⟩ := hr.permuting
    obtain ⟨rfl, ha⟩ := ih
    exact ⟨rfl, .head hp ha⟩

lemma Ends.permuting (h : R.Ends .ordering c t) :
    (R.Ends .permuting c t ∧ ∀ left, t.outcome = .ok left → left = []) ∨
      ∃ arg d, t = ⟨[], .ok (arg :: d.rest)⟩ ∧ R.Reads .permuting c [.kept arg] [arg] d := by
  cases h with
  | exhausted hc =>
    refine .inl ⟨.exhausted hc, ?_⟩
    rintro left h
    cases h
    rfl
  | @stopped d t events left hc hs =>
    have hn : (R.step .ordering d t).next = .ok none := by rw [hs]
    obtain ⟨_, arg, rfl⟩ := step_stopped hn
    cases hs
    exact .inr ⟨arg, d, rfl, _, _, hc, rfl⟩
  | @refused d t events left e hc hs =>
    obtain ⟨hstep, _⟩ := step_permuting (R := R) (c := d) (t := t) (by simp [hs])
    refine .inl ⟨.refused hc (hstep.trans hs), ?_⟩
    intro left h
    cases h

lemma literal_of_kept {arg : String} (h : R.Reads .permuting c [.kept arg] [arg] d) :
    d.literal = c.literal := by
  have hcount := h.literal
  cases hc : c.literal <;> cases hd : d.literal <;> simp [hc, hd] at hcount ⊢

lemma trace_permuting_cases (R : Registry) (args : List String) :
    let t := R.trace .ordering ⟨args, false⟩
    (R.trace .permuting ⟨args, false⟩ = t ∧ ∀ left, t.outcome = .ok left → left = []) ∨
      ∃ arg rest, t.outcome = .ok (arg :: rest) ∧ R.trace .permuting ⟨args, false⟩ =
        (R.trace .permuting ⟨rest, decide (.sentinel ∈ t.events)⟩).after
          (t.events ++ [.kept arg]) [arg] := by
  obtain ⟨events, left, c, u, ha, he⟩ := exists_advances_ends R .ordering ⟨args, false⟩
  obtain ⟨rfl, hp⟩ := ha.permuting
  have hordering := ha.trace
  have hpermuting := hp.trace
  rw [he.trace] at hordering
  rcases he.permuting with ⟨hep, hnil⟩ | ⟨arg, d, rfl, hr⟩
  · left
    rw [hep.trace] at hpermuting
    refine ⟨hpermuting.trans hordering.symm, fun left hleft => hnil left ?_⟩
    rw [hordering] at hleft
    cases ho : u.outcome <;> simp_all [Trace.after, Except.map]
  · right
    -- the positional was literal if the sentinel was before it, and so is what follows
    have hlit : d.literal = decide (.sentinel ∈ events) :=
      (literal_of_kept hr).trans (ha.literal_eq rfl)
    have hevents : (R.trace .ordering ⟨args, false⟩).events = events := by
      rw [hordering]
      simp [Trace.after]
    refine ⟨arg, d.rest, by rw [hordering]; rfl, ?_⟩
    rw [hpermuting, hr.trace, Trace.after_after, hevents, ← hlit]
    rfl

section

variable {args suf : List String} {p : String}

lemma trace_permuting_of_unstopped
    (h : ∀ p suf, (R.trace .ordering ⟨args, false⟩).outcome ≠ .ok (p :: suf)) :
    R.trace .permuting ⟨args, false⟩ = R.trace .ordering ⟨args, false⟩ := by
  rcases R.trace_permuting_cases args with ⟨ht, _⟩ | ⟨arg, rest, hok, _⟩
  · exact ht
  · exact (h arg rest hok).elim

lemma trace_permuting_of_stopped
    (h : (R.trace .ordering ⟨args, false⟩).outcome = .ok (p :: suf)) :
    let t := R.trace .ordering ⟨args, false⟩
    R.trace .permuting ⟨args, false⟩ =
      (R.trace .permuting ⟨suf, decide (.sentinel ∈ t.events)⟩).after (t.events ++ [.kept p]) [p] := by
  rcases R.trace_permuting_cases args with ⟨_, hnil⟩ | ⟨arg, rest, hok, ht⟩
  · cases hnil _ h
  · obtain ⟨rfl, rfl⟩ : arg = p ∧ rest = suf := by simpa using hok.symm.trans h
    exact ht

lemma permuting_of_stopped_literal
    (h : (R.trace .ordering ⟨args, false⟩).outcome = .ok (p :: suf))
    (hs : .sentinel ∈ (R.trace .ordering ⟨args, false⟩).events) :
    (R.trace .permuting ⟨args, false⟩).outcome = .ok (p :: suf) ∧
      (R.trace .permuting ⟨args, false⟩).found = (R.trace .ordering ⟨args, false⟩).found := by
  rw [trace_permuting_of_stopped h, decide_eq_true hs, trace_permuting_literal]
  refine ⟨rfl, ?_⟩
  simp [Trace.found, Trace.after]

lemma permuting_of_stopped
    (h : (R.trace .ordering ⟨args, false⟩).outcome = .ok (p :: suf))
    (hs : .sentinel ∉ (R.trace .ordering ⟨args, false⟩).events) :
    (R.trace .permuting ⟨args, false⟩).outcome =
        (R.trace .permuting ⟨suf, false⟩).outcome.map (p :: ·) ∧
      (R.trace .permuting ⟨args, false⟩).found =
        (R.trace .ordering ⟨args, false⟩).found ++ (R.trace .permuting ⟨suf, false⟩).found := by
  rw [trace_permuting_of_stopped h, decide_eq_false hs]
  refine ⟨rfl, ?_⟩
  simp [Trace.found, Trace.after, List.filterMap_cons]

end

end Registry

namespace Session

/-- What a scan in order does is the beginning of what a permuting scan does, which goes on behind the
positional where the other stopped. -/
theorem execute_ordering_permuting (s : Session) (stored : Bool) (args : List String) :
    let t := s.registry.trace .ordering ⟨args, false⟩
    let u := s.registry.trace .permuting ⟨args, false⟩
    let ordered := s.execute (.scan .ordering stored args)
    let parsed := s.execute (.scan .permuting stored args)
    (∀ e, ordered.2.result = .error e → u = t ∧ parsed = ordered) ∧
    (ordered.2.result = .ok [] → u = t ∧ parsed = ordered) ∧
    (∀ p suf, ordered.2.result = .ok (p :: suf) → .sentinel ∈ ordered.2.log →
      parsed.2.result = .ok (p :: suf) ∧ parsed.1 = ordered.1 ∧
        parsed.2.calls = ordered.2.calls ∧ u.found = t.found) ∧
    (∀ p suf, ordered.2.result = .ok (p :: suf) → .sentinel ∉ ordered.2.log →
      let rest := ordered.1.execute (.scan .permuting stored suf)
      parsed.2.result = rest.2.result.map (p :: ·) ∧ parsed.1 = rest.1 ∧
        parsed.2.calls = ordered.2.calls ++ rest.2.calls ∧
        u.found = t.found ++ (s.registry.trace .permuting ⟨suf, false⟩).found) := by
  intro t u ordered parsed
  have hordered : ordered = (s.storing stored t.found, t.reply) :=
    s.execute_scan_eq stored .ordering args
  have hparsed : parsed = (s.storing stored u.found, u.reply) :=
    s.execute_scan_eq stored .permuting args
  have hsame (h : ∀ p suf, t.outcome ≠ .ok (p :: suf)) : u = t ∧ parsed = ordered := by
    have hu : u = t := Registry.trace_permuting_of_unstopped h
    exact ⟨hu, by rw [hparsed, hordered, hu]⟩
  have hresult : ordered.2.result = t.outcome := by rw [hordered]; rfl
  have hlog : .sentinel ∈ ordered.2.log ↔ .sentinel ∈ t.events := by
    rw [hordered]
    exact Trace.sentinel_mem_log
  rw [hresult, hlog]
  refine ⟨?_, ?_, ?_, ?_⟩
  · intro e h
    exact hsame fun p suf hok => by cases hok.symm.trans h
  · intro h
    exact hsame fun p suf hok => by cases hok.symm.trans h
  · intro p suf h hs
    obtain ⟨hu, hfound⟩ := Registry.permuting_of_stopped_literal h hs
    rw [hparsed, hordered, hfound]
    refine ⟨hu, rfl, ?_, rfl⟩
    simp only [Trace.reply, u, hfound, t]
  · intro p suf h hs rest
    obtain ⟨hu, hfound⟩ := Registry.permuting_of_stopped h hs
    have hrest : rest =
        (s.storing stored u.found, (s.registry.trace .permuting ⟨suf, false⟩).reply) := by
      rw [hfound, storing_append]
      simp only [rest, hordered]
      exact (s.storing stored t.found).execute_scan_eq stored .permuting suf
    rw [hparsed, hordered, hrest]
    refine ⟨hu, rfl, ?_, hfound⟩
    simp only [Trace.reply, u, hfound, List.flatMap_append, t]

theorem execute_ordering_permuting_stopped :
    let R := Registry.ofDeclarations [["-o", "--output FILE"], ["-q"]]
    let s : Session := { registry := R }
    let ended := ["-qo", "--", "--", "-o", "b"]
    let stopped := ["-q", "a", "-o", "b"]
    let ordered (args : List String) := s.execute (.scan .ordering true args)
    let parsed (args : List String) := s.execute (.scan .permuting true args)
    (ordered ended).2.result = .ok ["-o", "b"] ∧ .sentinel ∈ (ordered ended).2.log ∧
    (parsed ended).2.result = .ok ["-o", "b"] ∧ (parsed ended).1 = (ordered ended).1 ∧
    (ordered stopped).2.result = .ok ["a", "-o", "b"] ∧ .sentinel ∉ (ordered stopped).2.log ∧
    (parsed stopped).2.result = .ok ["a"] ∧
    (parsed stopped).1 = ((ordered stopped).1.execute (.scan .permuting true ["-o", "b"])).1 := by
  intro R s ended stopped ordered parsed
  have hresult : (ordered ended).2.result = .ok ["-o", "b"] := by
    simp only [ordered, execute_scan_unrolled]
    rfl
  have hlog : .sentinel ∈ (ordered ended).2.log := by
    simp only [ordered, execute_scan_unrolled]
    decide
  have hresult' : (ordered stopped).2.result = .ok ["a", "-o", "b"] := by
    simp only [ordered, execute_scan_unrolled]
    rfl
  have hlog' : .sentinel ∉ (ordered stopped).2.log := by
    simp only [ordered, execute_scan_unrolled]
    decide
  obtain ⟨_, _, hsame, _⟩ := s.execute_ordering_permuting true ended
  obtain ⟨_, _, _, hrest⟩ := s.execute_ordering_permuting true stopped
  obtain ⟨hparsed, hstore, _⟩ := hsame "-o" ["b"] hresult hlog
  obtain ⟨hparsed', hstore', _⟩ := hrest "a" ["-o", "b"] hresult' hlog'
  have hb : ((ordered stopped).1.execute (.scan .permuting true ["-o", "b"])).2.result = .ok [] := by
    rw [execute_scan_unrolled]
    rfl
  refine ⟨hresult, hlog, hparsed, hstore, hresult', hlog', ?_, hstore'⟩
  exact hparsed'.trans (by rw [hb]; rfl)

end Session

end CommandLine
