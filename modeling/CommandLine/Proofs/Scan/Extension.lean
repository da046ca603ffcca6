import CommandLine.Proofs.Scan.LookAhead

/-! Registries that understand more than another. What the other reads they read in the same way; only
where the other refuses an option may they go on. So a scan that is not refused is the same by both. -/

namespace CommandLine

variable {refused : Error → Prop}

def Reading.ExtendedBy (r : Reading) (refused : Error → Prop) (r' : Reading) : Prop :=
  r' = r ∨ (r.found <+: r'.found ∧ ∃ e, refused e ∧ r.outcome = .error e)

lemma Reading.ExtendedBy.cons {r r' : Reading} (h : r.ExtendedBy refused r') (m : Match) :
    (r.cons m).ExtendedBy refused (r'.cons m) := by
  rcases h with rfl | ⟨hp, he⟩
  · exact .inl rfl
  · exact .inr ⟨(List.prefix_append_right_inj [m]).mpr hp, he⟩

lemma Step.events_prefix_trace (s : Step) (next : Cursor → Trace) :
    s.events <+: (s.trace next).events := by
  rcases s with ⟨events, left, e | _ | c⟩
  · exact List.prefix_refl _
  · exact List.prefix_refl _
  · exact List.prefix_append _ _

namespace Registry

structure ExtendedBy (R : Registry) (refused : Error → Prop) (R' : Registry) : Prop where
  short : ∀ letter, R'.findShort? letter = R.findShort? letter ∨
    (R.findShort? letter = none ∧ refused (.invalidOption (Name.short letter).label))
  long : ∀ name, R'.resolve name = R.resolve name ∨ ∃ e, refused e ∧ R.resolve name = .error e

variable {R R' : Registry} {mode : Mode} {c d : Cursor} {events : List Event} {left : List String}
  {t : Trace}

lemma ExtendedBy.readLong (h : R.ExtendedBy refused R') (name : String) (inline : Option String)
    (c : Cursor) : (R.readLong name inline c).ExtendedBy refused (R'.readLong name inline c) := by
  rcases h.long name with hr | ⟨e, he, hr⟩
  · left
    simp only [Registry.readLong, hr]
  · right
    simp only [Registry.readLong, hr]
    exact ⟨List.nil_prefix, e, he, rfl⟩

lemma ExtendedBy.readCluster (h : R.ExtendedBy refused R') (letters : List Char) (c : Cursor) :
    (R.readCluster letters c).ExtendedBy refused (R'.readCluster letters c) := by
  induction letters with
  | nil => exact .inl rfl
  | cons letter letters ih =>
    rcases h.short letter with hs | ⟨hs, he⟩
    · cases hf : R.findShort? letter with
      | none =>
        rw [readCluster_of_undeclared letters c hf, readCluster_of_undeclared letters c (hs.trans hf)]
        exact .inl rfl
      | some slot =>
        by_cases hn : slot.switch.arity = .noValue
        · rw [readCluster_of_noValue letters c hf hn,
            readCluster_of_noValue letters c (hs.trans hf) hn]
          exact ih.cons _
        · rw [readCluster_of_value letters c hf hn, readCluster_of_value letters c (hs.trans hf) hn]
          exact .inl rfl
    · rw [readCluster_of_undeclared letters c hs]
      exact .inr ⟨List.nil_prefix, _, he, rfl⟩

lemma ExtendedBy.step (h : R.ExtendedBy refused R') (mode : Mode) (c : Cursor) (token : Token) :
    R'.step mode c token = R.step mode c token ∨
      ((R.step mode c token).events <+: (R'.step mode c token).events ∧
        ∃ e, refused e ∧ (R.step mode c token).next = .error e) := by
  have hread {r r' : Reading} (hr : r.ExtendedBy refused r') : r'.step = r.step ∨
      (r.step.events <+: r'.step.events ∧ ∃ e, refused e ∧ r.step.next = .error e) := by
    rcases hr with rfl | ⟨hp, e, he, ho⟩
    · exact .inl rfl
    · exact .inr ⟨hp.map _, e, he, by simp [Reading.step, ho, Except.map]⟩
  cases token with
  | sentinel => exact .inl rfl
  | long name inline => exact hread (h.readLong name inline c)
  | cluster letters => exact hread (h.readCluster letters c)
  | positional arg => exact .inl rfl

lemma Reads.extended (h : R.ExtendedBy refused R') (hr : R.Reads mode c events left d) :
    R'.Reads mode c events left d := by
  obtain ⟨token, e, hc, hs⟩ := hr
  refine ⟨token, e, hc, ?_⟩
  rcases h.step mode e token with heq | ⟨_, _, _, hn⟩
  · exact heq.trans hs
  · rw [hs] at hn
    cases hn

lemma Advances.extended (h : R.ExtendedBy refused R') (ha : R.Advances mode c events left d) :
    R'.Advances mode c events left d := by
  induction ha with
  | refl c => exact .refl c
  | head hr _ ih => exact .head (hr.extended h) ih

lemma Ends.extended (h : R.ExtendedBy refused R') (he : R.Ends mode c t) :
    R'.Ends mode c t ∨
      (t.events <+: (R'.trace mode c).events ∧ ∃ e, refused e ∧ t.outcome = .error e) := by
  cases he with
  | exhausted hc => exact .inl (.exhausted hc)
  | @stopped d token events left hc hs =>
    rcases h.step mode d token with heq | ⟨_, _, _, hn⟩
    · exact .inl (.stopped hc (heq.trans hs))
    · rw [hs] at hn
      cases hn
  | @refused d token events left e hc hs =>
    rcases h.step mode d token with heq | ⟨hp, e', he, hn⟩
    · exact .inl (.refused hc (heq.trans hs))
    · right
      rw [hs] at hp hn
      obtain rfl : e = e' := Except.error.inj hn
      rw [trace_of_next?_eq_some hc]
      exact ⟨hp.trans (Step.events_prefix_trace _ _), e, he, rfl⟩

lemma ExtendedBy.trace (h : R.ExtendedBy refused R') (mode : Mode) (c : Cursor) :
    R'.trace mode c = R.trace mode c ∨
      ((R.trace mode c).events <+: (R'.trace mode c).events ∧
        ∃ e, refused e ∧ (R.trace mode c).outcome = .error e) := by
  obtain ⟨events, left, d, t, ha, he⟩ := exists_advances_ends R mode c
  rw [ha.trace, (ha.extended h).trace, he.trace]
  rcases he.extended h with he' | ⟨hp, e, hrefused, ho⟩
  · left
    rw [he'.trace]
  · right
    refine ⟨(List.prefix_append_right_inj events).mpr hp, e, hrefused, ?_⟩
    simp only [Trace.after, ho, Except.map]

lemma ExtendedBy.found_prefix (h : R.ExtendedBy refused R') (mode : Mode) (c : Cursor) :
    (R.trace mode c).found <+: (R'.trace mode c).found := by
  rcases h.trace mode c with heq | ⟨hp, _⟩
  · rw [heq]
  · exact hp.filterMap _

lemma ExtendedBy.trace_eq (h : R.ExtendedBy refused R')
    (hr : ∀ e, refused e → (R.trace mode c).outcome ≠ .error e) :
    R'.trace mode c = R.trace mode c := by
  rcases h.trace mode c with heq | ⟨_, e, he, ho⟩
  · exact heq
  · exact (hr e he ho).elim

end Registry

end CommandLine
