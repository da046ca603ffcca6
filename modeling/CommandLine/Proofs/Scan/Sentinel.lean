import CommandLine.Proofs.Scan.LookAhead
import CommandLine.Proofs.Session.Reachable

/-! The sentinel. A scan takes one `--` out at most, and whatever stands behind it is left over as it
is. An argument `--` that a scan meets where it has come to the end of a list is the sentinel,
unless there was one before. -/

namespace CommandLine.Registry

variable {R : Registry} {mode : Mode} {c d : Cursor} {events : List Event} {left : List String}

lemma count_sentinel_step (R : Registry) (mode : Mode) (c : Cursor) (t : Token) :
    (R.step mode c t).events.count .sentinel = (decide (t = .sentinel)).toNat := by
  have hread (r : Reading) : r.step.events.count .sentinel = 0 :=
    List.count_eq_zero.mpr (by simp [Reading.step])
  cases t with
  | sentinel => rfl
  | long name inline => exact hread _
  | cluster letters => exact hread _
  | positional arg => cases mode <;> rfl

lemma Reads.literal (h : R.Reads mode c events left d) :
    c.literal.toNat + events.count .sentinel = d.literal.toNat := by
  obtain ⟨t, e, ht, hs⟩ := h
  obtain ⟨he, hc⟩ := Cursor.literal_next? ht
  have hd : d.literal = e.literal := by
    rcases R.step_cases mode t with rfl | ⟨arg, rfl⟩ | ⟨read, hread, hstep⟩
    · cases hs; rfl
    · cases mode <;> cases hs
      rfl
    · exact hread.literal (Reading.step_eq_iff.mp ((hstep e).symm.trans hs)).1
  have hcount : events.count .sentinel = (decide (t = .sentinel)).toNat := by
    rw [← count_sentinel_step R mode e t, hs]
  rw [hd, he, hcount]
  cases hl : c.literal with
  | true => simp [hc hl]
  | false => simp

lemma Advances.literal (h : R.Advances mode c events left d) :
    c.literal.toNat + events.count .sentinel = d.literal.toNat := by
  induction h with
  | refl c => rfl
  | head hr _ ih =>
    rw [List.count_append, ← Nat.add_assoc, hr.literal, ih]

lemma Ends.count_sentinel {t : Trace} (h : R.Ends mode c t) : t.events.count .sentinel = 0 := by
  cases h with
  | exhausted => rfl
  | @stopped d t events left _ hs =>
    have ht : t ≠ .sentinel := by rintro rfl; cases hs
    simpa [hs, ht] using R.count_sentinel_step mode d t
  | @refused d t events left e _ hs =>
    have ht : t ≠ .sentinel := by rintro rfl; cases hs
    simpa [hs, ht] using R.count_sentinel_step mode d t

lemma count_sentinel_le_one (R : Registry) (mode : Mode) (args : List String) :
    (R.trace mode ⟨args, false⟩).events.count .sentinel ≤ 1 := by
  obtain ⟨events, left, d, t, ha, he⟩ := exists_advances_ends R mode ⟨args, false⟩
  have hlit := ha.literal
  rw [ha.trace, he.trace, Trace.after, List.count_append, he.count_sentinel]
  have hd : d.literal.toNat ≤ 1 := Bool.toNat_le d.literal
  simp only [Bool.toNat_false] at hlit
  omega

lemma advances_literal (R : Registry) (args : List String) :
    R.Advances .permuting ⟨args, true⟩ (args.map .kept) args ⟨[], true⟩ := by
  induction args with
  | nil => exact .refl _
  | cons arg args ih =>
    have hr : R.Reads .permuting ⟨arg :: args, true⟩ [.kept arg] [arg] ⟨args, true⟩ :=
      ⟨.positional arg, ⟨args, true⟩, Cursor.next?_literal arg args, rfl⟩
    exact .head hr ih

lemma reads_sentinel (R : Registry) (mode : Mode) (args : List String) :
    R.Reads mode ⟨"--" :: args, false⟩ [.sentinel] [] ⟨args, true⟩ :=
  ⟨.sentinel, ⟨args, true⟩, Cursor.next?_sentinel args, rfl⟩

lemma trace_exhausted (R : Registry) (mode : Mode) (literal : Bool) :
    R.trace mode ⟨[], literal⟩ = ⟨[], .ok []⟩ :=
  trace_of_next?_eq_none rfl

lemma trace_permuting_literal (R : Registry) (args : List String) :
    R.trace .permuting ⟨args, true⟩ = ⟨args.map .kept, .ok args⟩ := by
  rw [(R.advances_literal args).trace, trace_exhausted]
  simp [Trace.after, Except.map]

lemma trace_ordering_literal (R : Registry) (args : List String) :
    R.trace .ordering ⟨args, true⟩ = ⟨[], .ok args⟩ := by
  cases args with
  | nil => exact R.trace_exhausted _ _
  | cons arg args => exact (Ends.stopped (Cursor.next?_literal arg args) rfl).trace

lemma Advances.literal_eq (h : R.Advances mode c events left d) (hc : c.literal = false) :
    d.literal = decide (.sentinel ∈ events) := by
  have hcount := h.literal
  simp only [hc, Bool.toNat_false, Nat.zero_add] at hcount
  by_cases hs : .sentinel ∈ events
  · have hpos := List.count_pos_iff.mpr hs
    cases hd : d.literal with
    | false => simp only [hd, Bool.toNat_false] at hcount; omega
    | true => simp [hs]
  · have hzero := List.count_eq_zero.mpr hs
    cases hd : d.literal with
    | false => simp [hs]
    | true => simp only [hd, Bool.toNat_true] at hcount; omega

lemma Reads.of_sentinel (h : R.Reads mode c events left d) (hc : c.literal = false)
    (hs : .sentinel ∈ events) : c = ⟨"--" :: d.rest, false⟩ := by
  obtain ⟨t, e, ht, hstep⟩ := h
  have hcount := R.count_sentinel_step mode e t
  obtain rfl : t = .sentinel := by
    by_contra hne
    rw [hstep, decide_eq_false hne] at hcount
    exact List.count_eq_zero.mp hcount hs
  rcases c with ⟨_ | ⟨arg, rest⟩, literal⟩
  · cases ht
  · obtain rfl : literal = false := hc
    rw [Cursor.next?_cons] at ht
    obtain ⟨harg, rfl⟩ := Prod.mk.inj (Option.some.inj ht)
    have htext := Token.text_ofArg arg
    rw [show Token.ofArg arg = .sentinel from harg] at htext
    cases hstep
    rw [← htext]
    rfl

lemma Advances.exists_sentinel (h : R.Advances mode c events left d) (hc : c.literal = false)
    (hs : .sentinel ∈ events) : ∃ events' left' rest,
      .sentinel ∉ events' ∧ R.Advances mode c events' left' ⟨"--" :: rest, false⟩ := by
  induction h with
  | refl c => cases hs
  | @head c d e events events' left left' hr _ ih =>
    by_cases hsr : .sentinel ∈ events
    · exact ⟨[], [], d.rest, by simp, hr.of_sentinel hc hsr ▸ .refl _⟩
    · have hd : d.literal = false := by
        simpa [hsr] using (Advances.head hr (.refl d)).literal_eq hc
      have hs' : .sentinel ∈ events' := (List.mem_append.mp hs).resolve_left hsr
      obtain ⟨events₁, left₁, rest, hs₁, ha⟩ := ih hd hs'
      refine ⟨events ++ events₁, left ++ left₁, rest, ?_, .head hr ha⟩
      exact mt List.mem_append.mp (not_or.mpr ⟨hsr, hs₁⟩)

lemma advances_append_sentinel (pre tail : List String) (hm : mode = .permuting ∨ left = [])
    (h : (R.trace mode ⟨pre, false⟩).outcome = .ok left) :
    R.Advances mode ⟨pre ++ "--" :: tail, false⟩ (R.trace mode ⟨pre, false⟩).events left
      ⟨"--" :: tail, decide (.sentinel ∈ (R.trace mode ⟨pre, false⟩).events)⟩ := by
  obtain ⟨⟨rest, literal⟩, ha, rfl : rest = []⟩ := advances_of_ok hm h
  rw [← ha.literal_eq rfl]
  have hx : ("--" :: tail).head? = some "--" := rfl
  exact ha.append fun _ => .inl hx

lemma trace_permuting_append_sentinel {pre : List String} (tail : List String)
    (h : (R.trace .permuting ⟨pre, false⟩).outcome = .ok left) :
    R.trace .permuting ⟨pre ++ "--" :: tail, false⟩ =
      if .sentinel ∈ (R.trace .permuting ⟨pre, false⟩).events then
        ⟨(R.trace .permuting ⟨pre, false⟩).events ++ ("--" :: tail).map .kept,
          .ok (left ++ "--" :: tail)⟩
      else
        ⟨(R.trace .permuting ⟨pre, false⟩).events ++ .sentinel :: tail.map .kept,
          .ok (left ++ tail)⟩ := by
  rw [(advances_append_sentinel pre tail (.inl rfl) h).trace]
  split_ifs with hs
  · rw [decide_eq_true hs, trace_permuting_literal]
    rfl
  · rw [decide_eq_false hs, (R.reads_sentinel _ tail).trace, trace_permuting_literal]
    rfl

lemma trace_ordering_append_sentinel {pre : List String} (tail : List String)
    (h : (R.trace .ordering ⟨pre, false⟩).outcome = .ok [])
    (hs : .sentinel ∉ (R.trace .ordering ⟨pre, false⟩).events) :
    R.trace .ordering ⟨pre ++ "--" :: tail, false⟩ =
      ⟨(R.trace .ordering ⟨pre, false⟩).events ++ [.sentinel], .ok tail⟩ := by
  rw [(advances_append_sentinel pre tail (.inr rfl) h).trace, decide_eq_false hs,
    (R.reads_sentinel _ tail).trace, trace_ordering_literal]
  rfl

theorem trace_append_sentinel (R : Registry) (pre tail : List String) :
    (∀ left,
      let t := R.trace .permuting ⟨pre, false⟩
      let u := R.trace .permuting ⟨pre ++ "--" :: tail, false⟩
      t.outcome = .ok left →
        u.found = t.found ∧
        u.outcome = .ok (left ++ if .sentinel ∈ t.events then "--" :: tail else tail)) ∧
    (let t := R.trace .ordering ⟨pre, false⟩
      let u := R.trace .ordering ⟨pre ++ "--" :: tail, false⟩
      t.outcome = .ok [] → .sentinel ∉ t.events → u.found = t.found ∧ u.outcome = .ok tail) ∧
    ∀ mode args, (R.trace mode ⟨args, false⟩).events.count .sentinel ≤ 1 := by
  refine ⟨?_, ?_, R.count_sentinel_le_one⟩
  · intro left t u ht
    simp only [u, trace_permuting_append_sentinel tail ht]
    split_ifs with hs
    · exact ⟨by simp [t, Trace.found], rfl⟩
    · exact ⟨by simp [t, Trace.found], rfl⟩
  · intro t u ht hs
    have hu : u = ⟨t.events ++ [.sentinel], .ok tail⟩ := trace_ordering_append_sentinel tail ht hs
    rw [hu]
    exact ⟨by simp [Trace.found], rfl⟩

theorem trace_append_sentinel_twice :
    let R := ofDeclarations [["-o", "--output FILE"], ["-q"]]
    let pre := ["a", "-q", "--", "-q"]
    let pre' := ["-qo", "--"]
    (R.trace .permuting ⟨pre, false⟩).outcome = .ok ["a", "-q"] ∧
    .sentinel ∈ (R.trace .permuting ⟨pre, false⟩).events ∧
    (R.trace .permuting ⟨pre ++ "--" :: ["-q"], false⟩).outcome = .ok ["a", "-q", "--", "-q"] ∧
    (R.trace .permuting ⟨pre ++ "--" :: ["-q"], false⟩).found =
      (R.trace .permuting ⟨pre, false⟩).found ∧
    (R.trace .ordering ⟨pre', false⟩).outcome = .ok [] ∧
    .sentinel ∉ (R.trace .ordering ⟨pre', false⟩).events ∧
    (R.trace .ordering ⟨pre' ++ "--" :: ["-q", "--"], false⟩).outcome = .ok ["-q", "--"] := by
  intro R pre pre'
  have hleft : (R.trace .permuting ⟨pre, false⟩).outcome = .ok ["a", "-q"] := by
    rw [R.trace_unrolled]
    rfl
  have hs : .sentinel ∈ (R.trace .permuting ⟨pre, false⟩).events := by
    rw [R.trace_unrolled]
    decide
  have hend : (R.trace .ordering ⟨pre', false⟩).outcome = .ok [] := by
    rw [R.trace_unrolled]
    rfl
  have hs' : .sentinel ∉ (R.trace .ordering ⟨pre', false⟩).events := by
    rw [R.trace_unrolled]
    decide
  obtain ⟨hfound, hu⟩ := (R.trace_append_sentinel pre ["-q"]).1 _ hleft
  obtain ⟨_, hu'⟩ := (R.trace_append_sentinel pre' ["-q", "--"]).2.1 hend hs'
  rw [if_pos hs] at hu
  exact ⟨hleft, hs, hu, hfound, hend, hs', hu'⟩

end CommandLine.Registry
