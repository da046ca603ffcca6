import CommandLine.Proofs.Scan.Reading
import CommandLine.Proofs.Scan.Trace

/-! How far a scan looks ahead. What was read of some arguments is read again when more arguments
stand behind them, unless an option looked for its value where they begin. -/

namespace CommandLine

lemma Reading.step_eq_iff {r : Reading} {events : List Event} {left : List String} {d : Cursor} :
    r.step = ⟨events, left, .ok (some d)⟩ ↔
      r.outcome = .ok d ∧ events = r.found.map .matched ∧ left = [] := by
  rcases r with ⟨found, e | c⟩ <;> simp [step, Except.map, eq_comm, and_comm, and_left_comm]

namespace Registry

variable {R : Registry} {mode : Mode} {c d : Cursor} {events : List Event} {left xs : List String}

lemma step_cases (R : Registry) (mode : Mode) (t : Token) :
    t = .sentinel ∨ (∃ arg, t = .positional arg) ∨
      ∃ read, R.Reader read ∧ ∀ c, R.step mode c t = (read c).step := by
  cases t with
  | sentinel => exact .inl rfl
  | positional arg => exact .inr (.inl ⟨arg, rfl⟩)
  | long name inline => exact .inr (.inr ⟨_, R.reader_readLong name inline, fun c => rfl⟩)
  | cluster letters => exact .inr (.inr ⟨_, R.reader_readCluster letters, fun c => rfl⟩)

lemma step_refused {t : Token} {e : Error} (h : R.step mode c t = ⟨events, left, .error e⟩) :
    ∃ read found, R.Reader read ∧ (∀ d, R.step mode d t = (read d).step) ∧
      read c = ⟨found, .error e⟩ ∧ events = found.map .matched ∧ left = [] := by
  rcases R.step_cases mode t with rfl | ⟨arg, rfl⟩ | ⟨read, hread, hstep⟩
  · cases h
  · cases mode <;> cases h
  · rw [hstep] at h
    rcases hr : read c with ⟨found, e' | d⟩
    · rw [hr] at h
      cases h
      exact ⟨read, found, hread, hstep, hr, rfl, rfl⟩
    · rw [hr] at h
      cases h

lemma Reads.length_le (h : R.Reads mode c events left d) : d.rest.length ≤ c.rest.length := by
  obtain ⟨t, e, ht, hs⟩ := h
  obtain ⟨arg, hc⟩ := Cursor.rest_of_next? ht
  have hn : (R.step mode e t).next = .ok (some d) := by rw [hs]
  have hd := length_step_le hn
  simp only [hc, List.length_cons]
  omega

lemma Advances.length_le (h : R.Advances mode c events left d) : d.rest.length ≤ c.rest.length := by
  induction h with
  | refl c => exact Nat.le_refl _
  | head hr _ ih => exact Nat.le_trans ih hr.length_le

lemma Reads.append (h : R.Reads mode c events left d)
    (hx : d.rest = [] → xs.head? = some "--" ∨ ∀ m, .matched m ∈ events → m.value ≠ .absent) :
    R.Reads mode (c.append xs) events left (d.append xs) := by
  obtain ⟨t, e, ht, hs⟩ := h
  refine ⟨t, e.append xs, Cursor.next?_append xs ht, ?_⟩
  rcases R.step_cases mode t with rfl | ⟨arg, rfl⟩ | ⟨read, hread, hstep⟩
  · cases hs; rfl
  · cases mode with
    | permuting => cases hs; rfl
    | ordering => cases hs
  · rw [hstep] at hs ⊢
    obtain ⟨ho, rfl, rfl⟩ := Reading.step_eq_iff.mp hs
    have hf : (read e).Firm xs := by
      simp only [Reading.Firm, ho]
      intro hd
      exact (hx hd).imp_right fun hm m hmem => hm m (List.mem_map_of_mem hmem)
    rw [hread.append hf]
    exact Reading.step_eq_iff.mpr ⟨by simp only [Reading.append, ho, Except.map], rfl, rfl⟩

lemma step_frame {t : Token} (h : R.step mode c t = ⟨events, left, .ok (some d)⟩) :
    ∃ pre, c.rest = pre ++ d.rest ∧ ∀ rest, rest.head? = d.rest.head? →
      R.step mode ⟨pre ++ rest, c.literal⟩ t = ⟨events, left, .ok (some ⟨rest, d.literal⟩)⟩ := by
  rcases R.step_cases mode t with rfl | ⟨arg, rfl⟩ | ⟨read, hread, hstep⟩
  · cases h
    exact ⟨[], rfl, fun rest _ => rfl⟩
  · cases mode with
    | permuting =>
      cases h
      exact ⟨[], rfl, fun rest _ => rfl⟩
    | ordering => cases h
  · rw [hstep] at h
    obtain ⟨ho, rfl, rfl⟩ := Reading.step_eq_iff.mp h
    obtain ⟨pre, hpre, hframe⟩ := hread.frame ho
    refine ⟨pre, hpre, fun rest hrest => ?_⟩
    rw [hstep, hframe rest hrest]
    rfl

lemma Reads.frame (h : R.Reads mode c events left d) :
    ∃ pre, c.rest = pre ++ d.rest ∧ ∀ rest, rest.head? = d.rest.head? →
      R.Reads mode ⟨pre ++ rest, c.literal⟩ events left ⟨rest, d.literal⟩ := by
  obtain ⟨t, e, ht, hs⟩ := h
  obtain ⟨pre, he, hstep⟩ := step_frame hs
  rcases c with ⟨_ | ⟨arg, behind⟩, literal⟩
  · cases ht
  · rw [Cursor.next?_cons] at ht
    obtain ⟨rfl, rfl⟩ := Prod.mk.inj (Option.some.inj ht)
    refine ⟨arg :: pre, congrArg (arg :: ·) he, fun rest hrest => ?_⟩
    exact ⟨_, _, Cursor.next?_cons _ _ _, hstep rest hrest⟩

lemma Advances.frame (h : R.Advances mode c events left d) :
    ∃ pre, c.rest = pre ++ d.rest ∧ ∀ rest, rest.head? = d.rest.head? →
      R.Advances mode ⟨pre ++ rest, c.literal⟩ events left ⟨rest, d.literal⟩ := by
  induction h with
  | refl c => exact ⟨[], rfl, fun rest _ => .refl _⟩
  | @head c d f events events' left left' hr _ ih =>
    obtain ⟨pre, hc, hread⟩ := hr.frame
    obtain ⟨pre', hd, hadvance⟩ := ih
    refine ⟨pre ++ pre', by rw [hc, hd, List.append_assoc], fun rest hrest => ?_⟩
    have hhead : (pre' ++ rest).head? = d.rest.head? := by
      rw [hd, List.head?_append, List.head?_append, hrest]
    rw [List.append_assoc]
    exact .head (hread _ hhead) (hadvance rest hrest)

lemma Advances.append (h : R.Advances mode c events left d)
    (hx : d.rest = [] → xs.head? = some "--" ∨ ∀ m, .matched m ∈ events → m.value ≠ .absent) :
    R.Advances mode (c.append xs) events left (d.append xs) := by
  induction h with
  | refl c => exact .refl _
  | @head c d f events events' left left' hr ha ih =>
    -- an optional value that is missing before `--` was missing at the end as well
    have hshort : d.rest = [] → f.rest = [] := fun hd => by
      have := ha.length_le
      simpa [hd] using this
    refine .head (hr.append fun hd => ?_) (ih fun hf => ?_)
    · exact (hx (hshort hd)).imp_right fun hm m hmem => hm m (List.mem_append_left _ hmem)
    · exact (hx hf).imp_right fun hm m hmem => hm m (List.mem_append_right _ hmem)

end Registry

end CommandLine
