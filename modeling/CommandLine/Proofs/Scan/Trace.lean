import CommandLine.Proofs.Argument.Cursor
import CommandLine.Scan.Basic
import Mathlib.Data.List.Basic

/-! The trace of a scan: its events in order, and how it ends. Every observer sees the trace and
nothing else. A scan reads one token after the other, going on from place to place, until it ends. -/

namespace CommandLine

structure Trace where
  events : List Event
  outcome : Except Error (List String)

namespace Event

def match? : Event → Option Match
  | matched m => some m
  | _ => none

def kept? : Event → Option String
  | kept arg => some arg
  | _ => none

@[simp] lemma match?_sentinel : match? sentinel = none := rfl
@[simp] lemma match?_matched (m : Match) : match? (matched m) = some m := rfl
@[simp] lemma match?_kept (arg : String) : match? (kept arg) = none := rfl
@[simp] lemma kept?_sentinel : kept? sentinel = none := rfl
@[simp] lemma kept?_matched (m : Match) : kept? (matched m) = none := rfl
@[simp] lemma kept?_kept (arg : String) : kept? (kept arg) = some arg := rfl

end Event

namespace Trace

def found (t : Trace) : List Match := t.events.filterMap Event.match?

lemma mem_found {t : Trace} {m : Match} : m ∈ t.found ↔ .matched m ∈ t.events := by
  simp only [found, List.mem_filterMap]
  constructor
  · rintro ⟨e, he, hm⟩
    cases e with
    | sentinel => cases hm
    | matched n => cases hm; exact he
    | kept arg => cases hm
  · intro h
    exact ⟨_, h, rfl⟩

def after (events : List Event) (left : List String) (t : Trace) : Trace :=
  ⟨events ++ t.events, t.outcome.map (left ++ ·)⟩

@[simp] lemma after_nil (t : Trace) : t.after [] [] = t := by
  rcases t with ⟨events, _ | left⟩ <;> rfl

lemma after_after (events events' : List Event) (left left' : List String) (t : Trace) :
    (t.after events' left').after events left = t.after (events ++ events') (left ++ left') := by
  rcases t with ⟨_, _ | _⟩ <;> simp [after, Except.map]

@[simp] lemma found_after (events : List Event) (left : List String) (t : Trace) :
    (t.after events left).found = events.filterMap Event.match? ++ t.found :=
  List.filterMap_append

end Trace

def Step.trace (next : Cursor → Trace) (s : Step) : Trace :=
  match s.next with
  | .error e => ⟨s.events, .error e⟩
  | .ok none => ⟨s.events, .ok s.left⟩
  | .ok (some c) => (next c).after s.events s.left

namespace Registry

def trace (R : Registry) (mode : Mode) (c : Cursor) : Trace :=
  let (events, outcome) := R.scan mode (fun events e => events ++ [e]) c []
  ⟨events, outcome⟩

variable {R : Registry} {mode : Mode} {c d : Cursor}

lemma scan_induction (R : Registry) (mode : Mode) {P : Cursor → Prop}
    (h : ∀ c, (∀ t d e, c.next? = some (t, d) → (R.step mode d t).next = .ok (some e) → P e) → P c)
    (c : Cursor) : P c := by
  induction hn : c.rest.length using Nat.strongRecOn generalizing c with
  | ind n ih =>
    refine h c fun t d e ht he => ih _ ?_ e rfl
    obtain ⟨arg, hc⟩ := Cursor.rest_of_next? ht
    have hd := length_step_le he
    simp only [hc, List.length_cons] at hn
    omega

lemma scan_eq_foldl (R : Registry) (mode : Mode) (c : Cursor) :
    ∃ t : Trace, ∀ {σ : Type} (report : σ → Event → σ) (s : σ),
      R.scan mode report c s = (t.events.foldl report s, t.outcome) := by
  induction c using scan_induction R mode with
  | h c ih =>
    cases ht : c.next? with
    | none => exact ⟨⟨[], .ok []⟩, fun report s => scan_of_next?_eq_none s ht⟩
    | some p =>
      obtain ⟨t, d⟩ := p
      cases hn : (R.step mode d t).next with
      | error e =>
        refine ⟨⟨(R.step mode d t).events, .error e⟩, fun report s => ?_⟩
        simp only [scan_of_next?_eq_some s ht, hn]
      | ok o =>
        cases o with
        | none =>
          refine ⟨⟨(R.step mode d t).events, .ok (R.step mode d t).left⟩, fun report s => ?_⟩
          simp only [scan_of_next?_eq_some s ht, hn]
        | some e =>
          obtain ⟨u, hu⟩ := ih t d e ht hn
          refine ⟨u.after (R.step mode d t).events (R.step mode d t).left, fun report s => ?_⟩
          simp only [scan_of_next?_eq_some s ht, hn, hu, Trace.after, List.foldl_append, Prod.map, id]

lemma foldl_concat (events events' : List Event) :
    events'.foldl (fun events e => events ++ [e]) events = events ++ events' := by
  simp [← List.flatMap_def]

lemma scan_eq_trace {σ : Type} (R : Registry) (mode : Mode) (report : σ → Event → σ) (c : Cursor)
    (s : σ) :
    R.scan mode report c s = ((R.trace mode c).events.foldl report s, (R.trace mode c).outcome) := by
  obtain ⟨t, ht⟩ := R.scan_eq_foldl mode c
  have heq : R.trace mode c = t := by simp only [trace, ht, foldl_concat, List.nil_append]
  rw [heq, ht]

lemma trace_of_next?_eq_none (h : c.next? = none) : R.trace mode c = ⟨[], .ok []⟩ := by
  simp only [trace, scan_of_next?_eq_none _ h]

lemma trace_of_next?_eq_some {t : Token} (h : c.next? = some (t, d)) :
    R.trace mode c = (R.step mode d t).trace (R.trace mode) := by
  simp only [trace, scan_of_next?_eq_some _ h, Step.trace]
  cases (R.step mode d t).next with
  | error e => simp only [foldl_concat, List.nil_append]
  | ok o =>
    cases o with
    | none => simp only [foldl_concat, List.nil_append]
    | some e => simp only [scan_eq_trace, foldl_concat, Trace.after, Prod.map, id, List.nil_append]

/-- The trace by recursion on a bound for the number of tokens, by which it can be computed. -/
def unrolled (R : Registry) (mode : Mode) : ℕ → Cursor → Trace
  | 0, _ => ⟨[], .ok []⟩
  | n + 1, c =>
    match c.next? with
    | none => ⟨[], .ok []⟩
    | some (t, d) => (R.step mode d t).trace (R.unrolled mode n)

lemma trace_eq_unrolled {n : ℕ} (h : c.rest.length ≤ n) : R.trace mode c = R.unrolled mode n c := by
  induction n generalizing c with
  | zero =>
    apply trace_of_next?_eq_none
    exact Cursor.next?_eq_none.mpr (List.length_eq_zero_iff.mp (Nat.le_zero.mp h))
  | succ n ih =>
    rw [unrolled]
    cases hc : c.next? with
    | none => exact trace_of_next?_eq_none hc
    | some p =>
      obtain ⟨t, d⟩ := p
      rw [trace_of_next?_eq_some hc]
      obtain ⟨arg, hrest⟩ := Cursor.rest_of_next? hc
      cases hn : (R.step mode d t).next with
      | error e => simp only [Step.trace, hn]
      | ok o =>
        cases o with
        | none => simp only [Step.trace, hn]
        | some e =>
          have hd := length_step_le hn
          simp only [hrest, List.length_cons] at h
          simp only [Step.trace, hn, ih (c := e) (by omega)]

lemma trace_unrolled (R : Registry) (mode : Mode) (args : List String) :
    R.trace mode ⟨args, false⟩ = R.unrolled mode args.length ⟨args, false⟩ :=
  trace_eq_unrolled le_rfl

def Reads (R : Registry) (mode : Mode) (c : Cursor) (events : List Event) (left : List String)
    (d : Cursor) : Prop :=
  ∃ t e, c.next? = some (t, e) ∧ R.step mode e t = ⟨events, left, .ok (some d)⟩

inductive Advances (R : Registry) (mode : Mode) :
    Cursor → List Event → List String → Cursor → Prop
  | refl (c : Cursor) : Advances R mode c [] [] c
  | head {c d e : Cursor} {events events' : List Event} {left left' : List String} :
      R.Reads mode c events left d → Advances R mode d events' left' e →
      Advances R mode c (events ++ events') (left ++ left') e

inductive Ends (R : Registry) (mode : Mode) : Cursor → Trace → Prop
  | exhausted {c : Cursor} : c.next? = none → Ends R mode c ⟨[], .ok []⟩
  | stopped {c d : Cursor} {t : Token} {events : List Event} {left : List String} :
      c.next? = some (t, d) → R.step mode d t = ⟨events, left, .ok none⟩ →
      Ends R mode c ⟨events, .ok left⟩
  | refused {c d : Cursor} {t : Token} {events : List Event} {left : List String} {e : Error} :
      c.next? = some (t, d) → R.step mode d t = ⟨events, left, .error e⟩ →
      Ends R mode c ⟨events, .error e⟩

variable {e : Cursor} {events events' : List Event} {left left' : List String} {t : Trace}

lemma Reads.trace (h : R.Reads mode c events left d) :
    R.trace mode c = (R.trace mode d).after events left := by
  obtain ⟨t, e, ht, hs⟩ := h
  simp only [trace_of_next?_eq_some ht, hs, Step.trace]

lemma Advances.trace (h : R.Advances mode c events left d) :
    R.trace mode c = (R.trace mode d).after events left := by
  induction h with
  | refl c => exact (Trace.after_nil _).symm
  | head hr _ ih => rw [hr.trace, ih, Trace.after_after]

lemma Ends.trace (h : R.Ends mode c t) : R.trace mode c = t := by
  cases h with
  | exhausted hc => exact trace_of_next?_eq_none hc
  | stopped hc hs => simp only [trace_of_next?_eq_some hc, hs, Step.trace]
  | refused hc hs => simp only [trace_of_next?_eq_some hc, hs, Step.trace]

lemma exists_advances_ends (R : Registry) (mode : Mode) (c : Cursor) :
    ∃ events left d t, R.Advances mode c events left d ∧ R.Ends mode d t := by
  induction c using scan_induction R mode with
  | h c ih =>
    cases hc : c.next? with
    | none => exact ⟨[], [], c, _, .refl c, .exhausted hc⟩
    | some p =>
      obtain ⟨t, d⟩ := p
      cases hn : (R.step mode d t).next with
      | error e => exact ⟨[], [], c, _, .refl c, .refused hc (by rw [← hn])⟩
      | ok o =>
        cases o with
        | none => exact ⟨[], [], c, _, .refl c, .stopped hc (by rw [← hn])⟩
        | some e =>
          obtain ⟨events, left, f, u, ha, he⟩ := ih t d e hc hn
          exact ⟨_, _, f, u, .head ⟨t, d, hc, by rw [← hn]⟩ ha, he⟩

lemma step_stopped {t : Token} (h : (R.step mode c t).next = .ok none) :
    mode = .ordering ∧ ∃ arg, t = .positional arg := by
  have hr (r : Reading) : r.step.next ≠ .ok none := by
    cases hr : r.outcome <;> simp [Reading.step, hr, Except.map]
  cases t with
  | sentinel => cases h
  | long name inline => exact (hr _ h).elim
  | cluster letters => exact (hr _ h).elim
  | positional arg =>
    cases mode with
    | permuting => cases h
    | ordering => exact ⟨rfl, arg, rfl⟩

lemma advances_of_ok (hm : mode = .permuting ∨ left = []) (h : (R.trace mode c).outcome = .ok left) :
    ∃ d, R.Advances mode c (R.trace mode c).events left d ∧ d.rest = [] := by
  obtain ⟨events, left', d, t, ha, he⟩ := exists_advances_ends R mode c
  rw [ha.trace, he.trace] at h ⊢
  cases he with
  | exhausted hd =>
    have hl : left' = left := by simpa [Trace.after, Except.map] using h
    exact ⟨d, by simpa [Trace.after, hl] using ha, Cursor.next?_eq_none.mp hd⟩
  | @stopped e t _ left'' hd hs =>
    have hn : (R.step mode e t).next = .ok none := by rw [hs]
    obtain ⟨rfl, arg, rfl⟩ := step_stopped hn
    have hl : left' ++ left'' = left := by simpa [Trace.after, Except.map] using h
    have hne : left'' ≠ [] := by
      have := congrArg Step.left hs
      simp only [step] at this
      simp [← this]
    rcases hm with hm | rfl
    · cases hm
    · simp [hne] at hl
  | refused hd hs => simp [Trace.after, Except.map] at h

lemma kept_step {t : Token} (h : (R.step mode c t).next ≠ .ok none) :
    (R.step mode c t).events.filterMap Event.kept? = (R.step mode c t).left := by
  have hr (r : Reading) : r.step.events.filterMap Event.kept? = r.step.left := by
    simp [Reading.step]
  cases t with
  | sentinel => rfl
  | long name inline => exact hr _
  | cluster letters => exact hr _
  | positional arg =>
    cases mode with
    | permuting => rfl
    | ordering => exact (h rfl).elim

lemma Advances.left_eq (h : R.Advances mode c events left d) :
    left = events.filterMap Event.kept? := by
  induction h with
  | refl c => rfl
  | head hr _ ih =>
    obtain ⟨t, e, _, hs⟩ := hr
    have hk : (R.step mode e t).events.filterMap Event.kept? = (R.step mode e t).left :=
      kept_step (by simp [hs])
    rw [hs] at hk
    rw [List.filterMap_append, hk, ← ih]

end Registry

end CommandLine
