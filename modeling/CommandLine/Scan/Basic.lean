import CommandLine.Scan.Reading

/-! A scan of a command line from front to back. It reports what happens to an observer, whose
state it threads through, and ends with the arguments that are left or with an error; what was
reported before an error stays reported. -/

namespace CommandLine

inductive Mode
  | permuting
  | ordering
  deriving DecidableEq, Repr

inductive Event
  | sentinel
  | matched (m : Match)
  | kept (arg : String)
  deriving DecidableEq, Repr

structure Step where
  events : List Event
  left : List String
  next : Except Error (Option Cursor)

def Reading.step (r : Reading) : Step :=
  ⟨r.found.map .matched, [], r.outcome.map some⟩

theorem Reading.outcome_of_step {r : Reading} {c : Cursor} (h : r.step.next = .ok (some c)) :
    r.outcome = .ok c := by
  cases hr : r.outcome with
  | error e => simp [step, hr, Except.map] at h
  | ok d => simpa [step, hr, Except.map] using h

namespace Registry

def step (R : Registry) (mode : Mode) (c : Cursor) : Token → Step
  | .sentinel => ⟨[.sentinel], [], .ok (some c)⟩
  | .long name inline => (R.readLong name inline c).step
  | .cluster letters => (R.readCluster letters c).step
  | .positional arg =>
    match mode with
    | .permuting => ⟨[.kept arg], [arg], .ok (some c)⟩
    | .ordering => ⟨[], arg :: c.rest, .ok none⟩

theorem length_step_le {R : Registry} {mode : Mode} {c d : Cursor} {t : Token}
    (h : (R.step mode c t).next = .ok (some d)) : d.rest.length ≤ c.rest.length := by
  cases t with
  | sentinel => cases h; exact Nat.le_refl _
  | long name inline => exact length_readLong_le (Reading.outcome_of_step h)
  | cluster letters => exact length_readCluster_le (Reading.outcome_of_step h)
  | positional arg => cases mode <;> cases h; exact Nat.le_refl _

def scan {σ : Type} (R : Registry) (mode : Mode) (report : σ → Event → σ) (c : Cursor) (s : σ) :
    σ × Except Error (List String) :=
  match _ : c.next? with
  | none => (s, .ok [])
  | some (t, d) =>
    let s := (R.step mode d t).events.foldl report s
    match _ : (R.step mode d t).next with
    | .error e => (s, .error e)
    | .ok none => (s, .ok (R.step mode d t).left)
    | .ok (some e) =>
      let (s, outcome) := R.scan mode report e s
      (s, outcome.map ((R.step mode d t).left ++ ·))
termination_by c.rest.length
decreasing_by
  obtain ⟨arg, h⟩ := Cursor.rest_of_next? ‹c.next? = _›
  have := length_step_le ‹_ = Except.ok (some e)›
  simp only [h, List.length_cons]
  omega

section

variable {σ : Type} {R : Registry} {mode : Mode} {report : σ → Event → σ} {c d : Cursor} {t : Token}

theorem scan_of_next?_eq_none (s : σ) (h : c.next? = none) :
    R.scan mode report c s = (s, .ok []) := by
  rw [scan]
  split
  · rfl
  · simp_all

theorem scan_of_next?_eq_some (s : σ) (h : c.next? = some (t, d)) :
    R.scan mode report c s =
      match (R.step mode d t).next with
      | .error e => ((R.step mode d t).events.foldl report s, .error e)
      | .ok none => ((R.step mode d t).events.foldl report s, .ok (R.step mode d t).left)
      | .ok (some e) =>
        (R.scan mode report e ((R.step mode d t).events.foldl report s)).map id
          (·.map ((R.step mode d t).left ++ ·)) := by
  rw [scan]
  split
  · simp_all
  · rename_i h'
    cases h.symm.trans h'
    split <;> simp_all [Prod.map]

end

end Registry

end CommandLine
