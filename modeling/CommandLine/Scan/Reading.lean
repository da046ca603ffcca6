import CommandLine.Argument.Cursor
import CommandLine.Registry.Resolution

namespace CommandLine

structure Match where
  slot : Slot
  value : Value
  deriving DecidableEq, Repr

structure Reading where
  found : List Match
  outcome : Except Error Cursor

namespace Arity

/-- The value of an option: a flag where none is taken, else the text given with the option, else
the next argument. -/
def capture (arity : Arity) (label : String) (negated : Bool) (inline : Option String)
    (c : Cursor) : Except Error (Value × Cursor) :=
  match arity, inline with
  | noValue, none => .ok (.flag !negated, c)
  | noValue, some v => .error (.needlessArgument (label ++ "=" ++ v))
  | optional, some v => .ok (.text v, c)
  | optional, none =>
    match c.optionalValue? with
    | some (v, c) => .ok (.text v, c)
    | none => .ok (.absent, c)
  | required, some v => .ok (.text v, c)
  | required, none =>
    match c.value? with
    | some (v, c) => .ok (.text v, c)
    | none => .error (.missingArgument label)

end Arity

namespace Reading

def single (slot : Slot) : Except Error (Value × Cursor) → Reading
  | .ok (value, c) => ⟨[⟨slot, value⟩], .ok c⟩
  | .error e => ⟨[], .error e⟩

def cons (m : Match) (r : Reading) : Reading :=
  ⟨m :: r.found, r.outcome⟩

end Reading

namespace Resolution

def label (r : Resolution) : String :=
  if r.negated then r.slot.switch.negatedLabel else r.slot.switch.label

end Resolution

namespace Registry

def readLong (R : Registry) (name : String) (inline : Option String) (c : Cursor) : Reading :=
  match R.resolve name with
  | .error e => ⟨[], .error e⟩
  | .ok r => .single r.slot (r.slot.switch.arity.capture r.label r.negated inline c)

/-- A switch that takes a value takes the rest of its cluster, if there is any. -/
def readCluster (R : Registry) : List Char → Cursor → Reading
  | [], c => ⟨[], .ok c⟩
  | letter :: letters, c =>
    let label := (Name.short letter).label
    match R.findShort? letter with
    | none => ⟨[], .error (.invalidOption label)⟩
    | some slot =>
      if slot.switch.arity = .noValue then .cons ⟨slot, .flag true⟩ (R.readCluster letters c)
      else
        let inline := if letters.isEmpty then none else some (String.ofList letters)
        .single slot (slot.switch.arity.capture label false inline c)

end Registry

theorem Arity.length_capture_le {arity : Arity} {label : String} {negated : Bool}
    {inline : Option String} {c d : Cursor} {v : Value}
    (h : arity.capture label negated inline c = .ok (v, d)) : d.rest.length ≤ c.rest.length := by
  unfold capture at h
  split at h
  · cases h; exact Nat.le_refl _
  · cases h
  · cases h; exact Nat.le_refl _
  · split at h <;> cases h
    · rename_i hv
      simp [Cursor.rest_of_optionalValue? hv]
    · exact Nat.le_refl _
  · cases h; exact Nat.le_refl _
  · split at h <;> cases h
    rename_i hv
    simp [Cursor.rest_of_value? hv]

theorem Reading.length_single_le {slot : Slot} {r : Except Error (Value × Cursor)} {c d : Cursor}
    (hr : ∀ v e, r = .ok (v, e) → e.rest.length ≤ c.rest.length)
    (h : (Reading.single slot r).outcome = .ok d) : d.rest.length ≤ c.rest.length := by
  unfold single at h
  split at h <;> cases h
  exact hr _ _ rfl

namespace Registry

theorem length_readLong_le {R : Registry} {name : String} {inline : Option String} {c d : Cursor}
    (h : (R.readLong name inline c).outcome = .ok d) : d.rest.length ≤ c.rest.length := by
  unfold readLong at h
  split at h
  · cases h
  · exact Reading.length_single_le (fun _ _ => Arity.length_capture_le) h

theorem length_readCluster_le {R : Registry} {letters : List Char} {c d : Cursor}
    (h : (R.readCluster letters c).outcome = .ok d) : d.rest.length ≤ c.rest.length := by
  induction letters with
  | nil => cases h; exact Nat.le_refl _
  | cons letter letters ih =>
    unfold readCluster at h
    split at h
    · cases h
    · split at h
      · exact ih h
      · exact Reading.length_single_le (fun _ _ => Arity.length_capture_le) h

end Registry

end CommandLine
