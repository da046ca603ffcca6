import CommandLine.Proofs.Registry.Lookup
import CommandLine.Proofs.Switch.WellFormed
import CommandLine.Registry.Resolution

/-! What declarations and look-ups take for granted. A strict definition stands beside each that does:
it ends in a fault where an entry, a name or a boundary between characters is not where it is expected,
and keeps apart what is found from the place where it was found. None ends in a fault. -/

namespace CommandLine

inductive Fault
  | noEntry (index : ℕ)
  | noSwitch (index : ℕ)
  | noLongName
  | noName
  | splitCharacter (text : String) (offset : ℕ)
  | unread (args : List String)
  deriving DecidableEq, Repr

namespace Text

def strictSlice (text : String) (offset : ℕ) : Except Fault String :=
  if h : (String.Pos.Raw.mk offset).IsValid text then .ok (text.sliceFrom ⟨⟨offset⟩, h⟩).copy
  else .error (.splitCharacter text offset)

lemma strictSlice_append (before behind : String) :
    strictSlice (before ++ behind) before.utf8ByteSize = .ok behind := by
  have hv : (String.Pos.Raw.mk before.utf8ByteSize).IsValid (before ++ behind) :=
    String.Pos.Raw.isValid_iff_exists_append.mpr ⟨before, behind, rfl, rfl⟩
  have hsplits : (⟨_, hv⟩ : (before ++ behind).Pos).Splits before behind := ⟨rfl, rfl⟩
  rw [strictSlice, dif_pos hv, (String.Pos.splits ⟨_, hv⟩).eq_right hsplits]

example : strictSlice "é" 1 = .error (.splitCharacter "é" 1) := by decide

end Text

namespace Switch

def strictFirstLong (s : Switch) : Except Fault String :=
  match s.longs[0]? with
  | some word => .ok word
  | none => .error .noLongName

def strictPrimary (s : Switch) : Except Fault Name :=
  match s.longs, s.shorts with
  | word :: _, _ => .ok (.long word)
  | [], c :: _ => .ok (.short c)
  | [], [] => .error .noName

def strictKey (s : Switch) : Except Fault String := s.strictPrimary.map Name.bare

def strictLabel (s : Switch) : Except Fault String := s.strictPrimary.map Name.label

def strictNegatedLabel (s : Switch) : Except Fault String := s.strictFirstLong.map ("--no-" ++ ·)

def strictChecked (s : Switch) : Except Fault (Except SpecFault Switch) :=
  if s.shorts = [] ∧ s.longs = [] then .ok (.error (.nameless s.description))
  else if s.negatable ∧ s.arity ≠ .noValue then
    s.strictFirstLong.map fun word => .error (.negatedValue word)
  else .ok (.ok s)

def strictOfSpecs (specs : List String) : Except Fault (Except SpecFault Switch) :=
  match specs.foldlM readSpec {} with
  | .error fault => .ok (.error fault)
  | .ok s => s.strictChecked

variable {s : Switch}

lemma strictFirstLong_eq (h : s.longs ≠ []) : s.strictFirstLong = .ok (s.longs.headD "") := by
  cases hl : s.longs with
  | nil => exact (h hl).elim
  | cons word words => simp [strictFirstLong, hl]

lemma exists_primary (h : s.names ≠ []) : ∃ name, s.primary? = some name ∧ s.strictPrimary = .ok name := by
  cases hl : s.longs with
  | cons word words => exact ⟨.long word, by simp [primary?, hl], by simp [strictPrimary, hl]⟩
  | nil =>
    cases hc : s.shorts with
    | cons c cs => exact ⟨.short c, by simp [primary?, hl, hc], by simp [strictPrimary, hl, hc]⟩
    | nil => exact (h (by simp [names, hl, hc])).elim

lemma strictKey_eq (h : s.names ≠ []) : s.strictKey = .ok s.key := by
  obtain ⟨name, hp, hs⟩ := exists_primary h
  rw [strictKey, hs, key, hp]
  rfl

lemma strictLabel_eq (h : s.names ≠ []) : s.strictLabel = .ok s.label := by
  obtain ⟨name, hp, hs⟩ := exists_primary h
  rw [strictLabel, hs, label, hp]
  rfl

example : ({} : Switch).strictLabel = .error .noName := rfl

lemma strictNegatedLabel_eq (h : s.longs ≠ []) : s.strictNegatedLabel = .ok s.negatedLabel := by
  rw [strictNegatedLabel, strictFirstLong_eq h]
  rfl

lemma Draft.strictChecked_eq (hs : s.Draft) : s.strictChecked = .ok s.checked := by
  rw [strictChecked, Switch.checked]
  split_ifs with hnamed hvalue
  · rfl
  · rw [strictFirstLong_eq (hs.negatable hvalue.1)]
    rfl
  · rfl

lemma strictOfSpecs_eq (specs : List String) : strictOfSpecs specs = .ok (ofSpecs specs) := by
  rw [strictOfSpecs, ofSpecs]
  cases hs : specs.foldlM readSpec {} with
  | error fault => rfl
  | ok s => exact (Draft.empty.foldlM hs).strictChecked_eq

end Switch

namespace Registry

open Spelling

def strictDeclare (R : Registry) (specs : List String) (handler : Option String) :
    Except Fault (Except Error (Registry × List Record)) :=
  (Switch.strictOfSpecs specs).map fun
    | .ok s => .ok (R.add { s with handler }, (R.shadowed s).map .shadowed)
    | .error fault => .error (.invalidSwitch fault.message)

def strictSwitch (R : Registry) (index : ℕ) : Except Fault Switch :=
  match R.entries[index]? with
  | some (.switch s) => .ok s
  | some (.heading _) => .error (.noSwitch index)
  | none => .error (.noEntry index)

def strictNegatable (R : Registry) (word : String) : Except Fault (Option Slot) :=
  match R.findLong? word with
  | none => .ok none
  | some slot => (R.strictSwitch slot.index).map fun s => if s.negatable then some slot else none

def strictSpelled (R : Registry) (name : String) : Except Fault (Option Resolution) :=
  match R.findLong? name, negated? name with
  | some slot, _ => .ok (some ⟨slot, false⟩)
  | none, none => .ok none
  | none, some word => (R.strictNegatable word).map (·.map (⟨·, true⟩))

def strictCandidate (R : Registry) (name : String) (s : Switch) (word : String) :
    Except Fault (Option Candidate) :=
  if abbreviates name word then .ok ((R.findLong? word).map fun slot => ⟨word, slot, false⟩)
  else if s.negatable && abbreviates name (negation word) then do
    let rest ← Text.strictSlice (negation word) "no-".utf8ByteSize
    let slot? ← R.strictNegatable rest
    return slot?.map fun slot => ⟨negation word, slot, true⟩
  else .ok none

def strictCandidates (R : Registry) (name : String) : Except Fault (List Candidate) := do
  let found ← R.slots.mapM fun slot => slot.switch.longs.mapM (R.strictCandidate name slot.switch)
  return (Candidate.distinct (found.flatMap (·.filterMap id))).reverse

def strictResolve (R : Registry) (name : String) : Except Fault (Except Error Resolution) := do
  match ← R.strictSpelled name with
  | some r => return .ok r
  | none =>
    if R.settings.exactNames || name.isEmpty then
      return .error (.invalidOption (Name.long name).label)
    else match ← R.strictCandidates name with
      | [] => return .error (.invalidOption (Name.long name).label)
      | [candidate] => return .ok candidate.resolution
      | candidates =>
        return .error (.ambiguousOption (Name.long name).label
          (candidates.map fun candidate => (Name.long candidate.spelling).label))

variable {R : Registry} {slot : Slot}

lemma strictDeclare_eq (R : Registry) (specs : List String) (handler : Option String) :
    R.strictDeclare specs handler = .ok (R.declare specs handler) := by
  rw [strictDeclare, Switch.strictOfSpecs_eq, declare]
  cases Switch.ofSpecs specs <;> rfl

lemma strictSwitch_eq (h : slot ∈ R.slots) : R.strictSwitch slot.index = .ok slot.switch := by
  rw [strictSwitch, mem_slots.mp h]

example : ({ entries := [.heading "Files:"] } : Registry).strictSwitch 0 = .error (.noSwitch 0) := rfl

lemma strictNegatable_eq (R : Registry) (word : String) :
    R.strictNegatable word = .ok (R.findNegatable? word) := by
  rw [strictNegatable, findNegatable?]
  cases hf : R.findLong? word with
  | none => rfl
  | some slot =>
    simp only [strictSwitch_eq (findLong?_eq_some.mp hf).1, Except.map, Option.filter_some]

lemma strictSpelled_eq (R : Registry) (name : String) :
    R.strictSpelled name = .ok (R.spelled? name) := by
  rw [strictSpelled, spelled?]
  cases R.findLong? name with
  | some slot => rfl
  | none =>
    cases negated? name with
    | none => rfl
    | some word =>
      simp only [strictNegatable_eq]
      rfl

lemma strictCandidate_eq (R : Registry) (name : String) (s : Switch) (word : String) :
    R.strictCandidate name s word = .ok (R.candidate? name s word) := by
  rw [strictCandidate, candidate?]
  split_ifs with hw hn
  · rfl
  · rw [negation, Text.strictSlice_append]
    simp only [bind, Except.bind, strictNegatable_eq]
    rfl
  · rfl

lemma strictCandidates_eq (R : Registry) (name : String) :
    R.strictCandidates name = .ok (R.candidates name) := by
  have hword (s : Switch) : R.strictCandidate name s = fun word => pure (R.candidate? name s word) :=
    funext (R.strictCandidate_eq name s)
  simp only [strictCandidates, hword, List.mapM_pure, pure_bind]
  simp [pure, Except.pure, candidates, List.flatMap_map, List.filterMap_map]

lemma strictResolve_eq (R : Registry) (name : String) :
    R.strictResolve name = .ok (R.resolve name) := by
  rw [strictResolve, strictSpelled_eq, resolve]
  simp only [bind, Except.bind]
  cases R.spelled? name with
  | some r => rfl
  | none =>
    split_ifs with hu
    · rfl
    · simp only [strictCandidates_eq]
      rcases R.candidates name with _ | ⟨a, _ | ⟨b, as⟩⟩ <;> rfl

end Registry

end CommandLine
