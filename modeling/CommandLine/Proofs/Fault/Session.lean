import CommandLine.Proofs.Fault.Scan
import CommandLine.Registry.Outline

namespace CommandLine

lemma mapM_eq_ite {α β ε : Type} {f : α → Except ε β} {g : α → β} {p : α → Bool} {e : ε}
    (h : ∀ x, f x = if p x then .error e else .ok (g x)) (xs : List α) :
    xs.mapM f = if xs.any p then .error e else .ok (xs.map g) := by
  induction xs with
  | nil => rfl
  | cons x xs ih =>
    rw [List.mapM_cons, ih, h x, List.any_cons]
    cases p x with
    | true => rfl
    | false => cases xs.any p <;> rfl

namespace Settings

variable (settings : Settings)

def strictPadded (text : String) : Except LayoutFault String :=
  if settings.columnWidth > maxColumn then .error (.columnTooWide settings.columnWidth)
  else .ok (settings.padded text)

def strictDescribedLine (names line : String) : Except LayoutFault String :=
  (settings.strictPadded names).map fun padded => settings.indent ++ padded ++ " " ++ line

lemma strictDescribedLine_eq (names line : String) :
    settings.strictDescribedLine names line =
      if settings.columnWidth > maxColumn then .error (.columnTooWide settings.columnWidth)
      else .ok (settings.describedLine names line) := by
  rw [strictDescribedLine, strictPadded]
  split_ifs <;> rfl

end Settings

def Switch.strictHelpLines (settings : Settings) (s : Switch) : Except LayoutFault (List String) :=
  match s.description with
  | [] => .ok [settings.indent ++ s.column]
  | line :: lines => do
    let first ←
      if s.column.length ≤ settings.columnWidth then
        (settings.strictDescribedLine s.column line).map ([·])
      else
        (settings.strictDescribedLine "" line).map ([settings.indent ++ s.column, ·])
    return first ++ (← lines.mapM (settings.strictDescribedLine ""))

lemma Switch.strictHelpLines_eq (settings : Settings) (s : Switch) :
    s.strictHelpLines settings =
      if settings.columnWidth > Settings.maxColumn ∧ s.description ≠ [] then
        .error (.columnTooWide settings.columnWidth)
      else .ok (s.helpLines settings) := by
  have hlines := mapM_eq_ite (p := fun _ => decide (settings.columnWidth > Settings.maxColumn))
    (e := .columnTooWide settings.columnWidth) (f := settings.strictDescribedLine "")
    (fun line => by simpa using settings.strictDescribedLine_eq "" line)
  rw [strictHelpLines, helpLines]
  cases s.description with
  | nil => simp
  | cons line lines =>
    simp only [Settings.strictDescribedLine_eq, hlines]
    by_cases hw : settings.columnWidth > Settings.maxColumn
    · by_cases hc : s.column.length ≤ settings.columnWidth <;> simp [hw, hc, Except.map, bind, Except.bind]
    · by_cases hc : s.column.length ≤ settings.columnWidth <;>
        simp [hw, hc, Except.map, bind, Except.bind, pure, Except.pure]

def Entry.strictHelpLines (settings : Settings) : Entry → Except LayoutFault (List String)
  | switch s => s.strictHelpLines settings
  | heading text => .ok [text]

lemma Entry.strictHelpLines_eq (settings : Settings) (e : Entry) :
    e.strictHelpLines settings =
      if decide (settings.columnWidth > Settings.maxColumn) && e.isDescribed then
        .error (.columnTooWide settings.columnWidth)
      else .ok (e.helpLines settings) := by
  cases e with
  | switch s =>
    rw [strictHelpLines, Switch.strictHelpLines_eq]
    simp [isDescribed, helpLines]
  | heading text => simp [strictHelpLines, isDescribed, helpLines]

namespace Registry

def strictHelp (R : Registry) : Except LayoutFault String := do
  let lines ← R.entries.mapM (·.strictHelpLines R.settings)
  return String.join ((R.banner.toList ++ lines.flatten).map (· ++ "\n"))

lemma strictHelp_eq (R : Registry) : R.strictHelp = R.help := by
  rw [strictHelp, mapM_eq_ite (Entry.strictHelpLines_eq R.settings), help]
  by_cases hw : R.settings.columnWidth > Settings.maxColumn
  · cases hd : R.entries.any Entry.isDescribed <;>
      simp [hw, hd, bind, Except.bind, pure, Except.pure, helpLines, List.flatMap_def]
  · simp [hw, bind, Except.bind, pure, Except.pure, helpLines, List.flatMap_def]

lemma exists_help_eq_error (R : Registry) : (∃ fault, R.help = .error fault) ↔
    R.settings.columnWidth > Settings.maxColumn ∧ ∃ s, .switch s ∈ R.entries ∧ s.description ≠ [] := by
  have hdescribed : R.entries.any Entry.isDescribed = true ↔
      ∃ s, .switch s ∈ R.entries ∧ s.description ≠ [] := by
    rw [List.any_eq_true]
    constructor
    · rintro ⟨e, he, hd⟩
      cases e with
      | switch s => exact ⟨s, he, by simpa [Entry.isDescribed] using hd⟩
      | heading text => cases hd
    · rintro ⟨s, hs, hd⟩
      exact ⟨_, hs, by simpa [Entry.isDescribed] using hd⟩
  rw [← hdescribed, help]
  split_ifs with h
  · exact iff_of_true ⟨_, rfl⟩ h
  · exact iff_of_false (by simp) h

end Registry

namespace Session

def strictExecute (s : Session) : Command → Except Fault (Session × Reply)
  | .declare specs handler => do
    match ← s.registry.strictDeclare specs handler with
    | .ok (R, log) => return ({ s with registry := R }, { log })
    | .error e => return (s, { result := .error e })
  | .scan mode stored args => do
    let run ← s.registry.strictRun mode (if stored then some s.store else none) args
    return ({ s with store := run.effects.store.getD s.store },
      { result := run.outcome, calls := run.effects.calls, log := run.effects.log })
  | command => .ok (s.execute command)

/-- No command is in fault, so each ends in its answer or its error. Help is in fault if and only if a
switch is described and the column before its description would be too wide. -/
theorem strictExecute_eq (s : Session) :
    (∀ command, s.strictExecute command = .ok (s.execute command)) ∧
    s.registry.strictHelp = s.registry.help ∧
    ((∃ fault, s.registry.strictHelp = .error fault) ↔
      65535 < s.registry.settings.columnWidth ∧
        ∃ t, .switch t ∈ s.registry.entries ∧ t.description ≠ []) := by
  have hhelp := s.registry.strictHelp_eq
  refine ⟨fun command => ?_, hhelp, ?_⟩
  · cases command with
    | declare specs handler =>
      simp only [strictExecute, Registry.strictDeclare_eq, execute, bind, Except.bind]
      rcases s.registry.declare specs handler with e | ⟨R, log⟩ <;> rfl
    | scan mode stored args =>
      simp only [strictExecute, Registry.strictRun_eq]
      rfl
    | heading text => rfl
    | setBanner text => rfl
    | configure change => rfl
    | clear => rfl
  · rw [hhelp]
    exact s.registry.exists_help_eq_error

end Session

end CommandLine
