import CommandLine.Session
import Mathlib.Tactic.Common

/-! The registries that come about in use: by any commands, in any order, failed ones included. -/

namespace CommandLine

namespace Session

inductive Reachable : Session → Prop
  | start (settings : Settings) : Reachable (.start settings)
  | execute {s : Session} (h : Reachable s) (command : Command) : Reachable (s.execute command).1

variable {s : Session}

lemma Reachable.executeAll (h : s.Reachable) (commands : List Command) :
    (s.executeAll commands).Reachable := by
  induction commands generalizing s with
  | nil => exact h
  | cons command commands ih => exact ih (h.execute command)

end Session

lemma Session.registry_execute (s : Session) (command : Command) :
    (∃ specs handler t, command = .declare specs handler ∧ Switch.ofSpecs specs = .ok t ∧
      (s.execute command).1.registry = s.registry.add { t with handler }) ∨
    (∃ text, (s.execute command).1.registry = s.registry.addHeading text) ∨
    ∃ banner settings, (s.execute command).1.registry = { s.registry with banner, settings } := by
  cases command with
  | declare specs handler =>
    cases ht : Switch.ofSpecs specs with
    | error fault =>
      exact .inr (.inr ⟨s.registry.banner, s.registry.settings, by
        simp only [Session.execute, Registry.declare, ht]⟩)
    | ok t =>
      exact .inl ⟨specs, handler, t, rfl, ht, by
        simp only [Session.execute, Registry.declare, ht]⟩
  | heading text => exact .inr (.inl ⟨text, rfl⟩)
  | setBanner text => exact .inr (.inr ⟨some text, s.registry.settings, rfl⟩)
  | configure change => exact .inr (.inr ⟨s.registry.banner, s.registry.settings.change change, rfl⟩)
  | clear => exact .inr (.inr ⟨s.registry.banner, s.registry.settings, rfl⟩)
  | scan mode stored args => exact .inr (.inr ⟨s.registry.banner, s.registry.settings, rfl⟩)

namespace Registry

def Reachable (R : Registry) : Prop := ∃ s : Session, s.Reachable ∧ s.registry = R

def ofDeclarations (declarations : List (List String)) : Registry :=
  ((Session.start {}).executeAll (declarations.map (.declare · none))).registry

lemma reachable_ofDeclarations (declarations : List (List String)) :
    (ofDeclarations declarations).Reachable :=
  ⟨_, (Session.Reachable.start {}).executeAll _, rfl⟩

lemma Reachable.invariant {P : Registry → Prop} (hstart : ∀ settings, P { settings })
    (hadd : ∀ R specs t handler, Switch.ofSpecs specs = .ok t → P R → P (R.add { t with handler }))
    (hheading : ∀ R text, P R → P (R.addHeading text))
    (hconfigure : ∀ R banner settings, P R → P { R with banner, settings })
    {R : Registry} (h : R.Reachable) : P R := by
  obtain ⟨s, hs, rfl⟩ := h
  induction hs with
  | start settings => exact hstart settings
  | @execute s _ command ih =>
    obtain ⟨specs, handler, t, _, ht, h⟩ | ⟨text, h⟩ | ⟨banner, settings, h⟩ :=
      Session.registry_execute s command
    · rw [h]
      exact hadd _ specs t handler ht ih
    · rw [h]
      exact hheading _ text ih
    · rw [h]
      exact hconfigure _ banner settings ih

end Registry

end CommandLine
