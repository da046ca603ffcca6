import CommandLine.Switch.Spec
import Mathlib.Tactic.Common

namespace CommandLine

namespace Placeholder

def Opens (rest : String) : Prop := (Text.trimStart rest.toList).head? = some '['

def Closes (rest : String) : Prop := (Text.trimEnd rest.toList).getLast? = some ']'

def Labelled (rest : String) : Prop :=
  ∃ c ∈ (Text.trimStart rest.toList).dropWhile (· == '='), Text.isBlank c = false

end Placeholder

open Placeholder

lemma Placeholder.Opens.labelled {rest : String} (h : Opens rest) : Labelled rest := by
  obtain ⟨cs, hcs⟩ := List.head?_eq_some_iff.mp h
  refine ⟨'[', ?_, by decide⟩
  rw [hcs, List.dropWhile_cons_of_neg (by decide)]
  exact List.mem_cons_self

lemma Arity.ofPlaceholder_cases (name : Name) (rest : String) :
    (¬ Labelled rest ∧ ofPlaceholder name rest = .error (.emptyPlaceholder name)) ∨
    (Labelled rest ∧ ¬ Opens rest ∧ ofPlaceholder name rest = .ok .required) ∨
    (Opens rest ∧ Closes rest ∧ ofPlaceholder name rest = .ok .optional) ∨
    (Opens rest ∧ ¬ Closes rest ∧
      ofPlaceholder name rest = .error (.unclosedPlaceholder name rest)) := by
  have hlabelled : ((Text.trimStart rest.toList).dropWhile (· == '=')).all Text.isBlank = true ↔
      ¬ Labelled rest := by
    simp only [Labelled, List.all_eq_true, not_exists, not_and, Bool.not_eq_false]
  rw [ofPlaceholder]
  split_ifs with hblank hopens hcloses
  · exact .inl ⟨hlabelled.mp hblank, rfl⟩
  · exact .inr (.inl ⟨not_not.mp (hlabelled.not.mp hblank), hopens, rfl⟩)
  · exact .inr (.inr (.inl ⟨not_not.mp hopens, hcloses, rfl⟩))
  · exact .inr (.inr (.inr ⟨not_not.mp hopens, hcloses, rfl⟩))

lemma Arity.ofPlaceholder_eq_ok {name : Name} {rest : String} {arity : Arity} :
    ofPlaceholder name rest = .ok arity ↔ Labelled rest ∧
      ((Opens rest ∧ Closes rest ∧ arity = .optional) ∨ (¬ Opens rest ∧ arity = .required)) := by
  rcases ofPlaceholder_cases name rest with ⟨hl, h⟩ | ⟨hl, ho, h⟩ | ⟨ho, hc, h⟩ | ⟨ho, hc, h⟩
  · simp [h, hl]
  · simp [h, hl, ho, eq_comm]
  · simp [h, ho.labelled, ho, hc, eq_comm]
  · simp [h, ho, hc]

lemma Switch.withPlaceholder_of_ne {rest : String} (h : rest ≠ "") (s : Switch) (name : Name) :
    s.withPlaceholder name rest =
      (Arity.ofPlaceholder name rest).map fun arity => { s with arity, placeholder := some rest } := by
  rw [withPlaceholder, if_neg h]
  cases Arity.ofPlaceholder name rest <;> rfl

end CommandLine
