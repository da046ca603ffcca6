import CommandLine.Argument.Cursor
import CommandLine.Proofs.Argument.Token
import Mathlib.Tactic.Common

namespace CommandLine.Cursor

variable {c d : Cursor} {t : Token} {v : String}

lemma value?_eq_some : c.value? = some (v, d) ↔ c = ⟨v :: d.rest, d.literal⟩ := by
  rcases c with ⟨_ | ⟨arg, rest⟩, literal⟩
  · simp [value?]
  · rcases d with ⟨rest', literal'⟩
    simp [value?, and_assoc]

lemma value?_eq_none : c.value? = none ↔ c.rest = [] := by
  rcases c with ⟨_ | ⟨arg, rest⟩, literal⟩ <;> simp [value?]

lemma optionalValue?_eq_ite (c : Cursor) :
    c.optionalValue? = if c.rest.head? = some "--" then none else c.value? := by
  rw [optionalValue?]
  split
  · rename_i h
    simp [h]
  · rename_i h
    rw [if_neg]
    intro hh
    obtain ⟨rest, hr⟩ := List.head?_eq_some_iff.mp hh
    exact h rest hr

lemma optionalValue?_eq_some :
    c.optionalValue? = some (v, d) ↔ v ≠ "--" ∧ c = ⟨v :: d.rest, d.literal⟩ := by
  rw [optionalValue?_eq_ite]
  split_ifs with h
  · simp only [false_iff, not_and]
    rintro hv rfl
    exact hv (by simpa using h)
  · rw [value?_eq_some, iff_and_self]
    rintro rfl rfl
    exact h rfl

lemma optionalValue?_eq_none :
    c.optionalValue? = none ↔ c.rest = [] ∨ c.rest.head? = some "--" := by
  rw [optionalValue?_eq_ite]
  split_ifs with h
  · simp [h]
  · simp [value?_eq_none, h]

def append (c : Cursor) (xs : List String) : Cursor := { c with rest := c.rest ++ xs }

@[simp] lemma append_rest (c : Cursor) (xs : List String) : (c.append xs).rest = c.rest ++ xs := rfl

@[simp] lemma append_literal (c : Cursor) (xs : List String) : (c.append xs).literal = c.literal := rfl

lemma next?_cons (arg : String) (rest : List String) (literal : Bool) :
    (⟨arg :: rest, literal⟩ : Cursor).next? =
      some (if literal then .positional arg else Token.ofArg arg,
        ⟨rest, literal || Token.ofArg arg == .sentinel⟩) := by
  cases literal <;> rfl

lemma next?_append (xs : List String) (h : c.next? = some (t, d)) :
    (c.append xs).next? = some (t, d.append xs) := by
  rcases c with ⟨_ | ⟨arg, rest⟩, literal⟩
  · cases h
  · rw [next?_cons] at h
    obtain ⟨rfl, rfl⟩ := Prod.mk.inj (Option.some.inj h)
    exact next?_cons arg (rest ++ xs) literal

lemma value?_append (xs : List String) (h : c.value? = some (v, d)) :
    (c.append xs).value? = some (v, d.append xs) := by
  rw [value?_eq_some] at h ⊢
  rw [h]
  rfl

lemma optionalValue?_append (xs : List String) (h : c.optionalValue? = some (v, d)) :
    (c.append xs).optionalValue? = some (v, d.append xs) := by
  rw [optionalValue?_eq_some] at h ⊢
  exact ⟨h.1, by rw [h.2]; rfl⟩

lemma optionalValue?_append_eq_none {xs : List String} (h : c.optionalValue? = none)
    (hx : c.rest = [] → xs.head? = some "--") : (c.append xs).optionalValue? = none := by
  rw [optionalValue?_eq_none] at h ⊢
  right
  rcases h with h | h
  · simpa [h] using hx h
  · simp [List.head?_append, h]

lemma next?_literal (arg : String) (rest : List String) :
    (⟨arg :: rest, true⟩ : Cursor).next? = some (.positional arg, ⟨rest, true⟩) := rfl

lemma next?_sentinel (rest : List String) :
    (⟨"--" :: rest, false⟩ : Cursor).next? = some (.sentinel, ⟨rest, true⟩) := by
  have ht : Token.ofArg "--" = .sentinel := by decide
  simp [next?, ht]

lemma literal_next? (h : c.next? = some (t, d)) :
    d.literal = (c.literal || decide (t = .sentinel)) ∧ (c.literal = true → t ≠ .sentinel) := by
  rcases c with ⟨_ | ⟨arg, rest⟩, literal⟩
  · simp [next?] at h
  · cases literal
    all_goals
      simp only [next?, Option.some.injEq, Prod.mk.injEq, Bool.false_eq_true, if_true, if_false] at h
      obtain ⟨rfl, rfl⟩ := h
      simp [Bool.beq_eq_decide_eq]

lemma next?_text (ht : t.Writable) (hs : t ≠ .sentinel) (rest : List String) :
    (⟨t.text :: rest, false⟩ : Cursor).next? = some (t, ⟨rest, false⟩) := by
  have hsentinel : (t == .sentinel) = false := by simpa using hs
  simp only [next?, Token.ofArg_text ht, hsentinel, Bool.false_eq_true, if_false]

lemma next?_eq_positional {arg : String} : c.next? = some (.positional arg, d) ↔
    c = ⟨arg :: d.rest, d.literal⟩ ∧ (d.literal = true ∨ IsPositional arg) := by
  rcases c with ⟨_ | ⟨arg', rest⟩, literal⟩
  · simp [next?]
  · rcases d with ⟨rest', literal'⟩
    simp only [next?_cons, Option.some.injEq, Prod.mk.injEq, mk.injEq, List.cons.injEq]
    cases literal with
    | true =>
      simp only [if_true, Bool.true_or, Token.positional.injEq]
      constructor
      · rintro ⟨rfl, rfl, rfl⟩
        exact ⟨⟨⟨rfl, rfl⟩, rfl⟩, .inl rfl⟩
      · rintro ⟨⟨⟨rfl, rfl⟩, rfl⟩, _⟩
        exact ⟨rfl, rfl, rfl⟩
    | false =>
      simp only [Bool.false_eq_true, if_false, Bool.false_or, Token.ofArg_eq_positional]
      constructor
      · rintro ⟨⟨rfl, hp⟩, rfl, rfl⟩
        exact ⟨⟨⟨rfl, rfl⟩, by rw [Token.ofArg_positional hp]; rfl⟩, .inr hp⟩
      · rintro ⟨⟨⟨rfl, rfl⟩, rfl⟩, h⟩
        have hp : IsPositional arg' := h.resolve_left Bool.false_ne_true
        exact ⟨⟨rfl, hp⟩, rfl, by rw [Token.ofArg_positional hp]; rfl⟩

lemma next?_eq_none : c.next? = none ↔ c.rest = [] := by
  rcases c with ⟨_ | ⟨arg, rest⟩, literal⟩
  · simp [next?]
  · cases literal <;> simp [next?]

end CommandLine.Cursor
