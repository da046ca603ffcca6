import CommandLine.Proofs.Registry.Resolution
import CommandLine.Proofs.Session.Reachable
import Mathlib.Data.Set.Finite.Basic

/-! What an abbreviation may stand for. It never passes over a spelling that begins with it, except
where a word and its negation both do: then only the word is looked at. -/

namespace CommandLine

namespace Spelling

lemma abbreviates_negation_negation {name word : String} (h : abbreviates name word = true)
    (h' : abbreviates name (negation word) = true) :
    abbreviates name (negation (negation word)) = true := by
  -- what begins both `w` and `u ++ w` is a run of copies of `u`, cut off anywhere
  have hcut (p : List Char) {u w : List Char} (hw : p <+: w) (hu : p <+: u ++ w) :
      p <+: u ++ (u ++ w) := by
    rcases List.prefix_or_prefix_of_prefix hu (List.prefix_append u w) with hpu | ⟨v, rfl⟩
    · exact hpu.trans (List.prefix_append _ _)
    · have hvw : v <+: w := (List.prefix_append_right_inj u).mp hu
      have hvp : v <+: u ++ v := List.prefix_of_prefix_length_le hvw hw (by simp)
      exact (List.prefix_append_right_inj u).mpr (hvp.trans hu)
  rw [abbreviates_iff] at h h' ⊢
  simp only [toList_negation] at h' ⊢
  exact hcut name.toList (u := ['n', 'o', '-']) h h'

lemma length_iterate_negation (word : String) (k : ℕ) :
    (negation^[k] word).length = 3 * k + word.length := by
  induction k with
  | zero => simp
  | succ k ih =>
    have hlen (w : String) : (negation w).length = w.length + 3 := by
      simp [← String.length_toList]
    rw [Function.iterate_succ_apply', hlen, ih]
    omega

lemma exists_iterate_negation_notMem (word : String) (words : List String) :
    ∃ k, negation^[k] word ∉ words := by
  by_contra! hall
  refine (Set.infinite_of_injective_forall_mem (f := fun k => negation^[k] word) ?_ hall)
    words.finite_toSet
  intro j k hjk
  have hlen := congrArg String.length hjk
  simp only [length_iterate_negation] at hlen
  omega

end Spelling

namespace Registry

open Spelling

variable {R : Registry} {name word : String} {slot : Slot} {r : Resolution}

def Straddles (R : Registry) (name : String) : Prop :=
  ∃ word slot, R.Owns slot (.long word) ∧ slot.switch.negatable = true ∧
    abbreviates name word = true ∧ abbreviates name (negation word) = true

lemma accepts_of_owns (h : R.Owns slot (.long word)) : R.Accepts word := .inl h.declares

lemma accepts_negation (h : R.Owns slot (.long word)) (hn : slot.switch.negatable = true) :
    R.Accepts (negation word) := .inr ⟨word, slot, rfl, h, hn⟩

lemma exists_spelled?_ne (h : R.Straddles name) (r : Resolution) :
    ∃ s, R.Accepts s ∧ abbreviates name s = true ∧ R.spelled? s ≠ some r := by
  obtain ⟨word, slot, ho, hneg, hw, hn⟩ := h
  by_contra! hall
  have key (k : ℕ) : R.Owns slot (.long (negation^[k] word)) ∧
      abbreviates name (negation^[k] word) = true ∧
      abbreviates name (negation (negation^[k] word)) = true := by
    induction k with
    | zero => exact ⟨ho, hw, hn⟩
    | succ k ih =>
      obtain ⟨ho, hw, hn⟩ := ih
      rw [Function.iterate_succ_apply']
      have hr := hall _ (accepts_of_owns ho) hw
      obtain rfl : ⟨slot, false⟩ = r := Option.some.inj ((spelled?_of_owns ho).symm.trans hr)
      have hn' := hall _ (accepts_negation ho hneg) hn
      rcases spelled?_eq_some.mp hn' with ⟨ho', _⟩ | ⟨_, hfalse, _⟩
      · exact ⟨ho', hn, abbreviates_negation_negation hw hn⟩
      · cases hfalse
  obtain ⟨k, hk⟩ := exists_iterate_negation_notMem word slot.switch.longs
  exact hk (by simpa using (key k).1.2.1)

lemma resolve_eq_ok_of_accepts {s : String} (h : R.Accepts s) :
    R.resolve s = .ok r ↔ R.spelled? s = some r := by
  obtain ⟨r', hr'⟩ := accepts_iff.mp h
  rw [resolve_of_spelled? hr', hr', Except.ok.injEq, Option.some.injEq]

lemma choice_of_owns (h : R.Owns slot (.long word)) (hw : abbreviates name word = true) :
    ∃ a ∈ R.choices name, a.resolution = ⟨slot, false⟩ :=
  ⟨⟨word, slot, false⟩, mem_choices.mpr ⟨word, slot, h, .inl ⟨hw, rfl⟩⟩, rfl⟩

lemma choice_of_spelled? {s : String} (hstr : ¬ R.Straddles name) (h : R.spelled? s = some r)
    (hs : abbreviates name s = true) : ∃ a ∈ R.choices name, a.resolution = r := by
  rcases r with ⟨slot, negated⟩
  rcases spelled?_eq_some.mp h with ⟨ho, rfl⟩ | ⟨_, rfl, word, rfl, ho, hneg⟩
  · exact choice_of_owns ho hs
  · have hw : abbreviates name word = false := by
      rw [← Bool.not_eq_true]
      exact fun hw => hstr ⟨word, slot, ho, hneg, hw, hs⟩
    have hc := mem_choices.mpr ⟨word, slot, ho, .inr ⟨hw, hs, hneg, rfl⟩⟩
    exact ⟨⟨negation word, slot, true⟩, hc, rfl⟩

/-- What an abbreviation resolves to is what every spelling resolves to that begins with it, but for
names that straddle a word and its negation. A name that begins both a positive and a negated
spelling is ambiguous with the same exception, and then it is not taken for the negated one. -/
theorem resolve_abbreviation_unguessed (he : R.settings.exactNames = false) (hne : name ≠ "")
    (ha : ¬ R.Accepts name) :
    (∀ r, R.resolve name = .ok r →
      ((∀ s, R.Accepts s → abbreviates name s = true → R.resolve s = .ok r) ↔ ¬ R.Straddles name)) ∧
    ∀ p q slot slot', R.Accepts p → R.Accepts q → abbreviates name p = true →
      abbreviates name q = true → R.resolve p = .ok ⟨slot, false⟩ → R.resolve q = .ok ⟨slot', true⟩ →
      (∃ spellings, R.resolve name = .error (.ambiguousOption (Name.long name).label spellings)) ∨
        (R.Straddles name ∧ R.resolve name = .ok ⟨slot, false⟩) := by
  constructor
  · intro r hr
    have hall := ((resolve_abbreviation_eq_ok he hne ha).mp hr).2
    constructor
    · intro hs hstr
      obtain ⟨s, has, hbegins, hns⟩ := exists_spelled?_ne hstr r
      exact hns ((resolve_eq_ok_of_accepts has).mp (hs s has hbegins))
    · intro hstr s has hbegins
      obtain ⟨r', hr'⟩ := accepts_iff.mp has
      obtain ⟨a, hac, har⟩ := choice_of_spelled? hstr hr' hbegins
      rw [resolve_of_spelled? hr', ← har, hall a hac]
  · intro p q slot slot' hap haq hp hq hrp hrq
    have hsp := (resolve_eq_ok_of_accepts hap).mp hrp
    have hsq := (resolve_eq_ok_of_accepts haq).mp hrq
    have hop : R.Owns slot (.long p) := by simpa [spelled?_eq_some] using hsp
    obtain ⟨a, hac, har⟩ := choice_of_owns hop hp
    by_cases hsame : ∀ b ∈ R.choices name, b.resolution = ⟨slot, false⟩
    · right
      refine ⟨?_, (resolve_abbreviation_eq_ok he hne ha).mpr ⟨List.ne_nil_of_mem hac, hsame⟩⟩
      by_contra hstr
      obtain ⟨b, hbc, hbr⟩ := choice_of_spelled? hstr hsq hq
      have hpol := hbr.symm.trans (hsame b hbc)
      simp at hpol
    · left
      push Not at hsame
      obtain ⟨b, hbc, hbr⟩ := hsame
      exact resolve_abbreviation_ambiguous he hne ha hac hbc fun hab => hbr (hab.symm.trans har)

theorem resolve_abbreviation_unguessed_negation :
    let R := ofDeclarations [["--[no-]color"], ["--debug"]]
    let r : Resolution := ⟨⟨0, { longs := ["color"], negatable := true }⟩, true⟩
    R.settings.exactNames = false ∧ "no-col" ≠ "" ∧ ¬ R.Accepts "no-col" ∧
      R.resolve "no-col" = .ok r ∧ R.Accepts "no-color" ∧
      ∀ s, R.Accepts s → abbreviates "no-col" s = true → R.resolve s = .ok r := by
  intro R r
  have ha : ¬ R.Accepts "no-col" := spelled?_eq_none.mp (by rfl)
  have hr : R.resolve "no-col" = .ok r := by rfl
  have hstr : ¬ R.Straddles "no-col" := by
    rintro ⟨word, _, _, _, hw, hn⟩
    rw [abbreviates_iff] at hw hn
    obtain ⟨w, hw⟩ := hw
    simp [toList_negation, ← hw] at hn
  refine ⟨rfl, by decide, ha, hr, accepts_iff.mpr ⟨r, by rfl⟩, ?_⟩
  exact ((resolve_abbreviation_unguessed (by rfl) (by decide) ha).1 r hr).mpr hstr

/-- Of a name that begins a word and its negation, the word is meant. -/
theorem resolve_abbreviation_guessed :
    let R := ofDeclarations [["--[no-]name"]]
    let slot : Slot := ⟨0, { longs := ["name"], negatable := true }⟩
    R.Reachable ∧ R.settings.exactNames = false ∧ ¬ R.Accepts "n" ∧
      R.resolve "n" = .ok ⟨slot, false⟩ ∧
      R.Accepts "no-name" ∧ abbreviates "n" "no-name" = true ∧
      R.resolve "no-name" = .ok ⟨slot, true⟩ := by
  intro R slot
  have hn : ¬ R.Accepts "n" := spelled?_eq_none.mp (by rfl)
  have hname : R.Accepts "no-name" := accepts_iff.mpr ⟨⟨slot, true⟩, by rfl⟩
  exact ⟨reachable_ofDeclarations _, rfl, hn, by rfl, hname, by decide, by rfl⟩

end Registry

end CommandLine
