import CommandLine.Proofs.Registry.Lookup
import CommandLine.Registry.Resolution

namespace CommandLine

namespace Spelling

@[simp] lemma toList_negation (word : String) :
    (negation word).toList = 'n' :: 'o' :: '-' :: word.toList := by
  simp [negation]

lemma negated?_eq_some {name word : String} : negated? name = some word ↔ name = negation word := by
  rw [← String.toList_inj, toList_negation]
  rw [negated?]
  split
  · rename_i cs h
    simp [h, ← String.toList_inj, eq_comm]
  · rename_i h
    simp only [reduceCtorEq, false_iff]
    exact h _

lemma abbreviates_iff {name word : String} :
    abbreviates name word = true ↔ name.toList <+: word.toList :=
  List.isPrefixOf_iff_prefix

end Spelling

namespace Candidate

lemma mem_of_mem_distinct {a : Candidate} {as : List Candidate} (h : a ∈ distinct as) : a ∈ as := by
  induction as with
  | nil => exact h
  | cons b as ih =>
    rcases List.mem_cons.mp h with rfl | h
    · exact List.mem_cons_self
    · exact List.mem_cons_of_mem b (ih (List.mem_filter.mp h).1)

lemma exists_mem_distinct {a : Candidate} {as : List Candidate} (h : a ∈ as) :
    ∃ b ∈ distinct as, a.agrees b = true := by
  induction as with
  | nil => cases h
  | cons b as ih =>
    rcases List.mem_cons.mp h with rfl | h
    · exact ⟨a, List.mem_cons_self, by simp [agrees]⟩
    · by_cases hb : a.agrees b = true
      · exact ⟨b, List.mem_cons_self, hb⟩
      · obtain ⟨c, hc, hac⟩ := ih h
        refine ⟨c, List.mem_cons_of_mem b (List.mem_filter.mpr ⟨hc, ?_⟩), hac⟩
        simp only [agrees, Bool.and_eq_true, beq_iff_eq] at hac hb
        rw [Bool.not_eq_true', ← Bool.not_eq_true]
        simpa only [agrees, Bool.and_eq_true, beq_iff_eq, ← hac.1, ← hac.2] using hb

lemma pairwise_distinct (as : List Candidate) :
    (distinct as).Pairwise fun a b => b.agrees a = false := by
  induction as with
  | nil => exact .nil
  | cons a as ih =>
    refine List.pairwise_cons.mpr ⟨fun b hb => ?_, ih.filter _⟩
    simpa using (List.mem_filter.mp hb).2

end Candidate

namespace Registry

open Spelling

variable {R : Registry} {name word : String} {slot : Slot} {r : Resolution}

def Accepts (R : Registry) (name : String) : Prop :=
  R.Declares (.long name) ∨
    ∃ word slot, name = negation word ∧ R.Owns slot (.long word) ∧ slot.switch.negatable = true

lemma spelled?_eq_some : R.spelled? name = some r ↔
    (R.Owns r.slot (.long name) ∧ r.negated = false) ∨
      (¬ R.Declares (.long name) ∧ r.negated = true ∧
        ∃ word, name = negation word ∧ R.Owns r.slot (.long word) ∧ r.slot.switch.negatable = true) := by
  rcases r with ⟨slot, negated⟩
  rw [spelled?]
  cases hf : R.findLong? name with
  | some slot' =>
    have ho := findLong?_eq_some.mp hf
    have hd := ho.declares
    simp only [Option.some.injEq, Resolution.mk.injEq, hd, not_true_eq_false, false_and, or_false]
    constructor
    · rintro ⟨rfl, rfl⟩
      exact ⟨ho, rfl⟩
    · rintro ⟨ho', rfl⟩
      exact ⟨ho.unique ho', rfl⟩
  | none =>
    have hd := findLong?_eq_none.mp hf
    have ho : ¬ R.Owns slot (.long name) := fun ho => hd ho.declares
    simp only [Option.map_eq_some_iff, Option.bind_eq_some_iff, negated?_eq_some,
      findNegatable?_eq_some, Resolution.mk.injEq, ho, hd, false_and, false_or, not_false_eq_true,
      true_and]
    constructor
    · rintro ⟨slot', ⟨word, hw, ho'⟩, rfl, rfl⟩
      exact ⟨rfl, word, hw, ho'⟩
    · rintro ⟨rfl, word, hw, ho'⟩
      exact ⟨slot, ⟨word, hw, ho'⟩, rfl, rfl⟩

lemma spelled?_of_owns (h : R.Owns slot (.long word)) : R.spelled? word = some ⟨slot, false⟩ :=
  spelled?_eq_some.mpr (.inl ⟨h, rfl⟩)

lemma spelled?_of_negatable (h : R.Owns slot (.long word)) (hn : slot.switch.negatable = true)
    (hd : ¬ R.Declares (.long (negation word))) : R.spelled? (negation word) = some ⟨slot, true⟩ :=
  spelled?_eq_some.mpr (.inr ⟨hd, rfl, word, rfl, h, hn⟩)

lemma accepts_iff : R.Accepts name ↔ ∃ r, R.spelled? name = some r := by
  simp only [spelled?_eq_some]
  constructor
  · intro h
    by_cases hd : R.Declares (.long name)
    · obtain ⟨slot, ho⟩ := declares_iff.mp hd
      exact ⟨⟨slot, false⟩, .inl ⟨ho, rfl⟩⟩
    · obtain ⟨word, slot, hw⟩ := h.resolve_left hd
      exact ⟨⟨slot, true⟩, .inr ⟨hd, rfl, word, hw⟩⟩
  · rintro ⟨r, ⟨ho, _⟩ | ⟨_, _, word, hw⟩⟩
    · exact .inl ho.declares
    · exact .inr ⟨word, r.slot, hw⟩

lemma spelled?_eq_none : R.spelled? name = none ↔ ¬ R.Accepts name := by
  rw [accepts_iff, ← Option.isSome_iff_exists, Option.not_isSome_iff_eq_none]

lemma resolve_of_spelled? (h : R.spelled? name = some r) : R.resolve name = .ok r := by
  simp only [resolve, h]

def choices (R : Registry) (name : String) : List Candidate :=
  R.slots.flatMap fun slot => slot.switch.longs.filterMap (R.candidate? name slot.switch)

lemma candidates_eq (R : Registry) (name : String) :
    R.candidates name = (Candidate.distinct (R.choices name)).reverse := rfl

lemma candidate?_eq_some {s : Switch} {a : Candidate} : R.candidate? name s word = some a ↔
    (abbreviates name word = true ∧ ∃ slot, R.Owns slot (.long word) ∧ ⟨word, slot, false⟩ = a) ∨
      (abbreviates name word = false ∧ s.negatable = true ∧ abbreviates name (negation word) = true ∧
        ∃ slot, (R.Owns slot (.long word) ∧ slot.switch.negatable = true) ∧
          ⟨negation word, slot, true⟩ = a) := by
  rw [candidate?]
  cases hw : abbreviates name word with
  | true => simp [Option.map_eq_some_iff, findLong?_eq_some]
  | false =>
    cases hn : s.negatable && abbreviates name (negation word) with
    | true =>
      simp only [Bool.and_eq_true] at hn
      simp [hn, Option.map_eq_some_iff, findNegatable?_eq_some]
    | false =>
      simp only [Bool.and_eq_false_iff] at hn
      rcases hn with hn | hn <;> simp [hn]

lemma mem_choices {a : Candidate} : a ∈ R.choices name ↔ ∃ word slot, R.Owns slot (.long word) ∧
    ((abbreviates name word = true ∧ a = ⟨word, slot, false⟩) ∨
      (abbreviates name word = false ∧ abbreviates name (negation word) = true ∧
        slot.switch.negatable = true ∧ a = ⟨negation word, slot, true⟩)) := by
  simp only [choices, List.mem_flatMap, List.mem_filterMap, candidate?_eq_some]
  constructor
  · rintro ⟨_, _, word, _, ⟨hw, slot, ho, rfl⟩ | ⟨hw, _, hn, slot, ⟨ho, hneg⟩, rfl⟩⟩
    · exact ⟨word, slot, ho, .inl ⟨hw, rfl⟩⟩
    · exact ⟨word, slot, ho, .inr ⟨hw, hn, hneg, rfl⟩⟩
  · rintro ⟨word, slot, ho, ⟨hw, rfl⟩ | ⟨hw, hn, hneg, rfl⟩⟩
    · exact ⟨slot, ho.1, word, by simpa using ho.2.1, .inl ⟨hw, slot, ho, rfl⟩⟩
    · exact ⟨slot, ho.1, word, by simpa using ho.2.1, .inr ⟨hw, hneg, hn, slot, ⟨ho, hneg⟩, rfl⟩⟩

lemma agrees_iff {a b : Candidate} (ha : a ∈ R.choices name) (hb : b ∈ R.choices name) :
    a.agrees b = true ↔ a.resolution = b.resolution := by
  have hslot {a : Candidate} (ha : a ∈ R.choices name) : a.resolution.slot ∈ R.slots := by
    obtain ⟨word, slot, ho, ⟨_, rfl⟩ | ⟨_, _, _, rfl⟩⟩ := mem_choices.mp ha <;> exact ho.1
  simp only [Candidate.agrees, Bool.and_eq_true, beq_iff_eq]
  constructor
  · rintro ⟨hi, hn⟩
    have hs := slot_unique (hslot ha) (hslot hb) hi
    rcases a with ⟨_, slot, negated⟩
    simp_all
  · intro h
    simp [h]

lemma mem_candidates {a : Candidate} (h : a ∈ R.candidates name) : a ∈ R.choices name :=
  Candidate.mem_of_mem_distinct (List.mem_reverse.mp h)

lemma exists_mem_candidates {a : Candidate} (h : a ∈ R.choices name) :
    ∃ b ∈ R.candidates name, b.resolution = a.resolution := by
  obtain ⟨b, hb, hab⟩ := Candidate.exists_mem_distinct h
  have hb' := Candidate.mem_of_mem_distinct hb
  exact ⟨b, List.mem_reverse.mpr hb, ((agrees_iff h hb').mp hab).symm⟩

lemma pairwise_candidates (R : Registry) (name : String) :
    (R.candidates name).Pairwise fun a b => a.resolution ≠ b.resolution := by
  rw [candidates_eq, List.pairwise_reverse]
  refine (Candidate.pairwise_distinct (R.choices name)).imp_of_mem fun ha hb hab heq => ?_
  have ha' := Candidate.mem_of_mem_distinct ha
  have hb' := Candidate.mem_of_mem_distinct hb
  have hagree := (agrees_iff hb' ha').mpr heq
  simp [hab] at hagree

section

variable (he : R.settings.exactNames = false) (hne : name ≠ "") (ha : ¬ R.Accepts name)
include he hne ha

lemma resolve_abbreviation : R.resolve name =
    match R.candidates name with
    | [] => .error (.invalidOption (Name.long name).label)
    | [a] => .ok a.resolution
    | as =>
      .error (.ambiguousOption (Name.long name).label (as.map fun a => (Name.long a.spelling).label)) := by
  have hemp : name.isEmpty = false := by simpa [String.isEmpty_iff] using hne
  have hguess : ¬ (R.settings.exactNames || name.isEmpty) = true := by simp [he, hemp]
  rw [resolve, spelled?_eq_none.mpr ha]
  exact if_neg hguess

lemma resolve_abbreviation_eq_ok : R.resolve name = .ok r ↔
    R.choices name ≠ [] ∧ ∀ a ∈ R.choices name, a.resolution = r := by
  rw [resolve_abbreviation he hne ha]
  have hp := R.pairwise_candidates name
  have hex : ∀ a ∈ R.choices name, ∃ b ∈ R.candidates name, b.resolution = a.resolution :=
    fun a => exists_mem_candidates
  have hmem : ∀ a ∈ R.candidates name, a ∈ R.choices name := fun a => mem_candidates
  rcases hc : R.candidates name with _ | ⟨a, _ | ⟨b, as⟩⟩
  · rw [hc] at hex
    simp only [reduceCtorEq, false_iff, not_and]
    intro hne
    obtain ⟨a, ha⟩ := List.exists_mem_of_ne_nil _ hne
    simpa using hex a ha
  · rw [hc] at hex hmem
    simp only [Except.ok.injEq]
    have hac := hmem a List.mem_cons_self
    constructor
    · rintro rfl
      refine ⟨List.ne_nil_of_mem hac, fun b hb => ?_⟩
      obtain ⟨c, hc, hcb⟩ := hex b hb
      rw [← hcb, List.mem_singleton.mp hc]
    · exact fun h => h.2 a hac
  · rw [hc] at hmem hp
    simp only [reduceCtorEq, false_iff, not_and]
    intro _ hall
    have hab := (List.pairwise_cons.mp hp).1 b List.mem_cons_self
    exact hab ((hall a (hmem a List.mem_cons_self)).trans
      (hall b (hmem b (List.mem_cons_of_mem a List.mem_cons_self))).symm)

lemma resolve_abbreviation_ambiguous {a b : Candidate} (hac : a ∈ R.choices name)
    (hbc : b ∈ R.choices name) (hab : a.resolution ≠ b.resolution) :
    ∃ spellings, R.resolve name = .error (.ambiguousOption (Name.long name).label spellings) := by
  rw [resolve_abbreviation he hne ha]
  obtain ⟨c, hc, hca⟩ := exists_mem_candidates hac
  obtain ⟨d, hd, hdb⟩ := exists_mem_candidates hbc
  have hcd : c ≠ d := by
    rintro rfl
    exact hab (hca.symm.trans hdb)
  rcases hcs : R.candidates name with _ | ⟨e, _ | ⟨f, as⟩⟩
  · simp [hcs] at hc
  · rw [hcs, List.mem_singleton] at hc hd
    exact (hcd (hc.trans hd.symm)).elim
  · exact ⟨_, rfl⟩

end

lemma resolve_cases (R : Registry) (name : String) :
    (∃ r, R.spelled? name = some r ∧ R.resolve name = .ok r) ∨
      (¬ R.Accepts name ∧ (R.settings.exactNames = true ∨ name = "") ∧
        R.resolve name = .error (.invalidOption (Name.long name).label)) ∨
      (¬ R.Accepts name ∧ R.settings.exactNames = false ∧ name ≠ "") := by
  cases hs : R.spelled? name with
  | some r => exact .inl ⟨r, rfl, resolve_of_spelled? hs⟩
  | none =>
    have ha := spelled?_eq_none.mp hs
    by_cases hu : R.settings.exactNames = true ∨ name = ""
    · refine .inr (.inl ⟨ha, hu, ?_⟩)
      have hrefused : (R.settings.exactNames || name.isEmpty) = true := by
        simpa [String.isEmpty_iff] using hu
      simp only [resolve, hs, hrefused, if_true]
    · obtain ⟨he, hne⟩ := not_or.mp hu
      exact .inr (.inr ⟨ha, eq_false_of_ne_true he, hne⟩)

end Registry

end CommandLine
