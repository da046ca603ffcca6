import CommandLine.Proofs.Registry.Spellings
import Mathlib.Data.List.Nodup

namespace CommandLine.Registry

open Spelling

variable {R : Registry} {name option : String} {spellings : List String}

/-- A spelling that is offered to turn one switch off is a name of its own. -/
def Contested (R : Registry) (name : String) : Prop :=
  ∃ a ∈ R.candidates name, a.resolution.negated = true ∧ R.Declares (.long a.spelling)

lemma resolve_eq_ambiguousOption
    (h : R.resolve name = .error (.ambiguousOption option spellings)) :
    option = (Name.long name).label ∧ 2 ≤ (R.candidates name).length ∧
      spellings = ((R.candidates name).map Candidate.spelling).map
        fun word => (Name.long word).label := by
  rcases R.resolve_cases name with ⟨r, _, hr⟩ | ⟨_, _, hr⟩ | ⟨ha, he, hne⟩
  · cases h.symm.trans hr
  · cases h.symm.trans hr
  · rw [resolve_abbreviation he hne ha] at h
    rcases hc : R.candidates name with _ | ⟨a, _ | ⟨b, as⟩⟩
    · simp [hc] at h
    · simp [hc] at h
    · simp only [hc, Except.error.injEq, Error.ambiguousOption.injEq] at h
      exact ⟨h.1.symm, by simp, by rw [List.map_map]; exact h.2.symm⟩

lemma resolve_candidate (hc : ¬ R.Contested name) {a : Candidate} (ha : a ∈ R.candidates name) :
    R.resolve a.spelling = .ok a.resolution :=
  resolve_of_spelled? (spelled?_choice (mem_candidates ha) fun hneg hd => hc ⟨a, ha, hneg, hd⟩)

lemma Contested.exists_resolve_eq (h : R.Contested name) :
    ∃ a ∈ R.candidates name, ∃ b ∈ R.candidates name, a ≠ b ∧
      R.resolve a.spelling = R.resolve b.spelling := by
  obtain ⟨a, ha, hneg, hd⟩ := h
  -- the owner of the spelling is in the report as well, by that spelling or another
  obtain ⟨c, hc, hpos, hac⟩ := exists_choice_of_declares (mem_candidates ha) hd
  obtain ⟨b, hb, hbc⟩ := exists_mem_candidates hc
  rw [← hbc] at hpos hac
  have hbs : R.spelled? b.spelling = some b.resolution :=
    spelled?_choice (mem_candidates hb) fun hbneg => by simp [hpos] at hbneg
  refine ⟨a, ha, b, hb, ?_, ?_⟩
  · rintro rfl
    cases hneg.symm.trans hpos
  · rw [resolve_of_spelled? hac, resolve_of_spelled? hbs]

lemma nodup_resolve_iff (R : Registry) (name : String) :
    (((R.candidates name).map Candidate.spelling).map R.resolve).Nodup ↔ ¬ R.Contested name := by
  rw [List.map_map]
  constructor
  · intro hnodup hc
    obtain ⟨a, ha, b, hb, hab, heq⟩ := hc.exists_resolve_eq
    exact hab (List.inj_on_of_nodup_map hnodup ha hb heq)
  · intro hc
    refine List.pairwise_map.mpr ((R.pairwise_candidates name).imp_of_mem fun ha hb hab heq => ?_)
    rw [Function.comp_apply, Function.comp_apply, resolve_candidate hc ha,
      resolve_candidate hc hb] at heq
    exact hab (Except.ok.inj heq)

/-- A report offers two spellings or more, each of which begins with what was typed and is read and
resolved when it is typed in full. They are different, and stand for different switches or for one
switch on and off, if and only if the name is not contested. -/
theorem resolve_ambiguous_report (hR : R.Reachable)
    (h : R.resolve name = .error (.ambiguousOption option spellings)) :
    option = (Name.long name).label ∧ 2 ≤ spellings.length ∧
    (∀ s ∈ spellings, option.toList <+: s.toList) ∧
    ∃ words : List String, spellings = words.map (fun word => (Name.long word).label) ∧
      (∀ word ∈ words, Token.ofArg (Name.long word).label = .long word none ∧
        ∃ r, R.resolve word = .ok r) ∧
      (spellings.Nodup ∧ (words.map R.resolve).Nodup ↔ ¬ R.Contested name) := by
  obtain ⟨rfl, htwo, rfl⟩ := resolve_eq_ambiguousOption h
  have hwords : ∀ word ∈ (R.candidates name).map Candidate.spelling,
      R.Accepts word ∧ abbreviates name word = true := by
    intro word hword
    obtain ⟨a, ha, rfl⟩ := List.mem_map.mp hword
    exact accepts_choice (mem_candidates ha)
  refine ⟨rfl, by simpa using htwo, ?_, _, rfl, ?_, ?_⟩
  · intro s hs
    obtain ⟨word, hword, rfl⟩ := List.mem_map.mp hs
    simpa [Name.label] using abbreviates_iff.mp (hwords word hword).2
  · intro word hword
    obtain ⟨haccepts, _⟩ := hwords word hword
    obtain ⟨r, hr⟩ := accepts_iff.mp haccepts
    exact ⟨Token.ofArg_text (hR.writable_of_accepts haccepts), r, resolve_of_spelled? hr⟩
  · rw [← nodup_resolve_iff]
    refine and_iff_right_of_imp fun hnodup => ?_
    have hlabel : Function.Injective fun word => (Name.long word).label :=
      fun v w h => by simpa [Name.label] using h
    exact (List.Nodup.of_map _ hnodup).map hlabel

theorem resolve_ambiguous_report_negation :
    let R := ofDeclarations [["--[no-]color", "--caption"], ["--no-cache"], ["--caption"]]
    let color : Slot := ⟨0, { longs := ["color", "caption"], negatable := true }⟩
    let cache : Slot := ⟨1, { longs := ["no-cache"] }⟩
    R.Reachable ∧
    R.resolve "no-c" = .error (.ambiguousOption "--no-c" ["--no-color", "--no-cache"]) ∧
    R.candidates "no-c" = [⟨"no-color", color, true⟩, ⟨"no-cache", cache, false⟩] ∧
    ∃ words : List String, ["--no-color", "--no-cache"] = words.map (fun w => (Name.long w).label) ∧
      (words.map R.resolve).Nodup := by
  intro R color cache
  have hR : R.Reachable := reachable_ofDeclarations _
  have h : R.resolve "no-c" = .error (.ambiguousOption "--no-c" ["--no-color", "--no-cache"]) := by
    rfl
  have hcandidates :
      R.candidates "no-c" = [⟨"no-color", color, true⟩, ⟨"no-cache", cache, false⟩] := by
    rfl
  have hd : ¬ R.Declares (.long "no-color") := find?_eq_none.mp (by rfl)
  have hc : ¬ R.Contested "no-c" := by
    simp [Contested, hcandidates, hd]
  obtain ⟨_, _, _, words, hwords, _, hnodup⟩ := resolve_ambiguous_report hR h
  exact ⟨hR, h, hcandidates, words, hwords, (hnodup.mpr hc).2⟩

/-- A report that offers one text twice, and one that offers two names of one switch: the negation
that stands for the other switch is a name of its own. -/
theorem resolve_contested_report :
    let R := ofDeclarations [["--[no-]color"], ["--no-color"]]
    let R' := ofDeclarations [["--[no-]color"], ["--no-colour", "--no-color"]]
    let other : Slot := ⟨1, { longs := ["no-color"] }⟩
    let other' : Slot := ⟨1, { longs := ["no-colour", "no-color"] }⟩
    (R.Reachable ∧
      R.resolve "no-c" = .error (.ambiguousOption "--no-c" ["--no-color", "--no-color"]) ∧
      R.resolve "no-color" = .ok ⟨other, false⟩) ∧
    R'.Reachable ∧
      R'.resolve "no-c" = .error (.ambiguousOption "--no-c" ["--no-color", "--no-colour"]) ∧
      R'.resolve "no-color" = .ok ⟨other', false⟩ ∧ R'.resolve "no-colour" = .ok ⟨other', false⟩ := by
  intro R R' other other'
  exact ⟨⟨reachable_ofDeclarations _, by rfl, by rfl⟩, reachable_ofDeclarations _, by rfl, by rfl,
    by rfl⟩

end CommandLine.Registry
