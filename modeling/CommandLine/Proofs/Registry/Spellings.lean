import CommandLine.Proofs.Argument.Token
import CommandLine.Proofs.Registry.Abbreviation
import CommandLine.Proofs.Registry.WellFormed

namespace CommandLine.Registry

open Spelling

variable {R : Registry} {name : String} {a : Candidate} {r : Resolution}

lemma Reachable.writable_of_accepts (hR : R.Reachable) (h : R.Accepts name) :
    (Token.long name none).Writable := by
  rcases h with hd | ⟨word, slot, rfl, ho, _⟩
  · obtain ⟨slot, ho⟩ := declares_iff.mp hd
    exact ⟨hR.equals_notMem_long ho, fun _ => hR.long_ne_empty ho⟩
  · refine ⟨?_, fun _ => ?_⟩
    · simpa [toList_negation] using hR.equals_notMem_long ho
    · simp [← String.toList_inj, toList_negation]

lemma accepts_choice (h : a ∈ R.choices name) :
    R.Accepts a.spelling ∧ abbreviates name a.spelling = true := by
  obtain ⟨word, slot, ho, ⟨hw, rfl⟩ | ⟨_, hn, hneg, rfl⟩⟩ := mem_choices.mp h
  · exact ⟨accepts_of_owns ho, hw⟩
  · exact ⟨accepts_negation ho hneg, hn⟩

lemma spelled?_choice (h : a ∈ R.choices name)
    (hd : a.resolution.negated = true → ¬ R.Declares (.long a.spelling)) :
    R.spelled? a.spelling = some a.resolution := by
  obtain ⟨word, slot, ho, ⟨_, rfl⟩ | ⟨_, _, hneg, rfl⟩⟩ := mem_choices.mp h
  · exact spelled?_of_owns ho
  · exact spelled?_of_negatable ho hneg (hd rfl)

lemma exists_choice_of_declares (h : a ∈ R.choices name) (hd : R.Declares (.long a.spelling)) :
    ∃ b ∈ R.choices name, b.resolution.negated = false ∧ R.spelled? a.spelling = some b.resolution := by
  obtain ⟨slot, ho⟩ := declares_iff.mp hd
  obtain ⟨b, hb, hr⟩ := choice_of_owns ho (accepts_choice h).2
  exact ⟨b, hb, by rw [hr], by rw [spelled?_of_owns ho, hr]⟩

lemma choices_ne_nil_iff :
    R.choices name ≠ [] ↔ ∃ s, R.Accepts s ∧ abbreviates name s = true := by
  constructor
  · intro h
    obtain ⟨a, ha⟩ := List.exists_mem_of_ne_nil _ h
    exact ⟨a.spelling, accepts_choice ha⟩
  · rintro ⟨s, hd | ⟨word, slot, rfl, ho, hneg⟩, hs⟩
    · obtain ⟨slot, ho⟩ := declares_iff.mp hd
      obtain ⟨a, ha, _⟩ := choice_of_owns ho hs
      exact List.ne_nil_of_mem ha
    · by_cases hw : abbreviates name word = true
      · obtain ⟨a, ha, _⟩ := choice_of_owns ho hw
        exact List.ne_nil_of_mem ha
      · have hc := mem_choices.mpr ⟨word, slot, ho, .inr ⟨by simpa using hw, hs, hneg, rfl⟩⟩
        exact List.ne_nil_of_mem hc

lemma exists_spelling_of_resolve (h : R.resolve name = .ok r) :
    ∃ s, R.Accepts s ∧ abbreviates name s = true ∧ R.spelled? s = some r := by
  rcases R.resolve_cases name with ⟨r', hs, hr⟩ | ⟨_, _, hr⟩ | ⟨ha, he, hne⟩
  · obtain rfl : r' = r := Except.ok.inj (hr.symm.trans h)
    exact ⟨name, accepts_iff.mpr ⟨_, hs⟩, abbreviates_iff.mpr (List.prefix_refl _), hs⟩
  · cases hr.symm.trans h
  · obtain ⟨hc, hall⟩ := (resolve_abbreviation_eq_ok he hne ha).mp h
    obtain ⟨a, hac⟩ := List.exists_mem_of_ne_nil _ hc
    obtain ⟨hs, hbegins⟩ := accepts_choice hac
    refine ⟨a.spelling, hs, hbegins, ?_⟩
    rw [← hall a hac]
    apply spelled?_choice hac
    -- if the negation were a name of its own, that name would be another choice
    intro hneg hd
    obtain ⟨b, hbc, hpos, _⟩ := exists_choice_of_declares hac hd
    rw [hall a hac, ← hall b hbc, hpos] at hneg
    cases hneg

lemma owns_of_resolve (h : R.resolve name = .ok r) : ∃ word, R.Owns r.slot (.long word) := by
  obtain ⟨s, _, _, hs⟩ := exists_spelling_of_resolve h
  rcases spelled?_eq_some.mp hs with ⟨ho, _⟩ | ⟨_, _, word, _, ho, _⟩
  · exact ⟨s, ho⟩
  · exact ⟨word, ho⟩

lemma Reachable.writable_of_resolve (hR : R.Reachable) (h : R.resolve name = .ok r) :
    (Token.long name none).Writable := by
  obtain ⟨s, ha, hs, _⟩ := exists_spelling_of_resolve h
  refine ⟨fun hmem => ?_, ?_⟩
  · exact (hR.writable_of_accepts ha).1 ((abbreviates_iff.mp hs).subset hmem)
  · rintro _ rfl
    rcases R.resolve_cases "" with ⟨r', hspelled, _⟩ | ⟨_, _, hr⟩ | ⟨_, _, hne⟩
    · exact (hR.writable_of_accepts (accepts_iff.mpr ⟨r', hspelled⟩)).2 rfl rfl
    · cases hr.symm.trans h
    · exact hne rfl

lemma Reachable.arity_of_negated (hR : R.Reachable) (h : R.resolve name = .ok r)
    (hn : r.negated = true) : r.slot.switch.arity = .noValue := by
  obtain ⟨s, _, _, hs⟩ := exists_spelling_of_resolve h
  rcases spelled?_eq_some.mp hs with ⟨_, hp⟩ | ⟨_, _, word, _, ho, hneg⟩
  · cases hp.symm.trans hn
  · exact hR.arity_of_negatable ho hneg

section

variable {word : String} {slot : Slot}

structure Apart (R : Registry) : Prop where
  positive : ∀ slot ∈ R.slots, slot.switch.negatable = false
  shorts : ∀ slot ∈ R.slots, ∀ slot' ∈ R.slots, ∀ c ∈ slot.switch.shorts,
    c ∈ slot'.switch.shorts → slot = slot'
  nonempty : ∀ slot ∈ R.slots, ∀ word ∈ slot.switch.longs, word ≠ ""
  longs : ∀ slot ∈ R.slots, ∀ slot' ∈ R.slots, ∀ word ∈ slot.switch.longs,
    ∀ word' ∈ slot'.switch.longs, word.toList.head? = word'.toList.head? → slot = slot'

namespace Apart

variable (h : R.Apart)
include h

lemma owns {name : Name} (hslot : slot ∈ R.slots) (hname : name ∈ slot.switch.names) :
    R.Owns slot name := by
  refine ⟨hslot, hname, fun later hlater hlt hmem => ?_⟩
  have hsame : slot = later := by
    cases name with
    | short c =>
      exact h.shorts slot hslot later hlater c (Switch.short_mem_names.mp hname)
        (Switch.short_mem_names.mp hmem)
    | long word =>
      exact h.longs slot hslot later hlater word (Switch.long_mem_names.mp hname) word
        (Switch.long_mem_names.mp hmem) rfl
  rw [hsame] at hlt
  exact Nat.lt_irrefl _ hlt

lemma findShort?_eq_some {c : Char} :
    R.findShort? c = some slot ↔ slot ∈ R.slots ∧ c ∈ slot.switch.shorts := by
  rw [Registry.findShort?_eq_some]
  constructor
  · exact fun ho => ⟨ho.1, Switch.short_mem_names.mp ho.2.1⟩
  · exact fun hc => h.owns hc.1 (Switch.short_mem_names.mpr hc.2)

lemma spelled?_eq_some : R.spelled? name = some r ↔ R.Owns r.slot (.long name) ∧ r.negated = false := by
  rw [Registry.spelled?_eq_some, or_iff_left]
  rintro ⟨_, _, word, _, ho, hneg⟩
  cases (h.positive _ ho.1).symm.trans hneg

lemma slot_eq (hne : name ≠ "") {slot' : Slot} {word' : String} (ho : R.Owns slot (.long word))
    (hw : abbreviates name word = true) (ho' : R.Owns slot' (.long word'))
    (hw' : abbreviates name word' = true) : slot = slot' := by
  obtain ⟨c, cs, hname⟩ := List.exists_cons_of_ne_nil (l := name.toList) (by simpa using hne)
  have hhead {word : String} (hw : abbreviates name word = true) : word.toList.head? = some c := by
    obtain ⟨behind, hword⟩ := abbreviates_iff.mp hw
    rw [← hword, hname]
    rfl
  exact h.longs slot ho.1 slot' ho'.1 word (Switch.long_mem_names.mp ho.2.1) word'
    (Switch.long_mem_names.mp ho'.2.1) ((hhead hw).trans (hhead hw').symm)

lemma resolve_eq_ok (he : R.settings.exactNames = false) :
    R.resolve name = .ok r ↔ name ≠ "" ∧ r.negated = false ∧ r.slot ∈ R.slots ∧
      ∃ word ∈ r.slot.switch.longs, abbreviates name word = true := by
  constructor
  · intro hr
    obtain ⟨s, _, hbegins, hs⟩ := exists_spelling_of_resolve hr
    obtain ⟨ho, hpos⟩ := h.spelled?_eq_some.mp hs
    refine ⟨?_, hpos, ho.1, s, Switch.long_mem_names.mp ho.2.1, hbegins⟩
    rintro rfl
    rcases R.resolve_cases "" with ⟨r', hs', _⟩ | ⟨_, _, hr'⟩ | ⟨_, _, hne⟩
    · have ho' := (h.spelled?_eq_some.mp hs').1
      exact h.nonempty _ ho'.1 "" (Switch.long_mem_names.mp ho'.2.1) rfl
    · cases hr'.symm.trans hr
    · exact hne rfl
  · rintro ⟨hne, hpos, hslot, word, hword, hbegins⟩
    obtain ⟨slot, negated⟩ := r
    obtain rfl : negated = false := hpos
    have ho : R.Owns slot (.long word) := h.owns hslot (Switch.long_mem_names.mpr hword)
    by_cases ha : R.Accepts name
    · obtain ⟨⟨slot', negated⟩, hr'⟩ := accepts_iff.mp ha
      obtain ⟨ho', rfl⟩ : R.Owns slot' (.long name) ∧ negated = false := h.spelled?_eq_some.mp hr'
      have hself : abbreviates name name = true := abbreviates_iff.mpr (List.prefix_refl _)
      rw [resolve_of_spelled? hr', h.slot_eq hne ho hbegins ho' hself]
    · refine (resolve_abbreviation_eq_ok he hne ha).mpr ⟨?_, fun a hac => ?_⟩
      · exact choices_ne_nil_iff.mpr ⟨word, accepts_of_owns ho, hbegins⟩
      · obtain ⟨word', slot', ho', ⟨hw', rfl⟩ | ⟨_, _, hneg, _⟩⟩ := mem_choices.mp hac
        · rw [h.slot_eq hne ho hbegins ho' hw']
        · cases (h.positive _ ho'.1).symm.trans hneg

end Apart

end

end CommandLine.Registry
