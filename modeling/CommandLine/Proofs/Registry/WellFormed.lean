import CommandLine.Proofs.Registry.Lookup
import CommandLine.Proofs.Session.Reachable
import CommandLine.Proofs.Switch.WellFormed

namespace CommandLine.Registry

variable {R : Registry} {slot : Slot}

lemma Reachable.wellFormed (h : R.Reachable) : ∀ slot ∈ R.slots, slot.switch.WellFormed := by
  apply h.invariant (P := fun R => ∀ slot ∈ R.slots, slot.switch.WellFormed)
  · intro settings slot hslot
    simp [slots] at hslot
  · intro R texts s handler hs ih
    have hw := Switch.wellFormed_of_ofSpecs hs
    rw [slots_add, List.forall_mem_cons]
    exact ⟨⟨⟨hw.longs, hw.shorts, hw.arity, hw.negatable, hw.description⟩, hw.named, hw.valueless⟩, ih⟩
  · intro R text ih
    rwa [slots_addHeading]
  · intro R banner settings ih
    exact ih

lemma Reachable.short_ne_dash (h : R.Reachable) {c : Char} (ho : R.Owns slot (.short c)) :
    c ≠ '-' :=
  ((h.wellFormed slot ho.1).shorts c (Switch.short_mem_names.mp ho.2.1)).2

lemma Reachable.long_ne_empty (h : R.Reachable) {word : String} (ho : R.Owns slot (.long word)) :
    word ≠ "" :=
  ((h.wellFormed slot ho.1).longs word (Switch.long_mem_names.mp ho.2.1)).1

lemma Reachable.equals_notMem_long (h : R.Reachable) {word : String} (ho : R.Owns slot (.long word)) :
    '=' ∉ word.toList := by
  intro hmem
  have hc := ((h.wellFormed slot ho.1).longs word (Switch.long_mem_names.mp ho.2.1)).2 '=' hmem
  have hn : Spec.isWordChar '=' = false := by decide
  simp [hn] at hc

lemma Reachable.arity_of_negatable (h : R.Reachable) {name : Name} (ho : R.Owns slot name)
    (hn : slot.switch.negatable = true) : slot.switch.arity = .noValue :=
  (h.wellFormed slot ho.1).valueless hn

lemma exists_mem_slots {s : Switch} (h : .switch s ∈ R.entries) : ∃ slot ∈ R.slots, slot.switch = s := by
  obtain ⟨index, hi⟩ := List.mem_iff_getElem?.mp h
  exact ⟨⟨index, s⟩, mem_slots.mpr hi, rfl⟩

open Placeholder in
/-- Whatever was done to a registry, its switches can be named on a command line, a switch takes a
value if and only if its help shows one, and none that takes a value can be negated. -/
theorem Reachable.entries_wellFormed (h : R.Reachable) {s : Switch} (hs : .switch s ∈ R.entries) :
    (s.shorts ≠ [] ∨ s.longs ≠ []) ∧
    (∀ word ∈ s.longs, word ≠ "" ∧
      ∀ c ∈ word.toList, Text.isAlphanumeric c = true ∨ c = '-' ∨ c = '_') ∧
    (∀ c ∈ s.shorts, Text.isBlank c = false ∧ c ≠ '-' ∧ c ≠ '[' ∧ c ≠ '=') ∧
    (s.arity = .noValue ↔ s.placeholder = none) ∧
    (∀ rest, s.placeholder = some rest →
      (∀ name, Arity.ofPlaceholder name rest = .ok s.arity) ∧ Labelled rest ∧
        ((Opens rest ∧ Closes rest ∧ s.arity = .optional) ∨ (¬ Opens rest ∧ s.arity = .required))) ∧
    (s.negatable = true → s.longs ≠ [] ∧ s.arity = .noValue) ∧
    ∀ line ∈ s.description, line.toList.head? ≠ some '-' := by
  obtain ⟨slot, hslot, rfl⟩ := exists_mem_slots hs
  have hw := h.wellFormed slot hslot
  refine ⟨hw.named, ?_, ?_, hw.arity_eq_noValue_iff, ?_, ?_, hw.description⟩
  · intro word hword
    obtain ⟨hne, hc⟩ := hw.longs word hword
    refine ⟨hne, fun c hmem => ?_⟩
    simpa [Spec.isWordChar, or_assoc] using hc c hmem
  · intro c hc
    obtain ⟨hletter, hdash⟩ := hw.shorts c hc
    simp only [Spec.isLetter, Bool.and_eq_true, Bool.not_eq_true', bne_iff_ne] at hletter
    exact ⟨hletter.1.1, hdash, hletter.1.2, hletter.2⟩
  · intro rest hp
    exact ⟨hw.ofPlaceholder hp, Arity.ofPlaceholder_eq_ok.mp (hw.ofPlaceholder hp (.long ""))⟩
  · intro hneg
    exact ⟨hw.negatable hneg, hw.valueless hneg⟩

theorem Reachable.entries_wellFormed_output :
    let s := (Session.start {}).executeAll
      [.declare ["--[no-]level LEVEL"] none, .heading "Files:",
       .declare ["-o", "--output FILE", "--out [=FILE] ", "write to FILE"] (some "out"),
       .scan .permuting true ["--out", "--level"], .configure { exactNames := some true }]
    let output : Switch :=
      { shorts := ['o'], longs := ["output", "out"], arity := .optional
        placeholder := some " [=FILE] ", description := ["write to FILE"], handler := some "out" }
    s.registry.Reachable ∧ .switch output ∈ s.registry.entries ∧
      (∀ c ∈ "output".toList, Text.isAlphanumeric c = true ∨ c = '-' ∨ c = '_') ∧
      ∀ name, Arity.ofPlaceholder name " [=FILE] " = .ok .optional := by
  intro s output
  have hR : s.registry.Reachable := ⟨s, (Session.Reachable.start {}).executeAll _, rfl⟩
  have hs : s.registry.entries = [.heading "Files:", .switch output] := by rfl
  have hmem : .switch output ∈ s.registry.entries := by simp [hs]
  obtain ⟨_, hlongs, _, _, hplaceholder, _⟩ := hR.entries_wellFormed hmem
  exact ⟨hR, hmem, (hlongs "output" List.mem_cons_self).2, (hplaceholder _ rfl).1⟩

end CommandLine.Registry
