import CommandLine.Registry.Basic
import Mathlib.Data.List.Induction

/-! Whose a name is. Of the switches that declare a name, the one declared last owns it, and that is
the one found by it. -/

namespace CommandLine

namespace Switch

@[simp] lemma short_mem_names {s : Switch} {c : Char} : .short c ∈ s.names ↔ c ∈ s.shorts := by
  simp [names]

@[simp] lemma long_mem_names {s : Switch} {word : String} : .long word ∈ s.names ↔ word ∈ s.longs := by
  simp [names]

end Switch

namespace Registry

variable {R : Registry} {slot slot' : Slot} {name : Name}

lemma mem_slots : slot ∈ R.slots ↔ R.entries[slot.index]? = some (.switch slot.switch) := by
  simp only [slots, List.mem_filterMap, List.mem_reverse]
  constructor
  · rintro ⟨⟨e, index⟩, he, hs⟩
    have hget := List.mem_zipIdx_iff_getElem?.mp he
    cases e with
    | switch s =>
      obtain rfl : ⟨index, s⟩ = slot := by simpa [Entry.slot?] using hs
      exact hget
    | heading text => simp [Entry.slot?] at hs
  · intro h
    exact ⟨⟨.switch slot.switch, slot.index⟩, List.mem_zipIdx_iff_getElem?.mpr h, rfl⟩

lemma slot_unique (h : slot ∈ R.slots) (h' : slot' ∈ R.slots) (hi : slot.index = slot'.index) :
    slot = slot' := by
  rw [mem_slots] at h h'
  rw [hi, h'] at h
  rcases slot with ⟨index, s⟩
  rcases slot' with ⟨index', s'⟩
  simp only [Option.some.injEq, Entry.switch.injEq] at h hi
  rw [hi, h]

lemma pairwise_slots (R : Registry) : R.slots.Pairwise fun a b => b.index < a.index := by
  rcases R with ⟨banner, entries, settings⟩
  induction entries using List.reverseRecOn with
  | nil => exact .nil
  | append_singleton entries e ih =>
    let R : Registry := ⟨banner, entries, settings⟩
    cases e with
    | switch s =>
      change (R.add s).slots.Pairwise _
      rw [slots_add, List.pairwise_cons]
      refine ⟨fun slot hslot => ?_, ih⟩
      obtain ⟨hi, _⟩ := List.getElem?_eq_some_iff.mp (mem_slots.mp hslot)
      exact hi
    | heading text =>
      change (R.addHeading text).slots.Pairwise _
      rw [slots_addHeading]
      exact ih

def Declares (R : Registry) (name : Name) : Prop :=
  ∃ slot ∈ R.slots, name ∈ slot.switch.names

def Owns (R : Registry) (slot : Slot) (name : Name) : Prop :=
  slot ∈ R.slots ∧ name ∈ slot.switch.names ∧
    ∀ later ∈ R.slots, slot.index < later.index → name ∉ later.switch.names

lemma find?_eq_find? (R : Registry) (name : Name) :
    R.find? name = R.slots.find? fun slot => decide (name ∈ slot.switch.names) := by
  cases name with
  | short c => simp [find?, findShort?]
  | long word => simp [find?, findLong?]

lemma find?_eq_some : R.find? name = some slot ↔ R.Owns slot name := by
  rw [find?_eq_find?, List.find?_eq_some_iff_append]
  have hp := R.pairwise_slots
  constructor
  · rintro ⟨hn, before, behind, hs, hb⟩
    refine ⟨by simp [hs], by simpa using hn, fun later hl hi => ?_⟩
    rw [hs, List.pairwise_append, List.pairwise_cons] at hp
    rw [hs, List.mem_append, List.mem_cons] at hl
    rcases hl with hl | rfl | hl
    · simpa using hb later hl
    · omega
    · have := hp.2.1.1 later hl
      omega
  · rintro ⟨hslot, hn, hlast⟩
    obtain ⟨before, behind, hs⟩ := List.append_of_mem hslot
    refine ⟨by simpa using hn, before, behind, hs, fun later hl => ?_⟩
    rw [hs, List.pairwise_append] at hp
    have hi := hp.2.2 later hl slot List.mem_cons_self
    simpa using hlast later (by simp [hs, hl]) hi

lemma find?_eq_none : R.find? name = none ↔ ¬ R.Declares name := by
  simp [find?_eq_find?, Declares]

lemma declares_iff : R.Declares name ↔ ∃ slot, R.Owns slot name := by
  simp only [← find?_eq_some, ← Option.isSome_iff_exists, Option.isSome_iff_ne_none, ne_eq,
    find?_eq_none, not_not]

lemma Owns.declares (h : R.Owns slot name) : R.Declares name := ⟨slot, h.1, h.2.1⟩

lemma Owns.unique (h : R.Owns slot name) (h' : R.Owns slot' name) : slot = slot' := by
  rw [← find?_eq_some] at h h'
  exact Option.some.inj (h.symm.trans h')

lemma findShort?_eq_some {c : Char} : R.findShort? c = some slot ↔ R.Owns slot (.short c) := by
  rw [← find?_eq_some, find?]

lemma findLong?_eq_some {word : String} : R.findLong? word = some slot ↔ R.Owns slot (.long word) := by
  rw [← find?_eq_some, find?]

lemma findLong?_eq_none {word : String} : R.findLong? word = none ↔ ¬ R.Declares (.long word) := by
  rw [← find?_eq_none, find?]

lemma findNegatable?_eq_some {word : String} :
    R.findNegatable? word = some slot ↔ R.Owns slot (.long word) ∧ slot.switch.negatable = true := by
  simp [findNegatable?, Option.filter_eq_some_iff, findLong?_eq_some]

lemma find?_add (R : Registry) (s : Switch) (name : Name) :
    (R.add s).find? name = if name ∈ s.names then some ⟨R.entries.length, s⟩ else R.find? name := by
  simp only [find?_eq_find?, slots_add, List.find?_cons]
  by_cases h : name ∈ s.names <;> simp [h]

lemma owns_add (R : Registry) {s : Switch} (h : name ∈ s.names) :
    (R.add s).Owns ⟨R.entries.length, s⟩ name := by
  rw [← find?_eq_some, find?_add, if_pos h]

instance (R : Registry) (name : Name) : Decidable (R.Declares name) :=
  decidable_of_iff ((R.find? name).isSome = true) <| by
    rw [Option.isSome_iff_ne_none, ne_eq, find?_eq_none, not_not]

lemma shadowed_eq_filter (R : Registry) (s : Switch) :
    R.shadowed s = s.names.filter fun name => R.Declares name := by
  refine List.filter_congr fun name _ => ?_
  rw [Bool.eq_iff_iff, Option.isSome_iff_ne_none, ne_eq, find?_eq_none, not_not, decide_eq_true_iff]

lemma declare_eq_ok {specs : List String} {handler : Option String} {R' : Registry}
    {log : List Record} : R.declare specs handler = .ok (R', log) ↔
      ∃ t, Switch.ofSpecs specs = .ok t ∧ R.add { t with handler } = R' ∧
        (R.shadowed t).map .shadowed = log := by
  rw [declare]
  cases Switch.ofSpecs specs with
  | error fault => simp
  | ok t =>
    simp only [Except.ok.injEq, Prod.mk.injEq, exists_eq_left']

end Registry

end CommandLine
