import CommandLine.Proofs.Scan.Composition
import CommandLine.Proofs.Scan.Rendering
import CommandLine.Proofs.Switch.Declaration

namespace CommandLine

open Spelling

namespace Registry

lemma resolve_declare {R R' : Registry} {specs : List String} {handler : Option String}
    {log : List Record} {word rest text : String} (h : R.declare specs handler = .ok (R', log))
    (hmem : text ∈ specs) (hr : Spec.read text = .ok (.long word true rest)) :
    ∃ s, R' = R.add s ∧ word ∈ s.longs ∧ s.negatable = true ∧
      R'.resolve word = .ok ⟨⟨R.entries.length, s⟩, false⟩ ∧
      (¬ R'.Declares (.long (negation word)) →
        R'.resolve (negation word) = .ok ⟨⟨R.entries.length, s⟩, true⟩) := by
  obtain ⟨t, ht, rfl, _⟩ := declare_eq_ok.mp h
  obtain ⟨hword, hneg⟩ := Switch.mem_longs_of_ofSpecs ht hmem hr
  have ho : (R.add { t with handler }).Owns ⟨R.entries.length, { t with handler }⟩ (.long word) :=
    R.owns_add (Switch.long_mem_names.mpr hword)
  refine ⟨{ t with handler }, rfl, hword, hneg, resolve_of_spelled? (spelled?_of_owns ho), ?_⟩
  intro hd
  exact resolve_of_spelled? (spelled?_of_negatable ho hneg hd)

end Registry

namespace Session

/-- If no switch declares the negation of a word as a name of its own, it turns off the switch that the
word belongs to. -/
theorem execute_negation {s : Session} (hR : s.registry.Reachable) (word : String) :
    let arg := (Name.long (negation word)).label
    (∀ slot, s.registry.Owns slot (.long word) → slot.switch.negatable = true →
      ¬ s.registry.Declares (.long (negation word)) →
      (∀ mode rest, s.registry.Reads mode ⟨arg :: rest, false⟩ [.matched ⟨slot, .flag false⟩] []
        ⟨rest, false⟩) ∧
      ∀ mode, (s.execute (.scan mode true [arg])).2.result = .ok [] ∧
        (s.execute (.scan mode true [arg])).1.store[slot.switch.key]? = some (.flag false)) ∧
    (word ≠ "" → (∀ c ∈ word.toList, Spec.isWordChar c = true) → ∀ handler,
      (∃ R' log, s.registry.declare ["--[no-]" ++ word] handler = .ok (R', log)) ∧
      ∀ specs R' log, "--[no-]" ++ word ∈ specs → s.registry.declare specs handler = .ok (R', log) →
        ∃ t, R' = s.registry.add t ∧
          R'.resolve word = .ok ⟨⟨s.registry.entries.length, t⟩, false⟩ ∧
          (¬ R'.Declares (.long (negation word)) →
            R'.resolve (negation word) = .ok ⟨⟨s.registry.entries.length, t⟩, true⟩)) := by
  intro arg
  constructor
  · intro slot ho hneg hd
    have hreads : ∀ mode rest, s.registry.Reads mode ⟨arg :: rest, false⟩
        [.matched ⟨slot, .flag false⟩] [] ⟨rest, false⟩ :=
      fun mode => Registry.reads_negation hR ho hneg hd
    refine ⟨hreads, fun mode => ?_⟩
    have ht : s.registry.trace mode ⟨[arg], false⟩ = ⟨[.matched ⟨slot, .flag false⟩], .ok []⟩ := by
      rw [(hreads mode []).trace, Registry.trace_exhausted]
      rfl
    rw [execute_scan_eq, ht]
    refine ⟨rfl, ?_⟩
    exact Std.TreeMap.getElem?_insert_self
  · intro hne hc handler
    constructor
    · exact ⟨_, _, Registry.declare_eq_ok.mpr ⟨_, Switch.ofSpecs_negatable hne hc, rfl, rfl⟩⟩
    · intro specs R' log hmem h
      obtain ⟨t, rfl, _, _, hword, hnegation⟩ :=
        Registry.resolve_declare h hmem (Spec.read_negatable hne hc)
      exact ⟨t, rfl, hword, hnegation⟩

theorem execute_negation_color :
    let R := Registry.ofDeclarations [["--color"], ["-c", "--[no-]color"], ["--no-colour"]]
    let s : Session := { registry := R }
    let slot : Slot := ⟨1, { shorts := ['c'], longs := ["color"], negatable := true }⟩
    R.Reachable ∧ R.Owns slot (.long "color") ∧ ¬ R.Declares (.long "no-color") ∧
      (s.execute (.scan .permuting true ["--no-color"])).1.store["color"]? = some (.flag false) ∧
      ∃ t, (R.add t).resolve "color" = .ok ⟨⟨3, t⟩, false⟩ := by
  intro R s slot
  have hR : R.Reachable := Registry.reachable_ofDeclarations _
  have ho : R.Owns slot (.long "color") := Registry.find?_eq_some.mp (by rfl)
  have hd : ¬ R.Declares (.long "no-color") := Registry.find?_eq_none.mp (by rfl)
  obtain ⟨hmatch, hdeclare⟩ := execute_negation (s := s) hR "color"
  have hword : "color".toList.all Spec.isWordChar = true := by decide
  obtain ⟨⟨R', log, h⟩, hlast⟩ := hdeclare (by decide) (List.all_eq_true.mp hword) none
  obtain ⟨t, rfl, ht, _⟩ := hlast _ R' log (List.mem_singleton.mpr rfl) h
  exact ⟨hR, ho, hd, ((hmatch slot ho rfl hd).2 .permuting).2, t, ht⟩

/-- A switch that declares the negation as its name has it, whether it was declared before the switch
that could be negated or behind it. -/
theorem negation_declared :
    let R := Registry.ofDeclarations [["--[no-]color"], ["--no-color"]]
    let R' := Registry.ofDeclarations [["--[no-]color"], ["--no-color"], ["--[no-]color"]]
    let color : Switch := { longs := ["color"], negatable := true }
    let other : Slot := ⟨1, { longs := ["no-color"] }⟩
    (R.Reachable ∧ R.Owns ⟨0, color⟩ (.long "color") ∧
      R.trace .permuting ⟨["--no-color"], false⟩ = ⟨[.matched ⟨other, .flag true⟩], .ok []⟩) ∧
    R'.Reachable ∧ R'.Owns ⟨2, color⟩ (.long "color") ∧
      R'.trace .permuting ⟨["--no-color"], false⟩ = ⟨[.matched ⟨other, .flag true⟩], .ok []⟩ := by
  intro R R' color other
  have ho : R.Owns ⟨0, color⟩ (.long "color") := Registry.find?_eq_some.mp (by rfl)
  have ho' : R'.Owns ⟨2, color⟩ (.long "color") := Registry.find?_eq_some.mp (by rfl)
  exact ⟨⟨Registry.reachable_ofDeclarations _, ho, (R.trace_unrolled _ _).trans (by rfl)⟩,
    Registry.reachable_ofDeclarations _, ho', (R'.trace_unrolled _ _).trans (by rfl)⟩

end Session

end CommandLine
