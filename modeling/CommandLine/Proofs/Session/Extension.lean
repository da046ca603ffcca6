import CommandLine.Proofs.Registry.Resolution
import CommandLine.Proofs.Scan.Composition
import CommandLine.Proofs.Scan.Extension

namespace CommandLine

open Spelling

namespace Registry

variable {R : Registry} {t : Switch} {name : String}

lemma spelled?_add (hnew : ∀ word ∈ t.longs, ¬ R.Accepts word) (ha : R.Accepts name) :
    (R.add t).spelled? name = R.spelled? name := by
  have hfind {word : String} (hw : word ∉ t.longs) : (R.add t).findLong? word = R.findLong? word := by
    have hn : Name.long word ∉ t.names := mt Switch.long_mem_names.mp hw
    simpa [find?, hn] using R.find?_add t (.long word)
  have hname : name ∉ t.longs := fun hmem => hnew name hmem ha
  simp only [spelled?, hfind hname]
  cases hf : R.findLong? name with
  | some slot => rfl
  | none =>
    -- `name` is the negation of a word, so `t` must not take over that word either
    obtain ⟨word, slot, rfl, ho, _⟩ := ha.resolve_left (findLong?_eq_none.mp hf)
    have hword : word ∉ t.longs := fun hmem => hnew word hmem (.inl ho.declares)
    simp only [negated?_eq_some.mpr rfl, Option.bind_some, findNegatable?, hfind hword]

lemma extendedBy_add (he : R.settings.exactNames = true)
    (hshort : ∀ c ∈ t.shorts, ¬ R.Declares (.short c)) (hlong : ∀ word ∈ t.longs, ¬ R.Accepts word) :
    R.ExtendedBy (fun e => ∃ option, e = .invalidOption option) (R.add t) := by
  refine ⟨fun letter => ?_, fun name => ?_⟩
  · by_cases hc : letter ∈ t.shorts
    · right
      exact ⟨find?_eq_none.mpr (hshort letter hc), _, rfl⟩
    · left
      have hn : Name.short letter ∉ t.names := mt Switch.short_mem_names.mp hc
      simpa [find?, hn] using R.find?_add t (.short letter)
  · rcases R.resolve_cases name with ⟨r, hs, hr⟩ | ⟨_, _, hr⟩ | ⟨_, hexact, _⟩
    · left
      have ha : R.Accepts name := accepts_iff.mpr ⟨r, hs⟩
      rw [hr, resolve_of_spelled? ((spelled?_add hlong ha).trans hs)]
    · exact .inr ⟨_, ⟨_, rfl⟩, hr⟩
    · cases he.symm.trans hexact

def withExactNames (R : Registry) (exactNames : Bool) : Registry :=
  { R with settings := { R.settings with exactNames } }

lemma extendedBy_withExactNames (R : Registry) :
    (R.withExactNames true).ExtendedBy
      (fun e => ∃ word, word ≠ "" ∧ e = .invalidOption (Name.long word).label)
      (R.withExactNames false) := by
  refine ⟨fun letter => .inl rfl, fun name => ?_⟩
  rcases (R.withExactNames true).resolve_cases name with ⟨r, hs, hr⟩ | ⟨ha, _, hr⟩ | ⟨_, he, _⟩
  · left
    rw [hr]
    exact resolve_of_spelled? hs
  · by_cases hne : name = ""
    · left
      subst hne
      rw [hr]
      rcases (R.withExactNames false).resolve_cases "" with ⟨r, hs, _⟩ | ⟨_, _, hr'⟩ | ⟨_, _, hne⟩
      · exact (ha (accepts_iff.mpr ⟨r, hs⟩)).elim
      · exact hr'
      · exact (hne rfl).elim
    · exact .inr ⟨_, ⟨name, hne, rfl⟩, hr⟩
  · cases he

end Registry

namespace Session

variable (s : Session) (mode : Mode) (stored : Bool) (args : List String)

lemma execute_scan_congr {s s' : Session} {mode : Mode} {args : List String} (stored : Bool)
    (hs : s'.store = s.store)
    (ht : s'.registry.trace mode ⟨args, false⟩ = s.registry.trace mode ⟨args, false⟩) :
    (s'.execute (.scan mode stored args)).2 = (s.execute (.scan mode stored args)).2 ∧
      (s'.execute (.scan mode stored args)).1.store =
        (s.execute (.scan mode stored args)).1.store := by
  rw [execute_scan_eq, execute_scan_eq, ht]
  exact ⟨rfl, by simp only [storing, hs]⟩

/-- A switch whose names stood for nothing changes no command line that had no unknown option. -/
theorem execute_scan_declare {specs : List String} {t : Switch} (ht : Switch.ofSpecs specs = .ok t)
    (he : s.registry.settings.exactNames = true)
    (hshort : ∀ c ∈ t.shorts, ¬ s.registry.Declares (.short c))
    (hlong : ∀ word ∈ t.longs, ¬ s.registry.Accepts word)
    (hvalid : ∀ option,
      (s.execute (.scan mode stored args)).2.result ≠ .error (.invalidOption option))
    (handler : Option String) :
    let s' := (s.execute (.declare specs handler)).1
    s'.registry.trace mode ⟨args, false⟩ = s.registry.trace mode ⟨args, false⟩ ∧
      (s'.execute (.scan mode stored args)).2 = (s.execute (.scan mode stored args)).2 ∧
      (s'.execute (.scan mode stored args)).1.store =
        (s.execute (.scan mode stored args)).1.store := by
  intro s'
  have hs' : s' = { s with registry := s.registry.add { t with handler } } := by
    simp only [s', execute, Registry.declare, ht]
  have htrace : s'.registry.trace mode ⟨args, false⟩ = s.registry.trace mode ⟨args, false⟩ := by
    rw [hs']
    apply (Registry.extendedBy_add (t := { t with handler }) he hshort hlong).trace_eq
    rintro _ ⟨option, rfl⟩ ho
    apply hvalid option
    rw [execute_scan_eq]
    exact ho
  exact ⟨htrace, execute_scan_congr stored (by rw [hs']) htrace⟩

theorem execute_scan_declare_loud :
    let s := (Session.start { exactNames := true }).executeAll
      [.declare ["-o", "--output FILE"] none, .declare ["-q", "--[no-]quiet"] none]
    let s' := (s.execute (.declare ["-v", "--no-verbose", "--[no-]loud"] none)).1
    let args := ["-qo", "-v", "a", "--no-quiet", "--", "--no-loud"]
    s.Reachable ∧ (s.execute (.scan .permuting true args)).2.result = .ok ["a", "--no-loud"] ∧
      (s'.execute (.scan .permuting true args)).2 = (s.execute (.scan .permuting true args)).2 ∧
      (s'.execute (.scan .permuting true args)).1.store =
        (s.execute (.scan .permuting true args)).1.store := by
  intro s s' args
  have hs : s.Reachable := (Reachable.start { exactNames := true }).executeAll _
  have hresult : (s.execute (.scan .permuting true args)).2.result = .ok ["a", "--no-loud"] := by
    rw [execute_scan_unrolled]
    rfl
  have hv : ¬ s.registry.Declares (.short 'v') := Registry.find?_eq_none.mp (by rfl)
  have hverbose : ¬ s.registry.Accepts "no-verbose" := Registry.spelled?_eq_none.mp (by rfl)
  have hloud : ¬ s.registry.Accepts "loud" := Registry.spelled?_eq_none.mp (by rfl)
  let t : Switch := { shorts := ['v'], longs := ["no-verbose", "loud"], negatable := true }
  have ht : Switch.ofSpecs ["-v", "--no-verbose", "--[no-]loud"] = .ok t := by rfl
  have hkept := s.execute_scan_declare .permuting true args ht (by rfl) (by simpa [t] using hv)
    (by simpa [t] using ⟨hverbose, hloud⟩) (by simp [hresult]) none
  exact ⟨hs, hresult, hkept.2⟩

/-- Allowing abbreviations changes nothing before a long name that was refused, and nothing at all if
none was. The refusal of a short name, which is one dash and a letter, is not affected. -/
theorem execute_scan_exactNames :
    let exact : Session := { s with registry := s.registry.withExactNames true }
    let lenient : Session := { s with registry := s.registry.withExactNames false }
    let t := exact.registry.trace mode ⟨args, false⟩
    let u := lenient.registry.trace mode ⟨args, false⟩
    t.found <+: u.found ∧
    ((∀ word, word ≠ "" → (exact.execute (.scan mode stored args)).2.result ≠
        .error (.invalidOption (Name.long word).label)) →
      u = t ∧ (lenient.execute (.scan mode stored args)).2 = (exact.execute (.scan mode stored args)).2 ∧
      (lenient.execute (.scan mode stored args)).1.store =
        (exact.execute (.scan mode stored args)).1.store) := by
  intro exact lenient t u
  have hext := s.registry.extendedBy_withExactNames
  refine ⟨hext.found_prefix mode _, fun hr => ?_⟩
  have hu : u = t := by
    apply hext.trace_eq
    rintro _ ⟨word, hne, rfl⟩ ho
    apply hr word hne
    rw [execute_scan_eq]
    exact ho
  exact ⟨hu, execute_scan_congr stored rfl hu⟩

theorem execute_scan_exactNames_output :
    let R := Registry.ofDeclarations [["-o", "--output FILE"], ["--[no-]quiet"]]
    let exact : Session := { registry := R.withExactNames true }
    let lenient : Session := { registry := R.withExactNames false }
    let args := ["--no-quiet", "-o", "x", "y"]
    let short := ["--no-quiet", "--out", "x", "y"]
    (exact.execute (.scan .permuting true args)).2.result = .ok ["y"] ∧
    (lenient.execute (.scan .permuting true args)).2 = (exact.execute (.scan .permuting true args)).2 ∧
    (exact.execute (.scan .permuting true short)).2.result = .error (.invalidOption "--out") ∧
    (lenient.execute (.scan .permuting true short)).2.result = .ok ["y"] := by
  intro R exact lenient args short
  have hfull : (exact.execute (.scan .permuting true args)).2.result = .ok ["y"] := by
    rw [execute_scan_unrolled]
    rfl
  have hkept := (execute_scan_exactNames { registry := R } .permuting true args).2 fun word _ => by
    change (exact.execute (.scan .permuting true args)).2.result ≠ _
    simp [hfull]
  refine ⟨hfull, hkept.2.1, ?_, ?_⟩
  · rw [execute_scan_unrolled]
    rfl
  · rw [execute_scan_unrolled]
    rfl

end Session

end CommandLine
