import CommandLine.Proofs.Registry.Lookup
import CommandLine.Session

namespace CommandLine.Session

/-- A declaration that is refused changes nothing. One that is not puts a switch behind all entries:
its names are found there from now on and no others are, and for each of them that some switch had
before there is one note. -/
theorem execute_declare (s : Session) (specs : List String) (handler : Option String) :
    let after := (s.execute (.declare specs handler)).1
    let reply := (s.execute (.declare specs handler)).2
    (∀ e, reply.result = .error e → after = s ∧ reply.calls = [] ∧ reply.log = []) ∧
    ∀ left, reply.result = .ok left → ∃ t : Switch,
      (Switch.ofSpecs specs).map (fun u => { u with handler }) = .ok t ∧
      after.registry = { s.registry with entries := s.registry.entries ++ [.switch t] } ∧
      after.store = s.store ∧ reply.calls = [] ∧
      (∀ name ∈ t.names, after.registry.find? name = some ⟨s.registry.entries.length, t⟩) ∧
      (∀ name ∉ t.names, after.registry.find? name = s.registry.find? name) ∧
      reply.log = ((t.shorts.map Name.short ++ t.longs.map Name.long).filter
        fun name => s.registry.Declares name).map .shadowed := by
  intro after reply
  cases hd : s.registry.declare specs handler with
  | error e =>
    have hexecute : s.execute (.declare specs handler) = (s, { result := .error e }) := by
      simp only [execute, hd]
    have hafter : after = s := congrArg Prod.fst hexecute
    have hreply : reply = { result := .error e } := congrArg Prod.snd hexecute
    rw [hafter, hreply]
    refine ⟨fun _ _ => ⟨rfl, rfl, rfl⟩, ?_⟩
    intro left h
    cases h
  | ok p =>
    obtain ⟨R, log⟩ := p
    have hexecute : s.execute (.declare specs handler) = ({ s with registry := R }, { log }) := by
      simp only [execute, hd]
    have hafter : after = { s with registry := R } := congrArg Prod.fst hexecute
    have hreply : reply = { log } := congrArg Prod.snd hexecute
    obtain ⟨u, hu, rfl, rfl⟩ := Registry.declare_eq_ok.mp hd
    rw [hafter, hreply]
    refine ⟨?_, fun left _ => ⟨{ u with handler }, by rw [hu]; rfl, rfl, rfl, rfl, ?_, ?_, ?_⟩⟩
    · intro e h
      cases h
    · intro name hname
      rw [Registry.find?_add, if_pos hname]
    · intro name hname
      rw [Registry.find?_add, if_neg hname]
    · rw [Registry.shadowed_eq_filter]
      rfl

example : (execute {} (.declare ["-d", "--debug", "-d"] none)).2.log = [] := by rfl

end CommandLine.Session
