import CommandLine.Proofs.Switch.Placeholder
import Mathlib.Data.List.TakeWhile

/-! What holds of every declared switch. A draft is a switch of which some texts have been read; it
is checked once all have. -/

namespace CommandLine

lemma bind_eq_ok {ε α β : Type} {x : Except ε α} {f : α → Except ε β} {b : β} :
    x >>= f = .ok b ↔ ∃ a, x = .ok a ∧ f a = .ok b := by
  cases x with
  | error e => simp [bind, Except.bind]
  | ok a => simp [bind, Except.bind]

namespace Spec

def Valid : Spec → Prop
  | short c _ => isLetter c = true ∧ c ≠ '-'
  | long word _ _ => word ≠ "" ∧ ∀ c ∈ word.toList, isWordChar c = true
  | description line => line.toList.head? ≠ some '-'

lemma valid_of_read {text : String} {spec : Spec} (h : read text = .ok spec) : spec.Valid := by
  rw [read] at h
  split at h
  · rename_i cs _
    dsimp only at h
    split_ifs at h with hw
    cases h
    refine ⟨?_, ?_⟩
    · simpa [← String.toList_inj] using hw
    · intro c hc
      rw [String.toList_ofList] at hc
      exact List.mem_takeWhile_imp hc
  · rename_i c cs hne htext
    split_ifs at h with hc
    cases h
    refine ⟨hc, ?_⟩
    rintro rfl
    exact hne rfl
  · cases h
  · rename_i h₁ h₂ h₃
    cases h
    intro hh
    obtain ⟨cs, hcs⟩ := List.head?_eq_some_iff.mp hh
    cases cs with
    | nil => exact h₃ hcs
    | cons c cs => exact h₂ c cs hcs

end Spec

namespace Switch

structure Draft (s : Switch) : Prop where
  longs : ∀ word ∈ s.longs, word ≠ "" ∧ ∀ c ∈ word.toList, Spec.isWordChar c = true
  shorts : ∀ c ∈ s.shorts, Spec.isLetter c = true ∧ c ≠ '-'
  arity : match s.placeholder with
    | none => s.arity = .noValue
    | some rest => ∃ name, Arity.ofPlaceholder name rest = .ok s.arity
  negatable : s.negatable = true → s.longs ≠ []
  description : ∀ line ∈ s.description, line.toList.head? ≠ some '-'

structure WellFormed (s : Switch) : Prop extends Draft s where
  named : s.shorts ≠ [] ∨ s.longs ≠ []
  valueless : s.negatable = true → s.arity = .noValue

variable {s t : Switch} {name : Name} {rest : String} {spec : Spec}

lemma Draft.empty : ({} : Switch).Draft where
  longs := by simp
  shorts := by simp
  arity := rfl
  negatable := by simp
  description := by simp

lemma Draft.ofPlaceholder (hs : s.Draft) (hp : s.placeholder = some rest) (name : Name) :
    Arity.ofPlaceholder name rest = .ok s.arity := by
  have ha := hs.arity
  rw [hp] at ha
  obtain ⟨name', ha⟩ := ha
  rw [Arity.ofPlaceholder_eq_ok] at ha ⊢
  exact ha

lemma Draft.arity_eq_noValue_iff (hs : s.Draft) : s.arity = .noValue ↔ s.placeholder = none := by
  cases hp : s.placeholder with
  | none =>
    have ha := hs.arity
    rw [hp] at ha
    exact iff_of_true ha rfl
  | some rest =>
    obtain ⟨_, ⟨_, _, ha⟩ | ⟨_, ha⟩⟩ := Arity.ofPlaceholder_eq_ok.mp (hs.ofPlaceholder hp (.long ""))
    all_goals simp [ha]

lemma Draft.withPlaceholder (hs : s.Draft) (h : s.withPlaceholder name rest = .ok t) : t.Draft := by
  rw [Switch.withPlaceholder] at h
  split_ifs at h with hrest
  · cases h
    exact hs
  · obtain ⟨arity, ha, ht⟩ := bind_eq_ok.mp h
    cases ht
    exact ⟨hs.longs, hs.shorts, ⟨name, ha⟩, hs.negatable, hs.description⟩

lemma Draft.extend (hs : s.Draft) (hspec : spec.Valid) (h : s.extend spec = .ok t) : t.Draft := by
  cases spec with
  | short c rest =>
    apply Draft.withPlaceholder ?_ h
    refine ⟨hs.longs, ?_, hs.arity, hs.negatable, hs.description⟩
    exact List.forall_mem_append.mpr ⟨hs.shorts, List.forall_mem_singleton.mpr hspec⟩
  | long word negatable rest =>
    apply Draft.withPlaceholder ?_ h
    refine ⟨?_, hs.shorts, hs.arity, by simp, hs.description⟩
    exact List.forall_mem_append.mpr ⟨hs.longs, List.forall_mem_singleton.mpr hspec⟩
  | description line =>
    cases h
    refine ⟨hs.longs, hs.shorts, hs.arity, hs.negatable, ?_⟩
    exact List.forall_mem_append.mpr ⟨hs.description, List.forall_mem_singleton.mpr hspec⟩

lemma Draft.readSpec (hs : s.Draft) {text : String} (h : s.readSpec text = .ok t) : t.Draft := by
  obtain ⟨spec, hr, ht⟩ := bind_eq_ok.mp h
  exact hs.extend (Spec.valid_of_read hr) ht

lemma Draft.foldlM (hs : s.Draft) {texts : List String} (h : texts.foldlM Switch.readSpec s = .ok t) :
    t.Draft := by
  induction texts generalizing s with
  | nil =>
    cases h
    exact hs
  | cons text texts ih =>
    rw [List.foldlM_cons] at h
    obtain ⟨u, hr, ht⟩ := bind_eq_ok.mp h
    exact ih (hs.readSpec hr) ht

lemma Draft.checked (hs : s.Draft) (h : s.checked = .ok t) : t.WellFormed := by
  rw [Switch.checked] at h
  split_ifs at h with hnamed hvalue
  cases h
  refine ⟨hs, ?_, ?_⟩
  · exact not_and_or.mp hnamed
  · intro hneg
    by_contra harity
    exact hvalue ⟨hneg, harity⟩

lemma wellFormed_of_ofSpecs {texts : List String} (h : ofSpecs texts = .ok s) : s.WellFormed := by
  obtain ⟨t, hr, ht⟩ := bind_eq_ok.mp h
  exact (Draft.empty.foldlM hr).checked ht

end Switch

end CommandLine
