import CommandLine.Argument.Token
import Mathlib.Data.List.TakeWhile

/-! A token that can be written is read back from how it is written, and every argument is read as
such a token. So reading and writing are inverse to each other. -/

namespace CommandLine

def IsPositional (arg : String) : Prop := arg = "-" ∨ arg.toList.head? ≠ some '-'

def IsOption (arg : String) : Prop := arg.toList.head? = some '-' ∧ arg ≠ "-" ∧ arg ≠ "--"

namespace Token

def Writable : Token → Prop
  | sentinel => True
  | long name inline => '=' ∉ name.toList ∧ (inline = none → name ≠ "")
  | cluster letters => ∃ c cs, letters = c :: cs ∧ c ≠ '-'
  | positional arg => arg = "-" ∨ arg.toList.head? ≠ some '-'

lemma ofArg_of_dashes {cs : List Char} (hcs : cs ≠ []) :
    ofArg (String.ofList ('-' :: '-' :: cs)) =
      .long (String.ofList (cs.takeWhile (· != '='))) (inlineValue? (cs.dropWhile (· != '='))) := by
  rw [ofArg]
  rw [String.toList_ofList]
  split
  · rename_i h
    cases h
    exact (hcs rfl).elim
  · rename_i h
    cases h
    rfl
  · rename_i hsecond h
    cases h
    exact (hsecond rfl).elim
  · rename_i hthird
    exact (hthird _ _ rfl).elim

lemma ofArg_long {name : String} {inline : Option String} (heq : '=' ∉ name.toList)
    (hne : inline = none → name ≠ "") : ofArg (text (.long name inline)) = .long name inline := by
  have hall : ∀ c ∈ name.toList, (c != '=') = true := by
    intro c hc
    rw [bne_iff_ne]
    rintro rfl
    exact heq hc
  cases inline with
  | none =>
    have hcs : name.toList ≠ [] := by simpa using hne rfl
    have htext : text (.long name none) = String.ofList ('-' :: '-' :: name.toList) := by
      simp [text, ← String.toList_inj]
    rw [htext, ofArg_of_dashes hcs, List.takeWhile_eq_self_iff.mpr hall,
      List.dropWhile_eq_nil_iff.mpr hall, String.ofList_toList]
    rfl
  | some value =>
    have htext : text (.long name (some value)) =
        String.ofList ('-' :: '-' :: (name.toList ++ '=' :: value.toList)) := by
      simp [text, ← String.toList_inj]
    rw [htext, ofArg_of_dashes (by simp), List.takeWhile_append_of_pos hall,
      List.dropWhile_append_of_pos hall]
    simp [inlineValue?]

lemma ofArg_cluster {c : Char} (cs : List Char) (hc : c ≠ '-') :
    ofArg (text (.cluster (c :: cs))) = .cluster (c :: cs) := by
  have htext : text (.cluster (c :: cs)) = String.ofList ('-' :: c :: cs) := by
    simp [text]
  rw [ofArg]
  rw [htext, String.toList_ofList]
  split
  · simp_all
  · simp_all
  · simp_all
  · simp_all

lemma ofArg_positional {arg : String} (h : arg = "-" ∨ arg.toList.head? ≠ some '-') :
    ofArg arg = .positional arg := by
  rcases h with rfl | h
  · decide
  · rw [ofArg]
    split
    · simp_all
    · simp_all
    · simp_all
    · rfl

theorem ofArg_text {t : Token} (h : t.Writable) : ofArg t.text = t := by
  cases t with
  | sentinel => rfl
  | long name inline => exact ofArg_long h.1 h.2
  | cluster letters =>
    obtain ⟨c, cs, rfl, hc⟩ := h
    exact ofArg_cluster cs hc
  | positional arg => exact ofArg_positional h

theorem writable_ofArg (arg : String) : (ofArg arg).Writable := by
  rw [ofArg]
  split
  · trivial
  · rename_i cs hcs _
    refine ⟨?_, ?_⟩
    · rw [String.toList_ofList]
      intro hmem
      simpa using List.mem_takeWhile_imp hmem
    · intro hnone hempty
      have hdrop : cs.dropWhile (· != '=') = [] := by
        cases hd : cs.dropWhile (· != '=') with
        | nil => rfl
        | cons d ds => simp [hd, inlineValue?] at hnone
      have htake : cs.takeWhile (· != '=') = [] := by simpa using hempty
      apply hcs
      rw [← List.takeWhile_append_dropWhile (p := (· != '=')) (l := cs), htake, hdrop]
      rfl
  · rename_i c cs _ hc _
    refine ⟨c, cs, rfl, ?_⟩
    rintro rfl
    exact hc rfl
  · rename_i hcluster
    by_cases hd : arg.toList.head? = some '-'
    · obtain ⟨cs, hcs⟩ := List.head?_eq_some_iff.mp hd
      cases cs with
      | nil => exact .inl (String.toList_inj.mp hcs)
      | cons c cs => exact (hcluster c cs hcs).elim
    · exact .inr hd

lemma ofArg_eq_positional {arg p : String} :
    ofArg arg = .positional p ↔ arg = p ∧ IsPositional arg := by
  constructor
  · intro h
    have htext := text_ofArg arg
    have hw := writable_ofArg arg
    rw [h] at htext hw
    obtain rfl : p = arg := htext
    exact ⟨rfl, hw⟩
  · rintro ⟨rfl, h⟩
    exact ofArg_positional h

lemma ofArg_cases (arg : String) :
    (ofArg arg = .sentinel ∧ arg = "--") ∨ (ofArg arg = .positional arg ∧ IsPositional arg) ∨
      (IsOption arg ∧ ((∃ name inline, ofArg arg = .long name inline) ∨
        ∃ letter letters, ofArg arg = .cluster (letter :: letters))) := by
  have htext := text_ofArg arg
  have hw := writable_ofArg arg
  have hoption (hs : ofArg arg ≠ .sentinel) (hp : ∀ p, ofArg arg ≠ .positional p) :
      IsOption arg := by
    refine ⟨?_, ?_, ?_⟩
    · by_contra hd
      exact hp arg (ofArg_positional (.inr hd))
    · rintro rfl
      exact hp "-" (ofArg_positional (.inl rfl))
    · rintro rfl
      exact hs (by decide)
  cases ht : ofArg arg with
  | sentinel =>
    rw [ht] at htext
    exact .inl ⟨rfl, htext.symm⟩
  | positional p =>
    rw [ht] at htext hw
    obtain rfl : p = arg := htext
    exact .inr (.inl ⟨rfl, hw⟩)
  | long name inline =>
    exact .inr (.inr ⟨hoption (by simp [ht]) (by simp [ht]), .inl ⟨name, inline, rfl⟩⟩)
  | cluster letters =>
    rw [ht] at hw
    obtain ⟨letter, letters, rfl, _⟩ := hw
    exact .inr (.inr ⟨hoption (by simp [ht]) (by simp [ht]), .inr ⟨letter, letters, rfl⟩⟩)

end Token

end CommandLine
