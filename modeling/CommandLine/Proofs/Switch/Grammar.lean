import CommandLine.Proofs.Switch.WellFormed
import CommandLine.Registry.Basic

namespace CommandLine

namespace Spec

variable {s : String} {spec : Spec}

/-- What stands behind a long name does not continue it. -/
def Delimited : Spec → Prop
  | long _ _ rest => ∀ c ∈ rest.toList.head?, isWordChar c = false
  | _ => True

lemma isWordChar_eq_true {c : Char} :
    isWordChar c = true ↔ Text.isAlphanumeric c = true ∨ c = '-' ∨ c = '_' := by
  simp [isWordChar, or_assoc]

lemma isLetter_eq_true {c : Char} :
    isLetter c = true ↔ Text.isBlank c = false ∧ c ≠ '[' ∧ c ≠ '=' := by
  simp [isLetter, and_assoc]

def negationMark (negatable : Bool) : List Char :=
  if negatable then ['[', 'n', 'o', '-', ']'] else []

lemma toList_text_long (word : String) (negatable : Bool) (rest : String) :
    (long word negatable rest).text.toList =
      '-' :: '-' :: (negationMark negatable ++ (word.toList ++ rest.toList)) := by
  cases negatable <;> simp [text, negationMark]

lemma toList_text_short (c : Char) (rest : String) :
    (short c rest).text.toList = '-' :: c :: rest.toList := by
  simp [text, Name.label]

lemma negationMark_append_readNegation (cs : List Char) :
    negationMark (readNegation cs).1 ++ (readNegation cs).2 = cs := by
  unfold readNegation
  split <;> rfl

lemma readNegation_append {cs : List Char} (hcs : cs.head? ≠ some '[') (negatable : Bool) :
    readNegation (negationMark negatable ++ cs) = (negatable, cs) := by
  cases negatable with
  | true => rfl
  | false =>
    unfold readNegation negationMark
    split
    · simp_all
    · rfl

lemma read_of_dashes {cs : List Char} (h : s.toList = '-' :: '-' :: cs) :
    read s =
      if (readNegation cs).2.takeWhile isWordChar = [] then .error (.longName s)
      else .ok (.long (String.ofList ((readNegation cs).2.takeWhile isWordChar)) (readNegation cs).1
        (String.ofList ((readNegation cs).2.dropWhile isWordChar))) := by
  unfold read
  rw [h]
  simp [List.isEmpty_iff]

lemma read_of_dash {c : Char} {cs : List Char} (h : s.toList = '-' :: c :: cs) (hc : c ≠ '-') :
    read s = if isLetter c = true then .ok (.short c (String.ofList cs)) else .error (.shortName s) := by
  unfold read
  rw [h]
  split
  · simp_all
  · simp_all
  · simp_all
  · simp_all

lemma read_of_undashed (h : s.toList.head? ≠ some '-') : read s = .ok (.description s) := by
  unfold read
  split
  · simp_all
  · simp_all
  · simp_all
  · rfl

lemma exists_dashed (s : String) :
    s.toList.head? ≠ some '-' ∨ s.toList = ['-'] ∨ (∃ cs, s.toList = '-' :: '-' :: cs) ∨
      ∃ c cs, s.toList = '-' :: c :: cs ∧ c ≠ '-' := by
  rcases s.toList with _ | ⟨d, _ | ⟨c, cs⟩⟩
  · simp
  · by_cases hd : d = '-' <;> simp [hd]
  · by_cases hd : d = '-' <;> by_cases hc : c = '-' <;> simp [hd, hc]

lemma text_read (h : read s = .ok spec) : s = spec.text ∧ spec.Delimited := by
  rw [← String.toList_inj]
  rcases exists_dashed s with hs | hs | ⟨cs, hs⟩ | ⟨c, cs, hs, hc⟩
  · rw [read_of_undashed hs] at h
    cases h
    exact ⟨rfl, trivial⟩
  · simp [read, hs] at h
  · rw [read_of_dashes hs] at h
    split_ifs at h
    cases h
    refine ⟨?_, ?_⟩
    · rw [toList_text_long, String.toList_ofList, String.toList_ofList,
        List.takeWhile_append_dropWhile, negationMark_append_readNegation, hs]
    · intro c hc
      rw [String.toList_ofList] at hc
      have hnot := List.head?_dropWhile_not isWordChar (readNegation cs).2
      rw [Option.mem_def.mp hc] at hnot
      exact hnot
  · rw [read_of_dash hs hc] at h
    split_ifs at h
    cases h
    exact ⟨by rw [toList_text_short, String.toList_ofList, hs], trivial⟩

lemma head?_ne_bracket {word : String} {negatable : Bool} {rest : String}
    (hv : (long word negatable rest).Valid) (cs : List Char) :
    (word.toList ++ cs).head? ≠ some '[' := by
  obtain ⟨hne, hword⟩ := hv
  obtain ⟨c, ds, hds⟩ := List.exists_cons_of_ne_nil (String.toList_eq_nil_iff.not.mpr hne)
  have hc := hword c (by simp [hds])
  have hn : isWordChar '[' = false := by decide
  intro h
  obtain rfl : c = '[' := by simpa [hds] using h
  cases hc.symm.trans hn

lemma read_text (hv : spec.Valid) (hd : spec.Delimited) : read spec.text = .ok spec := by
  cases spec with
  | short c rest =>
    rw [read_of_dash (toList_text_short c rest) hv.2, if_pos hv.1, String.ofList_toList]
  | long word negatable rest =>
    have hbracket := head?_ne_bracket hv rest.toList
    obtain ⟨hne, hword⟩ := hv
    have hstop : rest.toList.takeWhile isWordChar = [] ∧
        rest.toList.dropWhile isWordChar = rest.toList := by
      rw [Delimited] at hd
      cases hr : rest.toList with
      | nil => simp
      | cons c cs => simp [hd c (by simp [hr])]
    rw [read_of_dashes (toList_text_long word negatable rest), readNegation_append hbracket]
    simp only [List.takeWhile_append_of_pos hword, List.dropWhile_append_of_pos hword, hstop,
      List.append_nil, String.ofList_toList]
    rw [if_neg (String.toList_eq_nil_iff.not.mpr hne)]
  | description line => exact read_of_undashed hv

lemma read_eq_ok : read s = .ok spec ↔ s = spec.text ∧ spec.Valid ∧ spec.Delimited := by
  constructor
  · intro h
    obtain ⟨hs, hd⟩ := text_read h
    exact ⟨hs, valid_of_read h, hd⟩
  · rintro ⟨rfl, hv, hd⟩
    exact read_text hv hd

lemma fault_of_read {fault : SpecFault} (h : read s = .error fault) :
    fault = if ['-', '-'].isPrefixOf s.toList then .longName s else .shortName s := by
  rcases exists_dashed s with hs | hs | ⟨cs, hs⟩ | ⟨c, cs, hs, hc⟩
  · rw [read_of_undashed hs] at h
    cases h
  · simp only [read, hs, Except.error.injEq] at h
    simp [hs, ← h]
  · rw [read_of_dashes hs] at h
    split_ifs at h
    cases h
    simp [hs]
  · rw [read_of_dash hs hc] at h
    split_ifs at h
    cases h
    simp [hs, hc.symm]

end Spec

lemma Registry.declare_of_read_eq_error {s : String} {fault : SpecFault} (h : Spec.read s = .error fault)
    (R : Registry) (specs : List String) (handler : Option String) :
    R.declare (s :: specs) handler = .error (.invalidSwitch fault.message) := by
  have hofSpecs : Switch.ofSpecs (s :: specs) = .error fault := by
    rw [Switch.ofSpecs, List.foldlM_cons, Switch.readSpec, h]
    rfl
  simp only [declare, hofSpecs]

namespace Spec

open Placeholder

/-- A text is a description if it begins with no dash, a short name behind one dash or a long name
behind two, and is refused otherwise. What follows a long name cannot be more of it, and what is left
behind a name makes its value optional or required, if it is a placeholder at all. -/
theorem read_grammar (s : String) :
    (∀ line, read s = .ok (.description line) ↔ line = s ∧ s.toList.head? ≠ some '-') ∧
    (∀ c rest, read s = .ok (.short c rest) ↔
      s = "-" ++ String.singleton c ++ rest ∧
        Text.isBlank c = false ∧ c ≠ '-' ∧ c ≠ '[' ∧ c ≠ '=') ∧
    (∀ word negatable rest, read s = .ok (.long word negatable rest) ↔
      s = "--" ++ (if negatable then "[no-]" else "") ++ word ++ rest ∧ word ≠ "" ∧
        (∀ c ∈ word.toList, Text.isAlphanumeric c = true ∨ c = '-' ∨ c = '_') ∧
        ∀ c ∈ rest.toList.head?, ¬ (Text.isAlphanumeric c = true ∨ c = '-' ∨ c = '_')) ∧
    (∀ spec, read s = .ok spec → spec.text = s) ∧
    ((∃ spec, read s = .ok spec) ∨ ∃ fault, read s = .error fault ∧
      (fault = if ['-', '-'].isPrefixOf s.toList then .longName s else .shortName s) ∧
      ∀ (R : Registry) specs handler,
        R.declare (s :: specs) handler = .error (.invalidSwitch fault.message)) ∧
    ∀ (t : Switch) name rest, rest ≠ "" →
      (t.withPlaceholder name rest = .ok { t with arity := .optional, placeholder := some rest } ↔
        Opens rest ∧ Closes rest) ∧
      (t.withPlaceholder name rest = .ok { t with arity := .required, placeholder := some rest } ↔
        ¬ Opens rest ∧ Labelled rest) ∧
      (t.withPlaceholder name rest = .error (.unclosedPlaceholder name rest) ↔
        Opens rest ∧ ¬ Closes rest) ∧
      (t.withPlaceholder name rest = .error (.emptyPlaceholder name) ↔ ¬ Labelled rest) := by
  refine ⟨?_, ?_, ?_, ?_, ?_, ?_⟩
  · intro line
    rw [read_eq_ok]
    constructor
    · rintro ⟨rfl, hv, _⟩
      exact ⟨rfl, hv⟩
    · rintro ⟨rfl, hv⟩
      exact ⟨rfl, hv, trivial⟩
  · intro c rest
    rw [read_eq_ok, Valid, isLetter_eq_true]
    have htext : (short c rest).text = "-" ++ String.singleton c ++ rest := rfl
    rw [htext]
    simp only [Delimited, and_true]
    tauto
  · intro word negatable rest
    rw [read_eq_ok]
    have htext : (long word negatable rest).text =
        "--" ++ (if negatable then "[no-]" else "") ++ word ++ rest := by
      cases negatable <;> simp [text]
    simp only [htext, Valid, Delimited, isWordChar_eq_true, ← Bool.not_eq_true, and_assoc]
  · intro spec h
    exact (read_eq_ok.mp h).1.symm
  · cases h : read s with
    | ok spec => exact .inl ⟨spec, rfl⟩
    | error fault =>
      exact .inr ⟨fault, rfl, fault_of_read h, Registry.declare_of_read_eq_error h⟩
  · intro t name rest hrest
    rw [Switch.withPlaceholder_of_ne hrest]
    rcases Arity.ofPlaceholder_cases name rest with ⟨hl, h⟩ | ⟨hl, ho, h⟩ | ⟨ho, hc, h⟩ | ⟨ho, hc, h⟩
    · have ho : ¬ Opens rest := fun ho => hl ho.labelled
      simp [h, Except.map, hl, ho]
    · simp [h, Except.map, hl, ho]
    · simp [h, Except.map, ho.labelled, ho, hc]
    · simp [h, Except.map, ho.labelled, ho, hc]

end Spec

end CommandLine
