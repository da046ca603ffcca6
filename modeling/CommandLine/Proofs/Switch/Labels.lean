import CommandLine.Proofs.Switch.Declaration
import Mathlib.Data.List.Basic

namespace CommandLine.Switch

open Spec

variable {s t : Switch} {init : List Name} {last : Name}

lemma appendToLast_concat (tail x : String) (xs : List String) :
    appendToLast tail (xs ++ [x]) = xs ++ [x ++ tail] := by
  induction xs with
  | nil => rfl
  | cons y ys ih =>
    cases ys with
    | nil => rfl
    | cons z zs => exact congrArg (y :: ·) ih

def specOf (s : Switch) (rest : String) : Name → Spec
  | .short c => .short c rest
  | .long word => .long word s.negatable rest

lemma labels_eq (hn : s.names = init ++ [last]) :
    s.labels = init.map (fun name => (s.specOf "" name).text) ++
      [(s.specOf (s.placeholder.getD "") last).text] := by
  have hnames : s.shorts.map (fun c => (Name.short c).label) ++ s.longs.map s.longLabel =
      s.names.map fun name => (s.specOf "" name).text := by
    simp [names, specOf, text, longLabel, Function.comp_def]
  have hlast : (s.specOf "" last).text ++ s.placeholder.getD "" =
      (s.specOf (s.placeholder.getD "") last).text := by
    cases last <;> simp [specOf, text]
  rw [labels, hnames, hn, List.map_append, List.map_singleton, appendToLast_concat, hlast]

lemma WellFormed.valid_specOf (hs : s.WellFormed) {name : Name} (hmem : name ∈ s.names)
    (rest : String) : (s.specOf rest name).Valid := by
  cases name with
  | short c => exact hs.shorts c (by simpa [names] using hmem)
  | long word => exact hs.longs word (by simpa [names] using hmem)

lemma accept_text {spec : Spec} {value : Option (Arity × String)} (hv : spec.Valid)
    (hd : spec.Delimited) (h : spec.value = .ok value) : accept spec.text = .ok (spec, value) :=
  accept_eq_ok.mpr ⟨read_text hv hd, h⟩

def shownParts (s : Switch) (init : List Name) (part : Part) : List Part :=
  init.map (fun name => (s.specOf "" name, none)) ++
    part :: s.description.map fun line => (.description line, none)

lemma WellFormed.mapM_accept (hs : s.WellFormed) (hn : s.names = init ++ [last]) {part : Part}
    (h : accept (s.specOf (s.placeholder.getD "") last).text = .ok part) :
    (s.labels ++ s.description).mapM accept = .ok (s.shownParts init part) := by
  have hinit : init.map (accept ∘ fun name => (s.specOf "" name).text) =
      init.map (.ok ∘ fun name => (s.specOf "" name, none)) := by
    refine List.map_congr_left fun name hmem => ?_
    apply accept_text (hs.valid_specOf (by simp [hn, hmem]) "")
    · cases name <;> simp [specOf, Delimited]
    · cases name <;> rfl
  have hlines : s.description.map accept =
      s.description.map (.ok ∘ fun line => (.description line, none)) := by
    refine List.map_congr_left fun line hmem => ?_
    have hv : (Spec.description line).Valid := hs.description line hmem
    exact accept_text hv trivial rfl
  rw [mapM_eq_ok, labels_eq hn, shownParts]
  simp only [List.map_append, List.map_map, List.map_cons, h, List.append_assoc,
    List.singleton_append, hinit, hlines]

lemma flatMap_nil_right {α β : Type} (xs : List α) : (xs.flatMap fun _ => ([] : List β)) = [] := by
  simp

section

variable (hn : s.names = init ++ [last]) (rest : String) (value : Option (Arity × String))
include hn

lemma flatMap_shownParts {α : Type} {f : Spec → List α}
    (hf : ∀ rest name, f (s.specOf rest name) = f (s.specOf "" name)) :
    (s.shownParts init (s.specOf rest last, value)).flatMap (fun part => f part.1) =
      s.names.flatMap (fun name => f (s.specOf "" name)) ++
        s.description.flatMap fun line => f (.description line) := by
  simp [shownParts, hn, List.flatMap_map, hf rest]

lemma longs_shownParts :
    (s.shownParts init (s.specOf rest last, value)).flatMap (fun part => part.1.words) = s.longs := by
  rw [flatMap_shownParts hn rest value fun rest name => by cases name <;> rfl]
  simp [names, List.flatMap_map, specOf, words, flatMap_nil_right]

lemma negatable_shownParts (hs : s.WellFormed) :
    (s.shownParts init (s.specOf rest last, value)).any (fun part => part.1.negates) = s.negatable := by
  have hnames : s.names.any (fun name => (s.specOf "" name).negates) = s.negatable := by
    cases hneg : s.negatable with
    | false => simp [names, specOf, negates, hneg]
    | true =>
      obtain ⟨word, hword⟩ := List.exists_mem_of_ne_nil _ (hs.negatable hneg)
      refine List.any_eq_true.mpr ⟨.long word, by simp [names, hword], ?_⟩
      simp [specOf, negates, hneg]
  have hlast : (s.specOf rest last).negates = (s.specOf "" last).negates := by
    cases last <;> rfl
  have hlines : (s.description.any fun line => (Spec.description line).negates) = false := by
    simp [negates]
  rw [← hnames]
  simp [shownParts, hn, hlast, hlines, Function.comp_def]

lemma WellFormed.ofParts_shownParts (hs : s.WellFormed) :
    ofParts (s.shownParts init (s.specOf rest last, value)) =
      { s with
        arity := (value.map Prod.fst).getD .noValue
        placeholder := value.map Prod.snd
        handler := none } := by
  have hshorts : (s.shownParts init (s.specOf rest last, value)).flatMap (·.1.letters) = s.shorts := by
    rw [flatMap_shownParts hn rest value fun rest name => by cases name <;> rfl]
    simp [names, List.flatMap_map, specOf, letters, flatMap_nil_right]
  have hlines : (s.shownParts init (s.specOf rest last, value)).flatMap (·.1.lines) =
      s.description := by
    rw [flatMap_shownParts hn rest value fun rest name => by cases name <;> rfl]
    simp [names, List.flatMap_map, specOf, lines, flatMap_nil_right]
  have hvalue : (s.shownParts init (s.specOf rest last, value)).filterMap Prod.snd =
      value.toList := by
    cases value <;> simp [shownParts, List.filterMap_none]
  simp only [ofParts, hshorts, longs_shownParts hn, hlines, hvalue, negatable_shownParts hn _ _ hs]
  cases value <;> rfl

end

lemma WellFormed.value_specOf (hs : s.WellFormed) (name : Name) :
    (s.specOf (s.placeholder.getD "") name).value =
      .ok (s.placeholder.map fun rest => (s.arity, rest)) := by
  have hvalue : valueOf name (s.placeholder.getD "") =
      .ok (s.placeholder.map fun rest => (s.arity, rest)) := by
    cases hp : s.placeholder with
    | none => rfl
    | some rest =>
      have ha := hs.ofPlaceholder hp name
      have hrest : rest ≠ "" := by
        rintro rfl
        obtain ⟨⟨c, hc, _⟩, _⟩ := Arity.ofPlaceholder_eq_ok.mp ha
        simp [Text.trimStart] at hc
      rw [Option.getD_some, valueOf, if_neg hrest, ha]
      rfl
  cases name <;> exact hvalue

/-- A placeholder that could be more of a long name stands behind one. -/
def Glued (s : Switch) : Prop :=
  s.longs ≠ [] ∧ ∃ rest, s.placeholder = some rest ∧ ∃ c ∈ rest.toList.head?, isWordChar c = true

lemma delimited_specOf (hg : ¬ s.Glued) {name : Name} (hmem : name ∈ s.names) :
    (s.specOf (s.placeholder.getD "") name).Delimited := by
  cases name with
  | short c => trivial
  | long word =>
    have hlongs : s.longs ≠ [] := List.ne_nil_of_mem (by simpa [names] using hmem)
    cases hp : s.placeholder with
    | none => simp [specOf, Delimited]
    | some rest =>
      intro c hc
      rw [← Bool.not_eq_true]
      exact fun hword => hg ⟨hlongs, rest, hp, c, hc, hword⟩

lemma eq_of_text_specOf {word : String} {negatable : Bool} {rest rest' : String}
    (hv : (s.specOf rest (.long word)).Valid)
    (h : (s.specOf rest (.long word)).text = (Spec.long word negatable rest').text) : rest = rest' := by
  have hcs := congrArg String.toList h
  simp only [specOf, toList_text_long, List.cons.injEq, true_and] at hcs
  have hread := congrArg readNegation hcs
  rw [readNegation_append (head?_ne_bracket hv _), readNegation_append (head?_ne_bracket hv _)] at hread
  exact String.toList_inj.mp (List.append_cancel_left (Prod.mk.inj hread).2)

lemma WellFormed.ofSpecs_unglued (hs : s.WellFormed) (hg : ¬ s.Glued) :
    ofSpecs (s.labels ++ s.description) = .ok { s with handler := none } := by
  have hne : s.names ≠ [] := by
    simpa [names, or_iff_not_imp_left] using hs.named
  obtain ⟨init, last, hn⟩ : ∃ init last, s.names = init ++ [last] :=
    ⟨_, _, (List.dropLast_append_getLast hne).symm⟩
  have hlast : last ∈ s.names := by simp [hn]
  have ha := accept_text (hs.valid_specOf hlast _) (delimited_specOf hg hlast) (hs.value_specOf last)
  have harity : ((s.placeholder.map fun rest => (s.arity, rest)).map Prod.fst).getD .noValue =
      s.arity := by
    cases hp : s.placeholder with
    | none => exact (hs.arity_eq_noValue_iff.mpr hp).symm
    | some rest => rfl
  have hplaceholder : (s.placeholder.map fun rest => (s.arity, rest)).map Prod.snd =
      s.placeholder := by
    cases s.placeholder <;> rfl
  refine ofSpecs_eq_ok.mpr ⟨_, hs.mapM_accept hn ha, ?_, hs.named, ?_⟩
  · rw [hs.ofParts_shownParts hn, harity, hplaceholder]
  · exact fun ⟨hneg, hvalue⟩ => hvalue (hs.valueless hneg)

lemma words_of_longs_shownParts {words : List String} {letters : List Char} {last : String}
    {part : Part} (hs : s.longs = words ++ [last])
    (h : (s.shownParts (letters.map .short ++ words.map .long) part).flatMap (·.1.words) = s.longs) :
    part.1.words = [last] := by
  have hline (line : String) : (Spec.description line).words = [] := rfl
  have hshort (c : Char) : (s.specOf "" (.short c)).words = [] := rfl
  have hlong (word : String) : (s.specOf "" (.long word)).words = [word] := rfl
  rw [hs] at h
  simpa [shownParts, List.flatMap_map, hline, hshort, hlong, flatMap_nil_right] using h

lemma WellFormed.longs_ne_of_glued (hs : s.WellFormed) (hg : s.Glued)
    (ht : ofSpecs (s.labels ++ s.description) = .ok t) : t.longs ≠ s.longs := by
  obtain ⟨hlongs, rest, hp, c, hc, hcword⟩ := hg
  intro heq
  obtain ⟨words, word, hw⟩ : ∃ words word, s.longs = words ++ [word] :=
    ⟨_, _, (List.dropLast_append_getLast hlongs).symm⟩
  have hn : s.names = (s.shorts.map .short ++ words.map .long) ++ [.long word] := by
    simp [names, hw]
  have hv := hs.valid_specOf (show .long word ∈ s.names by simp [hn]) (s.placeholder.getD "")
  obtain ⟨parts, hparts, rfl, _⟩ := ofSpecs_eq_ok.mp ht
  obtain ⟨⟨spec, value⟩, ha⟩ := exists_mapM_eq_ok.mp ⟨parts, hparts⟩
    (s.specOf (s.placeholder.getD "") (.long word)).text (by simp [labels_eq hn])
  obtain rfl := Except.ok.inj (hparts.symm.trans (hs.mapM_accept hn ha))
  have hwords : spec.words = [word] := words_of_longs_shownParts hw heq
  obtain ⟨htext, _, hd⟩ := read_eq_ok.mp (accept_eq_ok.mp ha).1
  cases spec with
  | short c rest => cases hwords
  | description line => cases hwords
  | long word' negatable rest' =>
    obtain rfl : word' = word := List.singleton_inj.mp hwords
    obtain rfl := eq_of_text_specOf hv htext
    rw [hp, Option.getD_some] at hd
    cases hcword.symm.trans (hd c hc)

/-- The names and the placeholder that the help shows declare the switch itself, unless the
placeholder is glued to a long name. Then they are refused or declare another long name. -/
theorem ofSpecs_labels {texts : List String} (h : ofSpecs texts = .ok s) :
    (¬ s.Glued → ofSpecs (s.labels ++ s.description) = .ok s) ∧
    (s.Glued → ∀ t, ofSpecs (s.labels ++ s.description) = .ok t → t.longs ≠ s.longs) := by
  have hs := wellFormed_of_ofSpecs h
  have hhandler : s.handler = none := by
    obtain ⟨parts, _, rfl, _⟩ := ofSpecs_eq_ok.mp h
    rfl
  refine ⟨fun hg => ?_, fun hg _ => hs.longs_ne_of_glued hg⟩
  rw [hs.ofSpecs_unglued hg, ← hhandler]

theorem ofSpecs_labels_output :
    let s : Switch :=
      { shorts := ['o', 'O'], longs := ["output", "out"], arity := .optional
        placeholder := some " [=FILE] ", description := ["write to FILE"] }
    ofSpecs ["--output FILE", "-o", "write to FILE", "--out [=FILE] ", "-O"] = .ok s ∧ ¬ s.Glued ∧
      s.labels = ["-o", "-O", "--output", "--out [=FILE] "] ∧
      ofSpecs (s.labels ++ s.description) = .ok s := by
  intro s
  have h : ofSpecs ["--output FILE", "-o", "write to FILE", "--out [=FILE] ", "-O"] = .ok s := by rfl
  have hg : ¬ s.Glued := by
    rintro ⟨_, rest, hp, c, hc, hword⟩
    cases hp
    cases hc
    revert hword
    decide
  exact ⟨h, hg, by rfl, (ofSpecs_labels h).1 hg⟩

theorem ofSpecs_labels_glued :
    let s : Switch :=
      { shorts := ['j'], longs := ["jobs"], arity := .required, placeholder := some "N"
        description := ["run N jobs"] }
    let t : Switch := { shorts := ['j'], longs := ["jobsN"], description := ["run N jobs"] }
    ofSpecs ["-jN", "--jobs", "run N jobs"] = .ok s ∧ s.column = "-j, --jobsN" ∧
      s.labels = ["-j", "--jobsN"] ∧ ofSpecs (s.labels ++ s.description) = .ok t ∧ t ≠ s := by
  intro s t
  have hlabels : s.labels = ["-j", "--jobsN"] := by rfl
  exact ⟨by rfl, by rfl, hlabels, by rw [hlabels]; rfl, by decide⟩

end CommandLine.Switch
