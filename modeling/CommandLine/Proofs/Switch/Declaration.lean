import CommandLine.Proofs.Switch.Grammar

namespace CommandLine

section

variable {α β ε : Type} {f : α → Except ε β} {xs : List α} {ys : List β}

lemma mapM_eq_ok : xs.mapM f = .ok ys ↔ xs.map f = ys.map .ok := by
  induction xs generalizing ys with
  | nil => cases ys <;> simp [pure, Except.pure]
  | cons x xs ih =>
    rw [List.mapM_cons, bind_eq_ok]
    constructor
    · rintro ⟨y, hy, h⟩
      obtain ⟨zs, hzs, h⟩ := bind_eq_ok.mp h
      cases h
      simp [hy, ih.mp hzs]
    · intro h
      cases ys with
      | nil => simp at h
      | cons y ys =>
        simp only [List.map_cons, List.cons.injEq] at h
        exact ⟨y, h.1, bind_eq_ok.mpr ⟨ys, ih.mpr h.2, rfl⟩⟩

lemma exists_mapM_eq_ok : (∃ ys, xs.mapM f = .ok ys) ↔ ∀ x ∈ xs, ∃ y, f x = .ok y := by
  induction xs with
  | nil => simp [pure, Except.pure]
  | cons x xs ih =>
    rw [List.forall_mem_cons, ← ih]
    constructor
    · rintro ⟨ys, h⟩
      rw [List.mapM_cons] at h
      obtain ⟨y, hy, h⟩ := bind_eq_ok.mp h
      obtain ⟨ys, hys, _⟩ := bind_eq_ok.mp h
      exact ⟨⟨y, hy⟩, ys, hys⟩
    · rintro ⟨⟨y, hy⟩, ys, hys⟩
      exact ⟨y :: ys, mapM_eq_ok.mpr (by simp [hy, mapM_eq_ok.mp hys])⟩

lemma mem_of_mapM_eq_ok (h : xs.mapM f = .ok ys) {y : β} : y ∈ ys ↔ ∃ x ∈ xs, f x = .ok y := by
  have hmem : .ok y ∈ xs.map f ↔ .ok y ∈ ys.map (Except.ok (ε := ε)) := by rw [mapM_eq_ok.mp h]
  simpa [eq_comm] using hmem.symm

lemma exists_mem_of_mapM_eq_ok (h : xs.mapM f = .ok ys) (P : β → Prop) :
    (∃ y ∈ ys, P y) ↔ ∃ x ∈ xs, ∃ y, f x = .ok y ∧ P y := by
  simp only [mem_of_mapM_eq_ok h]
  constructor
  · rintro ⟨y, ⟨x, hx, hy⟩, hp⟩
    exact ⟨x, hx, y, hy, hp⟩
  · rintro ⟨x, hx, y, hy, hp⟩
    exact ⟨y, ⟨x, hx, hy⟩, hp⟩

lemma mapM_eq_error {before behind : List α} {x : α} {e : ε} (h : ∀ x ∈ before, ∃ y, f x = .ok y)
    (hx : f x = .error e) : (before ++ x :: behind).mapM f = .error e := by
  obtain ⟨ys, hys⟩ := exists_mapM_eq_ok.mpr h
  rw [List.mapM_append, hys, List.mapM_cons, hx]
  rfl

end

namespace Spec

def letters : Spec → List Char
  | short c _ => [c]
  | _ => []

def words : Spec → List String
  | long word _ _ => [word]
  | _ => []

def lines : Spec → List String
  | description line => [line]
  | _ => []

def negates : Spec → Bool
  | long _ negatable _ => negatable
  | _ => false

abbrev Part := Spec × Option (Arity × String)

def valueOf (name : Name) (rest : String) : Except SpecFault (Option (Arity × String)) :=
  if rest = "" then .ok none
  else (Arity.ofPlaceholder name rest).map fun arity => some (arity, rest)

def value : Spec → Except SpecFault (Option (Arity × String))
  | short c rest => valueOf (.short c) rest
  | long word _ rest => valueOf (.long word) rest
  | description _ => .ok none

def accept (text : String) : Except SpecFault Part := do
  let spec ← read text
  let value ← spec.value
  return (spec, value)

lemma accept_eq_ok {text : String} {spec : Spec} {value : Option (Arity × String)} :
    accept text = .ok (spec, value) ↔ read text = .ok spec ∧ spec.value = .ok value := by
  rw [accept, bind_eq_ok]
  constructor
  · rintro ⟨spec, hr, h⟩
    obtain ⟨value, hv, h⟩ := bind_eq_ok.mp h
    cases h
    exact ⟨hr, hv⟩
  · rintro ⟨hr, hv⟩
    exact ⟨spec, hr, bind_eq_ok.mpr ⟨value, hv, rfl⟩⟩

lemma ne_noValue_of_value {spec : Spec} {arity : Arity} {rest : String}
    (h : spec.value = .ok (some (arity, rest))) : arity ≠ .noValue := by
  have hof {name : Name} {rest' : String} (h : valueOf name rest' = .ok (some (arity, rest))) :
      arity ≠ .noValue := by
    rw [valueOf] at h
    split_ifs at h
    · cases h
    · cases ha : Arity.ofPlaceholder name rest' with
      | error fault => simp [ha, Except.map] at h
      | ok arity' =>
        simp only [ha, Except.map, Except.ok.injEq, Option.some.injEq, Prod.mk.injEq] at h
        obtain ⟨rfl, _⟩ := h
        obtain ⟨_, ⟨_, _, rfl⟩ | ⟨_, rfl⟩⟩ := Arity.ofPlaceholder_eq_ok.mp ha <;> simp
  cases spec with
  | short c rest' => exact hof h
  | long word negatable rest' => exact hof h
  | description line => cases h

lemma read_negatable {word : String} (hne : word ≠ "")
    (hc : ∀ c ∈ word.toList, isWordChar c = true) :
    read ("--[no-]" ++ word) = .ok (.long word true "") := by
  have htext : (long word true "").text = "--[no-]" ++ word := by simp [text]
  rw [← htext]
  exact read_text ⟨hne, hc⟩ (by simp [Delimited])

end Spec

namespace Switch

open Spec

variable {s t : Switch} {text : String} {texts : List String} {parts : List Part}

def ofParts (parts : List Part) : Switch :=
  let value := (parts.filterMap Prod.snd).getLast?
  { shorts := parts.flatMap (·.1.letters)
    longs := parts.flatMap (·.1.words)
    arity := (value.map Prod.fst).getD .noValue
    placeholder := value.map Prod.snd
    description := parts.flatMap (·.1.lines)
    negatable := parts.any (·.1.negates) }

lemma withPlaceholder_eq (s : Switch) (name : Name) (rest : String) :
    s.withPlaceholder name rest = (valueOf name rest).map fun value =>
      { s with
        arity := (value.map Prod.fst).getD s.arity
        placeholder := (value.map Prod.snd).or s.placeholder } := by
  rw [valueOf]
  by_cases h : rest = ""
  · rw [if_pos h, withPlaceholder, if_pos h]
    rfl
  · rw [if_neg h, withPlaceholder_of_ne h]
    cases Arity.ofPlaceholder name rest <;> rfl

lemma extend_ofParts (parts : List Part) (spec : Spec) :
    (ofParts parts).extend spec = spec.value.map fun value => ofParts (parts ++ [(spec, value)]) := by
  cases spec with
  | short c rest =>
    rw [extend, withPlaceholder_eq, value]
    rcases valueOf (.short c) rest with fault | _ | p
    · rfl
    · simp [Except.map, ofParts, letters, words, lines, negates]
    · simp [Except.map, ofParts, letters, words, lines, negates]
  | long word negatable rest =>
    rw [extend, withPlaceholder_eq, value]
    rcases valueOf (.long word) rest with fault | _ | p
    · rfl
    · simp [Except.map, ofParts, letters, words, lines, negates]
    · simp [Except.map, ofParts, letters, words, lines, negates]
  | description line => simp [extend, value, Except.map, ofParts, letters, words, lines, negates]

lemma readSpec_ofParts (parts : List Part) (text : String) :
    (ofParts parts).readSpec text = (accept text).map fun part => ofParts (parts ++ [part]) := by
  rw [readSpec, accept]
  cases Spec.read text with
  | error fault => rfl
  | ok spec =>
    simp only [bind, Except.bind, extend_ofParts]
    cases spec.value <;> rfl

lemma foldlM_readSpec (parts : List Part) (texts : List String) :
    texts.foldlM readSpec (ofParts parts) =
      (texts.mapM accept).map fun more => ofParts (parts ++ more) := by
  induction texts generalizing parts with
  | nil => simp [pure, Except.pure, Except.map]
  | cons text texts ih =>
    rw [List.foldlM_cons, List.mapM_cons, readSpec_ofParts]
    cases accept text with
    | error fault => rfl
    | ok part =>
      change texts.foldlM readSpec (ofParts (parts ++ [part])) = _
      rw [ih]
      simp only [bind, Except.bind, pure, Except.pure]
      cases texts.mapM accept with
      | error fault => rfl
      | ok more => simp [Except.map]

lemma ofSpecs_eq (texts : List String) :
    ofSpecs texts = (texts.mapM accept).bind fun parts => (ofParts parts).checked := by
  have hfold : texts.foldlM readSpec {} = (texts.mapM accept).map ofParts := foldlM_readSpec [] texts
  rw [ofSpecs, hfold]
  cases texts.mapM accept <;> rfl

lemma checked_eq_ok : s.checked = .ok t ↔
    s = t ∧ (s.shorts ≠ [] ∨ s.longs ≠ []) ∧ ¬ (s.negatable = true ∧ s.arity ≠ .noValue) := by
  rw [checked]
  split_ifs with hnameless hvalue
  · simp [hnameless]
  · simp [hvalue]
  · simp only [Except.ok.injEq, hvalue, not_false_eq_true, and_true]
    exact (and_iff_left (not_and_or.mp hnameless)).symm

lemma ofSpecs_eq_ok : ofSpecs texts = .ok s ↔ ∃ parts, texts.mapM accept = .ok parts ∧
    ofParts parts = s ∧ (s.shorts ≠ [] ∨ s.longs ≠ []) ∧
      ¬ (s.negatable = true ∧ s.arity ≠ .noValue) := by
  rw [ofSpecs_eq]
  cases texts.mapM accept with
  | error fault => simp [Except.bind]
  | ok parts =>
    simp only [Except.bind, checked_eq_ok, Except.ok.injEq, exists_eq_left']
    refine and_congr_right ?_
    rintro rfl
    rfl

lemma mem_longs_of_ofSpecs (h : ofSpecs texts = .ok t) (hmem : text ∈ texts) {word rest : String}
    (hr : Spec.read text = .ok (.long word true rest)) : word ∈ t.longs ∧ t.negatable = true := by
  obtain ⟨parts, hp, rfl, _⟩ := ofSpecs_eq_ok.mp h
  obtain ⟨⟨spec, value⟩, ha⟩ := exists_mapM_eq_ok.mp ⟨parts, hp⟩ text hmem
  have hpart := (mem_of_mapM_eq_ok hp).mpr ⟨text, hmem, ha⟩
  obtain rfl : spec = .long word true rest :=
    Except.ok.inj ((accept_eq_ok.mp ha).1.symm.trans hr)
  exact ⟨List.mem_flatMap.mpr ⟨_, hpart, List.mem_singleton.mpr rfl⟩,
    List.any_eq_true.mpr ⟨_, hpart, rfl⟩⟩

lemma ofSpecs_negatable {word : String} (hne : word ≠ "")
    (hc : ∀ c ∈ word.toList, Spec.isWordChar c = true) :
    ofSpecs ["--[no-]" ++ word] = .ok { longs := [word], negatable := true } := by
  have ha : accept ("--[no-]" ++ word) = .ok (.long word true "", none) :=
    accept_eq_ok.mpr ⟨read_negatable hne hc, rfl⟩
  have hp : ["--[no-]" ++ word].mapM accept = .ok [(.long word true "", none)] := by
    rw [mapM_eq_ok]
    simp [ha]
  exact ofSpecs_eq_ok.mpr ⟨_, hp, rfl, by simp⟩

lemma named_ofParts : ((ofParts parts).shorts ≠ [] ∨ (ofParts parts).longs ≠ []) ↔
    ∃ part ∈ parts, part.1.letters ≠ [] ∨ part.1.words ≠ [] := by
  simp only [ofParts, ne_eq, List.flatMap_eq_nil_iff, not_forall, exists_prop, ← exists_or,
    ← and_or_left]

lemma arity_ofParts (h : texts.mapM accept = .ok parts) :
    (ofParts parts).arity ≠ .noValue ↔ ∃ part ∈ parts, part.2 ≠ none := by
  rw [ofParts]
  cases hlast : (parts.filterMap Prod.snd).getLast? with
  | none =>
    have hnil := List.getLast?_eq_none_iff.mp hlast
    simp only [List.filterMap_eq_nil_iff] at hnil
    simpa using hnil
  | some value =>
    obtain ⟨⟨spec, _⟩, hpart, rfl⟩ := List.mem_filterMap.mp (List.mem_of_getLast? hlast)
    obtain ⟨text, _, ha⟩ := (mem_of_mapM_eq_ok h).mp hpart
    refine iff_of_true (ne_noValue_of_value (accept_eq_ok.mp ha).2) ⟨_, hpart, ?_⟩
    simp

lemma exists_ofSpecs_eq_ok : (∃ s, ofSpecs texts = .ok s) ↔
    (∀ text ∈ texts, ∃ part, accept text = .ok part) ∧
    (∃ text ∈ texts, ∃ part, accept text = .ok part ∧ (part.1.letters ≠ [] ∨ part.1.words ≠ [])) ∧
    ¬ ((∃ text ∈ texts, ∃ part, accept text = .ok part ∧ part.1.negates = true) ∧
      ∃ text ∈ texts, ∃ part, accept text = .ok part ∧ part.2 ≠ none) := by
  rw [← exists_mapM_eq_ok]
  cases h : texts.mapM accept with
  | error fault => simp [ofSpecs_eq, h, Except.bind]
  | ok parts =>
    have hnegatable : (ofParts parts).negatable = true ↔ ∃ part ∈ parts, part.1.negates = true :=
      List.any_eq_true
    have hok : (∃ parts', Except.ok (ε := SpecFault) parts = .ok parts') ↔ True := by simp
    rw [← exists_mem_of_mapM_eq_ok h (fun part => part.1.letters ≠ [] ∨ part.1.words ≠ []),
      ← exists_mem_of_mapM_eq_ok h (fun part => part.1.negates = true),
      ← exists_mem_of_mapM_eq_ok h (fun part => part.2 ≠ none),
      ← named_ofParts, ← hnegatable, ← arity_ofParts h, hok, true_and]
    simp [ofSpecs_eq, h, Except.bind, checked_eq_ok]

/-- Texts declare a switch in one order if they do in another: each must be accepted by itself, some
must name the switch, and not both may one take a value and one be negated. What they say is put
together in order, of the values the last is taken, and of the faults the first is reported. -/
theorem ofSpecs_accepted (texts : List String) :
    ((∃ s, ofSpecs texts = .ok s) ↔
      (∀ text ∈ texts, ∃ part, accept text = .ok part) ∧
      (∃ text ∈ texts, ∃ part, accept text = .ok part ∧
        (part.1.letters ≠ [] ∨ part.1.words ≠ [])) ∧
      ¬ ((∃ text ∈ texts, ∃ part, accept text = .ok part ∧ part.1.negates = true) ∧
        ∃ text ∈ texts, ∃ part, accept text = .ok part ∧ part.2 ≠ none)) ∧
    (∀ texts', texts.Perm texts' → ((∃ s, ofSpecs texts = .ok s) ↔ ∃ s, ofSpecs texts' = .ok s)) ∧
    (∀ s, ofSpecs texts = .ok s → ∃ parts : List Part, texts.map accept = parts.map .ok ∧
      s.shorts = parts.flatMap (·.1.letters) ∧ s.longs = parts.flatMap (·.1.words) ∧
      s.description = parts.flatMap (·.1.lines) ∧
      (s.negatable = true ↔ ∃ part ∈ parts, part.1.negates = true) ∧
      match (parts.filterMap Prod.snd).getLast? with
      | none => s.arity = .noValue ∧ s.placeholder = none
      | some (arity, rest) => s.arity = arity ∧ s.placeholder = some rest) ∧
    ∀ before text behind fault, texts = before ++ text :: behind →
      (∀ text ∈ before, ∃ part, accept text = .ok part) → accept text = .error fault →
        ofSpecs texts = .error fault := by
  refine ⟨exists_ofSpecs_eq_ok, ?_, ?_, ?_⟩
  · intro texts' h
    simp only [exists_ofSpecs_eq_ok, h.mem_iff]
  · intro s h
    obtain ⟨parts, hp, rfl, _⟩ := ofSpecs_eq_ok.mp h
    refine ⟨parts, mapM_eq_ok.mp hp, rfl, rfl, rfl, List.any_eq_true, ?_⟩
    rw [ofParts]
    cases (parts.filterMap Prod.snd).getLast? <;> exact ⟨rfl, rfl⟩
  · rintro before text behind fault rfl hbefore hfault
    rw [ofSpecs_eq, mapM_eq_error hbefore hfault]
    rfl

end Switch

end CommandLine
