import CommandLine.Proofs.Registry.Ambiguity

/-! The spellings that a report of ambiguity offers, and their order. The switches stand in the order
of their declaration, and each adds at most two spellings: the first of its own names that goes on
from what was typed, and the first whose negation does. A name that a later switch took adds nothing,
as that switch has added its own before. -/

namespace CommandLine

namespace Candidate

variable {a b c : Candidate} {as bs : List Candidate}

lemma agrees_eq_true : a.agrees b = true ↔
    a.resolution.slot.index = b.resolution.slot.index ∧ a.resolution.negated = b.resolution.negated := by
  simp [agrees]

lemma agrees_comm (a b : Candidate) : a.agrees b = b.agrees a := by
  rw [Bool.eq_iff_iff, agrees_eq_true, agrees_eq_true, eq_comm, and_congr_right_iff]
  exact fun _ => eq_comm

lemma agrees_congr_left (h : a.agrees b = true) (c : Candidate) : a.agrees c = b.agrees c := by
  obtain ⟨hi, hn⟩ := agrees_eq_true.mp h
  rw [agrees, agrees, hi, hn]

lemma agrees_congr_right (h : b.agrees a = true) (c : Candidate) : c.agrees b = c.agrees a := by
  rw [agrees_comm c b, agrees_congr_left h, agrees_comm]

lemma distinct_append (as bs : List Candidate) : distinct (as ++ bs) =
    distinct as ++ (distinct bs).filter fun b => as.all fun a => !b.agrees a := by
  induction as with
  | nil => simp [distinct]
  | cons a as ih =>
    rw [List.cons_append, distinct, ih, distinct, List.filter_append, List.filter_filter]
    simp only [List.all_cons, List.cons_append]

lemma distinct_filter {p : Candidate → Bool} (hp : ∀ a b, a.agrees b = true → p a = p b)
    (as : List Candidate) : distinct (as.filter p) = (distinct as).filter p := by
  induction as with
  | nil => rfl
  | cons a as ih =>
    by_cases ha : p a = true
    · rw [List.filter_cons_of_pos ha, distinct, ih, distinct, List.filter_cons_of_pos ha,
        List.filter_comm]
    · rw [List.filter_cons_of_neg ha, distinct, List.filter_cons_of_neg ha, ih, List.filter_filter]
      refine List.filter_congr fun b _ => ?_
      cases hb : b.agrees a with
      | false => simp
      | true => simp [hp b a hb, ha]

lemma filter_distinct (a : Candidate) (as : List Candidate) :
    (distinct as).filter (·.agrees a) = (as.find? (·.agrees a)).toList := by
  induction as with
  | nil => rfl
  | cons b bs ih =>
    rw [distinct]
    by_cases hb : b.agrees a = true
    · have hnone : (distinct bs).filter (fun c => c.agrees a && !c.agrees b) = [] := by
        refine List.filter_eq_nil_iff.mpr fun c _ => ?_
        simp [agrees_congr_right hb c]
      simp only [List.filter_cons, List.find?_cons, hb, if_true, List.filter_filter, hnone,
        Option.toList_some]
    · have hother : (distinct bs).filter (fun c => c.agrees a && !c.agrees b) =
          (distinct bs).filter (·.agrees a) := by
        refine List.filter_congr fun c _ => ?_
        cases hc : c.agrees a with
        | false => rfl
        | true => simpa [agrees_congr_left hc, agrees_comm a b] using hb
      simp only [List.filter_cons, List.find?_cons, hb, List.filter_filter, hother, ih, if_false,
        Bool.false_eq_true]

end Candidate

namespace Registry

open Spelling Candidate

variable {R : Registry} {name option word : String} {slot : Slot} {spellings : List String}

def Unshadowed (R : Registry) (slot : Slot) (word : String) : Prop :=
  ∀ later ∈ R.slots, slot.index < later.index → word ∉ later.switch.longs

instance (R : Registry) (slot : Slot) (word : String) : Decidable (R.Unshadowed slot word) :=
  inferInstanceAs (Decidable (∀ later ∈ R.slots, slot.index < later.index → word ∉ later.switch.longs))

def meant (R : Registry) (name : String) (slot : Slot) (negated : Bool) (word : String) : Bool :=
  decide (R.Unshadowed slot word) &&
    if negated then
      slot.switch.negatable && !abbreviates name word && abbreviates name (negation word)
    else abbreviates name word

def firstMeant? (R : Registry) (name : String) (slot : Slot) (negated : Bool) : Option String :=
  slot.switch.longs.find? (R.meant name slot negated)

/-- What one switch adds to a report. Of two spellings the one whose word it declares later is first. -/
def reported (R : Registry) (name : String) (slot : Slot) : List String :=
  match R.firstMeant? name slot false, R.firstMeant? name slot true with
  | none, none => []
  | some word, none => [word]
  | none, some other => [negation other]
  | some word, some other =>
    if slot.switch.longs.idxOf word < slot.switch.longs.idxOf other then [negation other, word]
    else [word, negation other]

lemma owns_iff (hslot : slot ∈ R.slots) (hword : word ∈ slot.switch.longs) :
    R.Owns slot (.long word) ↔ R.Unshadowed slot word := by
  simp [Owns, Unshadowed, hslot, hword]

lemma Owns.index_le {owner : Slot} (ho : R.Owns owner (.long word)) (hslot : slot ∈ R.slots)
    (hword : word ∈ slot.switch.longs) : slot.index ≤ owner.index := by
  by_contra! hlt
  exact ho.2.2 slot hslot hlt (by simpa using hword)

lemma owner_cases (hslot : slot ∈ R.slots) (hword : word ∈ slot.switch.longs) :
    (R.Unshadowed slot word ∧ R.Owns slot (.long word)) ∨
      (¬ R.Unshadowed slot word ∧ ∃ owner, R.Owns owner (.long word) ∧ slot.index < owner.index) := by
  by_cases hu : R.Unshadowed slot word
  · exact .inl ⟨hu, (owns_iff hslot hword).mpr hu⟩
  · refine .inr ⟨hu, ?_⟩
    obtain ⟨owner, ho⟩ := declares_iff.mp ⟨slot, hslot, Switch.long_mem_names.mpr hword⟩
    have hle := ho.index_le hslot hword
    have hne : slot.index ≠ owner.index := by
      intro heq
      obtain rfl := slot_unique hslot ho.1 heq
      exact hu ((owns_iff hslot hword).mp ho)
    exact ⟨owner, ho, by omega⟩

def offers (R : Registry) (name : String) (slot : Slot) : List Candidate :=
  slot.switch.longs.filterMap (R.candidate? name slot.switch)

def own? (R : Registry) (name : String) (slot : Slot) (word : String) : Option Candidate :=
  if R.meant name slot false word then some ⟨word, slot, false⟩
  else if R.meant name slot true word then some ⟨negation word, slot, true⟩
  else none

lemma owns_of_candidate? {s : Switch} {a : Candidate} (h : R.candidate? name s word = some a) :
    R.Owns a.resolution.slot (.long word) := by
  rcases candidate?_eq_some.mp h with ⟨_, owner, ho, rfl⟩ | ⟨_, _, _, owner, ⟨ho, _⟩, rfl⟩
  · exact ho
  · exact ho

lemma candidate?_owner {s : Switch} {a : Candidate} (h : R.candidate? name s word = some a) :
    R.candidate? name a.resolution.slot.switch word = some a := by
  rw [candidate?_eq_some] at h ⊢
  rcases h with ⟨hw, owner, ho, rfl⟩ | ⟨hw, _, hn, owner, ⟨ho, hneg⟩, rfl⟩
  · exact .inl ⟨hw, owner, ho, rfl⟩
  · exact .inr ⟨hw, hneg, hn, owner, ⟨ho, hneg⟩, rfl⟩

lemma filter_candidate? (hslot : slot ∈ R.slots) (hword : word ∈ slot.switch.longs) :
    (R.candidate? name slot.switch word).filter (·.resolution.slot.index == slot.index) =
      R.own? name slot word := by
  rcases owner_cases hslot hword with ⟨hu, ho⟩ | ⟨hu, owner, ho, hi⟩
  · have hf : R.findLong? word = some slot := findLong?_eq_some.mpr ho
    rw [candidate?, own?, findNegatable?, hf]
    cases hw : abbreviates name word <;> cases hneg : slot.switch.negatable <;>
      cases hn : abbreviates name (negation word) <;> simp [meant, hu, hw, hneg, hn]
  · have hown : R.own? name slot word = none := by simp [own?, meant, hu]
    have hne : owner.index ≠ slot.index := hi.ne'
    rw [hown, Option.filter_eq_none_iff]
    intro a ha
    rw [← ho.unique (owns_of_candidate? ha)]
    simpa using hne

lemma filter_offers (hslot : slot ∈ R.slots) :
    (R.offers name slot).filter (·.resolution.slot.index == slot.index) =
      slot.switch.longs.filterMap (R.own? name slot) := by
  rw [offers, List.filter_filterMap]
  exact List.filterMap_congr fun word hword => filter_candidate? hslot hword

variable {before behind : List Slot}

lemma all_not_agrees (h : R.slots = before ++ slot :: behind) {b : Candidate}
    (hb : b ∈ R.offers name slot) :
    ((before.flatMap (R.offers name)).all fun a => !b.agrees a) =
      (b.resolution.slot.index == slot.index) := by
  have hslots := R.pairwise_slots
  rw [h, List.pairwise_append, List.pairwise_cons] at hslots
  obtain ⟨_, ⟨hbehind, _⟩, hbefore⟩ := hslots
  obtain ⟨word, hword, hc⟩ := List.mem_filterMap.mp hb
  have ho := owns_of_candidate? hc
  have hle := ho.index_le (by simp [h]) hword
  rw [Bool.eq_iff_iff, List.all_eq_true, beq_iff_eq]
  constructor
  · -- what belongs to a later switch was offered by that switch before
    intro hall
    by_contra hne
    have hmem : b.resolution.slot ∈ before := by
      have hos := ho.1
      rw [h, List.mem_append, List.mem_cons] at hos
      rcases hos with hos | hos | hos
      · exact hos
      · exact (hne (by rw [hos])).elim
      · have := hbehind _ hos
        omega
    have hoffered : b ∈ R.offers name b.resolution.slot :=
      List.mem_filterMap.mpr ⟨word, Switch.long_mem_names.mp ho.2.1, candidate?_owner hc⟩
    have hself := hall b (List.mem_flatMap.mpr ⟨_, hmem, hoffered⟩)
    simp [agrees] at hself
  · intro hi a ha
    obtain ⟨slot', hslot', ha⟩ := List.mem_flatMap.mp ha
    obtain ⟨word', hword', hc'⟩ := List.mem_filterMap.mp ha
    have hlt := hbefore slot' hslot' slot List.mem_cons_self
    have hle' := (owns_of_candidate? hc').index_le (by simp [h, hslot']) hword'
    rw [Bool.not_eq_true', ← Bool.not_eq_true, agrees_eq_true]
    omega

lemma filter_distinct_offers (h : R.slots = before ++ behind) :
    (distinct (behind.flatMap (R.offers name))).filter
        (fun b => (before.flatMap (R.offers name)).all fun a => !b.agrees a) =
      behind.flatMap fun slot => distinct (slot.switch.longs.filterMap (R.own? name slot)) := by
  induction behind generalizing before with
  | nil => rfl
  | cons slot behind ih =>
    have hslot : slot ∈ R.slots := by simp [h]
    have hown : (distinct (R.offers name slot)).filter
        (fun b => (before.flatMap (R.offers name)).all fun a => !b.agrees a) =
          distinct (slot.switch.longs.filterMap (R.own? name slot)) := by
      rw [← filter_offers hslot, distinct_filter]
      · exact List.filter_congr fun b hb => all_not_agrees h (mem_of_mem_distinct hb)
      · intro a b hab
        rw [(agrees_eq_true.mp hab).1]
    -- the walk goes on with one more switch behind it
    have hrest := @ih (before ++ [slot]) (by simp [h])
    rw [List.flatMap_cons, distinct_append, List.filter_append, hown, List.filter_filter,
      List.flatMap_cons, ← hrest]
    simp only [List.flatMap_append, List.all_append, List.flatMap_cons, List.flatMap_nil,
      List.append_nil]

def spelling (negated : Bool) (word : String) : String :=
  if negated then negation word else word

lemma meant_not {negated : Bool} (h : R.meant name slot negated word = true) :
    R.meant name slot (!negated) word = false := by
  cases negated <;> simp_all [meant]

lemma own?_of_meant {negated : Bool} (h : R.meant name slot negated word = true) :
    R.own? name slot word = some ⟨spelling negated word, slot, negated⟩ := by
  have hnot := meant_not h
  cases negated <;> simp_all [own?, spelling]

lemma own?_eq_none : R.own? name slot word = none ↔
    ∀ negated, R.meant name slot negated word = false := by
  rw [Bool.forall_bool, own?]
  split_ifs <;> simp_all

lemma exists_meant_of_own? {a : Candidate} (h : R.own? name slot word = some a) :
    ∃ negated, R.meant name slot negated word = true := by
  by_contra! hall
  have hnone := own?_eq_none.mpr fun negated => eq_false_of_ne_true (hall negated)
  cases hnone.symm.trans h

lemma distinct_own {words : List String} {negated : Bool}
    (h : R.meant name slot negated word = true) :
    distinct ((word :: words).filterMap (R.own? name slot)) =
      ⟨spelling negated word, slot, negated⟩ ::
        ((words.find? (R.meant name slot (!negated))).map fun other =>
          ⟨spelling (!negated) other, slot, !negated⟩).toList := by
  let b : Candidate := ⟨"", slot, !negated⟩
  have hother : (fun other => (R.own? name slot other).any (·.agrees b)) =
      R.meant name slot (!negated) := by
    funext other
    cases hm : R.meant name slot (!negated) other with
    | true => simp [own?_of_meant hm, agrees, b]
    | false =>
      cases hm' : R.meant name slot negated other with
      | true => simp [own?_of_meant hm', agrees, b]
      | false =>
        have hnone : R.own? name slot other = none := by
          rw [own?_eq_none]
          cases negated <;> simp_all
        simp [hnone]
  have hagrees : ∀ c ∈ distinct (words.filterMap (R.own? name slot)),
      (!c.agrees ⟨spelling negated word, slot, negated⟩) = c.agrees b := by
    intro c hc
    obtain ⟨other, _, ho⟩ := List.mem_filterMap.mp (mem_of_mem_distinct hc)
    obtain ⟨negated', hm⟩ := exists_meant_of_own? ho
    obtain rfl := Option.some.inj (ho.symm.trans (own?_of_meant hm))
    cases negated <;> cases negated' <;> simp [agrees, b]
  rw [List.filterMap_cons_some (own?_of_meant h), distinct, List.filter_congr hagrees,
    filter_distinct, List.find?_filterMap, hother]
  cases hf : words.find? (R.meant name slot (!negated)) with
  | none => rfl
  | some other => simp [own?_of_meant (List.find?_some hf)]

lemma idxOf_lt_of_notMem {words words' : List String} {other : String} (hword : word ∉ words)
    (hother : other ∉ words) (hne : other ≠ word) :
    (words ++ word :: words').idxOf word < (words ++ word :: words').idxOf other := by
  rw [List.idxOf_append, if_neg hword, List.idxOf_append, if_neg hother, List.idxOf_cons_self,
    List.idxOf_cons, beq_false_of_ne hne.symm, cond_false]
  omega

lemma reported_of_firstMeant? {negated : Bool}
    (hfirst : R.firstMeant? name slot negated = some word)
    (hnext : ∀ other, R.firstMeant? name slot (!negated) = some other →
      slot.switch.longs.idxOf word < slot.switch.longs.idxOf other) :
    R.reported name slot =
      ((R.firstMeant? name slot (!negated)).map (spelling (!negated))).toList ++
        [spelling negated word] := by
  cases negated with
  | false =>
    rw [Bool.not_false] at hnext ⊢
    cases ho : R.firstMeant? name slot true with
    | none => simp [reported, hfirst, ho, spelling]
    | some other => simp [reported, hfirst, ho, spelling, hnext other ho]
  | true =>
    rw [Bool.not_true] at hnext ⊢
    cases ho : R.firstMeant? name slot false with
    | none => simp [reported, hfirst, ho, spelling]
    | some other => simp [reported, hfirst, ho, spelling, (hnext other ho).not_gt]

section

variable {words words' : List String} {negated : Bool}
  (hlongs : slot.switch.longs = words ++ word :: words')
  (hnone : ∀ other ∈ words, R.own? name slot other = none)
  (hm : R.meant name slot negated word = true)
include hlongs hnone hm

lemma firstMeant?_of_append : R.firstMeant? name slot negated = some word ∧
    R.firstMeant? name slot (!negated) = words'.find? (R.meant name slot (!negated)) := by
  have hbefore (negated : Bool) : words.find? (R.meant name slot negated) = none := by
    refine List.find?_eq_none.mpr fun other ho => ?_
    simp [own?_eq_none.mp (hnone other ho) negated]
  have hnot : ¬ R.meant name slot (!negated) word = true := by simp [meant_not hm]
  constructor
  · rw [firstMeant?, hlongs, List.find?_append, hbefore, List.find?_cons_of_pos hm]
    rfl
  · rw [firstMeant?, hlongs, List.find?_append, hbefore, List.find?_cons_of_neg hnot]
    rfl

lemma idxOf_lt_of_firstMeant? {other : String}
    (ho : R.firstMeant? name slot (!negated) = some other) :
    slot.switch.longs.idxOf word < slot.switch.longs.idxOf other := by
  have hmo := List.find?_some ho
  rw [hlongs]
  apply idxOf_lt_of_notMem
  · intro hmem
    cases (hnone word hmem).symm.trans (own?_of_meant hm)
  · intro hmem
    simp [own?_eq_none.mp (hnone other hmem) (!negated)] at hmo
  · rintro rfl
    simp [meant_not hm] at hmo

lemma map_spelling_own :
    ((distinct (slot.switch.longs.filterMap (R.own? name slot))).reverse.map Candidate.spelling) =
      ((R.firstMeant? name slot (!negated)).map (spelling (!negated))).toList ++
        [spelling negated word] := by
  rw [hlongs, List.filterMap_append, List.filterMap_eq_nil_iff.mpr hnone, List.nil_append,
    distinct_own hm, (firstMeant?_of_append hlongs hnone hm).2]
  cases words'.find? (R.meant name slot (!negated)) <;> rfl

end

lemma reported_eq (R : Registry) (name : String) (slot : Slot) :
    ((distinct (slot.switch.longs.filterMap (R.own? name slot))).reverse.map Candidate.spelling) =
      R.reported name slot := by
  cases hf : slot.switch.longs.find? fun word => (R.own? name slot word).isSome with
  | none =>
    have hnone : ∀ word ∈ slot.switch.longs, R.own? name slot word = none := by
      simpa using List.find?_eq_none.mp hf
    have hfirst (negated : Bool) : R.firstMeant? name slot negated = none := by
      refine List.find?_eq_none.mpr fun word hword => ?_
      simp [own?_eq_none.mp (hnone word hword) negated]
    rw [List.filterMap_eq_nil_iff.mpr hnone, reported, hfirst, hfirst]
    rfl
  | some word =>
    -- the first word that is meant at all settles which of the two spellings is found first
    obtain ⟨hsome, words, words', hlongs, hwords⟩ := List.find?_eq_some_iff_append.mp hf
    obtain ⟨a, ha⟩ := Option.isSome_iff_exists.mp hsome
    obtain ⟨negated, hm⟩ := exists_meant_of_own? ha
    have hnone : ∀ other ∈ words, R.own? name slot other = none := by simpa using hwords
    have hfirst := (firstMeant?_of_append hlongs hnone hm).1
    have hreported := reported_of_firstMeant? hfirst fun _ => idxOf_lt_of_firstMeant? hlongs hnone hm
    rw [map_spelling_own hlongs hnone hm, hreported]

lemma distinct_choices (R : Registry) (name : String) : distinct (R.choices name) =
    R.slots.flatMap fun slot => distinct (slot.switch.longs.filterMap (R.own? name slot)) := by
  rw [← @filter_distinct_offers R name [] R.slots rfl]
  exact (List.filter_eq_self.mpr fun _ _ => rfl).symm

lemma map_spelling_candidates (R : Registry) (name : String) :
    (R.candidates name).map Candidate.spelling = R.slots.reverse.flatMap (R.reported name) := by
  rw [candidates_eq, distinct_choices, List.reverse_flatMap, List.map_flatMap]
  refine List.flatMap_congr fun slot _ => ?_
  exact reported_eq R name slot

lemma reported_perm (R : Registry) (name : String) (slot : Slot) :
    (R.reported name slot).Perm ((R.firstMeant? name slot false).toList ++
      ((R.firstMeant? name slot true).map negation).toList) := by
  rw [reported]
  cases R.firstMeant? name slot false with
  | none => cases R.firstMeant? name slot true <;> exact .refl _
  | some word =>
    cases R.firstMeant? name slot true with
    | none => exact .refl _
    | some other =>
      dsimp only
      split_ifs
      · exact .swap ..
      · exact .refl _

lemma owns_of_firstMeant? {negated : Bool} (hslot : slot ∈ R.slots)
    (h : R.firstMeant? name slot negated = some word) : R.Owns slot (.long word) := by
  have hm := List.find?_some h
  rw [meant, Bool.and_eq_true, decide_eq_true_eq] at hm
  exact (owns_iff hslot (List.mem_of_find?_eq_some h)).mpr hm.1

theorem resolve_ambiguous_candidates
    (h : R.resolve name = .error (.ambiguousOption option spellings)) :
    spellings = (R.slots.reverse.flatMap (R.reported name)).map
      (fun word => (Name.long word).label) ∧
    R.slots.reverse.Pairwise (fun a b => a.index < b.index) ∧
    ∀ slot ∈ R.slots,
      (R.reported name slot).Perm ((R.firstMeant? name slot false).toList ++
        ((R.firstMeant? name slot true).map negation).toList) ∧
      ∀ negated word, R.firstMeant? name slot negated = some word → R.Owns slot (.long word) := by
  obtain ⟨_, _, rfl⟩ := resolve_eq_ambiguousOption h
  refine ⟨by rw [map_spelling_candidates], List.pairwise_reverse.mpr R.pairwise_slots, ?_⟩
  intro slot hslot
  exact ⟨reported_perm R name slot, fun _ _ hf => owns_of_firstMeant? hslot hf⟩

theorem resolve_ambiguous_candidates_shadowed :
    let R := ofDeclarations [["--[no-]color", "--caption", "--noon"], ["--[no-]caption", "--name"]]
    let spellings := ["--noon", "--no-color", "--name", "--no-caption"]
    let first : Slot := ⟨0, { longs := ["color", "caption", "noon"], negatable := true }⟩
    R.resolve "n" = .error (.ambiguousOption "--n" spellings) ∧
    R.firstMeant? "n" first true = some "color" ∧ ¬ R.Unshadowed first "caption" ∧
    spellings = (R.slots.reverse.flatMap (R.reported "n")).map fun word => (Name.long word).label := by
  intro R spellings first
  have h : R.resolve "n" = .error (.ambiguousOption "--n" spellings) := by rfl
  exact ⟨h, by rfl, by decide +kernel, (resolve_ambiguous_candidates h).1⟩

end Registry

end CommandLine
