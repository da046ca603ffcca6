import CommandLine.Registry.Outline
import Mathlib.Data.List.Basic

namespace CommandLine

namespace Text

def endedLines (text : String) : List String :=
  (text.toList.splitOn '\n').dropLast.map String.ofList

lemma length_fillers (fill : Char) (n : ℕ) : (fillers fill n).length = n := by
  simp [fillers]

lemma newline_notMem_fillers (n : ℕ) : '\n' ∉ (fillers ' ' n).toList := by
  simp [fillers]

lemma splitOn_join {lines : List String} (h : ∀ line ∈ lines, '\n' ∉ line.toList) :
    (String.join (lines.map (· ++ "\n"))).toList.splitOn '\n' = lines.map String.toList ++ [[]] := by
  induction lines with
  | nil => simp [List.splitOn]
  | cons line lines ih =>
    obtain ⟨hline, hlines⟩ := List.forall_mem_cons.mp h
    have hfree : ∀ c ∈ line.toList, (c == '\n') = false := by
      intro c hc
      rw [beq_eq_false_iff_ne]
      rintro rfl
      exact hline hc
    have htext : (String.join ((line :: lines).map (· ++ "\n"))).toList =
        line.toList ++ '\n' :: (String.join (lines.map (· ++ "\n"))).toList := by
      simp
    rw [htext, List.splitOn, List.splitOnP_append_cons_of_forall_mem hfree '\n' rfl]
    exact congrArg (line.toList :: ·) (ih hlines)

lemma endedLines_join {lines : List String} (h : ∀ line ∈ lines, '\n' ∉ line.toList) :
    endedLines (String.join (lines.map (· ++ "\n"))) = lines := by
  rw [endedLines, splitOn_join h, List.dropLast_concat, List.map_map]
  exact List.map_id'' (fun _ => String.ofList_toList) lines

lemma join_eq_empty_or_ended (lines : List String) :
    String.join (lines.map (· ++ "\n")) = "" ∨
      (String.join (lines.map (· ++ "\n"))).toList.getLast? = some '\n' := by
  obtain rfl | ⟨init, last, rfl⟩ := lines.eq_nil_or_concat
  · exact .inl rfl
  · right
    simp

end Text

def Entry.block (settings : Settings) (e : Entry) : String :=
  String.join ((e.helpLines settings).map (· ++ "\n"))

namespace Switch

variable (settings : Settings) (s : Switch)

/-- What stands before a line of the description, on the line of the names or below it. -/
def margin (i : ℕ) : String :=
  settings.indent ++
    (if i = 0 ∧ s.column.length ≤ settings.columnWidth then
      s.column ++ Text.fillers ' ' (settings.columnWidth - s.column.length)
    else Text.fillers ' ' settings.columnWidth) ++ " "

lemma length_margin (i : ℕ) :
    (s.margin settings i).length = settings.indent.length + settings.columnWidth + 1 := by
  have hpart : (if i = 0 ∧ s.column.length ≤ settings.columnWidth then
      s.column ++ Text.fillers ' ' (settings.columnWidth - s.column.length)
    else Text.fillers ' ' settings.columnWidth).length = settings.columnWidth := by
    split_ifs with h
    · rw [String.length_append, Text.length_fillers]
      omega
    · exact Text.length_fillers _ _
  rw [margin, String.length_append, String.length_append, hpart]
  rfl

lemma margin_of_fits (h : s.column.length ≤ settings.columnWidth) :
    s.margin settings 0 = settings.indent ++ settings.padded s.column ++ " " := by
  rw [margin, if_pos ⟨rfl, h⟩]
  rfl

lemma margin_of_blank {i : ℕ} (h : i ≠ 0 ∨ ¬ s.column.length ≤ settings.columnWidth) :
    s.margin settings i = settings.indent ++ settings.padded "" ++ " " := by
  rw [margin, if_neg (by tauto)]
  simp [Settings.padded, Text.justified]

lemma mapIdx_const {α β : Type} (f : α → β) (xs : List α) : xs.mapIdx (fun _ x => f x) = xs.map f := by
  induction xs with
  | nil => rfl
  | cons x xs ih => rw [List.mapIdx_cons, ih, List.map_cons]

lemma helpLines_of_described (h : s.description ≠ []) :
    s.helpLines settings =
      (if s.column.length ≤ settings.columnWidth then [] else [settings.indent ++ s.column]) ++
        s.description.mapIdx fun i line => s.margin settings i ++ line := by
  obtain ⟨line, lines, hd⟩ := List.exists_cons_of_ne_nil h
  have hlines : (lines.mapIdx fun i line => s.margin settings (i + 1) ++ line) =
      lines.map (settings.describedLine "") := by
    simp only [s.margin_of_blank settings (.inl (Nat.succ_ne_zero _))]
    exact mapIdx_const _ lines
  rw [helpLines, hd, List.mapIdx_cons, hlines]
  split_ifs with hfits
  · rw [s.margin_of_fits settings hfits]
    rfl
  · rw [s.margin_of_blank settings (.inr hfits)]
    rfl

lemma helpLines_of_undescribed (h : s.description = []) :
    s.helpLines settings = [settings.indent ++ s.column] := by
  rw [helpLines, h]

lemma head?_helpLines : ∃ behind, (s.helpLines settings).head? =
    some (settings.indent ++ s.column ++ behind) := by
  by_cases hd : s.description = []
  · exact ⟨"", by simp [s.helpLines_of_undescribed settings hd]⟩
  · obtain ⟨line, lines, hlines⟩ := List.exists_cons_of_ne_nil hd
    rw [s.helpLines_of_described settings hd, hlines]
    split_ifs with hfits
    · refine ⟨Text.fillers ' ' (settings.columnWidth - s.column.length) ++ " " ++ line, ?_⟩
      simp [margin, hfits, String.append_assoc]
    · exact ⟨"", by simp⟩

lemma block_of_undescribed (h : s.description = []) :
    (Entry.switch s).block settings = settings.indent ++ s.column ++ "\n" := by
  simp [Entry.block, Entry.helpLines, s.helpLines_of_undescribed settings h]

lemma block_of_described (h : s.description ≠ []) :
    (Entry.switch s).block settings =
      (if s.column.length ≤ settings.columnWidth then "" else settings.indent ++ s.column ++ "\n") ++
        String.join (s.description.mapIdx fun i line => s.margin settings i ++ line ++ "\n") := by
  have hlines : (s.description.mapIdx fun i line => s.margin settings i ++ line).map (· ++ "\n") =
      s.description.mapIdx fun i line => s.margin settings i ++ line ++ "\n" :=
    List.ext_getElem? fun i => by simp [List.getElem?_mapIdx, Function.comp_def]
  rw [Entry.block, Entry.helpLines, s.helpLines_of_described settings h, List.map_append, hlines,
    String.join_append]
  split_ifs <;> simp

lemma prefix_block :
    (settings.indent ++ s.column).toList <+: ((Entry.switch s).block settings).toList := by
  obtain ⟨behind, hhead⟩ := s.head?_helpLines settings
  obtain ⟨lines, hlines⟩ := List.head?_eq_some_iff.mp hhead
  rw [Entry.block, Entry.helpLines, hlines]
  simp only [List.map_cons, String.join_cons, String.toList_append, List.append_assoc]
  exact (List.prefix_append_right_inj _).mpr (List.prefix_append _ _)

lemma length_helpLines : (s.helpLines settings).length =
    if s.description = [] then 1
    else if s.column.length ≤ settings.columnWidth then s.description.length
    else s.description.length + 1 := by
  by_cases hd : s.description = []
  · rw [s.helpLines_of_undescribed settings hd, if_pos hd]
    rfl
  · rw [s.helpLines_of_described settings hd, if_neg hd, List.length_append, List.length_mapIdx]
    split_ifs
    · exact Nat.zero_add _
    · exact Nat.add_comm 1 _

lemma getElem?_helpLines {i : ℕ} {line : String} (h : s.description[i]? = some line) :
    (s.helpLines settings)[if s.column.length ≤ settings.columnWidth then i else i + 1]? =
      some (s.margin settings i ++ line) := by
  have hd : s.description ≠ [] := by
    intro hd
    simp [hd] at h
  rw [s.helpLines_of_described settings hd]
  split_ifs <;> simp [List.getElem?_mapIdx, h]

lemma endedLines_block (hfirst : '\n' ∉ (settings.indent ++ s.column).toList)
    (hlines : ∀ line ∈ s.description, '\n' ∉ line.toList) :
    Text.endedLines ((Entry.switch s).block settings) = s.helpLines settings := by
  apply Text.endedLines_join
  rw [String.toList_append, List.mem_append, not_or] at hfirst
  have hmargin (i : ℕ) : '\n' ∉ (s.margin settings i).toList := by
    have hfillers := Text.newline_notMem_fillers
    rw [margin]
    split_ifs <;> simp [hfirst, hfillers]
  by_cases hd : s.description = []
  · rw [Entry.helpLines, s.helpLines_of_undescribed settings hd]
    simp [hfirst]
  · rw [Entry.helpLines, s.helpLines_of_described settings hd]
    intro line hline
    rcases List.mem_append.mp hline with hline | hline
    · split_ifs at hline
      · cases hline
      · rw [List.mem_singleton.mp hline]
        simp [hfirst]
    · obtain ⟨i, hi, rfl⟩ := List.mem_mapIdx.mp hline
      simp [hmargin i, hlines _ (List.getElem_mem hi)]

end Switch

namespace Registry

lemma help_eq (R : Registry) (hw : R.settings.columnWidth ≤ Settings.maxColumn) :
    R.help = .ok (R.banner.elim "" (· ++ "\n") ++ String.join (R.entries.map (·.block R.settings))) := by
  have hblocks (entries : List Entry) :
      String.join ((entries.flatMap (·.helpLines R.settings)).map (· ++ "\n")) =
        String.join (entries.map (·.block R.settings)) := by
    induction entries with
    | nil => rfl
    | cons e entries ih =>
      rw [List.flatMap_cons, List.map_append, String.join_append, ih, List.map_cons, String.join_cons]
      rfl
  rw [help, if_neg fun h => absurd h.1 (Nat.not_lt.mpr hw), helpLines, List.map_append,
    String.join_append, hblocks]
  cases R.banner <;> simp

/-- Help is the banner and then the blocks of the entries, and in the block of a switch the names are
whole and all descriptions begin in one column. -/
theorem help_blocks (R : Registry) (hw : R.settings.columnWidth ≤ 65535) :
    let blocks (entries : List Entry) := String.join (entries.map (·.block R.settings))
    R.help = .ok (R.banner.elim "" (· ++ "\n") ++ blocks R.entries) ∧
    (∀ more, { R with entries := R.entries ++ more }.help = R.help.map (· ++ blocks more)) ∧
    (∀ text, R.help = .ok text → text = "" ∨ text.toList.getLast? = some '\n') ∧
    (∀ text, (Entry.heading text).block R.settings = text ++ "\n") ∧
    ∀ s : Switch,
      let block := (Entry.switch s).block R.settings
      let first := R.settings.indent ++ s.column
      let fits := s.column.length ≤ R.settings.columnWidth
      first.toList <+: block.toList ∧
      (s.description = [] → block = first ++ "\n") ∧
      (s.description ≠ [] → block = (if fits then "" else first ++ "\n") ++
        String.join (s.description.mapIdx fun i line => s.margin R.settings i ++ line ++ "\n")) ∧
      (∀ i, (s.margin R.settings i).length =
        R.settings.indent.length + R.settings.columnWidth + 1) ∧
      ('\n' ∉ first.toList → (∀ line ∈ s.description, '\n' ∉ line.toList) →
        (Text.endedLines block).length =
          (if s.description = [] then 1
          else if fits then s.description.length else s.description.length + 1) ∧
        ∀ i line, s.description[i]? = some line →
          (Text.endedLines block)[if fits then i else i + 1]? =
            some (s.margin R.settings i ++ line)) := by
  intro blocks
  have hhelp (entries : List Entry) : { R with entries }.help =
      .ok (R.banner.elim "" (· ++ "\n") ++ blocks entries) := help_eq { R with entries } hw
  refine ⟨hhelp R.entries, fun more => ?_, fun text htext => ?_, fun text => ?_, fun s => ?_⟩
  · rw [hhelp, help_eq R hw]
    simp [Except.map, blocks, String.append_assoc]
  · rw [help, if_neg fun h => absurd h.1 (Nat.not_lt.mpr hw)] at htext
    cases htext
    exact Text.join_eq_empty_or_ended R.helpLines
  · simp [Entry.block, Entry.helpLines]
  · intro block first fits
    refine ⟨s.prefix_block R.settings, s.block_of_undescribed R.settings,
      s.block_of_described R.settings, s.length_margin R.settings, fun hf hl => ?_⟩
    have hlines : Text.endedLines block = s.helpLines R.settings :=
      s.endedLines_block R.settings hf hl
    rw [hlines]
    exact ⟨s.length_helpLines R.settings, fun i line => s.getElem?_helpLines R.settings⟩

theorem help_blocks_boundary :
    let verbose : Switch := { shorts := ['é'], longs := ["ä"], description := ["a", "b"] }
    let size : Switch := { shorts := ['é'], longs := ["äö"], description := ["c"] }
    let R : Registry :=
      { banner := some "Usage:", entries := [.switch verbose, .heading "Files:", .switch size]
        settings := { columnWidth := 7, indent := "» " } }
    R.settings.columnWidth ≤ 65535 ∧
    R.help = .ok "Usage:\n» -é, --ä a\n»         b\nFiles:\n» -é, --äö\n»         c\n" ∧
    (∀ more, { R with entries := R.entries ++ more }.help =
      R.help.map (· ++ String.join (more.map (·.block R.settings)))) ∧
    verbose.column.length = 7 ∧ size.column.length = 8 ∧
    (verbose.margin R.settings 0).length = 10 ∧ (size.margin R.settings 0).length = 10 ∧
    (Text.endedLines ((Entry.switch verbose).block R.settings)).length = 2 ∧
    (Text.endedLines ((Entry.switch size).block R.settings)).length = 2 := by
  intro verbose size R
  have hw : R.settings.columnWidth ≤ 65535 := by decide
  obtain ⟨hhelp, happend, _, _, hswitch⟩ := R.help_blocks hw
  obtain ⟨_, _, _, hmargin, hverbose⟩ := hswitch verbose
  obtain ⟨_, _, _, hmargin', hsize⟩ := hswitch size
  have hcolumn : verbose.column.length = 7 := by decide +kernel
  have hcolumn' : size.column.length = 8 := by decide +kernel
  have hlength : R.settings.indent.length + R.settings.columnWidth + 1 = 10 := by decide +kernel
  refine ⟨hw, hhelp.trans (by decide +kernel), happend, hcolumn, hcolumn', (hmargin 0).trans hlength,
    (hmargin' 0).trans hlength, ?_, ?_⟩
  · exact (hverbose (by decide +kernel) (by decide +kernel)).1.trans (by decide +kernel)
  · exact (hsize (by decide +kernel) (by decide +kernel)).1.trans (by decide +kernel)

end Registry

end CommandLine
