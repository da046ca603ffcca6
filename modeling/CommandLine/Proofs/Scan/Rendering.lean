import CommandLine.Proofs.Registry.Spellings
import CommandLine.Proofs.Scan.Reading
import CommandLine.Proofs.Scan.Sentinel

namespace CommandLine.Registry

open Spelling

variable {R : Registry} {mode : Mode} {c d : Cursor} {slot : Slot} {name word value : String}
  {letter : Char} {letters : List Char} {events : List Event} {left : List String} {r : Resolution}

lemma readCluster_flag (ho : R.Owns slot (.short letter)) (hn : slot.switch.arity = .noValue) :
    R.readCluster [letter] c = ⟨[⟨slot, .flag true⟩], .ok c⟩ := by
  rw [readCluster_of_noValue [] c (findShort?_eq_some.mpr ho) hn]
  rfl

lemma readCluster_text (ho : R.Owns slot (.short letter)) (hn : slot.switch.arity ≠ .noValue)
    (hl : letters ≠ []) :
    R.readCluster (letter :: letters) c = ⟨[⟨slot, .text (String.ofList letters)⟩], .ok c⟩ := by
  apply readCluster_of_captures ho hn
  rw [if_neg hl]
  exact .inline hn _ _ _

lemma readLong_flag (hr : R.resolve name = .ok r) (hn : r.slot.switch.arity = .noValue) :
    R.readLong name none c = ⟨[⟨r.slot, .flag !r.negated⟩], .ok c⟩ := by
  apply readLong_of_captures hr
  rw [hn]
  exact .flag _ _

lemma readLong_text (hr : R.resolve name = .ok r) (hn : r.slot.switch.arity ≠ .noValue) :
    R.readLong name (some value) c = ⟨[⟨r.slot, .text value⟩], .ok c⟩ :=
  readLong_of_captures hr (.inline hn _ _ _)

lemma reads_text {t : Token} (ht : t.Writable) (hs : t ≠ .sentinel)
    (hstep : ∀ c, R.step mode c t = ⟨events, left, .ok (some c)⟩) (rest : List String) :
    R.Reads mode ⟨t.text :: rest, false⟩ events left ⟨rest, false⟩ :=
  ⟨t, ⟨rest, false⟩, Cursor.next?_text ht hs rest, hstep _⟩

lemma reads_negation (hR : R.Reachable) (ho : R.Owns slot (.long word))
    (hneg : slot.switch.negatable = true) (hd : ¬ R.Declares (.long (negation word)))
    (rest : List String) :
    R.Reads mode ⟨(Name.long (negation word)).label :: rest, false⟩ [.matched ⟨slot, .flag false⟩] []
      ⟨rest, false⟩ := by
  have ht := hR.writable_of_accepts (accepts_negation ho hneg)
  have hr := resolve_of_spelled? (spelled?_of_negatable ho hneg hd)
  apply reads_text ht (by simp)
  intro c
  simp only [step, readLong_flag hr (hR.arity_of_negatable ho hneg)]
  rfl

lemma reads_inline (hR : R.Reachable) (hr : R.resolve name = .ok r)
    (hn : r.slot.switch.arity ≠ .noValue) (value : String) (rest : List String) :
    R.Reads mode ⟨((Name.long name).label ++ "=" ++ value) :: rest, false⟩
      [.matched ⟨r.slot, .text value⟩] [] ⟨rest, false⟩ := by
  have ht : (Token.long name (some value)).Writable := ⟨(hR.writable_of_resolve hr).1, by simp⟩
  apply reads_text ht (by simp)
  intro c
  simp only [step, readLong_text hr hn]
  rfl

lemma reads_attached (hR : R.Reachable) (ho : R.Owns slot (.short letter))
    (hn : slot.switch.arity ≠ .noValue) (hv : value ≠ "") (rest : List String) :
    R.Reads mode ⟨((Name.short letter).label ++ value) :: rest, false⟩ [.matched ⟨slot, .text value⟩] []
      ⟨rest, false⟩ := by
  have ht : (Token.cluster (letter :: value.toList)).Writable :=
    ⟨letter, value.toList, rfl, hR.short_ne_dash ho⟩
  have htext : (Name.short letter).label ++ value = (Token.cluster (letter :: value.toList)).text := by
    simp [Name.label, Token.text, ← String.toList_inj]
  have hvalue : value.toList ≠ [] := by simpa using hv
  rw [htext]
  apply reads_text ht (by simp)
  intro c
  simp only [step, readCluster_text ho hn hvalue, String.ofList_toList]
  rfl

inductive Writes (R : Registry) : Event → String → Prop
  | kept {arg : String} (h : arg = "-" ∨ arg.toList.head? ≠ some '-') : Writes R (.kept arg) arg
  | flag {slot : Slot} {name : Name} (ho : R.Owns slot name) (hn : slot.switch.arity = .noValue) :
      Writes R (.matched ⟨slot, .flag true⟩) name.label
  | short {slot : Slot} {letter : Char} {value : String} (ho : R.Owns slot (.short letter))
      (hn : slot.switch.arity ≠ .noValue) (hv : value ≠ "") :
      Writes R (.matched ⟨slot, .text value⟩) ((Name.short letter).label ++ value)
  | long {slot : Slot} {word value : String} (ho : R.Owns slot (.long word))
      (hn : slot.switch.arity ≠ .noValue) :
      Writes R (.matched ⟨slot, .text value⟩) ((Name.long word).label ++ "=" ++ value)
  | negated {slot : Slot} {word : String} (ho : R.Owns slot (.long word))
      (hneg : slot.switch.negatable = true) (hd : ¬ R.Declares (.long (negation word))) :
      Writes R (.matched ⟨slot, .flag false⟩) (Name.long (negation word)).label

lemma Writes.reads (hR : R.Reachable) {item : Event} {arg : String} (h : R.Writes item arg)
    (rest : List String) :
    R.Reads .permuting ⟨arg :: rest, false⟩ [item] item.kept?.toList ⟨rest, false⟩ := by
  cases h with
  | kept h => exact reads_text (t := .positional arg) h (by simp) (fun c => rfl) rest
  | @flag slot name ho hn =>
    cases name with
    | short letter =>
      have ht : (Token.cluster [letter]).Writable := ⟨letter, [], rfl, hR.short_ne_dash ho⟩
      apply reads_text ht (by simp)
      intro c
      simp only [step, readCluster_flag ho hn]
      rfl
    | long word =>
      have ht := hR.writable_of_accepts (accepts_of_owns ho)
      have hr := resolve_of_spelled? (spelled?_of_owns ho)
      apply reads_text ht (by simp)
      intro c
      simp only [step, readLong_flag hr hn]
      rfl
  | short ho hn hv => exact reads_attached hR ho hn hv rest
  | long ho hn => exact reads_inline hR (resolve_of_spelled? (spelled?_of_owns ho)) hn _ rest
  | negated ho hneg hd => exact reads_negation hR ho hneg hd rest

lemma Writes.advances (hR : R.Reachable) {items : List Event} {args : List String}
    (h : List.Forall₂ R.Writes items args) (rest : List String) :
    R.Advances .permuting ⟨args ++ rest, false⟩ items (items.filterMap Event.kept?) ⟨rest, false⟩ := by
  induction h with
  | nil => exact .refl _
  | @cons item arg items args hw _ ih =>
    have hleft : (item :: items).filterMap Event.kept? =
        item.kept?.toList ++ items.filterMap Event.kept? := by
      cases item <;> rfl
    rw [hleft]
    exact .head (hw.reads hR (args ++ rest)) ih

theorem trace_written (hR : R.Reachable) {items : List Event} {args : List String}
    (h : List.Forall₂ R.Writes items args) :
    R.trace .permuting ⟨args, false⟩ = ⟨items, .ok (items.filterMap Event.kept?)⟩ ∧
      ∀ tail, R.trace .permuting ⟨args ++ "--" :: tail, false⟩ =
        ⟨items ++ .sentinel :: tail.map .kept, .ok (items.filterMap Event.kept? ++ tail)⟩ := by
  constructor
  · have ha := Writes.advances hR h []
    rw [List.append_nil] at ha
    rw [ha.trace, trace_exhausted]
    simp [Trace.after, Except.map]
  · intro tail
    rw [(Writes.advances hR h ("--" :: tail)).trace, (R.reads_sentinel _ tail).trace,
      trace_permuting_literal]
    rfl

theorem trace_written_mixed :
    let R := ofDeclarations [["-o", "--output FILE"], ["-q", "--[no-]quiet"]]
    let output : Slot :=
      ⟨0, { shorts := ['o'], longs := ["output"], arity := .required, placeholder := some " FILE" }⟩
    let quiet : Slot := ⟨1, { shorts := ['q'], longs := ["quiet"], negatable := true }⟩
    let items : List Event :=
      [.matched ⟨quiet, .flag true⟩, .kept "-", .matched ⟨output, .text "-q"⟩,
        .matched ⟨output, .text "a=b"⟩, .matched ⟨quiet, .flag false⟩]
    let args := ["-q", "-", "-o-q", "--output=a=b", "--no-quiet"]
    R.Reachable ∧ List.Forall₂ R.Writes items args ∧
      R.trace .permuting ⟨args, false⟩ = ⟨items, .ok ["-"]⟩ ∧
      R.trace .permuting ⟨args ++ ["--", "-q"], false⟩ =
        ⟨items ++ [.sentinel, .kept "-q"], .ok ["-", "-q"]⟩ := by
  intro R output quiet items args
  have hR : R.Reachable := reachable_ofDeclarations _
  have hq : R.Owns quiet (.short 'q') := find?_eq_some.mp (by rfl)
  have hquiet : R.Owns quiet (.long "quiet") := find?_eq_some.mp (by rfl)
  have ho : R.Owns output (.short 'o') := find?_eq_some.mp (by rfl)
  have houtput : R.Owns output (.long "output") := find?_eq_some.mp (by rfl)
  have hd : ¬ R.Declares (.long "no-quiet") := find?_eq_none.mp (by rfl)
  have hw : List.Forall₂ R.Writes items args :=
    .cons (.flag hq rfl) (.cons (.kept (.inl rfl)) (.cons (.short ho (by simp [output]) (by decide))
      (.cons (.long houtput (by simp [output])) (.cons (.negated hquiet rfl hd) .nil))))
  obtain ⟨hargs, htail⟩ := trace_written hR hw
  exact ⟨hR, hw, hargs, htail ["-q"]⟩

end CommandLine.Registry
