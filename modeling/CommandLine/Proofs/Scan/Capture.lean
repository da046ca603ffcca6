import CommandLine.Proofs.Scan.Sentinel

namespace CommandLine

namespace Arity

variable {arity : Arity} {negated : Bool} {inline : Option String} {c d : Cursor} {v : Value}

lemma Captures.of_noValue (h : noValue.Captures negated inline c v d) : v = .flag !negated := by
  cases h with
  | flag => rfl
  | inline ha => exact (ha rfl).elim
  | next ha => exact (ha rfl).elim

lemma Captures.of_required (h : required.Captures negated inline c v d) : ∃ w, v = .text w := by
  cases h with
  | inline => exact ⟨_, rfl⟩
  | next => exact ⟨_, rfl⟩

lemma Captures.of_optional (h : optional.Captures negated inline c v d) :
    (∃ w, v = .text w) ∨ (v = .absent ∧ (c.rest = [] ∨ c.rest.head? = some "--")) := by
  cases h with
  | inline => exact .inl ⟨_, rfl⟩
  | next => exact .inl ⟨_, rfl⟩
  | absent _ hc => exact .inr ⟨rfl, hc⟩

lemma Captures.of_text {w : String} (h : arity.Captures negated inline c (.text w) d) :
    inline = some w ∨ (inline = none ∧ c.rest.head? = some w) := by
  cases h with
  | inline => exact .inl rfl
  | next => exact .inr ⟨rfl, rfl⟩

end Arity

namespace Reading

variable {m : Match} {found found' : List Match}

lemma found_step (r : Reading) : r.step.events.filterMap Event.match? = r.found := by
  rw [step, List.filterMap_map]
  exact List.filterMap_some

lemma eq_of_found_single {slot : Slot} {x : Except Error (Value × Cursor)}
    (h : (single slot x).found = found ++ m :: found') :
    found = [] ∧ slot = m.slot ∧ ∃ d, x = .ok (m.value, d) := by
  rcases x with e | ⟨v, d⟩
  · simp [single] at h
  · cases found with
    | nil =>
      obtain ⟨rfl, _⟩ := List.cons.inj h
      exact ⟨rfl, rfl, d, rfl⟩
    | cons m' found => simp [single] at h

end Reading

namespace Registry

variable {R : Registry} {mode : Mode} {c : Cursor} {m : Match} {slot : Slot} {r : Resolution}
  {name value arg : String} {args : List String} {letters : List Char} {inline : Option String}
  {before behind found found' : List Match}

def Flags (R : Registry) : List Char → List Match → Prop :=
  List.Forall₂ fun letter m => R.Owns m.slot (.short letter) ∧ m.slot.switch.arity = .noValue ∧
    m.value = .flag true

/-- The option names a switch, in a cluster behind flags that match before. Last comes the text for the
switch that the argument holds itself: what stands behind the first `=`, or behind the letter in its
cluster, unless the letter is a flag. -/
inductive Names (R : Registry) : String → List Match → Resolution → Option String → Prop
  | long {name : String} {r : Resolution} (hr : R.resolve name = .ok r) (hname : '=' ∉ name.toList) :
      Names R ("--" ++ name) [] r none
  | inline {name value : String} {r : Resolution} (hr : R.resolve name = .ok r)
      (hname : '=' ∉ name.toList) : Names R ("--" ++ name ++ "=" ++ value) [] r (some value)
  | flag {letters : List Char} {flags : List Match} {letter : Char} {slot : Slot}
      (hf : R.Flags letters flags) (ho : R.Owns slot (.short letter))
      (hn : slot.switch.arity = .noValue) (behind : String) :
      Names R ("-" ++ String.ofList (letters ++ [letter]) ++ behind) flags ⟨slot, false⟩ none
  | last {letters : List Char} {flags : List Match} {letter : Char} {slot : Slot}
      (hf : R.Flags letters flags) (ho : R.Owns slot (.short letter))
      (hn : slot.switch.arity ≠ .noValue) :
      Names R ("-" ++ String.ofList (letters ++ [letter])) flags ⟨slot, false⟩ none
  | attached {letters : List Char} {flags : List Match} {letter : Char} {slot : Slot} {value : String}
      (hf : R.Flags letters flags) (ho : R.Owns slot (.short letter))
      (hn : slot.switch.arity ≠ .noValue) (hv : value ≠ "") :
      Names R ("-" ++ String.ofList (letters ++ [letter]) ++ value) flags ⟨slot, false⟩ (some value)

lemma Names.arity_of_negated (hR : R.Reachable) (h : R.Names arg before r inline)
    (hn : r.negated = true) : r.slot.switch.arity = .noValue := by
  cases h with
  | long hr => exact hR.arity_of_negated hr hn
  | inline hr => exact hR.arity_of_negated hr hn
  | flag _ _ ha => exact ha
  | last => cases hn
  | attached => cases hn

lemma Names.owns (h : R.Names arg before r inline) : ∃ name, R.Owns r.slot name := by
  cases h with
  | long hr =>
    obtain ⟨word, ho⟩ := owns_of_resolve hr
    exact ⟨.long word, ho⟩
  | inline hr =>
    obtain ⟨word, ho⟩ := owns_of_resolve hr
    exact ⟨.long word, ho⟩
  | flag _ ho => exact ⟨_, ho⟩
  | last _ ho => exact ⟨_, ho⟩
  | attached _ ho => exact ⟨_, ho⟩

lemma exists_letter_of_found (h : (R.readCluster letters c).found = found ++ m :: found') :
    ∃ before letter behind, letters = before ++ letter :: behind ∧ R.Flags before found ∧
      R.Owns m.slot (.short letter) ∧
      ((m.slot.switch.arity = .noValue ∧ m.value = .flag true) ∨
        (m.slot.switch.arity ≠ .noValue ∧ ∃ d, m.slot.switch.arity.Captures false
          (if behind = [] then none else some (String.ofList behind)) c m.value d)) := by
  induction letters generalizing found with
  | nil => simp [readCluster] at h
  | cons letter letters ih =>
    cases hs : R.findShort? letter with
    | none =>
      rw [readCluster_of_undeclared letters c hs] at h
      simp at h
    | some slot =>
      have ho := findShort?_eq_some.mp hs
      by_cases hn : slot.switch.arity = .noValue
      · rw [readCluster_of_noValue letters c hs hn] at h
        cases found with
        | nil =>
          obtain ⟨rfl, _⟩ := List.cons.inj h
          exact ⟨[], letter, letters, rfl, .nil, ho, .inl ⟨hn, rfl⟩⟩
        | cons flag found =>
          obtain ⟨rfl, hfound⟩ := List.cons.inj h
          obtain ⟨before, letter', behind, rfl, hf, hm⟩ := ih hfound
          exact ⟨letter :: before, letter', behind, rfl, .cons ⟨ho, hn, rfl⟩ hf, hm⟩
      · rw [readCluster_of_value letters c hs hn] at h
        obtain ⟨rfl, rfl, d, hd⟩ := Reading.eq_of_found_single h
        exact ⟨[], letter, letters, rfl, .nil, ho, .inr ⟨hn, d, Arity.capture_eq_ok.mp hd⟩⟩

lemma exists_names_of_cluster (h : (R.readCluster letters c).found = found ++ m :: found') :
    ∃ r inline d, R.Names (Token.cluster letters).text found r inline ∧ r.slot = m.slot ∧
      r.slot.switch.arity.Captures r.negated inline c m.value d := by
  obtain ⟨before, letter, behind, rfl, hf, ho, hm⟩ := exists_letter_of_found h
  have htext : (Token.cluster (before ++ letter :: behind)).text =
      "-" ++ String.ofList (before ++ [letter]) ++ String.ofList behind := by
    simp [Token.text, ← String.toList_inj]
  rw [htext]
  rcases hm with ⟨hn, hv⟩ | ⟨hn, d, hd⟩
  · refine ⟨⟨m.slot, false⟩, none, c, .flag hf ho hn _, rfl, ?_⟩
    simp only [hn, hv]
    exact .flag false c
  · refine ⟨⟨m.slot, false⟩, _, d, ?_, rfl, hd⟩
    by_cases hb : behind = []
    · subst hb
      rw [String.ofList_nil, String.append_empty]
      exact .last hf ho hn
    · rw [if_neg hb]
      exact .attached hf ho hn (by simpa [← String.toList_inj] using hb)

lemma exists_names_of_long (hname : '=' ∉ name.toList)
    (h : (R.readLong name inline c).found = found ++ m :: found') :
    ∃ r inline' d, R.Names (Token.long name inline).text found r inline' ∧ r.slot = m.slot ∧
      r.slot.switch.arity.Captures r.negated inline' c m.value d := by
  cases hr : R.resolve name with
  | error e => simp [readLong, hr] at h
  | ok r =>
    simp only [readLong, hr] at h
    obtain ⟨rfl, hs, d, hd⟩ := Reading.eq_of_found_single h
    refine ⟨r, inline, d, ?_, hs, Arity.capture_eq_ok.mp hd⟩
    cases inline with
    | none => exact .long hr hname
    | some value => exact .inline hr hname

lemma exists_names_of_step {d : Cursor} {t : Token} (hc : c.next? = some (t, d))
    (h : (R.step mode d t).events.filterMap Event.match? = found ++ m :: found') :
    ∃ arg rest r inline e, c = ⟨arg :: rest, false⟩ ∧ R.Names arg found r inline ∧ r.slot = m.slot ∧
      r.slot.switch.arity.Captures r.negated inline ⟨rest, false⟩ m.value e := by
  have hpositional {e : Cursor} {p : String} :
      (R.step mode e (.positional p)).events.filterMap Event.match? = [] := by
    cases mode <;> rfl
  rcases c with ⟨_ | ⟨arg, rest⟩, _ | _⟩
  · cases hc
  · cases hc
  · rw [Cursor.next?_cons] at hc
    obtain ⟨rfl, rfl⟩ : Token.ofArg arg = t ∧ ⟨rest, Token.ofArg arg == .sentinel⟩ = d := by
      simpa using hc
    have htext := Token.text_ofArg arg
    have hw := Token.writable_ofArg arg
    cases ht : Token.ofArg arg with
    | sentinel => simp [ht, step, List.filterMap_cons] at h
    | positional p => simp [ht, hpositional] at h
    | long name inline =>
      rw [ht] at h htext hw
      have hfound := (Reading.found_step _).symm.trans h
      obtain ⟨r, inline', e, hnames, hm⟩ := exists_names_of_long hw.1 hfound
      exact ⟨arg, rest, r, inline', e, rfl, htext ▸ hnames, hm⟩
    | cluster letters =>
      rw [ht] at h htext
      have hfound := (Reading.found_step _).symm.trans h
      obtain ⟨r, inline', e, hnames, hm⟩ := exists_names_of_cluster hfound
      exact ⟨arg, rest, r, inline', e, rfl, htext ▸ hnames, hm⟩
  · rw [Cursor.next?_cons] at hc
    obtain ⟨rfl, rfl⟩ := Prod.mk.inj (Option.some.inj hc)
    simp [hpositional] at h

def Makes (R : Registry) (mode : Mode) (c : Cursor) (before : List Match) (m : Match) : Prop :=
  ∃ events left d e t found found', R.Advances mode c events left d ∧ d.next? = some (t, e) ∧
    before = events.filterMap Event.match? ++ found ∧
    (R.step mode e t).events.filterMap Event.match? = found ++ m :: found'

lemma Makes.of_step {d : Cursor} {t : Token} (hc : c.next? = some (t, d))
    (hs : (R.step mode d t).events.filterMap Event.match? = before ++ m :: behind) :
    R.Makes mode c before m :=
  ⟨[], [], c, d, t, before, behind, .refl c, hc, rfl, hs⟩

lemma Reads.makes {d : Cursor} {events : List Event} {left : List String}
    (hr : R.Reads mode c events left d) (h : R.Makes mode d before m) :
    R.Makes mode c (events.filterMap Event.match? ++ before) m := by
  obtain ⟨events', left', e, f, t, found, found', ha, he, rfl, hs⟩ := h
  refine ⟨_, _, e, f, t, found, found', .head hr ha, he, ?_, hs⟩
  rw [List.filterMap_append, List.append_assoc]

lemma makes_of_found (h : (R.trace mode c).found = before ++ m :: behind) :
    R.Makes mode c before m := by
  induction c using scan_induction R mode generalizing before with
  | h c ih =>
    cases hc : c.next? with
    | none =>
      rw [trace_of_next?_eq_none hc] at h
      simp [Trace.found] at h
    | some p =>
      obtain ⟨t, d⟩ := p
      rw [trace_of_next?_eq_some hc] at h
      rcases hn : (R.step mode d t).next with e | _ | e
      · simp only [Step.trace, hn] at h
        exact .of_step hc h
      · simp only [Step.trace, hn] at h
        exact .of_step hc h
      · have hr : R.Reads mode c (R.step mode d t).events (R.step mode d t).left e :=
          ⟨t, d, hc, by rw [← hn]⟩
        simp only [Step.trace, hn, Trace.found_after] at h
        -- the match is one of the step, or one of the scan behind it
        rcases List.append_eq_append_iff.mp h with ⟨found, rfl, hfound⟩ | ⟨found, hs, hfound⟩
        · exact hr.makes (ih t d e hc hn hfound)
        · cases found with
          | nil =>
            rw [List.append_nil] at hs
            have hfirst : (R.trace mode e).found = [] ++ m :: behind := hfound.symm
            have hmakes := hr.makes (ih t d e hc hn hfirst)
            rwa [hs, List.append_nil] at hmakes
          | cons m' found' =>
            obtain ⟨rfl, _⟩ := List.cons.inj hfound
            exact .of_step hc hs

lemma exists_captures_of_mem_found (h : m ∈ (R.trace mode c).found) :
    m.slot ∈ R.slots ∧
      ∃ negated inline d e, m.slot.switch.arity.Captures negated inline d m.value e := by
  obtain ⟨before, behind, hfound⟩ := List.append_of_mem h
  obtain ⟨_, _, d, e, t, _, _, _, hd, _, hs⟩ := makes_of_found hfound
  obtain ⟨arg, rest, r, inline, e, _, hnames, hslot, hv⟩ := exists_names_of_step hd hs
  obtain ⟨name, ho⟩ := hnames.owns
  rw [← hslot]
  exact ⟨ho.1, r.negated, inline, _, e, hv⟩

lemma readLong_needless (hr : R.resolve name = .ok r) (hn : r.slot.switch.arity = .noValue)
    (value : String) (c : Cursor) :
    R.readLong name (some value) c = ⟨[], .error (.needlessArgument (r.label ++ "=" ++ value))⟩ := by
  simp only [readLong, hr, hn]
  rfl

/-- A value that a match captures fits its switch, and stands in the argument that named the switch or
in the next; and a switch is turned off by nothing but its negation, which has no value. -/
theorem trace_captured (hR : R.Reachable) (mode : Mode) (args : List String) :
    (∀ before m behind, (R.trace mode ⟨args, false⟩).found = before ++ m :: behind →
      ∃ events left pre arg rest flags r inline,
        args = pre ++ arg :: rest ∧ R.Advances mode ⟨args, false⟩ events left ⟨arg :: rest, false⟩ ∧
        before = events.filterMap Event.match? ++ flags ∧ R.Names arg flags r inline ∧
        r.slot = m.slot ∧
        (m.slot.switch.arity = .noValue → m.value = .flag !r.negated) ∧
        (m.slot.switch.arity = .required → ∃ v, m.value = .text v) ∧
        (m.slot.switch.arity = .optional → (∃ v, m.value = .text v) ∨
          (m.value = .absent ∧ (rest = [] ∨ rest.head? = some "--"))) ∧
        (r.negated = true → m.value = .flag false) ∧
        ∀ v, m.value = .text v → inline = some v ∨ (inline = none ∧ rest.head? = some v)) ∧
    ∀ events left name value rest r, '=' ∉ name.toList → R.resolve name = .ok r → r.negated = true →
      R.Advances mode ⟨args, false⟩ events left ⟨("--" ++ name ++ "=" ++ value) :: rest, false⟩ →
      R.trace mode ⟨args, false⟩ =
        ⟨events, .error (.needlessArgument (r.slot.switch.negatedLabel ++ "=" ++ value))⟩ := by
  constructor
  · intro before m behind h
    obtain ⟨events, left, d, e, t, flags, _, ha, hd, hbefore, hs⟩ := makes_of_found h
    obtain ⟨arg, rest, r, inline, e, rfl, hnames, hslot, hv⟩ := exists_names_of_step hd hs
    obtain ⟨pre, hargs, _⟩ := ha.frame
    refine ⟨events, left, pre, arg, rest, flags, r, inline, hargs, ha, hbefore, hnames, hslot, ?_⟩
    rw [← hslot]
    refine ⟨fun hn => ?_, fun hn => ?_, fun hn => ?_, fun hn => ?_, fun v hvalue => ?_⟩
    · exact Arity.Captures.of_noValue (hn ▸ hv)
    · exact Arity.Captures.of_required (hn ▸ hv)
    · exact Arity.Captures.of_optional (hn ▸ hv)
    · have hvalue := Arity.Captures.of_noValue (hnames.arity_of_negated hR hn ▸ hv)
      rw [hvalue, hn]
      rfl
    · exact Arity.Captures.of_text (hvalue ▸ hv)
  · intro events left name value rest r hname hr hn ha
    have ht : (Token.long name (some value)).Writable := ⟨hname, by simp⟩
    have hnext := Cursor.next?_text ht (by simp) rest
    have hread := readLong_needless hr (hR.arity_of_negated hr hn) value ⟨rest, false⟩
    have hlabel : r.label = r.slot.switch.negatedLabel := if_pos hn
    have hend : R.Ends mode ⟨("--" ++ name ++ "=" ++ value) :: rest, false⟩
        ⟨[], .error (.needlessArgument (r.slot.switch.negatedLabel ++ "=" ++ value))⟩ := by
      rw [hlabel] at hread
      exact .refused hnext (congrArg Reading.step hread)
    rw [ha.trace, hend.trace]
    simp [Trace.after, Except.map]

theorem trace_captured_quiet :
    let R := ofDeclarations [["-d", "--debug [LEVEL]"], ["-o FILE"], ["-q", "--[no-]quiet"]]
    let debug : Slot :=
      ⟨0, { shorts := ['d'], longs := ["debug"], arity := .optional, placeholder := some " [LEVEL]" }⟩
    let output : Slot := ⟨1, { shorts := ['o'], arity := .required, placeholder := some " FILE" }⟩
    let quiet : Slot := ⟨2, { shorts := ['q'], longs := ["quiet"], negatable := true }⟩
    let args := ["-qoX", "--no-q", "--deb", "--", "-d"]
    R.Reachable ∧ (R.trace .permuting ⟨args, false⟩).found =
      [⟨quiet, .flag true⟩, ⟨output, .text "X"⟩] ++ ⟨quiet, .flag false⟩ :: [⟨debug, .absent⟩] ∧
    (∃ pre arg rest flags r inline, args = pre ++ arg :: rest ∧ R.Names arg flags r inline ∧
      r.slot = quiet ∧ r.negated = true) ∧
    '=' ∉ "no-q".toList ∧ R.resolve "no-q" = .ok ⟨quiet, true⟩ ∧
    R.Advances .ordering ⟨["-q", "--no-q=x", "-z"], false⟩ [.matched ⟨quiet, .flag true⟩] []
      ⟨["--no-q=x", "-z"], false⟩ ∧
    R.trace .ordering ⟨["-q", "--no-q=x", "-z"], false⟩ =
      ⟨[.matched ⟨quiet, .flag true⟩], .error (.needlessArgument "--no-quiet=x")⟩ := by
  intro R debug output quiet args
  have hR : R.Reachable := reachable_ofDeclarations _
  have hfound : (R.trace .permuting ⟨args, false⟩).found =
      [⟨quiet, .flag true⟩, ⟨output, .text "X"⟩] ++ ⟨quiet, .flag false⟩ :: [⟨debug, .absent⟩] := by
    rw [R.trace_unrolled]
    rfl
  have hname : '=' ∉ "no-q".toList := by decide
  have hresolve : R.resolve "no-q" = .ok ⟨quiet, true⟩ := by rfl
  have hq : R.Reads .ordering ⟨["-q", "--no-q=x", "-z"], false⟩ [.matched ⟨quiet, .flag true⟩] []
      ⟨["--no-q=x", "-z"], false⟩ :=
    ⟨.cluster ['q'], ⟨["--no-q=x", "-z"], false⟩, by rfl, by rfl⟩
  have ha : R.Advances .ordering ⟨["-q", "--no-q=x", "-z"], false⟩ [.matched ⟨quiet, .flag true⟩] []
      ⟨["--no-q=x", "-z"], false⟩ := .head hq (.refl _)
  obtain ⟨_, _, pre, arg, rest, flags, r, inline, hargs, _, _, hnames, hslot, hflag, _⟩ :=
    (trace_captured hR .permuting args).1 _ _ _ hfound
  have hneg : r.negated = true := by simpa using hflag rfl
  have hneedless := (trace_captured hR .ordering ["-q", "--no-q=x", "-z"]).2 _ _ "no-q" "x" _ _ hname
    hresolve rfl ha
  exact ⟨hR, hfound, ⟨pre, arg, rest, flags, r, inline, hargs, hnames, hslot, hneg⟩, hname, hresolve,
    ha, hneedless⟩

end Registry

end CommandLine
