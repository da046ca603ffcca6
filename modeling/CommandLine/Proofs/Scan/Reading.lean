import CommandLine.Proofs.Argument.Cursor
import CommandLine.Proofs.Registry.Spellings
import CommandLine.Scan.Reading

namespace CommandLine

namespace Arity

variable {arity : Arity} {label : String} {negated : Bool} {inline : Option String} {c d : Cursor}
  {v : Value}

inductive Captures : Arity → Bool → Option String → Cursor → Value → Cursor → Prop
  | flag (negated : Bool) (c : Cursor) : Captures noValue negated none c (.flag !negated) c
  | inline {arity : Arity} (ha : arity ≠ noValue) (negated : Bool) (w : String) (c : Cursor) :
      Captures arity negated (some w) c (.text w) c
  | next {arity : Arity} (ha : arity ≠ noValue) (negated : Bool) {w : String}
      (hw : arity = optional → w ≠ "--") (rest : List String) (literal : Bool) :
      Captures arity negated none ⟨w :: rest, literal⟩ (.text w) ⟨rest, literal⟩
  | absent (negated : Bool) {c : Cursor} (hc : c.rest = [] ∨ c.rest.head? = some "--") :
      Captures optional negated none c .absent c

lemma Captures.of_capture (h : arity.capture label negated inline c = .ok (v, d)) :
    arity.Captures negated inline c v d := by
  cases arity with
  | noValue =>
    cases inline with
    | none => cases h; exact .flag negated c
    | some w => cases h
  | optional =>
    cases inline with
    | some w => cases h; exact .inline (by simp) negated w c
    | none =>
      simp only [capture] at h
      split at h
      · rename_i hv
        cases h
        obtain ⟨hw, rfl⟩ := Cursor.optionalValue?_eq_some.mp hv
        exact .next (by simp) negated (fun _ => hw) _ _
      · rename_i hv
        cases h
        exact .absent negated (Cursor.optionalValue?_eq_none.mp hv)
  | required =>
    cases inline with
    | some w => cases h; exact .inline (by simp) negated w c
    | none =>
      simp only [capture] at h
      split at h
      · rename_i hv
        cases h
        rw [Cursor.value?_eq_some.mp hv]
        exact .next (by simp) negated (by simp) _ _
      · cases h

lemma Captures.capture (h : arity.Captures negated inline c v d) (label : String) :
    arity.capture label negated inline c = .ok (v, d) := by
  cases h with
  | flag => rfl
  | inline ha =>
    cases arity with
    | noValue => exact (ha rfl).elim
    | optional => rfl
    | required => rfl
  | @next _ ha _ w hw rest literal =>
    cases arity with
    | noValue => exact (ha rfl).elim
    | optional =>
      have hv : (⟨w :: rest, literal⟩ : Cursor).optionalValue? = some (w, ⟨rest, literal⟩) :=
        Cursor.optionalValue?_eq_some.mpr ⟨hw rfl, rfl⟩
      simp only [Arity.capture, hv]
    | required => rfl
  | absent _ hc => simp only [Arity.capture, Cursor.optionalValue?_eq_none.mpr hc]

lemma capture_eq_ok : arity.capture label negated inline c = .ok (v, d) ↔
    arity.Captures negated inline c v d :=
  ⟨Captures.of_capture, fun h => h.capture label⟩

lemma capture_cases (h : arity.capture label negated inline c = .ok (v, d)) :
    d = c ∨ ∃ w, v = .text w ∧ c = ⟨w :: d.rest, d.literal⟩ := by
  cases capture_eq_ok.mp h with
  | flag => exact .inl rfl
  | inline => exact .inl rfl
  | next => exact .inr ⟨_, rfl, rfl⟩
  | absent => exact .inl rfl

lemma Captures.frame (h : arity.Captures negated inline c v d) :
    ∃ pre, c.rest = pre ++ d.rest ∧ ∀ rest, rest.head? = d.rest.head? →
      arity.Captures negated inline ⟨pre ++ rest, c.literal⟩ v ⟨rest, d.literal⟩ := by
  cases h with
  | flag => exact ⟨[], rfl, fun rest _ => .flag _ _⟩
  | inline ha => exact ⟨[], rfl, fun rest _ => .inline ha _ _ _⟩
  | next ha _ hw => exact ⟨[_], rfl, fun rest _ => .next ha _ hw rest _⟩
  | absent _ hc =>
    refine ⟨[], rfl, fun rest hrest => .absent _ ?_⟩
    rw [← List.head?_eq_none_iff] at hc ⊢
    rwa [List.nil_append, hrest]

lemma literal_capture (h : arity.capture label negated inline c = .ok (v, d)) :
    d.literal = c.literal := by
  rcases capture_cases h with rfl | ⟨w, _, rfl⟩ <;> rfl

lemma capture_append (xs : List String)
    (hv : ∀ d, arity.capture label negated inline c = .ok (.absent, d) → d.rest = [] →
      xs.head? = some "--")
    (he : ∀ flag, arity.capture label negated inline c ≠ .error (.missingArgument flag)) :
    arity.capture label negated inline (c.append xs) =
      (arity.capture label negated inline c).map fun (v, d) => (v, d.append xs) := by
  cases arity with
  | noValue => cases inline <;> rfl
  | optional =>
    cases inline with
    | some w => rfl
    | none =>
      cases ho : c.optionalValue? with
      | some p =>
        simp only [capture, ho, Cursor.optionalValue?_append xs ho]
        rfl
      | none =>
        have hx : c.rest = [] → xs.head? = some "--" := hv c (by simp only [capture, ho])
        simp only [capture, ho, Cursor.optionalValue?_append_eq_none ho hx]
        rfl
  | required =>
    cases inline with
    | some w => rfl
    | none =>
      cases ho : c.value? with
      | some p =>
        simp only [capture, ho, Cursor.value?_append xs ho]
        rfl
      | none => exact (he label (by simp only [capture, ho])).elim

end Arity

namespace Reading

def append (xs : List String) (r : Reading) : Reading :=
  ⟨r.found, r.outcome.map (·.append xs)⟩

/-- Arguments `xs` behind the last one cannot change the reading: no value was looked for where they
begin, or the one that was looked for is still missing. -/
def Firm (xs : List String) (r : Reading) : Prop :=
  match r.outcome with
  | .ok d => d.rest = [] → xs.head? = some "--" ∨ ∀ m ∈ r.found, m.value ≠ .absent
  | .error e => ∀ flag, e ≠ .missingArgument flag

lemma Firm.of_cons {xs : List String} {m : Match} {r : Reading} (h : Firm xs (r.cons m)) :
    Firm xs r := by
  rcases r with ⟨found, e | d⟩
  · exact h
  · intro hd
    exact (h hd).imp_right fun hm n hn => hm n (List.mem_cons_of_mem m hn)

lemma exists_of_single {slot : Slot} {x : Except Error (Value × Cursor)} {d : Cursor}
    (h : (single slot x).outcome = .ok d) : ∃ v, x = .ok (v, d) := by
  rcases x with e | ⟨v, e⟩
  · cases h
  · cases h
    exact ⟨v, rfl⟩

lemma literal_single {arity : Arity} {label : String} {negated : Bool} {inline : Option String}
    {c d : Cursor} {slot : Slot}
    (h : (single slot (arity.capture label negated inline c)).outcome = .ok d) :
    d.literal = c.literal := by
  obtain ⟨v, hv⟩ := exists_of_single h
  exact Arity.literal_capture hv

lemma single_capture_append {arity : Arity} {label : String} {negated : Bool}
    {inline : Option String} {c : Cursor} {slot : Slot} {xs : List String}
    (h : Firm xs (.single slot (arity.capture label negated inline c))) :
    single slot (arity.capture label negated inline (c.append xs)) =
      (single slot (arity.capture label negated inline c)).append xs := by
  have hc : arity.capture label negated inline (c.append xs) =
      (arity.capture label negated inline c).map fun (v, d) => (v, d.append xs) := by
    apply Arity.capture_append
    · intro d hd hr
      rw [hd] at h
      exact (h hr).resolve_right fun hm => hm _ List.mem_cons_self rfl
    · intro flag he
      rw [he] at h
      exact h flag rfl
  rw [hc]
  cases arity.capture label negated inline c <;> rfl

end Reading

namespace Registry

inductive Reader (R : Registry) : (Cursor → Reading) → Prop
  | nothing : Reader R fun c => ⟨[], .ok c⟩
  | refused {e : Error} (he : ∀ flag, e ≠ .missingArgument flag) : Reader R fun _ => ⟨[], .error e⟩
  | flag {slot : Slot} {name : Name} {read : Cursor → Reading} (ho : R.Owns slot name)
      (h : Reader R read) : Reader R fun c => .cons ⟨slot, .flag true⟩ (read c)
  | single {slot : Slot} {name : Name} (label : String) (negated : Bool) (inline : Option String)
      (ho : R.Owns slot name) :
      Reader R fun c => .single slot (slot.switch.arity.capture label negated inline c)

variable {R : Registry} {read : Cursor → Reading} {c d : Cursor} {xs : List String} {letter : Char}
  {slot : Slot}

lemma readCluster_of_undeclared (letters : List Char) (c : Cursor) (h : R.findShort? letter = none) :
    R.readCluster (letter :: letters) c = ⟨[], .error (.invalidOption (Name.short letter).label)⟩ := by
  simp only [readCluster, h]

lemma readCluster_of_noValue (letters : List Char) (c : Cursor) (h : R.findShort? letter = some slot)
    (hn : slot.switch.arity = .noValue) :
    R.readCluster (letter :: letters) c = .cons ⟨slot, .flag true⟩ (R.readCluster letters c) := by
  simp only [readCluster, h, hn, if_true]

lemma readCluster_of_value (letters : List Char) (c : Cursor) (h : R.findShort? letter = some slot)
    (hn : slot.switch.arity ≠ .noValue) :
    R.readCluster (letter :: letters) c =
      .single slot (slot.switch.arity.capture (Name.short letter).label false
        (if letters = [] then none else some (String.ofList letters)) c) := by
  simp only [readCluster, h, hn, if_false, List.isEmpty_iff]

lemma readCluster_of_captures {letters : List Char} {v : Value} (ho : R.Owns slot (.short letter))
    (hn : slot.switch.arity ≠ .noValue)
    (h : slot.switch.arity.Captures false
      (if letters = [] then none else some (String.ofList letters)) c v d) :
    R.readCluster (letter :: letters) c = ⟨[⟨slot, v⟩], .ok d⟩ := by
  rw [readCluster_of_value letters c (findShort?_eq_some.mpr ho) hn, h.capture]
  rfl

lemma readLong_of_captures {name : String} {inline : Option String} {r : Resolution} {v : Value}
    (hr : R.resolve name = .ok r) (h : r.slot.switch.arity.Captures r.negated inline c v d) :
    R.readLong name inline c = ⟨[⟨r.slot, v⟩], .ok d⟩ := by
  simp only [readLong, hr, h.capture]
  rfl

lemma Reader.congr {read' : Cursor → Reading} (h : R.Reader read) (heq : ∀ c, read' c = read c) :
    R.Reader read' := by
  rwa [funext heq]

lemma reader_readCluster (R : Registry) (letters : List Char) : R.Reader (R.readCluster letters) := by
  induction letters with
  | nil => exact .nothing
  | cons letter letters ih =>
    cases hs : R.findShort? letter with
    | none =>
      have he : ∀ flag, Error.invalidOption (Name.short letter).label ≠ .missingArgument flag := by simp
      exact (Reader.refused he).congr fun c => readCluster_of_undeclared letters c hs
    | some slot =>
      have ho := findShort?_eq_some.mp hs
      by_cases hn : slot.switch.arity = .noValue
      · exact (Reader.flag ho ih).congr fun c => readCluster_of_noValue letters c hs hn
      · exact (Reader.single _ _ _ ho).congr fun c => readCluster_of_value letters c hs hn

lemma resolve_ne_missingArgument (R : Registry) (name flag : String) :
    R.resolve name ≠ .error (.missingArgument flag) := by
  intro h
  rcases R.resolve_cases name with ⟨r, _, hr⟩ | ⟨_, _, hr⟩ | ⟨ha, he, hne⟩
  · cases hr.symm.trans h
  · cases hr.symm.trans h
  · rw [resolve_abbreviation he hne ha] at h
    split at h <;> cases h

lemma reader_readLong (R : Registry) (name : String) (inline : Option String) :
    R.Reader (R.readLong name inline) := by
  cases hr : R.resolve name with
  | error e =>
    have he : ∀ flag, e ≠ .missingArgument flag := by
      rintro flag rfl
      exact R.resolve_ne_missingArgument name flag hr
    exact (Reader.refused he).congr fun c => by simp only [readLong, hr]
  | ok r =>
    obtain ⟨word, ho⟩ := owns_of_resolve hr
    exact (Reader.single r.label r.negated inline ho).congr fun c => by simp only [readLong, hr]

namespace Reader

lemma owns (h : R.Reader read) (c : Cursor) : ∀ m ∈ (read c).found, ∃ name, R.Owns m.slot name := by
  induction h with
  | nothing => simp
  | refused he => simp
  | flag ho _ ih => exact List.forall_mem_cons.mpr ⟨⟨_, ho⟩, ih⟩
  | @single slot name label negated inline ho =>
    intro m hm
    cases hc : slot.switch.arity.capture label negated inline c with
    | error e => simp [hc, Reading.single] at hm
    | ok p =>
      obtain rfl : m = ⟨slot, p.1⟩ := by simpa [hc, Reading.single] using hm
      exact ⟨name, ho⟩

lemma literal (h : R.Reader read) (hd : (read c).outcome = .ok d) : d.literal = c.literal := by
  induction h with
  | nothing => cases hd; rfl
  | refused he => cases hd
  | flag _ _ ih => exact ih hd
  | single label negated inline ho => exact Reading.literal_single hd

lemma frame (h : R.Reader read) (hd : (read c).outcome = .ok d) :
    ∃ pre, c.rest = pre ++ d.rest ∧ ∀ rest, rest.head? = d.rest.head? →
      read ⟨pre ++ rest, c.literal⟩ = ⟨(read c).found, .ok ⟨rest, d.literal⟩⟩ := by
  induction h with
  | nothing =>
    cases hd
    exact ⟨[], rfl, fun rest _ => rfl⟩
  | refused he => cases hd
  | flag _ _ ih =>
    obtain ⟨pre, hpre, hread⟩ := ih hd
    refine ⟨pre, hpre, fun rest hrest => ?_⟩
    simp only [hread rest hrest]
    rfl
  | @single slot _ label negated inline _ =>
    obtain ⟨v, hv⟩ := Reading.exists_of_single hd
    obtain ⟨pre, hpre, hframe⟩ := (Arity.capture_eq_ok.mp hv).frame
    refine ⟨pre, hpre, fun rest hrest => ?_⟩
    simp only [(hframe rest hrest).capture label, hv]
    rfl

lemma append (h : R.Reader read) (hf : (read c).Firm xs) :
    read (c.append xs) = (read c).append xs := by
  induction h with
  | nothing => rfl
  | refused he => rfl
  | flag _ _ ih =>
    simp only [ih hf.of_cons]
    rfl
  | single label negated inline ho => exact Reading.single_capture_append hf

end Reader

end Registry

end CommandLine
