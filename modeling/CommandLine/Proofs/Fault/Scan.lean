import CommandLine.Proofs.Fault.Registry
import CommandLine.Proofs.Scan.Refusal

namespace CommandLine

def Trace.run (t : Trace) (kept : List String) (fx : Effects) : Run :=
  ⟨t.events.foldl Effects.report fx, t.outcome.map (kept ++ ·)⟩

lemma Trace.run_after (events : List Event) (left kept : List String) (fx : Effects) (t : Trace) :
    (t.after events left).run kept fx = t.run (kept ++ left) (events.foldl Effects.report fx) := by
  rcases t with ⟨_, _ | _⟩ <;> simp [run, after, Except.map]

namespace Registry

def strictCluster (R : Registry) (cluster : String) : ℕ → List Char → Cursor → Except Fault Reading
  | _, [], c => .ok ⟨[], .ok c⟩
  | offset, letter :: letters, c =>
    let label := (Name.short letter).label
    match R.findShort? letter with
    | none => .ok ⟨[], .error (.invalidOption label)⟩
    | some slot => do
      let rest ← Text.strictSlice cluster (offset + letter.utf8Size)
      let s ← R.strictSwitch slot.index
      if s.arity = .noValue then
        return .cons ⟨slot, .flag true⟩
          (← R.strictCluster cluster (offset + letter.utf8Size) letters c)
      else
        let inline := if rest = "" then none else some rest
        return .single slot (s.arity.capture label false inline c)

def strictLong (R : Registry) (name : String) (inline : Option String) (c : Cursor) :
    Except Fault Reading := do
  match ← R.strictResolve name with
  | .error e => return ⟨[], .error e⟩
  | .ok r =>
    let s ← R.strictSwitch r.slot.index
    let label ← if r.negated then s.strictNegatedLabel else s.strictLabel
    return .single r.slot (s.arity.capture label r.negated inline c)

def strictFire (R : Registry) (fx : Effects) (m : Match) : Except Fault Effects := do
  let s ← R.strictSwitch m.slot.index
  let label ← s.strictLabel
  let store ← match fx.store with
    | none => .ok none
    | some store => s.strictKey.map fun key => some (store.insert key m.value)
  let calls := (s.handler.map fun handler => ⟨handler, m.value⟩).toList
  return { store, calls := fx.calls ++ calls, log := fx.log ++ [.matched label m.value] }

def strictResume (R : Registry) (fx : Effects) (next : Cursor → Effects → Except Fault Run)
    (r : Reading) : Except Fault Run := do
  let fx ← r.found.foldlM R.strictFire fx
  match r.outcome with
  | .error e => return ⟨fx, .error e⟩
  | .ok c => next c fx

def strictDrain : List String → List String → List String × List String
  | kept, [] => (kept, [])
  | kept, arg :: rest => strictDrain (kept ++ [arg]) rest

def strictFinish (rest kept : List String) (fx : Effects) : Except Fault Run :=
  if rest = [] then .ok ⟨fx, .ok kept⟩ else .error (.unread rest)

def strictScan (R : Registry) (mode : Mode) :
    ℕ → Cursor → List String → Effects → Except Fault Run
  | 0, c, kept, fx => strictFinish c.rest kept fx
  | n + 1, c, kept, fx =>
    match c.next? with
    | none => strictFinish c.rest kept fx
    | some (.sentinel, d) => R.strictScan mode n d kept (fx.report .sentinel)
    | some (.long name inline, d) => do
      R.strictResume fx (fun e fx => R.strictScan mode n e kept fx) (← R.strictLong name inline d)
    | some (.cluster letters, d) => do
      R.strictResume fx (fun e fx => R.strictScan mode n e kept fx)
        (← R.strictCluster (String.ofList letters) 0 letters d)
    | some (.positional arg, d) =>
      match mode with
      | .permuting => R.strictScan mode n d (kept ++ [arg]) (fx.report (.kept arg))
      | .ordering =>
        let (kept, rest) := strictDrain (kept ++ [arg]) d.rest
        strictFinish rest kept fx

def strictRun (R : Registry) (mode : Mode) (store : Option Store) (args : List String) :
    Except Fault Run :=
  R.strictScan mode args.length ⟨args, false⟩ [] { store }

variable {R : Registry} {mode : Mode} {slot : Slot} {name : Name} {c d : Cursor}

lemma Owns.names_ne_nil (h : R.Owns slot name) : slot.switch.names ≠ [] :=
  List.ne_nil_of_mem h.2.1

lemma strictCluster_eq (R : Registry) (c : Cursor) {cluster before : String} {letters : List Char}
    {offset : ℕ} (hcluster : cluster = before ++ String.ofList letters)
    (hoffset : offset = before.utf8ByteSize) :
    R.strictCluster cluster offset letters c = .ok (R.readCluster letters c) := by
  -- the letters read so far are `before`, so each cut lies behind a whole letter
  induction letters generalizing before offset with
  | nil => rfl
  | cons letter letters ih =>
    cases hs : R.findShort? letter with
    | none =>
      rw [readCluster_of_undeclared letters c hs]
      simp only [strictCluster, hs]
    | some slot =>
      have hbehind : cluster = before.push letter ++ String.ofList letters := by
        rw [hcluster]
        simp [← String.toList_inj]
      have hlength : offset + letter.utf8Size = (before.push letter).utf8ByteSize := by
        rw [hoffset, String.utf8ByteSize_push]
      have hslice : Text.strictSlice cluster (offset + letter.utf8Size) =
          .ok (String.ofList letters) := by
        rw [hbehind, hlength, Text.strictSlice_append]
      have hswitch := strictSwitch_eq (findShort?_eq_some.mp hs).1
      by_cases hn : slot.switch.arity = .noValue
      · rw [readCluster_of_noValue letters c hs hn]
        simp only [strictCluster, hs, hslice, hswitch, hn, ih hbehind hlength, bind, Except.bind]
        rfl
      · rw [readCluster_of_value letters c hs hn]
        simp only [strictCluster, hs, hslice, hswitch, hn, if_false, String.ofList_eq_empty_iff, bind,
          Except.bind]
        rfl

lemma strictLong_eq (R : Registry) (word : String) (inline : Option String) (c : Cursor) :
    R.strictLong word inline c = .ok (R.readLong word inline c) := by
  simp only [strictLong, strictResolve_eq, readLong]
  cases hr : R.resolve word with
  | error e => rfl
  | ok r =>
    obtain ⟨w, ho⟩ := owns_of_resolve hr
    have hlongs : r.slot.switch.longs ≠ [] := List.ne_nil_of_mem (Switch.long_mem_names.mp ho.2.1)
    simp only [bind, Except.bind, strictSwitch_eq ho.1, Resolution.label]
    split_ifs with hneg
    · rw [Switch.strictNegatedLabel_eq hlongs]
      rfl
    · rw [Switch.strictLabel_eq ho.names_ne_nil]
      rfl

lemma strictFire_eq {m : Match} (ho : R.Owns m.slot name) (fx : Effects) :
    R.strictFire fx m = .ok (fx.report (.matched m)) := by
  rcases fx with ⟨_ | store, calls, log⟩
  all_goals
    simp only [strictFire, strictSwitch_eq ho.1, Switch.strictLabel_eq ho.names_ne_nil,
      Switch.strictKey_eq ho.names_ne_nil, bind, Except.bind]
    rfl

lemma foldlM_strictFire {found : List Match} (h : ∀ m ∈ found, ∃ name, R.Owns m.slot name)
    (fx : Effects) :
    found.foldlM R.strictFire fx = .ok ((found.map Event.matched).foldl Effects.report fx) := by
  induction found generalizing fx with
  | nil => rfl
  | cons m found ih =>
    obtain ⟨⟨name, ho⟩, hfound⟩ := List.forall_mem_cons.mp h
    rw [List.foldlM_cons, strictFire_eq ho]
    exact ih hfound _

lemma strictDrain_eq (kept rest : List String) : strictDrain kept rest = (kept ++ rest, []) := by
  induction rest generalizing kept with
  | nil => simp [strictDrain]
  | cons arg rest ih => simp [strictDrain, ih]

lemma strictResume_eq {r : Reading} {next : Cursor → Effects → Except Fault Run} {kept : List String}
    (ho : ∀ m ∈ r.found, ∃ name, R.Owns m.slot name)
    (hnext : ∀ d, r.outcome = .ok d → ∀ fx, next d fx = .ok ((R.trace mode d).run kept fx))
    (fx : Effects) :
    R.strictResume fx next r = .ok ((r.step.trace (R.trace mode)).run kept fx) := by
  rw [strictResume, foldlM_strictFire ho]
  rcases r with ⟨found, e | d⟩
  · rfl
  · simp only [bind, Except.bind, hnext d rfl, Step.trace, Reading.step, Except.map, Trace.run_after,
      List.append_nil]

lemma strictScan_eq {n : ℕ} (h : c.rest.length ≤ n) (kept : List String) (fx : Effects) :
    R.strictScan mode n c kept fx = .ok ((R.trace mode c).run kept fx) := by
  -- every token takes an argument at least, so the bound is reached only when all of them are read
  induction n generalizing c kept fx with
  | zero =>
    have hc : c.rest = [] := List.length_eq_zero_iff.mp (Nat.le_zero.mp h)
    rw [strictScan, strictFinish, if_pos hc, trace_of_next?_eq_none (Cursor.next?_eq_none.mpr hc)]
    simp [Trace.run, Except.map]
  | succ n ih =>
    rw [strictScan]
    cases hc : c.next? with
    | none =>
      simp only [strictFinish, if_pos (Cursor.next?_eq_none.mp hc), trace_of_next?_eq_none hc]
      simp [Trace.run, Except.map]
    | some p =>
      obtain ⟨t, d⟩ := p
      obtain ⟨arg, hrest⟩ := Cursor.rest_of_next? hc
      have hd : d.rest.length ≤ n := by
        simp only [hrest, List.length_cons] at h
        omega
      rw [trace_of_next?_eq_some hc]
      cases t with
      | sentinel =>
        simp only [ih hd, Step.trace, step, Trace.run_after]
        simp
      | long word inline =>
        simp only [strictLong_eq, bind, Except.bind]
        apply strictResume_eq ((R.reader_readLong word inline).owns d)
        intro e he fx
        exact ih ((length_readLong_le he).trans hd) kept fx
      | cluster letters =>
        have hread : R.strictCluster (String.ofList letters) 0 letters d =
            .ok (R.readCluster letters d) :=
          R.strictCluster_eq d String.empty_append.symm rfl
        simp only [hread, bind, Except.bind]
        apply strictResume_eq ((R.reader_readCluster letters).owns d)
        intro e he fx
        exact ih ((length_readCluster_le he).trans hd) kept fx
      | positional arg =>
        cases mode with
        | permuting =>
          simp only [ih hd, Step.trace, step, Trace.run_after]
          rfl
        | ordering =>
          simp only [strictDrain_eq, strictFinish, Step.trace, step]
          simp [Trace.run, Except.map]

lemma strictRun_eq (R : Registry) (mode : Mode) (store : Option Store) (args : List String) :
    R.strictRun mode store args = .ok (R.run mode store args) := by
  have hall : (⟨args, false⟩ : Cursor).rest.length ≤ args.length := Nat.le_refl _
  rw [strictRun, strictScan_eq hall, run, scan_eq_trace]
  rcases R.trace mode ⟨args, false⟩ with ⟨events, e | left⟩ <;> rfl

end Registry

end CommandLine
