import CommandLine.Proofs.Registry.Spellings
import CommandLine.Proofs.Scan.Composition

namespace CommandLine

namespace Reading

/-- The value of `slot` is all that `read` lacks at `c`: any argument behind `c` would be the value. -/
def Lacks (read : Cursor → Reading) (c : Cursor) (slot : Slot) : Prop :=
  ∀ value rest, read (c.append (value :: rest)) =
    ⟨(read c).found ++ [⟨slot, .text value⟩], .ok ⟨rest, c.literal⟩⟩

variable {read : Cursor → Reading} {c : Cursor} {slot : Slot}

lemma Lacks.cons (m : Match) (h : Lacks read c slot) : Lacks (fun d => (read d).cons m) c slot := by
  intro value rest
  simp only [h value rest]
  rfl

lemma lacks_single {label flag : String} {negated : Bool} {inline : Option String}
    (h : (single slot (slot.switch.arity.capture label negated inline c)).outcome =
      .error (.missingArgument flag)) :
    slot.switch.arity = .required ∧
      Lacks (fun d => single slot (slot.switch.arity.capture label negated inline d)) c slot := by
  cases ha : slot.switch.arity with
  | noValue => cases inline <;> simp [ha, Arity.capture, single] at h
  | optional =>
    rw [ha] at h
    cases inline with
    | some w => cases h
    | none =>
      simp only [Arity.capture] at h
      split at h <;> cases h
  | required =>
    rw [ha] at h
    cases inline with
    | some w => cases h
    | none =>
      simp only [Arity.capture] at h
      split at h
      · cases h
      · rename_i hv
        have hrest : c.rest = [] := Cursor.value?_eq_none.mp hv
        refine ⟨rfl, fun value rest => ?_⟩
        simp [Arity.capture, Cursor.append, Cursor.value?, hrest, single]

end Reading

namespace Registry

variable {R : Registry} {mode : Mode} {c d : Cursor} {t : Trace} {flag : String} {e : Error}

lemma Reader.lacks {read : Cursor → Reading} (h : R.Reader read)
    (hm : (read c).outcome = .error (.missingArgument flag)) :
    ∃ slot ∈ R.slots, slot.switch.arity = .required ∧ Reading.Lacks read c slot := by
  induction h with
  | nothing => cases hm
  | refused he => exact (he flag (Except.error.inj hm)).elim
  | flag _ _ ih =>
    obtain ⟨slot, hslot, ha, hl⟩ := ih hm
    exact ⟨slot, hslot, ha, hl.cons _⟩
  | @single slot name label negated inline ho =>
    obtain ⟨ha, hl⟩ := Reading.lacks_single hm
    exact ⟨slot, ho.1, ha, hl⟩

lemma literal_of_refused {token : Token} {events : List Event} {left : List String}
    (hc : c.next? = some (token, d)) (hs : R.step mode d token = ⟨events, left, .error e⟩) :
    d.literal = false := by
  have ht : token ≠ .sentinel := by
    rintro rfl
    cases hs
  have hd := (Cursor.literal_next? hc).1
  rcases c with ⟨_ | ⟨arg, rest⟩, literal⟩
  · cases hc
  · cases literal with
    | false => simpa [ht] using hd
    | true =>
      -- behind the sentinel there are only positionals, which no scan refuses
      rw [Cursor.next?_literal] at hc
      cases hc
      cases mode <;> cases hs

lemma Ends.append (h : R.Ends mode c t) (ht : t.outcome = .error e)
    (hm : ∀ flag, e ≠ .missingArgument flag) (xs : List String) : R.Ends mode (c.append xs) t := by
  cases h with
  | exhausted => cases ht
  | stopped => cases ht
  | @refused d token events left e' hc hs =>
    cases ht
    obtain ⟨read, found, hread, hstep, hr, rfl, rfl⟩ := step_refused hs
    have hf : (read d).Firm xs := by
      rw [hr]
      exact hm
    have hs' : R.step mode (d.append xs) token = ⟨found.map .matched, [], .error e⟩ := by
      rw [hstep, hread.append hf, hr]
      rfl
    exact .refused (Cursor.next?_append xs hc) hs'

lemma Ends.supplied (h : R.Ends mode c t) (ht : t.outcome = .error (.missingArgument flag)) :
    ∃ slot ∈ R.slots, slot.switch.arity = .required ∧ ∀ value rest,
      R.Reads mode (c.append (value :: rest)) (t.events ++ [.matched ⟨slot, .text value⟩]) []
        ⟨rest, false⟩ := by
  cases h with
  | exhausted => cases ht
  | stopped => cases ht
  | @refused d token events left e hc hs =>
    cases ht
    obtain ⟨read, found, hread, hstep, hr, rfl, rfl⟩ := step_refused hs
    obtain ⟨slot, hslot, ha, hl⟩ := hread.lacks (by rw [hr])
    refine ⟨slot, hslot, ha, fun value rest => ?_⟩
    refine ⟨token, d.append (value :: rest), Cursor.next?_append _ hc, ?_⟩
    rw [hstep, hl value rest, hr, literal_of_refused hc hs]
    simp [Reading.step, Except.map]

lemma Ends.rest_ne_nil (h : R.Ends mode c t) (ht : t.outcome = .error e) : c.rest ≠ [] := by
  intro hc
  rw [← Cursor.next?_eq_none] at hc
  cases h with
  | exhausted => cases ht
  | stopped h => cases hc.symm.trans h
  | refused h => cases hc.symm.trans h

lemma Ends.kept (h : R.Ends mode c t) (ht : t.outcome = .error e) :
    t.events.filterMap Event.kept? = [] := by
  cases h with
  | exhausted => cases ht
  | stopped => cases ht
  | refused hc hs =>
    obtain ⟨read, found, _, _, _, rfl, rfl⟩ := step_refused hs
    simp

lemma exists_advances_refused {args : List String}
    (h : (R.trace mode ⟨args, false⟩).outcome = .error e) :
    ∃ events left c t, R.trace mode ⟨args, false⟩ = t.after events left ∧ R.Ends mode c t ∧
      t.outcome = .error e ∧
      left = (R.trace mode ⟨args, false⟩).events.filterMap Event.kept? ∧
      ∀ xs, R.Advances mode ⟨args ++ xs, false⟩ events left (c.append xs) := by
  obtain ⟨events, left, c, t, ha, he⟩ := exists_advances_ends R mode ⟨args, false⟩
  have htrace : R.trace mode ⟨args, false⟩ = t.after events left := by rw [ha.trace, he.trace]
  have ht : t.outcome = .error e := by
    rw [htrace] at h
    cases ho : t.outcome with
    | error e' => simpa [Trace.after, Except.map, ho] using h
    | ok left' => simp [Trace.after, Except.map, ho] at h
  refine ⟨events, left, c, t, htrace, he, ht, ?_, fun xs => ?_⟩
  · rw [htrace]
    simp only [Trace.after, List.filterMap_append, he.kept ht, List.append_nil]
    exact ha.left_eq
  · -- the option that is refused still stands there, so no value was looked for behind the end
    exact ha.append fun hc => (he.rest_ne_nil ht hc).elim

lemma trace_append_of_error {args : List String}
    (h : (R.trace mode ⟨args, false⟩).outcome = .error e) (hm : ∀ flag, e ≠ .missingArgument flag)
    (post : List String) : R.trace mode ⟨args ++ post, false⟩ = R.trace mode ⟨args, false⟩ := by
  obtain ⟨events, left, c, t, htrace, he, ht, _, ha⟩ := exists_advances_refused h
  rw [(ha post).trace, (he.append ht hm post).trace, htrace]

lemma trace_append_of_missingArgument {args : List String}
    (h : (R.trace mode ⟨args, false⟩).outcome = .error (.missingArgument flag)) :
    ∃ slot ∈ R.slots, slot.switch.arity = .required ∧ ∀ value post,
      R.trace mode ⟨args ++ value :: post, false⟩ =
        (R.trace mode ⟨post, false⟩).after
          ((R.trace mode ⟨args, false⟩).events ++ [.matched ⟨slot, .text value⟩])
          ((R.trace mode ⟨args, false⟩).events.filterMap Event.kept?) := by
  obtain ⟨events, left, c, t, htrace, he, ht, hleft, ha⟩ := exists_advances_refused h
  obtain ⟨slot, hslot, harity, hreads⟩ := he.supplied ht
  refine ⟨slot, hslot, harity, fun value post => ?_⟩
  rw [(ha (value :: post)).trace, (hreads value post).trace, Trace.after_after, ← hleft, htrace]
  simp [Trace.after]

end Registry

namespace Session

/-- The first option that is refused decides, whatever stands behind it. An option that lacks its
value lacks no more than that: with any argument behind it, the scan makes one more match and goes on
from there. -/
theorem execute_scan_refused {s : Session} {mode : Mode} {stored : Bool} {args : List String}
    {e : Error} (h : (s.execute (.scan mode stored args)).2.result = .error e) :
    let t := s.registry.trace mode ⟨args, false⟩
    ((∀ flag, e ≠ .missingArgument flag) → ∀ post,
      s.execute (.scan mode stored (args ++ post)) = s.execute (.scan mode stored args) ∧
        (s.registry.trace mode ⟨args ++ post, false⟩).found = t.found) ∧
    ∀ flag, e = .missingArgument flag →
      ∃ slot ∈ s.registry.slots, slot.switch.arity = .required ∧ ∀ value post,
        let found := t.found ++ [⟨slot, .text value⟩]
        let whole := s.execute (.scan mode stored (args ++ value :: post))
        let rest := (s.storing stored found).execute (.scan mode stored post)
        (s.registry.trace mode ⟨args ++ value :: post, false⟩).found =
          found ++ (s.registry.trace mode ⟨post, false⟩).found ∧
        whole.2.result = rest.2.result.map (t.events.filterMap Event.kept? ++ ·) ∧
        whole.1 = rest.1 ∧ whole.2.calls = found.flatMap Effects.called ++ rest.2.calls := by
  intro t
  have ht : t.outcome = .error e := by
    rw [execute_scan_eq] at h
    exact h
  refine ⟨?_, ?_⟩
  · intro hm post
    have happend := Registry.trace_append_of_error ht hm post
    rw [execute_scan_eq, execute_scan_eq, happend]
    exact ⟨rfl, rfl⟩
  · rintro flag rfl
    obtain ⟨slot, hslot, harity, hsupplied⟩ := Registry.trace_append_of_missingArgument ht
    refine ⟨slot, hslot, harity, fun value post => ?_⟩
    intro found whole rest
    have hfound : (t.events ++ [Event.matched ⟨slot, .text value⟩]).filterMap Event.match? = found := by
      simp [found, Trace.found]
    have hwhole := s.execute_scan_after stored (hsupplied value post)
    rw [hfound] at hwhole
    refine ⟨?_, ?_, ?_, ?_⟩
    · rw [hsupplied value post, Trace.found_after, hfound]
    · exact congrArg (fun p => p.2.result) hwhole
    · exact congrArg (fun p => p.1) hwhole
    · rw [← hfound]
      exact congrArg (fun p => p.2.calls) hwhole

theorem execute_scan_refused_output :
    let R := Registry.ofDeclarations [["-o", "--output FILE"], ["-q"]]
    let s : Session := { registry := R }
    let lacking := s.execute (.scan .permuting true ["a", "-qo"])
    let supplied := s.execute (.scan .permuting true (["a", "-qo"] ++ "--" :: ["b", "-q"]))
    let unknown := s.execute (.scan .ordering true ["-q", "--out", "-x", "-xo"])
    lacking.2.result = .error (.missingArgument "-o") ∧ supplied.2.result = .ok ["a", "b"] ∧
    unknown.2.result = .error (.invalidOption "-x") ∧
    ∀ post, s.execute (.scan .ordering true (["-q", "--out", "-x", "-xo"] ++ post)) = unknown := by
  intro R s lacking supplied unknown
  have hlacking : lacking.2.result = .error (.missingArgument "-o") := by
    simp only [lacking, execute_scan_unrolled]
    rfl
  have hunknown : unknown.2.result = .error (.invalidOption "-x") := by
    simp only [unknown, execute_scan_unrolled]
    rfl
  obtain ⟨slot, _, _, hvalue⟩ := (execute_scan_refused hlacking).2 "-o" rfl
  obtain ⟨_, hresult, _⟩ := hvalue "--" ["b", "-q"]
  have hsupplied : supplied.2.result = .ok ["a", "b"] := by
    refine hresult.trans ?_
    rw [execute_scan_unrolled, Registry.trace_unrolled]
    rfl
  exact ⟨hlacking, hsupplied, hunknown, fun post =>
    ((execute_scan_refused hunknown).1 (by simp) post).1⟩

end Session

end CommandLine
