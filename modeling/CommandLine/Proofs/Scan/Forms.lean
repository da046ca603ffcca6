import CommandLine.Proofs.Scan.Composition
import CommandLine.Proofs.Scan.Rendering

namespace CommandLine

lemma Reading.trace_step_cons (m : Match) (r : Reading) (next : Cursor → Trace) :
    (r.cons m).step.trace next = (r.step.trace next).after [.matched m] [] := by
  rcases r with ⟨found, e | c⟩
  · rfl
  · simp [Reading.step, Reading.cons, Step.trace, Except.map, Trace.after_after]

lemma Reply.after_matched (m : Match) (reply : Reply) : reply.after [.matched m] [] =
    { result := reply.result
      calls := Effects.called m ++ reply.calls
      log := .matched m.slot.switch.label m.value :: reply.log } := by
  rcases reply with ⟨e | left, calls, log⟩ <;> simp [Reply.after, Except.map, Event.record]

namespace Registry

variable {R : Registry} {mode : Mode} {slot : Slot} {value : String} {line post : List String}
  {letters : List Char}

lemma trace_cluster (hl : (Token.cluster letters).Writable) (post : List String) :
    R.trace mode ⟨(Token.cluster letters).text :: post, false⟩ =
      (R.readCluster letters ⟨post, false⟩).step.trace (R.trace mode) :=
  trace_of_next?_eq_some (Cursor.next?_text hl (by simp) post)

lemma trace_cluster_append {flags : List Char} (hf : ∀ c ∈ flags, c ≠ '-' ∧
      ∀ slot, R.Owns slot (.short c) → slot.switch.arity = .noValue)
    (hl : (Token.cluster letters).Writable) (post : List String) :
    R.trace mode ⟨(Token.cluster (flags ++ letters)).text :: post, false⟩ =
      R.trace mode ⟨flags.map (fun c => (Token.cluster [c]).text) ++
        (Token.cluster letters).text :: post, false⟩ := by
  induction flags with
  | nil => rfl
  | cons c flags ih =>
    obtain ⟨⟨hc, hn⟩, hf⟩ := List.forall_mem_cons.mp hf
    have hrest : (Token.cluster (flags ++ letters)).Writable := by
      cases flags with
      | nil => exact hl
      | cons d flags => exact ⟨d, flags ++ letters, rfl, (hf d List.mem_cons_self).1⟩
    rw [List.cons_append, trace_cluster ⟨c, _, rfl, hc⟩, List.map_cons, List.cons_append,
      trace_cluster ⟨c, [], rfl, hc⟩]
    cases hs : R.findShort? c with
    -- an unknown letter is refused where it stands, and what is behind it is not read
    | none => rw [readCluster_of_undeclared _ _ hs, readCluster_of_undeclared _ _ hs]
    | some slot =>
      have hv := hn slot (findShort?_eq_some.mp hs)
      rw [readCluster_of_noValue _ _ hs hv, readCluster_of_noValue _ _ hs hv,
        Reading.trace_step_cons, Reading.trace_step_cons, ← trace_cluster hrest, ih hf]
      exact congrArg (Trace.after _ _) (Trace.after_nil _).symm

inductive Supplies (R : Registry) (slot : Slot) (value : String) : List String → Prop
  | long {name : String} {r : Resolution} (hr : R.resolve name = .ok r) (hs : r.slot = slot) :
      Supplies R slot value ["--" ++ name ++ "=" ++ value]
  | longNext {name : String} {r : Resolution} (hr : R.resolve name = .ok r) (hs : r.slot = slot)
      (hv : slot.switch.arity = .optional → value ≠ "--") :
      Supplies R slot value ["--" ++ name, value]
  | short {letter : Char} (ho : R.Owns slot (.short letter)) (hv : value ≠ "") :
      Supplies R slot value ["-" ++ String.singleton letter ++ value]
  | shortNext {letter : Char} (ho : R.Owns slot (.short letter))
      (hv : slot.switch.arity = .optional → value ≠ "--") :
      Supplies R slot value ["-" ++ String.singleton letter, value]

lemma Supplies.reads (h : R.Supplies slot value line) (hR : R.Reachable)
    (hn : slot.switch.arity ≠ .noValue) (mode : Mode) (post : List String) :
    R.Reads mode ⟨line ++ post, false⟩ [.matched ⟨slot, .text value⟩] [] ⟨post, false⟩ := by
  cases h with
  | long hr hs =>
    subst hs
    exact reads_inline hR hr hn value post
  | @longNext name r hr hs hv =>
    subst hs
    have hnext := Cursor.next?_text (hR.writable_of_resolve hr) (by simp) (value :: post)
    exact ⟨_, _, hnext, congrArg Reading.step (readLong_of_captures hr (.next hn _ hv _ _))⟩
  | short ho hv => exact reads_attached hR ho hn hv post
  | @shortNext letter ho hv =>
    have ht : (Token.cluster [letter]).Writable := ⟨letter, [], rfl, hR.short_ne_dash ho⟩
    have hnext := Cursor.next?_text ht (by simp) (value :: post)
    exact ⟨_, _, hnext, congrArg Reading.step (readCluster_of_captures ho hn (.next hn _ hv _ _))⟩

end Registry

namespace Session

/-- A cluster is read as its letters are when each stands in an argument of its own, up to the letters
that are not split off, which may end in a value or may be refused. -/
theorem execute_scan_cluster (s : Session) (mode : Mode) (stored : Bool) {flags : List Char}
    (hf : ∀ c ∈ flags, c ≠ '-' ∧
      ∀ slot, s.registry.Owns slot (.short c) → slot.switch.arity = .noValue)
    (word : String) (hne : word ≠ "") (hd : word.toList.head? ≠ some '-') (post : List String) :
    let whole := ("-" ++ String.ofList flags ++ word) :: post
    let split := flags.map (fun c => "-" ++ String.singleton c) ++ ("-" ++ word) :: post
    s.execute (.scan mode stored whole) = s.execute (.scan mode stored split) ∧
      (s.registry.trace mode ⟨whole, false⟩).found = (s.registry.trace mode ⟨split, false⟩).found := by
  intro whole split
  have hl : (Token.cluster word.toList).Writable := by
    cases hw : word.toList with
    | nil => exact (hne (String.toList_eq_nil_iff.mp hw)).elim
    | cons c cs => exact ⟨c, cs, rfl, fun hc => hd (by rw [hw, hc]; rfl)⟩
  have hwhole : whole = (Token.cluster (flags ++ word.toList)).text :: post := by
    simp [whole, Token.text, ← String.toList_inj]
  have hsplit : split = flags.map (fun c => (Token.cluster [c]).text) ++
      (Token.cluster word.toList).text :: post := by
    simp [split, Token.text]
  have ht : s.registry.trace mode ⟨whole, false⟩ = s.registry.trace mode ⟨split, false⟩ := by
    rw [hwhole, hsplit, Registry.trace_cluster_append hf hl]
  rw [execute_scan_eq, execute_scan_eq, ht]
  exact ⟨rfl, rfl⟩

theorem execute_scan_cluster_flags :
    let R := Registry.ofDeclarations [["-q"], ["-é", "--[no-]strict"], ["-o FILE"]]
    let s : Session := { registry := R }
    (∀ c ∈ ['é', 'z'], c ≠ '-' ∧ ∀ slot, R.Owns slot (.short c) → slot.switch.arity = .noValue) ∧
    s.execute (.scan .permuting true ["-éqo", "--", "a"]) =
      s.execute (.scan .permuting true ["-é", "-qo", "--", "a"]) ∧
    (s.execute (.scan .permuting true ["-é", "-qo", "--", "a"])).2.result = .ok ["a"] ∧
    s.execute (.scan .ordering true ["-ézo", "a"]) =
      s.execute (.scan .ordering true ["-é", "-z", "-o", "a"]) := by
  intro R s
  have hstrict : R.Owns ⟨1, { shorts := ['é'], longs := ["strict"], negatable := true }⟩ (.short 'é') :=
    Registry.find?_eq_some.mp (by rfl)
  have hz : ¬ R.Declares (.short 'z') := Registry.find?_eq_none.mp (by rfl)
  have hstrict' : 'é' ≠ '-' ∧ ∀ slot, R.Owns slot (.short 'é') → slot.switch.arity = .noValue :=
    ⟨by decide, fun slot ho => by rw [ho.unique hstrict]⟩
  have hflags : ∀ c ∈ ['é', 'z'], c ≠ '-' ∧
      ∀ slot, R.Owns slot (.short c) → slot.switch.arity = .noValue :=
    List.forall_mem_cons.mpr ⟨hstrict', List.forall_mem_singleton.mpr
      ⟨by decide, fun slot ho => (hz ho.declares).elim⟩⟩
  have hqo := (s.execute_scan_cluster .permuting true (List.forall_mem_singleton.mpr hstrict') "qo"
    (by decide) (by decide) ["--", "a"]).1
  have hunknown := (s.execute_scan_cluster .ordering true hflags "o" (by decide) (by decide) ["a"]).1
  refine ⟨hflags, hqo, ?_, hunknown⟩
  rw [execute_scan_unrolled]
  rfl

theorem execute_scan_supplied {s : Session} (hR : s.registry.Reachable) {slot : Slot}
    (hn : slot.switch.arity ≠ .noValue) (value : String) (mode : Mode) (stored : Bool)
    (post : List String) :
    let m : Match := ⟨slot, .text value⟩
    let rest := (s.storing stored [m]).execute (.scan mode stored post)
    ∀ line, s.registry.Supplies slot value line →
      (s.execute (.scan mode stored (line ++ post))).1 = rest.1 ∧
      (s.execute (.scan mode stored (line ++ post))).2 =
        { result := rest.2.result
          calls := Effects.called m ++ rest.2.calls
          log := .matched slot.switch.label (.text value) :: rest.2.log } ∧
      (s.registry.trace mode ⟨line ++ post, false⟩).found =
        m :: (s.registry.trace mode ⟨post, false⟩).found := by
  intro m rest line h
  have ht := (h.reads hR hn mode post).trace
  rw [s.execute_scan_after stored ht, ht]
  exact ⟨rfl, Reply.after_matched m _, rfl⟩

theorem execute_scan_supplied_level :
    let R := Registry.ofDeclarations [["-d", "--debug [LEVEL]", "--verbose"], ["--depth N"]]
    let s : Session := { registry := R }
    let debug : Slot := ⟨0, { shorts := ['d'], longs := ["debug", "verbose"], arity := .optional
                              placeholder := some " [LEVEL]" }⟩
    R.Reachable ∧ debug.switch.arity ≠ .noValue ∧
    ∀ line ∈ [["--deb=-d=2"], ["--verb", "-d=2"], ["-d-d=2"], ["-d", "-d=2"]],
      R.Supplies debug "-d=2" line ∧
      (s.execute (.scan .permuting true (line ++ ["-d", "--", "-d"]))).2.result = .ok ["-d"] ∧
      (R.trace .permuting ⟨line ++ ["-d", "--", "-d"], false⟩).found =
        [⟨debug, .text "-d=2"⟩, ⟨debug, .absent⟩] := by
  intro R s debug
  have hR : R.Reachable := Registry.reachable_ofDeclarations _
  have hn : debug.switch.arity ≠ .noValue := by simp [debug]
  have ho : R.Owns debug (.short 'd') := Registry.find?_eq_some.mp (by rfl)
  have hdeb : R.resolve "deb" = .ok ⟨debug, false⟩ := by rfl
  have hverb : R.resolve "verb" = .ok ⟨debug, false⟩ := by rfl
  have hd : "-d=2" ≠ "--" := by decide
  have hline {line : List String} (h : R.Supplies debug "-d=2" line) : R.Supplies debug "-d=2" line ∧
      (s.execute (.scan .permuting true (line ++ ["-d", "--", "-d"]))).2.result = .ok ["-d"] ∧
      (R.trace .permuting ⟨line ++ ["-d", "--", "-d"], false⟩).found =
        [⟨debug, .text "-d=2"⟩, ⟨debug, .absent⟩] := by
    obtain ⟨_, hreply, hfound⟩ :=
      execute_scan_supplied (s := s) hR hn "-d=2" .permuting true ["-d", "--", "-d"] line h
    refine ⟨h, ?_, ?_⟩
    · rw [hreply, execute_scan_unrolled]
      rfl
    · rw [hfound, Registry.trace_unrolled]
      rfl
  simp only [List.forall_mem_cons]
  exact ⟨hR, hn, hline (.long hdeb rfl), hline (.longNext hverb rfl fun _ => hd),
    hline (.short ho (by decide)), hline (.shortNext ho fun _ => hd), by simp⟩

end Session

end CommandLine
