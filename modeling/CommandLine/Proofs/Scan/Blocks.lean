import CommandLine.Proofs.Argument.Token
import CommandLine.Proofs.Scan.Sentinel
import CommandLine.Proofs.Session.Reachable

namespace CommandLine

inductive Block
  | kept (arg : String)
  | option (arg : String) (found : List Match)
  | valued (arg value : String) (found : List Match)

namespace Block

def args : Block → List String
  | kept arg => [arg]
  | option arg _ => [arg]
  | valued arg value _ => [arg, value]

def events : Block → List Event
  | kept arg => [.kept arg]
  | option _ found => found.map .matched
  | valued _ _ found => found.map .matched

def left : Block → List String
  | kept arg => [arg]
  | option _ _ => []
  | valued _ _ _ => []

/-- The argument that an option takes is what the last of its matches captures. -/
inductive Valid : Block → Prop
  | kept {arg : String} (h : IsPositional arg) : Valid (.kept arg)
  | option {arg : String} {found : List Match} (h : IsOption arg) (hf : found ≠ []) :
      Valid (.option arg found)
  | valued {arg value : String} {found : List Match} {slot : Slot} (h : IsOption arg)
      (hf : found.getLast? = some ⟨slot, .text value⟩) : Valid (.valued arg value found)

end Block

namespace Reading

def Takes (c : Cursor) (r : Reading) : Prop :=
  ∀ d, r.outcome = .ok d → d.rest = c.rest ∨
    ∃ slot value, r.found.getLast? = some ⟨slot, .text value⟩ ∧ c.rest = value :: d.rest

lemma takes_single {arity : Arity} {label : String} {negated : Bool} {inline : Option String}
    (slot : Slot) (c : Cursor) : (single slot (arity.capture label negated inline c)).Takes c := by
  intro d hd
  obtain ⟨v, hv⟩ := exists_of_single hd
  rcases Arity.capture_cases hv with rfl | ⟨w, rfl, rfl⟩
  · exact .inl rfl
  · exact .inr ⟨slot, w, by rw [hv]; rfl, rfl⟩

lemma Takes.cons {c : Cursor} {r : Reading} (m : Match) (h : r.Takes c) : (r.cons m).Takes c := by
  intro d hd
  apply (h d hd).imp_right
  rintro ⟨slot, value, hlast, hrest⟩
  refine ⟨slot, value, ?_, hrest⟩
  rw [Reading.cons, List.getLast?_cons, hlast]
  rfl

lemma found_single_ne_nil {slot : Slot} {x : Except Error (Value × Cursor)} {d : Cursor}
    (h : (single slot x).outcome = .ok d) : (single slot x).found ≠ [] := by
  obtain ⟨v, rfl⟩ := exists_of_single h
  exact List.cons_ne_nil _ _

end Reading

namespace Registry

variable {R : Registry} {args rest behind : List String} {blocks : List Block} {c d : Cursor}

lemma Reader.takes {read : Cursor → Reading} (h : R.Reader read) (c : Cursor) :
    (read c).Takes c := by
  induction h with
  | nothing =>
    intro d hd
    cases hd
    exact .inl rfl
  | refused he =>
    intro d hd
    cases hd
  | flag _ _ ih => exact ih.cons _
  | single label negated inline ho => exact Reading.takes_single _ c

lemma found_readLong_ne_nil {name : String} {inline : Option String}
    (h : (R.readLong name inline c).outcome = .ok d) : (R.readLong name inline c).found ≠ [] := by
  rw [readLong] at h ⊢
  split at h
  · cases h
  · exact Reading.found_single_ne_nil h

lemma found_readCluster_ne_nil {letter : Char} {letters : List Char}
    (h : (R.readCluster (letter :: letters) c).outcome = .ok d) :
    (R.readCluster (letter :: letters) c).found ≠ [] := by
  cases hs : R.findShort? letter with
  | none => rw [readCluster_of_undeclared letters c hs] at h; cases h
  | some slot =>
    by_cases hn : slot.switch.arity = .noValue
    · rw [readCluster_of_noValue letters c hs hn]
      simp [Reading.cons]
    · rw [readCluster_of_value letters c hs hn] at h ⊢
      exact Reading.found_single_ne_nil h

lemma exists_block {arg : String} {r : Reading} (hopt : IsOption arg) (ht : r.Takes c)
    (ho : r.outcome = .ok d) (hf : r.found ≠ []) :
    ∃ b : Block, b.Valid ∧ arg :: c.rest = b.args ++ d.rest ∧ b.events = r.found.map .matched ∧
      b.left = [] := by
  rcases ht d ho with hrest | ⟨slot, value, hlast, hrest⟩
  · exact ⟨.option arg r.found, .option hopt hf, by simp [Block.args, hrest], rfl, rfl⟩
  · exact ⟨.valued arg value r.found, .valued hopt hlast, by simp [Block.args, hrest], rfl, rfl⟩

lemma Reads.block {events : List Event} {left : List String}
    (h : R.Reads .permuting ⟨args, false⟩ events left d) :
    (args = "--" :: d.rest ∧ d.literal = true) ∨
      ∃ b : Block, b.Valid ∧ args = b.args ++ d.rest ∧ b.events = events ∧ b.left = left ∧
        d.literal = false := by
  obtain ⟨t, e, hnext, hs⟩ := h
  cases args with
  | nil => cases hnext
  | cons arg rest =>
    obtain ⟨rfl, rfl⟩ : Token.ofArg arg = t ∧ ⟨rest, Token.ofArg arg == .sentinel⟩ = e := by
      simpa [Cursor.next?] using hnext
    have hread {read : Cursor → Reading} (hopt : IsOption arg) (hread : R.Reader read)
        (hr : (read ⟨rest, false⟩).step = ⟨events, left, .ok (some d)⟩)
        (hf : (read ⟨rest, false⟩).outcome = .ok d → (read ⟨rest, false⟩).found ≠ []) :
        ∃ b : Block, b.Valid ∧ arg :: rest = b.args ++ d.rest ∧ b.events = events ∧
          b.left = left ∧ d.literal = false := by
      obtain ⟨ho, rfl, rfl⟩ := Reading.step_eq_iff.mp hr
      obtain ⟨b, hb, hargs, hev, hleft⟩ := exists_block hopt (hread.takes _) ho (hf ho)
      exact ⟨b, hb, hargs, hev, hleft, hread.literal ho⟩
    rcases Token.ofArg_cases arg with ⟨ht, rfl⟩ | ⟨ht, hp⟩ | ⟨hopt, ⟨name, inline, ht⟩ |
      ⟨letter, letters, ht⟩⟩
    · left
      rw [ht] at hs
      cases hs
      exact ⟨rfl, rfl⟩
    · right
      rw [ht] at hs
      cases hs
      exact ⟨.kept arg, .kept hp, rfl, rfl, rfl, rfl⟩
    · right
      rw [ht] at hs
      exact hread hopt (R.reader_readLong name inline) hs found_readLong_ne_nil
    · right
      rw [ht] at hs
      exact hread hopt (R.reader_readCluster _) hs found_readCluster_ne_nil

inductive Cut (R : Registry) : List String → List Block → List String → Prop
  | nil (args : List String) : Cut R args [] args
  | cons {b : Block} {rest behind : List String} {blocks : List Block} (hb : b.Valid)
      (hr : R.Reads .permuting ⟨b.args ++ rest, false⟩ b.events b.left ⟨rest, false⟩)
      (h : Cut R rest blocks behind) : Cut R (b.args ++ rest) (b :: blocks) behind

lemma Cut.valid (h : R.Cut args blocks behind) : ∀ b ∈ blocks, b.Valid := by
  induction h with
  | nil args => simp
  | cons hb _ _ ih => exact List.forall_mem_cons.mpr ⟨hb, ih⟩

lemma Cut.args_eq (h : R.Cut args blocks behind) : args = blocks.flatMap Block.args ++ behind := by
  induction h with
  | nil args => rfl
  | cons _ _ _ ih => rw [List.flatMap_cons, List.append_assoc, ← ih]

lemma Cut.advances (h : R.Cut args blocks behind) :
    R.Advances .permuting ⟨args, false⟩ (blocks.flatMap Block.events) (blocks.flatMap Block.left)
      ⟨behind, false⟩ := by
  induction h with
  | nil args => exact .refl _
  | cons _ hr _ ih =>
    rw [List.flatMap_cons, List.flatMap_cons]
    exact .head hr ih

lemma Advances.cut {events : List Event} {left : List String}
    (h : R.Advances .permuting c events left d) (hc : c.literal = false) (hd : d.rest = []) :
    ∃ blocks behind, R.Cut c.rest blocks behind ∧
      (behind = [] ∨ ∃ tail, behind = "--" :: tail) := by
  induction h with
  | refl c => exact ⟨[], c.rest, .nil _, .inl hd⟩
  | @head c d e events events' left left' hr _ ih =>
    rcases c with ⟨args, literal⟩
    obtain rfl : literal = false := hc
    rcases hr.block with ⟨rfl, _⟩ | ⟨b, hb, hargs, rfl, rfl, hlit⟩
    -- the sentinel ends the blocks, whatever the scan makes of the arguments behind it
    · exact ⟨[], _, .nil _, .inr ⟨d.rest, rfl⟩⟩
    · obtain ⟨blocks, behind, hcut, hbehind⟩ := ih hlit hd
      rcases d with ⟨rest, literal⟩
      obtain rfl : literal = false := hlit
      obtain rfl : args = b.args ++ rest := hargs
      exact ⟨b :: blocks, behind, .cons hb hr hcut, hbehind⟩

lemma Cut.positional (h : R.Cut args blocks behind) :
    ∀ arg ∈ blocks.flatMap Block.left, IsPositional arg := by
  intro arg harg
  obtain ⟨b, hb, hmem⟩ := List.mem_flatMap.mp harg
  cases h.valid b hb with
  | kept hp =>
    obtain rfl := List.mem_singleton.mp hmem
    exact hp
  | option _ _ => cases hmem
  | valued _ _ => cases hmem

lemma trace_positionals (R : Registry) (h : ∀ arg ∈ args, IsPositional arg) :
    R.trace .permuting ⟨args, false⟩ = ⟨args.map .kept, .ok args⟩ := by
  induction args with
  | nil => exact R.trace_exhausted _ _
  | cons arg args ih =>
    obtain ⟨harg, hargs⟩ := List.forall_mem_cons.mp h
    have hnext : (⟨arg :: args, false⟩ : Cursor).next? = some (.positional arg, ⟨args, false⟩) :=
      Cursor.next?_eq_positional.mpr ⟨rfl, .inr harg⟩
    have hr : R.Reads .permuting ⟨arg :: args, false⟩ [.kept arg] [arg] ⟨args, false⟩ :=
      ⟨_, _, hnext, rfl⟩
    rw [hr.trace, ih hargs]
    rfl

/-- A command line that is not refused falls into blocks, and behind them come no more arguments or
the sentinel with literal ones. What is left over is what was kept, in order. -/
theorem trace_blocks (R : Registry) {args left : List String}
    (h : (R.trace .permuting ⟨args, false⟩).outcome = .ok left) :
    ∃ blocks behind, R.Cut args blocks behind ∧ args = blocks.flatMap Block.args ++ behind ∧
      (∀ b ∈ blocks, b.Valid) ∧ (∀ arg ∈ blocks.flatMap Block.left, IsPositional arg) ∧
      ((behind = [] ∧ left = blocks.flatMap Block.left ∧
          (R.trace .permuting ⟨args, false⟩).events = blocks.flatMap Block.events) ∨
        ∃ tail, behind = "--" :: tail ∧ left = blocks.flatMap Block.left ++ tail ∧
          (R.trace .permuting ⟨args, false⟩).events =
            blocks.flatMap Block.events ++ .sentinel :: tail.map .kept) ∧
      (.sentinel ∉ (R.trace .permuting ⟨args, false⟩).events →
        R.trace .permuting ⟨left, false⟩ = ⟨left.map .kept, .ok left⟩) := by
  obtain ⟨d, ha, hd⟩ := advances_of_ok (.inl rfl) h
  obtain ⟨blocks, behind, hcut, hbehind⟩ := ha.cut rfl hd
  have ht := hcut.advances.trace
  refine ⟨blocks, behind, hcut, hcut.args_eq, hcut.valid, hcut.positional, ?_⟩
  rcases hbehind with rfl | ⟨tail, rfl⟩
  · rw [trace_exhausted] at ht
    rw [ht] at h ⊢
    obtain rfl : blocks.flatMap Block.left = left := by simpa [Trace.after, Except.map] using h
    refine ⟨.inl ⟨rfl, rfl, by simp [Trace.after]⟩, fun _ => ?_⟩
    exact R.trace_positionals hcut.positional
  · rw [(R.reads_sentinel _ tail).trace, trace_permuting_literal, Trace.after_after] at ht
    rw [ht] at h ⊢
    obtain rfl : blocks.flatMap Block.left ++ tail = left := by
      simpa [Trace.after, Except.map] using h
    refine ⟨.inr ⟨tail, rfl, rfl, by simp [Trace.after]⟩, fun hs => ?_⟩
    exact (hs (by simp [Trace.after])).elim

theorem trace_blocks_mixed :
    let R := ofDeclarations [["-o", "--output FILE"], ["-q"]]
    let args := ["a", "-qo", "--", "--output=b", "-", "--", "-q"]
    (R.trace .permuting ⟨args, false⟩).outcome = .ok ["a", "-", "-q"] ∧
    ∃ blocks behind, R.Cut args blocks behind ∧ args = blocks.flatMap Block.args ++ behind ∧
      (∀ b ∈ blocks, b.Valid) ∧ ∀ arg ∈ blocks.flatMap Block.left, IsPositional arg := by
  intro R args
  have hleft : (R.trace .permuting ⟨args, false⟩).outcome = .ok ["a", "-", "-q"] := by
    rw [R.trace_unrolled]
    rfl
  obtain ⟨blocks, behind, hcut, hargs, hvalid, hpos, _⟩ := R.trace_blocks hleft
  exact ⟨hleft, blocks, behind, hcut, hargs, hvalid, hpos⟩

end Registry

end CommandLine
