import CommandLine.Greeting
import CommandLine.Proofs.Registry.Help
import CommandLine.Proofs.Scan.Capture
import CommandLine.Proofs.Scan.Composition

namespace CommandLine.Greeting

def emoji : Slot :=
  ⟨0, { shorts := ['e'], longs := ["emoji"]
        description := ["end with a heart instead of a bang"] }⟩

def greeting : Slot :=
  ⟨1, { shorts := ['g'], longs := ["greeting"], arity := .required, placeholder := some " WORD"
        description := ["use WORD instead of `Hello`"] }⟩

def help : Slot :=
  ⟨2, { shorts := ['h'], longs := ["help"], description := ["print this help"]
        handler := some "help" }⟩

def registry : Registry where
  banner := some "Usage: greet [options] NAME..."
  entries := [.switch emoji.switch, .switch greeting.switch, .switch help.switch]

lemma opening_eq : opening = ({ registry := registry }, {}) := rfl

lemma slots_registry : registry.slots = [help, greeting, emoji] := rfl

lemma apart_registry : registry.Apart := by
  constructor <;> simp [slots_registry, help, greeting, emoji]

lemma key_injective : ∀ slot ∈ registry.slots, ∀ slot' ∈ registry.slots,
    slot.switch.key = slot'.switch.key → slot = slot' := by
  rw [slots_registry]
  decide

def scanned (args : List String) : Trace :=
  registry.trace .permuting ⟨args, false⟩

def stored (args : List String) : Store :=
  Store.insertAll ∅ (scanned args).found

lemma greet_eq (args : List String) :
    greet args = answer { registry, store := stored args } (scanned args).reply := by
  rw [greet, opening_eq]
  simp only [Session.execute_scan_eq]
  rfl

/-- The word of the last greeting that was matched, or `Hello` if none was. -/
def Greets (found : List Match) (word : String) : Prop :=
  (∃ before behind, found = before ++ ⟨greeting, .text word⟩ :: behind ∧
    ∀ m ∈ behind, m.slot ≠ greeting) ∨
  ((∀ m ∈ found, m.slot ≠ greeting) ∧ word = "Hello")

lemma exists_last (slot : Slot) (found : List Match) : (∀ m ∈ found, m.slot ≠ slot) ∨
    ∃ before m behind, found = before ++ m :: behind ∧ m.slot = slot ∧
      ∀ n ∈ behind, n.slot ≠ slot := by
  induction found with
  | nil => exact .inl (by simp)
  | cons m found ih =>
    rcases ih with hnone | ⟨before, n, behind, rfl, hn, hlast⟩
    · by_cases hm : m.slot = slot
      · exact .inr ⟨[], m, found, rfl, hm, hnone⟩
      · exact .inl (List.forall_mem_cons.mpr ⟨hm, hnone⟩)
    · exact .inr ⟨m :: before, n, behind, rfl, hn, hlast⟩

lemma slot_mem {args : List String} {m : Match} (h : m ∈ (scanned args).found) :
    m.slot = help ∨ m.slot = greeting ∨ m.slot = emoji := by
  have hslot := (Registry.exists_captures_of_mem_found h).1
  simpa [slots_registry] using hslot

lemma getElem?_stored (args : List String) {slot : Slot} (hslot : slot ∈ registry.slots) :
    ((∀ m ∈ (scanned args).found, m.slot ≠ slot) ∧ (stored args)[slot.switch.key]? = none) ∨
      ∃ before m behind, (scanned args).found = before ++ m :: behind ∧ m.slot = slot ∧
        (∀ n ∈ behind, n.slot ≠ slot) ∧ (stored args)[slot.switch.key]? = some m.value := by
  have hkey {m : Match} (hm : m ∈ (scanned args).found) (hne : m.slot ≠ slot) :
      m.slot.switch.key ≠ slot.switch.key :=
    mt (key_injective _ (Registry.exists_captures_of_mem_found hm).1 _ hslot) hne
  rcases exists_last slot (scanned args).found with hnone | ⟨before, m, behind, hfound, hm, hlast⟩
  · refine .inl ⟨hnone, ?_⟩
    rw [stored, Store.getElem?_insertAll _ _ fun m hm => hkey hm (hnone m hm)]
    exact Std.TreeMap.getElem?_emptyc
  · refine .inr ⟨before, m, behind, hfound, hm, hlast, ?_⟩
    have hbehind : ∀ n ∈ behind, n.slot.switch.key ≠ m.slot.switch.key := by
      intro n hn
      rw [hm]
      exact hkey (by simp [hfound, hn]) (hlast n hn)
    rw [stored, hfound, ← hm, Store.getElem?_insertAll_last _ _ hbehind]

lemma exists_greets (args : List String) : ∃ word, Greets (scanned args).found word ∧
    ((stored args)["greeting"]?.bind Value.text?).getD "Hello" = word := by
  have hkey : "greeting" = greeting.switch.key := rfl
  have hslot : greeting ∈ registry.slots := by simp [slots_registry]
  rcases getElem?_stored args hslot with ⟨hnone, hs⟩ | ⟨before, m, behind, hfound, hm, hlast, hs⟩
  · refine ⟨"Hello", .inr ⟨hnone, rfl⟩, ?_⟩
    rw [hkey, hs]
    rfl
  · have hmem : m ∈ (scanned args).found := by simp [hfound]
    obtain ⟨_, negated, inline, d, e, hv⟩ := Registry.exists_captures_of_mem_found hmem
    rw [hm] at hv
    obtain ⟨word, hword⟩ := Arity.Captures.of_required hv
    obtain rfl : m = ⟨greeting, .text word⟩ := by rw [← hm, ← hword]
    refine ⟨word, .inl ⟨before, behind, hfound, hlast⟩, ?_⟩
    rw [hkey, hs]
    rfl

lemma contains_emoji (args : List String) :
    (stored args).contains "emoji" = true ↔ ∃ m ∈ (scanned args).found, m.slot = emoji := by
  have hkey : "emoji" = emoji.switch.key := rfl
  have hslot : emoji ∈ registry.slots := by simp [slots_registry]
  rw [Std.TreeMap.contains_eq_isSome_getElem?, hkey]
  rcases getElem?_stored args hslot with ⟨hnone, hs⟩ | ⟨before, m, behind, hfound, hm, _, hs⟩
  · rw [hs]
    simpa using hnone
  · rw [hs]
    simpa using ⟨m, by simp [hfound], hm⟩

lemma calls_eq_nil (args : List String) :
    (scanned args).reply.calls = [] ↔ ∀ m ∈ (scanned args).found, m.slot ≠ help := by
  rw [Trace.reply, List.flatMap_eq_nil_iff]
  refine forall₂_congr fun m hm => ?_
  rcases slot_mem hm with hs | hs | hs <;> simp [Effects.called, hs, help, greeting, emoji]

lemma exists_help : ∃ text, registry.help = .ok text :=
  ⟨_, Registry.help_eq _ (by decide)⟩

/-- What is printed is known from one scan with three switches, each of which is named by its letter or
by any beginning of its word. -/
theorem greet_output (args : List String) :
    let R := opening.1.registry
    let parse := (opening.1.execute (.scan .permuting true args)).2.result
    let found := (R.trace .permuting ⟨args, false⟩).found
    R.slots = [help, greeting, emoji] ∧
    (∀ c slot, R.findShort? c = some slot ↔ slot ∈ R.slots ∧ c ∈ slot.switch.shorts) ∧
    (∀ name r, R.resolve name = .ok r ↔ name ≠ "" ∧ r.negated = false ∧ r.slot ∈ R.slots ∧
      ∃ word ∈ r.slot.switch.longs, Spelling.abbreviates name word = true) ∧
    ((greet args).status = 2 ↔ ∃ e, parse = .error e) ∧
    (∀ e, parse = .error e →
      greet args = { status := 2, stdout := "", stderr := e.message ++ "\n" }) ∧
    ∀ names, parse = .ok names →
      (∀ m ∈ found, m.slot = help → ∃ text, R.help = .ok text ∧
        greet args = { status := 0, stdout := text, stderr := "" }) ∧
      ((∀ m ∈ found, m.slot ≠ help) → ∃ word, Greets found word ∧
        greet args =
          { status := 0
            stdout := String.join (names.map fun name =>
              word ++ " " ++ name ++ (if ∃ m ∈ found, m.slot = emoji then heart else "!") ++ "\n")
            stderr := "" }) := by
  rw [opening_eq]
  intro R parse found
  have hparse : parse = (scanned args).reply.result := by
    simp only [parse, Session.execute_scan_eq]
    rfl
  refine ⟨slots_registry, fun c slot => apart_registry.findShort?_eq_some,
    fun name r => apart_registry.resolve_eq_ok rfl, ?_, ?_,
    fun names hnames => ⟨fun m hm hs => ?_, fun hnone => ?_⟩⟩
  · rw [greet_eq, answer, ← hparse]
    cases parse with
    | error e => simp [Output.refused]
    | ok names =>
      simp only [reduceCtorEq, exists_false, iff_false]
      split_ifs <;> simp
  · intro e he
    rw [greet_eq, answer, ← hparse, he]
    rfl
  · obtain ⟨text, htext⟩ := exists_help
    have hcalls : (scanned args).reply.calls ≠ [] := fun h => (calls_eq_nil args).mp h m hm hs
    refine ⟨text, htext, ?_⟩
    rw [greet_eq, answer, ← hparse, hnames]
    simp only [List.isEmpty_iff, hcalls, if_false, htext]
    rfl
  · obtain ⟨word, hword, hstored⟩ := exists_greets args
    have hcalls : (scanned args).reply.calls = [] := (calls_eq_nil args).mpr hnone
    refine ⟨word, hword, ?_⟩
    rw [greet_eq, answer, ← hparse, hnames]
    simp only [hcalls, hstored, contains_emoji, List.isEmpty_nil, if_true]
    rfl

end CommandLine.Greeting
