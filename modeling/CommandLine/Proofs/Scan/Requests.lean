import CommandLine.Proofs.Scan.Sentinel

namespace CommandLine

inductive Request
  | token
  | value
  | optionalValue
  deriving DecidableEq, Repr

inductive Given
  | token (t : Token)
  | value (arg : String)
  | nothing
  deriving DecidableEq, Repr

def Given.args : Given → List String
  | token t => [t.text]
  | value arg => [arg]
  | nothing => []

namespace Cursor

variable {arg : String} {c : Cursor} {r : Request}

def passed (c : Cursor) : Cursor :=
  match c.next? with
  | some (.sentinel, d) => d
  | _ => c

lemma passed_literal (rest : List String) : (⟨rest, true⟩ : Cursor).passed = ⟨rest, true⟩ := by
  cases rest <;> rfl

lemma passed_sentinel (rest : List String) :
    (⟨"--" :: rest, false⟩ : Cursor).passed = ⟨rest, true⟩ := by
  simp only [passed, next?_sentinel]

lemma ofArg_ne_sentinel (h : arg ≠ "--") : Token.ofArg arg ≠ .sentinel := by
  intro ht
  have htext := Token.text_ofArg arg
  rw [ht] at htext
  exact h htext.symm

lemma next?_of_ne (h : arg ≠ "--") (rest : List String) :
    (⟨arg :: rest, false⟩ : Cursor).next? = some (Token.ofArg arg, ⟨rest, false⟩) := by
  simp [next?_cons, ofArg_ne_sentinel h]

lemma passed_of_ne (h : arg ≠ "--") (rest : List String) :
    (⟨arg :: rest, false⟩ : Cursor).passed = ⟨arg :: rest, false⟩ := by
  rw [passed, next?_of_ne h]
  split
  · rename_i ht
    exact (ofArg_ne_sentinel h (Prod.mk.inj (Option.some.inj ht)).1).elim
  · rfl

def ask (c : Cursor) : Request → Given × Cursor
  | .token =>
    match c.passed.next? with
    | some (t, d) => (.token t, d)
    | none => (.nothing, c.passed)
  | .value =>
    match c.value? with
    | some (arg, d) => (.value arg, d)
    | none => (.nothing, c)
  | .optionalValue =>
    match c.optionalValue? with
    | some (arg, d) => (.value arg, d)
    | none => (.nothing, c)

def askAll (c : Cursor) : List Request → List Given × Cursor
  | [] => ([], c)
  | r :: requests =>
    let (given, d) := c.ask r
    let (givens, e) := d.askAll requests
    (given :: givens, e)

lemma ask_token_nil (literal : Bool) :
    (⟨[], literal⟩ : Cursor).ask .token = (.nothing, ⟨[], literal⟩) := rfl

lemma ask_token_literal (arg : String) (rest : List String) :
    (⟨arg :: rest, true⟩ : Cursor).ask .token = (.token (.positional arg), ⟨rest, true⟩) := rfl

lemma ask_token_sentinel (rest : List String) :
    (⟨"--" :: rest, false⟩ : Cursor).ask .token = (⟨rest, true⟩ : Cursor).ask .token := by
  simp only [ask, passed_sentinel, passed_literal]

lemma ask_token_of_ne (h : arg ≠ "--") (rest : List String) :
    (⟨arg :: rest, false⟩ : Cursor).ask .token = (.token (Token.ofArg arg), ⟨rest, false⟩) := by
  simp only [ask, passed_of_ne h, next?_of_ne h]

lemma ask_value_of_rest {rest : List String} (h : c.rest = arg :: rest) :
    c.ask .value = (.value arg, ⟨rest, c.literal⟩) := by
  rcases c with ⟨_, literal⟩
  obtain rfl := h
  rfl

lemma ask_value_eq_nothing : c.ask .value = (.nothing, c) ↔ c.rest = [] := by
  rw [← value?_eq_none]
  cases hv : c.value? with
  | none => simp only [ask, hv]
  | some p => simp [ask, hv]

lemma ask_optionalValue_of_rest {rest : List String} (h : c.rest = arg :: rest) (hne : arg ≠ "--") :
    c.ask .optionalValue = (.value arg, ⟨rest, c.literal⟩) := by
  rcases c with ⟨_, literal⟩
  obtain rfl := h
  have hv : (⟨arg :: rest, literal⟩ : Cursor).optionalValue? = some (arg, ⟨rest, literal⟩) :=
    optionalValue?_eq_some.mpr ⟨hne, rfl⟩
  simp only [ask, hv]

lemma ask_optionalValue_eq_nothing :
    c.ask .optionalValue = (.nothing, c) ↔ c.rest = [] ∨ c.rest.head? = some "--" := by
  rw [← optionalValue?_eq_none]
  cases hv : c.optionalValue? with
  | none => simp only [ask, hv]
  | some p => simp [ask, hv]

lemma askAll_append (c : Cursor) (requests behind : List Request) :
    c.askAll (requests ++ behind) =
      ((c.askAll requests).1 ++ ((c.askAll requests).2.askAll behind).1,
        ((c.askAll requests).2.askAll behind).2) := by
  induction requests generalizing c with
  | nil => rfl
  | cons r requests ih => simp only [List.cons_append, askAll, ih]

def Meets (c : Cursor) (r : Request) : Prop :=
  r = .token ∧ c.literal = false ∧ c.rest.head? = some "--"

lemma ask_frame (c : Cursor) (h : ¬ c.Meets r) :
    c.rest = (c.ask r).1.args ++ (c.ask r).2.rest ∧ (c.ask r).2.literal = c.literal := by
  rcases c with ⟨_ | ⟨arg, rest⟩, literal⟩
  · cases r <;> exact ⟨rfl, rfl⟩
  · cases r with
    | token =>
      cases literal with
      | true => exact ⟨rfl, rfl⟩
      | false =>
        have hne : arg ≠ "--" := by
          rintro rfl
          exact h ⟨rfl, rfl, rfl⟩
        rw [ask_token_of_ne hne]
        exact ⟨by simp [Given.args, Token.text_ofArg], rfl⟩
    | value => exact ⟨rfl, rfl⟩
    | optionalValue =>
      by_cases hne : arg = "--"
      · rw [ask_optionalValue_eq_nothing.mpr (.inr (by rw [hne]; rfl))]
        exact ⟨rfl, rfl⟩
      · rw [ask_optionalValue_of_rest rfl hne]
        exact ⟨rfl, rfl⟩

lemma positional_of_ask {t : Token} (hc : c.literal = true) (h : (c.ask r).1 = .token t) :
    ∃ arg, t = .positional arg := by
  rcases c with ⟨_ | ⟨arg, rest⟩, literal⟩
  · cases r <;> cases h
  · obtain rfl : literal = true := hc
    cases r with
    | token =>
      cases h
      exact ⟨arg, rfl⟩
    | value => cases h
    | optionalValue =>
      simp only [ask] at h
      split at h <;> cases h

lemma askAll_literal (hc : c.literal = true) (requests : List Request) :
    (c.askAll requests).2.literal = true ∧
      c.rest = (c.askAll requests).1.flatMap Given.args ++ (c.askAll requests).2.rest ∧
      ∀ t, .token t ∈ (c.askAll requests).1 → ∃ arg, t = .positional arg := by
  induction requests generalizing c with
  | nil => exact ⟨hc, rfl, by simp [askAll]⟩
  | cons r requests ih =>
    obtain ⟨hrest, hlit⟩ := c.ask_frame (r := r) fun h => by simp [Meets, hc] at h
    obtain ⟨hlit', hrest', htokens⟩ := ih (hlit.trans hc)
    refine ⟨hlit', ?_, fun t ht => ?_⟩
    · simp only [askAll, List.flatMap_cons, List.append_assoc, ← hrest']
      exact hrest
    · rcases List.mem_cons.mp ht with ht | ht
      · exact positional_of_ask hc ht.symm
      · exact htokens t ht

lemma askAll_cases (hc : c.literal = false) (requests : List Request) :
    ((c.askAll requests).2.literal = false ∧
      c.rest = (c.askAll requests).1.flatMap Given.args ++ (c.askAll requests).2.rest ∧
      ∀ before behind, requests = before ++ .token :: behind →
        (c.askAll before).2.rest.head? ≠ some "--") ∨
    ∃ before behind rest, requests = before ++ .token :: behind ∧
      (c.askAll before).2 = ⟨"--" :: rest, false⟩ ∧
      c.rest = (c.askAll before).1.flatMap Given.args ++ "--" :: rest := by
  induction requests generalizing c with
  | nil => exact .inl ⟨hc, rfl, by simp⟩
  | cons r requests ih =>
    by_cases hm : c.Meets r
    · right
      obtain ⟨rfl, _, hhead⟩ := hm
      obtain ⟨rest, hrest⟩ := List.head?_eq_some_iff.mp hhead
      exact ⟨[], requests, rest, rfl, by rw [askAll, ← hrest, ← hc], hrest⟩
    · obtain ⟨hrest, hlit⟩ := c.ask_frame hm
      rcases ih (hlit.trans hc) with ⟨hlit', hrest', hfirst⟩ | ⟨before, behind, rest, rfl, hbefore, hrest'⟩
      · refine .inl ⟨hlit', ?_, fun before behind hsplit => ?_⟩
        · simp only [askAll, List.flatMap_cons, List.append_assoc, ← hrest']
          exact hrest
        · cases before with
          | nil =>
            obtain ⟨rfl, _⟩ := List.cons.inj hsplit
            exact fun hhead => hm ⟨rfl, hc, hhead⟩
          | cons r' before =>
            obtain ⟨rfl, rfl⟩ := List.cons.inj hsplit
            exact hfirst before behind rfl
      · refine .inr ⟨r :: before, behind, rest, rfl, hbefore, ?_⟩
        simp only [askAll, List.flatMap_cons, List.append_assoc, ← hrest']
        exact hrest

lemma exists_token_of_ne (h : arg ≠ "--") (rest : List String) :
    ∃ t : Token, (⟨arg :: rest, false⟩ : Cursor).ask .token = (.token t, ⟨rest, false⟩) ∧
      t.text = arg ∧ t ≠ .sentinel ∧
      (∀ name inline, t = .long name inline → '=' ∉ name.toList) ∧
      (∀ letters, t = .cluster letters → letters ≠ [] ∧ letters.head? ≠ some '-') ∧
      (∀ p, t = .positional p → p = "-" ∨ p.toList.head? ≠ some '-') ∧
      ∀ u : Token, u.Writable → u.text = arg → u = t := by
  have hw := Token.writable_ofArg arg
  refine ⟨Token.ofArg arg, ask_token_of_ne h rest, Token.text_ofArg arg, ofArg_ne_sentinel h,
    ?_, ?_, ?_, ?_⟩
  · intro name inline ht
    rw [ht] at hw
    exact hw.1
  · intro letters ht
    rw [ht] at hw
    obtain ⟨c, cs, rfl, hc⟩ := hw
    exact ⟨List.cons_ne_nil c cs, by simpa using hc⟩
  · intro p ht
    rw [ht] at hw
    exact hw
  · rintro u hu rfl
    exact (Token.ofArg_text hu).symm

lemma ask_token_eq_nothing :
    (c.ask .token).1 = .nothing ↔ c.rest = [] ∨ c = ⟨["--"], false⟩ := by
  rcases c with ⟨_ | ⟨arg, rest⟩, _ | _⟩
  · simp [ask_token_nil]
  · simp [ask_token_nil]
  · by_cases hne : arg = "--"
    · subst hne
      rw [ask_token_sentinel]
      cases rest with
      | nil => simp [ask_token_nil]
      | cons arg rest => simp [ask_token_literal]
    · simp [ask_token_of_ne hne, hne]
  · simp [ask_token_literal]

lemma askAll_history (args : List String) (requests : List Request) :
    let start : Cursor := ⟨args, false⟩
    let given := (start.askAll requests).1
    let c := (start.askAll requests).2
    (c.literal = false ∧ args = given.flatMap Given.args ++ c.rest ∧
      ∀ before behind, requests = before ++ .token :: behind →
        (start.askAll before).2.rest.head? ≠ some "--") ∨
    (c.literal = true ∧ ∃ before behind rest literals, requests = before ++ .token :: behind ∧
      (start.askAll before).2 = ⟨"--" :: rest, false⟩ ∧
      given = (start.askAll before).1 ++ literals ∧
      args = (start.askAll before).1.flatMap Given.args ++
        "--" :: (literals.flatMap Given.args ++ c.rest) ∧
      ∀ t, .token t ∈ literals → ∃ arg, t = .positional arg) := by
  intro start given c
  rcases askAll_cases (c := start) rfl requests with h | ⟨before, behind, rest, rfl, hbefore, hargs⟩
  · exact .inl h
  · -- from the sentinel on, the rest is asked for as from a place behind one
    have hlater : (start.askAll before).2.askAll (.token :: behind) =
        (⟨rest, true⟩ : Cursor).askAll (.token :: behind) := by
      rw [hbefore, askAll, askAll, ask_token_sentinel]
    obtain ⟨hlit, hrest, htokens⟩ := askAll_literal (c := ⟨rest, true⟩) rfl (.token :: behind)
    have hall := start.askAll_append before (.token :: behind)
    rw [hlater] at hall
    have hc : c = ((⟨rest, true⟩ : Cursor).askAll (.token :: behind)).2 := by
      simp only [c, hall]
    refine .inr ⟨by rw [hc, hlit], before, behind, rest, _, rfl, hbefore, congrArg Prod.fst hall, ?_,
      htokens⟩
    rw [hc, ← hrest]
    exact hargs

/-- Every argument is handed out once, in order and as it was, but for the first `--` that a token is
asked for at. Up to there tokens are what the arguments are by their form, and from there on they are
the arguments themselves. -/
theorem askAll_lossless (args : List String) (requests : List Request) :
    let start : Cursor := ⟨args, false⟩
    let given := (start.askAll requests).1
    let c := (start.askAll requests).2
    ((c.literal = false ∧ args = given.flatMap Given.args ++ c.rest ∧
        ∀ before behind, requests = before ++ .token :: behind →
          (start.askAll before).2.rest.head? ≠ some "--") ∨
      (c.literal = true ∧ ∃ before behind rest literals, requests = before ++ .token :: behind ∧
        (start.askAll before).2 = ⟨"--" :: rest, false⟩ ∧
        given = (start.askAll before).1 ++ literals ∧
        args = (start.askAll before).1.flatMap Given.args ++
          "--" :: (literals.flatMap Given.args ++ c.rest) ∧
        ∀ t, .token t ∈ literals → ∃ arg, t = .positional arg)) ∧
    (∀ arg rest, c = ⟨arg :: rest, false⟩ → arg ≠ "--" →
      ∃ t : Token, c.ask .token = (.token t, ⟨rest, false⟩) ∧ t.text = arg ∧ t ≠ .sentinel ∧
        (∀ name inline, t = .long name inline → '=' ∉ name.toList) ∧
        (∀ letters, t = .cluster letters → letters ≠ [] ∧ letters.head? ≠ some '-') ∧
        (∀ p, t = .positional p → p = "-" ∨ p.toList.head? ≠ some '-') ∧
        ∀ u : Token, u.Writable → u.text = arg → u = t) ∧
    (∀ rest, c = ⟨"--" :: rest, false⟩ → c.ask .token =
      match rest with
      | [] => (.nothing, ⟨[], true⟩)
      | arg :: rest => (.token (.positional arg), ⟨rest, true⟩)) ∧
    (∀ arg rest, c = ⟨arg :: rest, true⟩ →
      c.ask .token = (.token (.positional arg), ⟨rest, true⟩)) ∧
    ((c.ask .token).1 = .nothing ↔ c.rest = [] ∨ c = ⟨["--"], false⟩) ∧
    (∀ arg rest, c.rest = arg :: rest → c.ask .value = (.value arg, ⟨rest, c.literal⟩)) ∧
    (c.ask .value = (.nothing, c) ↔ c.rest = []) ∧
    (∀ arg rest, c.rest = arg :: rest → arg ≠ "--" →
      c.ask .optionalValue = (.value arg, ⟨rest, c.literal⟩)) ∧
    (c.ask .optionalValue = (.nothing, c) ↔ c.rest = [] ∨ c.rest.head? = some "--") := by
  intro start given c
  refine ⟨askAll_history args requests, fun arg rest hc hne => ?_, fun rest hc => ?_,
    fun arg rest hc => ?_, ask_token_eq_nothing, fun arg rest => ask_value_of_rest,
    ask_value_eq_nothing, fun arg rest => ask_optionalValue_of_rest, ask_optionalValue_eq_nothing⟩
  · rw [hc]
    exact exists_token_of_ne hne rest
  · rw [hc, ask_token_sentinel]
    cases rest <;> rfl
  · rw [hc]
    rfl

end Cursor

namespace Registry

open Cursor

instance (c : Cursor) (r : Request) : Decidable (c.Meets r) :=
  inferInstanceAs (Decidable (_ ∧ _ ∧ _))

theorem trace_ask (R : Registry) (mode : Mode) (c : Cursor) :
    R.trace mode c =
      (match c.ask .token with
        | (.token t, d) => (R.step mode d t).trace (R.trace mode)
        | _ => ⟨[], .ok []⟩).after (if c.Meets .token then [.sentinel] else []) [] := by
  rcases c with ⟨_ | ⟨arg, rest⟩, _ | _⟩
  · exact trace_of_next?_eq_none rfl
  · exact trace_of_next?_eq_none rfl
  · by_cases hne : arg = "--"
    · subst hne
      rw [ask_token_sentinel, (R.reads_sentinel mode rest).trace, if_pos ⟨rfl, rfl, rfl⟩]
      congr 1
      cases rest with
      | nil => exact R.trace_exhausted mode true
      | cons arg rest => exact trace_of_next?_eq_some (next?_literal arg rest)
    · have hm : ¬ (⟨arg :: rest, false⟩ : Cursor).Meets .token := fun h => hne (by simpa using h.2.2)
      rw [ask_token_of_ne hne, if_neg hm, Trace.after_nil]
      exact trace_of_next?_eq_some (next?_of_ne hne rest)
  · rw [ask_token_literal, if_neg fun h => by simp [Meets] at h, Trace.after_nil]
    exact trace_of_next?_eq_some (next?_literal arg rest)

end Registry

end CommandLine
