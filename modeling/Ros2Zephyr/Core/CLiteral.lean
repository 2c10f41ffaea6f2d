import Ros2Zephyr.Core.CLexer

/-!
# String literals

What a text means between quotes.  It need not be one literal: a quote in it ends the literal, and
what follows may be another one.

* `literals` — the literals that a text is between quotes, if it is nothing else; adjacent literals
  are one string (`literalValue`).
* `Plain` — a text that means itself.
* `literalValue_eq_self_iff` — the plain texts are those whose literals denote the text.  Everything
  else that can be done with a character between quotes makes the string shorter than the text.
-/

namespace CLang

/-- The value of a string token. -/
def Token.str? : Token → Option PyStr
  | str value => some value
  | _ => none

/-- The string literals that a text is between quotes. -/
def literals (text : PyStr) : Option (List PyStr) :=
  match lexFrom [] .idle (.string []) (text ++ [quote]) with
  | some (.start, tokens) => tokens.mapM Token.str?
  | _ => none

/-- What a text denotes between quotes, where it is read as string literals. -/
def literalValue (text : PyStr) : Option PyStr := (literals text).map List.flatten

/-- A text that means itself between quotes: no quote, no backslash, no end of line, no trigraph,
and nothing that is not a character. -/
structure Plain (s : PyStr) : Prop where
  chars : ∀ c ∈ s, c ≠ quote ∧ c ≠ newline ∧ c ≠ carriageReturn ∧ c ≠ backslash ∧
    isSurrogate c = false
  trigraphs : ∀ t, (trigraph t).isSome → ¬ [questionMark, questionMark, t] <:+: s

/-! ## Literals in a file

`literals` reads a text on its own, without macros and up to one quote.  In a file the text is read
the same way, since the quote is no end of a line and macros only matter for words.
-/

section Quote

variable {m : List PyStr} {s s' : LexState} {chars : PyStr} {tokens : List Token}

/-- Tokens that are all strings are the strings. -/
lemma mapM_str?_eq_some {values : List PyStr} (h : tokens.mapM Token.str? = some values) :
    tokens = values.map Token.str := by
  induction tokens generalizing values with
  | nil =>
      cases h
      rfl
  | cons token tokens ih =>
      simp only [List.mapM_cons, Option.bind_eq_bind, Option.bind_eq_some_iff, Option.pure_def,
        Option.some.injEq] at h
      obtain ⟨v, hv, vs, hvs, rfl⟩ := h
      cases token with
      | str value =>
          cases hv
          rw [List.map_cons, ih hvs]
      | _ => cases hv

lemma mapM_str? (values : List PyStr) : (values.map Token.str).mapM Token.str? = some values := by
  induction values with
  | nil => rfl
  | cons v vs ih => simp [List.mapM_cons, ih, Token.str?]

/-- The literals of a text are read from its logical characters and the quote behind them. -/
lemma literals_eq_some_iff {text : PyStr} {values : List PyStr} :
    literals text = some values ↔
      Scans [] (.string []) (logical text ++ [quote]) .start (values.map Token.str) := by
  have hlex : ∀ tokens, lexFrom [] .idle (.string []) (text ++ [quote]) = some (.start, tokens) ↔
      Scans [] (.string []) (logical text ++ [quote]) .start tokens := by
    intro tokens
    refine lexes_iff.trans ?_
    rw [release_quote]
    constructor
    · rintro ⟨chars, heq, hscans⟩
      obtain ⟨-, rfl⟩ := Prod.mk.inj heq
      exact hscans
    · intro hscans
      exact ⟨_, rfl, hscans⟩
  unfold literals
  constructor
  · intro h
    split at h
    next tokens heq =>
      rw [← mapM_str?_eq_some h]
      exact (hlex tokens).mp heq
    next => cases h
  · intro h
    rw [(hlex _).mpr h]
    exact mapM_str? values

lemma classify_ne_str (macros : List PyStr) (word value : PyStr) :
    classify macros word ≠ .str value := by
  intro heq
  have hword := word?_classify macros word
  rw [heq] at hword
  cases hword

/-- The macros only matter for words. -/
lemma step_macros {c : ℕ} {values : List PyStr}
    (h : step [] s c = some (s', values.map Token.str)) :
    step m s c = some (s', values.map Token.str) := by
  cases s with
  | word text =>
      simp only [step] at h ⊢
      split
      next hc => rwa [if_pos hc] at h
      next hc =>
        rw [if_neg hc, close, Option.map_eq_some_iff] at h
        obtain ⟨next, -, heq⟩ := h
        have htokens := (Prod.mk.inj heq).2
        cases values with
        | nil => cases htokens
        | cons v vs => exact absurd (List.cons.inj htokens).1 (classify_ne_str _ _ _)
  | _ => exact h

lemma Scans.macros {values : List PyStr} (h : Scans [] s chars s' (values.map Token.str)) :
    Scans m s chars s' (values.map Token.str) := by
  induction chars generalizing s values with
  | nil =>
      obtain ⟨rfl, htokens⟩ := Prod.mk.inj (Option.some.inj h)
      rw [← htokens]
      exact .nil
  | cons c chars ih =>
      obtain ⟨t, out, out', hstep, hrun, heq⟩ := scans_cons_iff.mp h
      obtain ⟨first, rest, rfl, rfl, rfl⟩ := List.map_eq_append_iff.mp heq
      exact scans_cons_iff.mpr ⟨t, _, _, step_macros hstep, ih hrun, heq⟩

/-- **A text between quotes**, and what follows. -/
theorem Lexes.quote {text p : PyStr} {ps values : List PyStr} (htext : literals text = some values)
    (h : Lexes m .start (p :: ps).flatten s' tokens) :
    Lexes m (.string []) (text :: (CLang.quote :: p) :: ps).flatten s'
      (values.map Token.str ++ tokens) := by
  obtain ⟨chars, hrelease, hscans⟩ := lexes_iff.mp h
  refine lexes_iff.mpr ⟨logical text ++ CLang.quote :: chars, ?_, ?_⟩
  · have hflatten : (text :: (CLang.quote :: p) :: ps).flatten =
        text ++ CLang.quote :: (p :: ps).flatten := by
      simp
    rw [hflatten, release_quote, hrelease]
  · have hliterals := (literals_eq_some_iff.mp htext).macros (m := m)
    simpa using hliterals.append hscans

end Quote

/-! ## The length of what is denoted

A character of a literal adds at most one to its value, so a text that denotes itself has no
character to waste: an escape would need two for one.
-/

section Size

variable {m : List PyStr} {s s' : LexState} {c : ℕ} {chars value : PyStr} {tokens out : List Token}

/-- How many characters a literal has so far. -/
def LexState.size : LexState → ℕ
  | .string value => value.length
  | .escape value => value.length
  | .octal value _ _ => value.length + 1
  | .hex value none => value.length
  | .hex value (some _) => value.length + 1
  | .universal value _ _ => value.length
  | _ => 0

@[simp] lemma size_string (value : PyStr) : (LexState.string value).size = value.length := rfl

@[simp] lemma size_start : LexState.start.size = 0 := rfl

/-- How many characters the strings among some tokens have. -/
def strSize (tokens : List Token) : ℕ := (tokens.filterMap Token.str?).flatten.length

@[simp] lemma strSize_nil : strSize [] = 0 := rfl

@[simp] lemma strSize_append (tokens tokens' : List Token) :
    strSize (tokens ++ tokens') = strSize tokens + strSize tokens' := by
  simp [strSize]

@[simp] lemma strSize_str (value : PyStr) : strSize [.str value] = value.length := by
  simp [strSize, Token.str?]

lemma strSize_cons_of_none {token : Token} (h : token.str? = none) (tokens : List Token) :
    strSize (token :: tokens) = strSize tokens := by
  simp [strSize, h]

@[simp] lemma strSize_map_str (values : List PyStr) :
    strSize (values.map Token.str) = values.flatten.length := by
  have hstr : (values.map Token.str).filterMap Token.str? = values := by
    rw [List.filterMap_map]
    exact List.filterMap_some
  rw [strSize, hstr]

/-- The automaton is between the quotes of a literal. -/
def LexState.InLiteral : LexState → Prop
  | .string _ => True
  | .escape _ => True
  | .octal _ _ _ => True
  | .hex _ _ => True
  | .universal _ _ _ => True
  | _ => False

lemma stringStep_cases (h : stringStep value c = some (s', out)) :
    s' = .start ∧ out = [.str value] ∨
      out = [] ∧ s'.InLiteral ∧ s'.size ≤ value.length + 1 := by
  unfold stringStep at h
  split_ifs at h
  all_goals cases h
  · exact .inl ⟨rfl, rfl⟩
  · exact .inr ⟨rfl, trivial, Nat.le_succ _⟩
  · exact .inr ⟨rfl, trivial, by simp⟩

/-- **A character between quotes** ends the literal with what it has so far, or goes on with it and
adds one character at most. -/
lemma literalStep_cases (hs : s.InLiteral) (h : step m s c = some (s', out)) :
    (∃ value, s' = .start ∧ out = [.str value] ∧ value.length ≤ s.size) ∨
      out = [] ∧ s'.InLiteral ∧ s'.size ≤ s.size + 1 := by
  -- a character that is no digit of the escape before it is a character of the literal
  have hstring : ∀ {value : PyStr}, value.length ≤ s.size →
      stringStep value c = some (s', out) →
      (∃ value, s' = .start ∧ out = [.str value] ∧ value.length ≤ s.size) ∨
        out = [] ∧ s'.InLiteral ∧ s'.size ≤ s.size + 1 := by
    intro value hle hstep
    rcases stringStep_cases hstep with ⟨hs', hout⟩ | ⟨hout, hs', hsize⟩
    · exact .inl ⟨value, hs', hout, hle⟩
    · exact .inr ⟨hout, hs', hsize.trans (Nat.succ_le_succ hle)⟩
  cases s with
  | string value => exact hstring (Nat.le_refl _) h
  | escape value =>
      refine .inr ?_
      simp only [step, escapeStep] at h
      split at h
      · cases h
        simp [LexState.InLiteral, LexState.size]
      · split_ifs at h
        case neg =>
          obtain ⟨e, -, heq⟩ := Option.map_eq_some_iff.mp h
          cases heq
          simp [LexState.InLiteral, LexState.size]
        all_goals
          cases h
          simp [LexState.InLiteral, LexState.size]
  | octal value count acc =>
      simp only [step, octalStep] at h
      split at h
      · cases h
        exact .inr ⟨rfl, trivial, Nat.le_succ _⟩
      · obtain ⟨b, -, hb⟩ := Option.bind_eq_some_iff.mp h
        exact hstring (by simp [LexState.size]) hb
  | hex value acc =>
      simp only [step, hexStep] at h
      split at h
      · cases h
        exact .inr ⟨rfl, trivial, by cases acc <;> simp [LexState.size]⟩
      · obtain ⟨b, hbyte, hb⟩ := Option.bind_eq_some_iff.mp h
        cases acc with
        | none => cases hbyte
        | some n => exact hstring (by simp [LexState.size]) hb
  | universal value left acc =>
      obtain ⟨d, -, hd⟩ := Option.bind_eq_some_iff.mp h
      split at hd
      · obtain ⟨u, -, heq⟩ := Option.map_eq_some_iff.mp hd
        cases heq
        exact .inr ⟨rfl, trivial, by simp [LexState.size]⟩
      · cases hd
        exact .inr ⟨rfl, trivial, Nat.le_succ _⟩
  | _ => cases hs

lemma forall_mem_ite {α : Type*} {p : Prop} [Decidable p] {a b : Option α} {P : α → Prop}
    (ha : ∀ x ∈ a, P x) (hb : ∀ x ∈ b, P x) : ∀ x ∈ if p then a else b, P x := by
  split
  · exact ha
  · exact hb

/-- No literal is collected before a token starts. -/
lemma first_size (h : first c = some (s', out)) : strSize out + s'.size = 0 := by
  have hfirst : ∀ next ∈ first c, strSize next.2 + next.1.size = 0 := by
    unfold first
    repeat' refine forall_mem_ite ?_ ?_
    any_goals
      rintro _ ⟨⟩
      rfl
    intro next hnext
    obtain ⟨p, -, rfl⟩ := Option.map_eq_some_iff.mp hnext
    rfl
  exact hfirst _ h

lemma close_size {token : Token} (htoken : token.str? = none)
    (h : close token c = some (s', out)) : strSize out + s'.size = 0 := by
  obtain ⟨⟨t, rest⟩, hfirst, heq⟩ := Option.map_eq_some_iff.mp h
  cases heq
  rw [strSize_cons_of_none htoken]
  exact first_size hfirst

lemma classify_str? (macros : List PyStr) (word : PyStr) : (classify macros word).str? = none := by
  cases hclass : classify macros word with
  | str value => exact absurd hclass (classify_ne_str macros word value)
  | _ => rfl

lemma constant_str? {digits : PyStr} {token : Token} (h : constant digits = some token) :
    token.str? = none := by
  unfold constant at h
  simp only at h
  split at h
  · cases h
    rfl
  · cases h

/-- **One character adds at most one** to what is collected. -/
lemma step_size (h : step m s c = some (s', out)) : strSize out + s'.size ≤ s.size + 1 := by
  by_cases hs : s.InLiteral
  · rcases literalStep_cases hs h with ⟨value, rfl, rfl, hlength⟩ | ⟨rfl, -, hsize⟩
    · simpa using Nat.le_succ_of_le hlength
    · simpa using hsize
  -- elsewhere nothing is collected, and a token that ends there is no string
  refine Nat.le_trans (Nat.le_of_eq ?_) (Nat.zero_le _)
  cases s with
  | lineStart =>
      simp only [step] at h
      split_ifs at h
      · cases h
        rfl
      · cases h
        rfl
      · exact first_size h
  | start => exact first_size h
  | word text =>
      simp only [step] at h
      split at h
      · cases h
        rfl
      · exact close_size (classify_str? m text) h
  | number text =>
      simp only [step] at h
      split at h
      · cases h
        rfl
      · obtain ⟨token, htoken, hclose⟩ := Option.bind_eq_some_iff.mp h
        exact close_size (constant_str? htoken) hclose
  | equals =>
      simp only [step] at h
      split at h
      · cases h
        rfl
      · exact close_size rfl h
  | ampersand =>
      simp only [step] at h
      split at h
      · cases h
        rfl
      · exact close_size rfl h
  | string | escape | octal | hex | universal => exact absurd trivial hs
  | _ =>
      simp only [step] at h
      split_ifs at h
      all_goals
        cases h
        rfl

lemma Scans.size (h : Scans m s chars s' tokens) :
    strSize tokens + s'.size ≤ s.size + chars.length := by
  induction chars generalizing s tokens with
  | nil =>
      cases h
      simp
  | cons c chars ih =>
      obtain ⟨t, out, out', hstep, hrun, rfl⟩ := scans_cons_iff.mp h
      have hfirst := step_size hstep
      have hrest := ih hrun
      simp only [strSize_append, List.length_cons]
      omega

/-- The characters of a literal that stand for themselves. -/
def standsForItself (c : ℕ) : Prop :=
  c ≠ quote ∧ c ≠ newline ∧ c ≠ backslash ∧ isSurrogate c = false

lemma stringStep_self (hc : standsForItself c) :
    stringStep value c = some (.string (value ++ [c]), []) := by
  obtain ⟨hquote, hnewline, hback, hsurrogate⟩ := hc
  simp [stringStep, hquote, hnewline, hback, hsurrogate]

lemma Scans.selves (hchars : ∀ c ∈ chars, standsForItself c) :
    Scans m (.string value) chars (.string (value ++ chars)) [] := by
  induction chars generalizing value with
  | nil => simp [Scans, scan]
  | cons c chars ih =>
      rw [List.forall_mem_cons] at hchars
      refine scans_cons_iff.mpr ⟨.string (value ++ [c]), [], [], stringStep_self hchars.1, ?_, rfl⟩
      have hrest := @ih (value ++ [c]) hchars.2
      rwa [List.append_assoc] at hrest

/-- Where every character of a text adds one, each stands for itself. -/
lemma Scans.exact (h : Scans m (.string value) chars s' tokens)
    (hsize : strSize tokens + s'.size = value.length + chars.length) :
    tokens = [] ∧ s' = .string (value ++ chars) ∧ ∀ c ∈ chars, standsForItself c := by
  induction chars generalizing value tokens with
  | nil =>
      cases h
      simp
  | cons c chars ih =>
      obtain ⟨t, out, out', hstep, hrun, rfl⟩ := scans_cons_iff.mp h
      have hrest := hrun.size
      simp only [strSize_append, List.length_cons] at hsize
      simp only [step, stringStep] at hstep
      split at hstep
      · -- the literal ends, and the rest is too short
        cases hstep
        simp only [strSize_str, size_start] at hsize hrest
        omega
      · rename_i hquote
        split at hstep
        · cases hstep
        · rename_i hbreaks
          split at hstep
          · cases hstep
            simp only [strSize_nil, LexState.size] at hsize hrest
            omega
          · rename_i hback
            cases hstep
            obtain ⟨rfl, rfl, hchars⟩ := ih hrun (by simp at hsize ⊢; omega)
            simp only [not_or, Bool.not_eq_true] at hbreaks
            refine ⟨rfl, by simp, List.forall_mem_cons.mpr ⟨?_, hchars⟩⟩
            exact ⟨hquote, hbreaks.1, hback, hbreaks.2⟩

/-- A run from within a literal that gives no token stays in it. -/
lemma Scans.inLiteral (h : Scans m s chars s' []) (hs : s.InLiteral) : s'.InLiteral := by
  induction chars generalizing s with
  | nil =>
      cases h
      exact hs
  | cons c chars ih =>
      obtain ⟨t, out, out', hstep, hrun, heq⟩ := scans_cons_iff.mp h
      obtain ⟨rfl, rfl⟩ := List.append_eq_nil_iff.mp heq.symm
      rcases literalStep_cases hs hstep with ⟨value, -, hout, -⟩ | ⟨-, ht, -⟩
      · cases hout
      · exact ih hrun ht

/-- A quote ends the literal with what it has so far, or it is escaped. -/
lemma quoteStep_cases (hs : s.InLiteral) (h : step m s quote = some (s', out)) :
    (∃ value, s' = .start ∧ out = [.str value] ∧ value.length ≤ s.size ∧
      ∀ w, s = .string w → value = w) ∨ ∃ w, s' = .string w ∧ out = [] := by
  cases s with
  | string value =>
      cases h
      exact .inl ⟨value, rfl, rfl, Nat.le_refl _, fun w hw => by cases hw; rfl⟩
  | escape value =>
      cases h
      exact .inr ⟨_, rfl, rfl⟩
  | octal value count acc =>
      have hdigit : (if count < 3 then octalDigit quote else none) = none := by
        split <;> rfl
      simp only [step, octalStep, hdigit] at h
      obtain ⟨b, -, hb⟩ := Option.bind_eq_some_iff.mp h
      cases hb
      exact .inl ⟨_, rfl, rfl, by simp [LexState.size], fun w hw => by cases hw⟩
  | hex value acc =>
      have hdigit : hexDigit quote = none := rfl
      simp only [step, hexStep, hdigit] at h
      obtain ⟨b, hbyte, hb⟩ := Option.bind_eq_some_iff.mp h
      cases acc with
      | none => cases hbyte
      | some n =>
          cases hb
          exact .inl ⟨_, rfl, rfl, by simp [LexState.size], fun w hw => by cases hw⟩
  | universal value left acc => cases h
  | _ => cases hs

end Size

/-! ## Plain texts

Both directions: a plain text is read as itself, and only a plain text can be, also when more quotes
stand further on in the line.
-/

section Plain

variable {m : List PyStr} {text rest value : PyStr} {s' : LexState} {tokens : List Token}

lemma Plain.logical (h : Plain text) : CLang.logical text = text :=
  logical_eq_self (fun c hc => ⟨(h.chars c hc).2.2.2.1, (h.chars c hc).2.2.1⟩) h.trigraphs

lemma plain_of_logical (h : CLang.logical text = text) (hchars : ∀ c ∈ text, standsForItself c) :
    Plain text where
  chars c hc := by
    obtain ⟨hquote, hnewline, hback, hsurrogate⟩ := hchars c hc
    refine ⟨hquote, hnewline, ?_, hback, hsurrogate⟩
    rintro rfl
    rw [← h] at hc
    exact carriageReturn_notMem_logical text hc
  trigraphs t ht hoccurs := by
    have hlt := length_logical_lt ht hoccurs
    rw [h] at hlt
    exact lt_irrefl _ hlt

/-- **A plain text is one literal, its own.** -/
theorem literals_plain (h : Plain text) : literals text = some [text] := by
  rw [literals_eq_some_iff, h.logical]
  have hselves : ∀ c ∈ text, standsForItself c := fun c hc =>
    have hplain := h.chars c hc
    ⟨hplain.1, hplain.2.1, hplain.2.2.2.1, hplain.2.2.2.2⟩
  exact (Scans.selves hselves).append (scans_cons_iff.mpr ⟨.start, _, [], rfl, .nil, rfl⟩)

lemma literalValue_plain (h : Plain text) : literalValue text = some text := by
  simp [literalValue, literals_plain h]

/-- The run over a text and the quote after it. -/
lemma literals_run {values : List PyStr} (h : literals text = some values) :
    ∃ t out out', Scans [] (.string []) (logical text) t out ∧
      step [] t quote = some (.start, out') ∧ values.map Token.str = out ++ out' := by
  obtain ⟨t, out, out', hfirst, hsecond, heq⟩ := (literals_eq_some_iff.mp h).split
  obtain ⟨u, last, nothing, hstep, hnil, rfl⟩ := scans_cons_iff.mp hsecond
  cases hnil
  exact ⟨t, out, last, hfirst, hstep, by simpa using heq⟩

/-- A quote that leads out of a literal gives the literal, and no more than what was collected. -/
lemma quoteStep_start {s : LexState} {out : List Token}
    (h : step m s quote = some (.start, out)) :
    ∃ value, out = [.str value] ∧ value.length ≤ s.size := by
  by_cases hs : s.InLiteral
  · rcases literalStep_cases hs h with ⟨value, -, hout, hlength⟩ | ⟨-, ht, -⟩
    · exact ⟨value, hout, hlength⟩
    · cases ht
  · -- elsewhere a quote starts a literal
    cases s with
    | string | escape | octal | hex | universal => exact absurd trivial hs
    | number text =>
        obtain ⟨token, -, hclose⟩ := Option.bind_eq_some_iff.mp h
        cases hclose
    | _ => cases h

lemma literals_ne_nil {values : List PyStr} (h : literals text = some values) : values ≠ [] := by
  obtain ⟨t, out, out', -, hquote, heq⟩ := literals_run h
  obtain ⟨value, rfl, -⟩ := quoteStep_start hquote
  rintro rfl
  simp at heq

/-- A literal denotes nothing longer than its text. -/
lemma literalValue_length (h : literalValue text = some value) : value.length ≤ text.length := by
  obtain ⟨values, hvalues, rfl⟩ := Option.map_eq_some_iff.mp h
  obtain ⟨t, out, out', hscans, hquote, heq⟩ := literals_run hvalues
  obtain ⟨last, rfl, hlast⟩ := quoteStep_start hquote
  have hsize := hscans.size
  have hlogical := length_logical_le text
  have hvalue : strSize out + last.length = values.flatten.length := by
    rw [← strSize_str last, ← strSize_append, ← heq, strSize_map_str]
  simp only [size_string, List.length_nil] at hsize
  omega

/-- **The plain texts are those whose literals denote them.** -/
theorem literalValue_eq_self_iff : literalValue text = some text ↔ Plain text := by
  refine ⟨fun h => ?_, literalValue_plain⟩
  obtain ⟨values, hvalues, hflatten⟩ := Option.map_eq_some_iff.mp h
  obtain ⟨t, out, out', hscans, hquote, heq⟩ := literals_run hvalues
  obtain ⟨last, rfl, hlast⟩ := quoteStep_start hquote
  have hsize := hscans.size
  have hlogical := length_logical_le text
  have hvalue : strSize out + last.length = text.length := by
    rw [← strSize_str last, ← strSize_append, ← heq, strSize_map_str, hflatten]
  simp only [size_string, List.length_nil] at hsize
  obtain ⟨rfl, rfl, hchars⟩ := hscans.exact (by simp; omega)
  cases hquote
  have hself : logical text = text := by
    have htokens : values.map Token.str = [logical text].map Token.str := by simpa using heq
    have hinjective : Function.Injective Token.str := by
      intro a b hab
      cases hab
      rfl
    have hvalues : values = [logical text] := List.map_injective_iff.mpr hinjective htokens
    simpa [hvalues] using hflatten
  rw [hself] at hchars
  exact plain_of_logical hself hchars

/-- A line goes on with nothing that could end a literal or escape its end. -/
def EndsLine (text : PyStr) : Prop :=
  ∃ line rest, text = line ++ newline :: rest ∧ ∀ c ∈ line, c ≠ quote ∧ ordinary c = true

/-- A literal that is still open there is never closed. -/
lemma not_scans_endsLine {line : PyStr} (hline : ∀ c ∈ line, c ≠ quote ∧ ordinary c = true) :
    ¬ Scans m (.string value) (line ++ newline :: rest) s' tokens := by
  induction line generalizing value tokens with
  | nil =>
      intro h
      obtain ⟨_, _, _, hstep, -⟩ := scans_cons_iff.mp h
      cases hstep
  | cons c line ih =>
      intro h
      rw [List.forall_mem_cons] at hline
      obtain ⟨⟨hquote, hordinary⟩, hline⟩ := hline
      have hback : c ≠ backslash := by
        rintro rfl
        cases hordinary
      obtain ⟨state, out, out', hstep, hrun, -⟩ := scans_cons_iff.mp h
      simp only [step, stringStep, if_neg hquote, if_neg hback] at hstep
      split at hstep
      · cases hstep
      · cases hstep
        exact ih hline hrun

/-- **Only a plain text is read as itself**, where the line goes on without a quote. -/
theorem plain_of_lexes (hrest : EndsLine rest)
    (h : Lexes m (.string []) (text ++ quote :: rest) s' (.str text :: tokens)) : Plain text := by
  obtain ⟨line, more, rfl, hline⟩ := hrest
  obtain ⟨chars, hrelease, hscans⟩ := lexes_iff.mp h
  have hordinary : release .idle line = (.idle, line) :=
    release_ordinary fun c hc => (hline c hc).2
  have hmore : release .idle (line ++ newline :: more) =
      ((release .idle more).1, line ++ newline :: (release .idle more).2) := by
    have hnewline : Held.idle.next newline = (.idle, [newline]) := rfl
    simp [release_append, hordinary, release, hnewline]
  rw [release_quote, hmore] at hrelease
  obtain ⟨-, rfl⟩ := Prod.mk.inj hrelease
  obtain ⟨t, out, out', hfirst, hsecond, heq⟩ := hscans.split
  have hsize := hfirst.size
  have hlogical := length_logical_le text
  simp only [size_string, List.length_nil] at hsize
  -- a token before the end of the text would be too short
  have hout : out = [] := by
    by_contra hne
    obtain ⟨token, rest', rfl⟩ := List.exists_cons_of_ne_nil hne
    obtain ⟨rfl, -⟩ := List.cons.inj heq
    have hstr : strSize (.str text :: rest') = text.length + strSize rest' := by
      rw [← List.singleton_append, strSize_append, strSize_str]
    rw [hstr] at hsize
    have hexact := hfirst.exact (by rw [hstr]; simp; omega)
    exact hne hexact.1
  subst hout
  obtain ⟨u, last, more', hstep, hrun, hlast⟩ := scans_cons_iff.mp hsecond
  rw [List.nil_append, hlast] at heq
  rcases quoteStep_cases (hfirst.inLiteral trivial) hstep with
    ⟨value, -, rfl, hlength, hvalue⟩ | ⟨w, rfl, -⟩
  · obtain ⟨hstr, -⟩ := List.cons.inj heq
    cases hstr
    simp only [strSize_nil] at hsize
    obtain ⟨-, rfl, hchars⟩ := hfirst.exact (by simp; omega)
    have hself : logical text = text := (hvalue _ rfl).symm
    rw [hself] at hchars
    exact plain_of_logical hself hchars
  · exact absurd hrun (not_scans_endsLine hline)

/-- A text in the last literal of a line. -/
lemma plain_of_lexesLines {before after : PyStr} {lines : List PyStr}
    {tokens tokens' : List Token} (hbefore : Lexes m .lineStart before (.string []) tokens)
    (hafter : ∀ c ∈ after, c ≠ quote ∧ ordinary c = true)
    (h : LexesLines m ((before ++ (text ++ quote :: after)) :: lines)
      (tokens ++ .str text :: tokens')) : Plain text := by
  rw [LexesLines, List.flatMap_cons, List.append_assoc, List.append_assoc, List.append_assoc] at h
  refine plain_of_lexes ?_ (hbefore.cancel h)
  exact ⟨after, lines.flatMap (· ++ [newline]), by simp, hafter⟩

lemma plain_of_isWordChar {s : PyStr} (h : ∀ c ∈ s, PyStr.isWordChar c = true) : Plain s where
  chars c hc := by
    have hword := h c hc
    simp only [PyStr.isWordChar, PyStr.isLetter, PyStr.isDigit, PyStr.isUnderscore, PyStr.inRange,
      Bool.or_eq_true, Bool.and_eq_true, decide_eq_true_eq, beq_iff_eq, Char.reduceToNat] at hword
    simp only [isSurrogate, quote, newline, carriageReturn, backslash, Bool.and_eq_false_iff,
      decide_eq_false_iff_not, ne_eq]
    omega
  trigraphs t _ hoccurs := by
    have hmem : questionMark ∈ s := hoccurs.subset List.mem_cons_self
    have hword := h _ hmem
    cases hword

end Plain

end CLang
