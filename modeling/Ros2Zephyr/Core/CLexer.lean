import Ros2Zephyr.Core.CText

/-!
# The words of a C file

The lexical part of a fragment of C, as an automaton that reads one character after the other and
hands out tokens.  It reads the characters that are left after the first phases of translation.

* String literals are read as the standard has it: a quote ends them, the end of a line may not
  stand in them, and a backslash starts an escape, which is a simple, an octal, a hexadecimal or a
  universal one.
* A function-like macro is not expanded: its name is a token of its own.
* `Scans` is a run of the automaton over characters, `Lexes` one over a piece of the text of a file;
  `Lexes.append` puts two pieces together, so that a text is read piece by piece.
-/

namespace CLang

/-- The keywords with a meaning in the fragment; the others only may not name anything. -/
inductive Keyword
  | branch
  | ret
  | size
  | void
  | const
  | struct
  | typedef
  | other (word : PyStr)
  deriving DecidableEq

inductive Punct
  | lparen
  | rparen
  | lbrace
  | rbrace
  | semicolon
  | comma
  | dot
  | star
  | arrow
  | assign
  | equal
  | notEqual
  | amp
  | conj
  | disj
  deriving DecidableEq

inductive Token
  | ident (name : PyStr)
  | keyword (keyword : Keyword)
  | invocation (name : PyStr)
  | number (value : ℕ)
  | str (value : PyStr)
  | punct (punct : Punct)
  | directive (text : PyStr)
  deriving DecidableEq

section Classes

def isSpace (c : ℕ) : Bool :=
  c == ' '.toNat || c == 9 || c == newline || c == 11 || c == 12 || c == carriageReturn

def isSurrogate (c : ℕ) : Bool := decide (0xD800 ≤ c) && decide (c ≤ 0xDFFF)

def isWordStart (c : ℕ) : Bool := PyStr.isLetter c || PyStr.isUnderscore c

def keywords : List PyStr :=
  ["auto", "break", "case", "char", "const", "continue", "default", "do", "double", "else", "enum",
    "extern", "float", "for", "goto", "if", "inline", "int", "long", "register", "restrict",
    "return", "short", "signed", "sizeof", "static", "struct", "switch", "typedef", "union",
    "unsigned", "void", "volatile", "while", "_Alignas", "_Alignof", "_Atomic", "_Bool", "_Complex",
    "_Generic", "_Imaginary", "_Noreturn", "_Static_assert", "_Thread_local"]

/-- The token of a word. -/
def classify (macros : List PyStr) (word : PyStr) : Token :=
  if word ∈ keywords then
    .keyword <|
      if word = "if" then .branch
      else if word = "return" then .ret
      else if word = "sizeof" then .size
      else if word = "void" then .void
      else if word = "const" then .const
      else if word = "struct" then .struct
      else if word = "typedef" then .typedef
      else .other word
  else if word ∈ macros then .invocation word
  else .ident word

def Keyword.text : Keyword → PyStr
  | branch => "if"
  | ret => "return"
  | size => "sizeof"
  | void => "void"
  | const => "const"
  | struct => "struct"
  | typedef => "typedef"
  | other word => word

/-- The text of a word, whatever it is a word for. -/
def Token.word? : Token → Option PyStr
  | ident name => some name
  | keyword k => some k.text
  | invocation name => some name
  | _ => none

lemma word?_classify (macros : List PyStr) (word : PyStr) :
    (classify macros word).word? = some word := by
  unfold classify
  split
  · split_ifs
    all_goals simp [Token.word?, Keyword.text, *]
  · split
    · rfl
    · rfl

/-- A decimal constant, with or without the suffix `U`; a leading zero would make it octal. -/
def constant (digits : PyStr) : Option Token :=
  let body := digits.takeWhile PyStr.isDigit
  let suffix := digits.dropWhile PyStr.isDigit
  if (suffix = [] ∨ suffix = "U") ∧ (body.length = 1 ∨ body.head? ≠ some '0'.toNat)
  then some (.number (PyStr.decimal body))
  else none

def punct (c : ℕ) : Option Punct :=
  if c = '('.toNat then some .lparen
  else if c = ')'.toNat then some .rparen
  else if c = leftBrace then some .lbrace
  else if c = rightBrace then some .rbrace
  else if c = ';'.toNat then some .semicolon
  else if c = ','.toNat then some .comma
  else if c = '.'.toNat then some .dot
  else if c = '*'.toNat then some .star
  else none

def simpleEscape (c : ℕ) : Option ℕ :=
  if c = quote then some quote
  else if c = backslash then some backslash
  else if c = questionMark then some questionMark
  else if c = 39 then some 39
  else if c = 'a'.toNat then some 7
  else if c = 'b'.toNat then some 8
  else if c = 't'.toNat then some 9
  else if c = 'n'.toNat then some newline
  else if c = 'v'.toNat then some 11
  else if c = 'f'.toNat then some 12
  else if c = 'r'.toNat then some carriageReturn
  else none

def octalDigit (c : ℕ) : Option ℕ :=
  if PyStr.inRange '0' '7' c then some (c - '0'.toNat) else none

def hexDigit (c : ℕ) : Option ℕ :=
  if PyStr.isDigit c then some (c - '0'.toNat)
  else if PyStr.inRange 'a' 'f' c then some (c - 'a'.toNat + 10)
  else if PyStr.inRange 'A' 'F' c then some (c - 'A'.toNat + 10)
  else none

/-- What an octal or a hexadecimal escape stands for.  From 128 on that is a byte and not a
character of its own; it is put among the surrogates, where no character is. -/
def escapedByte (n : ℕ) : Option ℕ :=
  if n < 128 then some n else if n < 256 then some (0xDC00 + n) else none

/-- What a universal escape stands for; the basic characters may not be written like this. -/
def universalChar (n : ℕ) : Option ℕ :=
  if (0xA0 ≤ n ∨ n = '$'.toNat ∨ n = '@'.toNat ∨ n = 96) ∧ isSurrogate n = false ∧ n ≤ 0x10FFFF
  then some n
  else none

end Classes

/-- Where the automaton is. -/
inductive LexState
  | lineStart
  | start
  | word (text : PyStr)
  | number (text : PyStr)
  | string (value : PyStr)
  | escape (value : PyStr)
  | octal (value : PyStr) (count acc : ℕ)
  | hex (value : PyStr) (acc : Option ℕ)
  | universal (value : PyStr) (left acc : ℕ)
  | minus
  | equals
  | bang
  | ampersand
  | bar
  | slash
  | lineComment
  | blockComment
  | blockStar
  | directive (text : PyStr)
  deriving DecidableEq

section Step

variable (macros : List PyStr)

/-- The first character of a token. -/
def first (c : ℕ) : Option (LexState × List Token) :=
  if c = newline then some (.lineStart, [])
  else if isSpace c then some (.start, [])
  else if isWordStart c then some (.word [c], [])
  else if PyStr.isDigit c then some (.number [c], [])
  else if c = quote then some (.string [], [])
  else if c = '-'.toNat then some (.minus, [])
  else if c = '='.toNat then some (.equals, [])
  else if c = '!'.toNat then some (.bang, [])
  else if c = '&'.toNat then some (.ampersand, [])
  else if c = '|'.toNat then some (.bar, [])
  else if c = '/'.toNat then some (.slash, [])
  else (punct c).map fun p => (.start, [.punct p])

/-- A token ends before `c`. -/
def close (token : Token) (c : ℕ) : Option (LexState × List Token) :=
  (first c).map fun next => (next.1, token :: next.2)

/-- One character inside a string literal. -/
def stringStep (value : PyStr) (c : ℕ) : Option (LexState × List Token) :=
  if c = quote then some (.start, [.str value])
  else if c = newline ∨ isSurrogate c then none
  else if c = backslash then some (.escape value, [])
  else some (.string (value ++ [c]), [])

/-- One character after a backslash. -/
def escapeStep (value : PyStr) (c : ℕ) : Option (LexState × List Token) :=
  match octalDigit c with
  | some d => some (.octal value 1 d, [])
  | none =>
      if c = 'x'.toNat then some (.hex value none, [])
      else if c = 'u'.toNat then some (.universal value 4 0, [])
      else if c = 'U'.toNat then some (.universal value 8 0, [])
      else (simpleEscape c).map fun e => (.string (value ++ [e]), [])

/-- One character after the digits of an octal escape, which has at most three. -/
def octalStep (value : PyStr) (count acc c : ℕ) : Option (LexState × List Token) :=
  match if count < 3 then octalDigit c else none with
  | some d => some (.octal value (count + 1) (8 * acc + d), [])
  | none => (escapedByte acc).bind fun b => stringStep (value ++ [b]) c

/-- One character after the digits of a hexadecimal escape, which has at least one. -/
def hexStep (value : PyStr) (acc : Option ℕ) (c : ℕ) : Option (LexState × List Token) :=
  match hexDigit c with
  | some d => some (.hex value (some (16 * acc.getD 0 + d)), [])
  | none => (acc.bind escapedByte).bind fun b => stringStep (value ++ [b]) c

/-- One of the digits of a universal escape; `left` of them are to come. -/
def universalStep (value : PyStr) (left acc c : ℕ) : Option (LexState × List Token) :=
  (hexDigit c).bind fun d =>
    if left = 1 then (universalChar (16 * acc + d)).map fun u => (.string (value ++ [u]), [])
    else some (.universal value (left - 1) (16 * acc + d), [])

/-- One character. -/
def step : LexState → ℕ → Option (LexState × List Token)
  | .lineStart, c =>
      if c ≠ newline ∧ isSpace c then some (.lineStart, [])
      else if c = '#'.toNat then some (.directive [], [])
      else first c
  | .start, c => first c
  | .word text, c =>
      if PyStr.isWordChar c then some (.word (text ++ [c]), []) else close (classify macros text) c
  | .number text, c =>
      if PyStr.isWordChar c ∨ c = '.'.toNat then some (.number (text ++ [c]), [])
      else (constant text).bind fun token => close token c
  | .string value, c => stringStep value c
  | .escape value, c => escapeStep value c
  | .octal value count acc, c => octalStep value count acc c
  | .hex value acc, c => hexStep value acc c
  | .universal value left acc, c => universalStep value left acc c
  | .minus, c => if c = '>'.toNat then some (.start, [.punct .arrow]) else none
  | .equals, c =>
      if c = '='.toNat then some (.start, [.punct .equal]) else close (.punct .assign) c
  | .bang, c => if c = '='.toNat then some (.start, [.punct .notEqual]) else none
  | .ampersand, c => if c = '&'.toNat then some (.start, [.punct .conj]) else close (.punct .amp) c
  | .bar, c => if c = '|'.toNat then some (.start, [.punct .disj]) else none
  | .slash, c =>
      if c = '*'.toNat then some (.blockComment, [])
      else if c = '/'.toNat then some (.lineComment, [])
      else none
  | .lineComment, c => if c = newline then some (.lineStart, []) else some (.lineComment, [])
  | .blockComment, c => if c = '*'.toNat then some (.blockStar, []) else some (.blockComment, [])
  | .blockStar, c =>
      if c = '/'.toNat then some (.start, [])
      else if c = '*'.toNat then some (.blockStar, [])
      else some (.blockComment, [])
  | .directive text, c =>
      if c = newline then some (.lineStart, [.directive text])
      else some (.directive (text ++ [c]), [])

/-- The automaton over some characters. -/
def scan (s : LexState) : PyStr → Option (LexState × List Token)
  | [] => some (s, [])
  | c :: cs => do
      let (s', out) ← step macros s c
      let (s'', out') ← scan s' cs
      some (s'', out ++ out')

/-- The automaton over a piece of a file after which nothing is held back. -/
def lexFrom (held : Held) (s : LexState) : PyStr → Option (LexState × List Token)
  | [] =>
      match held with
      | ⟨false, 0, false⟩ => some (s, [])
      | _ => none
  | c :: cs => do
      let (s', out) ← scan macros s (held.next c).2
      let (s'', out') ← lexFrom (held.next c).1 s' cs
      some (s'', out ++ out')

/-- The tokens of a file, which ends with the end of a line. -/
def lex (text : PyStr) : Option (List Token) :=
  match lexFrom macros .idle .lineStart text with
  | some (.lineStart, tokens) => some tokens
  | _ => none

end Step

/-! ## Characters

What the automaton does with characters that have gone through the first phases.  A piece of text is
read as a run from state to state, so runs compose.
-/

/-- `Scans macros s chars s' tokens`: the characters lead from `s` to `s'` and give `tokens`. -/
def Scans (macros : List PyStr) (s : LexState) (chars : PyStr) (s' : LexState)
    (tokens : List Token) : Prop :=
  scan macros s chars = some (s', tokens)

section Scans

variable {macros : List PyStr} {s s' s'' : LexState} {chars chars' : PyStr}
  {tokens tokens' : List Token}

lemma Scans.nil : Scans macros s [] s [] := rfl

lemma scans_cons_iff {c : ℕ} :
    Scans macros s (c :: chars) s'' tokens ↔ ∃ s' out out', step macros s c = some (s', out) ∧
      Scans macros s' chars s'' out' ∧ tokens = out ++ out' := by
  simp only [Scans, scan, Option.bind_eq_bind, Option.bind_eq_some_iff, Prod.exists,
    Option.some.injEq, Prod.mk.injEq]
  constructor
  · rintro ⟨s', out, hstep, s₃, out', hrun, rfl, rfl⟩
    exact ⟨s', out, out', hstep, hrun, rfl⟩
  · rintro ⟨s', out, out', hstep, hrun, rfl⟩
    exact ⟨s', out, hstep, s'', out', hrun, rfl, rfl⟩

lemma Scans.append (h : Scans macros s chars s' tokens) (h' : Scans macros s' chars' s'' tokens') :
    Scans macros s (chars ++ chars') s'' (tokens ++ tokens') := by
  induction chars generalizing s tokens with
  | nil =>
      cases h
      exact h'
  | cons c chars ih =>
      obtain ⟨t, out, out', hstep, hrun, rfl⟩ := scans_cons_iff.mp h
      exact scans_cons_iff.mpr ⟨t, out, out' ++ tokens', hstep, ih hrun, by rw [List.append_assoc]⟩

/-- A run over two pieces is a run over the first and one over the second. -/
lemma Scans.split (h : Scans macros s (chars ++ chars') s'' tokens) :
    ∃ s' out out', Scans macros s chars s' out ∧ Scans macros s' chars' s'' out' ∧
      tokens = out ++ out' := by
  induction chars generalizing s tokens with
  | nil => exact ⟨s, [], tokens, .nil, h, rfl⟩
  | cons c chars ih =>
      obtain ⟨t, out, out', hstep, hrun, rfl⟩ := scans_cons_iff.mp h
      obtain ⟨u, out₁, out₂, hfirst, hsecond, rfl⟩ := ih hrun
      exact ⟨u, out ++ out₁, out₂, scans_cons_iff.mpr ⟨t, out, out₁, hstep, hfirst, rfl⟩, hsecond,
        (List.append_assoc ..).symm⟩

lemma Scans.word {t w : PyStr} (hw : ∀ c ∈ w, PyStr.isWordChar c = true) :
    Scans macros (.word t) w (.word (t ++ w)) [] := by
  induction w generalizing t with
  | nil => simp [Scans, scan]
  | cons c w ih =>
      rw [List.forall_mem_cons] at hw
      refine scans_cons_iff.mpr ⟨.word (t ++ [c]), [], [], ?_, ?_, rfl⟩
      · simp [step, hw.1]
      · simpa using ih (t := t ++ [c]) hw.2

lemma isSpace_of_isWordStart {c : ℕ} (hc : isWordStart c = true) : isSpace c = false := by
  simp only [isWordStart, PyStr.isLetter, PyStr.inRange, PyStr.isUnderscore, Bool.or_eq_true,
    Bool.and_eq_true, decide_eq_true_eq, beq_iff_eq, Char.reduceToNat] at hc
  simp only [isSpace, newline, carriageReturn, Bool.or_eq_false_iff, beq_eq_false_iff_ne,
    Char.reduceToNat]
  omega

lemma first_isWordStart {c : ℕ} (hc : isWordStart c = true) : first c = some (.word [c], []) := by
  have hspace := isSpace_of_isWordStart hc
  have hnewline : c ≠ newline := by
    rintro rfl
    cases hspace
  simp [first, hspace, hnewline, hc]

lemma Scans.number {t w : PyStr} (hw : ∀ c ∈ w, PyStr.isWordChar c = true) :
    Scans macros (.number t) w (.number (t ++ w)) [] := by
  induction w generalizing t with
  | nil => simp [Scans, scan]
  | cons c w ih =>
      rw [List.forall_mem_cons] at hw
      refine scans_cons_iff.mpr ⟨.number (t ++ [c]), [], [], ?_, ?_, rfl⟩
      · simp [step, hw.1]
      · simpa using ih (t := t ++ [c]) hw.2

end Scans

/-! ## Pieces of a file

A file is read with the first phases in front.  Between two pieces nothing may be held back: a
backslash or a question mark at the end of one could change the beginning of the next.
-/

/-- `Lexes macros s text s' tokens`: reading `text` leads from `s` to `s'`, gives `tokens` and
leaves nothing held back. -/
def Lexes (macros : List PyStr) (s : LexState) (text : PyStr) (s' : LexState)
    (tokens : List Token) : Prop :=
  lexFrom macros .idle s text = some (s', tokens)

instance (macros : List PyStr) (s : LexState) (text : PyStr) (s' : LexState) (tokens : List Token) :
    Decidable (Lexes macros s text s' tokens) :=
  inferInstanceAs (Decidable (_ = _))

section Lexes

variable {macros : List PyStr} {s s' s'' : LexState} {text text' : PyStr}
  {tokens tokens' : List Token}

/-- The two automata can be run one after the other: first the characters are released, then they
are scanned. -/
lemma lexFrom_eq_some_iff {held : Held} :
    lexFrom macros held s text = some (s', tokens) ↔
      ∃ chars, release held text = (.idle, chars) ∧ Scans macros s chars s' tokens := by
  induction text generalizing held s tokens with
  | nil =>
      unfold lexFrom
      constructor
      · intro h
        split at h
        next => exact ⟨[], rfl, h⟩
        next => cases h
      · rintro ⟨chars, heq, hscans⟩
        cases heq
        exact hscans
  | cons c text ih =>
      simp only [lexFrom, Option.bind_eq_bind, Option.bind_eq_some_iff, Prod.exists,
        Option.some.injEq, Prod.mk.injEq]
      constructor
      · rintro ⟨t, out, hscan, u, out', hrest, rfl, rfl⟩
        obtain ⟨chars, heq, hscans⟩ := ih.mp hrest
        refine ⟨(held.next c).2 ++ chars, ?_, Scans.append hscan hscans⟩
        simp [release, heq]
      · rintro ⟨chars, heq, hscans⟩
        obtain ⟨hidle, rfl⟩ := Prod.mk.inj heq
        obtain ⟨t, out, out', hfirst, hsecond, rfl⟩ := hscans.split
        exact ⟨t, out, hfirst, s', out', ih.mpr ⟨_, Prod.ext hidle rfl, hsecond⟩, rfl, rfl⟩

lemma lexes_iff :
    Lexes macros s text s' tokens ↔
      ∃ chars, release .idle text = (.idle, chars) ∧ Scans macros s chars s' tokens :=
  lexFrom_eq_some_iff

lemma Lexes.nil : Lexes macros s [] s [] := rfl

/-- **Piece by piece.**  Two pieces of text are read one after the other. -/
theorem Lexes.append (h : Lexes macros s text s' tokens) (h' : Lexes macros s' text' s'' tokens') :
    Lexes macros s (text ++ text') s'' (tokens ++ tokens') := by
  obtain ⟨chars, hrelease, hscans⟩ := lexes_iff.mp h
  obtain ⟨chars', hrelease', hscans'⟩ := lexes_iff.mp h'
  refine lexes_iff.mpr ⟨chars ++ chars', ?_, hscans.append hscans'⟩
  simp [release_append, hrelease, hrelease']

/-- What follows a piece is read from where the piece ends. -/
lemma Lexes.cancel (h : Lexes macros s text s' tokens)
    (h' : Lexes macros s (text ++ text') s'' (tokens ++ tokens')) :
    Lexes macros s' text' s'' tokens' := by
  obtain ⟨chars, hrelease, hscans⟩ := lexes_iff.mp h
  obtain ⟨all, hall, hrun⟩ := lexes_iff.mp h'
  simp only [release_append, hrelease, Prod.mk.injEq] at hall
  obtain ⟨hidle, rfl⟩ := hall
  obtain ⟨t, out, out', hfirst, hsecond, heq⟩ := hrun.split
  obtain ⟨rfl, rfl⟩ := Prod.mk.inj (Option.some.inj (hscans.symm.trans hfirst))
  rw [List.append_cancel_left_eq] at heq
  subst heq
  exact lexes_iff.mpr ⟨_, Prod.ext hidle rfl, hsecond⟩

/-- Characters that the first phases do not touch. -/
lemma Scans.lexes (h : Scans macros s text s' tokens) (hordinary : ∀ c ∈ text, ordinary c = true) :
    Lexes macros s text s' tokens :=
  lexes_iff.mpr ⟨text, release_ordinary hordinary, h⟩

lemma lexes_cons_iff {c : ℕ} (hc : ordinary c = true) :
    Lexes macros s (c :: text) s'' tokens ↔ ∃ s' out out', step macros s c = some (s', out) ∧
      Lexes macros s' text s'' out' ∧ tokens = out ++ out' := by
  have hrelease : ∀ chars, release .idle (c :: text) = (.idle, chars) ↔
      ∃ rest, release .idle text = (.idle, rest) ∧ chars = c :: rest := by
    intro chars
    simp only [release, next_idle_ordinary hc, List.singleton_append]
    constructor
    · intro heq
      obtain ⟨hidle, rfl⟩ := Prod.mk.inj heq
      exact ⟨_, Prod.ext hidle rfl, rfl⟩
    · rintro ⟨rest, heq, rfl⟩
      rw [heq]
  constructor
  · intro h
    obtain ⟨chars, hchars, hscans⟩ := lexes_iff.mp h
    obtain ⟨rest, hrest, rfl⟩ := (hrelease chars).mp hchars
    obtain ⟨t, out, out', hstep, hrun, rfl⟩ := scans_cons_iff.mp hscans
    exact ⟨t, out, out', hstep, lexes_iff.mpr ⟨rest, hrest, hrun⟩, rfl⟩
  · rintro ⟨t, out, out', hstep, hrun, rfl⟩
    obtain ⟨rest, hrest, hscans⟩ := lexes_iff.mp hrun
    exact lexes_iff.mpr ⟨c :: rest, (hrelease _).mpr ⟨rest, hrest, rfl⟩,
      scans_cons_iff.mpr ⟨t, out, out', hstep, hscans, rfl⟩⟩

lemma ordinary_of_isWordChar {c : ℕ} (hc : PyStr.isWordChar c = true) : ordinary c = true := by
  simp only [ordinary, Bool.and_eq_true, bne_iff_ne]
  refine ⟨⟨?_, ?_⟩, ?_⟩
  all_goals
    rintro rfl
    cases hc

lemma isWordChar_of_isWordStart {c : ℕ} (hc : isWordStart c = true) :
    PyStr.isWordChar c = true := by
  simp only [isWordStart, Bool.or_eq_true] at hc
  simp only [PyStr.isWordChar, Bool.or_eq_true]
  exact hc.elim (fun h => .inl (.inl h)) .inr

lemma ordinary_of_isWordStart {c : ℕ} (hc : isWordStart c = true) : ordinary c = true :=
  ordinary_of_isWordChar (isWordChar_of_isWordStart hc)

lemma Lexes.word {t w : PyStr} (hw : ∀ c ∈ w, PyStr.isWordChar c = true) :
    Lexes macros (.word t) w (.word (t ++ w)) [] :=
  (Scans.word hw).lexes fun c hc => ordinary_of_isWordChar (hw c hc)

lemma Lexes.startWord {w : PyStr} (hw : ∃ c cs, w = c :: cs ∧ isWordStart c = true ∧
    ∀ d ∈ cs, PyStr.isWordChar d = true) : Lexes macros .start w (.word w) [] := by
  obtain ⟨c, cs, rfl, hc, hcs⟩ := hw
  exact (lexes_cons_iff (ordinary_of_isWordStart hc)).mpr
    ⟨.word [c], [], [], first_isWordStart hc, Lexes.word hcs, rfl⟩

lemma Lexes.lineWord {w : PyStr} (hw : ∃ c cs, w = c :: cs ∧ isWordStart c = true ∧
    ∀ d ∈ cs, PyStr.isWordChar d = true) : Lexes macros .lineStart w (.word w) [] := by
  obtain ⟨c, cs, rfl, hc, hcs⟩ := hw
  have hordinary := ordinary_of_isWordStart hc
  refine (lexes_cons_iff hordinary).mpr ⟨.word [c], [], [], ?_, Lexes.word hcs, rfl⟩
  have hspace := isSpace_of_isWordStart hc
  have hhash : c ≠ 35 := by
    rintro rfl
    cases hc
  simp [step, hspace, hhash, first_isWordStart hc]

lemma Lexes.directive {t w : PyStr} (hw : ∀ c ∈ w, ordinary c = true ∧ c ≠ newline) :
    Lexes macros (.directive t) w (.directive (t ++ w)) [] := by
  induction w generalizing t with
  | nil => simp [Lexes, lexFrom, Held.idle]
  | cons c w ih =>
      rw [List.forall_mem_cons] at hw
      refine (lexes_cons_iff hw.1.1).mpr ⟨.directive (t ++ [c]), [], [], ?_, ?_, rfl⟩
      · simp [step, hw.1.2]
      · simpa using ih (t := t ++ [c]) hw.2

end Lexes

section Pieces

variable {macros : List PyStr} {s s' s'' : LexState} {tokens tokens' : List Token}

lemma Lexes.piece {p : PyStr} {ps : List PyStr} (h : Lexes macros s p s' tokens)
    (h' : Lexes macros s' ps.flatten s'' tokens') :
    Lexes macros s (p :: ps).flatten s'' (tokens ++ tokens') := by
  rw [List.flatten_cons]
  exact h.append h'

/-- The first character cannot stand in a word. -/
def separates : PyStr → Bool
  | [] => false
  | c :: _ => !PyStr.isWordChar c && ordinary c

/-- A word ends where the next piece starts. -/
lemma Lexes.wordEnd {w p : PyStr} (hp : separates p = true)
    (h : Lexes macros .start p s' tokens) :
    Lexes macros (.word w) p s' (classify macros w :: tokens) := by
  cases p with
  | nil => cases hp
  | cons c p =>
      simp only [separates, Bool.and_eq_true, Bool.not_eq_true'] at hp
      obtain ⟨t, out, out', hstep, hrun, rfl⟩ := (lexes_cons_iff hp.2).mp h
      refine (lexes_cons_iff hp.2).mpr ⟨t, classify macros w :: out, out', ?_, hrun, rfl⟩
      simp only [step] at hstep
      simp [step, hp.1, close, hstep]

lemma Lexes.name {w p : PyStr} (hp : separates p = true) (hw : classify macros w = .ident w)
    (h : Lexes macros .start p s' tokens) :
    Lexes macros (.word w) p s' (.ident w :: tokens) := by
  rw [← hw]
  exact h.wordEnd hp

/-- A word is a name when its beginning tells it from every keyword and every macro. -/
lemma classify_append {p x : PyStr}
    (hp : p ∉ (keywords ++ macros).map (List.take p.length)) :
    classify macros (p ++ x) = .ident (p ++ x) := by
  have hmem : p ++ x ∉ keywords ++ macros := by
    intro h
    exact hp (List.mem_map.mpr ⟨p ++ x, h, List.take_left⟩)
  rw [List.mem_append, not_or] at hmem
  rw [classify, if_neg hmem.1, if_neg hmem.2]

end Pieces

section Numbers

variable {macros : List PyStr} {s' : LexState} {tokens : List Token}

lemma isWordChar_of_isDigit {c : ℕ} (hc : PyStr.isDigit c = true) : PyStr.isWordChar c = true := by
  simp [PyStr.isWordChar, hc]

lemma first_digit {c : ℕ} (hc : PyStr.isDigit c = true) : first c = some (.number [c], []) := by
  have hrange := hc
  simp only [PyStr.isDigit, PyStr.inRange, Bool.and_eq_true, decide_eq_true_eq,
    Char.reduceToNat] at hrange
  have hstart : isWordStart c = false := by
    simp only [isWordStart, PyStr.isLetter, PyStr.inRange, PyStr.isUnderscore, Char.reduceToNat,
      Bool.or_eq_false_iff, Bool.and_eq_false_iff, decide_eq_false_iff_not, beq_eq_false_iff_ne]
    omega
  have hspace : isSpace c = false := by
    simp only [isSpace, newline, carriageReturn, Bool.or_eq_false_iff, beq_eq_false_iff_ne,
      Char.reduceToNat]
    omega
  have hnewline : c ≠ newline := by
    rintro rfl
    cases hspace
  simp [first, hnewline, hspace, hstart, hc]

lemma Scans.digits (n : ℕ) :
    Scans macros .start (PyStr.ofNat n) (.number (PyStr.ofNat n)) [] := by
  obtain ⟨c, cs, heq⟩ := List.exists_cons_of_ne_nil (PyStr.ofNat_ne_nil n)
  have hdigits : ∀ d ∈ c :: cs, PyStr.isDigit d = true := by
    rw [← heq]
    exact fun d hd => PyStr.isDigit_of_mem_ofNat hd
  rw [List.forall_mem_cons] at hdigits
  rw [heq]
  refine scans_cons_iff.mpr ⟨.number [c], [], [], first_digit hdigits.1, ?_, rfl⟩
  exact Scans.number fun d hd => isWordChar_of_isDigit (hdigits.2 d hd)

/-- An unsigned decimal constant. -/
def unsignedText (n : ℕ) : PyStr := PyStr.ofNat n ++ "U"

/-- The constant that an unsigned number is written as is that number: it has no leading zero, and
the suffix is taken off. -/
lemma constant_unsignedText (n : ℕ) : constant (unsignedText n) = some (.number n) := by
  have hdigits : ∀ c ∈ PyStr.ofNat n, PyStr.isDigit c = true :=
    fun c hc => PyStr.isDigit_of_mem_ofNat hc
  have htake : (unsignedText n).takeWhile PyStr.isDigit = PyStr.ofNat n := by
    rw [unsignedText, List.takeWhile_append_of_pos hdigits]
    exact List.append_nil _
  have hdrop : (unsignedText n).dropWhile PyStr.isDigit = "U" := by
    rw [unsignedText, List.dropWhile_append_of_pos hdigits]
    rfl
  have hhead : (PyStr.ofNat n).length = 1 ∨ (PyStr.ofNat n).head? ≠ some '0'.toNat := by
    rcases Nat.eq_zero_or_pos n with rfl | hn
    · exact .inl rfl
    · exact .inr (PyStr.head_ofNat hn)
  simp only [constant, htake, hdrop, PyStr.decimal_ofNat]
  exact if_pos ⟨.inr trivial, hhead⟩

lemma isWordChar_unsignedText {n c : ℕ} (hc : c ∈ unsignedText n) : PyStr.isWordChar c = true := by
  rcases List.mem_append.mp hc with hc | hc
  · exact isWordChar_of_isDigit (PyStr.isDigit_of_mem_ofNat hc)
  · obtain rfl : c = 'U'.toNat := List.mem_singleton.mp hc
    rfl

lemma Lexes.unsigned (n : ℕ) :
    Lexes macros .start (unsignedText n) (.number (unsignedText n)) [] :=
  ((Scans.digits n).append (Scans.number (by decide))).lexes
    fun _ hc => ordinary_of_isWordChar (isWordChar_unsignedText hc)

/-- The first character cannot stand in a number. -/
def endsNumber : PyStr → Bool
  | [] => false
  | c :: _ => !PyStr.isWordChar c && c != '.'.toNat && ordinary c

/-- A number ends where the next piece starts. -/
lemma Lexes.endUnsigned {n : ℕ} {p : PyStr} (hp : endsNumber p = true)
    (h : Lexes macros .start p s' tokens) :
    Lexes macros (.number (unsignedText n)) p s' (.number n :: tokens) := by
  cases p with
  | nil => cases hp
  | cons c p =>
      simp only [endsNumber, Bool.and_eq_true, Bool.not_eq_true', bne_iff_ne, ne_eq,
        Char.reduceToNat] at hp
      obtain ⟨t, out, out', hstep, hrun, rfl⟩ := (lexes_cons_iff hp.2).mp h
      refine (lexes_cons_iff hp.2).mpr ⟨t, .number n :: out, out', ?_, hrun, rfl⟩
      simp only [step] at hstep
      simp [step, hp.1.1, hp.1.2, constant_unsignedText, close, hstep]

end Numbers

section Lines

variable {macros : List PyStr} {lines lines' : List PyStr} {tokens tokens' : List Token}

/-- Whole lines, each with its end. -/
def LexesLines (macros : List PyStr) (lines : List PyStr) (tokens : List Token) : Prop :=
  Lexes macros .lineStart (lines.flatMap (· ++ [newline])) .lineStart tokens

instance (macros lines : List PyStr) (tokens : List Token) :
    Decidable (LexesLines macros lines tokens) :=
  inferInstanceAs (Decidable (Lexes _ _ _ _ _))

lemma LexesLines.nil : LexesLines macros [] [] := Lexes.nil

lemma LexesLines.append (h : LexesLines macros lines tokens)
    (h' : LexesLines macros lines' tokens') :
    LexesLines macros (lines ++ lines') (tokens ++ tokens') := by
  rw [LexesLines, List.flatMap_append]
  exact Lexes.append h h'

lemma LexesLines.cancel (h : LexesLines macros lines tokens)
    (h' : LexesLines macros (lines ++ lines') (tokens ++ tokens')) :
    LexesLines macros lines' tokens' := by
  rw [LexesLines, List.flatMap_append] at h'
  exact Lexes.cancel h h'

/-- A line given by its pieces, and more lines. -/
lemma LexesLines.cons {pieces : List PyStr} {all : List Token}
    (h : Lexes macros .lineStart (pieces ++ [[newline]]).flatten .lineStart tokens)
    (h' : LexesLines macros lines tokens') (hall : tokens ++ tokens' = all) :
    LexesLines macros (pieces.flatten :: lines) all := by
  rw [LexesLines, List.flatMap_cons, ← hall]
  refine Lexes.append ?_ h'
  simpa using h

lemma LexesLines.flatMap {α : Type*} {l : List α} {f : α → List PyStr} {g : α → List Token}
    (h : ∀ a ∈ l, LexesLines macros (f a) (g a)) :
    LexesLines macros (l.flatMap f) (l.flatMap g) := by
  induction l with
  | nil => exact LexesLines.nil
  | cons a l ih =>
      rw [List.forall_mem_cons] at h
      exact h.1.append (ih h.2)

lemma flatMap_newline_eq_intercalate :
    lines.flatMap (· ++ [newline]) = List.intercalate [newline] (lines ++ [[]]) := by
  induction lines with
  | nil => rfl
  | cons line lines ih =>
      have hne : lines ++ [[]] ≠ [] := by simp
      obtain ⟨first, rest, heq⟩ := List.exists_cons_of_ne_nil hne
      rw [List.flatMap_cons, ih, List.cons_append, heq]
      simp [List.intercalate]

/-- **Line by line.**  A file whose last line is ended is the tokens of its lines. -/
theorem lex_intercalate_iff :
    lex macros (List.intercalate [newline] (lines ++ [[]])) = some tokens ↔
      LexesLines macros lines tokens := by
  rw [← flatMap_newline_eq_intercalate, CLang.lex, LexesLines, Lexes]
  constructor
  · intro h
    split at h
    next heq =>
      cases h
      exact heq
    next => cases h
  · intro h
    rw [h]

end Lines

end CLang
