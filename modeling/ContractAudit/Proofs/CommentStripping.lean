import ContractAudit.Proofs.Lexing

/-!
# When two passes remove the comments that one pass does

The second pass of `bare` is run beside the lexer, character by character. Most of the time both are
in the middle of the same thing. Where the first pass took a comment out of a line, though, a quote
that had no partner may have got one, as in `"\/**/\"`: the second pass is then inside a literal
that the lexer reads as code, until both meet again at the closing quote.
-/
namespace ContractAudit.Source

/-! ## Literals across the first pass -/

def LineScan.literal (quote : Char) (escaped : Bool) : LineScan :=
  if escaped then .escaped quote else .quoted quote

theorem dropLineComments_literal (quote : Char) (escaped : Bool) (c : Char) (rest : Text) :
    dropLineComments (.literal quote escaped) (c :: rest) =
      c :: dropLineComments
        (if !escaped && c == quote then .code
        else .literal quote (!escaped && c == '\\')) rest := by
  cases escaped with
  | true => simp [LineScan.literal, dropLineComments]
  | false =>
    by_cases hc : c = quote
    · simp [LineScan.literal, dropLineComments, hc]
    · simp [LineScan.literal, dropLineComments, hc]

theorem closesQuote_cons {quote : Char} (hq : quote ≠ '\\') (escaped : Bool) (c : Char)
    (rest : Text) :
    closesQuote quote escaped (c :: rest) =
      (c != '\n' &&
        (!escaped && c == quote || closesQuote quote (!escaped && c == '\\') rest)) := by
  by_cases hn : c = '\n'
  · simp [closesQuote, hn]
  cases escaped with
  | true => simp [closesQuote, hn]
  | false =>
    by_cases hc : c = '\\'
    · simp [closesQuote, hc, hq.symm]
    · have hc' : (c == '\\') = false := by simpa using hc
      have hn' : (c != '\n') = true := by simpa using hn
      simp [closesQuote, hn, hc, hc', hn']

theorem dropBlockComments_code_cons {c : Char} {rest : Text} (h : opensBlock c rest = false) :
    dropBlockComments .code (c :: rest) = c :: dropBlockComments .code rest := by
  simp [dropBlockComments, h]

theorem closesQuote_of_literal {quote : Char} (hq : quote ≠ '\\') (escaped : Bool) (t : Text)
    (hs : (Lexing.literal quote escaped).shields t = true) :
    closesQuote quote escaped (dropBlockComments .code t) = closesQuote quote escaped t := by
  induction t generalizing escaped with
  | nil => rfl
  | cons c rest ih =>
    obtain ⟨hb, hrest⟩ := Lexing.shields_cons hs
    have hb' : opensBlock c rest = false := by
      simpa [Lexing.step, TokenKind.isProtected] using hb
    rw [dropBlockComments_code_cons hb', closesQuote_cons hq, closesQuote_cons hq]
    cases he : !escaped && c == quote with
    | true => simp
    | false =>
      simp only [Lexing.step, he] at hrest
      rw [ih _ hrest]

theorem closesQuote_of_lineComment {quote : Char} (hq : quote ≠ '\\') (escaped : Bool) (t : Text)
    (hs : Lexing.lineComment.shields t = true) :
    closesQuote quote escaped (dropBlockComments .code t) = closesQuote quote escaped t := by
  induction t generalizing escaped with
  | nil => rfl
  | cons c rest ih =>
    obtain ⟨hb, hrest⟩ := Lexing.shields_cons hs
    by_cases hc : c = '\n'
    · simp [hc, dropBlockComments, opensBlock, closesQuote]
    · have hb' : opensBlock c rest = false := by
        simpa [Lexing.step, hc, TokenKind.isProtected] using hb
      simp only [Lexing.step, hc] at hrest
      rw [dropBlockComments_code_cons hb', closesQuote_cons hq, closesQuote_cons hq, ih _ hrest]

theorem head?_dropBlockComments {t : Text} (h : t.head? ≠ some '/') :
    (dropBlockComments .code t).head? = t.head? := by
  cases t with
  | nil => rfl
  | cons c rest =>
    have hc : c ≠ '/' := by simpa using h
    rw [dropBlockComments_code_cons (by simp [opensBlock, hc])]
    rfl

/-! ## The second pass beside the lexer -/

def Lexing.lineScan : Lexing → LineScan
  | code => .code
  | literal quote escaped => .literal quote escaped
  | lineComment => .comment
  | opening => .code
  | blockComment => .code
  | closing => .code

theorem Lexing.lineScan_of_blockComment {m : Lexing} {c : Char} {rest : Text}
    (h : (m.step c rest).1 = .blockComment) :
    m.lineScan = .code ∧ (m.step c rest).2.lineScan = .code := by
  cases m with
  | code =>
    rcases step_code_cases c rest with ⟨-, -, -, hs⟩ | ⟨-, hs⟩ | ⟨-, -, hs⟩ | ⟨-, -, -, hs⟩
    all_goals simp [hs] at h
    simp [hs, lineScan]
  | literal quote escaped => simp [step] at h
  | lineComment =>
    simp only [step] at h
    split at h <;> simp at h
  | opening => exact ⟨rfl, rfl⟩
  | blockComment =>
    refine ⟨rfl, ?_⟩
    simp only [step]
    split <;> rfl
  | closing => exact ⟨rfl, rfl⟩

/-- The second pass is inside a literal that the source does not have: its quote has a partner on
the line only without the block comments. While the lexer is inside a token of its own, the first
pass takes nothing away, and a backslash escapes the same characters on both sides. -/
structure Astray (quote : Char) (escaped : Bool) (m : Lexing) (t : Text) : Prop where
  isQuote : quote = '\x22' ∨ quote = '\x27'
  closes : closesQuote quote escaped (dropBlockComments m.blockScan t) = true
  unclosed : ∃ e, (m.lineScan ≠ .code → e = escaped) ∧ closesQuote quote e t = false

inductive Tracks (m : Lexing) (t : Text) : LineScan → Prop
  | inStep : Tracks m t m.lineScan
  | astray {quote : Char} {escaped : Bool} :
    Astray quote escaped m t → Tracks m t (.literal quote escaped)

namespace Astray

variable {quote : Char} {escaped : Bool} {m : Lexing} {c : Char} {rest : Text}

theorem ne_backslash {t : Text} (h : Astray quote escaped m t) : quote ≠ '\\' := by
  rcases h.isQuote with rfl | rfl <;> decide

theorem ne_newline (h : Astray quote escaped m (c :: rest)) (hf : m.blockScan.Fits (c :: rest))
    (hs : m.shields (c :: rest) = true) : c ≠ '\n' := by
  rintro rfl
  have hc := h.closes
  rw [Lexing.dropBlockComments_blockScan hf hs] at hc
  simp [closesQuote] at hc

theorem not_lineComment {t : Text} (hs : Lexing.lineComment.shields t = true) :
    ¬ Astray quote escaped .lineComment t := by
  intro h
  obtain ⟨e, he, ho⟩ := h.unclosed
  obtain rfl : e = escaped := he (by simp [Lexing.lineScan])
  have hc : closesQuote quote e (dropBlockComments .code t) = true := h.closes
  rw [closesQuote_of_lineComment h.ne_backslash e t hs, ho] at hc
  cases hc

theorem unclosed_rest (h : Astray quote escaped m (c :: rest)) (hn : c ≠ '\n') :
    ∃ e, (m.lineScan ≠ .code → e = escaped) ∧ (c = quote → e = true) ∧
      closesQuote quote (!e && c == '\\') rest = false := by
  obtain ⟨e, he, ho⟩ := h.unclosed
  have hn' : (c != '\n') = true := by simpa using hn
  rw [closesQuote_cons h.ne_backslash, hn', Bool.true_and, Bool.or_eq_false_iff] at ho
  refine ⟨e, he, ?_, ho.2⟩
  rintro rfl
  simpa using ho.1

theorem of_blockComment (h : Astray quote escaped m (c :: rest))
    (hf : m.blockScan.Fits (c :: rest)) (hs : m.shields (c :: rest) = true)
    (hk : (m.step c rest).1 = .blockComment) : Astray quote escaped (m.step c rest).2 rest := by
  have hn := h.ne_newline hf hs
  obtain ⟨e, -, -, ho⟩ := h.unclosed_rest hn
  have hc := h.closes
  simp only [Lexing.dropBlockComments_blockScan hf hs, hk, beq_self_eq_true, Bool.true_and,
    bne_iff_ne, ne_eq, hn, not_false_eq_true, if_true] at hc
  refine ⟨h.isQuote, hc, _, ?_, ho⟩
  intro hl
  exact absurd (Lexing.lineScan_of_blockComment hk).2 hl

theorem goes_on (h : Astray quote escaped m (c :: rest)) (hf : m.blockScan.Fits (c :: rest))
    (hs : m.shields (c :: rest) = true) (hk : (m.step c rest).1 ≠ .blockComment)
    (hne : (!escaped && c == quote) = false)
    (hu : ∃ e, ((m.step c rest).2.lineScan ≠ .code → e = (!escaped && c == '\\')) ∧
      closesQuote quote e rest = false) :
    Astray quote (!escaped && c == '\\') (m.step c rest).2 rest := by
  have hk' : ((m.step c rest).1 == .blockComment) = false := by simpa using hk
  have hc := h.closes
  rw [Lexing.dropBlockComments_blockScan hf hs, hk', Bool.false_and, if_neg (by simp),
    closesQuote_cons h.ne_backslash, hne, Bool.false_or, Bool.and_eq_true] at hc
  exact ⟨h.isQuote, hc.2, hu⟩

/-- Where the lexer reads code, it keeps the character, and the literal may end with it. A line
comment cannot begin here, for it would hold the partner of the quote in the source as well. -/
theorem step_code (h : Astray quote escaped .code (c :: rest))
    (hs : Lexing.code.shields (c :: rest) = true)
    (hk : (Lexing.code.step c rest).1 ≠ .blockComment) :
    ((Lexing.code.step c rest).1 = .code ∨ (Lexing.code.step c rest).1 = .literal) ∧
      (((!escaped && c == quote) = true ∧ (Lexing.code.step c rest).2 = .code) ∨
        ((!escaped && c == quote) = false ∧
          Astray quote (!escaped && c == '\\') (Lexing.code.step c rest).2 rest)) := by
  obtain ⟨e, -, heq, ho⟩ := h.unclosed_rest (h.ne_newline trivial hs)
  have hgo := h.goes_on trivial hs hk
  rcases Lexing.step_code_cases c rest with
    ⟨rfl, -, -, hm⟩ | ⟨-, hm⟩ | ⟨hoq, -, hm⟩ | ⟨-, -, -, hm⟩
  · have hne : '/' ≠ quote := by rcases h.isQuote with rfl | rfl <;> decide
    have ha := hgo (by simp [hne]) ⟨_, fun _ => by simp, ho⟩
    have hr := (Lexing.shields_cons hs).2
    rw [hm] at ha hr
    exact absurd ha (not_lineComment hr)
  · exact absurd (congrArg Prod.fst hm) hk
  · -- A literal of the source begins, so its quote is the other one.
    obtain ⟨hcq, hcl⟩ := opensQuote_iff.1 hoq
    have hb : (c == '\\') = false := by rcases hcq with rfl | rfl <;> rfl
    have hne : c ≠ quote := by
      rintro rfl
      simp [heq rfl, hcl] at ho
    have hne' : (!escaped && c == quote) = false := by simp [hne]
    exact ⟨.inr (by rw [hm]), .inr ⟨hne', hgo hne' ⟨_, fun _ => by simp [hb], ho⟩⟩⟩
  · refine ⟨.inl (by rw [hm]), ?_⟩
    cases hne : !escaped && c == quote with
    | true => exact .inl ⟨rfl, by rw [hm]⟩
    | false =>
      refine .inr ⟨rfl, hgo hne ⟨_, fun hl => ?_, ho⟩⟩
      simp [hm, Lexing.lineScan] at hl

theorem step_literal {quote' : Char} {escaped' : Bool}
    (h : Astray quote escaped (.literal quote' escaped') (c :: rest))
    (hs : (Lexing.literal quote' escaped').shields (c :: rest) = true) :
    (!escaped && c == quote) = false ∧
      Astray quote (!escaped && c == '\\')
        ((Lexing.literal quote' escaped').step c rest).2 rest := by
  obtain ⟨e, he, heq, ho⟩ := h.unclosed_rest (h.ne_newline trivial hs)
  obtain rfl : e = escaped := he (by cases escaped' <;> simp [Lexing.lineScan, LineScan.literal])
  have hne : (!e && c == quote) = false := by
    by_cases hcq : c = quote
    · simp [heq hcq]
    · simp [hcq]
  exact ⟨hne, h.goes_on trivial hs (by simp [Lexing.step]) hne ⟨_, fun _ => rfl, ho⟩⟩

end Astray

/-- With the next character the second pass does what the lexer does, and stands beside it again. -/
def Advances (s : LineScan) (m : Lexing) (c : Char) (rest : Text) : Prop :=
  ∃ s', Tracks (m.step c rest).2 rest s' ∧
    dropLineComments s (dropBlockComments m.blockScan (c :: rest)) =
      if (m.step c rest).1.keeps c then
        c :: dropLineComments s' (dropBlockComments (m.step c rest).2.blockScan rest)
      else dropLineComments s' (dropBlockComments (m.step c rest).2.blockScan rest)

section Advances

variable {m : Lexing} {c : Char} {rest : Text}

theorem advances_blockComment (hf : m.blockScan.Fits (c :: rest))
    (hs : m.shields (c :: rest) = true) (hk : (m.step c rest).1 = .blockComment) :
    Advances m.lineScan m c rest := by
  obtain ⟨hl, hl'⟩ := Lexing.lineScan_of_blockComment hk
  refine ⟨_, .inStep, ?_⟩
  rw [Lexing.dropBlockComments_blockScan hf hs, hk, hl, hl']
  by_cases hn : c = '\n'
  · simp [hn, TokenKind.keeps, dropLineComments, opensQuote]
  · simp [hn, TokenKind.keeps]

theorem advances_code (hs : Lexing.code.shields (c :: rest) = true) :
    Advances .code .code c rest := by
  have hr := (Lexing.shields_cons hs).2
  rcases Lexing.step_code_cases c rest with
    ⟨rfl, hh, hb, hm⟩ | ⟨-, hm⟩ | ⟨hoq, hb, hm⟩ | ⟨hl, hb, hoq, hm⟩
  · -- The second slash is inside the comment, so the first pass leaves it where it is.
    have hh' : (dropBlockComments .code rest).head? = some '/' := by
      rw [hm] at hr
      cases rest with
      | nil => simp at hh
      | cons d r =>
        obtain rfl : d = '/' := by simpa using hh
        have hb' : opensBlock '/' r = false := by
          simpa [Lexing.step, TokenKind.isProtected] using (Lexing.shields_cons hr).1
        rw [dropBlockComments_code_cons hb']
        rfl
    refine ⟨_, .inStep, ?_⟩
    simp [Lexing.blockScan, Lexing.lineScan, hm, dropBlockComments_code_cons hb, dropLineComments,
      hh', TokenKind.keeps]
  · exact advances_blockComment trivial hs (by rw [hm])
  · -- The literal that begins here ends where it did.
    obtain ⟨hq, hcl⟩ := opensQuote_iff.1 hoq
    have hne : c ≠ '\\' ∧ c ≠ '/' := by rcases hq with rfl | rfl <;> decide
    rw [hm] at hr
    have hoq' : opensQuote c (dropBlockComments .code rest) = true :=
      opensQuote_iff.2 ⟨hq, (closesQuote_of_literal hne.1 false rest hr).trans hcl⟩
    refine ⟨_, .inStep, ?_⟩
    simp [Lexing.blockScan, Lexing.lineScan, LineScan.literal, hm, dropBlockComments_code_cons hb,
      dropLineComments, hne.2, hoq', TokenKind.keeps]
  · have hl' : ¬ (c = '/' ∧ (dropBlockComments .code rest).head? = some '/') := by
      rintro ⟨hc, hh⟩
      have hh' : rest.head? ≠ some '/' := fun h => hl ⟨hc, h⟩
      rw [head?_dropBlockComments hh'] at hh
      exact hh' hh
    have hl'' : (c == '/' && (dropBlockComments .code rest).head? == some '/') = false := by
      simpa using hl'
    cases ho : opensQuote c (dropBlockComments .code rest) with
    | true =>
      -- The quote has got a partner that it does not have in the source.
      obtain ⟨hq, hcl⟩ := opensQuote_iff.1 ho
      have hu : closesQuote c false rest = false := by
        cases hcl' : closesQuote c false rest with
        | true => simp [opensQuote_iff.2 ⟨hq, hcl'⟩] at hoq
        | false => rfl
      refine ⟨.literal c false, .astray ⟨hq, ?_, false, fun _ => rfl, hu⟩, ?_⟩
      · simpa [hm, Lexing.blockScan] using hcl
      · simp [Lexing.blockScan, LineScan.literal, hm, dropBlockComments_code_cons hb,
          dropLineComments, hl'', ho, TokenKind.keeps]
    | false =>
      refine ⟨_, .inStep, ?_⟩
      simp [Lexing.blockScan, Lexing.lineScan, hm, dropBlockComments_code_cons hb,
        dropLineComments, hl'', ho, TokenKind.keeps]

theorem advances_literal {quote : Char} {escaped : Bool}
    (hs : (Lexing.literal quote escaped).shields (c :: rest) = true) :
    Advances (.literal quote escaped) (.literal quote escaped) c rest := by
  refine ⟨_, .inStep, ?_⟩
  rw [Lexing.dropBlockComments_blockScan (m := .literal quote escaped) trivial hs]
  cases he : !escaped && c == quote
  all_goals
    simp [Lexing.step, Lexing.lineScan, dropLineComments_literal, he, TokenKind.keeps]

theorem advances_lineComment (hs : Lexing.lineComment.shields (c :: rest) = true) :
    Advances .comment .lineComment c rest := by
  refine ⟨_, .inStep, ?_⟩
  rw [Lexing.dropBlockComments_blockScan (m := .lineComment) trivial hs]
  by_cases hn : c = '\n'
  · simp [hn, Lexing.step, Lexing.lineScan, dropLineComments, TokenKind.keeps]
  · simp [hn, Lexing.step, Lexing.lineScan, dropLineComments, TokenKind.keeps]

theorem Astray.advances_kept {quote : Char} {escaped : Bool} (hf : m.blockScan.Fits (c :: rest))
    (hs : m.shields (c :: rest) = true)
    (hk : (m.step c rest).1 = .code ∨ (m.step c rest).1 = .literal)
    (h : ((!escaped && c == quote) = true ∧ (m.step c rest).2 = .code) ∨
      ((!escaped && c == quote) = false ∧
        Astray quote (!escaped && c == '\\') (m.step c rest).2 rest)) :
    Advances (.literal quote escaped) m c rest := by
  have hstep : dropBlockComments m.blockScan (c :: rest) =
      c :: dropBlockComments (m.step c rest).2.blockScan rest := by
    rw [Lexing.dropBlockComments_blockScan hf hs]
    rcases hk with hk | hk <;> simp [hk]
  have hkeeps : (m.step c rest).1.keeps c = true := by
    rcases hk with hk | hk <;> simp [hk, TokenKind.keeps]
  rcases h with ⟨he, hc⟩ | ⟨he, h'⟩
  · refine ⟨_, .inStep, ?_⟩
    simp [hstep, hkeeps, hc, dropLineComments_literal, he, Lexing.lineScan]
  · refine ⟨_, .astray h', ?_⟩
    simp [hstep, hkeeps, dropLineComments_literal, he]

theorem Astray.advances {quote : Char} {escaped : Bool} (h : Astray quote escaped m (c :: rest))
    (hf : m.blockScan.Fits (c :: rest)) (hs : m.shields (c :: rest) = true) :
    Advances (.literal quote escaped) m c rest := by
  by_cases hk : (m.step c rest).1 = .blockComment
  · refine ⟨_, .astray (h.of_blockComment hf hs hk), ?_⟩
    simp [Lexing.dropBlockComments_blockScan hf hs, hk, h.ne_newline hf hs, TokenKind.keeps]
  cases m with
  | code =>
    obtain ⟨hk', h'⟩ := h.step_code hs hk
    exact Astray.advances_kept hf hs hk' h'
  | literal quote' escaped' =>
    exact Astray.advances_kept hf hs (.inr rfl) (.inr (h.step_literal hs))
  | lineComment => exact absurd h (Astray.not_lineComment hs)
  | opening => exact absurd rfl hk
  | blockComment => exact absurd rfl hk
  | closing => exact absurd rfl hk

end Advances

namespace Tracks

variable {m : Lexing} {c : Char} {rest : Text} {s : LineScan}

theorem advances (h : Tracks m (c :: rest) s) (hf : m.blockScan.Fits (c :: rest))
    (hs : m.shields (c :: rest) = true) : Advances s m c rest := by
  cases h with
  | astray h => exact h.advances hf hs
  | inStep =>
    cases m with
    | code => exact advances_code hs
    | literal quote escaped => exact advances_literal hs
    | lineComment => exact advances_lineComment hs
    | opening => exact advances_blockComment hf hs rfl
    | blockComment => exact advances_blockComment hf hs rfl
    | closing => exact advances_blockComment hf hs rfl

theorem dropLineComments_eq_kept {t : Text} (h : Tracks m t s) (hf : m.blockScan.Fits t)
    (hs : m.shields t = true) :
    dropLineComments s (dropBlockComments m.blockScan t) = m.kept t := by
  induction t generalizing m s with
  | nil =>
    simp [dropBlockComments, dropLineComments, Lexing.kept]
  | cons c rest ih =>
    obtain ⟨s', h', hstep⟩ := h.advances hf hs
    rw [hstep, ih h' (Lexing.fits_step hs) (Lexing.shields_cons hs).2]
    rfl

end Tracks

/-- The first pass erases exactly the block comments that the lexer finds just when no block comment
opens inside a literal or a line comment, and then the two passes give what the lexer gives. -/
theorem bare_eq_lexed (code : Text) :
    dropBlockComments .code code = erase (BlockScan.code.marks code) code ∧
      (Shielded code ↔
        BlockScan.code.marks code = (Lexing.code.kinds code).map (· == .blockComment)) ∧
      (Shielded code → bare code = lexed code) := by
  refine ⟨dropBlockComments_eq_erase .code code trivial, ?_, ?_⟩
  · exact (Lexing.code.marks_eq_kinds_iff code).symm
  · intro hs
    exact Tracks.dropLineComments_eq_kept (m := .code) .inStep trivial hs

/-- Here the second pass goes astray: the first quote has a partner only without the comment. -/
theorem bare_eq_lexed_astray :
    Shielded "\"\\/*x*/\\\" //y\nz".toList ∧
      bare "\"\\/*x*/\\\" //y\nz".toList = lexed "\"\\/*x*/\\\" //y\nz".toList := by
  have hs : Shielded "\"\\/*x*/\\\" //y\nz".toList := by decide
  exact ⟨hs, (bare_eq_lexed _).2.2 hs⟩

/-- Between two literals, code is lost. -/
example :
    ¬ Shielded "a = \"/*\"; kill(); b = \"*/\";".toList ∧
      bare "a = \"/*\"; kill(); b = \"*/\";".toList = "a = \"\";".toList ∧
      lexed "a = \"/*\"; kill(); b = \"*/\";".toList =
        "a = \"/*\"; kill(); b = \"*/\";".toList := by
  decide

end ContractAudit.Source
