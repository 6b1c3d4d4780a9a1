import ContractAudit.Source.Comment

/-!
# Slash comments as a lexer sees them

`lexed` reads a source once from left to right and gives every character to a token: code, a string
literal, a line comment or a block comment. `bare` makes two passes instead, and its first pass
looks for block comments wherever they stand. It takes exactly the lexer's block comments just when
no block comment opens inside a literal or a line comment.
-/
namespace ContractAudit.Source

/-! ## The lexer -/

inductive Lexing where
  | code
  | literal (quote : Char) (escaped : Bool)
  | lineComment
  | opening
  | blockComment
  | closing
deriving DecidableEq

inductive TokenKind where
  | code
  | literal
  | lineComment
  | blockComment
deriving DecidableEq

namespace TokenKind

def keeps : TokenKind → Char → Bool
  | code, _ => true
  | literal, _ => true
  | lineComment, _ => false
  | blockComment, c => c == '\n'

def isProtected : TokenKind → Bool
  | literal => true
  | lineComment => true
  | _ => false

end TokenKind

namespace Lexing

def step : Lexing → Char → Text → TokenKind × Lexing
  | code, c, rest =>
    if c == '/' && rest.head? == some '/' then (.lineComment, lineComment)
    else if opensBlock c rest then (.blockComment, opening)
    else if opensQuote c rest then (.literal, literal c false)
    else (.code, code)
  | literal quote escaped, c, _ =>
    (.literal, if !escaped && c == quote then code else literal quote (!escaped && c == '\\'))
  | lineComment, c, _ => if c = '\n' then (.code, code) else (.lineComment, lineComment)
  | opening, _, _ => (.blockComment, blockComment)
  | blockComment, c, rest =>
    (.blockComment, if c == '*' && rest.head? == some '/' then closing else blockComment)
  | closing, _, _ => (.blockComment, code)

def kinds : Lexing → Text → List TokenKind
  | _, [] => []
  | m, c :: rest => (m.step c rest).1 :: (m.step c rest).2.kinds rest

def kept : Lexing → Text → Text
  | _, [] => []
  | m, c :: rest =>
    if (m.step c rest).1.keeps c then c :: (m.step c rest).2.kept rest
    else (m.step c rest).2.kept rest

/-- No block comment opens inside a literal or a line comment. -/
def shields : Lexing → Text → Bool
  | _, [] => true
  | m, c :: rest =>
    !((m.step c rest).1.isProtected && opensBlock c rest) && (m.step c rest).2.shields rest

end Lexing

/-- The source without its slash comments, read in one pass. -/
def lexed (code : Text) : Text :=
  Lexing.code.kept code

def Shielded (code : Text) : Prop :=
  Lexing.code.shields code = true

instance (code : Text) : Decidable (Shielded code) :=
  inferInstanceAs (Decidable (_ = true))

theorem opensBlock_cons {c : Char} {rest : Text} (h : opensBlock c rest = true) :
    c = '/' ∧ rest.head? = some '*' := by
  simp only [opensBlock, Bool.and_eq_true, beq_iff_eq] at h
  exact h.1

theorem opensQuote_iff {c : Char} {rest : Text} :
    opensQuote c rest = true ↔ (c = '\x22' ∨ c = '\x27') ∧ closesQuote c false rest = true := by
  simp [opensQuote]

theorem Lexing.step_code_cases (c : Char) (rest : Text) :
    (c = '/' ∧ rest.head? = some '/' ∧ opensBlock c rest = false ∧
        code.step c rest = (.lineComment, lineComment)) ∨
      (opensBlock c rest = true ∧ code.step c rest = (.blockComment, opening)) ∨
      (opensQuote c rest = true ∧ opensBlock c rest = false ∧
        code.step c rest = (.literal, literal c false)) ∨
      (¬ (c = '/' ∧ rest.head? = some '/') ∧ opensBlock c rest = false ∧
        opensQuote c rest = false ∧ code.step c rest = (.code, code)) := by
  by_cases hl : c = '/' ∧ rest.head? = some '/'
  · have hb : opensBlock c rest = false := by simp [opensBlock, hl.2]
    exact .inl ⟨hl.1, hl.2, hb, by simp [step, hl]⟩
  have hl' : (c == '/' && rest.head? == some '/') = false := by simpa using hl
  by_cases hb : opensBlock c rest = true
  · exact .inr (.inl ⟨hb, by simp [step, hl', hb]⟩)
  have hb' : opensBlock c rest = false := by simpa using hb
  by_cases hq : opensQuote c rest = true
  · exact .inr (.inr (.inl ⟨hq, hb', by simp [step, hl', hb', hq]⟩))
  · have hq' : opensQuote c rest = false := by simpa using hq
    exact .inr (.inr (.inr ⟨hl, hb', hq', by simp [step, hl', hb', hq']⟩))

/-! ## The first pass -/

namespace BlockScan

def step : BlockScan → Char → Text → Bool × BlockScan
  | code, c, rest => if opensBlock c rest then (true, opening) else (false, code)
  | opening, _, _ => (true, comment)
  | comment, c, rest =>
    (true, if c == '*' && rest.head? == some '/' then closing else comment)
  | closing, _, _ => (true, code)

def marks : BlockScan → Text → List Bool
  | _, [] => []
  | b, c :: rest => (b.step c rest).1 :: (b.step c rest).2.marks rest

def Fits : BlockScan → Text → Prop
  | opening, t => t.head? = some '*'
  | closing, t => t.head? = some '/'
  | _, _ => True

theorem fits_step (b : BlockScan) (c : Char) (rest : Text) : (b.step c rest).2.Fits rest := by
  cases b with
  | code =>
    simp only [step]
    split
    · rename_i h
      exact (opensBlock_cons h).2
    · trivial
  | opening => trivial
  | comment =>
    simp only [step]
    split
    · rename_i h
      simp only [Bool.and_eq_true, beq_iff_eq] at h
      exact h.2
    · trivial
  | closing => trivial

end BlockScan

def erase : List Bool → Text → Text
  | mark :: marks, c :: rest =>
    if mark && c != '\n' then erase marks rest else c :: erase marks rest
  | _, _ => []

theorem dropBlockComments_cons (b : BlockScan) (c : Char) (rest : Text)
    (hb : b.Fits (c :: rest)) :
    dropBlockComments b (c :: rest) =
      if (b.step c rest).1 && c != '\n' then dropBlockComments (b.step c rest).2 rest
      else c :: dropBlockComments (b.step c rest).2 rest := by
  cases b with
  | code =>
    by_cases ho : opensBlock c rest = true
    · obtain ⟨rfl, -⟩ := opensBlock_cons ho
      simp [dropBlockComments, BlockScan.step, ho]
    · simp [dropBlockComments, BlockScan.step, ho]
  | opening =>
    obtain rfl : c = '*' := by simpa [BlockScan.Fits] using hb
    simp [dropBlockComments, BlockScan.step]
  | comment =>
    by_cases hc : c = '\n'
    · subst hc
      simp [dropBlockComments, BlockScan.step]
    · by_cases he : c = '*' ∧ rest.head? = some '/'
      · simp [dropBlockComments, BlockScan.step, he]
      · have he' : (c == '*' && rest.head? == some '/') = false := by simpa using he
        simp [dropBlockComments, BlockScan.step, hc, he']
  | closing =>
    obtain rfl : c = '/' := by simpa [BlockScan.Fits] using hb
    simp [dropBlockComments, BlockScan.step]

theorem dropBlockComments_eq_erase (b : BlockScan) (t : Text) (hb : b.Fits t) :
    dropBlockComments b t = erase (b.marks t) t := by
  induction t generalizing b with
  | nil => cases b <;> rfl
  | cons c rest ih =>
    rw [dropBlockComments_cons b c rest hb, ih _ (b.fits_step c rest)]
    rfl

namespace Lexing

/-- Where the first pass stands when it agrees with the lexer. -/
def blockScan : Lexing → BlockScan
  | opening => .opening
  | blockComment => .comment
  | closing => .closing
  | _ => .code

theorem blockScan_step (m : Lexing) (c : Char) (rest : Text)
    (hs : ((m.step c rest).1.isProtected && opensBlock c rest) = false) :
    m.blockScan.step c rest =
      ((m.step c rest).1 == .blockComment, (m.step c rest).2.blockScan) := by
  cases m with
  | code =>
    rcases step_code_cases c rest with ⟨-, -, hb, h⟩ | ⟨hb, h⟩ | ⟨-, hb, h⟩ | ⟨-, hb, -, h⟩
    all_goals simp [blockScan, BlockScan.step, h, hb]
  | literal quote escaped =>
    have hb : opensBlock c rest = false := by simpa [step, TokenKind.isProtected] using hs
    cases he : !escaped && c == quote <;> simp [blockScan, BlockScan.step, step, hb, he]
  | lineComment =>
    by_cases hc : c = '\n'
    · simp [blockScan, BlockScan.step, step, hc, opensBlock]
    · have hb : opensBlock c rest = false := by simpa [step, hc, TokenKind.isProtected] using hs
      simp [blockScan, BlockScan.step, step, hc, hb]
  | opening => rfl
  | blockComment =>
    simp only [blockScan, BlockScan.step, step]
    split <;> rfl
  | closing => rfl

/-- Where it is not, the first pass takes for a comment what the lexer gives to another token. -/
theorem blockScan_step_of_not_shielded (m : Lexing) (c : Char) (rest : Text)
    (hs : ((m.step c rest).1.isProtected && opensBlock c rest) = true) :
    (m.blockScan.step c rest).1 ≠ ((m.step c rest).1 == .blockComment) := by
  obtain ⟨hp, hb⟩ := Bool.and_eq_true_iff.1 hs
  cases m with
  | code =>
    rcases step_code_cases c rest with ⟨-, -, hn, -⟩ | ⟨-, h⟩ | ⟨-, hn, -⟩ | ⟨-, hn, -⟩
    · simp [hb] at hn
    · simp [h, TokenKind.isProtected] at hp
    · simp [hb] at hn
    · simp [hb] at hn
  | literal quote escaped => simp [blockScan, BlockScan.step, step, hb]
  | lineComment =>
    have hc : c ≠ '\n' := by
      rintro rfl
      simp [opensBlock] at hb
    simp [blockScan, BlockScan.step, step, hb, hc]
  | opening => simp [step, TokenKind.isProtected] at hp
  | blockComment => simp [step, TokenKind.isProtected] at hp
  | closing => simp [step, TokenKind.isProtected] at hp

/-- The first pass marks the lexer's block comments just when the lexer is shielded. -/
theorem marks_eq_kinds_iff (m : Lexing) (t : Text) :
    m.blockScan.marks t = (m.kinds t).map (· == .blockComment) ↔ m.shields t = true := by
  induction t generalizing m with
  | nil => simp [BlockScan.marks, kinds, shields]
  | cons c rest ih =>
    simp only [BlockScan.marks, kinds, shields, List.map_cons, List.cons.injEq,
      Bool.and_eq_true, Bool.not_eq_true']
    cases hs : (m.step c rest).1.isProtected && opensBlock c rest with
    | false =>
      rw [m.blockScan_step c rest hs, ← ih (m.step c rest).2]
      simp
    | true => simp [m.blockScan_step_of_not_shielded c rest hs]

theorem shields_cons {m : Lexing} {c : Char} {rest : Text} (h : m.shields (c :: rest) = true) :
    ((m.step c rest).1.isProtected && opensBlock c rest) = false ∧
      (m.step c rest).2.shields rest = true := by
  simpa only [shields, Bool.and_eq_true, Bool.not_eq_true'] using h

theorem dropBlockComments_blockScan {m : Lexing} {c : Char} {rest : Text}
    (hf : m.blockScan.Fits (c :: rest)) (hs : m.shields (c :: rest) = true) :
    dropBlockComments m.blockScan (c :: rest) =
      if (m.step c rest).1 == .blockComment && c != '\n' then
        dropBlockComments (m.step c rest).2.blockScan rest
      else c :: dropBlockComments (m.step c rest).2.blockScan rest := by
  rw [dropBlockComments_cons _ c rest hf, m.blockScan_step c rest (shields_cons hs).1]

theorem fits_step {m : Lexing} {c : Char} {rest : Text} (hs : m.shields (c :: rest) = true) :
    (m.step c rest).2.blockScan.Fits rest := by
  have h := m.blockScan.fits_step c rest
  rwa [m.blockScan_step c rest (shields_cons hs).1] at h

end Lexing

end ContractAudit.Source
