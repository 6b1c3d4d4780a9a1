import ContractAudit.Proofs.CommentedLines
import ContractAudit.Proofs.PragmaRanges
import Mathlib.Data.List.Infix
import Mathlib.Data.Prod.Lex

/-!
# A pragma is read back as it is written

A pragma with one version, below whole lines that neither mention a pragma nor open a block comment,
is read back as its operator and its version. Neither pass of comment removal changes it. In the
lines above, what is left of a line is the beginning of it, so no pragma can come about there; what
stands below may be anything, since the pattern is complete before it.
-/
namespace ContractAudit

/-! ## Pieces of texts -/

theorem Text.holds_iff_isInfix {piece t : Text} : Text.holds piece t = true ↔ piece <:+: t := by
  induction t with
  | nil => simp [Text.holds]
  | cons c t ih => simp [Text.holds, List.infix_cons_iff, ih]

theorem Text.trim_eq_self {t : Text} (h : ∀ c ∈ t, Text.isBlank c = false) : t.trim = t := by
  have hstart {t : Text} (h : ∀ c ∈ t, Text.isBlank c = false) : t.dropWhile Text.isBlank = t := by
    cases t with
    | nil => rfl
    | cons c t => exact List.dropWhile_cons_of_neg (by simp [h c List.mem_cons_self])
  have hend : t.reverse.dropWhile Text.isBlank = t.reverse := by
    apply hstart
    intro c hc
    exact h c (List.mem_reverse.mp hc)
  rw [Text.trim, Text.trimStart, hstart h, Text.trimEnd, hend, List.reverse_reverse]

namespace Source

open Pattern

/-! ## Text that comment removal leaves alone -/

theorem dropBlockComments_append {t : Text} (hopens : ¬ ['/', '*'] <:+: t)
    (hlast : t.getLast? ≠ some '/') (rest : Text) :
    dropBlockComments .code (t ++ rest) = t ++ dropBlockComments .code rest := by
  induction t with
  | nil => rfl
  | cons c t ih =>
    have hcode : opensBlock c (t ++ rest) = false := by
      by_contra hblock
      obtain ⟨rfl, hstar⟩ := opensBlock_cons (by simpa using hblock)
      cases t with
      | nil => exact hlast rfl
      | cons d t =>
        obtain rfl : d = '*' := by simpa using hstar
        exact hopens ⟨[], t, rfl⟩
    have htail : t.getLast? ≠ some '/' := by
      cases t with
      | nil => simp
      | cons d t => simpa [List.getLast?_cons_cons] using hlast
    rw [List.cons_append, dropBlockComments_code_cons hcode, List.cons_append,
      ih (fun h => hopens (h.trans (List.suffix_cons c t).isInfix)) htail]

def isPlain : Char → Bool :=
  except ['/', '\x22', '\x27']

theorem dropLineComments_append_plain {t : Text} (ht : ∀ c ∈ t, isPlain c = true) (rest : Text) :
    dropLineComments .code (t ++ rest) = t ++ dropLineComments .code rest := by
  induction t with
  | nil => rfl
  | cons c t ih =>
    obtain ⟨hc, ht⟩ := List.forall_mem_cons.mp ht
    obtain ⟨hslash, hdouble, hsingle⟩ : c ≠ '/' ∧ c ≠ '\x22' ∧ c ≠ '\x27' := by
      simpa [isPlain, except] using hc
    have hquote : opensQuote c (t ++ rest) = false := by simp [opensQuote, hdouble, hsingle]
    rw [List.cons_append, dropLineComments, if_neg (by simp [hslash]), hquote, List.cons_append]
    simp [ih ht]

theorem dropLineComments_code_newline (above below : Text) :
    dropLineComments .code (above ++ '\n' :: below) =
      dropLineComments .code above ++ '\n' :: dropLineComments .code below := by
  have hfits : LineScan.code.Fits above := trivial
  exact dropLineComments_append_newline hfits below

theorem dropLineComments_append_lines {t : Text} (ht : t = [] ∨ t.getLast? = some '\n')
    (rest : Text) :
    dropLineComments .code (t ++ rest) =
      dropLineComments .code t ++ dropLineComments .code rest := by
  rcases ht with rfl | ht
  · rfl
  obtain ⟨above, rfl⟩ := List.getLast?_eq_some_iff.mp ht
  rw [List.append_assoc, List.singleton_append, dropLineComments_code_newline,
    dropLineComments_code_newline]
  simp [dropLineComments]

theorem dropLineComments_cons_cases {s : LineScan} (hs : s ≠ .comment) (c : Char) (rest : Text) :
    (∃ s', s' ≠ .comment ∧ dropLineComments s (c :: rest) = c :: dropLineComments s' rest) ∨
      dropLineComments s (c :: rest) = dropLineComments .comment rest := by
  cases s with
  | code =>
    rw [dropLineComments]
    split
    · exact .inr rfl
    · refine .inl ⟨_, ?_, rfl⟩
      split <;> simp
  | quoted quote =>
    refine .inl ⟨_, ?_, rfl⟩
    split_ifs <;> simp
  | escaped quote => exact .inl ⟨.quoted quote, by simp, rfl⟩
  | comment => exact absurd rfl hs

theorem head?_dropLineComments_comment (t : Text) :
    (dropLineComments .comment t).head?.getD '\n' = '\n' := by
  induction t with
  | nil => rfl
  | cons c t ih =>
    rw [dropLineComments]
    split
    · rfl
    · exact ih

section Piece

variable {piece : Text} (hpiece : '\n' ∉ piece)
include hpiece

/-- What is left of a line is the beginning of it. -/
theorem isPrefix_of_dropLineComments {s : LineScan} (hs : s ≠ .comment) {t : Text}
    (h : piece <+: dropLineComments s t) : piece <+: t := by
  induction t generalizing piece s with
  | nil => simpa [dropLineComments] using h
  | cons c t ih =>
    cases piece with
    | nil => exact List.nil_prefix
    | cons d piece =>
      obtain ⟨hd, hpiece⟩ : '\n' ≠ d ∧ '\n' ∉ piece := by simpa using hpiece
      rcases dropLineComments_cons_cases hs c t with ⟨s', hs', hcopied⟩ | hcomment
      · rw [hcopied] at h
        obtain ⟨rfl, htail⟩ := List.cons_prefix_cons.mp h
        exact List.cons_prefix_cons.mpr ⟨rfl, ih hpiece hs' htail⟩
      · rw [hcomment] at h
        obtain ⟨more, hmore⟩ := h
        have hhead := head?_dropLineComments_comment t
        rw [← hmore] at hhead
        exact absurd hhead.symm hd

theorem isInfix_of_dropLineComments (hne : piece ≠ []) {s : LineScan} {t : Text}
    (h : piece <:+: dropLineComments s t) : piece <:+: t := by
  induction t generalizing s with
  | nil => simpa [dropLineComments] using h
  | cons c t ih =>
    have hlater {s : LineScan} (h : piece <:+: dropLineComments s t) : piece <:+: c :: t :=
      (ih h).trans (List.suffix_cons c t).isInfix
    by_cases hs : s = .comment
    · rw [hs, dropLineComments] at h
      split at h
      · rcases List.infix_cons_iff.mp h with hhere | htail
        · obtain ⟨d, piece, rfl⟩ := List.exists_cons_of_ne_nil hne
          obtain ⟨rfl, -⟩ := List.cons_prefix_cons.mp hhere
          exact absurd List.mem_cons_self hpiece
        · exact hlater htail
      · exact hlater h
    · rcases dropLineComments_cons_cases hs c t with ⟨s', -, hcopied⟩ | hcomment
      · rcases List.infix_cons_iff.mp (hcopied ▸ h) with hhere | htail
        · rw [← hcopied] at hhere
          exact (isPrefix_of_dropLineComments hpiece hs hhere).isInfix
        · exact hlater htail
      · exact hlater (hcomment ▸ h)

end Piece

/-! ## Lines above a pragma -/

/-- Whole lines that mention no pragma and open no block comment. -/
structure Preamble where
  text : Text
  lines : text = [] ∨ text.getLast? = some '\n'
  pragmaless : text.mentions "pragma" = false
  unopened : text.mentions "/*" = false

namespace Preamble

variable (p : Preamble)

theorem dropBlockComments_append (rest : Text) :
    dropBlockComments .code (p.text ++ rest) = p.text ++ dropBlockComments .code rest := by
  apply Source.dropBlockComments_append
  · intro hblock
    have hmentions : p.text.mentions "/*" = true := Text.holds_iff_isInfix.mpr hblock
    simp [p.unopened] at hmentions
  · rcases p.lines with hnil | hlast
    · simp [hnil]
    · simp [hlast]

theorem bare_eq : bare p.text = dropLineComments .code p.text := by
  have hblock := p.dropBlockComments_append []
  rw [List.append_nil] at hblock
  rw [bare, hblock]
  simp [dropBlockComments]

theorem bare_append {line : Text} (hline : ∀ c ∈ line, isPlain c = true) (rest : Text) :
    bare (p.text ++ (line ++ rest)) = bare p.text ++ (line ++ bare rest) := by
  have hslash : '/' ∉ line := fun hmem => by simpa [isPlain, except] using hline '/' hmem
  have hblock : dropBlockComments .code (line ++ rest) = line ++ dropBlockComments .code rest := by
    apply Source.dropBlockComments_append
    · intro hpart
      exact hslash (hpart.subset List.mem_cons_self)
    · intro hlast
      exact hslash (List.mem_of_getLast? hlast)
  rw [p.bare_eq, bare, p.dropBlockComments_append, hblock, dropLineComments_append_lines p.lines,
    dropLineComments_append_plain hline]
  rfl

theorem bare_lines : bare p.text = [] ∨ (bare p.text).getLast? = some '\n' := by
  rw [p.bare_eq]
  rcases p.lines with hnil | hlast
  · exact .inl (by simp [hnil, dropLineComments])
  · obtain ⟨above, habove⟩ := List.getLast?_eq_some_iff.mp hlast
    right
    rw [habove, dropLineComments_code_newline]
    simp [dropLineComments]

theorem not_infix_bare : ¬ "pragma".toList <:+: bare p.text := by
  intro h
  rw [p.bare_eq] at h
  have hpart : "pragma".toList <:+: p.text :=
    isInfix_of_dropLineComments (by decide) (by decide) h
  have hmentions : p.text.mentions "pragma" = true := Text.holds_iff_isInfix.mpr hpart
  simp [p.pragmaless] at hmentions

theorem matchHere?_eq_none {c : Char} {more : Text} (hmore : c :: more <:+ bare p.text) (t : Text)
    (before : Option Char) (offset : Nat) :
    pragmaPattern.matchHere? before (c :: (more ++ t)) offset = none := by
  rw [← Option.not_isSome_iff_eq_none, matchHere?_isSome_iff]
  rintro ⟨-, -, ⟨rest, hopening, -⟩, -⟩
  have hpragma : "pragma".toList <+: c :: more ++ t := ⟨rest, hopening.symm⟩
  rcases List.prefix_or_prefix_of_prefix hpragma (List.prefix_append _ t) with hwithin | hacross
  · exact p.not_infix_bare (hwithin.isInfix.trans hmore.isInfix)
  · -- The keyword would reach over the end of a line.
    have hlast : (c :: more).getLast? = some '\n' := by
      obtain ⟨above, habove⟩ := hmore
      rcases p.bare_lines with hnil | hlast
      · simp [← habove] at hnil
      · simpa [← habove, List.getLast?_append] using hlast
    have hnewline : '\n' ∈ "pragma".toList := hacross.subset (List.mem_of_getLast? hlast)
    exact absurd hnewline (by decide)

end Preamble

/-! ## The constraint -/

inductive Operator where
  | implicit
  | exact
  | caret
  | tilde
  | above
  | atLeast
  | below
  | atMost
deriving DecidableEq, Repr

def Operator.text : Operator → Text
  | implicit => []
  | exact => ['=']
  | caret => ['^']
  | tilde => ['~']
  | above => ['>']
  | atLeast => ['>', '=']
  | below => ['<']
  | atMost => ['<', '=']

def versionChars : List Char :=
  "0123456789.".toList

theorem mem_versionChars_of_isDigit {c : Char} (hc : c.isDigit = true) : c ∈ versionChars := by
  have hcode : c.toNat ∈ List.range' 48 10 := by
    have hlow : 48 ≤ c.toNat := (Char.isDigit_iff_toNat.mp hc).1
    have hhigh : c.toNat ≤ 57 := (Char.isDigit_iff_toNat.mp hc).2
    simp only [List.mem_range'_1]
    omega
  have hmem := List.mem_map_of_mem (f := Char.ofNat) hcode
  rw [Char.ofNat_toNat] at hmem
  exact List.mem_append_left ['.'] hmem

theorem Version.text_subset (v : Version) : v.text ⊆ versionChars := by
  have hdigits (n : Nat) : Nat.toDigits 10 n ⊆ versionChars := fun c hc =>
    mem_versionChars_of_isDigit (Nat.isDigit_of_mem_toDigits (by decide) (by decide) hc)
  have hpoint : '.' ∈ versionChars := by decide
  simp [Version.text, hdigits, hpoint]

def constraintChars : List Char :=
  "=^~<>".toList ++ versionChars

theorem constraint_subset (op : Operator) (v : Version) : op.text ++ v.text ⊆ constraintChars := by
  have hop : op.text ⊆ "=^~<>".toList := by cases op <;> decide
  apply List.append_subset.mpr
  constructor
  · exact List.subset_append_of_subset_left _ hop
  · exact List.subset_append_of_subset_right _ v.text_subset

def floatingMarks : List String :=
  ["^", ">", "<", "~", "*", "||"]

theorem isFloating_iff {constraint : Text} :
    isFloating constraint = true ↔ ∃ mark ∈ floatingMarks, mark.toList <:+: constraint := by
  simp only [isFloating, floatingMarks, List.any_eq_true, Text.mentions, Text.holds_iff_isInfix]

theorem isFloating_constraint (op : Operator) (v : Version) :
    isFloating (op.text ++ v.text) = true ↔ op ≠ .implicit ∧ op ≠ .exact := by
  rw [isFloating_iff]
  constructor
  · rintro ⟨mark, hmark, hpart⟩
    -- Every mark has a character that neither a version nor an equality sign has.
    have hforeign : floatingMarks.all (fun mark =>
        mark.toList.any fun c => !('=' :: versionChars).contains c) = true := by decide
    obtain ⟨c, hc, hforeign⟩ := List.any_eq_true.mp (List.all_eq_true.mp hforeign mark hmark)
    have hchars : c ∉ '=' :: versionChars := by simpa using hforeign
    have hmem := hpart.subset hc
    constructor
    · rintro rfl
      exact hchars (List.mem_cons_of_mem _ (v.text_subset hmem))
    · rintro rfl
      rcases List.mem_cons.mp hmem with heq | hmem
      · exact hchars (heq ▸ List.mem_cons_self)
      · exact hchars (List.mem_cons_of_mem _ (v.text_subset hmem))
  · rintro ⟨himplicit, hexact⟩
    obtain ⟨mark, hmark, hopens⟩ : ∃ mark ∈ floatingMarks, mark.toList <+: op.text := by
      cases op with
      | implicit => exact absurd rfl himplicit
      | exact => exact absurd rfl hexact
      | _ => decide
    exact ⟨mark, hmark, (hopens.trans (List.prefix_append _ _)).isInfix⟩

/-! ## The pragma -/

theorem run_word_blank (word : Text) {t : Text} (ht : ∀ c ∈ t.head?, Text.isBlank c = false)
    (before : Option Char) {captures : List Capture} (next : Place → Option Place)
    (hnext : Stuck Text.isBlank next ∨ (next ⟨some ' ', t, captures⟩).isSome = true) :
    (exactly word).run ⟨before, word ++ ([' '] ++ t), captures⟩ (blanks1.run · next) =
      next ⟨some ' ', t, captures⟩ := by
  have hblank : ∀ c ∈ [' '], Text.isBlank c = true := by
    intro c hc
    rw [List.mem_singleton.mp hc]
    decide
  rw [run_exactly_append]
  exact run_many1_append (List.cons_ne_nil _ _) hblank ht hnext

def constraintPart : Pattern :=
  seq (capture 1 (many1 (except [';']))) (Pattern.text ";")

section Constraint

variable {constraint : Text} (hne : constraint ≠ [])
  (hend : ∀ c ∈ constraint, except [';'] c = true)
include hne hend

theorem run_constraintPart (rest : Text) (before : Option Char) (captures : List Capture) :
    constraintPart.run ⟨before, constraint ++ ';' :: rest, captures⟩ some =
      some ⟨some ';', rest, ⟨1, constraint ++ ';' :: rest, ';' :: rest⟩ :: captures⟩ := by
  have hstuck : Stuck (except [';']) ((Pattern.text ";").run · some) :=
    stuck_exactly (by decide) []
  have hsemicolon : ∀ c ∈ (';' :: rest).head?, except [';'] c = false := by
    intro c hc
    obtain rfl := Option.some.inj hc
    decide
  exact (run_capture_append 1 hne hend hsemicolon (.inl hstuck) before captures).trans
    (run_exactly_append [';'] rest _ _ some)

theorem exists_matchHere?_pragma (hblank : ∀ c ∈ constraint, Text.isBlank c = false) (rest : Text)
    (before : Option Char) (offset : Nat) :
    ∃ m, pragmaPattern.matchHere? before
        ("pragma solidity ".toList ++ (constraint ++ ';' :: rest)) offset = some m ∧
      m.group 1 = constraint := by
  have hconstraint := run_constraintPart hne hend rest (some ' ') []
  have hhead : ∀ c ∈ (constraint ++ ';' :: rest).head?, Text.isBlank c = false := by
    obtain ⟨c, more, rfl⟩ := List.exists_cons_of_ne_nil hne
    intro d hd
    obtain rfl := Option.some.inj hd
    exact hblank _ List.mem_cons_self
  have hword : ∀ c ∈ ("solidity".toList ++ ([' '] ++ (constraint ++ ';' :: rest))).head?,
      Text.isBlank c = false := by
    intro c hc
    obtain rfl := Option.some.inj hc
    decide
  -- A constraint may begin with a blank as far as the pattern goes, so it is its success that
  -- decides how many blanks stand before it.
  have hname := (run_word_blank "solidity".toList hhead (some ' ') (constraintPart.run · some)
    (.inr (Option.isSome_of_eq_some hconstraint))).trans hconstraint
  have hpragma := (run_word_blank "pragma".toList hword before
    (fun s => (exactly "solidity".toList).run s (blanks1.run · (constraintPart.run · some)))
    (.inl (stuck_exactly (by decide) "olidity".toList))).trans hname
  exact ⟨_, congrArg _ hpragma, Capture.text_of_append ..⟩

end Constraint

def pragmaLine (op : Operator) (v : Version) : Text :=
  "pragma solidity ".toList ++ (op.text ++ v.text) ++ [';']

theorem isPlain_of_mem_pragmaLine (op : Operator) (v : Version) :
    ∀ c ∈ pragmaLine op v, isPlain c = true := by
  have hconstraint : constraintChars.all isPlain = true := by decide
  have hkeywords : ("pragma solidity ".toList ++ [';']).all isPlain = true := by decide
  intro c hc
  unfold pragmaLine at hc
  rw [List.mem_append, List.mem_append] at hc
  rcases hc with (hc | hc) | hc
  · exact List.all_eq_true.mp hkeywords c (List.mem_append_left _ hc)
  · exact List.all_eq_true.mp hconstraint c (constraint_subset op v hc)
  · exact List.all_eq_true.mp hkeywords c (List.mem_append_right _ hc)

namespace Preamble

variable (p : Preamble) (op : Operator) (v : Version) (rest : Text)

theorem pragma?_append :
    pragma? (p.text ++ (pragmaLine op v ++ rest)) = some (op.text ++ v.text) := by
  have hchars : constraintChars.all (fun c => !Text.isBlank c && except [';'] c) = true := by decide
  have hmem (c : Char) (hc : c ∈ op.text ++ v.text) :
      Text.isBlank c = false ∧ except [';'] c = true := by
    simpa using List.all_eq_true.mp hchars c (constraint_subset op v hc)
  have hne : op.text ++ v.text ≠ [] := by simp [Version.text]
  have hbelow : pragmaLine op v ++ bare rest =
      "pragma solidity ".toList ++ ((op.text ++ v.text) ++ ';' :: bare rest) := by
    unfold pragmaLine
    simp only [List.append_assoc, List.singleton_append]
  obtain ⟨before, offset, hfind⟩ := exists_findFrom?_append
    (fun c more hmore => p.matchHere?_eq_none hmore (pragmaLine op v ++ bare rest)) none 0
  obtain ⟨m, hm, hgroup⟩ := exists_matchHere?_pragma hne (fun c hc => (hmem c hc).2)
    (fun c hc => (hmem c hc).1) (bare rest) before offset
  rw [← hbelow] at hm
  have hfound : pragmaPattern.find? (bare p.text ++ (pragmaLine op v ++ bare rest)) = some m :=
    hfind.trans (findFrom?_of_matchHere? hm)
  rw [pragma?, p.bare_append (isPlain_of_mem_pragmaLine op v), hfound, Option.map_some, hgroup,
    Text.trim_eq_self fun c hc => (hmem c hc).1]

theorem version?_append (hread : v.isReadable = true) :
    version? (p.text ++ (pragmaLine op v ++ rest)) = .ok (some v) := by
  have hop : op.text.all (!Text.isDecimal ·) = true := by cases op <;> decide
  have hnone : ∀ c ∈ ([] : Text).head?, Text.isDecimal c = false := by simp
  have hversion := constraintVersion?_append hnone hop v
  rw [List.append_nil, if_pos hread] at hversion
  simp only [version?, p.pragma?_append, hversion]

end Preamble

end Source

/-! ## The detectors -/

namespace Analysis

open Source Catalog.Solidity

theorem isBefore_iff_lex {v w : Version} :
    v.isBefore w = true ↔
      toLex (v.major, toLex (v.minor, v.patch)) < toLex (w.major, toLex (w.minor, w.patch)) := by
  rw [Version.isBefore_iff, Prod.Lex.toLex_lt_toLex, Prod.Lex.toLex_lt_toLex]

theorem outdatedCompiler_of_version {code : Text} {v : Version}
    (h : version? code = .ok (some v)) :
    outdatedCompiler code = .ok (v.isBefore checkedArithmetic) := by
  rw [outdatedCompiler, declaredVersion, h]
  rfl

theorem hasFloatingPragma_of_pragma {code constraint : Text} (h : pragma? code = some constraint) :
    hasFloatingPragma code = isFloating constraint := by
  rw [hasFloatingPragma, h]

/-- A pragma below a preamble is read back as it is written, whatever follows it. It counts as
outdated just when its version comes before the first that checks arithmetic, and as floating just
when its operator admits more than one release. -/
theorem pragma_read_back (p : Preamble) (op : Operator) {v : Version} (hread : v.isReadable = true)
    (rest : Text) :
    let code := p.text ++ (pragmaLine op v ++ rest)
    pragma? code = some (op.text ++ v.text) ∧
    version? code = .ok (some v) ∧
    (∃ d ∈ Catalog.of .solidity, d.id = "outdated-compiler" ∧
      (fires .solidity code d = true ↔
        toLex (v.major, toLex (v.minor, v.patch)) < toLex (0, toLex (8, 0)))) ∧
    (∃ d ∈ Catalog.of .solidity, d.id = "floating-pragma" ∧
      (fires .solidity code d = true ↔ op ≠ .implicit ∧ op ≠ .exact)) := by
  intro code
  have hpragma : pragma? code = some (op.text ++ v.text) := p.pragma?_append op v rest
  have hversion : version? code = .ok (some v) := p.version?_append op v rest hread
  refine ⟨hpragma, hversion, ?_, ?_⟩
  · obtain ⟨d, hd, hid⟩ : ∃ d ∈ Catalog.of .solidity, d.id = "outdated-compiler" := by decide
    have htrigger : d.trigger = outdatedCompiler := trigger_of_id rfl hd hid
    refine ⟨d, hd, hid, ?_⟩
    rw [fires_iff_trigger hd, htrigger, outdatedCompiler_of_version hversion, Except.ok.injEq]
    exact isBefore_iff_lex
  · obtain ⟨d, hd, hid⟩ : ∃ d ∈ Catalog.of .solidity, d.id = "floating-pragma" := by decide
    have htrigger : d.trigger = .when hasFloatingPragma := trigger_of_id rfl hd hid
    refine ⟨d, hd, hid, ?_⟩
    rw [fires_iff_trigger hd, htrigger, Trigger.when, hasFloatingPragma_of_pragma hpragma,
      Except.ok.injEq]
    exact isFloating_constraint op v

/-- Quotes and slashes above, and an open comment below. -/
theorem pragma_read_back_between_marks :
    let p : Preamble := ⟨"\"//\n// it's */ old\n".toList, by decide, by decide, by decide⟩
    let v : Version := ⟨0, 7, 6⟩
    let code := p.text ++ (pragmaLine .caret v ++ "/* \"pragma solidity 0.8.0;".toList)
    v.isReadable = true ∧ pragma? code = some "^0.7.6".toList ∧ version? code = .ok (some v) := by
  intro p v code
  have hread : v.isReadable = true := by decide
  obtain ⟨hpragma, hversion, -⟩ :=
    pragma_read_back p .caret hread "/* \"pragma solidity 0.8.0;".toList
  have htext : Operator.caret.text ++ v.text = "^0.7.6".toList := by decide +kernel
  exact ⟨hread, htext ▸ hpragma, hversion⟩

end Analysis

end ContractAudit
