import ContractAudit.Proofs.CommentStripping
import ContractAudit.Proofs.Deduplication
import ContractAudit.Proofs.LocatedLines

/-!
# Findings in comments

Whether a line is a comment is decided twice. Triggers see the bare text, where block comments are
gone wherever they began; matchers see the line as it is written, and go by how it starts. The two
disagree on a line that begins inside a block comment of an earlier line, and only there: a line
that begins as code and passes for code keeps its first character in the bare text. So a finding
stands on a line of nothing but comments just when a block comment from above runs into the line and
nothing but white space and further comments follow it.
-/
namespace ContractAudit

namespace Source

/-! ## The first pass, line by line -/

def BlockScan.nextLine? : BlockScan → Text → Option (BlockScan × Text)
  | _, [] => none
  | b, c :: rest =>
    if c = '\n' then some ((b.step c rest).2, rest) else (b.step c rest).2.nextLine? rest

def BlockScan.lineStart? : Nat → BlockScan → Text → Option (BlockScan × Text)
  | 0, b, t => some (b, t)
  | i + 1, b, t =>
    match b.nextLine? t with
    | none => none
    | some (b', rest) => b'.lineStart? i rest

def afterComment? : Text → Option Text
  | [] => none
  | c :: rest =>
    if c = '\n' then none
    else if c == '*' && rest.head? == some '/' then some rest.tail
    else afterComment? rest

def firstLine (t : Text) : Text :=
  t.takeWhile (· != '\n')

/-- The line at an index, counted from 0, begins inside a block comment, and on what is left of it
after the comment there is nothing but white space and comments. -/
def isSwallowed (code : Text) (i : Nat) : Bool :=
  match BlockScan.code.lineStart? i code with
  | some (.comment, t) =>
    match afterComment? t with
    | none => true
    | some rest => Text.isBlankText (firstLine (bare rest))
  | _ => false

theorem getElem?_zero_lines (t : Text) : t.lines[0]? = some (firstLine t) := by
  induction t with
  | nil => rfl
  | cons c t ih =>
    by_cases hc : c = '\n'
    · simp [hc, lines_newline_cons, firstLine]
    · obtain ⟨line, more, ht, hct⟩ := exists_lines_cons hc t
      rw [ht] at ih
      have hline : line = firstLine t := by simpa using ih
      simp [hct, hline, firstLine, hc]

def BlockScan.BetweenLines (b : BlockScan) : Prop :=
  b = code ∨ b = comment

theorem BlockScan.BetweenLines.fits {b : BlockScan} (h : b.BetweenLines) (t : Text) : b.Fits t := by
  rcases h with rfl | rfl <;> trivial

theorem BlockScan.betweenLines_step {b : BlockScan} {rest : Text} (h : b.Fits ('\n' :: rest)) :
    (b.step '\n' rest).2.BetweenLines := by
  cases b with
  | code => exact .inl (by simp [step, opensBlock])
  | opening => simp [Fits] at h
  | comment => exact .inr (by simp [step])
  | closing => simp [Fits] at h

theorem nextLine?_append {b : BlockScan} {left rest : Text} (hleft : '\n' ∉ left)
    (hb : b.Fits (left ++ '\n' :: rest)) :
    ∃ b' kept, b.nextLine? (left ++ '\n' :: rest) = some (b', rest) ∧ b'.BetweenLines ∧
      '\n' ∉ kept ∧
      dropBlockComments b (left ++ '\n' :: rest) = kept ++ '\n' :: dropBlockComments b' rest := by
  induction left generalizing b with
  | nil =>
    refine ⟨(b.step '\n' rest).2, [], by simp [BlockScan.nextLine?], b.betweenLines_step hb,
      by simp, ?_⟩
    rw [List.nil_append, dropBlockComments_cons b '\n' rest hb]
    simp
  | cons c left ih =>
    simp only [List.mem_cons, not_or] at hleft
    obtain ⟨b', kept, hnext, hbetween, hkept, hdrop⟩ := ih hleft.2 (b.fits_step c _)
    have hcons := dropBlockComments_cons b c (left ++ '\n' :: rest) hb
    rw [hdrop] at hcons
    have hnext' : b.nextLine? (c :: left ++ '\n' :: rest) = some (b', rest) := by
      rw [List.cons_append, BlockScan.nextLine?, if_neg (Ne.symm hleft.1), hnext]
    split at hcons
    · exact ⟨b', kept, hnext', hbetween, hkept, hcons⟩
    · exact ⟨b', c :: kept, hnext', hbetween, by simp [hleft.1, hkept], hcons⟩

/-! ## The second pass, line by line -/

def LineScan.Fits : LineScan → Text → Prop
  | quoted quote, t => quote ≠ '\\' ∧ closesQuote quote false t = true
  | escaped quote, t => quote ≠ '\\' ∧ closesQuote quote true t = true
  | code, _ => True
  | comment, _ => True

theorem LineScan.fits_literal_iff {quote : Char} {escaped : Bool} {t : Text} :
    (LineScan.literal quote escaped).Fits t ↔
      quote ≠ '\\' ∧ closesQuote quote escaped t = true := by
  cases escaped <;> rfl

theorem LineScan.Fits.ne_newline_and_next {quote : Char} {escaped : Bool} {c : Char} {rest : Text}
    (h : (LineScan.literal quote escaped).Fits (c :: rest)) :
    c ≠ '\n' ∧ LineScan.Fits
      (if !escaped && c == quote then .code else .literal quote (!escaped && c == '\\')) rest := by
  obtain ⟨hq, hcloses⟩ := LineScan.fits_literal_iff.mp h
  rw [closesQuote_cons hq] at hcloses
  simp only [Bool.and_eq_true, bne_iff_ne, Bool.or_eq_true] at hcloses
  refine ⟨hcloses.1, ?_⟩
  split
  · trivial
  · rename_i hopen
    have hrest := hcloses.2.resolve_left (by simpa using hopen)
    exact LineScan.fits_literal_iff.mpr ⟨hq, hrest⟩

theorem closesQuote_append_newline (quote : Char) (escaped : Bool) (left rest : Text) :
    closesQuote quote escaped (left ++ '\n' :: rest) = closesQuote quote escaped left := by
  induction left generalizing escaped with
  | nil => simp [closesQuote]
  | cons c left ih => simp only [List.cons_append, closesQuote, ih]

theorem head?_append_newline {d : Char} (hd : d ≠ '\n') (left rest : Text) :
    ((left ++ '\n' :: rest).head? == some d) = (left.head? == some d) := by
  cases left with
  | nil => simp [Ne.symm hd]
  | cons c left => rfl

/-- Whatever the second pass is in the middle of, at the start of a line it reads code. So a newline
cuts its work in two. -/
theorem dropLineComments_append_newline {s : LineScan} {left : Text} (hs : s.Fits left)
    (rest : Text) :
    dropLineComments s (left ++ '\n' :: rest) =
      dropLineComments s left ++ '\n' :: dropLineComments .code rest := by
  induction left generalizing s with
  | nil =>
    cases s with
    | code => simp [dropLineComments, opensQuote]
    | quoted quote => simp [LineScan.Fits, closesQuote] at hs
    | escaped quote => simp [LineScan.Fits, closesQuote] at hs
    | comment => simp [dropLineComments]
  | cons c left ih =>
    have hliteral (quote : Char) (escaped : Bool)
        (hs : (LineScan.literal quote escaped).Fits (c :: left)) :
        dropLineComments (.literal quote escaped) (c :: left ++ '\n' :: rest) =
          dropLineComments (.literal quote escaped) (c :: left) ++
            '\n' :: dropLineComments .code rest := by
      rw [List.cons_append, dropLineComments_literal, dropLineComments_literal,
        ih hs.ne_newline_and_next.2, List.cons_append]
    cases s with
    | code =>
      have hquote : opensQuote c (left ++ '\n' :: rest) = opensQuote c left := by
        rw [opensQuote, opensQuote, closesQuote_append_newline]
      rw [List.cons_append, dropLineComments, dropLineComments, hquote,
        head?_append_newline (by decide)]
      split
      · exact ih (s := .comment) trivial
      · rw [List.cons_append]
        refine congrArg (c :: ·) (ih ?_)
        split
        · rename_i hopens
          obtain ⟨hc, hcloses⟩ := opensQuote_iff.mp hopens
          exact ⟨by rcases hc with rfl | rfl <;> decide, hcloses⟩
        · trivial
    | quoted quote => exact hliteral quote false hs
    | escaped quote => exact hliteral quote true hs
    | comment =>
      rw [List.cons_append, dropLineComments, dropLineComments]
      split
      · rw [List.cons_append]
        exact congrArg ('\n' :: ·) (ih (s := .code) trivial)
      · exact ih (s := .comment) trivial

theorem newline_not_mem_dropLineComments {t : Text} (h : '\n' ∉ t) (s : LineScan) :
    '\n' ∉ dropLineComments s t :=
  fun hmem => h ((thinned_dropLineComments s t).sublist.subset hmem)

/-! ## Both passes -/

/-- The bare text of what follows a point where the first pass is in the middle of something and the
second pass reads code. -/
def bareFrom (b : BlockScan) (t : Text) : Text :=
  dropLineComments .code (dropBlockComments b t)

theorem getElem?_succ_lines_append {left : Text} (hleft : '\n' ∉ left) (t : Text) (i : Nat) :
    (left ++ '\n' :: t).lines[i + 1]? = t.lines[i]? := by
  rw [Text.lines_append_newline hleft, List.getElem?_cons_succ]

theorem exists_lineStart {b : BlockScan} (hb : b.BetweenLines) {t : Text} {i : Nat}
    (hi : i < t.lines.length) :
    ∃ b' rest, b.lineStart? i t = some (b', rest) ∧ b'.BetweenLines ∧
      t.lines[i]? = some (firstLine rest) ∧
      (bareFrom b t).lines[i]? = some (firstLine (bareFrom b' rest)) := by
  induction i generalizing b t with
  | zero =>
    exact ⟨b, t, rfl, hb, getElem?_zero_lines t, getElem?_zero_lines (bareFrom b t)⟩
  | succ i ih =>
    have hnewline : '\n' ∈ t := by
      by_contra hnot
      rw [Text.lines_of_not_mem hnot] at hi
      simp at hi
    obtain ⟨left, rest, rfl, hleft⟩ := List.eq_append_cons_of_mem hnewline
    obtain ⟨b', kept, hnext, hb', hkept, hdrop⟩ := nextLine?_append hleft (hb.fits _)
    have hrest : i < (Text.lines rest).length := by
      rw [Text.lines_append_newline hleft, List.length_cons] at hi
      omega
    obtain ⟨b'', rest', hstart, hb'', hline, hbare⟩ := ih hb' hrest
    refine ⟨b'', rest', ?_, hb'', ?_, ?_⟩
    · rw [BlockScan.lineStart?, hnext]
      exact hstart
    · rw [getElem?_succ_lines_append hleft, hline]
    · rw [bareFrom, hdrop, dropLineComments_append_newline (s := .code) trivial,
        getElem?_succ_lines_append (newline_not_mem_dropLineComments hkept .code)]
      exact hbare

theorem bareFrom_code_cons {c : Char} {rest : Text} (hblock : opensBlock c rest = false)
    (hline : c = '/' → rest.head? ≠ some '/') :
    ∃ s, bareFrom .code (c :: rest) = c :: dropLineComments s (dropBlockComments .code rest) := by
  have hmark : (c == '/' && (dropBlockComments .code rest).head? == some '/') = false := by
    by_cases hc : c = '/'
    · rw [head?_dropBlockComments (hline hc)]
      simpa [hc] using hline hc
    · simp [hc]
  rw [bareFrom, dropBlockComments_code_cons hblock, dropLineComments, hmark]
  exact ⟨_, rfl⟩

theorem ne_of_isBlank {c d : Char} (hc : Text.isBlank c = true) (hd : Text.isBlank d = false) :
    c ≠ d := by
  rintro rfl
  simp [hc] at hd

theorem bareFrom_code_blank {c : Char} (hc : Text.isBlank c = true) (rest : Text) :
    bareFrom .code (c :: rest) = c :: bareFrom .code rest := by
  have hslash : c ≠ '/' := ne_of_isBlank hc (by decide)
  have hdouble : c ≠ '\x22' := ne_of_isBlank hc (by decide)
  have hsingle : c ≠ '\x27' := ne_of_isBlank hc (by decide)
  have hquote (t : Text) : opensQuote c t = false := by simp [opensQuote, hdouble, hsingle]
  rw [bareFrom, dropBlockComments_code_cons (by simp [opensBlock, hslash]), dropLineComments,
    if_neg (by simp [hslash]), hquote]
  rfl

theorem firstLine_cons {c : Char} (hc : c ≠ '\n') (rest : Text) :
    firstLine (c :: rest) = c :: firstLine rest := by
  simp [firstLine, hc]

theorem exists_ink_of_code {t : Text} (hcode : isCommentLine false (firstLine t) = false)
    (hink : ∃ c ∈ firstLine t, Text.isBlank c = false) :
    ∃ c ∈ firstLine (bareFrom .code t), Text.isBlank c = false := by
  induction t with
  | nil => simp [firstLine] at hink
  | cons c rest ih =>
    have hnewline : c ≠ '\n' := by
      rintro rfl
      simp [firstLine] at hink
    rw [firstLine_cons hnewline] at hcode hink
    cases hblank : Text.isBlank c with
    | true =>
      have hcode' : isCommentLine false (firstLine rest) = false := by
        simpa [isCommentLine, Text.trimStart, hblank] using hcode
      have hink' : ∃ d ∈ firstLine rest, Text.isBlank d = false := by
        simpa [hblank] using hink
      obtain ⟨d, hd, hdink⟩ := ih hcode' hink'
      rw [bareFrom_code_blank hblank, firstLine_cons hnewline]
      exact ⟨d, List.mem_cons_of_mem c hd, hdink⟩
    | false =>
      have hmarks : ∀ d, (d = '/' ∨ d = '*') → c = '/' → rest.head? ≠ some d := by
        rintro d hd rfl hhead
        obtain ⟨more, rfl⟩ : ∃ more, rest = d :: more := by
          cases rest <;> simp_all
        rcases hd with rfl | rfl <;>
          simp [isCommentLine, Text.trimStart, hblank, firstLine, Text.startsWith] at hcode
      have hblock : opensBlock c rest = false := by
        rw [opensBlock, Bool.and_eq_false_iff, Bool.and_eq_false_iff]
        by_cases hc : c = '/'
        · exact .inl (.inr (by simpa using hmarks '*' (.inr rfl) hc))
        · exact .inl (.inl (by simpa using hc))
      obtain ⟨s, hs⟩ := bareFrom_code_cons hblock (hmarks '/' (.inl rfl))
      rw [hs, firstLine_cons hnewline]
      exact ⟨c, List.mem_cons_self, hblank⟩

theorem bareFrom_comment_of_some {t rest : Text} (h : afterComment? t = some rest) :
    bareFrom .comment t = bare rest := by
  induction t with
  | nil => simp [afterComment?] at h
  | cons c t ih =>
    rw [afterComment?] at h
    split at h
    · simp at h
    · rename_i hnewline
      split at h
      · rename_i hclose
        obtain rfl := Option.some.inj h
        rw [bareFrom, dropBlockComments, if_neg hnewline, if_pos hclose]
        cases t with
        | nil => simp at hclose
        | cons d t => rfl
      · rename_i hopen
        rw [bareFrom, dropBlockComments, if_neg hnewline, if_neg hopen]
        exact ih h

theorem firstLine_bareFrom_comment_of_none {t : Text} (h : afterComment? t = none) :
    firstLine (bareFrom .comment t) = [] := by
  induction t with
  | nil => rfl
  | cons c t ih =>
    by_cases hnewline : c = '\n'
    · simp [bareFrom, dropBlockComments, hnewline, dropLineComments, firstLine]
    · rw [afterComment?, if_neg hnewline] at h
      split at h
      · simp at h
      · rename_i hopen
        rw [bareFrom, dropBlockComments, if_neg hnewline, if_neg hopen]
        exact ih h

theorem isBlankText_eq_false_iff {t : Text} :
    t.isBlankText = false ↔ ∃ c ∈ t, Text.isBlank c = false := by
  simp [Text.isBlankText]

theorem isBlankText_of_lineStart_comment {code t : Text} {i : Nat}
    (h : BlockScan.code.lineStart? i code = some (.comment, t)) :
    (firstLine (bareFrom .comment t)).isBlankText = isSwallowed code i := by
  rw [isSwallowed, h]
  cases hafter : afterComment? t with
  | none => simp [firstLine_bareFrom_comment_of_none hafter, Text.isBlankText, hafter]
  | some rest => simp [bareFrom_comment_of_some hafter, hafter]

/-- A line that passes for code and has something to see is bare of it all just when a block comment
from above swallows it. -/
theorem exists_bareLine_of_code {hashes : Bool} {code line : Text} {i : Nat}
    (hline : code.lines[i]? = some line) (hcode : isCommentLine hashes line = false)
    (hink : ∃ c ∈ line, Text.isBlank c = false) :
    ∃ left, (bare code).lines[i]? = some left ∧ left.isBlankText = isSwallowed code i := by
  have hi : i < code.lines.length := (List.getElem?_eq_some_iff.mp hline).1
  obtain ⟨b, t, hstart, hb, ht, hbare⟩ := exists_lineStart (.inl rfl) hi
  refine ⟨_, hbare, ?_⟩
  rcases hb with rfl | rfl
  · obtain rfl : line = firstLine t := Option.some.inj (hline.symm.trans ht)
    have hcode' : isCommentLine false (firstLine t) = false := by
      simp only [isCommentLine, Bool.or_eq_false_iff] at hcode ⊢
      exact ⟨hcode.1, rfl⟩
    have hleft := isBlankText_eq_false_iff.mpr (exists_ink_of_code hcode' hink)
    simp [isSwallowed, hstart, hleft]
  · exact isBlankText_of_lineStart_comment hstart

theorem isSwallowed_of_ink {code line : Text} {i : Nat} (hline : (bare code).lines[i]? = some line)
    (hink : ∃ c ∈ line, Text.isBlank c = false) : isSwallowed code i = false := by
  have hi : i < code.lines.length := by
    rw [← length_lines_bare]
    exact (List.getElem?_eq_some_iff.mp hline).1
  obtain ⟨b, t, hstart, hb, -, hbare⟩ := exists_lineStart (.inl rfl) hi
  obtain rfl : line = firstLine (bareFrom b t) := Option.some.inj (hline.symm.trans hbare)
  rcases hb with rfl | rfl
  · simp [isSwallowed, hstart]
  · rw [← isBlankText_of_lineStart_comment hstart]
    exact isBlankText_eq_false_iff.mpr hink

end Source

namespace Analysis

theorem Sighting.exists_bareLine {hashes : Bool} {d : Detector} (hd : d.matcher.inked = true)
    {code : Text} {i : Nat} (h : Sighting hashes d code i) :
    ∃ line, (Source.bare code).lines[i]? = some line ∧
      line.isBlankText = Source.isSwallowed code i ∧
      (d.locate.isSome = true → line.isBlankText = false) := by
  cases h with
  | matched hnone hline hcode haccepts =>
    obtain ⟨left, hleft, hblank⟩ := Source.exists_bareLine_of_code hline hcode
      (LineMatcher.exists_ink_of_accepts hd haccepts)
    exact ⟨left, hleft, hblank, by simp [hnone]⟩
  | located _ hline hink =>
    have hblank := Source.isBlankText_eq_false_iff.mpr hink
    exact ⟨_, hline, by rw [hblank, Source.isSwallowed_of_ink hline hink], fun _ => hblank⟩

def locatesBare : List String := ["reentrancy", "missing-visibility"]

theorem isSome_locate_of_locatesBare (dialect : Dialect) :
    ∀ d ∈ Catalog.of dialect, d.id ∈ locatesBare → d.locate.isSome = true := by
  cases dialect <;> decide +kernel

/-- A finding with a place stands on a line of nothing but comments just when a block comment from
above swallows the line, and the detectors that look in the bare text are never taken in. -/
theorem run_bareLine_blank_iff (dialect : Dialect) (shape : Structure) (code : Text) :
    ∀ f ∈ (run (Catalog.of dialect) shape dialect code).findings, 0 < f.lineNumber →
      ∃ (i : Nat) (line : Text), f.lineNumber = i + 1 ∧ (Source.bare code).lines[i]? = some line ∧
        (line.isBlankText = true ↔ Source.isSwallowed code i = true) ∧
        (f.detectorId ∈ locatesBare → line.isBlankText = false) := by
  intro f hf hplace
  obtain ⟨d, hd, hfd⟩ := List.mem_flatMap.mp (Finding.mem_of_mem_deduplicate hf)
  rcases cases_of_mem_findingsOf hd hfd with rfl | ⟨i, hseen, rfl⟩
  · exact absurd hplace (Int.lt_irrefl 0)
  · obtain ⟨line, hline, hblank, hlocated⟩ :=
      hseen.exists_bareLine (Catalog.matcher_inked dialect d hd)
    exact ⟨i, line, rfl, hline, by rw [hblank],
      fun hid => hlocated (isSome_locate_of_locatesBare dialect d hd hid)⟩

/-- A comment over three lines whose second line is reported, although nothing of it is code. -/
theorem run_bareLine_blank_iff_txOrigin :
    let code := "/*\ntx.origin == a\n*/\ntx.origin == a".toList
    ∃ f ∈ (run (Catalog.of .solidity) ⟨.solidity, {}, none⟩ .solidity code).findings,
      f.detectorId = "tx-origin-auth" ∧ f.lineNumber = 2 ∧
        ∃ line, (Source.bare code).lines[1]? = some line ∧ line.isBlankText = true := by
  intro code
  obtain ⟨f, hf, hid, hnumber⟩ :
      ∃ f ∈ (run (Catalog.of .solidity) ⟨.solidity, {}, none⟩ .solidity code).findings,
        f.detectorId = "tx-origin-auth" ∧ f.lineNumber = 2 := by decide +kernel
  obtain ⟨i, line, hi, hline, hblank, -⟩ :=
    run_bareLine_blank_iff .solidity ⟨.solidity, {}, none⟩ code f hf (by omega)
  obtain rfl : i = 1 := by omega
  exact ⟨f, hf, hid, hnumber, line, hline, hblank.mpr (by decide +kernel)⟩

end Analysis

end ContractAudit
