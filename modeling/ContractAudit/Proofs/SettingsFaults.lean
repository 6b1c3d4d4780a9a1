import ContractAudit.Console.Run
import ContractAudit.Proofs.SettingsLayers

/-!
# Settings that are not refused

Whatever a settings file holds, the outcome should be settings or a refusal. Two things in a
document lead to another end: a name that is no text, and a number out of range that has too many
digits to be shown in a refusal. Such a number can only come from the file, since numerals of that
length are not read from variables.
-/
namespace ContractAudit

/-! ## Refusals -/

/-- The error tells whoever gave the settings what is wrong with them. -/
def SettingsError.isRefusal : SettingsError → Bool
  | notFound _ | unreadable _ | notMapping _ | unknownKeys _ _ => true
  | invalid e => e != .unwritable
  | interrupted _ | unnamedKey => false

theorem Console.settingsExit_of_isRefusal {e : SettingsError} (h : e.isRefusal = true)
    (format : Format) : settingsExit format e = refuse format e.message := by
  cases e with
  | invalid reason =>
    cases reason with
    | unwritable => cases h
    | _ => rfl
  | interrupted _ | unnamedKey => cases h
  | _ => rfl

theorem Console.settingsExit_of_not_isRefusal {e : SettingsError} (h : e.isRefusal = false)
    (format : Format) : ∃ fault, settingsExit format e = .fault fault := by
  cases e with
  | invalid reason =>
    obtain rfl : reason = .unwritable := by simpa [SettingsError.isRefusal] using h
    exact ⟨_, rfl⟩
  | interrupted _ | unnamedKey => exact ⟨_, rfl⟩
  | _ => cases h

/-! ## Numbers that are too long -/

namespace Text

theorem digitValue?_lt {c : Char} {d : Nat} (h : digitValue? c = some d) : d < 10 := by
  unfold digitValue? at h
  split at h
  · split at h
    · rename_i hdigit
      have hbounds : 48 ≤ c.toNat ∧ c.toNat ≤ 57 := by
        simpa [Char.isDigit, UInt32.le_iff_toNat_le] using hdigit
      have hzero : '0'.toNat = 48 := rfl
      cases h
      omega
    · cases h
  · obtain ⟨first, hfirst, rfl⟩ := Option.map_eq_some_iff.mp h
    have hrange := List.find?_some hfirst
    simp only [Bool.and_eq_true, decide_eq_true_eq] at hrange
    omega

theorem foldl_digits_lt (digits : List Char) (start : Nat) :
    digits.foldl (fun n c => 10 * n + (digitValue? c).getD 0) start <
      (start + 1) * 10 ^ digits.length := by
  induction digits generalizing start with
  | nil => simp
  | cons c rest ih =>
    have hdigit : (digitValue? c).getD 0 < 10 := by
      cases hc : digitValue? c with
      | none => simp
      | some d => exact digitValue?_lt hc
    have hstep : 10 * start + (digitValue? c).getD 0 + 1 ≤ 10 * (start + 1) := by omega
    calc rest.foldl (fun n c => 10 * n + (digitValue? c).getD 0)
          (10 * start + (digitValue? c).getD 0)
        < (10 * start + (digitValue? c).getD 0 + 1) * 10 ^ rest.length := ih _
      _ ≤ 10 * (start + 1) * 10 ^ rest.length := Nat.mul_le_mul_right _ hstep
      _ = (start + 1) * 10 ^ (c :: rest).length := by rw [List.length_cons, pow_succ]; ring

theorem readNumeral?_lt {digits : List Char} {n : Nat} (h : readNumeral? digits = some n) :
    n < 10 ^ numeralLimit := by
  unfold readNumeral? at h
  split at h
  · rename_i hlength
    cases h
    have hvalue := foldl_digits_lt digits 0
    rw [Nat.zero_add, Nat.one_mul] at hvalue
    exact hvalue.trans_le (Nat.pow_le_pow_right (by decide) hlength)
  · cases h

theorem readInteger?_natAbs_lt {t : Text} {n : Int} (h : readInteger? t = some n) :
    n.natAbs < 10 ^ numeralLimit := by
  obtain ⟨digits, -, hdigits⟩ := Option.bind_eq_some_iff.mp h
  split at hdigits
  · cases hdigits
  · obtain ⟨value, hvalue, hn⟩ := Option.bind_eq_some_iff.mp hdigits
    have hlt := readNumeral?_lt hvalue
    cases hn
    split <;> omega

end Text

namespace Setting

def IsOverlong (s : Setting) : Prop :=
  ∃ n : ℤ, s = .int n ∧ 10 ^ Text.numeralLimit ≤ n.natAbs

theorem isUnwritable_iff {s : Setting} : s.isUnwritable = true ↔ s.IsOverlong := by
  cases s <;> simp [isUnwritable, Text.isWritable, IsOverlong]

end Setting

namespace Settings

theorem refuse_eq_unwritable_iff {value : Setting} {error : String → InvalidSetting}
    (h : ∀ shown, error shown ≠ .unwritable) :
    refuse value error = .error .unwritable ↔ value.IsOverlong := by
  rw [refuse, ← Setting.isUnwritable_iff]
  cases value.isUnwritable with
  | true => simp
  | false => simp [h]

theorem quantity_ne_unwritable (value : Setting) : quantity value ≠ .error .unwritable := by
  unfold quantity
  cases value.quantity? <;> simp

theorem checkRange_eq_unwritable_iff {value : Setting} {last : ℤ} {error : String → InvalidSetting}
    (hlast : last < 10 ^ Text.numeralLimit) (h : ∀ shown, error shown ≠ .unwritable) :
    checkRange value last error = .error .unwritable ↔ value.IsOverlong := by
  rw [checkRange, bind_eq_error_iff, or_iff_right (quantity_ne_unwritable value)]
  constructor
  · rintro ⟨q, -, hcheck⟩
    split at hcheck
    · cases hcheck
    · exact (refuse_eq_unwritable_iff h).mp hcheck
  · intro hlong
    obtain ⟨n, rfl, hn⟩ := id hlong
    refine ⟨.whole n, rfl, ?_⟩
    have hout :
        ¬ ((Number.Quantity.whole n).atLeast 0 && (Number.Quantity.whole n).atMost last) := by
      simp only [Number.Quantity.atLeast, Number.Quantity.atMost, Bool.and_eq_true,
        decide_eq_true_eq]
      rintro ⟨hfirst, hn'⟩
      have habs : (10 ^ Text.numeralLimit : ℤ) ≤ n.natAbs := by exact_mod_cast hn
      omega
    rw [if_neg hout]
    exact (refuse_eq_unwritable_iff h).mpr hlong

theorem ite_refuse_eq_error_iff {value : Setting} {error : String → InvalidSetting} {c : Prop}
    [Decidable c] {rest : Except InvalidSetting Unit} {e : InvalidSetting} :
    (if c then (do refuse value error; rest) else rest) = .error e ↔
      c ∧ refuse value error = .error e ∨ ¬ c ∧ rest = .error e := by
  by_cases hc : c
  · simp [hc, bind_eq_error_iff, refuse_ne_ok]
  · simp [hc]

/-- The first value at fault is a number that is too long to be shown. -/
inductive Unshowable (s : Settings) : Prop where
  | timeout (n : ℤ) (h : s.timeout = .int n) (hn : n ≤ -10 ^ Text.numeralLimit)
  | maxFindings (htimeout : s.timeout.IsPositive ∨ s.timeout = .float .nan)
      (h : s.maxFindings.IsOverlong)
  | threshold (htimeout : s.timeout.IsPositive ∨ s.timeout = .float .nan)
      (hfindings : s.maxFindings.IsWithin maxEnhanced) (h : s.threshold.IsOverlong)

theorem hundred_lt_limit : (100 : ℤ) < 10 ^ Text.numeralLimit := by
  calc (100 : ℤ) < 10 ^ 3 := by norm_num
    _ ≤ 10 ^ Text.numeralLimit := pow_le_pow_right₀ (by norm_num) (by decide)

theorem ite_model_ne_unwritable (empty : Bool) :
    (if empty then .error .model else pure () : Except InvalidSetting Unit) ≠
      .error .unwritable := by
  cases empty <;> simp [pure, Except.pure]

theorem validate_eq_unwritable_iff {s : Settings} :
    s.validate = .error .unwritable ↔ s.Unshowable := by
  have hrefused : refuse s.timeout .timeout = .error .unwritable ↔ s.timeout.IsOverlong :=
    refuse_eq_unwritable_iff (by simp)
  have hfindings : checkRange s.maxFindings maxEnhanced .maxFindings = .error .unwritable ↔
      s.maxFindings.IsOverlong :=
    checkRange_eq_unwritable_iff (lt_trans (by decide) hundred_lt_limit) (by simp)
  have hthreshold : checkRange s.threshold 100 .threshold = .error .unwritable ↔
      s.threshold.IsOverlong := checkRange_eq_unwritable_iff hundred_lt_limit (by simp)
  rw [validate, bind_eq_error_iff, or_iff_right (quantity_ne_unwritable _)]
  simp only [quantity_eq_ok_iff, ite_refuse_eq_error_iff, bind_eq_error_iff, checkRange_eq_ok_iff,
    hrefused, hfindings, hthreshold, ite_model_ne_unwritable, and_false, exists_const, or_false]
  constructor
  · rintro ⟨q, hq, ⟨hzero, n, hn, hlong⟩ | ⟨hnot, hlong | ⟨hwithin, hlong⟩⟩⟩
    · rw [hn] at hq
      cases hq
      have hsign : n ≤ 0 := by simpa [Number.Quantity.atMost] using hzero
      have habs : (10 ^ Text.numeralLimit : ℤ) ≤ n.natAbs := by exact_mod_cast hlong
      exact .timeout n hn (by omega)
    · exact .maxFindings (exists_not_atMost_zero_iff.mp ⟨q, hq, hnot⟩) hlong
    · exact .threshold (exists_not_atMost_zero_iff.mp ⟨q, hq, hnot⟩) hwithin hlong
  · intro h
    cases h with
    | timeout n h hn =>
      have hpos : (0 : ℤ) < 10 ^ Text.numeralLimit := by positivity
      refine ⟨.whole n, by rw [h]; rfl, .inl ⟨?_, n, h, ?_⟩⟩
      · exact decide_eq_true (by omega : n ≤ 0)
      · have habs : (10 ^ Text.numeralLimit : ℤ) ≤ n.natAbs := by omega
        exact_mod_cast habs
    | maxFindings htimeout h =>
      obtain ⟨q, hq, hnot⟩ := exists_not_atMost_zero_iff.mpr htimeout
      exact ⟨q, hq, .inr ⟨hnot, .inl h⟩⟩
    | threshold htimeout hwithin h =>
      obtain ⟨q, hq, hnot⟩ := exists_not_atMost_zero_iff.mpr htimeout
      exact ⟨q, hq, .inr ⟨hnot, .inr ⟨hwithin, h⟩⟩⟩

theorem Slot.not_isOverlong_of_convert {slot : Slot} {raw : String} {value : Setting}
    (h : slot.convert raw = some value) : ¬ value.IsOverlong := by
  have hwhole {n : ℤ} (hn : Text.readInteger? raw.toList = some n) :
      ¬ (Setting.int n).IsOverlong := by
    rintro ⟨m, hm, hlong⟩
    cases hm
    exact absurd (Text.readInteger?_natAbs_lt hn) (by omega)
  cases slot with
  | maxFindings | threshold =>
    obtain ⟨n, hn, rfl⟩ := Option.map_eq_some_iff.mp h
    exact hwhole hn
  | timeout =>
    obtain ⟨x, -, rfl⟩ := Option.map_eq_some_iff.mp h
    simp [Setting.IsOverlong]
  | _ =>
    cases h
    simp [Setting.IsOverlong]

theorem Slot.not_isOverlong_initial (slot : Slot) : ¬ slot.initial.IsOverlong := by
  have hlimit : 100 < 10 ^ Text.numeralLimit := by exact_mod_cast hundred_lt_limit
  cases slot with
  | maxFindings | threshold =>
    rintro ⟨n, hn, hlong⟩
    cases hn
    simp only [Int.reduceAbs] at hlong
    omega
  | _ => simp [Slot.initial, Setting.IsOverlong]

theorem exists_given_of_isOverlong {env : Environment} {given : String → Option Setting}
    (slot : Slot) (h : (chosen env given slot).IsOverlong) :
    ∃ n : ℤ, given slot.name = some (.int n) ∧ 10 ^ Text.numeralLimit ≤ n.natAbs := by
  unfold chosen at h
  cases hvalue : (env.lookup slot.envName).bind slot.convert with
  | some value =>
    obtain ⟨raw, -, hconvert⟩ := Option.bind_eq_some_iff.mp hvalue
    rw [hvalue] at h
    exact absurd h (Slot.not_isOverlong_of_convert hconvert)
  | none =>
    rw [hvalue] at h
    cases hgiven : given slot.name with
    | some value =>
      rw [hgiven] at h
      obtain ⟨n, hn, habs⟩ := h
      exact ⟨n, congrArg some hn, habs⟩
    | none =>
      rw [hgiven] at h
      exact absurd h slot.not_isOverlong_initial

/-! ## Documents -/

variable {read : DocumentReader} {files : Files} {path : Option String}

theorem isEmpty_eq_false_of_mem {entries : List (Setting × Setting)} {entry : Setting × Setting}
    (h : entry ∈ entries) : (Setting.map entries).isEmpty = false := by
  cases entries with
  | nil => cases h
  | cons => rfl

theorem ofDocument_of_unnamed {entries : List (Setting × Setting)} {entry : Setting × Setting}
    (hentry : entry ∈ entries) (hname : ∀ name, entry.1 ≠ .str name) (file : String) :
    ofDocument file (.map entries) = .error .unnamedKey := by
  have hany : (entries.any fun entry => !entry.1.isText) = true := by
    rw [← Bool.not_eq_false, any_not_isText_eq_false_iff]
    intro htexts
    obtain ⟨name, h⟩ := htexts entry hentry
    exact hname name h
  simp [ofDocument, isEmpty_eq_false_of_mem hentry, hany]

theorem ofDocument_of_unknown {entries : List (Setting × Setting)} {name : String} {value : Setting}
    (htexts : ∀ entry ∈ entries, ∃ name, entry.1 = .str name)
    (hentry : (.str name, value) ∈ entries) (hname : name ∉ names) (file : String) :
    ofDocument file (.map entries) =
      .error (.unknownKeys file (unknownNames (knownEntries entries))) := by
  have hnone := any_not_isText_eq_false_iff.mpr htexts
  have hunknown : (unknownNames (knownEntries entries)).isEmpty = false := by
    rw [← Bool.not_eq_true, unknownNames_isEmpty_iff]
    intro hall
    exact hname (hall _ (mem_knownEntries_iff.mpr hentry))
  simp only [ofDocument, isEmpty_eq_false_of_mem hentry, hnone, hunknown, Bool.false_eq_true,
    if_false]

theorem Delivers.cases {document : Setting} (h : Delivers read files path document) :
    (∃ entries entry, document = .map entries ∧ entry ∈ entries ∧ ∀ name, entry.1 ≠ .str name) ∨
      (∃ given, Provides read files path given) ∨
      ∃ e, fileLayer read files path = .error e ∧ e.isRefusal = true := by
  cases hempty : document.isEmpty with
  | true => exact .inr (.inl ⟨_, .empty h hempty⟩)
  | false =>
    cases document with
    | map entries =>
      by_cases htexts : ∀ entry ∈ entries, ∃ name, entry.1 = .str name
      · by_cases hknown : ∀ entry ∈ entries, ∃ slot : Slot, entry.1 = .str slot.name
        · exact .inr (.inl ⟨_, .mapping h hknown h.lookup_eq_some_iff⟩)
        · push Not at hknown
          obtain ⟨⟨key, value⟩, hentry, hslots⟩ := hknown
          obtain ⟨name, rfl⟩ : ∃ name, key = .str name := htexts _ hentry
          have hname : name ∉ names := by
            rw [mem_names_iff]
            rintro ⟨slot, rfl⟩
            exact hslots slot rfl
          have hlayer := h.fileLayer_eq.trans (ofDocument_of_unknown htexts hentry hname _)
          exact .inr (.inr ⟨_, hlayer, rfl⟩)
      · push Not at htexts
        obtain ⟨entry, hentry, hname⟩ := htexts
        exact .inl ⟨entries, entry, rfl, hentry, hname⟩
    | _ =>
      refine .inr (.inr ⟨.notMapping (fileName path), ?_, rfl⟩)
      rw [h.fileLayer_eq]
      simp [ofDocument, hempty]

theorem load_eq_error_of_fileLayer {e : SettingsError} (h : fileLayer read files path = .error e)
    (env : Environment) : load read files path env = .error e := by
  simp only [load, h, bind, Except.bind]

/-- Loading ends with this error, which is no refusal. -/
inductive Escapes (read : DocumentReader) (files : Files) (path : Option String)
    (env : Environment) : SettingsError → Prop where
  | name {entries : List (Setting × Setting)} {entry : Setting × Setting}
      (hfile : Delivers read files path (.map entries)) (hentry : entry ∈ entries)
      (hname : ∀ name, entry.1 ≠ .str name) : Escapes read files path env .unnamedKey
  | number {given : String → Option Setting} (hfile : Provides read files path given)
      (hnumber : (merged env given).Unshowable) : Escapes read files path env (.invalid .unwritable)

theorem Escapes.load_eq {env : Environment} {e : SettingsError}
    (h : Escapes read files path env e) :
    load read files path env = .error e ∧ e.isRefusal = false := by
  cases h with
  | name hfile hentry hname =>
    refine ⟨load_eq_error_of_fileLayer ?_ env, rfl⟩
    rw [hfile.fileLayer_eq, ofDocument_of_unnamed hentry hname]
  | number hfile hnumber =>
    refine ⟨?_, rfl⟩
    rw [hfile.load_eq, validate_eq_unwritable_iff.mpr hnumber]
    rfl

theorem Delivers.escapes {document : Setting} (h : Delivers read files path document)
    {env : Environment} {e : SettingsError} (hload : load read files path env = .error e)
    (hrefusal : e.isRefusal = false) : Escapes read files path env e := by
  rcases h.cases with
    ⟨entries, entry, rfl, hentry, hname⟩ | ⟨given, hgiven⟩ | ⟨e', hlayer, hrefused⟩
  · have hescapes : Escapes read files path env .unnamedKey := .name h hentry hname
    rw [hescapes.load_eq.1] at hload
    cases hload
    exact hescapes
  · rw [hgiven.load_eq] at hload
    cases hcheck : (merged env given).validate with
    | ok u =>
      rw [hcheck] at hload
      cases hload
    | error reason =>
      rw [hcheck] at hload
      cases hload
      obtain rfl : reason = .unwritable := by simpa [SettingsError.isRefusal] using hrefusal
      exact .number hgiven (validate_eq_unwritable_iff.mp hcheck)
  · rw [load_eq_error_of_fileLayer hlayer] at hload
    cases hload
    rw [hrefused] at hrefusal
    cases hrefusal

theorem Unshowable.exists_given {env : Environment} {given : String → Option Setting}
    (h : (merged env given).Unshowable) :
    ∃ (slot : Slot) (n : ℤ), given slot.name = some (.int n) ∧
      10 ^ Text.numeralLimit ≤ n.natAbs := by
  cases h with
  | timeout n h hn =>
    have habs : (10 ^ Text.numeralLimit : ℤ) ≤ n.natAbs := by omega
    exact ⟨.timeout, exists_given_of_isOverlong .timeout ⟨n, h, by exact_mod_cast habs⟩⟩
  | maxFindings _ h => exact ⟨.maxFindings, exists_given_of_isOverlong .maxFindings h⟩
  | threshold _ _ h => exact ⟨.threshold, exists_given_of_isOverlong .threshold h⟩

/-- Loading a document gives settings or a refusal, unless a name is no text or the first number out
of range is too long to be shown. Only the file can give such a number, and a command line shows
every refusal but breaks off in the two other cases. -/
theorem load_escapes_iff (read : DocumentReader) (files : Files) (path : Option String)
    (env : Environment) (document : Setting) (h : Delivers read files path document) :
    (∀ e, load read files path env = .error e ∧ e.isRefusal = false ↔
      Escapes read files path env e) ∧
    (((∃ s, load read files path env = .ok s) ∨
        ∃ e, load read files path env = .error e ∧ e.isRefusal = true) ↔
      ¬ ∃ e, Escapes read files path env e) ∧
    (∀ given, Provides read files path given → (merged env given).Unshowable →
      ∃ (slot : Slot) (n : ℤ), given slot.name = some (.int n) ∧
        10 ^ Text.numeralLimit ≤ n.natAbs) ∧
    ∀ (e : SettingsError) (format : Console.Format),
      (e.isRefusal = true → Console.settingsExit format e = Console.refuse format e.message) ∧
      (e.isRefusal = false → ∃ fault, Console.settingsExit format e = .fault fault) := by
  have hescapes (e : SettingsError) :
      load read files path env = .error e ∧ e.isRefusal = false ↔ Escapes read files path env e :=
    ⟨fun he => h.escapes he.1 he.2, Escapes.load_eq⟩
  refine ⟨hescapes, ?_, fun _ _ => Unshowable.exists_given, fun e format =>
    ⟨fun he => Console.settingsExit_of_isRefusal he format,
      fun he => Console.settingsExit_of_not_isRefusal he format⟩⟩
  simp only [← hescapes]
  cases load read files path env with
  | ok s => simp
  | error e => cases he : e.isRefusal <;> simp [he]

/-- The name of an entry is the number one. -/
theorem load_escapes_iff_numbered :
    let read : DocumentReader := fun _ => .ok (.map [(.int 1, .str "x")])
    let files : Files := fun _ => some (.file .empty)
    Delivers read files none (.map [(.int 1, .str "x")]) ∧
      load read files none [] = .error .unnamedKey ∧
      SettingsError.unnamedKey.isRefusal = false := by
  intro read files
  have hfile : Delivers read files none (.map [(.int 1, .str "x")]) :=
    ⟨⟨_, rfl, rfl⟩, List.nodup_nil⟩
  obtain ⟨hescapes, -⟩ := load_escapes_iff read files none [] _ hfile
  exact ⟨hfile, (hescapes _).mpr (.name hfile List.mem_cons_self (by simp))⟩

end Settings

end ContractAudit
