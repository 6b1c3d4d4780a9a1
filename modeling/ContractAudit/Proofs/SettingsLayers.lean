import ContractAudit.Proofs.UsableSettings

/-!
# Layers of settings

Each setting comes from its variable, if that is set and can be converted, else from the file, else
from the defaults. `Provides` says what a file gives by name, and `merged` what the layers give
together. Loading is the check of `merged`: whatever a variable replaces is not looked at.
-/
namespace ContractAudit

theorem Setting.isText_iff {s : Setting} : s.isText = true ↔ ∃ name, s = .str name := by
  cases s <;> simp [isText]

/-! ## One setting at a time -/

namespace Settings

inductive Slot where
  | apiKey
  | model
  | baseUrl
  | timeout
  | maxFindings
  | threshold

namespace Slot

def name : Slot → String
  | apiKey => "api_key"
  | model => "model"
  | baseUrl => "base_url"
  | timeout => "ai_timeout"
  | maxFindings => "ai_max_findings"
  | threshold => "compliance_threshold"

def envName : Slot → String
  | apiKey => "GROQ_API_KEY"
  | model => "GROQ_MODEL"
  | baseUrl => "GROQ_BASE_URL"
  | timeout => "CHAINAUDIT_AI_TIMEOUT"
  | maxFindings => "CHAINAUDIT_AI_MAX_FINDINGS"
  | threshold => "CHAINAUDIT_COMPLIANCE_THRESHOLD"

def convert (slot : Slot) (raw : String) : Option Setting :=
  match slot with
  | apiKey | model | baseUrl => some (.str raw)
  | timeout => (Text.readDouble? raw.toList).map .float
  | maxFindings | threshold => (Text.readInteger? raw.toList).map .int

def initial : Slot → Setting
  | apiKey => .str ""
  | model => .str "llama-3.3-70b-versatile"
  | baseUrl => .str "https://api.groq.com/openai/v1"
  | timeout => .float (.ofDecimal false 20 0)
  | maxFindings => .int 3
  | threshold => .int 80

def of : Slot → Settings → Setting
  | apiKey, s => s.apiKey
  | model, s => s.model
  | baseUrl, s => s.baseUrl
  | timeout, s => s.timeout
  | maxFindings, s => s.maxFindings
  | threshold, s => s.threshold

end Slot

def ofSlots (value : Slot → Setting) : Settings where
  apiKey := value .apiKey
  model := value .model
  baseUrl := value .baseUrl
  timeout := value .timeout
  maxFindings := value .maxFindings
  threshold := value .threshold

@[simp] theorem of_ofSlots (slot : Slot) (value : Slot → Setting) :
    slot.of (ofSlots value) = value slot := by
  cases slot <;> rfl

theorem eq_ofSlots {s : Settings} {value : Slot → Setting}
    (h : ∀ slot : Slot, slot.of s = value slot) : s = ofSlots value := by
  have hfields : s = ofSlots fun slot => slot.of s := rfl
  rw [hfields, funext h]

theorem of_defaults (slot : Slot) : slot.of ({} : Settings) = slot.initial := by
  cases slot <;> rfl

theorem of_set_self (slot : Slot) (s : Settings) (value : Setting) :
    slot.of (s.set slot.name value) = value := by
  cases slot <;> rfl

theorem of_set_of_ne {slot : Slot} {name : String} (h : name ≠ slot.name) (s : Settings)
    (value : Setting) : slot.of (s.set name value) = slot.of s := by
  unfold set
  split <;> cases slot <;> simp_all [Slot.of, Slot.name]

/-- Of values with different names, each setting takes its own. -/
theorem of_setAll (slot : Slot) {values : List (String × Setting)}
    (h : (values.map Prod.fst).Nodup) (s : Settings) :
    slot.of (s.setAll values) = (values.lookup slot.name).getD (slot.of s) := by
  induction values generalizing s with
  | nil => rfl
  | cons entry rest ih =>
    obtain ⟨name, value⟩ := entry
    obtain ⟨hnew, hrest⟩ := List.nodup_cons.mp h
    have hstep : s.setAll ((name, value) :: rest) = (s.set name value).setAll rest := rfl
    rw [hstep, ih hrest, List.lookup_cons]
    by_cases hname : name = slot.name
    · subst hname
      have hnone : rest.lookup slot.name = none := by
        rw [List.lookup_eq_none_iff]
        intro p hp
        rw [bne_iff_ne]
        intro heq
        exact hnew (List.mem_map.mpr ⟨p, hp, heq.symm⟩)
      simp [hnone, of_set_self]
    · rw [of_set_of_ne hname, beq_eq_false_iff_ne.mpr (Ne.symm hname)]

theorem find?_map_snd_eq_lookup (env : Environment) (name : String) :
    (env.find? fun entry => entry.1 == name).map Prod.snd = env.lookup name := by
  induction env with
  | nil => rfl
  | cons entry rest ih =>
    obtain ⟨key, value⟩ := entry
    rw [List.lookup_cons, List.find?_cons]
    by_cases hname : key = name
    · simp [hname]
    · rw [beq_eq_false_iff_ne.mpr hname, beq_eq_false_iff_ne.mpr (Ne.symm hname)]
      exact ih

theorem override?_eq (env : Environment) (v : Variable) :
    override? env v =
      ((env.lookup v.name).bind v.conversion.convert?).map fun value => (v.setting, value) := by
  rw [← find?_map_snd_eq_lookup]
  cases hfind : env.find? fun entry => entry.1 == v.name with
  | none => simp [override?, hfind]
  | some entry => cases hvalue : v.conversion.convert? entry.2 <;> simp [override?, hfind, hvalue]

def applyVariable (env : Environment) (s : Settings) (v : Variable) : Settings :=
  ((env.lookup v.name).bind v.conversion.convert?).elim s (s.set v.setting)

theorem setAll_overrides_eq_foldl (env : Environment) (s : Settings) :
    s.setAll (overrides env) = watched.foldl (applyVariable env) s := by
  unfold overrides
  generalize watched = vs
  induction vs generalizing s with
  | nil => rfl
  | cons v rest ih =>
    rw [List.foldl_cons, ← ih, List.filterMap_cons, override?_eq, applyVariable]
    cases (env.lookup v.name).bind v.conversion.convert? <;> rfl

theorem of_applyVariable (slot : Slot) (env : Environment) (s : Settings) (v : Variable) :
    slot.of (applyVariable env s v) =
      if v.setting = slot.name then
        ((env.lookup v.name).bind v.conversion.convert?).getD (slot.of s)
      else slot.of s := by
  unfold applyVariable
  cases (env.lookup v.name).bind v.conversion.convert? with
  | none => simp
  | some value =>
    by_cases hname : v.setting = slot.name
    · simp [hname, of_set_self]
    · simp [hname, of_set_of_ne hname]

theorem of_setAll_overrides (slot : Slot) (env : Environment) (s : Settings) :
    slot.of (s.setAll (overrides env)) =
      ((env.lookup slot.envName).bind slot.convert).getD (slot.of s) := by
  rw [setAll_overrides_eq_foldl]
  cases slot <;> simp [watched, of_applyVariable, Slot.name, Slot.envName] <;> rfl

end Settings

/-! ## What a file gives -/

/-- No two entries of a mapping have the same text as their name. -/
def Setting.Proper : Setting → Prop
  | map entries => ((Settings.knownEntries entries).map Prod.fst).Nodup
  | _ => True

namespace Settings

def fileName : Option String → String
  | some path => Path.normal path
  | none => defaultFile

structure Delivers (read : DocumentReader) (files : Files) (path : Option String)
    (document : Setting) : Prop where
  content : ∃ content, files (fileName path) = some (.file content) ∧ read content = .ok document
  proper : document.Proper

/-- What the file gives to each name: nothing if it is not there or empty, else what its mapping
holds, if all names are those of settings. -/
inductive Provides (read : DocumentReader) (files : Files) (path : Option String) :
    (String → Option Setting) → Prop where
  | absent (hpath : path = none) (hfile : ∀ content, files defaultFile ≠ some (.file content)) :
      Provides read files path fun _ => none
  | empty {document : Setting} (hfile : Delivers read files path document)
      (hempty : document.isEmpty = true) : Provides read files path fun _ => none
  | mapping {entries : List (Setting × Setting)} {given : String → Option Setting}
      (hfile : Delivers read files path (.map entries))
      (hnames : ∀ entry ∈ entries, ∃ slot : Slot, entry.1 = .str slot.name)
      (hgiven : ∀ name value, given name = some value ↔ (.str name, value) ∈ entries) :
      Provides read files path given

variable {read : DocumentReader} {files : Files} {path : Option String}

theorem Delivers.fileLayer_eq {document : Setting} (h : Delivers read files path document) :
    fileLayer read files path = ofDocument (fileName path) document := by
  obtain ⟨content, hfile, hread⟩ := h.content
  have hcontent : ofFile read (fileName path) content = ofDocument (fileName path) document := by
    simp only [ofFile, hread]
  cases path with
  | none =>
    simp only [fileName] at hfile hcontent ⊢
    simp only [fileLayer, hfile, hcontent]
  | some path =>
    simp only [fileName] at hfile hcontent ⊢
    simp only [fileLayer, hfile, hcontent]

theorem mem_names_iff {name : String} : name ∈ names ↔ ∃ slot : Slot, name = slot.name := by
  constructor
  · intro h
    simp only [names, List.mem_cons, List.not_mem_nil, or_false] at h
    rcases h with rfl | rfl | rfl | rfl | rfl | rfl
    · exact ⟨.apiKey, rfl⟩
    · exact ⟨.model, rfl⟩
    · exact ⟨.baseUrl, rfl⟩
    · exact ⟨.timeout, rfl⟩
    · exact ⟨.maxFindings, rfl⟩
    · exact ⟨.threshold, rfl⟩
  · rintro ⟨slot, rfl⟩
    cases slot <;> simp [names, Slot.name]

theorem mem_knownEntries_iff {entries : List (Setting × Setting)} {name : String}
    {value : Setting} :
    (name, value) ∈ knownEntries entries ↔ (.str name, value) ∈ entries := by
  rw [knownEntries, List.mem_filterMap]
  constructor
  · rintro ⟨⟨key, v⟩, hmem, hkey⟩
    cases key with
    | str known =>
      cases hkey
      exact hmem
    | _ => cases hkey
  · intro hmem
    exact ⟨_, hmem, rfl⟩

theorem lookup_eq_some_iff_mem {values : List (String × Setting)}
    (h : (values.map Prod.fst).Nodup) {name : String} {value : Setting} :
    values.lookup name = some value ↔ (name, value) ∈ values := by
  rw [List.lookup_eq_some_iff]
  constructor
  · rintro ⟨l₁, l₂, rfl, -⟩
    simp
  · intro hmem
    obtain ⟨l₁, l₂, rfl⟩ := List.append_of_mem hmem
    refine ⟨l₁, l₂, rfl, ?_⟩
    intro p hp
    rw [bne_iff_ne]
    intro heq
    rw [List.map_append, List.map_cons] at h
    exact (List.nodup_append.mp h).2.2 p.1 (List.mem_map_of_mem hp) name List.mem_cons_self heq.symm

theorem Delivers.lookup_eq_some_iff {entries : List (Setting × Setting)}
    (h : Delivers read files path (.map entries)) (name : String) (value : Setting) :
    (knownEntries entries).lookup name = some value ↔ (.str name, value) ∈ entries := by
  rw [lookup_eq_some_iff_mem h.proper, mem_knownEntries_iff]

theorem unknownNames_isEmpty_iff {values : List (String × Setting)} :
    (unknownNames values).isEmpty = true ↔ ∀ entry ∈ values, entry.1 ∈ names := by
  rw [unknownNames, List.isEmpty_iff, ← List.length_eq_zero_iff, List.length_mergeSort,
    List.length_eq_zero_iff, List.filter_eq_nil_iff]
  simp

theorem any_not_isText_eq_false_iff {entries : List (Setting × Setting)} :
    (entries.any fun entry => !entry.1.isText) = false ↔
      ∀ entry ∈ entries, ∃ name, entry.1 = .str name := by
  simp only [List.any_eq_false, Bool.not_eq_true', Bool.not_eq_false, Setting.isText_iff]

theorem ofDocument_of_known {entries : List (Setting × Setting)} (file : String)
    (h : ∀ entry ∈ entries, ∃ slot : Slot, entry.1 = .str slot.name) :
    ofDocument file (.map entries) = .ok (knownEntries entries) := by
  have htexts : (entries.any fun entry => !entry.1.isText) = false := by
    rw [any_not_isText_eq_false_iff]
    intro entry hentry
    obtain ⟨slot, hslot⟩ := h entry hentry
    exact ⟨slot.name, hslot⟩
  have hknown : (unknownNames (knownEntries entries)).isEmpty = true := by
    rw [unknownNames_isEmpty_iff]
    rintro ⟨name, value⟩ hmem
    obtain ⟨slot, hslot⟩ := h _ (mem_knownEntries_iff.mp hmem)
    cases hslot
    exact mem_names_iff.mpr ⟨slot, rfl⟩
  cases entries with
  | nil => rfl
  | cons entry rest => simp [ofDocument, Setting.isEmpty, htexts, hknown]

theorem Provides.exists_fileLayer {given : String → Option Setting}
    (h : Provides read files path given) :
    ∃ values, fileLayer read files path = .ok values ∧ (values.map Prod.fst).Nodup ∧
      ∀ name, values.lookup name = given name := by
  cases h with
  | absent hpath hfile =>
    subst hpath
    refine ⟨[], ?_, List.nodup_nil, fun _ => rfl⟩
    cases hentry : files defaultFile with
    | none => simp only [fileLayer, hentry]
    | some entry =>
      cases entry with
      | file content => exact absurd hentry (hfile content)
      | directory => simp only [fileLayer, hentry]
  | empty hfile hempty =>
    refine ⟨[], ?_, List.nodup_nil, fun _ => rfl⟩
    rw [hfile.fileLayer_eq]
    simp [ofDocument, hempty]
  | mapping hfile hnames hgiven =>
    refine ⟨_, ?_, hfile.proper, ?_⟩
    · rw [hfile.fileLayer_eq, ofDocument_of_known _ hnames]
    · intro name
      apply Option.ext
      intro value
      rw [hgiven, hfile.lookup_eq_some_iff]

def chosen (env : Environment) (given : String → Option Setting) (slot : Slot) : Setting :=
  (((env.lookup slot.envName).bind slot.convert).or (given slot.name)).getD slot.initial

def merged (env : Environment) (given : String → Option Setting) : Settings :=
  ofSlots (chosen env given)

theorem layered_eq_merged {values : List (String × Setting)} {given : String → Option Setting}
    (hdistinct : (values.map Prod.fst).Nodup) (hvalues : ∀ name, values.lookup name = given name)
    (env : Environment) : layered values (overrides env) = merged env given := by
  apply eq_ofSlots
  intro slot
  rw [layered, of_setAll_overrides, of_setAll slot hdistinct, of_defaults, hvalues, chosen]
  cases (env.lookup slot.envName).bind slot.convert <;> rfl

theorem Provides.load_eq {given : String → Option Setting} (h : Provides read files path given)
    (env : Environment) :
    load read files path env =
      ((merged env given).validate.mapError .invalid).map fun _ => merged env given := by
  obtain ⟨values, hlayer, hdistinct, hvalues⟩ := h.exists_fileLayer
  simp only [load, hlayer, bind, Except.bind, layered_eq_merged hdistinct hvalues]
  cases (merged env given).validate <;> rfl

/-! ## The environment -/

theorem Slot.envName_injective {a b : Slot} (h : a.envName = b.envName) : a = b := by
  cases a <;> cases b <;> simp [Slot.envName] at h ⊢

theorem lookup_filter_ne (env : Environment) (name other : String) :
    (env.filter fun entry => entry.1 != name).lookup other =
      if other = name then none else env.lookup other := by
  induction env with
  | nil => simp
  | cons entry rest ih =>
    obtain ⟨key, value⟩ := entry
    by_cases hkey : key = name
    · subst hkey
      rw [List.filter_cons_of_neg (by simp), ih, List.lookup_cons]
      by_cases hother : other = key
      · simp [hother]
      · rw [beq_eq_false_iff_ne.mpr hother]
    · rw [List.filter_cons_of_pos (by simpa using hkey), List.lookup_cons, List.lookup_cons, ih]
      by_cases hother : other = key
      · subst hother
        simp [hkey]
      · rw [beq_eq_false_iff_ne.mpr hother]

theorem merged_congr {env env' : Environment} {given given' : String → Option Setting}
    (h : ∀ slot, chosen env given slot = chosen env' given' slot) :
    merged env given = merged env' given' :=
  congrArg ofSlots (funext h)

theorem merged_filter_of_convert_eq_none {slot : Slot} {raw : String} {env : Environment}
    (hraw : env.lookup slot.envName = some raw) (hnone : slot.convert raw = none)
    (given : String → Option Setting) :
    merged (env.filter fun entry => entry.1 != slot.envName) given = merged env given := by
  apply merged_congr
  intro other
  rw [chosen, chosen, lookup_filter_ne]
  by_cases hname : other.envName = slot.envName
  · obtain rfl := Slot.envName_injective hname
    simp [hraw, hnone]
  · rw [if_neg hname]

theorem Provides.load_eq_ok_iff {given : String → Option Setting}
    (h : Provides read files path given) {env : Environment} {s : Settings} :
    load read files path env = .ok s ↔
      (merged env given).validate = .ok () ∧ s = merged env given := by
  rw [h.load_eq env]
  cases (merged env given).validate <;> simp [Except.map, Except.mapError, eq_comm]

/-- Every setting comes from the highest layer that has it, and only the outcome is checked. -/
theorem load_layers_exact (read : DocumentReader) (files : Files) (path : Option String)
    (given : String → Option Setting) (hfile : Provides read files path given) (env : Environment) :
    (∀ s, load read files path env = .ok s → ∀ slot : Slot, slot.of s =
      (((env.lookup slot.envName).bind slot.convert).or (given slot.name)).getD slot.initial) ∧
    (∀ (slot : Slot) raw, env.lookup slot.envName = some raw → slot.convert raw = none →
      load read files path (env.filter fun entry => entry.1 != slot.envName) =
        load read files path env) ∧
    (∀ env' : Environment, (∀ slot : Slot, env'.lookup slot.envName = env.lookup slot.envName) →
      load read files path env' = load read files path env) ∧
    (∀ read' files' path' given', Provides read' files' path' given' →
      (∀ slot : Slot, (env.lookup slot.envName).bind slot.convert = none →
        given' slot.name = given slot.name) →
      load read' files' path' env = load read files path env) ∧
    (load read files path env = .ok (merged env given) ↔ (merged env given).validate = .ok ()) ∧
    ∀ e, load read files path env = .error (.invalid e) ↔
      (merged env given).validate = .error e := by
  refine ⟨?_, ?_, ?_, ?_, ?_, ?_⟩
  · intro s hload slot
    obtain ⟨-, rfl⟩ := hfile.load_eq_ok_iff.mp hload
    exact of_ofSlots slot _
  · intro slot raw hraw hnone
    rw [hfile.load_eq, hfile.load_eq, merged_filter_of_convert_eq_none hraw hnone]
  · intro env' hsame
    have hmerged : merged env' given = merged env given := by
      apply merged_congr
      intro slot
      rw [chosen, chosen, hsame]
    rw [hfile.load_eq, hfile.load_eq, hmerged]
  · intro read' files' path' given' hfile' hsame
    have hmerged : merged env given' = merged env given := by
      apply merged_congr
      intro slot
      rw [chosen, chosen]
      cases hvalue : (env.lookup slot.envName).bind slot.convert with
      | none => rw [hsame slot hvalue]
      | some value => rfl
    rw [hfile'.load_eq, hfile.load_eq, hmerged]
  · rw [hfile.load_eq_ok_iff, and_iff_left rfl]
  · intro e
    rw [hfile.load_eq]
    cases (merged env given).validate <;> simp [Except.map, Except.mapError]

/-- A limit of 9 is out of range, but a variable replaces it; a timeout that is no number leaves the
default in place. -/
theorem load_layers_exact_overridden :
    let entries : List (Setting × Setting) :=
      [(.str "ai_max_findings", .int 9), (.str "compliance_threshold", .int 70)]
    let read : DocumentReader := fun _ => .ok (.map entries)
    let files : Files := fun _ => some (.file .empty)
    let env : Environment :=
      [("CHAINAUDIT_AI_MAX_FINDINGS", "2"), ("CHAINAUDIT_AI_TIMEOUT", "fast"), ("HOME", "/")]
    ∃ given, Provides read files none given ∧ given "ai_max_findings" = some (.int 9) ∧
      ∃ s, load read files none env = .ok s ∧ s.maxFindings = .int 2 ∧ s.threshold = .int 70 ∧
        s.timeout = .float (.ofDecimal false 20 0) := by
  intro entries read files env
  have hfile : Delivers read files none (.map entries) :=
    ⟨⟨_, rfl, rfl⟩, by simp [Setting.Proper, knownEntries, entries]⟩
  have hgiven : Provides read files none fun name => (knownEntries entries).lookup name := by
    refine .mapping hfile ?_ hfile.lookup_eq_some_iff
    intro entry hentry
    rcases List.mem_pair.mp hentry with rfl | rfl
    · exact ⟨.maxFindings, rfl⟩
    · exact ⟨.threshold, rfl⟩
  obtain ⟨hfields, -, -, -, haccepted, -⟩ := load_layers_exact read files none _ hgiven env
  have hlimit : (env.lookup Slot.maxFindings.envName).bind Slot.maxFindings.convert =
      some (.int 2) := by
    have htwo : Text.readInteger? ['2'] = some 2 := by decide
    simp [env, Slot.envName, Slot.convert, htwo]
  have htimeout : (env.lookup Slot.timeout.envName).bind Slot.timeout.convert = none := by
    have hfast : Text.readDouble? ['f', 'a', 's', 't'] = none := by decide
    simp [env, Slot.envName, Slot.convert, List.lookup_cons, hfast]
  have hload := haccepted.mpr (by decide +kernel)
  refine ⟨_, hgiven, rfl, _, hload, ?_, ?_, ?_⟩
  · exact (hfields _ hload .maxFindings).trans (by rw [hlimit]; rfl)
  · exact (hfields _ hload .threshold).trans rfl
  · exact (hfields _ hload .timeout).trans (by rw [htimeout]; rfl)

end Settings

end ContractAudit
