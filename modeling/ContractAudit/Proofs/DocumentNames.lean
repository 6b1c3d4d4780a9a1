import ContractAudit.Proofs.SettingsLayers
import ContractAudit.Yaml.Reader
import Mathlib.Data.List.Nodup

/-!
# Names in a document

An entry of a mapping whose name is there already takes the place of the old one. So a mapping that
is read from a text has each name at most once, as layers of settings require of a document, and
what it gives to a name does not depend on the order in which it is searched.
-/
namespace ContractAudit

namespace Yaml

def textKeys (entries : List (Setting × Setting)) : List String :=
  (Settings.knownEntries entries).map Prod.fst

theorem textKeys_cons (key value : Setting) (rest : List (Setting × Setting)) :
    textKeys ((key, value) :: rest) = match key with
      | .str name => name :: textKeys rest
      | _ => textKeys rest := by
  cases key <;> rfl

theorem textKeys_setEntry_str (entries : List (Setting × Setting)) (name : String)
    (value : Setting) :
    textKeys (setEntry entries (.str name) value) =
      if name ∈ textKeys entries then textKeys entries else textKeys entries ++ [name] := by
  induction entries with
  | nil => rfl
  | cons entry rest ih =>
    obtain ⟨key, v⟩ := entry
    cases key with
    | str known =>
      by_cases hname : known = name
      · subst hname
        simp [setEntry, textKeys_cons]
      · have hstep : setEntry ((.str known, v) :: rest) (.str name) value =
            (.str known, v) :: setEntry rest (.str name) value := by
          simp [setEntry, hname]
        rw [hstep, textKeys_cons, textKeys_cons, ih]
        by_cases hold : name ∈ textKeys rest
        · simp [hold]
        · simp [hold, Ne.symm hname]
    | _ => simpa [setEntry, textKeys_cons] using ih

theorem textKeys_setEntry_of_not_text {key : Setting} (h : key.isText = false)
    (entries : List (Setting × Setting)) (value : Setting) :
    textKeys (setEntry entries key value) = textKeys entries := by
  induction entries with
  | nil =>
    cases key with
    | str name => simp [Setting.isText] at h
    | _ => rfl
  | cons entry rest ih =>
    have hcons : setEntry (entry :: rest) key value = entry :: setEntry rest key value := by
      cases key with
      | str name => simp [Setting.isText] at h
      | _ => rfl
    rw [hcons, textKeys_cons, textKeys_cons, ih]

theorem nodup_textKeys_setEntry {entries : List (Setting × Setting)}
    (h : (textKeys entries).Nodup) (key value : Setting) :
    (textKeys (setEntry entries key value)).Nodup := by
  cases hkey : key.isText with
  | false => rwa [textKeys_setEntry_of_not_text hkey]
  | true =>
    obtain ⟨name, rfl⟩ := Setting.isText_iff.mp hkey
    rw [textKeys_setEntry_str]
    split
    · exact h
    · rename_i hnew
      exact h.append (by simp) (by simpa using hnew)

theorem nodup_textKeys_setEntries {known : List (Setting × Setting)}
    (h : (textKeys known).Nodup) (pairs : List (Setting × Setting)) :
    (textKeys (pairs.foldl (fun known entry => setEntry known entry.1 entry.2) known)).Nodup := by
  induction pairs generalizing known with
  | nil => exact h
  | cons entry rest ih => exact ih (nodup_textKeys_setEntry h entry.1 entry.2)

theorem mapError_eq_ok_iff {ε ε' α : Type} {f : ε → ε'} {x : Except ε α} {a : α} :
    x.mapError f = .ok a ↔ x = .ok a := by
  cases x <;> simp [Except.mapError]

theorem momentOf_ne_map (t : Text) (entries : List (Setting × Setting)) :
    momentOf t ≠ .ok (.map entries) := by
  intro h
  unfold momentOf at h
  split at h
  · cases h
  · obtain ⟨_, -, hdate⟩ := bind_eq_ok_iff.mp h
    cases hdate
  · obtain ⟨_, -, hmoment⟩ := bind_eq_ok_iff.mp h
    cases hmoment

theorem ofScalar_ne_map (tag : Tag) (t : Text) (entries : List (Setting × Setting)) :
    Node.ofScalar tag t ≠ .ok (.map entries) := by
  intro h
  unfold Node.ofScalar at h
  split at h
  · cases h
  · cases hb : truthValue t <;> simp [hb, Except.map] at h
  · cases hn : whole t <;> simp [hn, Except.map] at h
  · cases hx : real t <;> simp [hx, Except.map] at h
  · exact momentOf_ne_map t entries h
  · cases h
  · split at h
    · split at h <;> cases h
    · cases h
  · cases h

theorem nodup_textKeys_toSetting {bound depth : Nat} {n : Node}
    {entries : List (Setting × Setting)} (h : n.toSetting bound depth = .ok (.map entries)) :
    (textKeys entries).Nodup := by
  unfold Node.toSetting at h
  split at h
  · cases h
  · split at h <;> cases h
    exact List.nodup_nil
  · dsimp only at h
    split at h
    · obtain ⟨_, -, hlist⟩ := bind_eq_ok_iff.mp h
      cases hlist
    · obtain ⟨_, -, hrest⟩ := bind_eq_ok_iff.mp h
      obtain ⟨pairs, -, hmap⟩ := bind_eq_ok_iff.mp hrest
      cases hmap
      have hnil : (textKeys []).Nodup := List.nodup_nil
      exact nodup_textKeys_setEntries hnil pairs
    · obtain ⟨_, -, hrest⟩ := bind_eq_ok_iff.mp h
      obtain ⟨_, -, hset⟩ := bind_eq_ok_iff.mp hrest
      cases hset
    · obtain ⟨_, -, hlist⟩ := bind_eq_ok_iff.mp h
      cases hlist
    · obtain ⟨_, -, hlist⟩ := bind_eq_ok_iff.mp h
      cases hlist
    · split at h
      · cases h
      · obtain ⟨_, -, hscalar⟩ := bind_eq_ok_iff.mp (mapError_eq_ok_iff.mp h)
        exact absurd hscalar (ofScalar_ne_map _ _ entries)

theorem nodup_textKeys_read {t : Text} {entries : List (Setting × Setting)}
    (h : read t = .ok (.map entries)) : (textKeys entries).Nodup := by
  unfold read at h
  dsimp only at h
  split at h
  · cases h
  · obtain ⟨_, -, hnode⟩ := bind_eq_ok_iff.mp h
    obtain ⟨n, -, hvalue⟩ := bind_eq_ok_iff.mp hnode
    cases n with
    | none => cases hvalue
    | some n => exact nodup_textKeys_toSetting (mapError_eq_ok_iff.mp hvalue)

theorem proper_of_reader {content : ByteArray} {document : Setting}
    (h : reader content = .ok document) : document.Proper := by
  cases document with
  | map entries =>
    unfold reader at h
    split at h
    · cases h
    · split at h
      · cases h
      · cases h
      · rename_i hread
        cases h
        exact nodup_textKeys_read hread
  | _ => trivial

end Yaml

/-- A document that is read from a file is fit for settings. -/
theorem Settings.delivers_of_reader {files : Files} {path : Option String} {content : ByteArray}
    {document : Setting} (hfile : files (fileName path) = some (.file content))
    (hread : Yaml.reader content = .ok document) : Delivers Yaml.reader files path document :=
  ⟨⟨content, hfile, hread⟩, Yaml.proper_of_reader hread⟩

end ContractAudit
