import Stencil.Proofs.Assoc
import Stencil.Proofs.Document
import Stencil.Proofs.Overlay
import Stencil.Settings.File

/-!
# Stencil.Proofs.Layers

The settings that come out of a parameter and the one file that it may name.

* `fileEntries?`            — the entries of that file, if it holds settings and nothing else.
* `layered?`                — the value of a key in both layers.
* `SettingValues.layered`   — the values of all settings, with their defaults.
* `SettingValues.fault?`    — the first check that such values do not pass.

`RawSettings.ofToml_cases` goes through a document, in which every key stands once, and
`RawSettings.layered_eq` puts the layers together. `RawSettings.resolve_checks` goes through the
checks on what comes out, and `ofParameter_layered` is the whole.
-/

namespace Stencil

def textKeys : List String :=
  ["template", "lang", "output_path", "generate_type"]

/-- A file sets texts and booleans, and names no file. -/
def isSetting : String × Toml.Value → Bool
  | (key, .text _) => textKeys.contains key
  | (key, .boolean _) => booleanKeys.contains key
  | _ => false

/-- No file is as good as one without entries. -/
def fileEntries? (toml : Toml.Reader) (disk : Disk) (parameter : String) : Option Toml.Entries :=
  match inline? parameter "config" with
  | none => some []
  | some path =>
    match disk.readText path with
    | .error _ => none
    | .ok source => (toml.entries source).toOption.filter (·.all isSetting)

/-- The value of an entry as a piece would have it. -/
def Toml.Value.written? : Toml.Value → Option String
  | .text s => some s
  | .boolean b => some (booleanText b)
  | _ => none

/-- A piece counts before an entry, also if its value is empty. -/
def layered? (parameter : String) (entries : Toml.Entries) (key : String) : Option String :=
  (inline? parameter key).or ((entries.lookup key).bind Toml.Value.written?)

/-- The settings of a run with language and unit by name. A text that is not set is empty. -/
structure SettingValues where
  template : String
  lang : String
  outputPath : String
  unit : String
  allowMerge : Bool
  overwrite : Bool
  flatten : Bool
deriving DecidableEq, Repr

def Settings.values (s : Settings) : SettingValues :=
  ⟨s.template, s.language.name, s.outputPath, s.unit.name, s.allowMerge, s.overwrite, s.flatten⟩

namespace SettingValues

def ofKeys (value? : SettingKey → Option String) : SettingValues :=
  { template := (value? .template).getD ""
    lang := (value? .lang).getD ""
    outputPath := (value? .outputPath).getD ""
    unit := (value? .unit).getD ""
    allowMerge := ((value? .allowMerge).map (· == "true")).getD false
    overwrite := ((value? .overwrite).map (· == "true")).getD true
    flatten := ((value? .flatten).map (· == "true")).getD true }

def layered (parameter : String) (entries : Toml.Entries) : SettingValues :=
  ofKeys fun k => layered? parameter entries k.name

def fault? (v : SettingValues) : Option SettingError :=
  if v.template = "" then some ⟨"template", .required⟩
  else if v.lang = "" then some ⟨"lang", .required⟩
  else if v.lang ∉ Language.all.map (·.name) then some ⟨"lang", .unknownLanguage v.lang⟩
  else if v.outputPath = "" then some ⟨"output_path", .required⟩
  else if v.unit = "" then some ⟨"generate_type", .required⟩
  else if v.unit ∉ UnitKind.all.map (·.name) then some ⟨"generate_type", .unknownUnit v.unit⟩
  else none

structure Valid (v : SettingValues) : Prop where
  template : v.template ≠ ""
  lang : v.lang ≠ ""
  knownLang : ∃ lang : Language, lang.name = v.lang
  outputPath : v.outputPath ≠ ""
  unit : v.unit ≠ ""
  knownUnit : ∃ unit : UnitKind, unit.name = v.unit

end SettingValues

/-! ## Checks -/

theorem Language.find?_name (lang : Language) :
    Language.all.find? (·.name == lang.name) = some lang := by
  cases lang <;> rfl

theorem UnitKind.find?_name (unit : UnitKind) :
    UnitKind.all.find? (·.name == unit.name) = some unit := by
  cases unit <;> rfl

theorem RawSettings.required_eq (key : String) (value? : Option String) :
    required key value? =
      if value?.getD "" = "" then .error ⟨key, .required⟩ else .ok (value?.getD "") := by
  cases value? with
  | none => simp [required]
  | some value => simp [required, String.isEmpty_iff]

theorem RawSettings.language_cases (name : String) :
    (name ∉ Language.all.map (·.name) ∧
        RawSettings.language name = .error ⟨"lang", .unknownLanguage name⟩) ∨
      name ∈ Language.all.map (·.name) ∧
        ∃ lang, RawSettings.language name = .ok lang ∧ lang.name = name := by
  unfold RawSettings.language Language.ofName?
  obtain ⟨hs, hfound⟩ | ⟨hs, lang, hfound, hname⟩ := find?_name_cases Language.find?_name name
  · exact .inl ⟨hs, by rw [hfound]⟩
  · exact .inr ⟨hs, lang, by rw [hfound], hname⟩

theorem RawSettings.unit_cases (name : String) :
    (name ∉ UnitKind.all.map (·.name) ∧
        RawSettings.unit name = .error ⟨"generate_type", .unknownUnit name⟩) ∨
      name ∈ UnitKind.all.map (·.name) ∧
        ∃ unit, RawSettings.unit name = .ok unit ∧ unit.name = name := by
  unfold RawSettings.unit UnitKind.ofName?
  obtain ⟨hs, hfound⟩ | ⟨hs, unit, hfound, hname⟩ := find?_name_cases UnitKind.find?_name name
  · exact .inl ⟨hs, by rw [hfound]⟩
  · exact .inr ⟨hs, unit, by rw [hfound], hname⟩

theorem ite_some_eq_none {α : Type} {p : Prop} [Decidable p] {a : α} {rest : Option α} :
    (if p then some a else rest) = none ↔ ¬ p ∧ rest = none := by
  split <;> simp [*]

theorem SettingValues.fault?_eq_none {v : SettingValues} : v.fault? = none ↔ v.Valid := by
  simp only [fault?, ite_some_eq_none, Classical.not_not, and_true,
    mem_names_iff Language.find?_name, mem_names_iff UnitKind.find?_name]
  constructor
  · rintro ⟨template, lang, knownLang, outputPath, unit, knownUnit⟩
    exact ⟨template, lang, knownLang, outputPath, unit, knownUnit⟩
  · intro h
    exact ⟨h.template, h.lang, h.knownLang, h.outputPath, h.unit, h.knownUnit⟩

theorem map_booleanText (flag? : Option Bool) :
    (flag?.map booleanText).map (· == "true") = flag? := by
  obtain _ | _ | _ := flag? <;> rfl

theorem RawSettings.ofKeys_written? (raw : RawSettings) :
    SettingValues.ofKeys raw.written? =
      { template := raw.template?.getD ""
        lang := raw.lang?.getD ""
        outputPath := raw.outputPath?.getD ""
        unit := raw.unit?.getD ""
        allowMerge := raw.allowMerge?.getD false
        overwrite := raw.overwrite?.getD true
        flatten := raw.flatten?.getD true } := by
  simp only [SettingValues.ofKeys, written?, map_booleanText]

theorem RawSettings.resolve_checks (raw : RawSettings) :
    (∃ e, (SettingValues.ofKeys raw.written?).fault? = some e ∧ raw.resolve = .error e) ∨
      (SettingValues.ofKeys raw.written?).fault? = none ∧
        ∃ s, raw.resolve = .ok s ∧ s.values = SettingValues.ofKeys raw.written? := by
  rw [ofKeys_written?]
  unfold resolve SettingValues.fault?
  simp only [required_eq, bind, Except.bind, pure, Except.pure]
  by_cases htemplate : raw.template?.getD "" = ""
  · exact .inl ⟨_, if_pos htemplate, by rw [if_pos htemplate]⟩
  simp only [if_neg htemplate]
  by_cases hlang : raw.lang?.getD "" = ""
  · exact .inl ⟨_, if_pos hlang, by rw [if_pos hlang]⟩
  simp only [if_neg hlang]
  obtain ⟨hunknown, hlanguage⟩ | ⟨hknown, lang, hlanguage, hname⟩ :=
    language_cases (raw.lang?.getD "")
  · exact .inl ⟨_, if_pos hunknown, by rw [hlanguage]⟩
  simp only [if_neg (not_not_intro hknown), hlanguage]
  by_cases hpath : raw.outputPath?.getD "" = ""
  · exact .inl ⟨_, if_pos hpath, by rw [if_pos hpath]⟩
  simp only [if_neg hpath]
  by_cases hunit : raw.unit?.getD "" = ""
  · exact .inl ⟨_, if_pos hunit, by rw [if_pos hunit]⟩
  simp only [if_neg hunit]
  obtain ⟨hunknown, hkind⟩ | ⟨hknown, unit, hkind, hunitName⟩ := unit_cases (raw.unit?.getD "")
  · exact .inl ⟨_, if_pos hunknown, by rw [hkind]⟩
  simp only [if_neg (not_not_intro hknown), hkind]
  exact .inr ⟨trivial, _, rfl, by simp only [Settings.values, hname, hunitName]⟩

/-! ## The file -/

namespace RawSettings

theorem textOf_cases (v : Toml.Value) :
    (∃ s, v = .text s ∧ textOf v = .ok s) ∨
      (∀ key ∈ textKeys, isSetting (key, v) = false) ∧ ∃ misfit, textOf v = .error misfit := by
  have hkeys : ∀ key ∈ textKeys, booleanKeys.contains key = false := by decide
  unfold textOf
  split
  · exact .inl ⟨_, rfl, rfl⟩
  · rename_i hnot
    refine .inr ⟨fun key hkey => ?_, _, rfl⟩
    cases v with
    | text s => exact absurd rfl (hnot s)
    | boolean b => exact hkeys key hkey
    | _ => rfl

theorem booleanOf_cases (v : Toml.Value) :
    (∃ b, v = .boolean b ∧ booleanOf v = .ok b) ∨
      (∀ key ∈ booleanKeys, isSetting (key, v) = false) ∧
        ∃ misfit, booleanOf v = .error misfit := by
  have hkeys : ∀ key ∈ booleanKeys, textKeys.contains key = false := by decide
  unfold booleanOf
  split
  · exact .inl ⟨_, rfl, rfl⟩
  · rename_i hnot
    refine .inr ⟨fun key hkey => ?_, _, rfl⟩
    cases v with
    | boolean b => exact absurd rfl (hnot b)
    | text s => exact hkeys key hkey
    | _ => rfl

theorem assignEntry_cases (raw : RawSettings) (key : String) (v : Toml.Value) :
    (isSetting (key, v) = false ∧ ∃ misfit, raw.assignEntry key v = .error misfit) ∨
      isSetting (key, v) = true ∧ ∃ next, raw.assignEntry key v = .ok next ∧
        ∀ k, next.written? k = if key = k.name then v.written? else raw.written? k := by
  unfold assignEntry
  split
  case h_1 | h_2 | h_3 | h_4 =>
    obtain ⟨s, rfl, hs⟩ | ⟨hnot, misfit, hs⟩ := textOf_cases v
    · refine .inr ⟨rfl, _, by rw [hs]; rfl, fun k => ?_⟩
      cases k <;> rfl
    · exact .inl ⟨hnot _ (by decide), misfit, by rw [hs]; rfl⟩
  case h_5 | h_6 | h_7 =>
    obtain ⟨b, rfl, hb⟩ | ⟨hnot, misfit, hb⟩ := booleanOf_cases v
    · refine .inr ⟨rfl, _, by rw [hb]; rfl, fun k => ?_⟩
      cases k <;> rfl
    · exact .inl ⟨hnot _ (by decide), misfit, by rw [hb]; rfl⟩
  case h_8 =>
    refine .inl ⟨?_, _, rfl⟩
    cases v <;> simp_all [isSetting, textKeys, booleanKeys]

theorem assignEntries_cases (raw : RawSettings) {entries : Toml.Entries}
    (hkeys : (entries.map (·.1)).Nodup) :
    (entries.all isSetting = false ∧ ∃ fault, raw.assignEntries entries = .error fault) ∨
      entries.all isSetting = true ∧ ∃ file, raw.assignEntries entries = .ok file ∧
        ∀ k, file.written? k = match entries.lookup k.name with
          | some v => v.written?
          | none => raw.written? k := by
  induction entries generalizing raw with
  | nil => exact .inr ⟨rfl, raw, rfl, fun _ => rfl⟩
  | cons entry rest ih =>
    obtain ⟨key, v⟩ := entry
    obtain ⟨hkey, hrest⟩ := List.nodup_cons.mp hkeys
    rw [List.all_cons, assignEntries]
    obtain ⟨hnot, misfit, hentry⟩ | ⟨hentry, next, hnext, hwritten⟩ := raw.assignEntry_cases key v
    · exact .inl ⟨by rw [hnot]; rfl, _, by rw [hentry]⟩
    · rw [hentry, Bool.true_and, hnext]
      obtain h | ⟨hall, file, hfile, hlast⟩ := ih next hrest
      · exact .inl h
      · refine .inr ⟨hall, file, hfile, fun k => ?_⟩
        rw [hlast, hwritten, List.lookup_cons]
        by_cases hk : key = k.name
        · have habsent : rest.lookup k.name = none :=
            lookup_eq_none_iff_notMem.mpr (hk ▸ hkey)
          simp [habsent, hk]
        · rw [beq_false_of_ne (Ne.symm hk), if_neg hk]

theorem ofToml_cases {toml : Toml.Reader} (htoml : toml.KeysApart) (source : String) :
    ((toml.entries source).toOption.filter (·.all isSetting) = none ∧
        ∃ e : SettingError, e.key = "config" ∧ ofToml toml source = .error e) ∨
      ∃ entries file, (toml.entries source).toOption.filter (·.all isSetting) = some entries ∧
        ofToml toml source = .ok file ∧
        ∀ k, file.written? k = (entries.lookup k.name).bind Toml.Value.written? := by
  unfold ofToml
  cases hentries : toml.entries source with
  | error text => exact .inl ⟨rfl, _, rfl, rfl⟩
  | ok entries =>
    obtain ⟨hnot, ⟨key, misfit⟩, hfail⟩ | ⟨hset, file, hfile, hwritten⟩ :=
      assignEntries_cases {} (htoml source entries hentries)
    · refine .inl ⟨?_, ⟨"config", .invalid (toml.placed source key misfit.message)⟩, rfl,
        by simp only [hfail]⟩
      rw [Except.toOption, Option.filter_some, hnot, if_neg Bool.false_ne_true]
    · refine .inr ⟨entries, file, ?_, by simp only [hfile], fun k => ?_⟩
      · rw [Except.toOption, Option.filter_some, if_pos hset]
      · rw [hwritten, written?_empty]
        cases entries.lookup k.name <;> rfl

end RawSettings

def fileLayer (toml : Toml.Reader) (disk : Disk) (parameter : String) :
    Except SettingError RawSettings :=
  match inline? parameter "config" with
  | none => .ok {}
  | some path => RawSettings.ofFile toml disk path

theorem fileLayer_cases {toml : Toml.Reader} (htoml : toml.KeysApart) (disk : Disk)
    (parameter : String) :
    (fileEntries? toml disk parameter = none ∧
        ∃ e : SettingError, e.key = "config" ∧ fileLayer toml disk parameter = .error e) ∨
      ∃ entries file, fileEntries? toml disk parameter = some entries ∧
        fileLayer toml disk parameter = .ok file ∧
        ∀ k, file.written? k = (entries.lookup k.name).bind Toml.Value.written? := by
  unfold fileEntries? fileLayer
  cases inline? parameter "config" with
  | none => exact .inr ⟨[], {}, rfl, rfl, RawSettings.written?_empty⟩
  | some path =>
    simp only [RawSettings.ofFile]
    cases disk.readText path with
    | error fault => exact .inl ⟨rfl, _, rfl, rfl⟩
    | ok source => exact RawSettings.ofToml_cases htoml source

/-! ## Both layers -/

theorem RawSettings.layered_eq {toml : Toml.Reader} {disk : Disk} {parameter : String}
    {inline : RawSettings} (h : RawSettings.ofParameter parameter = .ok inline) :
    layered toml disk parameter = (fileLayer toml disk parameter).map (·.overlay inline) := by
  have hconfig : inline.config? = inline? parameter "config" := ofParameter_written? h .config
  simp only [layered, h, fileLayer, ← hconfig]
  cases hpath : inline.config? with
  | none => simp [Except.map, overlay]
  | some path =>
    simp only
    cases ofFile toml disk path <;> rfl

theorem RawSettings.layered_congr (toml : Toml.Reader) {disk other : Disk} {parameter : String}
    (h : ∀ path, inline? parameter "config" = some path →
      other.readText path = disk.readText path) :
    layered toml other parameter = layered toml disk parameter := by
  cases hraw : RawSettings.ofParameter parameter with
  | error e => rw [layered, layered, hraw]
  | ok inline =>
    have hfile : fileLayer toml other parameter = fileLayer toml disk parameter := by
      unfold fileLayer
      split
      · rfl
      · rename_i path hpath
        rw [ofFile, ofFile, h path hpath]
    rw [layered_eq hraw, layered_eq hraw, hfile]

/-- What a parameter means on a disk. The first piece that has no equals sign, or a boolean key with
another value, ends everything, also where a later piece has the same key. Otherwise the file that
the last `config` piece names is read, and no other; a setting comes from the last piece for its
key, else from that file, else it has its default. The outcome is then that of the checks. -/
theorem ofParameter_layered {toml : Toml.Reader} (htoml : toml.KeysApart) (disk : Disk)
    (parameter : String) :
    (∀ e, firstFault? parameter = some e → Settings.ofParameter toml disk parameter = .error e) ∧
      (firstFault? parameter = none →
        (fileEntries? toml disk parameter = none →
          ∃ e, Settings.ofParameter toml disk parameter = .error e ∧ e.key = "config") ∧
        ∀ entries, fileEntries? toml disk parameter = some entries →
          ((∃ s, Settings.ofParameter toml disk parameter = .ok s) ↔
            (SettingValues.layered parameter entries).Valid) ∧
          (∀ s, Settings.ofParameter toml disk parameter = .ok s →
            s.values = SettingValues.layered parameter entries) ∧
          ∀ e, Settings.ofParameter toml disk parameter = .error e ↔
            (SettingValues.layered parameter entries).fault? = some e) ∧
      ∀ other : Disk,
        (∀ path, inline? parameter "config" = some path →
          other.readText path = disk.readText path) →
        Settings.ofParameter toml other parameter = Settings.ofParameter toml disk parameter := by
  refine ⟨fun e he => ?_, fun hnone => ?_, fun other hother => ?_⟩
  · rw [Settings.ofParameter, RawSettings.layered, RawSettings.ofParameter_eq_error.mpr he]
  · obtain ⟨inline, hinline⟩ := RawSettings.exists_ofParameter hnone
    rw [Settings.ofParameter, RawSettings.layered_eq hinline]
    obtain ⟨hno, e, he, hfile⟩ | ⟨entries, file, hentries, hfile, hwritten⟩ :=
      fileLayer_cases htoml disk parameter
    · rw [hno, hfile]
      exact ⟨fun _ => ⟨e, rfl, he⟩, nofun⟩
    · have hvalues : SettingValues.ofKeys (file.overlay inline).written? =
          SettingValues.layered parameter entries := by
        refine congrArg SettingValues.ofKeys (funext fun k => ?_)
        rw [RawSettings.written?_overlay, RawSettings.ofParameter_written? hinline, hwritten,
          layered?]
      rw [hentries, hfile]
      refine ⟨nofun, ?_⟩
      intro _ hentries
      obtain rfl := Option.some.inj hentries
      rw [← hvalues, ← SettingValues.fault?_eq_none]
      obtain ⟨e, he, hresolve⟩ | ⟨he, s, hresolve, hs⟩ := (file.overlay inline).resolve_checks
      · simp [Except.map, hresolve, he]
      · simp [Except.map, hresolve, he, hs]
  · rw [Settings.ofParameter, Settings.ofParameter, RawSettings.layered_congr toml hother]

def settingsDisk : Disk :=
  ⟨[(["s"], .file ("template=\"t\"\nlang=\"rust\"\noverwrite=true\n" ++
    "generate_type=\"file\"\n").toUTF8)]⟩

def settingsParameter : String :=
  "config=x,lang = go,overwrite=false,config=s,output_path=a=b"

/-- An empty value and a value that is no boolean count, though the file has another for the one and
a later piece for the other. -/
theorem settings_from_both_layers :
    Bundled.Toml.reader.KeysApart ∧
      (∃ s, Settings.ofParameter Bundled.Toml.reader settingsDisk settingsParameter = .ok s ∧
        s.values = ⟨"t", "go", "a=b", "file", false, false, true⟩) ∧
      Settings.ofParameter Bundled.Toml.reader settingsDisk (settingsParameter ++ ",template=") =
        .error ⟨"template", .required⟩ ∧
      Settings.ofParameter Bundled.Toml.reader settingsDisk
          (settingsParameter ++ ",overwrite=maybe,overwrite=true") =
        .error ⟨"overwrite", .notBoolean "maybe"⟩ ∧
      ∃ e, Settings.ofParameter Bundled.Toml.reader ⟨[]⟩ settingsParameter = .error e ∧
        e.key = "config" := by
  have hreader := Bundled.Toml.reader_keysApart
  have hlayered : (fileEntries? Bundled.Toml.reader settingsDisk settingsParameter).map
      (SettingValues.layered settingsParameter) =
        some ⟨"t", "go", "a=b", "file", false, false, true⟩ := by decide +kernel
  have hempty :
      (fileEntries? Bundled.Toml.reader settingsDisk (settingsParameter ++ ",template=")).map
          (SettingValues.layered (settingsParameter ++ ",template=")) =
        some ⟨"", "go", "a=b", "file", false, false, true⟩ := by decide +kernel
  refine ⟨hreader, ?_, ?_, ?_, ?_⟩
  · obtain ⟨entries, hentries, hvalues⟩ := Option.map_eq_some_iff.mp hlayered
    obtain ⟨-, hrun, -⟩ := ofParameter_layered hreader settingsDisk settingsParameter
    obtain ⟨hok, hs, -⟩ := (hrun (by decide +kernel)).2 entries hentries
    rw [hvalues] at hok hs
    obtain ⟨s, h⟩ := hok.mpr (SettingValues.fault?_eq_none.mp (by decide +kernel))
    exact ⟨s, h, hs s h⟩
  · obtain ⟨entries, hentries, hvalues⟩ := Option.map_eq_some_iff.mp hempty
    obtain ⟨-, hrun, -⟩ :=
      ofParameter_layered hreader settingsDisk (settingsParameter ++ ",template=")
    obtain ⟨-, -, he⟩ := (hrun (by decide +kernel)).2 entries hentries
    rw [hvalues] at he
    exact (he _).mpr (by decide +kernel)
  · exact (ofParameter_layered hreader settingsDisk _).1 _ (by decide +kernel)
  · obtain ⟨-, hrun, -⟩ := ofParameter_layered hreader ⟨[]⟩ settingsParameter
    exact (hrun (by decide +kernel)).1 (Option.isNone_iff_eq_none.mp (by decide +kernel))

end Stencil
