import Mathlib.Data.List.DropRight
import Stencil.Proofs.Layers

/-!
# Stencil.Proofs.Spelling

Settings written down as a parameter, in any of the ways that mean the same.

* `Settings.pairs` — the seven keys with the values that settings have for them.
* `Writable`       — the texts that a value can be.
* `Piece`          — what may stand between two commas: a pair with blanks around its parts, a pair
  of an unknown key, or blanks.
* `spelled`        — the parameter of a list of pieces.

What is read from such a parameter is known piece by piece (`mem_parts_spelled`). As the pairs of
settings have different keys, their order does not count: every key is read with its own value
(`inline?_spelled`), and so the settings come back (`spelled_settings_read_back`).
-/

namespace Stencil

/-! ## Settings as pairs -/

def Settings.pairs (s : Settings) : List (String × String) :=
  [("template", s.template), ("lang", s.language.name), ("output_path", s.outputPath),
    ("generate_type", s.unit.name), ("allow_merge", booleanText s.allowMerge),
    ("overwrite", booleanText s.overwrite), ("enable_message_flatten", booleanText s.flatten)]

/-- The layer that a parameter for these settings makes. -/
def Settings.raw (s : Settings) : RawSettings :=
  { template? := some s.template
    lang? := some s.language.name
    outputPath? := some s.outputPath
    unit? := some s.unit.name
    allowMerge? := some s.allowMerge
    overwrite? := some s.overwrite
    flatten? := some s.flatten }

/-- It neither ends the piece that it stands in nor loses anything to trimming. -/
structure Writable (value : String) : Prop where
  tidy : Text.Tidy value
  noComma : ',' ∉ value.toList

instance (value : String) : Decidable (Writable value) :=
  decidable_of_iff (Text.Tidy value ∧ ',' ∉ value.toList)
    ⟨fun ⟨tidy, noComma⟩ => ⟨tidy, noComma⟩, fun h => ⟨h.tidy, h.noComma⟩⟩

theorem SettingKey.name_injective {k k' : SettingKey} (h : k.name = k'.name) : k = k' :=
  Option.some.inj ((SettingKey.ofName?_eq_some.mpr h).symm.trans (SettingKey.ofName?_eq_some.mpr rfl))

theorem Settings.mem_pairs {s : Settings} {k : SettingKey} {value : String} :
    (k.name, value) ∈ s.pairs ↔ s.raw.written? k = some value := by
  cases k <;> simp [pairs, raw, SettingKey.name, RawSettings.written?, eq_comm]

theorem Settings.exists_key {s : Settings} {key value : String} (h : (key, value) ∈ s.pairs) :
    ∃ k : SettingKey, k.name = key := by
  have hkey : key ∈ s.pairs.map (·.1) := List.mem_map_of_mem h
  have hkeys : ∀ key ∈ s.pairs.map (·.1), key ∈ SettingKey.all.map (·.name) := by
    simp [pairs, SettingKey.all, SettingKey.name]
  obtain ⟨k, -, hk⟩ := List.mem_map.mp (hkeys key hkey)
  exact ⟨k, hk⟩

theorem SettingKey.name_writable (k : SettingKey) : Writable k.name ∧ '=' ∉ k.name.toList := by
  cases k <;> decide

theorem Settings.value_writable {s : Settings} (htemplate : Writable s.template)
    (hpath : Writable s.outputPath) {k : SettingKey} {value : String}
    (h : s.raw.written? k = some value) : Writable value := by
  have hlang : ∀ lang : Language, Writable lang.name := fun lang => by cases lang <;> decide
  have hunit : ∀ unit : UnitKind, Writable unit.name := fun unit => by cases unit <;> decide
  have hboolean : ∀ b : Bool, Writable (booleanText b) := fun b => by cases b <;> decide
  cases k with
  | config => cases h
  | template => cases h; exact htemplate
  | outputPath => cases h; exact hpath
  | lang => cases h; exact hlang _
  | unit => cases h; exact hunit _
  | allowMerge | overwrite | flatten => cases h; exact hboolean _

theorem RawSettings.ext_written? {raw raw' : RawSettings}
    (h : ∀ k, raw.written? k = raw'.written? k) : raw = raw' := by
  have hboolean : Function.Injective (Option.map booleanText) :=
    Option.map_injective fun b b' hb => by cases b <;> cases b' <;> simp_all [booleanText]
  obtain ⟨_, _, _, _, _, _, _, _⟩ := raw
  obtain ⟨_, _, _, _, _, _, _, _⟩ := raw'
  rw [RawSettings.mk.injEq]
  exact ⟨h .template, h .lang, h .outputPath, h .unit, hboolean (h .allowMerge),
    hboolean (h .overwrite), hboolean (h .flatten), h .config⟩

theorem Settings.raw_resolve {s : Settings} (htemplate : s.template ≠ "")
    (hpath : s.outputPath ≠ "") : s.raw.resolve = .ok s := by
  have hlang : s.language.name ≠ "" := by cases s.language <;> decide
  have hunit : s.unit.name ≠ "" := by cases s.unit <;> decide
  simp only [raw, RawSettings.resolve, RawSettings.required_eq, Option.getD_some, if_neg htemplate,
    if_neg hpath, if_neg hlang, if_neg hunit, RawSettings.language, RawSettings.unit,
    Language.ofName?, UnitKind.ofName?, Language.find?_name, UnitKind.find?_name, bind, Except.bind,
    pure, Except.pure]

/-! ## Pieces -/

theorem cut_at_equals {key : List Char} (h : '=' ∉ key) (value : List Char) :
    (key ++ '=' :: value).takeWhile (· ≠ '=') = key ∧
      (key ++ '=' :: value).dropWhile (· ≠ '=') = '=' :: value := by
  have hkey : ∀ c ∈ key, decide (c ≠ '=') = true :=
    fun c hc => decide_eq_true (ne_of_mem_of_not_mem hc h)
  rw [List.takeWhile_append_of_pos hkey, List.dropWhile_append_of_pos hkey]
  simp

theorem toList_pair (key value : String) :
    (key ++ "=" ++ value).toList = key.toList ++ '=' :: value.toList := by
  simp

theorem pieceKey_append {key : String} (h : '=' ∉ key.toList) (value : String) :
    pieceKey (key ++ "=" ++ value) = Text.trim key := by
  rw [pieceKey, toList_pair, (cut_at_equals h value.toList).1, String.ofList_toList]

theorem pieceValue_append {key : String} (h : '=' ∉ key.toList) (value : String) :
    pieceValue (key ++ "=" ++ value) = Text.trim value := by
  rw [pieceValue, toList_pair, (cut_at_equals h value.toList).2, List.tail_cons,
    String.ofList_toList]

/-- Blanks around a pair are none of its key. -/
theorem pieceKey_trim {text : String} (h : '=' ∈ text.toList) :
    '=' ∈ (Text.trim text).toList ∧ pieceKey (Text.trim text) = pieceKey text := by
  obtain ⟨key, value, hlist, hkey⟩ := List.eq_append_cons_of_mem h
  have htext : text = String.ofList key ++ "=" ++ String.ofList value := by
    apply String.toList_injective
    rw [hlist, toList_pair, String.toList_ofList, String.toList_ofList]
  have htrim : Text.trim text =
      String.ofList (Text.trimLeft key) ++ "=" ++ String.ofList (Text.trimRight value) := by
    apply String.toList_injective
    rw [Text.trim, hlist, Text.trimLeft_append_cons key (by decide),
      Text.trimRight_append_cons _ (by decide), toList_pair]
    simp only [String.toList_ofList]
  have hleft : '=' ∉ Text.trimLeft key := fun hmem => hkey (List.dropWhile_subset _ hmem)
  refine ⟨by simp [htrim], ?_⟩
  rw [htrim, htext, pieceKey_append (by simpa using hleft), pieceKey_append (by simpa using hkey),
    Text.trim, Text.trim, String.toList_ofList, String.toList_ofList, Text.trimLeft, Text.trimLeft,
    List.dropWhile_idempotent]

/-- A pair that sets nothing. Its key ends at the first equals sign. -/
structure UnknownPair where
  text : String
  isPair : '=' ∈ text.toList
  noComma : ',' ∉ text.toList
  unknown : pieceKey text ∉ SettingKey.all.map (·.name)

/-- Blanks may stand on both sides of a key and of a value. -/
inductive Piece where
  | pair (key value : String) (beforeKey afterKey beforeValue afterValue : Text.Blanks)
  | unknown (given : UnknownPair)
  | blank (blanks : Text.Blanks)

namespace Piece

def text : Piece → String
  | pair key value beforeKey afterKey beforeValue afterValue =>
    beforeKey.text ++ key ++ afterKey.text ++ "=" ++ beforeValue.text ++ value ++ afterValue.text
  | unknown given => given.text
  | blank blanks => blanks.text

def pair? : Piece → Option (String × String)
  | pair key value .. => some (key, value)
  | unknown _ | blank _ => none

end Piece

def spelled (ps : List Piece) : String :=
  ",".intercalate (ps.map Piece.text)

theorem mem_parts_intercalate {texts : List String} (hne : texts ≠ [])
    (hcomma : ∀ text ∈ texts, ',' ∉ text.toList) {part : String} :
    part ∈ parts (",".intercalate texts) ↔ part ≠ "" ∧ ∃ text ∈ texts, Text.trim text = part := by
  have hsplit : (",".intercalate texts).toList.splitOn ',' = texts.map String.toList := by
    rw [String.toList_intercalate]
    refine List.splitOn_intercalate ',' ?_ (by simpa using hne)
    simpa using hcomma
  rw [parts, hsplit, List.mem_filter, decide_eq_true_iff, and_comm, List.map_map, List.mem_map]
  simp only [Function.comp_apply, String.ofList_toList]

theorem Piece.trim_text {key value : String} (hkey : Text.Tidy key) (hvalue : Text.Tidy value)
    (a b c d : Text.Blanks) :
    Text.trim (pair key value a b c d).text = key ++ b.text ++ "=" ++ (c.text ++ value) := by
  have hpadded := Text.trim_padded (hkey.around hvalue (b.text ++ "=" ++ c.text)) a d
  simpa only [text, String.append_assoc] using hpadded

/-- A pair is read with its key and its value, whatever blanks stand around them. -/
theorem Piece.reads_pair {key value : String} (hkey : Text.Tidy key) (hequals : '=' ∉ key.toList)
    (hvalue : Text.Tidy value) (a b c d : Text.Blanks) :
    '=' ∈ (Text.trim (pair key value a b c d).text).toList ∧
      pieceKey (Text.trim (pair key value a b c d).text) = key ∧
      pieceValue (Text.trim (pair key value a b c d).text) = value := by
  have hfront : '=' ∉ (key ++ b.text).toList := by
    rw [String.toList_append, List.mem_append, not_or]
    exact ⟨hequals, b.notMem (by decide)⟩
  rw [trim_text hkey hvalue]
  refine ⟨by simp, ?_, ?_⟩
  · rw [pieceKey_append hfront, Text.trim_append_blanks hkey]
  · rw [pieceValue_append hfront, Text.trim_blanks_append hvalue]

/-! ## Reading what is spelled -/

section

variable {s : Settings} {ps : List Piece} (htemplate : Writable s.template)
  (hpath : Writable s.outputPath) (h : (ps.filterMap Piece.pair?).Perm s.pairs)
include htemplate hpath h

theorem pair_spelled {key value : String} {a b c d : Text.Blanks}
    (hp : Piece.pair key value a b c d ∈ ps) :
    ∃ k : SettingKey, k.name = key ∧ s.raw.written? k = some value ∧ Writable value := by
  have hmem : (key, value) ∈ s.pairs :=
    h.mem_iff.mp (List.mem_filterMap.mpr ⟨_, hp, rfl⟩)
  obtain ⟨k, rfl⟩ := Settings.exists_key hmem
  have hwritten := Settings.mem_pairs.mp hmem
  exact ⟨k, rfl, hwritten, Settings.value_writable htemplate hpath hwritten⟩

theorem spelled_noComma {p : Piece} (hp : p ∈ ps) : ',' ∉ p.text.toList := by
  have hblanks : ∀ blanks : Text.Blanks, ',' ∉ blanks.text.toList :=
    fun blanks => blanks.notMem (by decide)
  cases p with
  | unknown given => exact given.noComma
  | blank blanks => exact hblanks blanks
  | pair key value a b c d =>
    obtain ⟨k, rfl, -, hvalue⟩ := pair_spelled htemplate hpath h hp
    simp [Piece.text, hblanks, hvalue.noComma, k.name_writable.1.noComma]

theorem mem_parts_spelled {part : String} :
    part ∈ parts (spelled ps) ↔ part ≠ "" ∧ ∃ p ∈ ps, Text.trim p.text = part := by
  have hne : ps.map Piece.text ≠ [] := by
    intro hnil
    rw [List.map_eq_nil_iff.mp hnil] at h
    exact absurd h.symm.eq_nil (List.cons_ne_nil _ _)
  have hcomma : ∀ text ∈ ps.map Piece.text, ',' ∉ text.toList := by
    intro text htext
    obtain ⟨p, hp, rfl⟩ := List.mem_map.mp htext
    exact spelled_noComma htemplate hpath h hp
  rw [spelled, mem_parts_intercalate hne hcomma]
  simp only [List.mem_map, exists_exists_and_eq_and]

theorem part_spelled {part : String} (hpart : part ∈ parts (spelled ps)) :
    '=' ∈ part.toList ∧
      ((∃ k : SettingKey, pieceKey part = k.name ∧ s.raw.written? k = some (pieceValue part)) ∨
        pieceKey part ∉ SettingKey.all.map (·.name)) := by
  obtain ⟨hempty, p, hp, rfl⟩ := (mem_parts_spelled htemplate hpath h).mp hpart
  cases p with
  | blank blanks => exact absurd (Text.trim_blanks blanks) hempty
  | unknown given =>
    obtain ⟨hequals, hkey⟩ := pieceKey_trim given.isPair
    refine ⟨hequals, .inr ?_⟩
    rw [Piece.text, hkey]
    exact given.unknown
  | pair key value a b c d =>
    obtain ⟨k, rfl, hwritten, hvalue⟩ := pair_spelled htemplate hpath h hp
    obtain ⟨hname, hequals⟩ := k.name_writable
    obtain ⟨hpair, hkey, hread⟩ := Piece.reads_pair hname.tidy hequals hvalue.tidy a b c d
    exact ⟨hpair, .inl ⟨k, hkey, by rw [hread, hwritten]⟩⟩

theorem exists_part {k : SettingKey} {value : String} (hk : s.raw.written? k = some value) :
    ∃ part ∈ parts (spelled ps), pieceKey part = k.name := by
  obtain ⟨p, hp, hpair⟩ := List.mem_filterMap.mp (h.mem_iff.mpr (Settings.mem_pairs.mpr hk))
  cases p with
  | blank blanks => cases hpair
  | unknown given => cases hpair
  | pair key value a b c d =>
    cases hpair
    obtain ⟨-, -, -, hvalue⟩ := pair_spelled htemplate hpath h hp
    obtain ⟨hname, hequals⟩ := k.name_writable
    obtain ⟨hpair, hkey, -⟩ := Piece.reads_pair hname.tidy hequals hvalue.tidy a b c d
    refine ⟨_, (mem_parts_spelled htemplate hpath h).mpr ⟨?_, _, hp, rfl⟩, hkey⟩
    intro hempty
    rw [hempty] at hpair
    cases hpair

theorem firstFault?_spelled : firstFault? (spelled ps) = none := by
  refine List.findSome?_eq_none_iff.mpr fun part hpart => ?_
  obtain ⟨hequals, hread⟩ := part_spelled htemplate hpath h hpart
  rw [pieceFault?, if_neg (not_not_intro hequals), if_neg]
  rintro ⟨hboolean, hvalue⟩
  obtain ⟨k, hkey, hwritten⟩ | hunknown := hread
  · have htext : ∀ b : Bool, booleanText b ∈ ["true", "false"] := by decide
    rw [hkey] at hboolean
    cases k with
    | allowMerge | overwrite | flatten => exact hvalue (Option.some.inj hwritten ▸ htext _)
    | _ => exact absurd hboolean (by decide)
  · have hkeys : ∀ key ∈ booleanKeys, key ∈ SettingKey.all.map (·.name) := by decide
    exact hunknown (hkeys _ hboolean)

/-- Every pair counts, in whatever order they stand. -/
theorem inline?_spelled (k : SettingKey) : inline? (spelled ps) k.name = s.raw.written? k := by
  rw [inline?]
  cases hfound : (parts (spelled ps)).reverse.find? (pieceKey · = k.name) with
  | none =>
    cases hwritten : s.raw.written? k with
    | none => rfl
    | some value =>
      obtain ⟨part, hpart, hkey⟩ := exists_part htemplate hpath h hwritten
      have hno := List.find?_eq_none.mp hfound part (List.mem_reverse.mpr hpart)
      exact absurd (decide_eq_true hkey) hno
  | some part =>
    have hpart := List.mem_reverse.mp (List.mem_of_find?_eq_some hfound)
    have hkey : pieceKey part = k.name := by simpa using List.find?_some hfound
    obtain ⟨-, ⟨k', hkey', hwritten⟩ | hunknown⟩ := part_spelled htemplate hpath h hpart
    · rw [SettingKey.name_injective (hkey.symm.trans hkey'), hwritten]
      rfl
    · have hknown : k.name ∈ SettingKey.all.map (·.name) :=
        List.mem_map_of_mem (by cases k <;> decide)
      exact absurd (hkey ▸ hknown) hunknown

theorem ofParameter_spelled (toml : Toml.Reader) (disk : Disk) :
    Settings.ofParameter toml disk (spelled ps) = .ok s := by
  obtain ⟨inline, hinline⟩ :=
    RawSettings.exists_ofParameter (firstFault?_spelled htemplate hpath h)
  have hraw : inline = s.raw := RawSettings.ext_written? fun k => by
    rw [RawSettings.ofParameter_written? hinline, inline?_spelled htemplate hpath h]
  rw [hraw] at hinline
  rw [Settings.ofParameter, RawSettings.layered, hinline]
  exact Settings.raw_resolve htemplate.tidy.nonempty hpath.tidy.nonempty

end

def Piece.plain (key value : String) : Piece :=
  .pair key value .empty .empty .empty .empty

/-- Settings can be written down, and come back from whatever they are written as: their pairs in
any order, blanks around keys, equals signs, values and commas, and between the pairs any number of
empty pieces and of pairs of unknown keys. -/
theorem spelled_settings_read_back {s : Settings} (htemplate : Writable s.template)
    (hpath : Writable s.outputPath) :
    (∃ ps : List Piece, (ps.filterMap Piece.pair?).Perm s.pairs) ∧
      ∀ ps : List Piece, (ps.filterMap Piece.pair?).Perm s.pairs →
        ∀ (toml : Toml.Reader) (disk : Disk),
          Settings.ofParameter toml disk (spelled ps) = .ok s := by
  refine ⟨⟨s.pairs.map fun pair => .plain pair.1 pair.2, ?_⟩,
    fun ps h => ofParameter_spelled htemplate hpath h⟩
  simp [List.filterMap_map, Function.comp_def, Piece.plain, Piece.pair?]

def callsSettings : Settings :=
  ⟨"my calls=\"1\".j2", .dart, "\x7b\x7bmethod.name\x7d\x7d = x", .method, false, false, true⟩

def callsPieces : List Piece :=
  [.plain "overwrite" "false",
    .pair "output_path" "\x7b\x7bmethod.name\x7d\x7d = x" ⟨"\n", rfl⟩ ⟨" ", rfl⟩ .empty ⟨"  ", rfl⟩,
    .blank .empty, .plain "lang" "dart", .plain "generate_type" "method",
    .unknown ⟨" template file = other=a ", by decide, by decide, by decide⟩,
    .pair "template" "my calls=\"1\".j2" .empty .empty ⟨"\t", rfl⟩ .empty,
    .plain "enable_message_flatten" "true", .blank ⟨" \n", rfl⟩, .plain "allow_merge" "false"]

/-- Both texts hold equals signs, and the key of the unknown pair begins like another one. -/
theorem calls_read_back :
    spelled callsPieces = "overwrite=false,\noutput_path =\x7b\x7bmethod.name\x7d\x7d = x  ,," ++
        "lang=dart,generate_type=method, template file = other=a ,template=\tmy calls=\"1\".j2," ++
        "enable_message_flatten=true, \n,allow_merge=false" ∧
      Settings.ofParameter Bundled.Toml.reader ⟨[]⟩ (spelled callsPieces) = .ok callsSettings := by
  obtain ⟨-, hread⟩ := @spelled_settings_read_back callsSettings (by decide) (by decide)
  exact ⟨by decide +kernel, hread callsPieces (by decide +kernel) _ ⟨[]⟩⟩

end Stencil
