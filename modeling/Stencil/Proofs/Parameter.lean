import Stencil.Proofs.Pieces
import Stencil.Settings.Parameter

/-!
# Stencil.Proofs.Parameter

What a parameter sets, said of its pieces.

* `parts`                  — the pieces, by the list library (`pieces_eq_parts`).
* `pieceKey`, `pieceValue` — the texts around the first equals sign of a piece.
* `pieceFault?`            — what is wrong with a piece, whatever stands around it.
* `firstFault?`, `inline?` — the fault of the first piece that has one, and the value of the last
  piece with a key.
* `SettingKey`             — the keys that have a meaning; `RawSettings.written?` is what raw
  settings hold for one.

`RawSettings.ofParameter_eq_error` and `RawSettings.ofParameter_written?` say all about the layer
that a parameter makes. Its pieces are assigned one over the other, so the second is an induction on
them in which one assignment changes one key (`RawSettings.written?_assign`).
-/

namespace Stencil

/-- The texts between the commas, trimmed; empty ones do not count. -/
def parts (parameter : String) : List String :=
  ((parameter.toList.splitOn ',').map fun part => Text.trim (String.ofList part)).filter (· ≠ "")

def pieceKey (piece : String) : String :=
  Text.trim (String.ofList (piece.toList.takeWhile (· ≠ '=')))

def pieceValue (piece : String) : String :=
  Text.trim (String.ofList (piece.toList.dropWhile (· ≠ '=')).tail)

/-- The keys whose values are `true` or `false`. -/
def booleanKeys : List String :=
  ["allow_merge", "overwrite", "enable_message_flatten"]

def pieceFault? (piece : String) : Option SettingError :=
  if '=' ∉ piece.toList then some ⟨piece, .noValue⟩
  else if pieceKey piece ∈ booleanKeys ∧ pieceValue piece ∉ ["true", "false"] then
    some ⟨pieceKey piece, .notBoolean (pieceValue piece)⟩
  else none

def firstFault? (parameter : String) : Option SettingError :=
  (parts parameter).findSome? pieceFault?

/-- An earlier piece with the same key does not count. -/
def inline? (parameter key : String) : Option String :=
  ((parts parameter).reverse.find? (pieceKey · = key)).map pieceValue

/-! ## One piece -/

theorem pieces_eq_parts (parameter : String) : pieces parameter = parts parameter := by
  rw [pieces, parts, Text.splitOn_eq]
  refine List.filter_congr fun piece _ => ?_
  by_cases h : piece = "" <;> simp [h, String.isEmpty_iff]

theorem Assignment.ofPiece_eq (piece : String) :
    Assignment.ofPiece piece =
      if '=' ∈ piece.toList then Assignment.ofPair (pieceKey piece) (pieceValue piece)
      else .error ⟨piece, .noValue⟩ := by
  rw [ofPiece, Text.cut_eq]
  by_cases h : '=' ∈ piece.toList
  · rw [if_pos h, if_pos h]
    rfl
  · rw [if_neg h, if_neg h]

/-! ## Keys -/

inductive SettingKey where
  | template | lang | outputPath | unit | allowMerge | overwrite | flatten | config
deriving DecidableEq, Repr

def SettingKey.name : SettingKey → String
  | template => "template"
  | lang => "lang"
  | outputPath => "output_path"
  | unit => "generate_type"
  | allowMerge => "allow_merge"
  | overwrite => "overwrite"
  | flatten => "enable_message_flatten"
  | config => "config"

def SettingKey.all : List SettingKey :=
  [template, lang, outputPath, unit, allowMerge, overwrite, flatten, config]

def SettingKey.ofName? (s : String) : Option SettingKey :=
  SettingKey.all.find? (·.name == s)

-- Values with names, looked up by name in a list where each is the first to have its own.
section

variable {α : Type} {name : α → String} {all : List α}
  (h : ∀ a, all.find? (name · == name a) = some a)
include h

theorem find?_name_eq_some {s : String} {a : α} :
    all.find? (name · == s) = some a ↔ name a = s := by
  constructor
  · intro hfound
    simpa using List.find?_some hfound
  · rintro rfl
    exact h a

theorem mem_names_iff {s : String} : s ∈ all.map name ↔ ∃ a, name a = s := by
  rw [List.mem_map]
  constructor
  · rintro ⟨a, -, ha⟩
    exact ⟨a, ha⟩
  · rintro ⟨a, ha⟩
    exact ⟨a, List.mem_of_find?_eq_some (h a), ha⟩

theorem find?_name_cases (s : String) :
    (s ∉ all.map name ∧ all.find? (name · == s) = none) ∨
      s ∈ all.map name ∧ ∃ a, all.find? (name · == s) = some a ∧ name a = s := by
  by_cases hs : s ∈ all.map name
  · obtain ⟨a, ha⟩ := (mem_names_iff h).mp hs
    exact .inr ⟨hs, a, (find?_name_eq_some h).mpr ha, ha⟩
  · refine .inl ⟨hs, List.find?_eq_none.mpr fun a ha hname => hs ?_⟩
    rw [← eq_of_beq hname]
    exact List.mem_map_of_mem ha

end

theorem SettingKey.ofName?_eq_some {s : String} {k : SettingKey} :
    SettingKey.ofName? s = some k ↔ k.name = s :=
  find?_name_eq_some fun k => by cases k <;> rfl

def booleanText : Bool → String
  | true => "true"
  | false => "false"

/-- The key of an assignment, with the value as it is written. -/
def Assignment.setting? : Assignment → Option (SettingKey × String)
  | .template value => some (.template, value)
  | .lang value => some (.lang, value)
  | .outputPath value => some (.outputPath, value)
  | .unit value => some (.unit, value)
  | .allowMerge value => some (.allowMerge, booleanText value)
  | .overwrite value => some (.overwrite, booleanText value)
  | .flatten value => some (.flatten, booleanText value)
  | .config value => some (.config, value)
  | .ignored _ => none

def RawSettings.written? (raw : RawSettings) : SettingKey → Option String
  | .template => raw.template?
  | .lang => raw.lang?
  | .outputPath => raw.outputPath?
  | .unit => raw.unit?
  | .allowMerge => raw.allowMerge?.map booleanText
  | .overwrite => raw.overwrite?.map booleanText
  | .flatten => raw.flatten?.map booleanText
  | .config => raw.config?

theorem RawSettings.written?_empty (k : SettingKey) : ({} : RawSettings).written? k = none := by
  cases k <;> rfl

theorem Assignment.boolean_eq_error {key value : String} {e : SettingError} :
    Assignment.boolean key value = .error e ↔
      value ∉ ["true", "false"] ∧ e = ⟨key, .notBoolean value⟩ := by
  unfold boolean
  split
  · simp_all
  · split <;> simp_all [eq_comm]

theorem Assignment.boolean_eq_ok {key value : String} {b : Bool} :
    Assignment.boolean key value = .ok b ↔ value = booleanText b := by
  unfold boolean
  by_cases ht : value = "true"
  · cases b <;> simp [booleanText, ht]
  · by_cases hf : value = "false"
    · cases b <;> simp [booleanText, hf]
    · cases b <;> simp [booleanText, ht, hf]

theorem Assignment.map_boolean_eq_error {make : Bool → Assignment} {key value : String}
    {e : SettingError} :
    (boolean key value).map make = .error e ↔
      value ∉ ["true", "false"] ∧ e = ⟨key, .notBoolean value⟩ := by
  rw [← boolean_eq_error]
  cases boolean key value <;> simp [Except.map]

theorem Assignment.map_boolean_eq_ok {make : Bool → Assignment} {key value : String}
    {a : Assignment} (h : (boolean key value).map make = .ok a) :
    ∃ b, value = booleanText b ∧ a = make b := by
  cases hb : boolean key value with
  | error e =>
    rw [hb] at h
    cases h
  | ok b =>
    rw [hb] at h
    cases h
    exact ⟨b, boolean_eq_ok.mp hb, rfl⟩

theorem Assignment.ofPair_eq_error {key value : String} {e : SettingError} :
    Assignment.ofPair key value = .error e ↔
      (key ∈ booleanKeys ∧ value ∉ ["true", "false"]) ∧ e = ⟨key, .notBoolean value⟩ := by
  unfold ofPair
  split <;> simp_all [booleanKeys, map_boolean_eq_error]

/-- A key without a meaning sets nothing. -/
theorem Assignment.setting?_of_ofPair {key value : String} {a : Assignment}
    (h : Assignment.ofPair key value = .ok a) :
    a.setting? = (SettingKey.ofName? key).map (·, value) := by
  unfold ofPair at h
  split at h
  case h_5 | h_6 | h_7 =>
    obtain ⟨b, rfl, rfl⟩ := map_boolean_eq_ok h
    rfl
  case h_9 =>
    cases h
    have hnone : SettingKey.ofName? key = none := by
      rw [SettingKey.ofName?, List.find?_eq_none]
      intro k _ hk
      obtain rfl : k.name = key := by simpa using hk
      cases k <;> contradiction
    rw [hnone]
    rfl
  all_goals
    cases h
    rfl

theorem RawSettings.written?_assign (raw : RawSettings) (a : Assignment) (k : SettingKey) :
    (raw.assign a).written? k =
      match a.setting? with
      | some (key, value) => if key = k then some value else raw.written? k
      | none => raw.written? k := by
  cases a <;> cases k <;> rfl

theorem RawSettings.written?_ofPair {key value : String} {a : Assignment}
    (h : Assignment.ofPair key value = .ok a) (raw : RawSettings) (k : SettingKey) :
    (raw.assign a).written? k = if key = k.name then some value else raw.written? k := by
  rw [written?_assign, Assignment.setting?_of_ofPair h]
  by_cases hkey : key = k.name
  · rw [SettingKey.ofName?_eq_some.mpr hkey.symm, if_pos hkey]
    simp
  · rw [if_neg hkey]
    cases hname : SettingKey.ofName? key with
    | none => rfl
    | some k' =>
      have hne : k' ≠ k := by
        rintro rfl
        exact hkey (SettingKey.ofName?_eq_some.mp hname).symm
      simp [hne]

/-! ## All pieces -/

theorem Assignment.ofPiece_eq_error {piece : String} {e : SettingError} :
    Assignment.ofPiece piece = .error e ↔ pieceFault? piece = some e := by
  rw [ofPiece_eq, pieceFault?]
  by_cases h : '=' ∈ piece.toList
  · rw [if_pos h, if_neg (not_not_intro h), ofPair_eq_error]
    split <;> simp_all [eq_comm]
  · simp [h]

theorem assignments_eq_error {pieces : List String} {e : SettingError} :
    assignments pieces = .error e ↔ pieces.findSome? pieceFault? = some e := by
  induction pieces with
  | nil => simp [assignments]
  | cons piece rest ih =>
    rw [List.findSome?_cons, assignments]
    cases ha : Assignment.ofPiece piece with
    | error e' =>
      rw [Assignment.ofPiece_eq_error.mp ha]
      simp
    | ok a =>
      have hnone : pieceFault? piece = none := by
        rw [Option.eq_none_iff_forall_ne_some]
        intro e' he'
        rw [Assignment.ofPiece_eq_error.mpr he'] at ha
        cases ha
      rw [hnone, ← ih]
      cases assignments rest <;> simp

theorem RawSettings.written?_foldl {pieces : List String} {as : List Assignment}
    (h : assignments pieces = .ok as) (raw : RawSettings) (k : SettingKey) :
    (as.foldl assign raw).written? k =
      ((pieces.reverse.find? (pieceKey · = k.name)).map pieceValue).or (raw.written? k) := by
  induction pieces generalizing as raw with
  | nil =>
    cases h
    rfl
  | cons piece rest ih =>
    simp only [assignments] at h
    split at h
    · cases h
    · rename_i a ha
      split at h
      · cases h
      · rename_i as' has
        cases h
        rw [Assignment.ofPiece_eq] at ha
        split at ha
        · rw [List.foldl_cons, ih has, written?_ofPair ha, List.reverse_cons, List.find?_append,
            Option.map_or, Option.or_assoc]
          refine congrArg (Option.or _) ?_
          by_cases hkey : pieceKey piece = k.name <;> simp [hkey]
        · cases ha

theorem RawSettings.ofParameter_eq_error {parameter : String} {e : SettingError} :
    RawSettings.ofParameter parameter = .error e ↔ firstFault? parameter = some e := by
  rw [firstFault?, ← pieces_eq_parts, ← assignments_eq_error, ofParameter]
  cases assignments (pieces parameter) <;> simp

theorem RawSettings.exists_ofParameter {parameter : String} (h : firstFault? parameter = none) :
    ∃ raw, RawSettings.ofParameter parameter = .ok raw := by
  cases hraw : RawSettings.ofParameter parameter with
  | error e =>
    rw [ofParameter_eq_error.mp hraw] at h
    cases h
  | ok raw => exact ⟨raw, rfl⟩

theorem RawSettings.ofParameter_written? {parameter : String} {raw : RawSettings}
    (h : RawSettings.ofParameter parameter = .ok raw) (k : SettingKey) :
    raw.written? k = inline? parameter k.name := by
  rw [ofParameter] at h
  split at h
  · cases h
  · rename_i as has
    obtain rfl := Except.ok.inj h
    rw [written?_foldl has, written?_empty, Option.or_none, inline?, pieces_eq_parts]

end Stencil
