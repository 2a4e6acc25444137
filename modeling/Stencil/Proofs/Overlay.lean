import Stencil.Proofs.Parameter

/-!
# Stencil.Proofs.Overlay

Layers of raw settings, one over the other.

* `RawSettings.stacked`            — any number of layers, the last one on top.
* `RawSettings.written?_overlay`   — what two layers hold for a key.
* `RawSettings.ofParameter_append` — a comma between two parameters puts the second over the first.

To read a piece is to change the topmost layer (`RawSettings.overlay_assign`), so a parameter can be
cut at any of its commas into two layers, and into any number of them
(`RawSettings.joined_parameters_layer`).
-/

namespace Stencil
namespace RawSettings

def stacked (layers : List RawSettings) : RawSettings :=
  layers.foldl overlay {}

/-! ## Layers -/

theorem written?_overlay (lower upper : RawSettings) (k : SettingKey) :
    (lower.overlay upper).written? k = (upper.written? k).or (lower.written? k) := by
  cases k <;> simp [written?, overlay, Option.map_or]

theorem overlay_assoc (a b c : RawSettings) :
    (a.overlay b).overlay c = a.overlay (b.overlay c) := by
  simp only [overlay, Option.or_assoc]

theorem overlay_self (a : RawSettings) : a.overlay a = a := by
  simp only [overlay, Option.or_self]

theorem overlay_empty (a : RawSettings) : a.overlay {} = a := by
  simp only [overlay, Option.none_or]

theorem empty_overlay (a : RawSettings) : ({} : RawSettings).overlay a = a := by
  simp only [overlay, Option.or_none]

/-- Layers in the middle of a stack can be put together first. -/
theorem foldl_overlay (bottom : RawSettings) (layers : List RawSettings) :
    layers.foldl overlay bottom = bottom.overlay (stacked layers) := by
  induction layers generalizing bottom with
  | nil => exact (overlay_empty bottom).symm
  | cons layer rest ih =>
    rw [stacked, List.foldl_cons, List.foldl_cons, ih, ih, empty_overlay, overlay_assoc]

theorem stacked_cons (layer : RawSettings) (rest : List RawSettings) :
    stacked (layer :: rest) = layer.overlay (stacked rest) := by
  rw [stacked, List.foldl_cons, empty_overlay, foldl_overlay]

theorem stacked_append (front back : List RawSettings) :
    stacked (front ++ back) = (stacked front).overlay (stacked back) := by
  rw [stacked, List.foldl_append, foldl_overlay]
  rfl

theorem stacked_groups (groups : List (List RawSettings)) :
    stacked (groups.map stacked) = stacked groups.flatten := by
  induction groups with
  | nil => rfl
  | cons group rest ih =>
    rw [List.map_cons, stacked_cons, ih, List.flatten_cons, stacked_append]

/-! ## Pieces of several parameters -/

theorem overlay_assign (lower upper : RawSettings) (a : Assignment) :
    (lower.overlay upper).assign a = lower.overlay (upper.assign a) := by
  cases a <;> rfl

theorem foldl_assign (lower : RawSettings) (as : List Assignment) :
    as.foldl assign lower = lower.overlay (as.foldl assign {}) := by
  -- the induction is on what is assigned so far, as a layer of its own
  suffices h : ∀ upper : RawSettings,
      as.foldl assign (lower.overlay upper) = lower.overlay (as.foldl assign upper) by
    rw [← h, overlay_empty]
  induction as with
  | nil => exact fun _ => rfl
  | cons a rest ih =>
    intro upper
    rw [List.foldl_cons, List.foldl_cons, overlay_assign, ih]

theorem pieces_append (s t : String) : pieces (s ++ "," ++ t) = pieces s ++ pieces t := by
  have hlist : (s ++ "," ++ t).toList = s.toList ++ ',' :: t.toList := by simp
  rw [pieces, hlist, Text.splitOn_append, List.map_append, List.filter_append]
  rfl

theorem assignments_append (front back : List String) :
    assignments (front ++ back) =
      match assignments front with
      | .error e => .error e
      | .ok as => (assignments back).map (as ++ ·) := by
  induction front with
  | nil =>
    rw [List.nil_append, assignments]
    cases assignments back <;> rfl
  | cons piece rest ih =>
    rw [List.cons_append, assignments, assignments, ih]
    cases Assignment.ofPiece piece with
    | error e => rfl
    | ok a =>
      cases assignments rest with
      | error e => rfl
      | ok as => cases assignments back <;> rfl

theorem ofParameter_append (s t : String) :
    ofParameter (s ++ "," ++ t) =
      match ofParameter s with
      | .error e => .error e
      | .ok lower => (ofParameter t).map lower.overlay := by
  simp only [ofParameter, pieces_append, assignments_append]
  cases assignments (pieces s) with
  | error e => rfl
  | ok as =>
    cases assignments (pieces t) with
    | error e => rfl
    | ok bs =>
      simp only [Except.map, List.foldl_append]
      rw [foldl_assign]

theorem ofParameter_intercalate (parameters : List String) :
    ofParameter (",".intercalate parameters) = (parameters.mapM ofParameter).map stacked := by
  induction parameters with
  | nil => rfl
  | cons s rest ih =>
    rw [List.mapM_cons]
    cases rest with
    | nil =>
      rw [String.intercalate_singleton]
      cases ofParameter s with
      | error e => rfl
      | ok layer => exact congrArg Except.ok (empty_overlay layer).symm
    | cons t rest =>
      rw [String.intercalate_cons_cons, ofParameter_append, ih]
      cases ofParameter s with
      | error e => rfl
      | ok layer =>
        cases (t :: rest).mapM ofParameter with
        | error e => rfl
        | ok layers => exact congrArg Except.ok (stacked_cons layer layers).symm

/-- Parameters joined by commas are read as layers, the first below all others, or fail with the
error of the first that cannot be read. The layers can be put together in groups, one layer over
itself is that layer, and settings in which nothing is set are no layer at all. What the upper of
two layers holds for a key wins, whichever key it is. -/
theorem joined_parameters_layer (parameters : List String) :
    ofParameter (",".intercalate parameters) = (parameters.mapM ofParameter).map stacked ∧
      (∀ a b c : RawSettings, (a.overlay b).overlay c = a.overlay (b.overlay c)) ∧
      (∀ groups : List (List RawSettings),
        stacked (groups.map stacked) = stacked groups.flatten) ∧
      (∀ a : RawSettings,
        a.overlay a = a ∧ ({} : RawSettings).overlay a = a ∧ a.overlay {} = a) ∧
      ∀ (lower upper : RawSettings) (k : SettingKey),
        (lower.overlay upper).written? k = (upper.written? k).or (lower.written? k) :=
  ⟨ofParameter_intercalate parameters, overlay_assoc, stacked_groups,
    fun a => ⟨overlay_self a, empty_overlay a, overlay_empty a⟩, written?_overlay⟩

end RawSettings
end Stencil
