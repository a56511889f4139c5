import Mathlib.Data.List.Basic
import TreeQuery.Proofs.Settings.Effects

/-!
# Layers of settings

Each layer sets some values in a tree, and loading sets those of the files before
those of the overrides, whatever the order of both among each other.  Of the
overrides of one path the last one is set.
-/

namespace TreeQuery

open Setting

namespace Layer

def isOverride : Layer → Bool
  | .override _ _ => true
  | .file _ _ _ => false

end Layer

namespace Settings

/-! ## Folds that can fail -/

def filesOf (layers : List Layer) : List Layer :=
  layers.filter fun layer => !layer.isOverride

def overridesOf (layers : List Layer) : List Layer :=
  layers.filter Layer.isOverride

namespace Library

variable (library : Library)

/-- The values that the layer sets, each behind the steps to it. -/
def piecesOf : Layer → List Piece
  | .file _ none _ => []
  | .file name (some content) _ => (library.pieces name content).getD []
  | .override path value =>
      match library.steps path with
      | .ok steps => [(steps, value)]
      | .error _ => []

/-- Keep what an override sets in place of what an earlier one set there. -/
def keep (kept : List Piece) (layer : Layer) : List Piece :=
  (library.piecesOf layer).foldl (fun kept piece =>
    kept.filter (fun other => other.1 != piece.1) ++ [piece]) kept

/-- What the overrides set. -/
def overrides (layers : List Layer) : List Piece :=
  (overridesOf layers).foldl library.keep []

/-- The tree that the layers make of the defaults. -/
def merged (layers : List Layer) : Setting :=
  library.assignAll
    (library.assignAll defaults ((filesOf layers).flatMap library.piecesOf))
    (library.order (library.overrides layers))

section

variable {library : Library} {layers others front back : List Layer}
  {layer : Layer} {root next : Setting} {kept kept' : List Piece}
  {settings : Settings}

end

end Library

end Settings

end TreeQuery
