import TreeQuery.CommandLine.Run
import TreeQuery.Proofs.Settings.Overrides
import TreeQuery.Proofs.Settings.Sections
import TreeQuery.Proofs.Value.RoundTrip

/-!
# Precedence of layers

Each field of the settings is what the last override of its key gives, or else
the last file that gives it something, or else the default.
-/

namespace TreeQuery

open Unicode Setting

namespace Settings

namespace Key

/-- The effects of a layer on the key. -/
def effectsOf (key : Key) (library : Library) (layer : Layer) : List Effect :=
  (library.piecesOf layer).flatMap key.effects

/-- The effects of all layers on the key: those of the files in their order, and
behind them the last override. -/
def effectsIn (key : Key) (library : Library) (layers : List Layer) :
    List Effect :=
  (filesOf layers).flatMap (key.effectsOf library) ++
    (key.override? layers).toList.map (.given [])

/-- What all layers leave under the key. -/
def left (key : Key) (library : Library) (layers : List Layer) : Option Setting :=
  library.left key (key.effectsIn library layers)

end Key

section

variable {library : Library} (lawful : library.Lawful) {key : Key}
  {layers others front back : List Layer} {layer file : Layer} {value : Setting}
  {before : List Effect} {settings : Settings}

include lawful

end

end Settings

/-! ## Options of a command line -/

namespace Command

end Command

namespace CommandLine

variable {library : Settings.Library} {files : Files} {invocation : Invocation}
  {settings : Settings} {arguments : Arguments}

end CommandLine

open Settings

end TreeQuery
