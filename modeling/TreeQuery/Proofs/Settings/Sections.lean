import TreeQuery.Proofs.Settings.Layers

/-!
# Sections of the settings

The settings are read off their sections.  A section counts by what is left under
its keys, unless it is a list, whose items are read by their position.
-/

namespace TreeQuery

open Setting

namespace Settings

namespace Key

section

variable {key : Key} {library : Library} {value root : Setting}
  {settings : Settings}

end

end Key

section

variable {library : Library} {key : Key} {found : Option Setting}
  {effects : List Effect} {settings : Settings}

end

end Settings

end TreeQuery
