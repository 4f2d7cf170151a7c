import DocTemplate.Declaration
import DocTemplate.Settings.Value

/-!
# Events

What is worth a line in a log, in the order in which it happens.
-/

namespace DocTemplate

inductive Event where
  /-- A line was cut into tokens. -/
  | tokens (language : String) (count : Nat)
  /-- A declaration was read. -/
  | declaration (language : String) (d : Declaration)
  /-- A value of a setting was refused. -/
  | refused (key : String) (value : Settings.Value)
  | settingsMissing (path : String)
  | settingsUnreadable (path : String)
  | settingsLoaded (path : String)
  /-- A tool ended with an error. -/
  | toolFailed (tool : String)

namespace Event

/-- Whether an event is a warning; the others only help to find faults. -/
def isWarning : Event → Bool
  | .tokens _ _ | .declaration _ _ | .settingsLoaded _ => false
  | .refused _ _ | .settingsMissing _ | .settingsUnreadable _ | .toolFailed _ => true

end Event

end DocTemplate
