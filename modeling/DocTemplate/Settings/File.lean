import DocTemplate.Disk
import DocTemplate.Error
import DocTemplate.Settings.OfTable
import DocTemplate.Toml.Document

/-!
# Settings files

Settings come from a TOML file: the one asked for, else the one named by the environment, else
the one of a fixed name in the working directory if it is there.  A file that is missing or is no
TOML gives the defaults and a warning.  A path that cannot be meant, a file that is no text and one
that is too much to read are errors.
-/

namespace DocTemplate.Settings

/-- What a program finds around it. -/
structure Surroundings where
  working : Location
  home : Location
  /-- The homes of other users. -/
  homes : List (String × Location) := []
  /-- The file named by the environment. -/
  named? : Option String := none
  disk : Disk
  limits : Limits

def fileName : String := "docblockr.toml"

/-- The character that ends a path. -/
def pathEnd : Char := '\x00'

/-- The first text that is not empty: what is asked for, or what the environment names. -/
def given? (w : Surroundings) (path : Option String) : Option String :=
  path.filter (· ≠ "") <|> w.named?.filter (· ≠ "")

/-- The home of a user; the empty name is that of the user who asks. -/
def homeOf (w : Surroundings) (user : String) : Except Error Location :=
  if user = "" then .ok w.home
  else if user.contains pathEnd then .error .nullInPath
  else
    match w.homes.lookup user with
    | some home => .ok home
    | none => .error .unknownHome

/-- The location that a path means. -/
def locationOf (w : Surroundings) (path : String) : Except Error Location :=
  let l := Location.ofText path
  match l.user? with
  | none => .ok l
  | some user => return l.atHome (← homeOf w user)

/-- Where the settings are to be found; none if they are nowhere. -/
def locate (w : Surroundings) (path : Option String) : Except Error (Option Location) :=
  match given? w path with
  | some p => return some (← locationOf w p)
  | none =>
    let l := w.working.child fileName
    match w.disk.find w.working l with
    | .file _ => .ok (some l)
    | _ => .ok none

/-- The settings in the bytes of a file. -/
def ofBytes (limits : Limits) (path : String) (bytes : List UInt8) :
    Except Error (Settings × List Event) :=
  match Utf8.decode? bytes with
  | .error fault => .error (.notText fault)
  | .ok text =>
    match Toml.read limits text with
    | .error .malformed => .ok ({}, [.settingsUnreadable path])
    | .error (.beyond limit) => .error (.beyondLimit limit)
    | .ok table =>
      let (settings, events) := ofTable table
      .ok (settings, .settingsLoaded path :: events)

/-- The settings at a location. -/
def readAt (w : Surroundings) (l : Location) : Except Error (Settings × List Event) :=
  if l.text.contains pathEnd then .error .nullInPath
  else
    match w.disk.find w.working l with
    | .missing => .ok ({}, [.settingsMissing l.text])
    | .folder | .blocked => .ok ({}, [.settingsUnreadable l.text])
    | .file bytes => ofBytes w.limits l.text bytes

/-- Finds and reads the settings. -/
def load (w : Surroundings) (path : Option String) : Except Error (Settings × List Event) := do
  match ← locate w path with
  | none => return ({}, [])
  | some l => readAt w l

end DocTemplate.Settings
