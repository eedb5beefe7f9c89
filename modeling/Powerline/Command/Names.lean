import Powerline.Command

/-!
# Names of commands

A table gives commands a name, either one command exactly or a whole kind at once. An exact name
goes before the name of the kind, and of two names for the same command the later one counts.
-/

namespace Powerline

/-- Names for commands, the latest registration first. -/
structure CommandNames where
  exact : List (Command × String)
  /-- Names for every command of the same kind as the one given. -/
  kinds : List (Command × String)
  deriving Repr

namespace CommandNames

/-- A table without names. -/
def empty : CommandNames := ⟨[], []⟩

/-- Names exactly one command. -/
def register (names : CommandNames) (command : Command) (name : String) : CommandNames :=
  { names with exact := (command, name) :: names.exact }

/-- Names a command with any parameter. -/
def registerKind (names : CommandNames) (command : Command) (name : String) : CommandNames :=
  { names with kinds := (command, name) :: names.kinds }

/-- The name of a command, if it has one. -/
def name? (names : CommandNames) (command : Command) : Option String :=
  let exact := names.exact.find? fun (known, _) => known = command
  let kind := names.kinds.find? fun (known, _) => known.sameKind command
  (exact.or kind).map Prod.snd

/-- The name of a command, or its numeric form. -/
def describe (names : CommandNames) (command : Command) : String :=
  (names.name? command).getD command.render

/-- The names that everyone uses. -/
def common : CommandNames where
  exact := [
    (.exitLinking, "Exit Linking Mode"),
    (.getEngine, "Get Engine Version"),
    (.ping, "Ping"),
    (.idRequest, "ID Request"),
    (.statusRequest, "Status Request"),
    (.extendedGetSet, "Extended Get/Set"),
    (.linkDatabase, "Read/Write ALDB")]
  kinds := [
    (.setButtonResponder, "Set-button Pressed (responder)"),
    (.setButtonController, "Set-button Pressed (controller)"),
    (.allLinkSuccess, "All-link Success Report"),
    (.enterLinking, "Enter Linking Mode"),
    (.enterUnlinking, "Enter Unlinking Mode"),
    (.enterLinkingExtended, "Enter Linking Mode (i2cs)"),
    (.enterUnlinkingExtended, "Enter Unlinking Mode (i2cs)"),
    (.lightOn, "Light On"),
    (.lightOnFast, "Light On Fast"),
    (.lightOff, "Light Off"),
    (.lightOffFast, "Light Off Fast"),
    (.brighten, "Brighten"),
    (.dim, "Dim")]

theorem name?_register (names : CommandNames) (command : Command) (name : String) :
    (names.register command name).name? command = some name := by
  simp [register, name?]

theorem name?_register_of_ne (names : CommandNames) {command other : Command} (name : String)
    (different : command ≠ other) :
    (names.register command name).name? other = names.name? other := by
  simp [register, name?, different]

end CommandNames

end Powerline
