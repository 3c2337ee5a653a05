import SqlBoundary.Session.Output

/-! # Help

The list of commands, with the current values of the switches.
-/

namespace SqlBoundary

namespace Help

/-- Lines with their ends. -/
def block (lines : List String) : Text := lines.flatMap fun line => line.toList ++ ['\n']

def summary : Text :=
  block [
    "You are using sqlsplits, the SQL statement splitter.",
    "Type:  \\? for help with sqlsplits commands",
    "       \\q to quit"]

/-- A line about a switch. -/
def switchLine (settings : Settings) (usage : String) (switch : Switch) : Text :=
  usage.toList ++ " (currently ".toList ++ onOff (settings.isOn switch) ++ ")\n".toList

def splitting (settings : Settings) : Text :=
  block ["Splitting"] ++
    switchLine settings
      "  \\scs [on|off]          standard conforming strings, backslash is plain in '...'"
      .standardStrings ++
    switchLine settings
      "  \\strip [on|off]        remove comments from statements" .stripComments ++
    switchLine settings
      "  \\empty [on|off]        keep statements that are empty or only comments" .keepEmpty ++
    switchLine settings "  \\syntax [on|off]       turn syntax highlighting on or off" .highlight ++
    switchLine settings "  \\color [on|off]        turn color on or off" .color

def inputOutput : Text :=
  block [
    "Input/Output",
    "  \\i FILE                split statements from file",
    "  \\o [FILE]              send all output to file"]

def formatting (settings : Settings) : Text :=
  block [
    "Formatting",
    "  \\f [STRING]            show or set field separator for positions output",
    "  \\pset [NAME [VALUE]]   set output option",
    "                         fieldsep|fieldsep_zero|format|recordsep|recordsep_zero|tuples_only"] ++
    switchLine settings "  \\t [on|off]            show only rows" .tuplesOnly ++
    switchLine settings "  \\timing [on|off]       toggle timing of splits" .timing

def variableCommands : Text :=
  block [
    "Variables",
    "  \\set [NAME [VALUE]]    set internal variable, or list all if no parameters",
    "  \\unset NAME            unset (delete) internal variable"]

def text (settings : Settings) : Text :=
  Text.joinWith ['\n']
    [splitting settings, inputOutput, formatting settings, variableCommands]

end Help

def Session.help (session : Session) (environment : Environment) : Outcome :=
  let t := Help.text session.settings
  session.page environment [] t (.report t)

end SqlBoundary
