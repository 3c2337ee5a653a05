import SqlBoundary.Text.Basic

/-! # Usage

The summary of the flags and their descriptions.
-/

namespace SqlBoundary.Usage

def summary : Text :=
  "usage: sqlsplits [-h] [-c COMMAND] [-f FILE] [-o OUTPUT] [-q] [-X] [-A]
                 [--csv] [--count] [-t] [-F FIELD_SEPARATOR]
                 [-R RECORD_SEPARATOR] [-z] [-0] [--strip-comments]
                 [--keep-empty] [--no-standard-conforming-strings] [-v]
                 [--set NAME=VALUE] [-V]
"

def description : Text :=
  "
Split SQL text into statements at the semicolons that separate them.

options:
  -h, --help            show this help message and exit
  -c COMMAND, --command COMMAND
                        split only this text, then exit
  -f FILE, --file FILE  split statements from file, then exit
  -o OUTPUT, --output OUTPUT
                        send output to file
  -q, --quiet           run quietly (no messages, only output)
  -X, --no-sqlsplitsrc  do not read startup file (~/.sqlsplitsrc)
  -A, --no-align        write split positions instead of statements
  --csv                 CSV output mode
  --count               only write the number of statements
  -t, --tuples-only     print rows only
  -F FIELD_SEPARATOR, --field-separator FIELD_SEPARATOR
                        field separator for positions output (default: \"|\")
  -R RECORD_SEPARATOR, --record-separator RECORD_SEPARATOR
                        record separator (default: newline)
  -z, --field-separator-zero
                        set field separator to zero byte
  -0, --record-separator-zero
                        set record separator to zero byte
  --strip-comments      remove comments from statements
  --keep-empty          keep statements that are empty or only comments
  --no-standard-conforming-strings
                        treat backslash as an escape in ordinary '...' strings
  -v, --verbose         log debugging information to stderr
  --set NAME=VALUE      set variable NAME to VALUE
  -V, --version         output version information, then exit
"

def help : Text := summary ++ description

end SqlBoundary.Usage
