import RowMapper.Demo
/-!
The command line: the demonstration with the settings in the working directory and in the
environment.
-/

set_option autoImplicit false

namespace RowMapper.CommandLine

def settingsFile : String := "squall.toml"

def environment : IO (List (String × String)) := do
  let listed ← (IO.FS.readBinFile "/proc/self/environ").toBaseIO
  let text := match listed with
    | .ok bytes => Text.decodeLossy bytes.toList
    | .error _ => ""
  return (Text.fields '\x00' text.toList).filterMap fun line =>
    (Text.cut '=' line).map fun (name, value) => (String.ofList name, String.ofList value)

def settingsDocument : IO (Option String) := do
  match ← (IO.FS.readBinFile settingsFile).toBaseIO with
  | .ok bytes => return some (Text.decodeLossy bytes.toList)
  | .error _ => return none

end RowMapper.CommandLine

open RowMapper CommandLine in
def main : IO UInt32 := do
  let (lines, failure) := Demo.run (← settingsDocument) (← environment)
  for line in lines do IO.println line
  match failure with
  | none => return 0
  | some e =>
    IO.eprintln e.message
    return 1
