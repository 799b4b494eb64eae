import ApiGateway.App.Session
import Std.Time.DateTime.Timestamp

/-!
# The command line program

Reads the file that the arguments name, runs a session and shows what it printed and logged.
-/

namespace ApiGateway
namespace App

def shownLine (level : Level) : Entry → Option String
  | .note fields => some (String.join fields)
  | .call _ (.record .log r) => if level.shows .info then some (r.line ++ "\n") else none
  | .notice n =>
    if level.shows n.level then some ("[" ++ n.level.name ++ "] " ++ n.text ++ "\n") else none
  | _ => none

def readConfig? (path : String) : IO (Option String) := do
  try
    return some (← IO.FS.readFile path)
  catch _ =>
    return none

end App
end ApiGateway

def main (args : List String) : IO UInt32 := do
  let path := ((ApiGateway.App.Options.parse? args).bind (·.config)).getD ""
  let text ← ApiGateway.App.readConfig? path
  let now ← Std.Time.Timestamp.now
  let outcome := ApiGateway.App.run args (fun p => if p = path then text else none)
    now.toNanosecondsSinceUnixEpoch.toInt
  for entry in outcome.journal do
    IO.print ((ApiGateway.App.shownLine outcome.level entry).getD "")
  IO.eprint outcome.errors
  return outcome.exit.toUInt32
