import Std.Time.DateTime.Timestamp
import Storefront.CommandLine.Run

/-! # The program

Reads the environment and the command line, carries the command out, and writes what comes of it.
A command on a cart acts on a shop of its own, which is open as long as the program runs.  The
server reads requests for documents, each a JSON text on a line of its own, and writes an answer to
each. -/

namespace Storefront.Program

/-- The settings that the environment determines. -/
def readSettings : IO (Except Fault Settings) := do
  let found ← Settings.vars.filterMapM fun name => do
    return (← IO.getEnv name).map (name, ·)
  return Settings.ofEnvironment (Assoc.get? found)

/-- The time, in seconds since the start of 1970. -/
def clock : IO Int := do
  return (← Std.Time.Timestamp.now).toSecondsSinceUnixEpoch.val

/-- Opens a shop and the way to it. -/
def openNetwork (settings : Settings) : IO Network := do
  let supply := Supply.fresh (← clock) (← IO.rand 0 1000000000) []
  let shop := Shop.new settings.context supply
  return Network.new shop (Router.standard (some Factory.standard)) .inProcess settings.level

/-- A response as a line. -/
def responseLine : Except Fault Server.Response → String
  | .ok (.json _ v) => Json.write .line v
  | .ok (.text _ s) => s
  | .error fault => Json.write .line (Server.errorBody fault.message)

/-- Answers requests for documents until the input ends. -/
partial def answerLines (maxDepth : Nat) (router : Router) (input output : IO.FS.Stream)
    (shop : Shop) : IO Unit := do
  let line ← input.getLine
  if line.isEmpty then return
  let shop := { shop with supply := { shop.supply with now := ← clock } }
  let (response, shop) := Server.answerBody maxDepth router (.text line) shop
  output.putStrLn (responseLine response)
  output.flush
  answerLines maxDepth router input output shop

/-- Writes what comes of a command, and serves if that was asked for. -/
def finish (outcome : CommandLine.Outcome) (network : Network) : IO UInt32 := do
  outcome.output.forM IO.println
  outcome.errors.forM IO.eprintln
  if outcome.serve.isSome then
    answerLines network.depths.body network.router (← IO.getStdin) (← IO.getStdout) network.shop
  return outcome.code.toUInt32

/-- Reports a fault that nothing else reports. -/
def report (fault : Fault) : IO UInt32 := do
  IO.eprintln (CommandLine.errorLine fault.message)
  return 1

/-- Carries out a command line. -/
def run (args : List String) : IO UInt32 := do
  match ← readSettings with
  | .error fault => report fault
  | .ok settings =>
    let network ← openNetwork settings
    match CommandLine.Command.read (args.map .text) with
    | .error refusal =>
      match refusal.outcome with
      | .ok outcome => finish outcome network
      | .error fault => report fault
    | .ok command =>
      match CommandLine.run settings command (Service.new network true) with
      | (.ok outcome, service) => finish outcome service.client.network
      | (.error fault, _) => report fault

end Storefront.Program

/-- The program, called with a command line. -/
def main (args : List String) : IO UInt32 := Storefront.Program.run args
