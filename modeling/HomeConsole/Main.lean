import HomeConsole.Backend.Wire
import HomeConsole.Command.Run
import HomeConsole.Presentation.Draw
import HomeConsole.Session
import HomeConsole.Settings.Environment
import HomeConsole.Terminal.Input
import HomeConsole.Terminal.Output
import Std.Async.DNS
import Std.Async.TCP
import Std.Async.Timer

/-!
# The program

What the other modules describe is done here: files are read and written, connections opened, keys
taken in and pictures written. The terminal is expected to pass keys on as they are pressed, without
showing them; its size is taken from the variables `COLUMNS` and `LINES`.
-/

open HomeConsole

namespace HomeConsole.Program

open Std.Async
open Std.Net

/-! ## Files -/

/-- The bytes of a file that can be read. -/
def readBytes? (path : String) : IO (Option (List UInt8)) := do
  try
    let bytes ← IO.FS.readBinFile path
    return some bytes.toList
  catch _ => return none

/-- The variables that the program was started with. -/
def environment : IO Environment := do
  return Environment.ofBytes ((← readBytes? "/proc/self/environ").getD [])

/-- The first file of variables in the working folder and those above it. -/
def environmentFile : IO (Option String) := do
  let folder ← IO.currentDir
  let depth := (folder.toString.toList.filter (· == '/')).length
  let mut path := ".env"
  for _ in List.range (depth + 1) do
    if let some bytes ← readBytes? path then
      return some (EnvironmentFile.textOf bytes)
    path := "../" ++ path
  return none

/-- What an open file holds; a folder holds nothing that can be read. -/
def settingsEntry (handle : IO.FS.Handle) : IO SettingsEntry := do
  try return .file (← handle.readBinToEnd).toList
  catch _ => return .folder

/-- What is at the place of the settings file. A place where nothing is found counts as missing, and
the attempt to write there shows whether that helps. -/
def settingsHome (path : String) : IO Home := do
  try return .folder (← settingsEntry (← IO.FS.Handle.mk path .read))
  catch error =>
    match error with
    | .permissionDenied .. => return .folder .locked
    | _ => return .folder .missing

/-- Writes the settings file if it has been added. -/
def keepSettings (folder : String) (before after : Home) : IO Unit := do
  if let (none, some bytes) := (before.content?, after.content?) then
    try
      IO.FS.createDirAll (folder ++ "/.domos")
      IO.FS.writeBinFile (folder ++ "/" ++ Home.settingsPath) ⟨bytes.toArray⟩
    catch _ => return ()

/-! ## Connections -/

/-- The addresses of a host. -/
def hostAddresses (host : Host) (port : UInt16) : Async (List SocketAddress) := do
  let v4 (a : IPv4Addr) : SocketAddress := .v4 ⟨a, port⟩
  let v6 (a : IPv6Addr) : SocketAddress := .v6 ⟨a, port⟩
  match host with
  | .v4 n =>
    let part (shift : Nat) : UInt8 := UInt8.ofNat (n / Nat.pow 2 shift)
    return [v4 (.ofParts (part 24) (part 16) (part 8) (part 0))]
  | .v6 pieces =>
    let part (i : Nat) : UInt16 := UInt16.ofNat (pieces.getD i 0)
    return [v6 (.ofParts (part 0) (part 1) (part 2) (part 3) (part 4) (part 5) (part 6) (part 7))]
  | .name text =>
    let found ← DNS.getAddrInfo text (toString port)
    return found.toList.map fun
      | .v4 a => v4 a
      | .v6 a => v6 a

/-- Takes in bytes until the other side ends the connection or breaks it. -/
partial def receive (socket : TCP.Socket.Client) (known : ByteArray) : Async ByteArray := do
  let more ← try socket.recv? 65536 catch _ => pure none
  match more with
  | some bytes => receive socket (known ++ bytes)
  | none => return known

/-- Asks at one address. -/
def ask (url : Url) (address : SocketAddress) : Async Exchange := do
  let socket ← TCP.Socket.Client.mk
  socket.connect address
  socket.send ⟨(Wire.request url).toArray⟩
  return Wire.exchange (← receive socket ByteArray.empty).toList

/-- Asks at the first address that takes the request. -/
def askAny (url : Url) : List SocketAddress → Async Exchange
  | [] => return .silence
  | address :: more => do
    try ask url address
    catch _ => askAny url more

/-- What comes back for a request. Protected connections are not spoken, so nothing comes back over
them. -/
def exchange (url : Url) : Async Exchange := do
  match url.authority with
  | some authority =>
    if ! url.isAskable || url.scheme != "http" then return .silence
    let port := (authority.port <|> Url.schemePort? url.scheme).getD 80
    try askAny url (← hostAddresses authority.host (UInt16.ofNat port))
    catch _ => return .silence
  | none => return .silence

/-- What comes back for a request within a bound of seconds. -/
def exchangeWithin (seconds : Option Nat) (url : Url) : Async Exchange :=
  match seconds with
  | some seconds =>
    Async.race (exchange url) do
      sleep (.ofNat (1000 * seconds))
      return .silence
  | none => exchange url

/-- The answer to a read. -/
def answer (address : Address) (seconds : Option Nat) (endpoint : Endpoint) : Async Answer := do
  match address.endpointUrl endpoint with
  | .ok url => return (address.source (← exchangeWithin seconds url)).answer endpoint
  | .error _ => return (address.source .silence).answer endpoint

/-! ## The console -/

/-- What the running console waits for. -/
inductive Event where
  /-- A byte from the terminal. -/
  | byte (b : UInt8)
  /-- The terminal is gone. -/
  | gone
  /-- The answer to a read, by its place. -/
  | answered (place : Nat) (answer : Answer)
  /-- Nothing but time. -/
  | turn

/-- A console on a terminal. -/
structure Running where
  address : Address
  seconds : Option Nat
  width : Nat
  height : Nat
  session : Session
  /-- An escape byte, until it is known whether more bytes belong to it. -/
  escape : Bool := false
  /-- Bytes that made no key yet. -/
  pending : List UInt8 := []
  /-- How many of the reads have been sent. -/
  sent : Nat := 0
  turn : Nat := 0

/-- Waits for a byte from the terminal. -/
def listen : IO (Task Event) := do
  let input ← IO.getStdin
  let task ← IO.asTask (input.read 1) .dedicated
  return task.map fun
    | .ok bytes => (bytes.toList.head?.map Event.byte).getD .gone
    | .error _ => .gone

/-- Waits for a moment. -/
def wait : IO (Task Event) := do
  let task : Task (Except IO.Error Unit) ← Async.toIO (sleep 100)
  return task.map fun _ => .turn

/-- Sends the reads that have not been sent. -/
def send (running : Running) : IO (Running × List (Task Event)) := do
  let mut tasks := []
  for place in List.range' running.sent (running.session.reads.size - running.sent) do
    if let some read := running.session.reads[place]? then
      if read.state = .running then
        let task : Task (Except IO.Error Answer) ←
          Async.toIO (answer running.address running.seconds read.request.endpoint)
        tasks := tasks ++ [task.map fun
          | .ok answer => .answered place answer
          | .error _ => .turn]
  return ({ running with sent := running.session.reads.size }, tasks)

/-- Draws the console; gives nothing when the drawing has left the screen. -/
def draw (running : Running) : IO (Option Running) := do
  let session := running.session
  let drawing :=
    session.presentation.draw session.console running.width running.height running.turn
  unless drawing.canvas.intact do return none
  let output ← IO.getStdout
  output.putStr (Output.screen (Picture.ofCanvas drawing.canvas) drawing.cursor)
  output.flush
  return some { running with session := { session with presentation := drawing.presentation } }

/-- The exit code of a console whose drawing has left the screen. -/
def overdrawn : UInt32 := 101

/-- Takes bytes in that arrived together; says whether the console is to end. -/
def takeBytes (running : Running) (bytes : List UInt8) : Running × Bool :=
  let (keys, pending) := Input.keys running.pending bytes
  let (session, quits) := running.session.pressAll keys
  ({ running with session, pending, escape := false }, quits)

/-- Takes an event in; says whether the console is to end. An escape byte waits for the byte behind
it, but not for long. -/
def take (running : Running) : Event → Running × Bool
  | .byte b =>
    if running.escape then takeBytes running [Input.escape, b]
    else if b = Input.escape && running.pending.isEmpty then
      ({ running with escape := true }, false)
    else takeBytes running [b]
  | .gone => (running, true)
  | .answered place answer =>
    ({ running with session := (running.session.finish place answer).drain }, false)
  | .turn =>
    let running := { running with turn := running.turn + 1 }
    if running.escape then takeBytes running [Input.escape] else (running, false)

/-- Runs the console until it ends, and gives its exit code. -/
partial def run (running : Running) (keys turn : Task Event) (reads : List (Task Event)) :
    IO UInt32 := do
  let (running, started) ← send running
  let reads := reads ++ started
  let some running ← draw running | return overdrawn
  let event ← IO.waitAny (keys :: turn :: reads)
  let (running, quits) := take running event
  if quits then return 0
  match event with
  | .byte _ | .gone => run running (← listen) turn reads
  | .turn => run running keys (← wait) reads
  | .answered .. =>
    let mut waiting := []
    for task in reads do
      unless ← IO.hasFinished task do waiting := waiting ++ [task]
    run running keys turn waiting

/-- A length that a variable names. -/
def length (environment : Environment) (name : String) (otherwise : Nat) : Nat :=
  ((environment name).bind String.toNat?).getD otherwise

/-- Opens the console, closes it after its end, and gives its exit code. -/
def console (environment : Environment) (settings : Settings) (address : Address) (path : String) :
    IO UInt32 := do
  let output ← IO.getStdout
  output.putStr Output.opening
  let exit ← run
    { address
      seconds := settings.timeoutSeconds
      width := length environment "COLUMNS" 80
      height := length environment "LINES" 24
      session := Session.launch path } (← listen) (← wait) []
  output.putStr Output.closing
  output.flush
  return exit

/-! ## The command line -/

/-- Says what a report says, and gives its exit code. -/
def conclude (report : Report) : IO UInt32 := do
  (← IO.getStdout).putStr report.output
  (← IO.getStderr).putStr report.errors
  return UInt32.ofNat report.exit

/-- What comes back for the request of a dump. -/
def dumpExchange (plan : Plan) : Async Exchange := do
  match plan.aim with
  | .dump address path =>
    match (Plan.dumpEndpoint? path).bind fun endpoint =>
        (address.endpointUrl endpoint).toOption with
    | some url => exchangeWithin plan.settings.timeoutSeconds url
    | none => return .silence
  | _ => return .silence

/-- Does what there is to do. -/
def carryOut (environment : Environment) (plan : Plan) : IO UInt32 := do
  try IO.FS.writeFile plan.settings.logFile "" catch _ => pure ()
  match plan.aim, plan.report? (← (dumpExchange plan).block) with
  | .console address path, _ =>
    (← IO.getStderr).putStr plan.warning
    console environment plan.settings address path
  | _, some report => conclude report
  | _, none => return 1

end HomeConsole.Program

open HomeConsole.Program in
/-- The program. -/
def main (arguments : List String) : IO UInt32 := do
  let environment ← environment
  let folder := (environment "HOME").getD ""
  let home ← settingsHome (folder ++ "/" ++ Home.settingsPath)
  match start arguments ⟨environment, ← environmentFile, home⟩ with
  | .stop report => conclude report
  | .go plan =>
    keepSettings folder home plan.home
    carryOut environment plan
