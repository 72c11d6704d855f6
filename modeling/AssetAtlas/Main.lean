import AssetAtlas.CommandLine.Run
import AssetAtlas.Store.Transfer
import Std.Async.DNS
import Std.Async.TCP
import Std.Async.Timer
import Std.Time.DateTime

/-!
The program on a machine: its files, its streams, its clock and its network as the surroundings in
which the program runs.
-/

namespace AssetAtlas.Machine

/-- The refusal with a code. Some parts of the system report codes with a negative sign. -/
def refusal (code : UInt32) (words : String) : FileFault :=
  .refused code.toInt32.toInt.natAbs words.capitalize

def fileFault : IO.Error → FileFault
  | .alreadyExists _ code words | .noFileOrDirectory _ code words | .interrupted _ code words
  | .invalidArgument _ code words | .permissionDenied _ code words
  | .resourceExhausted _ code words | .inappropriateType _ code words | .noSuchThing _ code words
  | .otherError code words | .resourceBusy code words | .resourceVanished code words
  | .unsupportedOperation code words | .hardwareFault code words
  | .unsatisfiedConstraints code words | .illegalOperation code words | .protocolError code words
  | .timeExpired code words => refusal code words
  | fault => .refused 0 (toString fault)

def attempt {α : Type} (act : IO α) : IO (Except FileFault α) := do
  return (← act.toBaseIO).mapError fileFault

/-- What is at a path; links are followed. -/
def follow (path : String) : IO (Except FileFault FileKind) := do
  match ← attempt (IO.FS.readBinFile path) with
  | .ok content => return .ok (.file content.size)
  | .error fault =>
    return if fault = .isDirectory then .ok .directory else .error fault

/-- Whether a path leads to another place than the one under its last name in its directory. -/
def isLink (path : String) : IO Bool := do
  let some name := (Path.segments path).getLast? | return false
  if Path.isIdle name || name = ".." then return false
  let parent := if (Path.parent path).isEmpty then "." else Path.parent path
  match ← (IO.FS.realPath parent).toBaseIO, ← (IO.FS.realPath path).toBaseIO with
  | .ok directory, .ok place =>
    return Path.names (toString place) != Path.names (toString directory) ++ [name]
  | _, _ => return false

/-- Writes a file. A path that leads nowhere may still be that of a link, and so the file has to be
a new one then. -/
def write (path text : String) : IO Unit := do
  match ← (IO.FS.realPath path).toBaseIO with
  | .ok _ => IO.FS.writeFile path text
  | .error _ => (← IO.FS.Handle.mk path .writeNew).putStr text

def files : FileSystem IO where
  look path := do
    if ← isLink path then return .ok .link
    else follow path
  follow
  read path := attempt (IO.FS.readBinFile path)
  write path text := attempt (write path text)

def console : Console IO where
  output text := do
    let stream ← IO.getStdout
    stream.putStr text
    stream.flush
  note text := do
    let stream ← IO.getStderr
    stream.putStr text
    stream.flush

def now : IO Instant := do
  let t ← Std.Time.Timestamp.now
  let elapsed := t.toNanosecondsSinceUnixEpoch.val
  return { seconds := Int.fdiv elapsed 1000000000, nanoseconds := (elapsed.fmod 1000000000).toNat }

/-- All bytes that arrive on a connection until the other side closes it. -/
partial def receiveAll (socket : Std.Async.TCP.Socket.Client) (received : ByteArray) :
    Std.Async.Async ByteArray := do
  match ← socket.recv? 65536 with
  | none => return received
  | some bytes => receiveAll socket (received ++ bytes)

def transfer (r : Request) (address : Std.Net.IPAddr) (service : UInt16) :
    Std.Async.Async Exchange := do
  let socket ← Std.Async.TCP.Socket.Client.mk
  socket.connect <| match address with
    | .v4 host => .v4 ⟨host, service⟩
    | .v6 host => .v6 ⟨host, service⟩
  socket.send r.text.toUTF8
  return .ofBytes (← receiveAll socket .empty).toList

def connect (r : Request) : Std.Async.Async Exchange := do
  let (host, service) := r.hostAndService
  let addresses ← Std.Async.DNS.getAddrInfo host (toString service)
  match addresses[0]? with
  | some address => transfer r address service.toUInt16
  | none => return .dropped s!"no address is known for {host}"

/-- Sends a request in the time that is granted to it. Connections are not encrypted here, and so a
store that insists on it is reached through a gateway only. -/
def send (r : Request) : IO Exchange := do
  if r.isEncrypted then return .dropped "encrypted connections are not supported"
  let limit : Std.Async.Async Exchange := do
    Std.Async.sleep ⟨r.timeout * 1000⟩
    return .dropped "the operation timed out"
  match ← (Std.Async.Async.race (connect r) limit).block.toBaseIO with
  | .ok exchange => return exchange
  | .error fault => return .dropped (toString fault)

def shell : Shell IO where
  files
  console
  send
  now

end AssetAtlas.Machine

/-- Runs the program; the answer is the status with which the process ends. -/
def main (words : List String) : IO UInt32 := do
  return (← AssetAtlas.run AssetAtlas.Machine.shell words).code.toUInt32
