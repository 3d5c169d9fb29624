import RouteQuote.CommandLine.Run
import RouteQuote.Http.Message
import RouteQuote.Http.Service
import RouteQuote.Router.Rpc
import Std.Async.DNS
import Std.Async.System
import Std.Async.TCP

namespace RouteQuote

open Std.Async Std.Net

def clock : IO UInt64 := do
  return UInt64.ofNat (← Std.Time.Timestamp.now).toSecondsSinceUnixEpoch.val.toNat

-- The time of a log line, in microseconds.
def timeText : IO String := do
  let time := Std.Time.DateTime.ofTimestampWithZone (← Std.Time.Timestamp.now) .UTC
  return time.format "uuuu-MM-dd'T'HH:mm:ss.SSSSSS" ++ "Z"

-- Everything that arrives until the message is complete or the connection ends.
partial def receive (client : TCP.Socket.Client) (received : ByteArray) : Async ByteArray := do
  match ← client.recv? 65536 with
  | none => return received
  | some more =>
    let received := received ++ more
    if Http.isComplete received.toList then return received else receive client received

def resolve (host : String) (port : UInt16) : Async SocketAddress := do
  let found ← DNS.getAddrInfo host (toString port)
  match found.toList with
  | IPAddr.v4 addr :: _ => return SocketAddress.v4 ⟨addr, port⟩
  | IPAddr.v6 addr :: _ => return SocketAddress.v6 ⟨addr, port⟩
  | [] => throw (IO.userError s!"{host} has no address")

-- Sends a request to a node and waits for the reply.
def send (url : String) (request : Rpc.Request) : IO Rpc.Reply := do
  match Http.locate? url with
  | none => return .unreachable url
  | some (host, port, path) =>
    try
      let message ← Async.block do
        let client ← TCP.Socket.Client.mk
        client.connect (← resolve host port)
        client.send (Http.postText host path (request.message 0).render).toUTF8
        receive client .empty
      match Http.body? message.toList with
      | some body => return .ofMessage (Text.utf8Lossy body)
      | none => return .failure "the node closed the connection"
    catch _ => return .unreachable url

-- What becomes of two questions on their way to a node. After a refusal the other one is not waited for.
def race (first : Task (Except String one.Answer)) (second : Task (Except String two.Answer)) : IO (Joint one two) := do
  let firstBack ← IO.waitAny [first.map fun _ => true, second.map fun _ => false]
  if firstBack then
    match first.get with
    | .error reason => return .firstRefused reason (.error "not waited for")
    | .ok _ => return .ofReplies .firstBack first.get second.get
  else
    match second.get with
    | .error reason => return .secondRefused (.error "not waited for") reason
    | .ok _ => return .ofReplies .secondBack first.get second.get

-- Puts a question to the node behind a URL, in the background.
def ask (url : String) (router : Router) (question : Read) : IO (Task (Except String question.Answer)) := do
  let replied ← IO.asTask (send url (Rpc.request router question))
  return replied.map fun
    | .ok reply => Rpc.answer question reply
    | .error e => .error (toString e)

-- Carries out a plan over the network: its result and what happened.
def carryOut (urls : List String) : Plan α → IO (Except Error α × List Event)
  | .done a => return (.ok a, [])
  | .fail e => return (.error e, [])
  | .note event next => do
    let (result, events) ← carryOut urls next
    return (result, event :: events)
  | .clock next => do
    let now ← clock
    let (result, events) ← carryOut urls (next now)
    return (result, .clocked now :: events)
  | .ask router question next => do
    let reply ← send ((urls[router.link]?).getD "") (Rpc.request router question)
    match Rpc.answer question reply with
    | .ok answer =>
      let (result, events) ← carryOut urls (next answer)
      return (result, .asked router question :: events)
    | .error reason =>
      return (.error (Plan.refusal router question reason),
        [.asked router question, .refused router question reason])
  | .askBoth router one two next => do
    let url := (urls[router.link]?).getD ""
    let first ← ask url router one
    let second ← ask url router two
    match (← race first second).settle router with
    | .ok (first, second) =>
      let (result, events) ← carryOut urls (next first second)
      return (result, .asked router one :: .asked router two :: events)
    | .error (e, events) => return (.error e, events)

def respond (sdk : Sdk) (urls : List String) (message : List UInt8) : IO Http.Response := do
  match Http.requestLine? message with
  | none => return { status := 400 }
  | some (name, target) =>
    match Http.targetPath? target with
    | none => return { status := 400 }
    | some path =>
      let method := Http.Method.ofName name
      let response ← match Http.Task.ofPath sdk method path with
        | .respond response => pure response
        | .carryOut plan => do
          match (← carryOut urls plan).1 with
          | .ok j => pure (.ofJson 200 j)
          | .error e => pure (.ofError (← clock).toNat e)
      return if method = .head then response.withoutBody else response

partial def acceptAll (server : TCP.Socket.Server) (sdk : Sdk) (urls : List String) : IO Unit := do
  let client ← Async.block server.accept
  try
    let message ← Async.block (receiveHead client .empty)
    let response ← respond sdk urls message.toList
    Async.block do
      client.send response.text.toUTF8
      client.shutdown
  catch _ => pure ()
  acceptAll server sdk urls
where
  receiveHead (client : TCP.Socket.Client) (received : ByteArray) : Async ByteArray := do
    if (Http.splitHead received.toList).isSome then return received
    match ← client.recv? 65536 with
    | none => return received
    | some more => receiveHead client (received ++ more)

def printAll (output : CommandLine.Output) : IO UInt32 := do
  output.stdout.forM IO.println
  output.stderr.forM IO.eprintln
  return output.exitCode.toUInt32

def serve (job : CommandLine.Job) (target : String) (urls : List String) : IO UInt32 := do
  match Http.bindAddress target with
  | .error fault => printAll (job.refused fault)
  | .ok (host, port) =>
    let bound ← try
        let server ← TCP.Socket.Server.mk
        server.bind (← Async.block (resolve host port))
        server.listen 128
        pure (Except.ok server)
      catch e => pure (.error (ConfigFault.bind target (toString e)))
    match bound with
    | .error fault => printAll (job.refused fault)
    | .ok server =>
      job.logged.forM IO.println
      acceptAll server job.sdk urls
      return 0

def execute (job : CommandLine.Job) : IO UInt32 := do
  let urls := job.endpoints.map Endpoint.url
  match job.bind? with
  | some target => serve job target urls
  | none =>
    let (result, events) ← carryOut urls job.plan
    printAll (job.output (← timeText) events result)

def readFile? (name : String) : IO (Option (String × String)) := do
  try
    let bytes ← IO.FS.readBinFile name
    return some (name, Text.utf8Lossy bytes.toList)
  catch _ => return none

end RouteQuote

open RouteQuote in
def main (arguments : List String) : IO UInt32 := do
  let env := (← Std.Internal.UV.System.osEnviron).toList
  let assignments ← readFile? ".env"
  let config := (CommandLine.parse true arguments).toOption.bind CommandLine.Invocation.config
  let name := Settings.configPath? config (Settings.environment env assignments.toList)
  let files ← (Settings.candidates (name.getD "config")).filterMapM readFile?
  let directory ← IO.currentDir
  match CommandLine.prepare env (assignments.toList ++ files) directory.toString (← timeText) arguments with
  | .error output => printAll output
  | .ok job => execute job
