import AssetAtlas.Identity
import AssetAtlas.Json.Printer
import AssetAtlas.Store.Endpoint
import AssetAtlas.Store.Response

/-!
The client of a store: what it sends for a program. A program is sent once, with the token of the
client if it has one, and never if it is blank.
-/

namespace AssetAtlas

def standardTimeout : Nat := 30

def userAgent : String := s!"{programName}/{programVersion}"

def contentType : String := "application/json"

structure Request where
  isEncrypted : Bool
  host : String
  target : String
  /-- The credentials, in the form in which they are sent. -/
  authorization : Option String
  program : String
  /-- How many seconds to wait for the response. -/
  timeout : Nat

namespace Request

def line (r : Request) : String :=
  s!"POST {r.target} HTTP/1.1"

/-- The value in the body of a request: a program without parameters. -/
def content (r : Request) : Json :=
  .object [("query", .string r.program), ("params", .object [])]

def body (r : Request) : String :=
  r.content.compact

end Request

structure Client where
  endpoint : Endpoint
  token : Option String := none
  timeout : Nat := standardTimeout

namespace Client

/-- The client of the store at an address; a blank token is no token. -/
def new (address : String) (token : Option String) (timeout : Nat) : Except Fault Client := do
  let endpoint ← Endpoint.ofAddress address
  return { endpoint, token := token.filter fun t => !(Text.trim t).isEmpty, timeout }

def request (c : Client) (program : String) : Except Fault Request :=
  if (Text.trim program).isEmpty then .error (.uncompilable "refusing to send an empty program")
  else .ok {
    isEncrypted := c.endpoint.isEncrypted
    host := c.endpoint.host
    target := c.endpoint.target
    authorization := c.token.map ("Bearer " ++ ·)
    program
    timeout := c.timeout }

end Client

end AssetAtlas
