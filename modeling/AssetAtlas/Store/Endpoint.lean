import AssetAtlas.Fault
import AssetAtlas.Text.Blank

/-!
Where programs are sent: the address of a query service on the web.
-/

namespace AssetAtlas

/-- Whether an address names one of the two schemes of the web, in lower case. -/
def isWebAddress (address : String) : Bool :=
  Text.beginsWith address "http://" || Text.beginsWith address "https://"

structure Endpoint where
  address : String
  isWeb : isWebAddress address

namespace Endpoint

/-- The store at an address, which is taken as it is written. -/
def ofAddress (address : String) : Except Fault Endpoint :=
  if h : isWebAddress address then .ok ⟨address, h⟩
  else .error (.other
    s!"Invalid query endpoint '{address}': expected an http:// or https:// URL")

def isEncrypted (e : Endpoint) : Bool :=
  Text.beginsWith e.address "https://"

/-- Whether a character ends the part of an address that names the host. -/
def endsHost (c : Char) : Bool :=
  c = '/' || c = '?' || c = '#'

def hostAndRest (e : Endpoint) : List Char × List Char :=
  let behindScheme := (e.address.toList.dropWhile (· != ':')).drop 3
  (behindScheme.takeWhile (!endsHost ·), behindScheme.dropWhile (!endsHost ·))

/-- The host of a store, with the number of its service if one is written. -/
def host (e : Endpoint) : String :=
  String.ofList e.hostAndRest.1

/-- What a request asks of the host: the path, which is never empty, with the query. A fragment is
for the reader of an address and is not sent. -/
def target (e : Endpoint) : String :=
  match e.hostAndRest.2.takeWhile (· != '#') with
  | '/' :: rest => String.ofList ('/' :: rest)
  | rest => String.ofList ('/' :: rest)

end Endpoint

end AssetAtlas
