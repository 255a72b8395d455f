import Waycloak.Computation.PercentEncoding

/-!
# The request paths that carry a lease UID

The controller names a lease to a gateway runtime, and a gateway runtime to an application
adapter, by a URL path. Both clients escape the UID into the path and assign the result to
`URL.Path`, and `URL.String` escapes that field once more; both servers unescape a segment of
the escaped path once. Scheme, host, method and body are left out.

Go strings are bytes. What `net/url` does is modelled as it is documented.
-/

set_option autoImplicit false

namespace Waycloak.Model

open Waycloak.Computation.Percent

/-! ## `net/url` -/

def isUnreserved (c : UInt8) : Bool :=
  48 ≤ c && c ≤ 57 || 65 ≤ c && c ≤ 90 || 97 ≤ c && c ≤ 122 || (ascii "-_.~").contains c

/-- What `url.PathEscape` leaves as it is. -/
def plainInSegment (c : UInt8) : Bool := isUnreserved c || (ascii "$&+:=@").contains c

/-- What `URL.EscapedPath` leaves as it is. -/
def plainInPath (c : UInt8) : Bool := isUnreserved c || (ascii "$&+,/:;=@").contains c

structure URL where
  path : Bytes
  rawPath : Bytes
  rawQuery : Bytes

/-- The raw path is an encoding of some path. -/
def URL.validEncoded (raw : Bytes) : Bool :=
  raw.all fun c => plainInPath c || (ascii "!'()*[]%").contains c

/-- `URL.EscapedPath`. -/
def URL.escapedPath (u : URL) : Bytes :=
  if u.rawPath ≠ [] ∧ URL.validEncoded u.rawPath = true ∧ unescape u.rawPath = some u.path then
    u.rawPath
  else if u.path = ascii "*" then u.path
  else escape plainInPath u.path

/-- Path and query of a parsed URL; the raw path is kept if it is not the default encoding. -/
def URL.parse (text : Bytes) : Option URL :=
  let raw := text.takeWhile (· != 63)
  (unescape raw).map fun path =>
    { path
      rawPath := if escape plainInPath path = raw then [] else raw
      rawQuery := text.drop (raw.length + 1) }

/-! ## Paths of a lease -/

inductive LeaseOperation where
  | reconcile | withdraw
  deriving DecidableEq

/-- SOURCE: portforward/transport.go:30 -/
def runtimeRoot : Bytes := ascii "/port-forward-runtime.waycloak.io/v1/leases/"

/-- SOURCE: portforward/adapter_transport.go:26, qbittorrentadapter/handler.go:28 -/
def adapterRoot : Bytes := ascii "/networking.waycloak.io/adapter/v1/leases/"

def LeaseOperation.tail : LeaseOperation → Bytes
  | .reconcile => []
  | .withdraw => ascii "/withdraw"

def leasePath (root uid : Bytes) (operation : LeaseOperation) : Bytes :=
  root ++ (escape plainInSegment uid ++ operation.tail)

/-- SOURCE: portforward/transport.go:336-342 -/
def runtimePath (uid : Bytes) (operation : LeaseOperation) : Bytes :=
  leasePath runtimeRoot uid operation

/-- SOURCE: portforward/adapter_transport.go:222-228 -/
def adapterPath (uid : Bytes) (operation : LeaseOperation) : Bytes :=
  leasePath adapterRoot uid operation

def segmentUID (segment : Bytes) : Option Bytes :=
  if segment = [] then none
  else (unescape segment).filter fun uid => uid ≠ [] && !uid.contains 47 && uid.length ≤ 128

/-- SOURCE: qbittorrentadapter/handler.go:383-403 -/
def parseLeasePath (root : Bytes) (value : URL) : Option (Bytes × LeaseOperation) :=
  if root.isPrefixOf value.escapedPath = false then none
  else match (value.escapedPath.drop root.length).splitOnP (· == 47) with
    | [segment] => (segmentUID segment).map (·, .reconcile)
    | [segment, operation] =>
      if operation = ascii "withdraw" then (segmentUID segment).map (·, .withdraw) else none
    | _ => none

/-- SOURCE: portforward/transport.go:313-334 -/
def parseRuntimePath (value : URL) : Option (Bytes × LeaseOperation) :=
  if value.rawQuery ≠ [] then none else parseLeasePath runtimeRoot value

/-- SOURCE: qbittorrentadapter/handler.go:383-403 -/
def parsePath (value : URL) : Option (Bytes × LeaseOperation) := parseLeasePath adapterRoot value

/-- The text `URL.String` gives a request for the path, and `http.NewRequest` parses; the request
line has what that URL writes again.
SOURCE: portforward/transport.go:132-134, portforward/adapter_transport.go:178-180 -/
def requestLine (path : Bytes) : Option Bytes :=
  (URL.parse (URL.escapedPath ⟨path, [], []⟩)).map URL.escapedPath

/-- The URL a server sees. -/
def received (path : Bytes) : Option URL := (requestLine path).bind URL.parse

end Waycloak.Model
