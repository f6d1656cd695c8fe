/-
# PartitionedRollout.Health.Endpoint -- health requests over HTTP

A health check is a GET request for `http://`, the address of a replica, and the path of the
health endpoint, put together without anything in between. The result has to be an absolute
URI: an authority up to the first slash, question mark or number sign, then path and query. A
fragment is not sent, and where nothing is left for the path a slash is sent. A URI that
breaks these rules is not sent at all.
-/

namespace PartitionedRollout

/-- A request that can be sent. -/
structure HttpRequest where
  /-- Where to connect: host and port. It is also the value of the host header. -/
  address : String
  /-- The absolute URI of the request line. -/
  target : String
  deriving DecidableEq, Repr

namespace HttpRequest

/-- The name under which requests are made. -/
def userAgent : String := "ordinal-health/0.1"

/-- The request line. -/
def line (r : HttpRequest) : String :=
  s!"GET {r.target} HTTP/1.1"

/-- The header lines, in order of their names. -/
def headers (r : HttpRequest) : List String :=
  [s!"host: {r.address}", s!"user-agent: {userAgent}"]

/-! ## The rules of URIs -/

/-- The characters that end an authority. -/
def endsAuthority (c : Char) : Bool :=
  c == '/' || c == '?' || c == '#'

/-- The characters that may stand in an authority, the percent sign apart. -/
def isAuthorityChar (c : Char) : Bool :=
  c.isAlphanum || "!$&'()*+,-.:;=@[]_~".toList.contains c

/-- What has been seen of an authority. -/
structure Authority where
  /-- The colons since the user information or the brackets. -/
  colons : Nat
  /-- A bracket was opened. -/
  opened : Bool
  /-- A bracket was closed. -/
  closed : Bool
  /-- There was a percent sign since the user information or the brackets. -/
  percent : Bool
  /-- The last character was an at sign. -/
  atSign : Bool

/-- Nothing has been seen yet. -/
def Authority.start : Authority :=
  ⟨0, false, false, false, false⟩

/-- Take one character of an authority. Brackets come once, around a host; colons and percent signs
before an at sign or inside the brackets are forgotten. -/
def Authority.step (a : Authority) (c : Char) : Option Authority :=
  if c = ':' then
    if 8 ≤ a.colons then none else some { a with colons := a.colons + 1, atSign := false }
  else if c = '[' then
    if a.percent || a.opened then none else some { a with opened := true, atSign := false }
  else if c = ']' then
    if !a.opened || a.closed then none
    else some { a with closed := true, colons := 0, percent := false, atSign := false }
  else if c = '@' then some { a with colons := 0, percent := false, atSign := true }
  else if c = '%' then some { a with percent := true, atSign := false }
  else if isAuthorityChar c then some { a with atSign := false }
  else none

/-- The characters form an authority: brackets are closed, at most one colon is left for a port, and
neither an at sign ends it nor a percent sign stands in the host. -/
def isAuthority (s : List Char) : Bool :=
  match s.foldlM Authority.step Authority.start with
  | none => false
  | some a => a.opened == a.closed && a.colons ≤ 1 && !a.atSign && !a.percent && !s.isEmpty

/-- The characters that may stand in a path. -/
def isPathChar (c : Char) : Bool :=
  let n := c.toNat
  n == 0x21 || n == 0x22 || (0x24 ≤ n && n ≤ 0x3B) || n == 0x3D || (0x40 ≤ n && n ≤ 0x5F) ||
    0x61 ≤ n

/-- The characters that may stand in a query. -/
def isQueryChar (c : Char) : Bool :=
  let n := c.toNat
  n == 0x21 || (0x24 ≤ n && n ≤ 0x3B) || n == 0x3D || 0x3F ≤ n

/-- The characters that may stand in the value of a header. -/
def isHeaderChar (c : Char) : Bool :=
  (0x20 ≤ c.toNat && c.toNat < 0x7F) || c == '\t'

/-- The longest URI that is sent, in bytes. -/
def maxLength : Nat := 65534

/-- Path and query as they are sent, if their characters are allowed. -/
def pathAndQuery? (s : List Char) : Option (List Char) :=
  let rest := s.takeWhile (· != '#')
  let path := rest.takeWhile (· != '?')
  let query := rest.dropWhile (· != '?')
  if path.all isPathChar && (query.drop 1).all isQueryChar then
    some ((if path.isEmpty then ['/'] else path) ++ query)
  else none

/-- The request for a path at an address, if it can be sent. -/
def of? (address path : String) : Option HttpRequest :=
  let rest := address.toList ++ path.toList
  let authority := rest.takeWhile fun c => !endsAuthority c
  let length := 7 + address.utf8ByteSize + path.utf8ByteSize
  if isAuthority authority && address.toList.all isHeaderChar && length ≤ maxLength then
    (pathAndQuery? (rest.drop authority.length)).map fun pq =>
      ⟨address, "http://" ++ String.ofList (authority ++ pq)⟩
  else none

end HttpRequest

/-- The result of one health check. -/
inductive ProbeResult where
  /-- The endpoint answered with a success. -/
  | healthy
  /-- The endpoint answered with anything else. -/
  | unhealthy
  /-- There was no answer. -/
  | failed
  deriving DecidableEq, Repr

/-- The result that a status code stands for; without one there was no answer. -/
def ProbeResult.ofStatus : Option UInt16 → ProbeResult
  | none => .failed
  | some code => if 200 ≤ code ∧ code < 300 then .healthy else .unhealthy

end PartitionedRollout
