import MarketBars.Http.Host

/-!
# Web addresses

A web address names a scheme, a host, and a path on that host; a query and a fragment may follow. A
number behind the host can name a service of it. An address has many written forms and a usual one, in
which letters that may have either case are small, the service that is usual for the scheme is left out,
the steps of the path lead only downwards, and what a part cannot hold is percent-encoded.
-/

namespace MarketBars

inductive WebScheme where
  | http
  | https
  deriving DecidableEq, Repr

namespace WebScheme

def name : WebScheme → String
  | http => "http"
  | https => "https"

/-- The service that a scheme uses when none is written. -/
def usualService : WebScheme → Nat
  | http => 80
  | https => 443

/-- The scheme of a name, in letters of either case. -/
def ofName? (cs : List Char) : Option WebScheme :=
  [http, https].find? fun s => s.name.toList == cs.map Char.toLower

end WebScheme

structure WebAddress where
  scheme : WebScheme
  host : WebHost
  /-- The number of a service that is not the usual one. -/
  service? : Option Nat
  path : String
  query? : Option String
  /-- A place in what is found at the address, which a server is not told. -/
  fragment? : Option String
  deriving DecidableEq, Repr

namespace WebPath

/-- The segment leads nowhere: it is a point. -/
def isHere (segment : String) : Bool :=
  [".", "%2e"].contains segment.toLower

/-- The segment leads one step back: it is two points. -/
def isBack (segment : String) : Bool :=
  ["..", ".%2e", "%2e.", "%2e%2e"].contains segment.toLower

/-- The segment is the name of a drive: a letter and a colon or a bar. No step leads back from it. -/
def isDrive (segment : String) : Bool :=
  match segment.toList with
  | [c, d] => c.isAlpha && (d == ':' || d == '|')
  | _ => false

/-- Takes a step from a place, which is given by the segments that lead to it, the last one first. -/
def step (place : List String) (segment : String) : List String :=
  if isBack segment then
    match place with
    | last :: before => if isDrive last then place else before
    | [] => []
  else if isHere segment then place
  else segment :: place

/-- The path of the segments between slashes. The last segment is not followed by a slash. -/
def ofSegments (segments : List String) : String :=
  let last := segments.getLast?.getD ""
  let place := segments.dropLast.foldl step []
  let place := if isBack last then step place last else place
  "/" ++ String.join (place.reverse.map (· ++ "/")) ++ (if isBack last || isHere last then "" else last)

end WebPath

namespace WebAddress

def origin (a : WebAddress) : String :=
  a.scheme.name ++ "://" ++ a.host.text ++ (a.service?.elim "" fun n => ":" ++ Nat.repr n)

def text (a : WebAddress) : String :=
  a.origin ++ a.path ++ (a.query?.elim "" ("?" ++ ·)) ++ (a.fragment?.elim "" ("#" ++ ·))

/-- A character that is left out of an address wherever it stands. -/
def isSkipped (c : Char) : Bool := c == '\t' || c == '\n' || c == '\r'

/-- A character that is left out at the ends of an address. -/
def isMargin (c : Char) : Bool := decide (c.toNat ≤ 32)

def isSlash (c : Char) : Bool := c == '/' || c == '\\'

def significant (s : String) : List Char :=
  let cs := (s.toList.dropWhile isMargin).reverse.dropWhile isMargin
  cs.reverse.filter fun c => !isSkipped c

/-- The number of a service, which has at most sixteen bits. No digits name no service. -/
def serviceOf? (scheme : WebScheme) (digits : List Char) : Option (Option Nat) :=
  let n := Text.numberInBase 10 digits
  if digits.all Char.isDigit ∧ n < twoTo 16 then
    some (if digits.isEmpty || n == scheme.usualService then none else some n)
  else none

/-- The text of a host, and what follows it: it ends at the first colon that is not between brackets. -/
def cutHost (inBrackets : Bool) : List Char → List Char × List Char
  | [] => ([], [])
  | c :: rest =>
    if c = ':' ∧ !inBrackets then ([], c :: rest)
    else
      let (host, after) := cutHost (if c = '[' then true else if c = ']' then false else inBrackets) rest
      (c :: host, after)

/-- The host and the service of a text, after a name and a password that are not kept. -/
def located? (scheme : WebScheme) (cs : List Char) : Option (WebHost × Option Nat) := do
  let (host, after) := cutHost false ((Text.pieces (· == '@') cs).getLast?.getD [])
  let host ← WebHost.ofText? host
  let service ← serviceOf? scheme (after.drop 1)
  pure (host, service)

def segments (cs : List Char) : List String :=
  let cs := if cs.head?.any isSlash then cs.drop 1 else cs
  (Text.pieces isSlash cs).map fun p => String.ofList (Percent.encode Percent.isPathReserved p)

/-- The address of a text. The text has a scheme of the web and a host. -/
def ofText? (s : String) : Option WebAddress := do
  let (cs, fragment?) := Text.cutAt (· == '#') (significant s)
  let (cs, query?) := Text.cutAt (· == '?') cs
  let (scheme, rest) := Text.cutAt (· == ':') cs
  let scheme ← WebScheme.ofName? scheme
  let rest := (← rest).dropWhile isSlash
  let (host, service?) ← located? scheme (rest.takeWhile fun c => !isSlash c)
  pure {
    scheme
    host
    service?
    path := WebPath.ofSegments (segments (rest.dropWhile fun c => !isSlash c))
    query? := query?.map fun q => String.ofList (Percent.encode Percent.isQueryReserved q)
    fragment? := fragment?.map fun f => String.ofList (Percent.encode Percent.isFragmentReserved f) }

end WebAddress

end MarketBars
