import ModelDepot.Endpoint.Host
import ModelDepot.Text.Quoted

/-!
# Addresses of HTTP services

An address is read by the rules of browsers, which forgive much: blanks around it, backslashes for
slashes, any number of slashes in front of the host, dot segments in the path. What remains is
normalised. Its path ends with a slash, so that routes go below it.
-/

namespace ModelDepot

/-- The address of an HTTP service. -/
structure Endpoint where
  /-- The scheme is `https`. -/
  secure : Bool
  /-- Name and password, encoded, with the sign behind them; empty when there are none. -/
  user : String
  host : Endpoint.Host
  /-- None for the port that belongs to the scheme. -/
  port : Option Nat
  /-- The segments of the path, each with a slash behind it. -/
  segments : List String
  query : Option String
  fragment : Option String
  deriving DecidableEq, Repr

namespace Endpoint

/-! ## Parts of a text -/

/-- Blanks and controls at both ends, and tabs and breaks anywhere, say nothing. -/
def cleaned (s : String) : List Char :=
  let isOuter (c : Char) : Bool := c.toNat ≤ 0x20
  let cs := ((s.toList.dropWhile isOuter).reverse.dropWhile isOuter).reverse
  cs.filter fun c => c != '\t' && c != '\n' && c != '\r'

def isSchemeChar (c : Char) : Bool :=
  c.isAlphanum || c == '+' || c == '-' || c == '.'

/-- The scheme in lower case, and the text behind its colon. -/
def splitScheme (cs : List Char) : Option (String × List Char) :=
  match cs with
  | c :: _ =>
    if c.isAlpha then
      match cs.dropWhile isSchemeChar with
      | ':' :: rest => some (String.ofList ((cs.takeWhile isSchemeChar).map Char.toLower), rest)
      | _ => none
    else none
  | [] => none

def isSlash (c : Char) : Bool :=
  c == '/' || c == '\\'

/-- The end of an authority. In known schemes a backslash is a slash. -/
def endsAuthority (known : Bool) (c : Char) : Bool :=
  c == '/' || c == '?' || c == '#' || (known && c == '\\')

/-- An authority split at its last at sign; none in front if there is no sign. -/
def splitUser (cs : List Char) : Option (List Char) × List Char :=
  if cs.contains '@' then
    let host := (cs.reverse.takeWhile (· != '@')).reverse
    (some (cs.take (cs.length - host.length - 1)), host)
  else (none, cs)

/-- Name and password before the at sign. A colon stands between them if there is a password; the
sign stays only if there is either. -/
def userText (cs : List Char) : String :=
  let name := encode userSet (cs.takeWhile (· != ':'))
  let password := encode userSet ((cs.dropWhile (· != ':')).drop 1)
  String.ofList <|
    name ++ (if password.isEmpty then [] else ':' :: password) ++
      (if name.isEmpty && password.isEmpty then [] else ['@'])

/-- Host and port text, split at the first colon outside brackets. -/
def splitPort : Bool → List Char → List Char × Option (List Char)
  | _, [] => ([], none)
  | inside, c :: cs =>
    if c = ':' ∧ !inside then ([], some cs)
    else
      let (host, port) := splitPort (if c = '[' then true else if c = ']' then false else inside) cs
      (c :: host, port)

/-- The digits of a port as a number that fits 16 bits; none for no digits. Behind the digits only
the end may come, or a backslash. -/
def readPort (cs : List Char) : Except Fault (Option Nat) :=
  let digits := cs.takeWhile Char.isDigit
  let port := (ofBase 10 digits).getD 0
  match cs.dropWhile Char.isDigit with
  | [] | '\\' :: _ =>
    if UInt16.size ≤ port then .error .invalidPort
    else .ok (if digits.isEmpty then none else some port)
  | _ => .error .invalidPort

/-- What stands between the slashes in front of the host and the path. -/
structure Authority where
  user : String
  host : Host
  port : Option Nat

/-- Reads an authority. `more` says that something follows it. -/
def readAuthority (known more : Bool) (cs : List Char) : Except Fault Authority := do
  let (before, rest) := splitUser cs
  let user := (before.map userText).getD ""
  if before == some [] && rest.isEmpty && more then .error .emptyHost
  else
    let (hostText, portText) := splitPort false rest
    if known && hostText.isEmpty then .error .emptyHost
    else
      let host ← if known then Host.read hostText else Host.readOpaque hostText
      if hostText.isEmpty && (portText.isSome || !user.isEmpty) then .error .emptyHost
      else return ⟨user, host, ← (portText.map readPort).getD (.ok none)⟩

/-! ## Paths -/

def isDot (segment : String) : Bool :=
  segment.toLower == "." || segment.toLower == "%2e"

def isDoubleDot (segment : String) : Bool :=
  ["..", "%2e%2e", "%2e.", ".%2e"].contains segment.toLower

/-- A letter and a colon or bar: the name of a drive, above which nothing goes. -/
def isDrive (segment : String) : Bool :=
  match segment.toList with
  | [c, d] => c.isAlpha && (d == ':' || d == '|')
  | _ => false

/-- Takes a segment behind those before it, the last one first. -/
def addSegment (before : List String) (segment : String) : List String :=
  if isDoubleDot segment then
    match before with
    | [] => []
    | last :: rest => if isDrive last then before else rest
  else if isDot segment then before
  else segment :: before

/-- The segments of a path behind its first slash. An empty one at the end only says that the path
ends with a slash. -/
def readSegments (cs : List Char) : List String :=
  let texts := (Text.pieces isSlash cs).map fun s => String.ofList (encode pathSet s)
  let texts := if texts.getLast? == some "" then texts.dropLast else texts
  (texts.foldl addSegment []).reverse

/-! ## Addresses -/

/-- The schemes whose addresses are read by the rules for hosts on the network. -/
def knownSchemes : List String := ["http", "https", "ws", "wss", "ftp"]

/-- Query and fragment of an address, from the character that starts them. -/
def splitTail (cs : List Char) : Option (List Char) × Option (List Char) :=
  let query := cs.takeWhile (· != '#')
  let fragment :=
    match cs.dropWhile (· != '#') with
    | _ :: rest => some rest
    | [] => none
  match query with
  | '?' :: q => (some q, fragment)
  | _ => (none, fragment)

/-- Reads an HTTP address behind its scheme. -/
def readHttp (secure : Bool) (cs : List Char) : Except Fault Endpoint := do
  let cs := cs.dropWhile isSlash
  let authority := cs.takeWhile fun c => !endsAuthority true c
  let rest := cs.drop authority.length
  let a ← readAuthority true (!rest.isEmpty) authority
  let path := rest.takeWhile fun c => c != '?' && c != '#'
  let (query, fragment) := splitTail (rest.drop path.length)
  return {
    secure
    user := a.user
    host := a.host
    port := a.port.filter fun p => p != (if secure then 443 else 80)
    segments := readSegments (path.drop 1)
    query := query.map fun q => String.ofList (encode querySet q)
    fragment := fragment.map fun f => String.ofList (encode fragmentSet f) }

/-- Examines an address of another scheme as far as its host and port. -/
def examine (scheme : String) (cs : List Char) : Except Fault Unit := do
  if scheme == "file" then
    match cs with
    | a :: b :: rest =>
      let host := rest.takeWhile fun c => !endsAuthority true c
      if isSlash a && isSlash b && !host.isEmpty && !isDrive (String.ofList host) then
        let _ ← Host.read host
    | _ => return ()
  else
    let known := knownSchemes.contains scheme
    let authority? :=
      match cs with
      | '/' :: '/' :: rest => some rest
      | _ => none
    let text? := if known then some (cs.dropWhile isSlash) else authority?
    match text? with
    | none => return ()
    | some rest =>
      let authority := rest.takeWhile fun c => !endsAuthority known c
      let _ ← readAuthority known (authority.length < rest.length) authority

/-- Reads an address. It must be one of an HTTP service; an address of another kind is refused for
what is wrong with it, or else for its scheme. -/
def read (s : String) : Except Fault Endpoint :=
  match splitScheme (cleaned s) with
  | none => .error .noScheme
  | some ("http", rest) => readHttp false rest
  | some ("https", rest) => readHttp true rest
  | some (scheme, rest) =>
    match examine scheme rest with
    | .error e => .error e
    | .ok () => .error (.unsupportedScheme scheme)

def path (e : Endpoint) : String :=
  "/" ++ String.join (e.segments.map (· ++ "/"))

def text (e : Endpoint) : String :=
  (if e.secure then "https://" else "http://") ++ e.user ++ e.host.text ++
    (e.port.elim "" fun p => ":" ++ toString p) ++ e.path ++
    (e.query.elim "" ("?" ++ ·)) ++ (e.fragment.elim "" ("#" ++ ·))

def invalidMessage (endpoint : String) (fault : Fault) : String :=
  "invalid endpoint " ++ Text.quote endpoint ++ ": " ++ fault.message

end Endpoint

end ModelDepot
